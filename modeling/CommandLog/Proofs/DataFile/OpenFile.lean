import CommandLog.Storage
import Mathlib.Tactic.Common

/-!
# The file that is open, and the file under the path

What a path means is decided by the names that are there and, for a relative path, by the working
directory; the bytes of the files have no part in it (`FileSystem.resolve_congr`,
`FileSystem.openForReading_congr`).

A data file appends to the file that it has opened, and is read by its path.  Right after the opening
both are the same file: `FileSystem.openForReading_of_openForWriting`.  For a file that was there
before this is plain; a new one is found again because a new name at a free place changes no other
place, so that the path leads where it led before.

`HostedFile.Holds` says that it is still so, and which bytes the file has.  Appending keeps it, with
the bytes added at the end: `HostedFile.Holds.append`.
-/

namespace CommandLog

namespace FileSystem

variable {fs other : FileSystem} {location : Location} {path : Path}

/-- The bytes of every file that is somewhere are kept. -/
def WellFormed (fs : FileSystem) : Prop :=
  ∀ location number, fs.node? location = some (.file number) → number < fs.files.length

lemma wellFormed_of_nodes
    (h : ∀ entry ∈ fs.nodes, ∀ number, entry.2 = .file number → number < fs.files.length) :
    fs.WellFormed := by
  intro location number hnode
  unfold node? at hnode
  split at hnode
  · cases hnode
  · obtain ⟨before, after, hnodes, -⟩ := List.lookup_eq_some_iff.1 hnode
    refine h (location, .file number) ?_ number rfl
    rw [hnodes]
    exact List.mem_append_right before List.mem_cons_self

lemma wellFormed_ofDirectories (directories : List Location) (working : Location) :
    (ofDirectories directories working).WellFormed := by
  apply wellFormed_of_nodes
  intro entry hentry number hfile
  obtain ⟨_, -, rfl⟩ := List.mem_map.1 hentry
  cases hfile

/-! ## Where a path leads -/

/-- A path leads to the same place wherever the directories on its way are. -/
lemma follow_of_find
    (hfind : ∀ location, fs.find location = .ok (some .directory) →
      other.find location = .ok (some .directory))
    {current : Location} {names : List String} {place : Place}
    (h : fs.follow current names = .ok place) : other.follow current names = .ok place := by
  induction names generalizing current with
  | nil => exact h
  | cons name rest ih =>
    rw [follow] at h ⊢
    by_cases hdot : name = "."
    · rw [if_pos hdot] at h ⊢
      exact ih h
    · rw [if_neg hdot] at h ⊢
      by_cases hdots : name = ".."
      · rw [if_pos hdots] at h ⊢
        exact ih h
      · rw [if_neg hdots] at h ⊢
        by_cases hlast : rest = []
        · rw [if_pos hlast] at h ⊢
          exact h
        · -- on the way there must be a directory
          rw [if_neg hlast] at h ⊢
          rcases hnode : fs.find (current ++ [name]) with fault | _ | _ | number
          · rw [hnode] at h
            cases h
          · rw [hnode] at h
            cases h
          · rw [hnode] at h
            rw [hfind _ hnode]
            exact ih h
          · rw [hnode] at h
            cases h

lemma resolve_of_find {place : Place} (h : fs.resolve path = .ok place)
    (hworking : other.working = fs.working)
    (hfind : ∀ location, fs.find location = .ok (some .directory) →
      other.find location = .ok (some .directory)) :
    other.resolve path = .ok place := by
  unfold resolve at h ⊢
  cases hcheck : path.check with
  | error fault =>
    rw [hcheck] at h
    cases h
  | ok checked =>
    rw [hcheck] at h
    simp only [bind, Except.bind] at h ⊢
    split
    · next habsolute =>
      rw [if_pos habsolute] at h
      exact follow_of_find hfind h
    · next habsolute =>
      rw [if_neg habsolute] at h
      split
      · next hnames =>
        rw [if_pos hnames] at h
        cases h
      · next hnames =>
        rw [if_neg hnames] at h
        rw [hworking]
        exact follow_of_find hfind h

lemma find_congr (h : other.nodes = fs.nodes) (location : Location) :
    other.find location = fs.find location := by
  simp only [find, node?, h]

lemma follow_congr (h : other.nodes = fs.nodes) (current : Location) (names : List String) :
    other.follow current names = fs.follow current names := by
  induction names generalizing current with
  | nil => rw [follow, follow]
  | cons name rest ih => simp only [follow, find_congr h, ih]

lemma resolve_congr (hnodes : other.nodes = fs.nodes) (hworking : other.working = fs.working)
    (path : Path) : other.resolve path = fs.resolve path := by
  simp only [resolve, follow_congr hnodes, hworking]

/-- The same names, reached in the same way, are the same files. -/
lemma openForReading_congr (hnodes : other.nodes = fs.nodes)
    (hresolve : other.resolve path = fs.resolve path) :
    other.openForReading path = fs.openForReading path := by
  simp only [openForReading, hresolve, find_congr hnodes]

/-- Reading by a path finds the file at the place to which the path leads. -/
lemma openForReading_eq_file_iff {number : Nat} :
    fs.openForReading path = .ok (.file number) ↔
      ∃ location, fs.resolve path = .ok (.entry location) ∧
        fs.find location = .ok (some (.file number)) ∧ path.endsInSlash = false := by
  constructor
  · intro h
    unfold openForReading at h
    simp only [bind, Except.bind] at h
    split at h
    · cases h
    · next place hresolve =>
      split at h
      · cases h
      · next location =>
        split at h
        · cases h
        · next node hfind =>
          split at h
          · cases h
          · cases h
          · split at h
            · cases h
            · next hslash =>
              cases h
              exact ⟨location, hresolve, hfind, Bool.eq_false_iff.2 hslash⟩
  · rintro ⟨location, hresolve, hfind, hslash⟩
    simp only [openForReading, bind, Except.bind, hresolve, hfind, hslash, Bool.false_eq_true,
      if_false]

/-! ## New files -/

lemma find_eq_ok {node : Option Node} (h : fs.find location = .ok node) :
    (Utf8.encode (location.getLast?.getD "")).length ≤ nameLimit ∧ fs.node? location = node := by
  unfold find at h
  split at h
  · cases h
  · next hlimit => exact ⟨Nat.le_of_not_lt hlimit, Except.ok.inj h⟩

lemma find_of_node? {node : Option Node} (hlimit : (Utf8.encode (location.getLast?.getD "")).length
    ≤ nameLimit) (h : fs.node? location = node) : fs.find location = .ok node := by
  rw [find, if_neg (Nat.not_lt_of_le hlimit), h]

/-- A new name changes no place where something is. -/
lemma find_of_nodes_append {node : Node} {there : Location} {new : List (Location × Node)}
    (hnodes : other.nodes = fs.nodes ++ new) (h : fs.find there = .ok (some node)) :
    other.find there = .ok (some node) := by
  obtain ⟨hlimit, hnode⟩ := find_eq_ok h
  apply find_of_node? hlimit
  unfold node? at hnode ⊢
  split
  · next hroot =>
    rw [if_pos hroot] at hnode
    exact hnode
  · next hroot =>
    rw [if_neg hroot] at hnode
    rw [hnodes, List.lookup_append, hnode, Option.some_or]

/-- At a free place, the new file is found. -/
lemma find_makeFile_of_none (h : fs.find location = .ok none) :
    (fs.makeFile location).1.find location = .ok (some (.file fs.files.length)) := by
  obtain ⟨hlimit, hnode⟩ := find_eq_ok h
  apply find_of_node? hlimit
  unfold node? at hnode ⊢
  split
  · next hroot =>
    rw [if_pos hroot] at hnode
    cases hnode
  · next hroot =>
    rw [if_neg hroot] at hnode
    rw [makeFile, List.lookup_append, hnode, Option.none_or]
    simp

/-- To open for writing finds the file that is there, or makes one at a free place. -/
lemma openForWriting_eq_ok {host : FileSystem} {number : Nat}
    (h : fs.openForWriting path = .ok (host, number)) :
    ∃ location, fs.resolve path = .ok (.entry location) ∧ path.endsInSlash = false ∧
      (fs.find location = .ok (some (.file number)) ∧ host = fs ∨
        fs.find location = .ok none ∧ fs.makeFile location = (host, number)) := by
  unfold openForWriting at h
  simp only [bind, Except.bind] at h
  split at h
  · cases h
  · next place hresolve =>
    split at h
    · cases h
    · next location =>
      split at h
      · cases h
      · next hslash =>
        refine ⟨location, hresolve, Bool.eq_false_iff.2 hslash, ?_⟩
        split at h
        · cases h
        · next node hfind =>
          split at h
          · cases h
          · cases h
            exact .inl ⟨hfind, rfl⟩
          · exact .inr ⟨hfind, Except.ok.inj h⟩

/-- A file that is opened for writing is the one that is read under the same path then. -/
lemma openForReading_of_openForWriting {host : FileSystem} {number : Nat} (hfs : fs.WellFormed)
    (h : fs.openForWriting path = .ok (host, number)) :
    host.openForReading path = .ok (.file number) ∧ number < host.files.length := by
  obtain ⟨location, hresolve, hslash, ⟨hfind, rfl⟩ | ⟨hfree, hmade⟩⟩ := openForWriting_eq_ok h
  · refine ⟨openForReading_eq_file_iff.2 ⟨location, hresolve, hfind, hslash⟩, ?_⟩
    exact hfs location number (find_eq_ok hfind).2
  · cases hmade
    refine ⟨openForReading_eq_file_iff.2
      ⟨location, ?_, find_makeFile_of_none hfree, hslash⟩, ?_⟩
    · exact resolve_of_find hresolve rfl fun _ hthere => find_of_nodes_append rfl hthere
    · show fs.files.length < (fs.files ++ [Packed.empty]).length
      rw [List.length_append, List.length_singleton]
      exact Nat.lt_succ_self _

/-- A file that was opened for writing holds what was under its path before, or nothing if nothing
was there. -/
lemma bytes_of_openForWriting {host : FileSystem}
    (h : fs.openForWriting path = .ok (host, number)) :
    host.bytes number = (fs.contents? path).getD [] := by
  obtain ⟨location, hresolve, hslash, ⟨hfind, rfl⟩ | ⟨hfree, hmade⟩⟩ := openForWriting_eq_ok h
  · have hreading : host.openForReading path = .ok (.file number) :=
      openForReading_eq_file_iff.2 ⟨location, hresolve, hfind, hslash⟩
    rw [contents?, hreading, Option.getD_some]
  · cases hmade
    have hnothing : fs.contents? path = none := by
      simp only [contents?, openForReading, bind, Except.bind, hresolve, hfree]
    rw [hnothing, Option.getD_none]
    show (((fs.files ++ [Packed.empty])[fs.files.length]?).getD .empty).toBytes = []
    rw [List.getElem?_concat_length, Option.getD_some, Packed.toBytes_empty]

/-- Appending changes no way. -/
lemma resolve_append (fs : FileSystem) (number : Nat) (data : Bytes) (path : Path) :
    (fs.append number data).resolve path = fs.resolve path := by
  apply resolve_congr
  · rfl
  · rfl

/-- Appending moves no file. -/
lemma openForReading_append (fs : FileSystem) (number : Nat) (data : Bytes) (path : Path) :
    (fs.append number data).openForReading path = fs.openForReading path := by
  apply openForReading_congr
  · rfl
  · exact resolve_append fs number data path

end FileSystem

/-! ## The open data file -/

/-- What is under the path of the data file is the file that it appends to, and that has these
bytes.  Nothing is held back, and the file takes everything. -/
structure HostedFile.Holds (hosted : HostedFile) (written : Bytes) : Prop where
  reading : hosted.host.openForReading hosted.file.path = .ok (.file hosted.file.number)
  kept : hosted.file.number < hosted.host.files.length
  bytes_eq : hosted.host.bytes hosted.file.number = written
  clear : hosted.file.IsClear

namespace HostedFile

variable {hosted : HostedFile} {written : Bytes}

/-- A data file that was just opened holds what was under its path before, or nothing if nothing was
there, and knows how much that is. -/
lemma holds_openAt {fs host : FileSystem} {path : Path} {file : DataFile} (hfs : fs.WellFormed)
    (h : DataFile.openAt fs path = .ok (host, file)) (persistent : Bool) :
    (⟨host, file.persist persistent⟩ : HostedFile).Holds ((fs.contents? path).getD []) ∧
      file.path = path ∧ file.length = ((fs.contents? path).getD []).length := by
  unfold DataFile.openAt at h
  split at h
  · cases h
  · next opened number hopen =>
    cases h
    obtain ⟨hreading, hkept⟩ := FileSystem.openForReading_of_openForWriting hfs hopen
    have hbytes := FileSystem.bytes_of_openForWriting hopen
    refine ⟨⟨hreading, hkept, hbytes, ⟨rfl, rfl⟩⟩, rfl, ?_⟩
    rw [← hbytes, FileSystem.length_bytes]

/-- A data file that was just opened, and is not known to hold anything, holds nothing. -/
lemma holds_of_openAt {fs host : FileSystem} {path : Path} {file : DataFile}
    (hfs : fs.WellFormed) (h : DataFile.openAt fs path = .ok (host, file))
    (hempty : file.isEmpty = true) (persistent : Bool) :
    (⟨host, file.persist persistent⟩ : HostedFile).Holds [] := by
  obtain ⟨hholds, -, hlength⟩ := holds_openAt hfs h persistent
  have hnil : (fs.contents? path).getD [] = [] :=
    List.length_eq_zero_iff.1 (hlength.symm.trans (beq_iff_eq.1 hempty))
  rwa [hnil] at hholds

/-- Where nothing is held back and nothing goes wrong, an append goes straight to the open file. -/
lemma append_eq (h : hosted.file.IsClear) (data : Bytes) :
    Storage.append hosted data =
      (⟨hosted.host.append hosted.file.number data,
        { hosted.file with length := hosted.file.length + data.length, held := [] }⟩, .stored) := by
  simp only [Storage.append, DataFile.append_eq h.setbacks_eq, h.held_eq, List.nil_append]

lemma append_snd (h : hosted.file.IsClear) (data : Bytes) :
    (Storage.append hosted data).2 = .stored := by
  rw [append_eq h]

/-- Then closing removes the name, unless the data file is persistent. -/
lemma close_eq (h : hosted.file.IsClear) :
    Storage.close hosted =
      if hosted.file.persistent then (hosted, .ok ())
      else
        match hosted.host.remove hosted.file.path with
        | .ok host => ({ hosted with host }, .ok ())
        | .error .notFound => (hosted, .ok ())
        | .error fault => (hosted, .error (.io fault)) := by
  simp only [Storage.close, h.close_eq]
  cases hosted.file.persistent with
  | true => rfl
  | false =>
    rcases hosted.host.remove hosted.file.path with fault | host
    · cases fault <;> rfl
    · rfl

lemma file_close (h : hosted.file.IsClear) : (Storage.close hosted).1.file = hosted.file := by
  rw [close_eq h]
  cases hosted.file.persistent with
  | true => rfl
  | false =>
    rcases hosted.host.remove hosted.file.path with fault | host
    · cases fault <;> rfl
    · rfl

lemma Holds.append (h : hosted.Holds written) (data : Bytes) :
    (Storage.append hosted data).1.Holds (written ++ data) := by
  rw [append_eq h.clear]
  exact {
    reading := by rw [FileSystem.openForReading_append, h.reading]
    kept := by
      show hosted.file.number < (hosted.host.files.modify hosted.file.number _).length
      rw [List.length_modify]
      exact h.kept
    bytes_eq := by rw [FileSystem.bytes_append _ _ _ _ h.kept, if_pos rfl, h.bytes_eq]
    clear := ⟨rfl, h.clear.setbacks_eq⟩ }

lemma Holds.contents?_eq (h : hosted.Holds written) : Storage.contents? hosted = some written := by
  show hosted.host.contents? hosted.file.path = some written
  rw [FileSystem.contents?, h.reading, ← h.bytes_eq]

/-- Closing a persistent data file leaves it as it is. -/
lemma Holds.close_of_persistent (h : hosted.Holds written)
    (hpersistent : hosted.file.persistent = true) : (Storage.close hosted).1 = hosted := by
  rw [close_eq h.clear, if_pos hpersistent]

end HostedFile

end CommandLog
