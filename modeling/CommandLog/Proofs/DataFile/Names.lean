import CommandLog.Proofs.DataFile.OpenFile

/-!
# Names come and go, files stay

A name that is added takes no other away (`FileSystem.openForReading_of_find`), and a file that is
there is opened for writing as it is (`FileSystem.openForWriting_of_openForReading`).

To remove a file takes one name away, `FileSystem.withoutName`: what was under it is not found any
more, everything else is where it was, and the bytes of every file are kept.
-/

namespace CommandLog

namespace FileSystem

variable {fs other after : FileSystem} {location there : Location} {path : Path} {number : Nat}

/-! ## Names that stay -/

/-- A file is found under its path as long as no name is taken away. -/
lemma openForReading_of_find (h : fs.openForReading path = .ok (.file number))
    (hworking : other.working = fs.working)
    (hfind : ∀ location node, fs.find location = .ok (some node) →
      other.find location = .ok (some node)) :
    other.openForReading path = .ok (.file number) := by
  obtain ⟨location, hresolve, hthere, hslash⟩ := openForReading_eq_file_iff.1 h
  apply openForReading_eq_file_iff.2
  refine ⟨location, ?_, hfind location _ hthere, hslash⟩
  exact resolve_of_find hresolve hworking fun directory => hfind directory .directory

/-! ## A file that is there -/

/-- To write to a file that is there, it is opened as it is. -/
lemma openForWriting_of_openForReading (h : fs.openForReading path = .ok (.file number)) :
    fs.openForWriting path = .ok (fs, number) := by
  obtain ⟨location, hresolve, hfind, hslash⟩ := openForReading_eq_file_iff.1 h
  simp only [openForWriting, bind, Except.bind, hresolve, hfind, hslash, Bool.false_eq_true,
    if_false]

/-! ## One name more -/

lemma makeDirectory_eq_ok (h : fs.makeDirectory path = .ok after) :
    ∃ location, after = { fs with nodes := fs.nodes ++ [(location, .directory)] } := by
  unfold makeDirectory at h
  simp only [bind, Except.bind] at h
  split at h
  · cases h
  · next place hresolve =>
    split at h
    · cases h
    · next location =>
      split at h
      · cases h
      · split at h
        · cases h
        · cases h
          exact ⟨location, rfl⟩

/-- A new directory takes no file away. -/
lemma openForReading_makeDirectory {directory : Path}
    (hmade : fs.makeDirectory directory = .ok after)
    (h : fs.openForReading path = .ok (.file number)) :
    after.openForReading path = .ok (.file number) := by
  obtain ⟨location, rfl⟩ := makeDirectory_eq_ok hmade
  exact openForReading_of_find h rfl fun _ _ hthere => find_of_nodes_append rfl hthere

/-! ## One name less -/

/-- The file system without the name at a place.  The bytes that were under it are kept. -/
def withoutName (fs : FileSystem) (location : Location) : FileSystem :=
  { fs with nodes := fs.nodes.filter (·.1 ≠ location) }

lemma lookup_filter_of_ne (h : there ≠ location) (nodes : List (Location × Node)) :
    (nodes.filter (·.1 ≠ location)).lookup there = nodes.lookup there := by
  induction nodes with
  | nil => rfl
  | cons entry rest ih =>
    obtain ⟨place, node⟩ := entry
    by_cases hplace : place = location
    · subst hplace
      rw [List.filter_cons_of_neg (by simp), ih, List.lookup_cons, beq_false_of_ne h]
    · rw [List.filter_cons_of_pos (by simpa using hplace), List.lookup_cons, List.lookup_cons, ih]

lemma lookup_filter_self (location : Location) (nodes : List (Location × Node)) :
    (nodes.filter (·.1 ≠ location)).lookup location = none := by
  rw [List.lookup_eq_none_iff]
  intro entry hentry
  have hne : entry.1 ≠ location := by simpa using (List.mem_filter.1 hentry).2
  exact bne_iff_ne.2 hne.symm

lemma find_withoutName_of_ne (h : there ≠ location) :
    (fs.withoutName location).find there = fs.find there := by
  simp only [find, node?, withoutName, lookup_filter_of_ne h]

lemma find_withoutName_self (h : fs.find location = .ok (some (.file number))) :
    (fs.withoutName location).find location = .ok none := by
  obtain ⟨hlimit, hnode⟩ := find_eq_ok h
  apply find_of_node? hlimit
  unfold node? at hnode ⊢
  split
  · next hroot =>
    rw [if_pos hroot] at hnode
    cases hnode
  · exact lookup_filter_self location fs.nodes

/-- Without the name of a file, the way to where it was is the same. -/
lemma resolve_withoutName {place : Place} (h : fs.find location = .ok (some (.file number)))
    (hresolve : fs.resolve path = .ok place) :
    (fs.withoutName location).resolve path = .ok place := by
  refine resolve_of_find hresolve rfl fun directory hdirectory => ?_
  -- a directory is at another place than the file
  have hne : directory ≠ location := by
    rintro rfl
    rw [h] at hdirectory
    cases hdirectory
  rw [find_withoutName_of_ne hne, hdirectory]

/-- The same name is removed, or the removal fails in the same way. -/
lemma remove_congr (hnodes : other.nodes = fs.nodes)
    (hresolve : other.resolve path = fs.resolve path) :
    other.remove path = (fs.remove path).map fun after => { other with nodes := after.nodes } := by
  simp only [remove, bind, Except.bind, hresolve, find_congr hnodes, hnodes]
  cases fs.resolve path with
  | error fault => rfl
  | ok place =>
    cases place with
    | directory location => rfl
    | entry location =>
      dsimp only
      rcases fs.find location with fault | _ | _ | number
      · rfl
      · rfl
      · rfl
      · cases path.endsInSlash with
        | true => rfl
        | false => rfl

lemma remove_eq_ok (h : fs.remove path = .ok after) :
    ∃ location number, fs.resolve path = .ok (.entry location) ∧
      fs.find location = .ok (some (.file number)) ∧ after = fs.withoutName location := by
  unfold remove at h
  simp only [bind, Except.bind] at h
  split at h
  · cases h
  · next place hresolve =>
    split at h
    · cases h
    · next location =>
      split at h
      · cases h
      · next node hfind =>
        split at h
        · cases h
        · cases h
        · next number =>
          split at h
          · cases h
          · cases h
            exact ⟨location, number, hresolve, hfind, rfl⟩

/-- To remove a file is to take its name away. -/
lemma remove_of_openForReading (h : fs.openForReading path = .ok (.file number)) :
    ∃ location, fs.resolve path = .ok (.entry location) ∧
      fs.find location = .ok (some (.file number)) ∧
      fs.remove path = .ok (fs.withoutName location) := by
  obtain ⟨location, hresolve, hfind, hslash⟩ := openForReading_eq_file_iff.1 h
  refine ⟨location, hresolve, hfind, ?_⟩
  simp only [remove, bind, Except.bind, hresolve, hfind, hslash, Bool.false_eq_true, if_false,
    withoutName]

/-- Under the path of a file that was removed there is nothing. -/
lemma openForReading_withoutName (hresolve : fs.resolve path = .ok (.entry location))
    (hfind : fs.find location = .ok (some (.file number))) :
    (fs.withoutName location).openForReading path = .error .notFound := by
  simp only [openForReading, bind, Except.bind, resolve_withoutName hfind hresolve,
    find_withoutName_self hfind]

end FileSystem

end CommandLog
