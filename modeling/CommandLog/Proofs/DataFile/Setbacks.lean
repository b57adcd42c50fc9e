import CommandLog.Storage
import Mathlib.Tactic.Common

/-!
# What a data file makes of a setback

The operating system may refuse to write to the open file at any byte.  Whatever it does, no byte is
lost, doubled or moved: `DataFile.Advances` says that what was handed to the file, followed by what is
held back now, is what was held back before, followed by what was taken in.  Every operation of a data
file that writes keeps to that, and an append takes in its bytes from the first one on, all of them if
it succeeds (`DataFile.append_advances`).

How many it takes in if it fails is decided by the room that there is for them beside what is held
back already, `DataFile.HoldsBack`.  If there is enough, the bytes are all taken in, although the
append fails, and go to the file with the next ones (`DataFile.append_of_holdsBack`).  If there is
not, and the file has got no byte, then none is taken in, and the data file is as it was
(`DataFile.append_of_not_holdsBack`).
-/

namespace CommandLog

/-- An append adds no byte to a file that is there only if it is given none. -/
lemma FileSystem.eq_nil_of_bytes_append {fs : FileSystem} {number : Nat} {data : Bytes}
    (hkept : number < fs.files.length) (h : (fs.append number data).bytes number = fs.bytes number) :
    data = [] := by
  rw [FileSystem.bytes_append _ _ _ _ hkept, if_pos rfl] at h
  exact List.append_right_eq_self.1 h

namespace DataFile

/-- Writing has come so far: the open file has got the bytes `taken` at its end, and the bytes
`accepted` were taken in and are counted.  What was taken in and has not got to the file is held
back. -/
structure Advances (fs : FileSystem) (file : DataFile) (taken accepted : Bytes)
    (host : FileSystem) (after : DataFile) : Prop where
  host_eq : host = fs.append file.number taken
  held_eq : taken ++ after.held = file.held ++ accepted
  after_eq : after =
    { file with
      length := file.length + accepted.length
      held := after.held
      setbacks := after.setbacks }

variable {fs host last : FileSystem} {file after final : DataFile}
  {data taken accepted more others : Bytes} {fault : Fault}

lemma Advances.number_eq (h : Advances fs file taken accepted host after) :
    after.number = file.number := by
  rw [h.after_eq]

lemma advances_refl (fs : FileSystem) (file : DataFile) : Advances fs file [] [] fs file :=
  ⟨(fs.append_nil file.number).symm, (List.append_nil _).symm, rfl⟩

lemma Advances.trans (h : Advances fs file taken accepted host after)
    (h' : Advances host after more others last final) :
    Advances fs file (taken ++ more) (accepted ++ others) last final := by
  constructor
  · rw [h'.host_eq, h.host_eq, h.number_eq, FileSystem.append_append]
  · rw [List.append_assoc, h'.held_eq, ← List.append_assoc, h.held_eq, List.append_assoc]
  · rw [h'.after_eq, h.after_eq, List.length_append, Nat.add_assoc]

/-! ## One operation -/

/-- The open file gets bytes from the first one on, and a write that it does not take to its end will
be refused. -/
lemma hand_cases (fs : FileSystem) (file : DataFile) (data : Bytes) :
    ∃ taken left setbacks, file.hand fs data =
        (fs.append file.number taken, { file with setbacks }, left) ∧
      taken ++ left = data ∧ (left ≠ [] → setbacks ≠ []) := by
  unfold hand
  split
  · next hnone => exact ⟨data, [], [], by rw [← hnone], List.append_nil data, absurd rfl⟩
  · exact ⟨_, _, _, rfl, List.take_append_drop _ data, fun _ => List.cons_ne_nil _ _⟩

lemma meet_of_ne_nil (h : file.setbacks ≠ []) :
    ∃ setbacks fault, file.meet = ({ file with setbacks }, .error fault) := by
  obtain ⟨setback, later, hsetbacks⟩ := List.exists_cons_of_ne_nil h
  unfold meet
  rw [hsetbacks]
  by_cases hlasting : setback.lasting = true
  · exact ⟨file.setbacks, setback.fault, Prod.ext (if_pos hlasting) rfl⟩
  · exact ⟨later, setback.fault, Prod.ext (if_neg hlasting) rfl⟩

/-- A flush takes nothing in.  It succeeds exactly if nothing is held back after it. -/
lemma flush_cases (fs : FileSystem) (file : DataFile) :
    ∃ taken host after, Advances fs file taken [] host after ∧
      ((file.flush fs = (host, after, .ok ()) ∧ after.held = []) ∨
        ∃ fault, file.flush fs = (host, after, .error fault)) := by
  obtain ⟨taken, left, setbacks, hhand, hsplit, hrefused⟩ := hand_cases fs file file.held
  have hheld : taken ++ left = file.held ++ [] := by rw [hsplit, List.append_nil]
  simp only [flush, hhand]
  by_cases hleft : left = []
  · exact ⟨taken, _, _, ⟨rfl, hheld, rfl⟩, .inl ⟨if_pos hleft, hleft⟩⟩
  · obtain ⟨later, fault, hmeet⟩ :=
      @meet_of_ne_nil { file with held := left, setbacks } (hrefused hleft)
    rw [if_neg hleft, hmeet]
    exact ⟨taken, _, _, ⟨rfl, hheld, rfl⟩, .inr ⟨fault, rfl⟩⟩

lemma advances_hold (fs : FileSystem) (file : DataFile) (data : Bytes) :
    Advances fs file [] data fs (file.hold data) :=
  ⟨(fs.append_nil file.number).symm, rfl, rfl⟩

/-- With nothing held back, a write that succeeds has the file get some of the bytes, unless there is
room for all of them.  If it fails, then those that the file has got were taken in, and no others. -/
lemma writeThrough_cases (fs : FileSystem) (hheld : file.held = []) (data : Bytes) :
    ∃ taken accepted host after, accepted <+: data ∧ Advances fs file taken accepted host after ∧
      ((file.writeThrough fs data = (host, after, .ok ()) ∧ accepted = data ∧
          (taken = [] → data.length < holdingRoom)) ∨
        ∃ fault, file.writeThrough fs data = (host, after, .error fault) ∧ accepted = taken) := by
  unfold writeThrough
  by_cases hsmall : data.length < holdingRoom
  · rw [if_pos hsmall]
    exact ⟨[], data, fs, _, List.prefix_refl data, advances_hold fs file data,
      .inl ⟨rfl, rfl, fun _ => hsmall⟩⟩
  obtain ⟨taken, left, setbacks, hhand, hsplit, hrefused⟩ := hand_cases fs file data
  have hlength : data.length - left.length = taken.length := by
    rw [← hsplit, List.length_append, Nat.add_sub_cancel]
  rw [if_neg hsmall]
  simp only [hhand, hlength]
  by_cases hfew : left.length < holdingRoom
  · refine ⟨taken, data, _, _, List.prefix_refl data, ⟨rfl, ?_, ?_⟩,
      .inl ⟨if_pos hfew, rfl, ?_⟩⟩
    · show taken ++ (file.held ++ left) = file.held ++ data
      rw [hheld, List.nil_append, List.nil_append, hsplit]
    · show hold _ left = _
      rw [← hsplit, List.length_append, ← Nat.add_assoc]
      rfl
    · rintro rfl
      rwa [← hsplit, List.nil_append]
  · have hleft : left ≠ [] := by
      rintro rfl
      exact hfew (by decide)
    obtain ⟨later, fault, hmeet⟩ := @meet_of_ne_nil
      { file with length := file.length + taken.length, setbacks } (hrefused hleft)
    refine ⟨taken, taken, _, _, ⟨left, hsplit⟩, ⟨rfl, ?_, rfl⟩,
      .inr ⟨fault, (if_neg hfew).trans (by rw [hmeet]), rfl⟩⟩
    show taken ++ file.held = file.held ++ taken
    rw [hheld, List.append_nil, List.nil_append]

/-! ## An append -/

/-- Is there room for bytes beside those that are held back already, so that they are held back as
well? -/
def HoldsBack (file : DataFile) (data : Bytes) : Prop :=
  data.length < holdingRoom ∧ file.held.length + data.length ≤ holdingRoom

instance (file : DataFile) (data : Bytes) : Decidable (file.HoldsBack data) :=
  inferInstanceAs (Decidable (_ ∧ _))

/-- Bytes that are held back are all taken in, whether the append succeeds or fails. -/
lemma append_cases_of_holdsBack (fs : FileSystem) (h : file.HoldsBack data) :
    ∃ taken host after, Advances fs file taken data host after ∧
      ((file.append fs data = (host, after, .ok ()) ∧ after.held = []) ∨
        ∃ fault, file.append fs data = (host, after, .error fault)) := by
  have hwrite : file.write fs data = (fs, file.hold data, .ok ()) := by
    rw [write, makeRoom, if_neg (Nat.not_lt_of_le h.2)]
    exact if_pos h.1
  obtain ⟨taken, host, after, hflushed, hflush⟩ := flush_cases fs (file.hold data)
  have hadvances := (advances_hold fs file data).trans hflushed
  rw [List.nil_append, List.append_nil] at hadvances
  refine ⟨taken, host, after, hadvances, ?_⟩
  rw [append, hwrite]
  exact hflush

/-- Where bytes are not held back, everything before them must have got to the file first. -/
lemma makeRoom_cases (fs : FileSystem) (h : ¬ file.HoldsBack data) :
    ∃ taken host after, Advances fs file taken [] host after ∧
      ((file.makeRoom fs data = (host, after, .ok ()) ∧ after.held = []) ∨
        ∃ fault, file.makeRoom fs data = (host, after, .error fault)) := by
  unfold makeRoom
  by_cases hfull : holdingRoom < file.held.length + data.length
  · rw [if_pos hfull]
    exact flush_cases fs file
  · -- there can be room and not enough of it only for bytes that fill all of it
    rw [if_neg hfull]
    have hheld : file.held = [] := by
      rw [HoldsBack] at h
      exact List.length_eq_zero_iff.1 (by omega)
    exact ⟨[], fs, file, advances_refl fs file, .inl ⟨rfl, hheld⟩⟩

/-- Bytes that are not held back are taken in only if the file gets some byte. -/
lemma append_cases_of_not_holdsBack (fs : FileSystem) (h : ¬ file.HoldsBack data) :
    ∃ taken accepted host after, accepted <+: data ∧ Advances fs file taken accepted host after ∧
      ((file.append fs data = (host, after, .ok ()) ∧ accepted = data ∧ after.held = []) ∨
        ∃ fault, file.append fs data = (host, after, .error fault) ∧
          (taken = [] → accepted = [])) := by
  obtain ⟨first, early, room, hroom, ⟨hmake, hheld⟩ | ⟨fault, hmake⟩⟩ := makeRoom_cases fs h
  · have hfirst : first = file.held := by
      have hall := hroom.held_eq
      rwa [hheld, List.append_nil, List.append_nil] at hall
    obtain ⟨taken, accepted, late, through, hprefix, hthrough, hwrite⟩ :=
      writeThrough_cases early hheld data
    have hsofar := hroom.trans hthrough
    rw [List.nil_append] at hsofar
    rcases hwrite with ⟨hwrite, rfl, hfits⟩ | ⟨fault, hwrite, rfl⟩
    · obtain ⟨rest, host, after, hflushed, hflush⟩ := flush_cases late through
      have hadvances := hsofar.trans hflushed
      rw [List.append_nil] at hadvances
      have happend : file.append fs accepted = through.flush late := by
        rw [append, write, hmake]
        simp only [hwrite]
      refine ⟨_, accepted, host, after, hprefix, hadvances, ?_⟩
      rw [happend]
      rcases hflush with ⟨hflush, hempty⟩ | ⟨fault, hflush⟩
      · exact .inl ⟨hflush, rfl, hempty⟩
      · refine .inr ⟨fault, hflush, fun hnone => absurd ?_ h⟩
        -- had the file got no byte, nothing was held back before, and there was room for these
        simp only [List.append_eq_nil_iff] at hnone
        have hnothing : file.held = [] := hfirst ▸ hnone.1.1
        have hsmall := hfits hnone.1.2
        rw [HoldsBack, hnothing, List.length_nil]
        omega
    · refine ⟨_, accepted, late, through, hprefix, hsofar, .inr ⟨fault, ?_, fun hnone =>
        (List.append_eq_nil_iff.1 hnone).2⟩⟩
      rw [append, write, hmake]
      simp only [hwrite]
  · refine ⟨first, [], early, room, List.nil_prefix, hroom, .inr ⟨fault, ?_, fun _ => rfl⟩⟩
    rw [append, write, hmake]

/-- Whatever goes wrong, an append takes its bytes in from the first one on, and those that were taken
in and those that were held back before get to the file in this order, as far as they get there. -/
theorem append_advances (fs : FileSystem) (file : DataFile) (data : Bytes) :
    ∃ taken accepted, accepted <+: data ∧
      Advances fs file taken accepted (file.append fs data).1 (file.append fs data).2.1 ∧
      ((file.append fs data).2.2 = .ok () →
        accepted = data ∧ (file.append fs data).2.1.held = []) := by
  by_cases h : file.HoldsBack data
  · obtain ⟨taken, host, after, hadvances, ⟨happend, hheld⟩ | ⟨fault, happend⟩⟩ :=
      append_cases_of_holdsBack fs h
    · rw [happend]
      exact ⟨taken, data, List.prefix_refl data, hadvances, fun _ => ⟨rfl, hheld⟩⟩
    · rw [happend]
      exact ⟨taken, data, List.prefix_refl data, hadvances, fun hok => nomatch hok⟩
  · obtain ⟨taken, accepted, host, after, hprefix, hadvances,
      ⟨happend, hall, hheld⟩ | ⟨fault, happend, -⟩⟩ := append_cases_of_not_holdsBack fs h
    · rw [happend]
      exact ⟨taken, accepted, hprefix, hadvances, fun _ => ⟨hall, hheld⟩⟩
    · rw [happend]
      exact ⟨taken, accepted, hprefix, hadvances, fun hok => nomatch hok⟩

/-- The file that is open, and the path under which it is read, are the same after an append. -/
lemma append_sameFile (fs : FileSystem) (file : DataFile) (data : Bytes) :
    (file.append fs data).2.1.path = file.path ∧ (file.append fs data).2.1.number = file.number := by
  obtain ⟨taken, accepted, -, hadvances, -⟩ := append_advances fs file data
  rw [hadvances.after_eq]
  exact ⟨rfl, rfl⟩

/-! ## An append that fails and gets no byte to the file -/

section Failed

variable (hkept : file.number < fs.files.length)
  (hbytes : host.bytes file.number = fs.bytes file.number)
  (happend : file.append fs data = (host, after, .error fault))

include hkept hbytes happend

/-- If the bytes are not held back, nothing has come of the append but that a setback was met. -/
theorem append_of_not_holdsBack (h : ¬ file.HoldsBack data) :
    host = fs ∧ ∃ setbacks, after = { file with setbacks } := by
  obtain ⟨taken, accepted, host', after', -, hadvances, ⟨hok, -⟩ | ⟨fault', hfailed, hnone⟩⟩ :=
    append_cases_of_not_holdsBack fs h
  · rw [happend] at hok
    cases hok
  · rw [happend] at hfailed
    cases hfailed
    obtain rfl : taken = [] := by
      rw [hadvances.host_eq] at hbytes
      exact FileSystem.eq_nil_of_bytes_append hkept hbytes
    obtain rfl := hnone rfl
    have hheld : after.held = file.held := by simpa using hadvances.held_eq
    refine ⟨by rw [hadvances.host_eq, FileSystem.append_nil], after.setbacks, ?_⟩
    rw [hadvances.after_eq, hheld]
    rfl

/-- If they are, they are held back and counted all the same, and the next append to which nothing
happens puts them into the file before its own. -/
theorem append_of_holdsBack (h : file.HoldsBack data) :
    host = fs ∧
      (∃ setbacks, after =
        { file with length := file.length + data.length, held := file.held ++ data, setbacks }) ∧
      ∀ more, (after.meeting []).append host more =
        (fs.append file.number (file.held ++ data ++ more),
          { file with
            length := file.length + data.length + more.length
            held := []
            setbacks := [] }, .ok ()) := by
  obtain ⟨taken, host', after', hadvances, ⟨hok, -⟩ | ⟨fault', hfailed⟩⟩ :=
    append_cases_of_holdsBack fs h
  · rw [happend] at hok
    cases hok
  · rw [happend] at hfailed
    cases hfailed
    obtain rfl : taken = [] := by
      rw [hadvances.host_eq] at hbytes
      exact FileSystem.eq_nil_of_bytes_append hkept hbytes
    have hhost : host = fs := by rw [hadvances.host_eq, FileSystem.append_nil]
    have hheld : after.held = file.held ++ data := hadvances.held_eq
    have hafter := hadvances.after_eq
    rw [hheld] at hafter
    refine ⟨hhost, ⟨after.setbacks, hafter⟩, fun more => ?_⟩
    rw [append_eq rfl, hhost, hafter]
    rfl

end Failed

end DataFile

namespace HostedFile

variable {hosted after : HostedFile} {data : Bytes} {failure : Failure}

lemma append_fst (hosted : HostedFile) (data : Bytes) :
    (Storage.append hosted data).1 =
      ⟨(hosted.file.append hosted.host data).1, (hosted.file.append hosted.host data).2.1⟩ := by
  simp only [Storage.append]
  rcases hosted.file.append hosted.host data with ⟨host, file, fault | ⟨⟩⟩
  · rfl
  · rfl

lemma file_append (hosted : HostedFile) (data : Bytes) :
    (Storage.append hosted data).1.file.path = hosted.file.path ∧
      (Storage.append hosted data).1.file.number = hosted.file.number := by
  rw [append_fst]
  exact DataFile.append_sameFile hosted.host hosted.file data

/-- The bytes of the file that is open, where that is there. -/
lemma bytes_eq_of_files {log : Bytes}
    (h : hosted.host.files[hosted.file.number]?.map Packed.toBytes = some log) :
    hosted.file.number < hosted.host.files.length ∧
      hosted.host.bytes hosted.file.number = log := by
  obtain ⟨packed, hpacked, rfl⟩ := Option.map_eq_some_iff.1 h
  refine ⟨(List.getElem?_eq_some_iff.1 hpacked).1, ?_⟩
  rw [FileSystem.bytes, FileSystem.packed, hpacked, Option.getD_some]

/-- An append fails for a fault of the file system. -/
lemma append_eq_failed (h : Storage.append hosted data = (after, .failed failure)) :
    ∃ fault, failure = .io fault ∧
      hosted.file.append hosted.host data = (after.host, after.file, .error fault) := by
  simp only [Storage.append] at h
  rcases happend : hosted.file.append hosted.host data with ⟨host, file, fault | ⟨⟩⟩
  · rw [happend] at h
    cases h
    exact ⟨fault, rfl, rfl⟩
  · rw [happend] at h
    cases h

end HostedFile

end CommandLog
