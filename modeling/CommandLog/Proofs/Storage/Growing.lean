import CommandLog.Proofs.DataFile.Names
import CommandLog.Storage

/-!
# Storages that keep everything

A data file and a memory store keep whatever is appended, know nothing of single commands, and differ
in what their readers see: a reader of the file goes on to what is appended after it was opened, and
one of the memory store does not.  `GrowingLog` says what the two have in common, in terms of the bytes
that the storage holds and of those that a reader still has before it.
-/

namespace CommandLog

/-- What appending does not change about a storage. -/
structure Manner where
  wantsTimestamps : Bool
  /-- How its closing ends. -/
  closed : Except Failure Unit
  /-- Is the log there after the closing? -/
  outlives : Bool

/-- A storage that takes every append and keeps it. -/
class GrowingLog (σ : Type) {ρ : outParam Type} [Storage σ ρ] where
  /-- The storage is in order and holds these bytes. -/
  Holds : σ → Bytes → Prop
  /-- The reader has these bytes before it. -/
  Reads : σ → ρ → Bytes → Prop
  manner : σ → Manner
  /-- Does an open reader see what is appended later? -/
  isLive : Bool
  /-- The answer to whoever wants a reader placed at a command. -/
  refusal : Failure
  append : ∀ {storage : σ} {log : Bytes}, Holds storage log → ∀ data : Bytes,
    ∃ after, Storage.append storage data = (after, .stored) ∧ Holds after (log ++ data) ∧
      manner after = manner storage ∧
      ∀ reader rest, Reads storage reader rest →
        Reads after reader (rest ++ if isLive then data else [])
  openReader : ∀ {storage : σ} {log : Bytes}, Holds storage log →
    ∃ reader, Storage.openReader storage = .ok reader ∧ Reads storage reader log
  seekTo : ∀ (storage : σ) (reader : ρ) (command offset : UInt32),
    Storage.seekTo storage reader command offset = .error refusal
  read : ∀ {storage : σ} {reader : ρ} {rest : Bytes}, Reads storage reader rest → ∀ room : Nat,
    ∃ moved, Storage.read storage reader room = .ok (rest.take room, moved) ∧
      Reads storage moved (rest.drop room)
  wantsTimestamps_eq : ∀ storage : σ,
    Storage.wantsTimestamps storage = (manner storage).wantsTimestamps
  close : ∀ {storage : σ} {log : Bytes}, Holds storage log →
    (Storage.close storage).2 = (manner storage).closed ∧
      Storage.contents? (Storage.close storage).1 =
        if (manner storage).outlives then some log else none
  contents?_eq : ∀ {storage : σ} {log : Bytes}, Holds storage log →
    Storage.contents? storage = some log

/-! ## The data file -/

namespace HostedFile

/-- The cursor is on the file that is open, and the file has these bytes from there on. -/
structure Reads (hosted : HostedFile) (cursor : FileCursor) (rest : Bytes) : Prop where
  source_eq : cursor.source = .file hosted.file.number
  position_le : cursor.position ≤ (hosted.host.bytes hosted.file.number).length
  rest_eq : (hosted.host.bytes hosted.file.number).drop cursor.position = rest

variable {hosted : HostedFile} {cursor : FileCursor} {written rest : Bytes}

lemma Holds.reads_append (h : hosted.Holds written) (data : Bytes)
    (hreads : hosted.Reads cursor rest) :
    (Storage.append hosted data).1.Reads cursor (rest ++ data) := by
  have hbytes := FileSystem.bytes_append hosted.host hosted.file.number hosted.file.number data h.kept
  rw [if_pos rfl] at hbytes
  rw [append_eq h.clear]
  refine ⟨hreads.source_eq, ?_, ?_⟩
  · show cursor.position ≤ ((hosted.host.append hosted.file.number data).bytes _).length
    rw [hbytes, List.length_append]
    exact Nat.le_add_right_of_le hreads.position_le
  · show ((hosted.host.append hosted.file.number data).bytes _).drop cursor.position = _
    rw [hbytes, List.drop_append_of_le_length hreads.position_le, hreads.rest_eq]

lemma Reads.read (h : hosted.Reads cursor rest) (room : Nat) :
    ∃ moved, Storage.read hosted cursor room = .ok (rest.take room, moved) ∧
      hosted.Reads moved (rest.drop room) := by
  obtain ⟨source, position⟩ := cursor
  obtain rfl : source = .file hosted.file.number := h.source_eq
  have hrest : (hosted.host.bytes hosted.file.number).drop position = rest := h.rest_eq
  have hlength : rest.length = (hosted.host.bytes hosted.file.number).length - position := by
    rw [← hrest, List.length_drop]
  have hposition : position ≤ (hosted.host.bytes hosted.file.number).length := h.position_le
  refine ⟨⟨.file hosted.file.number, position + (rest.take room).length⟩, ?_, rfl, ?_, ?_⟩
  · show FileCursor.read hosted.host room ⟨.file hosted.file.number, position⟩ = _
    rw [FileCursor.read_file, hrest]
  · show position + (rest.take room).length ≤ _
    have hle : (rest.take room).length ≤ rest.length := List.length_take_le' room rest
    omega
  · apply Bytes.drop_add_length
    rw [hrest, List.take_append_drop]

/-- Closing takes the name away, unless the data file is persistent. -/
lemma Holds.contents?_close (h : hosted.Holds written) :
    (Storage.close hosted).2 = .ok () ∧
      Storage.contents? (Storage.close hosted).1 =
        if hosted.file.persistent then some written else none := by
  cases hpersistent : hosted.file.persistent with
  | true =>
    rw [close_eq h.clear, if_pos hpersistent, if_pos rfl]
    exact ⟨rfl, h.contents?_eq⟩
  | false =>
    obtain ⟨location, hresolve, hfind, hremove⟩ := FileSystem.remove_of_openForReading h.reading
    rw [close_eq h.clear, if_neg (Bool.eq_false_iff.1 hpersistent), hremove,
      if_neg Bool.false_ne_true]
    refine ⟨rfl, ?_⟩
    show (hosted.host.withoutName location).contents? hosted.file.path = none
    rw [FileSystem.contents?, FileSystem.openForReading_withoutName hresolve hfind]

end HostedFile

instance : GrowingLog HostedFile where
  Holds := HostedFile.Holds
  Reads := HostedFile.Reads
  manner hosted := ⟨true, .ok (), hosted.file.persistent⟩
  isLive := true
  refusal := .seekUnsupported "file"
  append {hosted written} h data := by
    refine ⟨_, Prod.ext rfl (HostedFile.append_snd h.clear data), h.append data, ?_,
      fun reader rest hreads => h.reads_append data hreads⟩
    show Manner.mk true (.ok ()) (Storage.append hosted data).1.file.persistent = _
    rw [HostedFile.append_eq h.clear]
  openReader {hosted written} h := by
    refine ⟨⟨.file hosted.file.number, 0⟩, ?_, rfl, Nat.zero_le _, h.bytes_eq⟩
    show FileCursor.openAt hosted.host hosted.file.path = _
    rw [FileCursor.openAt, h.reading]
  seekTo _ _ _ _ := rfl
  read h room := h.read room
  wantsTimestamps_eq _ := rfl
  close h := h.contents?_close
  contents?_eq h := h.contents?_eq

/-! ## The memory store -/

/-- No append goes wrong, and these are the bytes that were appended. -/
structure MemoryStore.Holds (store : MemoryStore) (written : Bytes) : Prop where
  bytes_eq : store.bytes = written
  failsOn_eq : store.failsOn = none
  panicsOn_eq : store.panicsOn = none

/-- The snapshot has these bytes from its position on. -/
def Snapshot.Reads (snapshot : Snapshot) (rest : Bytes) : Prop :=
  snapshot.bytes.drop snapshot.position = rest

lemma MemoryStore.append_eq {store : MemoryStore} {written : Bytes} (h : store.Holds written)
    (data : Bytes) :
    Storage.append store data = ({ store with bytes := written ++ data }, .stored) := by
  show (if store.panicsOn = some data then (store, AppendEnd.panicked)
    else if store.failsOn = some data then (store, .failed (.refused "append failed"))
    else ({ store with bytes := store.bytes ++ data }, .stored)) = _
  rw [h.panicsOn_eq, h.failsOn_eq, h.bytes_eq, if_neg (Option.some_ne_none data).symm,
    if_neg (Option.some_ne_none data).symm]

lemma Snapshot.Reads.read {snapshot : Snapshot} {rest : Bytes} (h : snapshot.Reads rest)
    (room : Nat) :
    (snapshot.read room).1 = rest.take room ∧ (snapshot.read room).2.Reads (rest.drop room) := by
  unfold Snapshot.Reads at h
  refine ⟨?_, ?_⟩
  · rw [Snapshot.read, h]
  · show snapshot.bytes.drop
      (snapshot.position + ((snapshot.bytes.drop snapshot.position).take room).length) = _
    apply Bytes.drop_add_length
    rw [h, List.take_append_drop]

instance : GrowingLog MemoryStore where
  Holds := MemoryStore.Holds
  Reads _ snapshot rest := snapshot.Reads rest
  manner store :=
    ⟨store.timestamps, if store.failsToClose then .error (.refused "close failed") else .ok (), true⟩
  isLive := false
  refusal := .seekUnsupported "memory"
  append {store written} h data := by
    refine ⟨_, MemoryStore.append_eq h data, ⟨rfl, h.failsOn_eq, h.panicsOn_eq⟩, rfl, ?_⟩
    intro reader rest hreads
    rw [if_neg Bool.false_ne_true, List.append_nil]
    exact hreads
  openReader {store written} h := ⟨⟨store.bytes, 0⟩, rfl, h.bytes_eq⟩
  seekTo _ _ _ _ := rfl
  read {store snapshot rest} h room := by
    obtain ⟨hpiece, hmoved⟩ := h.read room
    refine ⟨(snapshot.read room).2, ?_, hmoved⟩
    rw [← hpiece]
    rfl
  wantsTimestamps_eq _ := rfl
  close {store written} h := ⟨rfl, congrArg some h.bytes_eq⟩
  contents?_eq h := congrArg some h.bytes_eq

end CommandLog
