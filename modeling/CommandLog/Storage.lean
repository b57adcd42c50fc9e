import CommandLog.DataFile

/-!
# Storages

What the server keeps its log in.  A `Storage` takes commands one at a time, opens readers on what
it holds, and may be able to place a reader at a given command.  A reader is independent of the
storage once it is open, but what it reads is what the storage holds at the time of the read: a
`read` is given both.

Four storages are here: a `Device`, which keeps recent commands only and can place a reader; a
`ScarceDevice`, the same with memory that can run short; a `HostedFile`, a data file in its file
system, which keeps everything and wants timestamps; and a `MemoryStore`, a plain run of bytes whose
operations can be made to fail.

An append fails where memory or the file system refuses.  The first leaves a `ScarceDevice` with the
device that it had; the second may leave the command held back in the data file.  A device has a lock
of its own as well, which is left out: nothing that is done while it is held can panic.

A reader can be read in pieces of any size or to its end at once; `Storage.readToEnd_of_read` and
`Storage.readToEnd_of_read_eq_nil` say that both give the same bytes.
-/

namespace CommandLog

/-- How an append ends. -/
inductive AppendEnd where
  | stored
  | failed (failure : Failure)
  /-- The append panicked.  Whoever made it held the lock on the storage and still holds it. -/
  | panicked
  deriving DecidableEq

/-- A log that commands are appended to and read back from, with readers of type `ρ`. -/
class Storage (σ : Type) (ρ : outParam Type) where
  /-- The short name of this kind of storage. -/
  name : σ → String
  /-- Appends one complete command. -/
  append : σ → Bytes → σ × AppendEnd
  /-- Opens a reader at the start of the log. -/
  openReader : σ → Except Failure ρ
  /-- Places a reader at byte `offset` of a command, counted from the oldest one that is kept.  A
  storage that keeps no track of single commands refuses. -/
  seekTo : σ → ρ → (command offset : UInt32) → Except Failure ρ :=
    fun storage _ _ _ => .error (.seekUnsupported (name storage))
  /-- Reads at most so many bytes of what the storage holds now. -/
  read : σ → ρ → (room : Nat) → Except Fault (Bytes × ρ)
  /-- Reads all that a reader has before it. -/
  readToEnd : σ → ρ → Except Fault (Bytes × ρ)
  /-- A read gives the first of it, and leaves the rest for the next one. -/
  readToEnd_of_read : ∀ {storage : σ} {room : Nat} {reader moved : ρ} {piece : Bytes},
    read storage reader room = .ok (piece, moved) →
      readToEnd storage reader =
        (readToEnd storage moved).map fun (rest, last) => (piece ++ rest, last)
  /-- A read with room for a byte comes back empty only where nothing is left. -/
  readToEnd_of_read_eq_nil : ∀ {storage : σ} {room : Nat} {reader moved : ρ}, 0 < room →
    read storage reader room = .ok ([], moved) → readToEnd storage reader = .ok ([], reader)
  /-- Should timestamps be written into this storage? -/
  wantsTimestamps : σ → Bool := fun _ => false
  /-- Gives the storage up, and removes what is not to outlive the server. -/
  close : σ → σ × Except Failure Unit := fun storage => (storage, .ok ())
  /-- All bytes of the log, or nothing once the log itself is gone. -/
  contents? : σ → Option Bytes

instance : Storage Device Cursor where
  name _ := "device"
  append device data := (device.write data, .stored)
  openReader _ := .ok .start
  seekTo device _ command offset := Cursor.seekTo device command offset
  read device cursor room := .ok (cursor.read device room)
  readToEnd device cursor := .ok (cursor.readToEnd device)
  readToEnd_of_read {device room cursor moved piece} h := by
    rw [Cursor.readToEnd_of_read device room cursor]
    simp only [Except.ok.injEq] at h
    rw [h]
    rfl
  readToEnd_of_read_eq_nil {device room cursor moved} hroom h := by
    simp only [Except.ok.injEq] at h
    rw [Cursor.readToEnd_of_read_eq_nil hroom (by rw [h])]
  contents? device := some device.contents

/-- A device, with what its appends meet. -/
structure ScarceDevice where
  device : Device
  /-- For each of the appends to come, the size of a buffer for which there is no memory then, if
  there is not enough.  For all later ones there is. -/
  shortages : List (Option Nat)

instance : Storage ScarceDevice Cursor where
  name scarce := Storage.name scarce.device
  append scarce data :=
    match scarce.shortages with
    | some size :: later => (⟨scarce.device, later⟩, .failed (.noMemory size))
    | shortages => (⟨scarce.device.write data, shortages.tail⟩, .stored)
  openReader scarce := Storage.openReader scarce.device
  seekTo scarce := Storage.seekTo scarce.device
  read scarce := Storage.read scarce.device
  readToEnd scarce := Storage.readToEnd scarce.device
  readToEnd_of_read := Storage.readToEnd_of_read
  readToEnd_of_read_eq_nil := Storage.readToEnd_of_read_eq_nil
  contents? scarce := Storage.contents? scarce.device

/-- A data file together with the file system that it is in. -/
structure HostedFile where
  host : FileSystem
  file : DataFile

instance : Storage HostedFile FileCursor where
  name _ := "file"
  append hosted data :=
    match hosted.file.append hosted.host data with
    | (host, file, .ok ()) => (⟨host, file⟩, .stored)
    | (host, file, .error fault) => (⟨host, file⟩, .failed (.io fault))
  openReader hosted := FileCursor.openAt hosted.host hosted.file.path
  read hosted cursor room := cursor.read hosted.host room
  readToEnd hosted cursor := cursor.readToEnd hosted.host
  readToEnd_of_read := FileCursor.readToEnd_of_read
  readToEnd_of_read_eq_nil := FileCursor.readToEnd_of_read_eq_nil
  wantsTimestamps _ := true
  close hosted :=
    let (host, file, closed) := hosted.file.close hosted.host
    (⟨host, file⟩, closed)
  contents? hosted := hosted.host.contents? hosted.file.path

/-- A run of bytes, with appends and a closing that can be made to go wrong. -/
structure MemoryStore where
  bytes : Bytes
  /-- The append that fails. -/
  failsOn : Option Bytes
  /-- The append that panics. -/
  panicsOn : Option Bytes
  failsToClose : Bool
  timestamps : Bool
  /-- How often it was closed. -/
  closings : Nat

/-- A reader over the bytes that were there when it was opened. -/
structure Snapshot where
  bytes : Bytes
  position : Nat

namespace Snapshot

/-- Reads at most `room` bytes. -/
def read (room : Nat) (snapshot : Snapshot) : Bytes × Snapshot :=
  let piece := (snapshot.bytes.drop snapshot.position).take room
  (piece, { snapshot with position := snapshot.position + piece.length })

/-- Reads all that is left. -/
def readToEnd (snapshot : Snapshot) : Bytes × Snapshot :=
  let rest := snapshot.bytes.drop snapshot.position
  (rest, { snapshot with position := snapshot.position + rest.length })

/-- A read gives the first of what is left, and the rest is left for the next one. -/
theorem readToEnd_of_read (room : Nat) (snapshot : Snapshot) :
    snapshot.readToEnd =
      ((snapshot.read room).1 ++ (snapshot.read room).2.readToEnd.1,
        (snapshot.read room).2.readToEnd.2) := by
  have hdrop := (List.take_append_drop room (snapshot.bytes.drop snapshot.position)).symm
  simp only [readToEnd, read, Bytes.drop_add_length hdrop, Nat.add_assoc, ← List.length_append,
    List.take_append_drop]

/-- A read with room for a byte comes back empty only where nothing is left. -/
theorem readToEnd_of_read_eq_nil {room : Nat} {snapshot : Snapshot} (hroom : 0 < room)
    (h : (snapshot.read room).1 = []) : snapshot.readToEnd = ([], snapshot) := by
  simp only [read, List.take_eq_nil_iff] at h
  rcases h with h | h
  · omega
  · simp only [readToEnd, h, List.length_nil, Nat.add_zero]

end Snapshot

instance : Storage MemoryStore Snapshot where
  name _ := "memory"
  append store data :=
    if store.panicsOn = some data then (store, .panicked)
    else if store.failsOn = some data then (store, .failed (.refused "append failed"))
    else ({ store with bytes := store.bytes ++ data }, .stored)
  openReader store := .ok ⟨store.bytes, 0⟩
  read _ snapshot room := .ok (snapshot.read room)
  readToEnd _ snapshot := .ok snapshot.readToEnd
  readToEnd_of_read {store room snapshot moved piece} h := by
    rw [Snapshot.readToEnd_of_read room snapshot]
    simp only [Except.ok.injEq] at h
    rw [h]
    rfl
  readToEnd_of_read_eq_nil {store room snapshot moved} hroom h := by
    simp only [Except.ok.injEq] at h
    rw [Snapshot.readToEnd_of_read_eq_nil hroom (by rw [h])]
  wantsTimestamps store := store.timestamps
  close store :=
    ({ store with closings := store.closings + 1 },
      if store.failsToClose then .error (.refused "close failed") else .ok ())
  contents? store := some store.bytes

end CommandLog
