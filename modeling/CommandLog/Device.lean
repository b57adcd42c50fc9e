import CommandLog.LineBuffer
import CommandLog.Ring

/-!
# The device

A device keeps the most recent commands written to it in a `Ring`.  A write may carry any bytes:
the commands that it completes go into the log, and a beginning of a command stays in the device
until a later write completes it, whoever makes that write.

A `Cursor` is a position in the log.  It is not tied to a command: when a write overwrites commands,
the position stays and the bytes move under it.  One read gives at most the rest of one command.
Read after read, it gives the same bytes as `Cursor.readToEnd` at once: `Cursor.readToEnd_of_read`
is the step, and `Cursor.readToEnd_of_read_eq_nil` says where it ends.
-/

namespace CommandLog

/-- A log of recent commands, and the beginning of a command that is not complete yet. -/
structure Device where
  log : Ring
  incoming : LineBuffer

/-- Where a cursor is to be moved to. -/
inductive Whence where
  | start (position : UInt64)
  | current (delta : Int64)
  | finish (delta : Int64)

namespace Whence

/-- The position that is meant, for a cursor at `position` over `size` bytes.  It may lie outside of
the bytes on either side. -/
def target (position size : Nat) : Whence → Int
  | .start n => n.toNat
  | .current delta => position + delta.toInt
  | .finish delta => size + delta.toInt

end Whence

namespace Device

/-- A device that was never written to. -/
def empty (capacity : Nat) : Device := ⟨.empty capacity, .empty⟩

/-- A device with room for at least one command. -/
def ofCapacity (capacity : Nat) : Except Failure Device :=
  (Ring.ofCapacity capacity).map (⟨·, .empty⟩)

/-- Writes bytes: every command they complete is added to the log. -/
def write (device : Device) (data : Bytes) : Device :=
  let (commands, rest) := (device.incoming.feed data).drain
  ⟨device.log.pushAll commands, rest⟩

/-- The commands that are kept, oldest first. -/
def entries (device : Device) : List Command := device.log.toList

/-- The bytes of the commands that are kept. -/
def contents (device : Device) : Bytes := device.log.contents

/-- How many bytes are kept. -/
def size (device : Device) : Nat := device.log.size

end Device

/-- A position in a device's log. -/
structure Cursor where
  position : Nat
  deriving DecidableEq

namespace Cursor

/-- The beginning of the log. -/
def start : Cursor := ⟨0⟩

/-- Reads at most `room` bytes of the one command that the position falls into.  Behind the end
there is nothing to read. -/
def read (device : Device) (room : Nat) (cursor : Cursor) : Bytes × Cursor :=
  match device.log.locate? cursor.position with
  | none => ([], cursor)
  | some (command, offset) =>
    let piece := (command.bytes.drop offset).take room
    (piece, ⟨cursor.position + piece.length⟩)

/-- Reads all that is left of the log, across its commands. -/
def readToEnd (device : Device) (cursor : Cursor) : Bytes × Cursor :=
  let rest := device.contents.drop cursor.position
  (rest, ⟨cursor.position + rest.length⟩)

/-- Moves to the given place.  Places outside of the stored bytes are refused and leave the
position as it is; the end itself is allowed. -/
def seek (device : Device) (whence : Whence) (cursor : Cursor) : Except Fault Cursor :=
  let target := whence.target cursor.position device.size
  if 0 ≤ target ∧ target ≤ device.size then .ok ⟨target.toNat⟩
  else .error (.seekOutside target device.size)

/-- Moves to byte `offset` of command number `command`, wherever the cursor was. -/
def seekTo (device : Device) (command offset : UInt32) : Except Failure Cursor :=
  (device.log.positionOf command offset).map (⟨·⟩)

/-- A read gives the first of what is left, and the rest is left for the next one. -/
theorem readToEnd_of_read (device : Device) (room : Nat) (cursor : Cursor) :
    cursor.readToEnd device =
      ((cursor.read device room).1 ++ ((cursor.read device room).2.readToEnd device).1,
        ((cursor.read device room).2.readToEnd device).2) := by
  unfold read
  split
  · rfl
  · next command offset h =>
    rw [Ring.locate?_eq] at h
    obtain ⟨_, rest, hrest⟩ := Ring.drop_concat_of_locateIn? h
    have hdrop : device.contents.drop cursor.position =
        (command.bytes.drop offset).take room ++
          ((command.bytes.drop offset).drop room ++ rest) := by
      rw [← List.append_assoc, List.take_append_drop]
      exact hrest
    have hlater := Bytes.drop_add_length hdrop
    simp only [readToEnd, hdrop, hlater, List.length_append, Nat.add_assoc]

/-- A read with room for a byte comes back empty only where nothing is left. -/
theorem readToEnd_of_read_eq_nil {device : Device} {room : Nat} {cursor : Cursor}
    (hroom : 0 < room) (h : (cursor.read device room).1 = []) :
    cursor.readToEnd device = ([], cursor) := by
  unfold read at h
  split at h
  · next hnone =>
    rw [Ring.locate?_eq, Ring.locateIn?_eq_none_iff, ← Command.length_concat] at hnone
    simp [readToEnd, Device.contents, Ring.contents, List.drop_eq_nil_of_le hnone]
  · next command offset hsome =>
    rw [Ring.locate?_eq] at hsome
    have hlt := (Ring.drop_concat_of_locateIn? hsome).1
    simp only [List.take_eq_nil_iff, List.drop_eq_nil_iff] at h
    exfalso
    unfold Command.length at hlt
    omega

end Cursor

end CommandLog
