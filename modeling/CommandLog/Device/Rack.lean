import CommandLog.Storage

/-!
# Devices in use

A `Rack` holds devices, references to them and cursors on them.  Any number of references may lead
to one device, and what is written through one of them is seen through all.  A cursor belongs to the
device that it was opened on, through whichever reference.

A history of a rack is a list of `Rack.Action`s; `Rack.step` carries one action out and gives its
answer, and `Rack.stepAll` a history.  References and cursors are known by the order in which they
were made.
-/

namespace CommandLog

/-- Devices, the references that lead to them, and the cursors open on them. -/
structure Rack where
  devices : List Device
  /-- The device that each reference leads to. -/
  references : List Nat
  /-- The device that each cursor is open on, and where it stands. -/
  cursors : List (Nat × Cursor)

namespace Rack

/-- What can be done with a rack. -/
inductive Action where
  | write (reference : Nat) (data : Bytes)
  /-- Makes another reference to the same device. -/
  | refer (reference : Nat)
  | openCursor (reference : Nat)
  | read (cursor room : Nat)
  | readToEnd (cursor : Nat)
  | seek (cursor : Nat) (whence : Whence)
  | seekTo (cursor : Nat) (command offset : UInt32)

/-- What an action answers. -/
inductive Answer where
  | written (count : Nat)
  /-- The number of a new reference or cursor. -/
  | made (index : Nat)
  | bytes (data : Bytes)
  | position (position : Nat)
  | fault (fault : Fault)
  | failure (failure : Failure)

/-- New devices, each with one reference to it. -/
def ofCapacities (capacities : List Nat) : Except Failure Rack := do
  let devices ← capacities.mapM Device.ofCapacity
  return ⟨devices, List.range devices.length, []⟩

/-- The device that a reference leads to. -/
def device? (rack : Rack) (reference : Nat) : Option Device := do
  rack.devices[← rack.references[reference]?]?

/-- The device that a cursor is open on, and the cursor. -/
def cursor? (rack : Rack) (cursor : Nat) : Option (Device × Cursor) := do
  let (device, at_) ← rack.cursors[cursor]?
  return (← rack.devices[device]?, at_)

/-- Puts a cursor somewhere else on its device. -/
def place (rack : Rack) (cursor : Nat) (moved : Cursor) : Rack :=
  { rack with
    cursors := rack.cursors.modify cursor fun (device, _) => (device, moved) }

/-- Carries an action out.  There is no answer if it names a reference or a cursor that was never
made. -/
def step (rack : Rack) : Action → Option (Rack × Answer)
  | .write reference data => do
    let number ← rack.references[reference]?
    let ⟨devices, references, cursors⟩ := rack
    if number < devices.length then
      return (⟨devices.modify number (·.write data), references, cursors⟩, .written data.length)
    else none
  | .refer reference => do
    let number ← rack.references[reference]?
    return ({ rack with references := rack.references ++ [number] },
      .made rack.references.length)
  | .openCursor reference => do
    let number ← rack.references[reference]?
    return ({ rack with cursors := rack.cursors ++ [(number, .start)] },
      .made rack.cursors.length)
  | .read cursor room => do
    let (device, at_) ← rack.cursor? cursor
    let (piece, moved) := at_.read device room
    return (rack.place cursor moved, .bytes piece)
  | .readToEnd cursor => do
    let (device, at_) ← rack.cursor? cursor
    let (data, moved) := at_.readToEnd device
    return (rack.place cursor moved, .bytes data)
  | .seek cursor whence => do
    let (device, at_) ← rack.cursor? cursor
    match at_.seek device whence with
    | .ok moved => return (rack.place cursor moved, .position moved.position)
    | .error fault => return (rack, .fault fault)
  | .seekTo cursor command offset => do
    let (device, _) ← rack.cursor? cursor
    match Cursor.seekTo device command offset with
    | .ok moved => return (rack.place cursor moved, .position moved.position)
    | .error failure => return (rack, .failure failure)

/-- Carries a history out, and gives the answers in order. -/
def stepAll (rack : Rack) : List Action → Option (Rack × List Answer)
  | [] => some (rack, [])
  | action :: others => do
    let (rack, answer) ← rack.step action
    let (rack, answers) ← rack.stepAll others
    return (rack, answer :: answers)

end Rack

end CommandLog
