import CommandLog.Command

/-!
# The bounded log

A `Ring` keeps the most recent commands, at most `capacity` of them, in a circle of slots.  Once
every slot is taken, each new command overwrites the oldest one, and `push` hands the overwritten
command back: that is the only way in which a command leaves the log.

Places in the log are counted in two ways.  A *position* counts bytes from the beginning of the
oldest command that is kept; `locate?` turns it into that command and an offset within it.  A
*command number* counts commands from the oldest one; `positionOf` turns a command number and an
offset into a position.  Both walk the slots and stop where they have found the place; `locate?_eq`
and `lengthBefore_eq` say what they find in terms of the list of commands.

`Ring.WellFormed` is the relation between the redundant fields on which all of this rests;
`wellFormed_empty` states it for the ring from which every other one is filled.
-/

namespace CommandLog

/-- A circle of slots, some of which hold the commands that are kept. -/
structure Ring where
  slots : Array (Option Command)
  /-- The slot that the next command goes into. -/
  next : Nat
  /-- The slot of the oldest command. -/
  oldest : Nat
  /-- How many commands are kept. -/
  count : Nat
  /-- How many commands have been overwritten, which is the running number of the oldest. -/
  overwritten : Nat
  /-- How many bytes the kept commands have together. -/
  size : Nat

namespace Ring

/-- A ring with `capacity` slots and no command. -/
def empty (capacity : Nat) : Ring :=
  ⟨Array.replicate capacity none, 0, 0, 0, 0, 0⟩

/-- A ring with room for at least one command. -/
def ofCapacity (capacity : Nat) : Except Failure Ring :=
  if 0 < capacity then .ok (empty capacity) else .error .noRoom

/-- How many commands the ring has room for. -/
def capacity (ring : Ring) : Nat := ring.slots.size

/-- Adds a command as the newest one.  If every slot was taken, the oldest command makes room for it
and is the second part of the answer. -/
def push : Ring → Command → Ring × Option Command
  | ⟨slots, place, oldest, count, overwritten, size⟩, command =>
    let capacity := slots.size
    let old := slots[place]?.join
    let slots := slots.setIfInBounds place (some command)
    let next := (place + 1) % capacity
    let size := size + command.length
    if count < capacity then (⟨slots, next, oldest, count + 1, overwritten, size⟩, none)
    else
      (⟨slots, next, next, count, overwritten + 1, size - old.elim 0 Command.length⟩, old)

/-- Adds commands one after the other. -/
def pushAll (ring : Ring) (commands : List Command) : Ring :=
  commands.foldl (fun ring command => (ring.push command).1) ring

/-- Command number `i`, counted from the oldest one. -/
def get? (ring : Ring) (i : Nat) : Option Command :=
  if i < ring.count then ring.slots[(ring.oldest + i) % ring.capacity]?.join else none

/-- The commands that are kept, oldest first. -/
def toList (ring : Ring) : List Command :=
  (List.range ring.count).filterMap ring.get?

/-- The bytes of the commands that are kept, oldest first. -/
def contents (ring : Ring) : Bytes := Command.concat ring.toList

/-- Has no command been added yet? -/
def isEmpty (ring : Ring) : Bool := ring.count == 0

/-- Will the next command overwrite one? -/
def isFull (ring : Ring) : Bool := ring.count == ring.capacity

/-- Among consecutive commands, the one that holds the byte at a position, with the offset of that
byte within it. -/
def locateIn? : List Command → Nat → Option (Command × Nat)
  | [], _ => none
  | command :: others, position =>
    if position < command.length then some (command, position)
    else locateIn? others (position - command.length)

/-- Among `left` commands from number `i` on, the one that holds the byte at a position, which
counts from the first of them. -/
def locateFrom? (ring : Ring) : (left i position : Nat) → Option (Command × Nat)
  | 0, _, _ => none
  | left + 1, i, position =>
    match ring.get? i with
    | none => locateFrom? ring left (i + 1) position
    | some command =>
      if position < command.length then some (command, position)
      else locateFrom? ring left (i + 1) (position - command.length)

/-- The command that holds the byte at a position, with the offset of that byte within it.  At the
end of the log and behind it there is none. -/
def locate? (ring : Ring) (position : Nat) : Option (Command × Nat) :=
  ring.locateFrom? ring.count 0 position

/-- How many bytes the commands before number `i` have together. -/
def lengthBefore (ring : Ring) : (i : Nat) → Nat
  | 0 => 0
  | i + 1 => lengthBefore ring i + (ring.get? i).elim 0 Command.length

/-- The position of byte `offset` of command number `command`. -/
def positionOf (ring : Ring) (command offset : UInt32) : Except Failure Nat :=
  match ring.get? command.toNat with
  | none => .error (.outOfRange command offset)
  | some target =>
    if offset.toNat < target.length then
      .ok (ring.lengthBefore command.toNat + offset.toNat)
    else .error (.outOfRange command offset)

/-- What holds of the fields in every ring that was filled from an empty one: the pointers stay
within the circle, the next slot is the one behind the newest command, exactly the slots of the
kept commands are taken, and the size is the sum of their lengths. -/
structure WellFormed (ring : Ring) : Prop where
  next_lt : ring.next < ring.capacity
  oldest_lt : ring.oldest < ring.capacity
  count_le : ring.count ≤ ring.capacity
  next_eq : ring.next = (ring.oldest + ring.count) % ring.capacity
  taken : ∀ i, i < ring.capacity →
    ((ring.slots[(ring.oldest + i) % ring.capacity]?.join).isSome ↔ i < ring.count)
  size_eq : ring.size = Command.totalLength ring.toList

theorem capacity_empty (capacity : Nat) : (empty capacity).capacity = capacity := by
  simp [Ring.capacity, empty]

theorem capacity_push (ring : Ring) (command : Command) :
    (ring.push command).1.capacity = ring.capacity := by
  unfold push Ring.capacity
  simp only
  split <;> simp

/-- The byte at the position that was looked for is in the command found, and behind it come the
rest of this command and the others. -/
theorem drop_concat_of_locateIn? {commands : List Command} {position offset : Nat}
    {command : Command} (h : locateIn? commands position = some (command, offset)) :
    offset < command.length ∧
      ∃ rest, (Command.concat commands).drop position = command.bytes.drop offset ++ rest := by
  induction commands generalizing position with
  | nil => simp [locateIn?] at h
  | cons first others ih =>
    have hcons : Command.concat (first :: others) = first.bytes ++ Command.concat others := rfl
    rw [locateIn?] at h
    split at h
    · next hlt =>
      simp only [Option.some.injEq, Prod.mk.injEq] at h
      obtain ⟨rfl, rfl⟩ := h
      exact ⟨hlt, _, by rw [hcons, List.drop_append_of_le_length (Nat.le_of_lt hlt)]⟩
    · next hle =>
      obtain ⟨hoffset, rest, hrest⟩ := ih h
      refine ⟨hoffset, rest, ?_⟩
      rw [hcons, List.drop_append, List.drop_eq_nil_of_le (Nat.le_of_not_lt hle), List.nil_append]
      exact hrest

/-- No command is found exactly at the end of the commands and behind it. -/
theorem locateIn?_eq_none_iff {commands : List Command} {position : Nat} :
    locateIn? commands position = none ↔ Command.totalLength commands ≤ position := by
  induction commands generalizing position with
  | nil => simp [locateIn?, Command.totalLength]
  | cons first others ih =>
    rw [locateIn?, Command.totalLength]
    split
    · next hlt => simp only [reduceCtorEq, false_iff]; omega
    · next hle => rw [ih]; omega

/-- The walk over the slots finds what is found in the list of the commands there. -/
theorem locateFrom?_eq (ring : Ring) (left i position : Nat) :
    ring.locateFrom? left i position =
      locateIn? ((List.range' i left).filterMap ring.get?) position := by
  induction left generalizing i position with
  | zero => rfl
  | succ left ih =>
    rw [locateFrom?, List.range'_succ, List.filterMap_cons]
    cases ring.get? i with
    | none => exact ih (i + 1) position
    | some command => simp only [locateIn?, ih]

theorem locate?_eq (ring : Ring) (position : Nat) :
    ring.locate? position = locateIn? ring.toList position := by
  rw [locate?, locateFrom?_eq, toList, List.range_eq_range']

theorem lengthBefore_eq (ring : Ring) (i : Nat) :
    ring.lengthBefore i = Command.totalLength ((List.range i).filterMap ring.get?) := by
  induction i with
  | zero => rfl
  | succ i ih =>
    rw [lengthBefore, ih, List.range_succ, List.filterMap_append, Command.totalLength_append]
    cases h : ring.get? i <;> simp [h, Command.totalLength]

theorem toList_empty (capacity : Nat) : (empty capacity).toList = [] := rfl

/-- An empty ring with a slot is well formed. -/
theorem wellFormed_empty {capacity : Nat} (h : 0 < capacity) : (empty capacity).WellFormed where
  next_lt := by rw [capacity_empty]; exact h
  oldest_lt := by rw [capacity_empty]; exact h
  count_le := Nat.zero_le _
  next_eq := by simp [empty]
  taken := by
    intro i _
    simp only [empty, Nat.not_lt_zero, iff_false, Bool.not_eq_true, Option.isSome_eq_false_iff]
    simp only [Array.getElem?_replicate]
    split <;> rfl
  size_eq := rfl

end Ring

end CommandLog
