import CommandLog.Proofs.Ring.Layout
import Mathlib.Data.List.ReduceOption
import Mathlib.Data.List.Rotate

/-!
# Once round the circle

The fields of a ring are redundant, and `Ring.push` trusts them: it does not look whether the slot that
it writes to is free, and a walk over the commands would pass over an empty slot without a word.  This
module says why nothing is lost that way.

Read once round from the oldest command on, the circle holds the commands that are kept and then free
slots only (`WellFormed.rotate_slots`).  So the size counts what lies in the slots, wherever it lies
(`WellFormed.size_eq_slots`).  The slot to be written holds a command exactly if the ring is full, and
a push hands back just what that slot held (`WellFormed.exists_slot_next`); the sizes before and after
it add up (`WellFormed.size_push`).

The main statement `pushAll_fillsCircle` says all this of every ring that is filled from a fresh one.
-/

namespace CommandLog

/-- In whatever order, several commands have as many bytes. -/
lemma Command.totalLength_eq_of_perm {commands others : List Command} (h : commands.Perm others) :
    totalLength commands = totalLength others := by
  induction h with
  | nil => rfl
  | cons command _ ih => rw [totalLength, totalLength, ih]
  | swap first second rest =>
    simp only [totalLength]
    omega
  | trans _ _ ih ih' => exact ih.trans ih'

namespace Ring

variable {ring : Ring} {capacity i : Nat}

/-! ## What lies in the slots -/

/-- Every place on the circle is a slot, and the first `count` of them from the oldest command on are
taken. -/
lemma WellFormed.exists_slot (hring : ring.WellFormed) (hi : i < ring.capacity) :
    ∃ slot, ring.slots[(ring.oldest + i) % ring.capacity]? = some slot ∧
      (slot.isSome = true ↔ i < ring.count) := by
  have hplace : (ring.oldest + i) % ring.capacity < ring.slots.size := Nat.mod_lt _ hring.pos
  have hslot := Array.getElem?_eq_getElem hplace
  have htaken := hring.taken i hi
  rw [hslot, Option.join_some] at htaken
  exact ⟨_, hslot, htaken⟩

/-- The slot of a kept command holds it. -/
lemma WellFormed.slot_of_lt (hring : ring.WellFormed) (hi : i < ring.count) :
    ring.slots[(ring.oldest + i) % ring.capacity]? = some ring.toList[i]? := by
  obtain ⟨slot, hslot, -⟩ := hring.exists_slot (hi.trans_le hring.count_le)
  rw [hring.getElem?_toList, get?, if_pos hi, hslot, Option.join_some]

/-- A slot behind the kept commands is free. -/
lemma WellFormed.slot_of_le (hring : ring.WellFormed) (hle : ring.count ≤ i)
    (hi : i < ring.capacity) : ring.slots[(ring.oldest + i) % ring.capacity]? = some none := by
  obtain ⟨slot, hslot, htaken⟩ := hring.exists_slot hi
  have hfree : slot = none := Option.not_isSome_iff_eq_none.1 fun h => hle.not_gt (htaken.1 h)
  rw [hslot, hfree]

/-- From the oldest command on, once round, the circle holds the kept commands and then free slots. -/
lemma WellFormed.rotate_slots (hring : ring.WellFormed) :
    ring.slots.toList.rotate ring.oldest =
      ring.toList.map some ++ List.replicate (ring.capacity - ring.count) none := by
  have hlength : ring.slots.toList.length = ring.capacity := Array.length_toList
  have hkept : (ring.toList.map some).length = ring.count := by
    rw [List.length_map, hring.length_toList]
  have hle := hring.count_le
  apply List.ext_getElem?
  intro i
  by_cases hi : i < ring.capacity
  · rw [List.getElem?_rotate (hlength ▸ hi), hlength, Nat.add_comm, Array.getElem?_toList]
    by_cases hlt : i < ring.count
    · obtain ⟨command, hcommand⟩ := Option.isSome_iff_exists.1 ((hring.isSome_get? i).2 hlt)
      rw [← hring.getElem?_toList] at hcommand
      rw [hring.slot_of_lt hlt, List.getElem?_append_left (hkept.symm ▸ hlt), List.getElem?_map,
        hcommand, Option.map_some]
    · rw [hring.slot_of_le (Nat.le_of_not_lt hlt) hi,
        List.getElem?_append_right (hkept.symm ▸ Nat.le_of_not_lt hlt), hkept,
        List.getElem?_replicate, if_pos (by omega)]
  · -- behind the last slot there is nothing on either side
    rw [List.getElem?_eq_none (by rw [List.length_rotate, hlength]; exact Nat.le_of_not_lt hi),
      List.getElem?_eq_none]
    rw [List.length_append, hkept, List.length_replicate]
    omega

/-- The commands in the slots, in the order of the slots, are those that are kept. -/
lemma WellFormed.slots_perm (hring : ring.WellFormed) :
    ring.slots.toList.reduceOption.Perm ring.toList := by
  have hround := (List.rotate_perm ring.slots.toList ring.oldest).symm.filterMap id
  have hkept : (ring.toList.map some).reduceOption = ring.toList := by
    rw [List.reduceOption, List.filterMap_map]
    exact List.filterMap_some
  have hall : (ring.slots.toList.rotate ring.oldest).reduceOption = ring.toList := by
    rw [hring.rotate_slots, List.reduceOption_append, hkept, List.reduceOption_replicate_none,
      List.append_nil]
  exact hround.trans (List.Perm.of_eq hall)

/-- The size counts the bytes of all that lies in the slots. -/
lemma WellFormed.size_eq_slots (hring : ring.WellFormed) :
    ring.size = Command.totalLength ring.slots.toList.reduceOption := by
  rw [hring.size_eq, Command.totalLength_eq_of_perm hring.slots_perm]

/-- A walk over the commands finds one under every number and passes over none. -/
lemma WellFormed.map_get? (hring : ring.WellFormed) :
    (List.range ring.count).map ring.get? = ring.toList.map some := by
  apply List.ext_getElem?
  intro i
  rw [List.getElem?_map, List.getElem?_map, hring.getElem?_toList]
  by_cases hi : i < ring.count
  · obtain ⟨command, hcommand⟩ := Option.isSome_iff_exists.1 ((hring.isSome_get? i).2 hi)
    rw [List.getElem?_range hi, Option.map_some, hcommand, Option.map_some]
  · rw [List.getElem?_eq_none (by rwa [List.length_range, ← Nat.not_lt]), get?, if_neg hi]
    rfl

/-! ## The slot to be written -/

/-- The slot that the next command goes into holds a command exactly if the ring is full, and then this
is the one that a push hands back. -/
lemma WellFormed.exists_slot_next (hring : ring.WellFormed) :
    ∃ slot, ring.slots[ring.next]? = some slot ∧ (slot.isSome = true ↔ ring.isFull = true) ∧
      ∀ command, (ring.push command).2 = slot := by
  have hfull : ring.isFull = true ↔ ring.count = ring.capacity := beq_iff_eq
  rcases Nat.lt_or_eq_of_le hring.count_le with hlt | heq
  · have hfree := hring.slot_of_le (Nat.le_refl _) hlt
    rw [← hring.next_eq] at hfree
    refine ⟨none, hfree, ?_, fun command => by rw [push_eq_of_lt hlt]⟩
    rw [hfull]
    simp [hlt.ne]
  · obtain ⟨slot, hslot, htaken⟩ := hring.exists_slot hring.pos
    rw [Nat.add_zero, Nat.mod_eq_of_lt hring.oldest_lt, ← hring.next_eq_oldest heq] at hslot
    refine ⟨slot, hslot, ?_, ?_⟩
    · rw [hfull, htaken]
      exact iff_of_true (heq ▸ hring.pos) heq
    · intro command
      rw [push_eq_of_full heq, hslot, Option.join_some]

/-- The bytes that a push takes over are those that it keeps and those that it hands back. -/
lemma WellFormed.size_push (hring : ring.WellFormed) (command : Command) :
    (ring.push command).1.size + Command.totalLength (ring.push command).2.toList =
      ring.size + command.length := by
  rw [(hring.push command).size_eq, hring.size_eq, Nat.add_comm, ← Command.totalLength_append,
    hring.back_append_toList_push, Command.totalLength_append]
  rfl

/-! ## From a fresh ring -/

/-- Whatever was pushed onto a fresh ring, its pointers stay within the circle; the next slot is the one
behind the newest command; from the oldest command on exactly the first `count` slots are taken; and the
size counts what lies in the slots.

So there is a slot wherever one is read or written, and no walk passes over a command.  A push overwrites
a command exactly on a full ring, it always hands that command back, and the bytes of this command are
among those that it is subtracted from. -/
theorem pushAll_fillsCircle (hcapacity : 0 < capacity) (commands : List Command) :
    ∃ fresh, ofCapacity capacity = .ok fresh ∧
      let ring := fresh.pushAll commands
      ring.capacity = capacity ∧ ring.next < capacity ∧ ring.oldest < capacity ∧
      ring.count ≤ capacity ∧ ring.next = (ring.oldest + ring.count) % capacity ∧
      (∀ i < capacity, ∃ slot, ring.slots[(ring.oldest + i) % capacity]? = some slot ∧
        (slot.isSome = true ↔ i < ring.count)) ∧
      ring.size = Command.totalLength ring.slots.toList.reduceOption ∧
      (List.range ring.count).map ring.get? = ring.toList.map some ∧
      ∃ slot, ring.slots[ring.next]? = some slot ∧
        (slot.isSome = true ↔ ring.isFull = true) ∧
        ∀ command, (ring.push command).2 = slot ∧
          (ring.push command).1.size + Command.totalLength slot.toList =
            ring.size + command.length := by
  have hring := (wellFormed_empty hcapacity).pushAll commands
  have hroom : ((empty capacity).pushAll commands).capacity = capacity := by
    rw [capacity_pushAll, capacity_empty]
  obtain ⟨slot, hslot, htaken, hback⟩ := hring.exists_slot_next
  refine ⟨empty capacity, if_pos hcapacity, hroom, ?_, ?_, ?_, ?_, ?_, hring.size_eq_slots,
    hring.map_get?, slot, hslot, htaken, ?_⟩
  · simpa only [hroom] using hring.next_lt
  · simpa only [hroom] using hring.oldest_lt
  · simpa only [hroom] using hring.count_le
  · simpa only [hroom] using hring.next_eq
  · intro i hi
    simpa only [hroom] using hring.exists_slot (hroom.symm ▸ hi)
  · intro command
    have hsize := hring.size_push command
    rw [hback command] at hsize
    exact ⟨hback command, hsize⟩

/-- Three slots and five commands: the two oldest ones were overwritten, and the third will be. -/
theorem pushAll_fillsCircle_three :
    0 < 3 ∧ ∃ fresh, ofCapacity 3 = .ok fresh ∧
      let ring := fresh.pushAll [⟨[97, 10]⟩, ⟨[10]⟩, ⟨[98, 98, 10]⟩, ⟨[99, 10]⟩, ⟨[100, 10]⟩]
      ring.next = (ring.oldest + ring.count) % 3 ∧
      ring.size = Command.totalLength ring.slots.toList.reduceOption ∧
      ∀ command, (ring.push command).2 = some ⟨[98, 98, 10]⟩ ∧
        (ring.push command).1.size + 3 = ring.size + command.length := by
  obtain ⟨fresh, hfresh, -, -, -, -, hnext, -, hsize, -, slot, hslot, -, hpush⟩ :=
    pushAll_fillsCircle (show 0 < 3 by decide)
      [⟨[97, 10]⟩, ⟨[10]⟩, ⟨[98, 98, 10]⟩, ⟨[99, 10]⟩, ⟨[100, 10]⟩]
  obtain rfl := Except.ok.inj hfresh
  cases hslot
  exact ⟨by decide, _, hfresh, hnext, hsize, hpush⟩

end Ring

end CommandLog
