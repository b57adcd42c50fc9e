import CommandLog.Proofs.Ring.Layout

/-!
# The ring is a bounded queue

Seen from outside, a ring of a given capacity into which commands are pushed is a queue that never
grows beyond its capacity: the main statement `pushAll_isBoundedQueue` says what every query answers
after any number of pushes onto a fresh ring, and what the pushes themselves have handed back.

`toList_pushAll` is the heart of it: the last commands are kept, as many as there is room for, and the
others have been handed back.
-/

namespace CommandLog

namespace Ring

variable {capacity : Nat}

/-! ## From an empty ring -/

lemma count_pushAll_empty (hcapacity : 0 < capacity) (commands : List Command) :
    ((empty capacity).pushAll commands).count = min commands.length capacity := by
  rw [((wellFormed_empty hcapacity).count_pushAll commands).1, capacity_empty]
  exact congrArg (min · capacity) (Nat.zero_add _)

/-- What is kept are the last commands, and what is gone are the others. -/
lemma toList_pushAll (hcapacity : 0 < capacity) (commands : List Command) :
    ((empty capacity).pushAll commands).toList = commands.drop (commands.length - capacity) ∧
      (empty capacity).overwrittenBy commands = commands.take (commands.length - capacity) := by
  have hring := wellFormed_empty hcapacity
  have hkept := hring.toList_pushAll commands
  have hall := hring.overwrittenBy_append_toList commands
  rw [toList_empty, List.nil_append, capacity_empty] at hkept
  rw [toList_empty, List.nil_append] at hall
  refine ⟨hkept, ?_⟩
  apply (List.append_left_inj (commands.drop (commands.length - capacity))).1
  rw [List.take_append_drop, ← hkept, hall]

/-- The answer of one push, from the commands before it. -/
lemma push_pushAll_empty (hcapacity : 0 < capacity) (before : List Command) (command : Command) :
    (((empty capacity).pushAll before).push command).2 =
      if capacity ≤ before.length then before[before.length - capacity]? else none := by
  have hring := (wellFormed_empty hcapacity).pushAll before
  have hcount := count_pushAll_empty hcapacity before
  have hroom : ((empty capacity).pushAll before).capacity = capacity := by
    rw [capacity_pushAll, capacity_empty]
  by_cases hfull : capacity ≤ before.length
  · obtain ⟨old, rest, hlist, hback, -⟩ := hring.push_of_full (by omega) command
    rw [(toList_pushAll hcapacity before).1] at hlist
    rw [if_pos hfull, hback, ← List.head?_drop, hlist, List.head?_cons]
  · rw [if_neg hfull, push_eq_of_lt (by omega)]

lemma length_handedBack (ring : Ring) (commands : List Command) :
    (ring.handedBack commands).length = commands.length := by
  induction commands generalizing ring with
  | nil => rfl
  | cons command others ih => rw [handedBack, List.length_cons, ih, List.length_cons]

lemma getElem?_handedBack (ring : Ring) (commands : List Command) (k : Nat) :
    (ring.handedBack commands)[k]? =
      commands[k]?.map fun command => ((ring.pushAll (commands.take k)).push command).2 := by
  induction commands generalizing ring k with
  | nil => rfl
  | cons command others ih =>
    cases k with
    | zero => rfl
    | succ k =>
      rw [handedBack, List.getElem?_cons_succ, ih, List.getElem?_cons_succ, List.take_succ_cons,
        pushAll_cons]

/-- While there is room a push hands nothing back, and after that each one hands back the command
that was pushed one capacity before it. -/
lemma getElem?_handedBack_empty (hcapacity : 0 < capacity) {commands : List Command} {k : Nat}
    (hk : k < commands.length) :
    ((empty capacity).handedBack commands)[k]? =
      some (if capacity ≤ k then commands[k - capacity]? else none) := by
  have hlength : (commands.take k).length = k := List.length_take_of_le (Nat.le_of_lt hk)
  rw [getElem?_handedBack, List.getElem?_eq_getElem hk, Option.map_some,
    push_pushAll_empty hcapacity, hlength]
  by_cases hfull : capacity ≤ k
  · rw [if_pos hfull, if_pos hfull, List.getElem?_take_of_lt (by omega)]
  · rw [if_neg hfull, if_neg hfull]

/-! ## The bounded queue -/

/-- After any commands were pushed onto a fresh ring, it keeps the last of them in order, as many as
there is room for, and the pushes have handed back exactly the others, in order and each as late as
possible; every query answers accordingly. -/
theorem pushAll_isBoundedQueue (hcapacity : 0 < capacity) (commands : List Command) :
    ∃ fresh, ofCapacity capacity = .ok fresh ∧
      let ring := fresh.pushAll commands
      ring.toList = commands.drop (commands.length - capacity) ∧
      (∀ k < commands.length, (fresh.handedBack commands)[k]? =
        some (if capacity ≤ k then commands[k - capacity]? else none)) ∧
      (fresh.handedBack commands).length = commands.length ∧
      (fresh.handedBack commands).reduceOption ++ ring.toList = commands ∧
      ring.count = min commands.length capacity ∧
      ring.overwritten = commands.length - ring.count ∧
      ring.size = Command.totalLength ring.toList ∧
      ring.size = ring.contents.length ∧
      ring.contents = (ring.toList.map Command.bytes).flatten ∧
      (∀ i, ring.get? i = ring.toList[i]?) ∧
      (∀ i, ring.get? i = none ↔ ring.count ≤ i) ∧
      (ring.isFull = true ↔ capacity ≤ commands.length) ∧
      (ring.isEmpty = true ↔ commands = []) := by
  have hempty := wellFormed_empty hcapacity
  have hring := hempty.pushAll commands
  have hcount := count_pushAll_empty hcapacity commands
  have hall := hempty.overwrittenBy_append_toList commands
  have hkept := hring.length_toList
  refine ⟨empty capacity, if_pos hcapacity, (toList_pushAll hcapacity commands).1,
    fun k hk => getElem?_handedBack_empty hcapacity hk, length_handedBack _ _, hall, hcount,
    ?_, hring.size_eq, ?_, List.flatMap_def, fun i => (hring.getElem?_toList i).symm,
    ?_, ?_, ?_⟩
  · have hgone := congrArg List.length hall
    rw [toList_empty, List.nil_append, List.length_append, hkept] at hgone
    have hold := (hempty.count_pushAll commands).2
    have hzero : (empty capacity).overwritten = 0 := rfl
    omega
  · rw [hring.size_eq, contents, Command.length_concat]
  · intro i
    rw [← hring.getElem?_toList, List.getElem?_eq_none_iff, hkept]
  · rw [isFull, beq_iff_eq, hcount, capacity_pushAll, capacity_empty]
    omega
  · rw [isEmpty, beq_iff_eq, hcount, ← List.length_eq_zero_iff]
    omega

/-- Three slots and four commands. -/
theorem pushAll_isBoundedQueue_three :
    0 < 3 ∧ ∃ fresh, ofCapacity 3 = .ok fresh ∧
      let commands : List Command := [⟨[97, 10]⟩, ⟨[98, 10]⟩, ⟨[99, 10]⟩, ⟨[100, 10]⟩]
      (fresh.pushAll commands).toList = [⟨[98, 10]⟩, ⟨[99, 10]⟩, ⟨[100, 10]⟩] ∧
      (fresh.handedBack commands)[3]? = some (some ⟨[97, 10]⟩) ∧
      (fresh.pushAll commands).overwritten = 4 - (fresh.pushAll commands).count := by
  obtain ⟨fresh, hfresh, hlist, hback, -, -, -, hold, -⟩ :=
    pushAll_isBoundedQueue (show 0 < 3 by decide)
      [⟨[97, 10]⟩, ⟨[98, 10]⟩, ⟨[99, 10]⟩, ⟨[100, 10]⟩]
  exact ⟨by decide, fresh, hfresh, hlist, hback 3 (by decide), hold⟩

end Ring

end CommandLog
