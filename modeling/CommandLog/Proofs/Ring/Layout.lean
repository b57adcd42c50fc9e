import CommandLog.Ring
import Mathlib.Data.Nat.ModEq
import Mathlib.Tactic.Common

/-!
# The slots of a ring

`Ring.WellFormed` relates the redundant fields of a ring.  This module shows that `push` keeps it,
and says in terms of the list of commands what a push does: as long as there is a free slot the
command is added at the end (`toList_push_of_lt`); on a full ring the oldest command is handed back
as well (`push_of_full`).

Everything rests on two facts about the circle.  Two places less than one round apart are the same
slot only if they are the same place (`eq_of_slot_eq`), so that writing behind the newest command
leaves the others alone; and command number `i` of a well-formed ring is element `i` of its list
(`getElem?_toList`), since no slot among the first `count` is free.

`Ring.handedBack` collects what the pushes of a whole list of commands hand back, and
`overwrittenBy_append_toList` is the law of conservation for it: what was handed back, followed by
what is kept, is what was kept before followed by what was pushed.
-/

namespace CommandLog

namespace Ring

variable {ring : Ring}

lemma WellFormed.pos (hring : ring.WellFormed) : 0 < ring.capacity :=
  Nat.lt_of_le_of_lt (Nat.zero_le _) hring.next_lt

lemma ofCapacity_eq_ok {capacity : Nat} (h : ofCapacity capacity = .ok ring) :
    0 < capacity ∧ ring = empty capacity := by
  unfold ofCapacity at h
  split at h
  · next hpos =>
    cases h
    exact ⟨hpos, rfl⟩
  · cases h

/-! ## Places on the circle -/

/-- Less than one round apart, different places are different slots. -/
lemma eq_of_slot_eq {start i j capacity : Nat} (hi : i < capacity) (hj : j < capacity)
    (h : (start + i) % capacity = (start + j) % capacity) : i = j := by
  have hmod : i ≡ j [MOD capacity] := Nat.ModEq.add_left_cancel' start h
  rwa [Nat.ModEq, Nat.mod_eq_of_lt hi, Nat.mod_eq_of_lt hj] at hmod

/-- Stepping to the next slot and going on is going one further. -/
lemma slot_succ (place i capacity : Nat) :
    ((place + 1) % capacity + i) % capacity = (place + (i + 1)) % capacity := by
  rw [Nat.mod_add_mod, Nat.add_assoc, Nat.add_comm 1 i]

/-! ## The fields after a push -/

lemma push_eq_of_lt (hlt : ring.count < ring.capacity) (command : Command) :
    ring.push command =
      (⟨ring.slots.setIfInBounds ring.next (some command), (ring.next + 1) % ring.capacity,
        ring.oldest, ring.count + 1, ring.overwritten, ring.size + command.length⟩, none) := by
  have hsize : ring.count < ring.slots.size := hlt
  simp [push, hsize, Ring.capacity]

lemma push_eq_of_full (hfull : ring.count = ring.capacity) (command : Command) :
    ring.push command =
      (⟨ring.slots.setIfInBounds ring.next (some command), (ring.next + 1) % ring.capacity,
        (ring.next + 1) % ring.capacity, ring.count, ring.overwritten + 1,
        ring.size + command.length - (ring.slots[ring.next]?.join).elim 0 Command.length⟩,
        ring.slots[ring.next]?.join) := by
  have hsize : ¬ ring.count < ring.slots.size := Nat.not_lt_of_le (Nat.le_of_eq hfull.symm)
  simp [push, hsize, Ring.capacity]

lemma count_push_of_lt (hlt : ring.count < ring.capacity) (command : Command) :
    (ring.push command).1.count = ring.count + 1 := by
  rw [push_eq_of_lt hlt]

lemma count_push_of_full (hfull : ring.count = ring.capacity) (command : Command) :
    (ring.push command).1.count = ring.count := by
  rw [push_eq_of_full hfull]

/-- Reading a slot after one was written. -/
lemma read_written {slots : Array (Option Command)} {place : Nat} (hplace : place < slots.size)
    (command : Command) (i : Nat) :
    ((slots.setIfInBounds place (some command))[i]?).join =
      if i = place then some command else (slots[i]?).join := by
  rw [Array.getElem?_setIfInBounds]
  by_cases h : place = i
  · subst h
    simp [hplace]
  · rw [if_neg h, if_neg (Ne.symm h)]

/-! ## Numbers and elements -/

/-- A walk that finds a command at each of its first numbers lists them in order. -/
lemma filterMap_range_spec {f : Nat → Option Command} {n : Nat} (hf : ∀ i < n, (f i).isSome) :
    ((List.range n).filterMap f).length = n ∧
      ∀ i < n, ((List.range n).filterMap f)[i]? = f i := by
  induction n with
  | zero => simp
  | succ n ih =>
    obtain ⟨hlength, hget⟩ := ih fun i hi => hf i (Nat.lt_succ_of_lt hi)
    obtain ⟨last, hlast⟩ := Option.isSome_iff_exists.1 (hf n (Nat.lt_succ_self n))
    have hsucc : (List.range (n + 1)).filterMap f = (List.range n).filterMap f ++ [last] := by
      rw [List.range_succ, List.filterMap_append]
      simp [hlast]
    refine ⟨by rw [hsucc, List.length_append, hlength, List.length_singleton], ?_⟩
    intro i hi
    rw [hsucc]
    rcases Nat.lt_succ_iff_lt_or_eq.1 hi with hlt | rfl
    · rw [List.getElem?_append_left (by omega), hget i hlt]
    · rw [List.getElem?_append_right (by omega), hlength, hlast]
      simp

/-- A well-formed ring has a command under every number below its count, and no other. -/
lemma WellFormed.isSome_get? (hring : ring.WellFormed) (i : Nat) :
    (ring.get? i).isSome ↔ i < ring.count := by
  unfold get?
  split
  · next hi =>
    have htaken := hring.taken i (Nat.lt_of_lt_of_le hi hring.count_le)
    simp only [hi, iff_true]
    exact htaken.2 hi
  · next hi => simp [hi]

lemma WellFormed.length_toList (hring : ring.WellFormed) : ring.toList.length = ring.count :=
  (filterMap_range_spec fun i hi => (hring.isSome_get? i).2 hi).1

/-- Command number `i` is element `i` of the list. -/
lemma WellFormed.getElem?_toList (hring : ring.WellFormed) (i : Nat) :
    ring.toList[i]? = ring.get? i := by
  by_cases hi : i < ring.count
  · exact (filterMap_range_spec fun j hj => (hring.isSome_get? j).2 hj).2 i hi
  · rw [get?, if_neg hi, List.getElem?_eq_none]
    rw [hring.length_toList]
    exact Nat.le_of_not_lt hi

lemma WellFormed.length_contents (hring : ring.WellFormed) : ring.contents.length = ring.size := by
  rw [contents, Command.length_concat, hring.size_eq]

/-! ## What a push does to the numbers -/

/-- With a free slot, the new command gets the number behind the last one. -/
lemma WellFormed.get?_push_of_lt (hring : ring.WellFormed) (hlt : ring.count < ring.capacity)
    (command : Command) (i : Nat) :
    (ring.push command).1.get? i = if i = ring.count then some command else ring.get? i := by
  rw [push_eq_of_lt hlt]
  simp only [get?, Ring.capacity, Array.size_setIfInBounds]
  rw [read_written hring.next_lt, hring.next_eq]
  by_cases hi : i < ring.count + 1
  · rw [if_pos hi]
    by_cases heq : i = ring.count
    · simp [heq, Ring.capacity]
    · have hne : (ring.oldest + i) % ring.capacity ≠ (ring.oldest + ring.count) % ring.capacity :=
        fun h => heq (eq_of_slot_eq (by omega) hlt h)
      have hi' : i < ring.count := by omega
      simp only [Ring.capacity] at hne
      simp [hne, heq, hi', Ring.capacity]
  · have hi' : ¬ i < ring.count := by omega
    have hne : i ≠ ring.count := by omega
    simp [hi, hi', hne]

/-- On a full ring the slot to be written is that of the oldest command. -/
lemma WellFormed.next_eq_oldest (hring : ring.WellFormed) (hfull : ring.count = ring.capacity) :
    ring.next = ring.oldest := by
  rw [hring.next_eq, hfull, Nat.add_mod_right, Nat.mod_eq_of_lt hring.oldest_lt]

/-- On a full ring every number goes down by one, and the new command gets the last one. -/
lemma WellFormed.get?_push_of_full (hring : ring.WellFormed) (hfull : ring.count = ring.capacity)
    (command : Command) {i : Nat} (hi : i < ring.count) :
    (ring.push command).1.get? i = if i + 1 = ring.count then some command else ring.get? (i + 1) := by
  have hplace := hring.next_eq_oldest hfull
  have hold : ring.oldest < ring.slots.size := hring.oldest_lt
  rw [push_eq_of_full hfull]
  simp only [get?, Ring.capacity, Array.size_setIfInBounds, if_pos hi, slot_succ]
  rw [read_written hring.next_lt, hplace]
  by_cases heq : i + 1 = ring.count
  · have hslot : (ring.oldest + (i + 1)) % ring.slots.size = ring.oldest := by
      rw [heq, hfull]
      exact (Nat.add_mod_right _ _).trans (Nat.mod_eq_of_lt hold)
    rw [if_pos hslot, if_pos heq]
  · have hlt : i + 1 < ring.count := by omega
    have hne : (ring.oldest + (i + 1)) % ring.slots.size ≠ ring.oldest := by
      intro h
      have hzero : (ring.oldest + (i + 1)) % ring.slots.size = (ring.oldest + 0) % ring.slots.size := by
        rw [h, Nat.add_zero, Nat.mod_eq_of_lt hold]
      exact absurd (eq_of_slot_eq (hfull ▸ hlt) hring.pos hzero) (Nat.succ_ne_zero i)
    rw [if_neg hne, if_neg heq, if_pos hlt]

/-! ## What a push does to the list -/

/-- Numbers that agree with the elements of a list, as many as there are, are that list. -/
lemma toList_eq_of_get? {commands : List Command} (hcount : ring.count = commands.length)
    (hget : ∀ i < ring.count, ring.get? i = commands[i]?) : ring.toList = commands := by
  have hsome : ∀ i < ring.count, (ring.get? i).isSome := by
    intro i hi
    rw [hget i hi, List.getElem?_eq_getElem (hcount ▸ hi)]
    rfl
  obtain ⟨hlength, hspec⟩ := filterMap_range_spec hsome
  apply List.ext_getElem?
  intro i
  by_cases hi : i < ring.count
  · exact (hspec i hi).trans (hget i hi)
  · have hle : commands.length ≤ i := by omega
    rw [List.getElem?_eq_none hle, List.getElem?_eq_none]
    exact (Nat.le_of_eq (hlength.trans hcount)).trans hle

/-- With a free slot, the command is added at the end and nothing is handed back. -/
lemma WellFormed.toList_push_of_lt (hring : ring.WellFormed) (hlt : ring.count < ring.capacity)
    (command : Command) : (ring.push command).1.toList = ring.toList ++ [command] := by
  have hcount := count_push_of_lt hlt command
  apply toList_eq_of_get?
  · rw [hcount, List.length_append, hring.length_toList, List.length_singleton]
  · intro i hi
    rw [hring.get?_push_of_lt hlt]
    rcases Nat.lt_succ_iff_lt_or_eq.1 (hcount ▸ hi) with hlt | rfl
    · rw [if_neg (Nat.ne_of_lt hlt), List.getElem?_append_left (by rwa [hring.length_toList]),
        hring.getElem?_toList]
    · rw [if_pos rfl, List.getElem?_append_right (Nat.le_of_eq hring.length_toList),
        hring.length_toList]
      simp

/-- On a full ring, the oldest command goes and is handed back. -/
lemma WellFormed.push_of_full (hring : ring.WellFormed) (hfull : ring.count = ring.capacity)
    (command : Command) :
    ∃ old rest, ring.toList = old :: rest ∧ (ring.push command).2 = some old ∧
      (ring.push command).1.toList = rest ++ [command] := by
  have hlength := hring.length_toList
  cases hlist : ring.toList with
  | nil =>
    rw [hlist, List.length_nil] at hlength
    have := hring.pos
    omega
  | cons old rest =>
    refine ⟨old, rest, rfl, ?_, ?_⟩
    · have hold : ring.get? 0 = some old := by rw [← hring.getElem?_toList, hlist]; rfl
      rw [get?, if_pos (hfull ▸ hring.pos), Nat.add_zero,
        Nat.mod_eq_of_lt hring.oldest_lt, ← hring.next_eq_oldest hfull] at hold
      rw [push_eq_of_full hfull]
      exact hold
    · have hcount := count_push_of_full hfull command
      rw [hlist, List.length_cons] at hlength
      apply toList_eq_of_get?
      · rw [hcount, List.length_append, List.length_singleton]
        exact hlength.symm
      · intro i hi
        rw [hcount] at hi
        rw [hring.get?_push_of_full hfull command hi]
        by_cases heq : i + 1 = ring.count
        · have hi : i = rest.length := by omega
          rw [if_pos heq, hi, List.getElem?_append_right (Nat.le_refl _), Nat.sub_self]
          rfl
        · rw [if_neg heq, ← hring.getElem?_toList, hlist, List.getElem?_cons_succ,
            List.getElem?_append_left (by omega)]

/-! ## A push keeps the ring well formed -/

lemma WellFormed.push_wellFormed_of_lt (hring : ring.WellFormed) (hlt : ring.count < ring.capacity)
    (command : Command) : (ring.push command).1.WellFormed := by
  have hcapacity := capacity_push ring command
  have hlist := hring.toList_push_of_lt hlt command
  have hfields := congrArg Prod.fst (push_eq_of_lt hlt command)
  constructor
  · rw [hcapacity, hfields]
    exact Nat.mod_lt _ hring.pos
  · rw [hcapacity, hfields]
    exact hring.oldest_lt
  · rw [hcapacity, hfields]
    exact hlt
  · rw [hcapacity, hfields]
    simp only
    rw [hring.next_eq, Nat.mod_add_mod, Nat.add_assoc]
  · intro i hi
    rw [hcapacity] at hi ⊢
    rw [hfields]
    simp only
    rw [read_written hring.next_lt, hring.next_eq]
    by_cases heq : i = ring.count
    · rw [heq, if_pos rfl]
      simp
    · have hne : (ring.oldest + i) % ring.capacity ≠ (ring.oldest + ring.count) % ring.capacity :=
        fun h => heq (eq_of_slot_eq hi hlt h)
      rw [if_neg hne, hring.taken i hi]
      omega
  · rw [hlist, Command.totalLength_append, ← hring.size_eq, hfields]
    rfl

/-- On a full ring the length that is taken off the size is that of the oldest command, which is
part of the sum. -/
lemma WellFormed.size_push_of_full (hring : ring.WellFormed) (hfull : ring.count = ring.capacity)
    (command : Command) :
    (ring.push command).1.size = Command.totalLength (ring.push command).1.toList := by
  obtain ⟨old, rest, hlist, hback, hafter⟩ := hring.push_of_full hfull command
  have hsize := hring.size_eq
  rw [hlist, Command.totalLength] at hsize
  rw [hafter, Command.totalLength_append]
  rw [push_eq_of_full hfull] at hback ⊢
  simp only at hback ⊢
  rw [hback, Option.elim_some, Command.totalLength, Command.totalLength]
  omega

lemma WellFormed.push_wellFormed_of_full (hring : ring.WellFormed)
    (hfull : ring.count = ring.capacity) (command : Command) :
    (ring.push command).1.WellFormed := by
  have hcapacity := capacity_push ring command
  have hfields := congrArg Prod.fst (push_eq_of_full hfull command)
  refine ⟨?_, ?_, ?_, ?_, ?_, hring.size_push_of_full hfull command⟩
  · rw [hcapacity, hfields]
    exact Nat.mod_lt _ hring.pos
  · rw [hcapacity, hfields]
    exact Nat.mod_lt _ hring.pos
  · rw [hcapacity, hfields]
    exact hring.count_le
  · rw [hcapacity, hfields]
    simp only
    rw [hfull, Nat.add_mod_right, Nat.mod_mod]
  · -- every slot is taken: the one just written, and all others as before
    intro i hi
    rw [hcapacity] at hi ⊢
    rw [hfields]
    simp only [slot_succ, hfull, hi, iff_true]
    rw [read_written hring.next_lt]
    by_cases heq : (ring.next + (i + 1)) % ring.capacity = ring.next
    · rw [if_pos heq]
      rfl
    · have hlt : i + 1 < ring.capacity := by
        by_contra hle
        have hround : i + 1 = ring.capacity := by omega
        rw [hround, Nat.add_mod_right, Nat.mod_eq_of_lt hring.next_lt] at heq
        exact heq rfl
      rw [if_neg heq, hring.next_eq_oldest hfull]
      exact (hring.taken (i + 1) hlt).2 (hfull ▸ hlt)

lemma WellFormed.push (hring : ring.WellFormed) (command : Command) :
    (ring.push command).1.WellFormed := by
  rcases Nat.lt_or_eq_of_le hring.count_le with hlt | hfull
  · exact hring.push_wellFormed_of_lt hlt command
  · exact hring.push_wellFormed_of_full hfull command

/-- Whatever the ring, a push moves the commands on: what it hands back, followed by what is kept
then, is what was kept before, followed by the new command. -/
lemma WellFormed.back_append_toList_push (hring : ring.WellFormed) (command : Command) :
    (ring.push command).2.toList ++ (ring.push command).1.toList = ring.toList ++ [command] := by
  rcases Nat.lt_or_eq_of_le hring.count_le with hlt | hfull
  · rw [hring.toList_push_of_lt hlt, push_eq_of_lt hlt]
    rfl
  · obtain ⟨old, rest, hlist, hback, hafter⟩ := hring.push_of_full hfull command
    rw [hlist, hback, hafter]
    rfl

/-- A push counts up either the commands that are kept or those that were overwritten. -/
lemma WellFormed.count_push (hring : ring.WellFormed) (command : Command) :
    (ring.push command).1.count = min (ring.count + 1) ring.capacity ∧
      (ring.push command).1.overwritten =
        ring.overwritten + (ring.push command).2.toList.length := by
  rcases Nat.lt_or_eq_of_le hring.count_le with hlt | hfull
  · rw [push_eq_of_lt hlt]
    exact ⟨(Nat.min_eq_left hlt).symm, rfl⟩
  · obtain ⟨old, rest, hlist, hback, hafter⟩ := hring.push_of_full hfull command
    have hcount := count_push_of_full hfull command
    refine ⟨by rw [hcount]; omega, ?_⟩
    rw [hback, push_eq_of_full hfull]
    rfl

/-! ## Pushes one after the other -/

/-- What the pushes of commands hand back, push by push. -/
def handedBack (ring : Ring) : List Command → List (Option Command)
  | [] => []
  | command :: others => (ring.push command).2 :: handedBack (ring.push command).1 others

/-- The commands that make room for others while those are pushed, oldest first. -/
def overwrittenBy (ring : Ring) (commands : List Command) : List Command :=
  (ring.handedBack commands).reduceOption

lemma pushAll_cons (ring : Ring) (command : Command) (others : List Command) :
    ring.pushAll (command :: others) = (ring.push command).1.pushAll others := rfl

lemma overwrittenBy_cons (ring : Ring) (command : Command) (others : List Command) :
    ring.overwrittenBy (command :: others) =
      (ring.push command).2.toList ++ (ring.push command).1.overwrittenBy others := by
  unfold overwrittenBy
  rw [handedBack]
  cases (ring.push command).2 with
  | none => rfl
  | some old => rfl

lemma WellFormed.pushAll (hring : ring.WellFormed) (commands : List Command) :
    (ring.pushAll commands).WellFormed := by
  induction commands generalizing ring with
  | nil => exact hring
  | cons command commands ih => exact ih (hring.push command)

lemma capacity_pushAll (ring : Ring) (commands : List Command) :
    (ring.pushAll commands).capacity = ring.capacity := by
  induction commands generalizing ring with
  | nil => rfl
  | cons command commands ih => rw [pushAll_cons, ih, capacity_push]

/-- Nothing is lost, doubled or brought into another order: what was overwritten, followed by what
is kept, is what was kept before, followed by the commands pushed. -/
lemma WellFormed.overwrittenBy_append_toList (hring : ring.WellFormed) (commands : List Command) :
    ring.overwrittenBy commands ++ (ring.pushAll commands).toList = ring.toList ++ commands := by
  induction commands generalizing ring with
  | nil => exact (List.append_nil _).symm
  | cons command commands ih =>
    rw [overwrittenBy_cons, pushAll_cons, List.append_assoc, ih (hring.push command),
      ← List.append_assoc, hring.back_append_toList_push, List.append_assoc]
    rfl

/-- The bytes that pushes take over are those that are kept and those that are handed back. -/
lemma WellFormed.size_pushAll (hring : ring.WellFormed) (commands : List Command) :
    (ring.pushAll commands).size + Command.totalLength (ring.overwrittenBy commands) =
      ring.size + Command.totalLength commands := by
  rw [(hring.pushAll commands).size_eq, hring.size_eq, Nat.add_comm, ← Command.totalLength_append,
    hring.overwrittenBy_append_toList, Command.totalLength_append]

lemma WellFormed.count_pushAll (hring : ring.WellFormed) (commands : List Command) :
    (ring.pushAll commands).count = min (ring.count + commands.length) ring.capacity ∧
      (ring.pushAll commands).overwritten =
        ring.overwritten + (ring.overwrittenBy commands).length := by
  induction commands generalizing ring with
  | nil => exact ⟨(Nat.min_eq_left hring.count_le).symm, rfl⟩
  | cons command commands ih =>
    obtain ⟨hcount, hold⟩ := hring.count_push command
    obtain ⟨hcounts, holds⟩ := ih (hring.push command)
    rw [pushAll_cons, overwrittenBy_cons, List.length_append, List.length_cons]
    refine ⟨?_, by omega⟩
    rw [hcounts, hcount, capacity_push]
    omega

/-- What is kept are the last commands, as many as there is room for. -/
lemma WellFormed.toList_pushAll (hring : ring.WellFormed) (commands : List Command) :
    (ring.pushAll commands).toList =
      (ring.toList ++ commands).drop ((ring.toList ++ commands).length - ring.capacity) := by
  have hall := hring.overwrittenBy_append_toList commands
  have hkept : (ring.pushAll commands).toList.length =
      min (ring.toList ++ commands).length ring.capacity := by
    rw [(hring.pushAll commands).length_toList, (hring.count_pushAll commands).1,
      List.length_append, hring.length_toList]
  have hgone : (ring.overwrittenBy commands).length =
      (ring.toList ++ commands).length - ring.capacity := by
    have hlength := congrArg List.length hall
    rw [List.length_append, hkept] at hlength
    omega
  calc (ring.pushAll commands).toList
      = (ring.overwrittenBy commands ++ (ring.pushAll commands).toList).drop
          (ring.overwrittenBy commands).length := List.drop_left.symm
    _ = (ring.toList ++ commands).drop ((ring.toList ++ commands).length - ring.capacity) := by
        rw [hall, hgone]

end Ring

end CommandLog
