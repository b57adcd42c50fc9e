import CommandLog.Proofs.Ring.Layout

/-!
# Positions and addresses

A byte of the log is known in two ways: by its *position*, counted from the beginning of the log,
and by its *address*, a command number and an offset within that command.  `Ring.positionOf` goes
from addresses to positions and `Ring.locate?` goes back.  The one adds up the lengths of the
commands before a number, the other takes lengths off a position while it walks the slots; the main
statement `positionOf_locate?_inverse` says that they are inverse to each other.

`locate?` gives the command itself, and two commands of a log may have the same bytes.  So that it
can be said which one was found, `Ring.address?` is the same walk with the number in place of the
command (`locate?_eq_address?`).  What it finds is the byte that is so many bytes behind the
beginning of its command (`addressFrom?_eq_some_iff`), and a byte of a later command or further on
in the same one has a greater position (`position_lt_iff`).
-/

namespace CommandLog

namespace Ring

/-- The log has a byte with this address. -/
def HasByte (ring : Ring) (number offset : Nat) : Prop :=
  number < ring.count ∧ ∃ command, ring.get? number = some command ∧ offset < command.length

/-- Among `left` commands from number `i` on, the number of the one that holds the byte at a
position, which counts from the first of them, and the offset of that byte within it. -/
def addressFrom? (ring : Ring) : (left i position : Nat) → Option (Nat × Nat)
  | 0, _, _ => none
  | left + 1, i, position =>
    match ring.get? i with
    | none => addressFrom? ring left (i + 1) position
    | some command =>
      if position < command.length then some (i, position)
      else addressFrom? ring left (i + 1) (position - command.length)

/-- The address of the byte at a position. -/
def address? (ring : Ring) (position : Nat) : Option (Nat × Nat) :=
  ring.addressFrom? ring.count 0 position

variable {ring : Ring} {number offset number' offset' position : Nat}

lemma lt_count_of_get? {command : Command} (h : ring.get? number = some command) :
    number < ring.count := by
  by_contra hle
  rw [get?, if_neg hle] at h
  exact (Option.some_ne_none command h.symm).elim

lemma hasByte_iff {ring : Ring} {number offset : Nat} :
    ring.HasByte number offset ↔
      ∃ command, ring.get? number = some command ∧ offset < command.length :=
  ⟨fun h => h.2, fun ⟨command, hget, hlt⟩ => ⟨lt_count_of_get? hget, command, hget, hlt⟩⟩

/-! ## The walk with numbers -/

lemma locateFrom?_eq_addressFrom? (ring : Ring) (left i position : Nat) :
    ring.locateFrom? left i position =
      (ring.addressFrom? left i position).bind fun (number, offset) =>
        (ring.get? number).map (·, offset) := by
  induction left generalizing i position with
  | zero => rfl
  | succ left ih =>
    rw [locateFrom?, addressFrom?]
    cases hget : ring.get? i with
    | none => exact ih (i + 1) position
    | some command =>
      by_cases hlt : position < command.length
      · simp only [if_pos hlt, Option.bind_some, hget, Option.map_some]
      · simp only [if_neg hlt]
        exact ih (i + 1) (position - command.length)

/-- What is found at a position is the command whose number is found there. -/
lemma locate?_eq_address? (ring : Ring) (position : Nat) :
    ring.locate? position =
      (ring.address? position).bind fun (number, offset) =>
        (ring.get? number).map (·, offset) :=
  locateFrom?_eq_addressFrom? ring ring.count 0 position

lemma lengthBefore_succ {command : Command} (h : ring.get? number = some command) :
    ring.lengthBefore (number + 1) = ring.lengthBefore number + command.length := by
  rw [lengthBefore, h]
  rfl

lemma lengthBefore_mono (ring : Ring) (h : number ≤ number') :
    ring.lengthBefore number ≤ ring.lengthBefore number' := by
  induction number' with
  | zero =>
    rw [Nat.le_zero.1 h]
  | succ n ih =>
    rcases Nat.le_succ_iff.1 h with hle | rfl
    · exact (ih hle).trans (Nat.le_add_right _ _)
    · exact Nat.le_refl _

/-- A walk finds a byte exactly if it comes to the byte's command, and if the byte is as far behind
the beginning of the walk as the position says. -/
lemma addressFrom?_eq_some_iff {left i : Nat} :
    ring.addressFrom? left i position = some (number, offset) ↔
      i ≤ number ∧ number < i + left ∧
        (∃ command, ring.get? number = some command ∧ offset < command.length) ∧
        ring.lengthBefore i + position = ring.lengthBefore number + offset := by
  induction left generalizing i position with
  | zero =>
    rw [addressFrom?]
    constructor
    · intro h
      exact (Option.some_ne_none _ h.symm).elim
    · rintro ⟨hle, hlt, -⟩
      omega
  | succ left ih =>
    rw [addressFrom?]
    cases hget : ring.get? i with
    | none =>
      have hnext : ring.lengthBefore (i + 1) = ring.lengthBefore i := by
        rw [lengthBefore, hget]
        rfl
      simp only
      rw [ih, hnext]
      constructor
      · rintro ⟨hle, hlt, hbyte, hsum⟩
        exact ⟨by omega, by omega, hbyte, hsum⟩
      · rintro ⟨hle, hlt, hbyte, hsum⟩
        have hne : i ≠ number := by
          rintro rfl
          obtain ⟨command, hcommand, -⟩ := hbyte
          rw [hget] at hcommand
          exact Option.some_ne_none command hcommand.symm
        exact ⟨by omega, by omega, hbyte, hsum⟩
    | some command =>
      have hnext := lengthBefore_succ hget
      simp only
      by_cases hfound : position < command.length
      · rw [if_pos hfound, Option.some.injEq, Prod.mk.injEq]
        constructor
        · rintro ⟨rfl, rfl⟩
          exact ⟨Nat.le_refl _, by omega, ⟨command, hget, hfound⟩, rfl⟩
        · rintro ⟨hle, -, -, hsum⟩
          -- a later command begins behind the end of this one
          have heq : i = number := by
            by_contra hne
            have hend : ring.lengthBefore (i + 1) ≤ ring.lengthBefore number :=
              ring.lengthBefore_mono (by omega)
            omega
          subst heq
          exact ⟨rfl, by omega⟩
      · rw [if_neg hfound, ih, hnext]
        constructor
        · rintro ⟨hle, hlt, hbyte, hsum⟩
          exact ⟨by omega, by omega, hbyte, by omega⟩
        · rintro ⟨hle, hlt, hbyte, hsum⟩
          have hne : i ≠ number := by
            rintro rfl
            obtain ⟨target, htarget, hoffset⟩ := hbyte
            rw [hget] at htarget
            cases htarget
            omega
          exact ⟨by omega, by omega, hbyte, by omega⟩

lemma address?_eq_some_iff :
    ring.address? position = some (number, offset) ↔
      ring.HasByte number offset ∧ position = ring.lengthBefore number + offset := by
  rw [address?, addressFrom?_eq_some_iff, hasByte_iff, lengthBefore, Nat.zero_add, Nat.zero_add]
  constructor
  · rintro ⟨-, -, hbyte, hsum⟩
    exact ⟨hbyte, hsum⟩
  · rintro ⟨⟨command, hget, hlt⟩, hsum⟩
    exact ⟨Nat.zero_le _, lt_count_of_get? hget, ⟨command, hget, hlt⟩, hsum⟩

/-- Positions are in the order of addresses. -/
lemma position_lt_iff (h : ring.HasByte number offset) (h' : ring.HasByte number' offset') :
    ring.lengthBefore number + offset < ring.lengthBefore number' + offset' ↔
      number < number' ∨ number = number' ∧ offset < offset' := by
  obtain ⟨-, command, hget, hlt⟩ := h
  obtain ⟨-, command', hget', hlt'⟩ := h'
  have hend := lengthBefore_succ hget
  have hend' := lengthBefore_succ hget'
  rcases Nat.lt_trichotomy number number' with hless | rfl | hmore
  · have hle : ring.lengthBefore (number + 1) ≤ ring.lengthBefore number' :=
      ring.lengthBefore_mono hless
    omega
  · omega
  · have hle : ring.lengthBefore (number' + 1) ≤ ring.lengthBefore number :=
      ring.lengthBefore_mono hmore
    omega

/-! ## Positions of addresses -/

section Words

variable {i k : UInt32}

lemma positionOf_eq_ok_iff :
    ring.positionOf i k = .ok position ↔
      ring.HasByte i.toNat k.toNat ∧ position = ring.lengthBefore i.toNat + k.toNat := by
  rw [hasByte_iff, positionOf]
  cases hget : ring.get? i.toNat with
  | none => simp
  | some command =>
    by_cases hlt : k.toNat < command.length
    · simp [hlt, eq_comm]
    · simp [hlt]

lemma positionOf_of_not_hasByte (h : ¬ ring.HasByte i.toNat k.toNat) :
    ring.positionOf i k = .error (.outOfRange i k) := by
  rw [hasByte_iff] at h
  rw [positionOf]
  cases hget : ring.get? i.toNat with
  | none => rfl
  | some command =>
    have hle : ¬ k.toNat < command.length := fun hlt => h ⟨command, hget, hlt⟩
    simp only [if_neg hle]

/-- An address has a position exactly if that position has the address. -/
lemma positionOf_eq_ok_iff_address? :
    ring.positionOf i k = .ok position ↔ ring.address? position = some (i.toNat, k.toNat) := by
  rw [positionOf_eq_ok_iff, address?_eq_some_iff]

/-- Where numbers and offsets fit into words, every address that is found is one of words. -/
lemma exists_words (hcount : ring.count ≤ UInt32.size)
    (hlength : ∀ command ∈ ring.toList, command.length ≤ UInt32.size)
    (h : ring.HasByte number offset) : ∃ i k : UInt32, i.toNat = number ∧ k.toNat = offset := by
  obtain ⟨hlt, command, hget, hoffset⟩ := h
  have hmem : command ∈ ring.toList :=
    List.mem_filterMap.2 ⟨number, List.mem_range.2 hlt, hget⟩
  have hle := hlength command hmem
  exact ⟨UInt32.ofNat number, UInt32.ofNat offset,
    UInt32.toNat_ofNat_of_lt' (Nat.lt_of_lt_of_le hlt hcount),
    UInt32.toNat_ofNat_of_lt' (Nat.lt_of_lt_of_le hoffset hle)⟩

end Words

/-! ## The ends of the log -/

lemma WellFormed.locate?_eq_none_iff (hring : ring.WellFormed) :
    ring.locate? position = none ↔ ring.size ≤ position := by
  rw [locate?_eq, locateIn?_eq_none_iff, hring.size_eq]

lemma locate?_of_address? (h : ring.address? position = some (number, offset)) :
    ∃ command, ring.get? number = some command ∧
      ring.locate? position = some (command, offset) := by
  obtain ⟨⟨-, command, hget, -⟩, -⟩ := address?_eq_some_iff.1 h
  refine ⟨command, hget, ?_⟩
  rw [locate?_eq_address?, h, Option.bind_some]
  simp only [hget, Option.map_some]

/-- There is an address for every position before the end, and for no other. -/
lemma WellFormed.address?_eq_none_iff (hring : ring.WellFormed) :
    ring.address? position = none ↔ ring.size ≤ position := by
  rw [← hring.locate?_eq_none_iff]
  constructor
  · intro h
    rw [locate?_eq_address?, h]
    rfl
  · intro h
    by_contra hsome
    obtain ⟨⟨number, offset⟩, haddress⟩ := Option.ne_none_iff_exists'.1 hsome
    obtain ⟨command, -, hfound⟩ := locate?_of_address? haddress
    exact Option.some_ne_none _ (hfound.symm.trans h)

/-- The byte of the log at the position is the byte of the command at the offset. -/
lemma contents_of_locate? {command : Command} (h : ring.locate? position = some (command, offset)) :
    offset < command.length ∧ ring.contents[position]? = command.bytes[offset]? := by
  rw [locate?_eq] at h
  obtain ⟨hlt, rest, hdrop⟩ := drop_concat_of_locateIn? h
  refine ⟨hlt, ?_⟩
  have hhead := congrArg (fun bytes : Bytes => bytes[0]?) hdrop
  have hpos : 0 < (command.bytes.drop offset).length := by
    rw [List.length_drop]
    exact Nat.sub_pos_of_lt hlt
  simp only [List.getElem?_drop, Nat.add_zero, List.getElem?_append_left hpos] at hhead
  exact hhead

/-! ## The log from a byte on -/

lemma WellFormed.lengthBefore_eq_take (hring : ring.WellFormed) (i : Nat) :
    ring.lengthBefore i = Command.totalLength (ring.toList.take i) := by
  induction i with
  | zero => rfl
  | succ i ih =>
    rw [lengthBefore, ih, List.take_add_one, Command.totalLength_append, hring.getElem?_toList]
    cases ring.get? i <;> simp [Command.totalLength]

lemma WellFormed.hasByte_iff_getElem? (hring : ring.WellFormed) :
    ring.HasByte number offset ↔
      ∃ command, ring.toList[number]? = some command ∧ offset < command.length := by
  rw [hasByte_iff, hring.getElem?_toList]

/-- From a byte on, the log is the rest of that byte's command and all later ones. -/
lemma WellFormed.drop_contents (hring : ring.WellFormed) {command : Command}
    (hget : ring.toList[number]? = some command) (hlt : offset < command.length) :
    ring.contents.drop (ring.lengthBefore number + offset) =
      command.bytes.drop offset ++ Command.concat (ring.toList.drop (number + 1)) := by
  obtain ⟨hnumber, hcommand⟩ := List.getElem?_eq_some_iff.1 hget
  have hsplit := List.take_append_drop number ring.toList
  rw [List.drop_eq_getElem_cons hnumber, hcommand] at hsplit
  have hcontents : ring.contents = Command.concat (ring.toList.take number) ++
      (command.bytes ++ Command.concat (ring.toList.drop (number + 1))) := by
    calc ring.contents
        = Command.concat (ring.toList.take number ++ command :: ring.toList.drop (number + 1)) :=
          congrArg Command.concat hsplit.symm
      _ = _ := by simp [Command.concat]
  rw [hcontents, hring.lengthBefore_eq_take, ← Command.length_concat, ← List.drop_drop,
    List.drop_left, List.drop_append_of_le_length (Nat.le_of_lt hlt)]

/-! ## There and back -/

/-- At the position of an address that same address is found. -/
lemma WellFormed.found_at_positionOf (hring : ring.WellFormed) {i k : UInt32}
    (h : ring.positionOf i k = .ok position) :
    position < ring.size ∧ ring.address? position = some (i.toNat, k.toNat) ∧
      ∃ command, ring.get? i.toNat = some command ∧
        ring.locate? position = some (command, k.toNat) := by
  have haddress := positionOf_eq_ok_iff_address?.1 h
  refine ⟨?_, haddress, locate?_of_address? haddress⟩
  by_contra hle
  have hnone := hring.address?_eq_none_iff.2 (Nat.le_of_not_lt hle)
  exact Option.some_ne_none _ (haddress.symm.trans hnone)

/-- A position has at most one address. -/
lemma eq_of_positionOf_eq {i k i' k' : UInt32} (h : ring.positionOf i k = .ok position)
    (h' : ring.positionOf i' k' = .ok position) : i' = i ∧ k' = k := by
  have hsame := positionOf_eq_ok_iff_address?.1 h'
  rw [positionOf_eq_ok_iff_address?.1 h, Option.some.injEq, Prod.mk.injEq] at hsame
  exact ⟨UInt32.toNat_inj.1 hsame.1.symm, UInt32.toNat_inj.1 hsame.2.symm⟩

/-- Where numbers and offsets fit into words, every position before the end has an address. -/
lemma WellFormed.exists_positionOf (hring : ring.WellFormed) (hcount : ring.count ≤ UInt32.size)
    (hlength : ∀ command ∈ ring.toList, command.length ≤ UInt32.size) (h : position < ring.size) :
    ∃ i k, ring.positionOf i k = .ok position := by
  obtain ⟨⟨number, offset⟩, haddress⟩ : ∃ address, ring.address? position = some address := by
    apply Option.ne_none_iff_exists'.1
    intro hnone
    exact absurd (hring.address?_eq_none_iff.1 hnone) (Nat.not_le_of_lt h)
  obtain ⟨i, k, rfl, rfl⟩ := exists_words hcount hlength (address?_eq_some_iff.1 haddress).1
  exact ⟨i, k, positionOf_eq_ok_iff_address?.2 haddress⟩

/-- Two positions are in the order of their addresses. -/
lemma positionOf_lt_iff {i k i' k' : UInt32} {position' : Nat}
    (h : ring.positionOf i k = .ok position) (h' : ring.positionOf i' k' = .ok position') :
    position < position' ↔ i < i' ∨ i = i' ∧ k < k' := by
  obtain ⟨hbyte, rfl⟩ := positionOf_eq_ok_iff.1 h
  obtain ⟨hbyte', rfl⟩ := positionOf_eq_ok_iff.1 h'
  rw [position_lt_iff hbyte hbyte', UInt32.lt_iff_toNat_lt, UInt32.lt_iff_toNat_lt,
    UInt32.toNat_inj]

/-- However a ring was filled, positions and addresses are two names for the same bytes.  Exactly
the addresses of bytes that the log has are given a position, all others are refused.  At the
position of an address that same address is found, with the command that has its number.  Before the
end of the log every position is that of exactly one address, as long as numbers and offsets fit
into words, and there the log has the byte that the command has; from the end on nothing is found.
Positions are in the order of addresses. -/
theorem positionOf_locate?_inverse {capacity : Nat} {fresh : Ring}
    (hfresh : ofCapacity capacity = .ok fresh) (commands : List Command) :
    let ring := fresh.pushAll commands
    (∀ i k, (∃ p, ring.positionOf i k = .ok p) ↔ ring.HasByte i.toNat k.toNat) ∧
    (∀ i k, ¬ ring.HasByte i.toNat k.toNat → ring.positionOf i k = .error (.outOfRange i k)) ∧
    (∀ i k p, ring.positionOf i k = .ok p → p < ring.size ∧
      ring.address? p = some (i.toNat, k.toNat) ∧
      ∃ command, ring.get? i.toNat = some command ∧ ring.locate? p = some (command, k.toNat)) ∧
    (∀ p, ring.locate? p = (ring.address? p).bind fun (number, offset) =>
      (ring.get? number).map (·, offset)) ∧
    (∀ p, ring.locate? p = none ↔ ring.size ≤ p) ∧
    (ring.count ≤ UInt32.size → (∀ command ∈ ring.toList, command.length ≤ UInt32.size) →
      ∀ p < ring.size, ∃ i k command, ring.positionOf i k = .ok p ∧
        (∀ i' k', ring.positionOf i' k' = .ok p → i' = i ∧ k' = k) ∧
        ring.get? i.toNat = some command ∧ ring.locate? p = some (command, k.toNat) ∧
        k.toNat < command.length ∧ ring.contents[p]? = command.bytes[k.toNat]?) ∧
    (∀ i k p i' k' p', ring.positionOf i k = .ok p → ring.positionOf i' k' = .ok p' →
      (p < p' ↔ i < i' ∨ i = i' ∧ k < k')) := by
  obtain ⟨hpos, rfl⟩ := ofCapacity_eq_ok hfresh
  have hring := (wellFormed_empty hpos).pushAll commands
  intro ring
  refine ⟨?_, ?_, ?_, locate?_eq_address? ring, fun p => hring.locate?_eq_none_iff, ?_, ?_⟩
  · intro i k
    constructor
    · rintro ⟨p, hp⟩
      exact (positionOf_eq_ok_iff.1 hp).1
    · intro hbyte
      exact ⟨_, positionOf_eq_ok_iff.2 ⟨hbyte, rfl⟩⟩
  · intro i k hnone
    exact positionOf_of_not_hasByte hnone
  · intro i k p hp
    exact hring.found_at_positionOf hp
  · intro hcount hlength p hp
    obtain ⟨i, k, hposition⟩ := hring.exists_positionOf hcount hlength hp
    obtain ⟨-, -, command, hget, hfound⟩ := hring.found_at_positionOf hposition
    obtain ⟨hlt, hbyte⟩ := contents_of_locate? hfound
    exact ⟨i, k, command, hposition, fun i' k' => eq_of_positionOf_eq hposition, hget, hfound, hlt,
      hbyte⟩
  · intro i k p i' k' p' hp hp'
    exact positionOf_lt_iff hp hp'

/-- Two slots and three commands, so that the oldest one is gone; the two that are kept have the
same bytes, and yet each position is that of one of them. -/
theorem positionOf_locate?_inverse_two :
    ∃ fresh, ofCapacity 2 = .ok fresh ∧
      let ring := fresh.pushAll [⟨[97, 97, 10]⟩, ⟨[98, 10]⟩, ⟨[98, 10]⟩]
      ring.positionOf 1 0 = .ok 2 ∧ ring.address? 2 = some (1, 0) ∧
      ring.locate? 2 = some (⟨[98, 10]⟩, 0) ∧
      (∀ i k, ring.positionOf i k = .ok 2 → i = 1 ∧ k = 0) ∧ ring.locate? 4 = none := by
  have hfresh : ofCapacity 2 = .ok (empty 2) := rfl
  obtain ⟨-, -, hfound, -, hend, honly, -⟩ :=
    positionOf_locate?_inverse hfresh [⟨[97, 97, 10]⟩, ⟨[98, 10]⟩, ⟨[98, 10]⟩]
  have hlist : ((empty 2).pushAll [⟨[97, 97, 10]⟩, ⟨[98, 10]⟩, ⟨[98, 10]⟩]).toList =
      [⟨[98, 10]⟩, ⟨[98, 10]⟩] := by decide +kernel
  have hlength : ∀ command ∈ ((empty 2).pushAll [⟨[97, 97, 10]⟩, ⟨[98, 10]⟩, ⟨[98, 10]⟩]).toList,
      command.length ≤ UInt32.size := by
    rw [hlist]
    decide
  obtain ⟨-, haddress, command, hget, hlocate⟩ := hfound 1 0 2 rfl
  obtain ⟨i, k, -, hposition, hunique, -⟩ := honly (by decide) hlength 2 (by decide)
  obtain ⟨rfl, rfl⟩ := hunique 1 0 rfl
  cases hget
  exact ⟨_, hfresh, hposition, haddress, hlocate, hunique, (hend 4).2 (by decide)⟩

end Ring

end CommandLog
