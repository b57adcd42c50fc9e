import CommandLog.Numeral
import Mathlib.Data.Nat.Digits.Defs

/-!
# Decimal numerals read back

`value?_digits` says that the digits written for a number are read as that number,
`isSome_digit?_of_value?` that nothing but digits is read at all.  `Numeral.Denotes` says in terms of
positional notation which number a run of digits stands for, and `value?_eq_some_iff` that this is
the value that is read.  `value?_padded` and `length_padded` are about numbers that are filled up with
zeros.  `encode_toString` ties the digits to the texts of numbers, so that `unsigned?_toString` says
what a command line makes of these.
-/

namespace CommandLog.Numeral

/-! ## Runs of digits -/

lemma digit?_ofNat {d : Nat} (h : d < 10) : digit? (UInt8.ofNat (48 + d)) = some d := by
  have hall : ∀ d < 10, digit? (UInt8.ofNat (48 + d)) = some d := by decide
  exact hall d h

lemma extend_append (value : Nat) (run others : Bytes) :
    extend value (run ++ others) = (extend value run).bind (extend · others) := by
  induction run generalizing value with
  | nil => rfl
  | cons b rest ih =>
    rw [List.cons_append, extend, extend]
    cases digit? b with
    | none => rfl
    | some d => exact ih _

lemma digits_ne_nil (n : Nat) : digits n ≠ [] := by
  unfold digits
  split <;> simp

lemma extend_digits (n : Nat) : extend 0 (digits n) = some n := by
  fun_induction digits n with
  | case1 n h => simp only [extend, digit?_ofNat h, Nat.zero_mul, Nat.zero_add]
  | case2 n h ih =>
    have hlast : n % 10 < 10 := Nat.mod_lt _ (by decide)
    rw [extend_append, ih, Option.bind_some, extend, digit?_ofNat hlast]
    simp only [extend, Option.some.injEq]
    omega

/-- The digits of a number are read as that number. -/
lemma value?_digits (n : Nat) : value? (digits n) = some n := by
  rw [← extend_digits n]
  cases h : digits n with
  | nil => exact absurd h (digits_ne_nil n)
  | cons b rest => rfl

lemma isSome_digit?_of_extend {value n : Nat} {run : Bytes} (h : extend value run = some n) :
    ∀ b ∈ run, (digit? b).isSome := by
  induction run generalizing value with
  | nil => exact fun _ hb => absurd hb List.not_mem_nil
  | cons first rest ih =>
    rw [extend] at h
    cases hfirst : digit? first with
    | none => simp [hfirst] at h
    | some d =>
      rw [hfirst] at h
      intro b hb
      rcases List.mem_cons.1 hb with rfl | hb
      · rw [hfirst]
        rfl
      · exact ih h b hb

/-- A run with a value holds nothing but digits. -/
lemma isSome_digit?_of_value? {n : Nat} {run : Bytes} (h : value? run = some n) :
    ∀ b ∈ run, (digit? b).isSome := by
  cases run with
  | nil => exact absurd h (by simp [value?])
  | cons b rest => exact isSome_digit?_of_extend h

/-- A run that fits into 32 bits is read as its value. -/
lemma word32?_eq_some_iff {run : Bytes} {n : UInt32} :
    word32? run = some n ↔ value? run = some n.toNat := by
  rw [word32?, below?_eq]
  constructor
  · intro h
    obtain ⟨value, hvalue, rfl⟩ := Option.map_eq_some_iff.1 h
    obtain ⟨hrun, hbelow⟩ := Option.filter_eq_some_iff.1 hvalue
    rw [hrun, UInt32.toNat_ofNat_of_lt' (by simpa using hbelow)]
  · intro h
    rw [h, Option.filter_some_pos (by simpa using n.toNat_lt)]
    exact congrArg some (UInt32.ofNat_toNat)

/-! ## Filled up with zeros -/

lemma extend_replicate_zero (k : Nat) : extend 0 (List.replicate k 48) = some 0 := by
  induction k with
  | zero => rfl
  | succ k ih => exact ih

/-- Leading zeros change nothing. -/
lemma value?_padded (width n : Nat) : value? (padded width n) = some n := by
  have hextend : extend 0 (padded width n) = some n := by
    rw [padded, extend_append, extend_replicate_zero, Option.bind_some, extend_digits]
  have hne : padded width n ≠ [] := List.append_ne_nil_of_right_ne_nil _ (digits_ne_nil n)
  rw [← hextend]
  cases h : padded width n with
  | nil => exact absurd h hne
  | cons b rest => rfl

lemma length_digits_le {width n : Nat} (hwidth : 0 < width) (h : n < 10 ^ width) :
    (digits n).length ≤ width := by
  fun_induction digits n generalizing width with
  | case1 n hn => exact hwidth
  | case2 n hn ih =>
    obtain ⟨width, rfl⟩ := Nat.exists_eq_succ_of_ne_zero hwidth.ne'
    rw [Nat.pow_succ] at h
    have hmore : 0 < width := by
      refine Nat.pos_of_ne_zero ?_
      rintro rfl
      exact hn h
    rw [List.length_append]
    exact Nat.succ_le_succ (ih hmore (Nat.div_lt_of_lt_mul (by rwa [Nat.mul_comm])))

/-- A number that has no more digits than there is room for fills the room. -/
lemma length_padded {width n : Nat} (hwidth : 0 < width) (h : n < 10 ^ width) :
    (padded width n).length = width := by
  rw [padded, List.length_append, List.length_replicate]
  exact Nat.sub_add_cancel (length_digits_le hwidth h)

/-! ## What a run stands for -/

/-- The byte is one of the ten digits of ASCII. -/
def IsDigit (b : UInt8) : Prop := 48 ≤ b ∧ b ≤ 57

/-- What a digit counts for. -/
def worth (b : UInt8) : Nat := b.toNat - 48

/-- The run is a row of digits, at least one of them, that stands for the number in base ten. -/
structure Denotes (run : Bytes) (n : Nat) : Prop where
  ne_nil : run ≠ []
  isDigit : ∀ b ∈ run, IsDigit b
  ofDigits_eq : Nat.ofDigits 10 (run.map worth).reverse = n

lemma digit?_of_isDigit {b : UInt8} (h : IsDigit b) : digit? b = some (worth b) := if_pos h

lemma digit?_of_not_isDigit {b : UInt8} (h : ¬ IsDigit b) : digit? b = none := if_neg h

/-- Digits that are read onto a value move it to the left by as many places. -/
lemma extend_eq_some_iff {value n : Nat} {run : Bytes} :
    extend value run = some n ↔ (∀ b ∈ run, IsDigit b) ∧
      value * 10 ^ run.length + Nat.ofDigits 10 (run.map worth).reverse = n := by
  induction run generalizing value with
  | nil => simp [extend]
  | cons b rest ih =>
    rw [extend, List.forall_mem_cons]
    by_cases hb : IsDigit b
    · have hplaces : (value * 10 + worth b) * 10 ^ rest.length +
          Nat.ofDigits 10 (rest.map worth).reverse =
            value * 10 ^ (b :: rest).length + Nat.ofDigits 10 ((b :: rest).map worth).reverse := by
        rw [List.map_cons, Nat.ofDigits_reverse_cons, List.length_map, List.length_cons]
        ring
      simp only [digit?_of_isDigit hb, ih, hplaces, hb, true_and]
    · simp [digit?_of_not_isDigit hb, hb]

/-- The value of a run is the number that it stands for. -/
lemma value?_eq_some_iff {run : Bytes} {n : Nat} : value? run = some n ↔ Denotes run n := by
  constructor
  · intro h
    cases run with
    | nil => cases h
    | cons b rest =>
      obtain ⟨hdigits, hvalue⟩ := extend_eq_some_iff.1 h
      rw [Nat.zero_mul, Nat.zero_add] at hvalue
      exact ⟨List.cons_ne_nil b rest, hdigits, hvalue⟩
  · rintro ⟨hne, hdigits, hvalue⟩
    obtain ⟨b, rest, rfl⟩ := List.exists_cons_of_ne_nil hne
    refine extend_eq_some_iff.2 ⟨hdigits, ?_⟩
    rw [Nat.zero_mul, Nat.zero_add, hvalue]

/-! ## On a command line -/

/-- A number is read on a command line from a run of digits, with or without a plus sign. -/
lemma unsigned?_eq_some_iff {limit n : Nat} {text : String} :
    unsigned? limit text = some n ↔
      ∃ run, (Utf8.encode text = run ∨ Utf8.encode text = 43 :: run) ∧ value? run = some n ∧
        n < limit := by
  have hbelow (run : Bytes) : below? limit run = some n ↔ value? run = some n ∧ n < limit := by
    rw [below?_eq, Option.filter_eq_some_iff, decide_eq_true_iff]
  rw [unsigned?]
  constructor
  · intro h
    split at h
    · next run hrun => exact ⟨run, .inr hrun, (hbelow run).1 h⟩
    · next => exact ⟨_, .inl rfl, (hbelow _).1 h⟩
  · rintro ⟨run, hrun | hrun, hvalue⟩
    · split
      · next rest hrest =>
        -- a run with a value does not begin with a plus sign
        have hplus : (43 : UInt8) ∈ run := by rw [← hrun, hrest]; exact List.mem_cons_self
        exact absurd (isSome_digit?_of_value? hvalue.1 43 hplus) (by decide)
      · next => rw [hrun]; exact (hbelow run).2 hvalue
    · simp only [hrun]
      exact (hbelow run).2 hvalue

lemma utf8EncodeChar_digitChar {d : Nat} (h : d < 10) :
    String.utf8EncodeChar d.digitChar = [UInt8.ofNat (48 + d)] := by
  have hall : ∀ d < 10, String.utf8EncodeChar d.digitChar = [UInt8.ofNat (48 + d)] := by decide
  exact hall d h

lemma flatMap_toDigits (n : Nat) :
    (Nat.toDigits 10 n).flatMap String.utf8EncodeChar = digits n := by
  fun_induction digits n with
  | case1 n h => rw [Nat.toDigits_of_lt_base h, List.flatMap_singleton, utf8EncodeChar_digitChar h]
  | case2 n h ih =>
    have hlast : n % 10 < 10 := Nat.mod_lt _ (by decide)
    rw [Nat.toDigits_of_base_le (by decide) (Nat.le_of_not_lt h), List.flatMap_append,
      List.flatMap_singleton, utf8EncodeChar_digitChar hlast, ih]

/-- The text of a number is its digits. -/
lemma encode_toString (n : Nat) : Utf8.encode (toString n) = digits n := by
  rw [← flatMap_toDigits, Utf8.encode]
  exact congrArg _ Nat.toList_repr

/-- The text of a number that fits into 32 bits is read on a command line as that number. -/
lemma unsigned?_toString (n : UInt32) :
    unsigned? UInt32.size (toString n.toNat) = some n.toNat :=
  unsigned?_eq_some_iff.2
    ⟨digits n.toNat, .inl (encode_toString n.toNat), value?_digits n.toNat, n.toNat_lt⟩

end CommandLog.Numeral
