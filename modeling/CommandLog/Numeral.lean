import CommandLog.Text.Utf8

/-!
# Decimal numerals

`Numeral.value?` reads a run of ASCII digits, `Numeral.digits` writes one.  Any number of leading
zeros is read; none is written.  Nothing but digits is a numeral: a sign, a blank or a digit of
another script is refused.  Where a number is given on a command line one leading plus sign is
accepted as well (`Numeral.unsigned?`).

However long a run is, only numbers below some limit are ever asked for.  `Numeral.below?` reads
them without working out the others, and `below?_eq` says that it gives just the values below the
limit.
-/

namespace CommandLog.Numeral

/-- The value of an ASCII digit. -/
def digit? (b : UInt8) : Option Nat :=
  if 48 ≤ b ∧ b ≤ 57 then some (b.toNat - 48) else none

/-- Reads digits onto the value of those before them. -/
def extend : Nat → Bytes → Option Nat
  | value, [] => some value
  | value, b :: rest =>
    match digit? b with
    | some d => extend (value * 10 + d) rest
    | none => none

/-- The value of a non-empty run of digits. -/
def value? : Bytes → Option Nat
  | [] => none
  | run => extend 0 run

/-- Reads digits onto the value of those before them, and gives up once it is `limit` or more. -/
def extendBelow (limit : Nat) : Nat → Bytes → Option Nat
  | value, [] => if value < limit then some value else none
  | value, b :: rest =>
    if value < limit then
      match digit? b with
      | some d => extendBelow limit (value * 10 + d) rest
      | none => none
    else none

/-- The value of a non-empty run of digits, if it is below `limit`. -/
def below? (limit : Nat) : Bytes → Option Nat
  | [] => none
  | run => extendBelow limit 0 run

/-- The value of a run of digits, if it fits into 32 bits. -/
def word32? (run : Bytes) : Option UInt32 := (below? UInt32.size run).map UInt32.ofNat

/-- The digits of a number, the most significant first. -/
def digits (n : Nat) : Bytes :=
  if n < 10 then [UInt8.ofNat (48 + n)]
  else digits (n / 10) ++ [UInt8.ofNat (48 + n % 10)]

/-- A number given on a command line: digits, after at most one plus sign, below `limit`. -/
def unsigned? (limit : Nat) (text : String) : Option Nat :=
  let run :=
    match Utf8.encode text with
    | 43 :: rest => rest
    | run => run
  below? limit run

/-- A number with at least `width` digits, filled up with zeros on the left. -/
def padded (width n : Nat) : Bytes :=
  let run := digits n
  List.replicate (width - run.length) 48 ++ run

/-! ## What a limit leaves out -/

/-- More digits never make the value smaller. -/
theorem le_of_extend {value n : Nat} {run : Bytes} (h : extend value run = some n) :
    value ≤ n := by
  induction run generalizing value with
  | nil => simp [extend] at h; omega
  | cons b rest ih =>
    unfold extend at h
    split at h
    · have := ih h
      omega
    · simp at h

theorem extendBelow_eq (limit value : Nat) (run : Bytes) :
    extendBelow limit value run = (extend value run).filter (· < limit) := by
  induction run generalizing value with
  | nil => simp [extendBelow, extend, Option.filter]
  | cons b rest ih =>
    unfold extendBelow extend
    cases digit? b with
    | none => simp
    | some d =>
      by_cases hv : value < limit
      · simp [hv, ih]
      · simp only [hv, if_false]
        refine (Option.filter_eq_none_iff.2 fun n hn => ?_).symm
        have := le_of_extend hn
        simp only [decide_eq_true_eq]
        omega

/-- Reading below a limit gives the value of the run where that is below the limit. -/
theorem below?_eq (limit : Nat) (run : Bytes) :
    below? limit run = (value? run).filter (· < limit) := by
  cases run with
  | nil => rfl
  | cons b rest => exact extendBelow_eq limit 0 (b :: rest)

end CommandLog.Numeral
