/-!
# How alike two words are

The Jaro–Winkler measure, from 0 for words without a common letter to 1 for equal ones.  Two equal
letters match when they are not further apart than half of the longer word; each letter of the
second word is matched once.  Matches that come in another order count for less, and a common
beginning counts for more.

A mistyped word is taken for a known one when the measure exceeds `Similarity.threshold`.
-/

namespace CommandLog.Similarity

/-- From here on two words are taken for the same one, mistyped. -/
def threshold : Float := 0.8

/-- The place of the first unused letter `c` of the word between two places, if there is one. -/
def findUnused (c : Char) (first last : Nat) (word : List (Char × Bool)) : Option Nat :=
  (word.zipIdx.find? fun ((d, used), i) =>
    first ≤ i && i ≤ last && c == d && !used).map (·.2)

/-- The matches found so far. -/
structure Tally where
  word : List (Char × Bool)
  matched : Nat
  displaced : Nat
  lastPlace : Nat

/-- Looks for the match of the letter at place `i`, at most `range` places away. -/
def Tally.look (range : Nat) (tally : Tally) (letter : Char × Nat) : Tally :=
  let (c, i) := letter
  match findUnused c (i - range) (i + range) tally.word with
  | none => tally
  | some j =>
    { word := tally.word.modify j fun (d, _) => (d, true)
      matched := tally.matched + 1
      displaced := tally.displaced + (if j < tally.lastPlace then 1 else 0)
      lastPlace := j }

/-- The measure without the common beginning. -/
def jaro (a b : List Char) : Float :=
  if a = b then 1
  else if a = [] ∨ b = [] ∨ (a.length = 1 ∧ b.length = 1) then 0
  else
    let range := max a.length b.length / 2 - 1
    let tally := a.zipIdx.foldl (Tally.look range) ⟨b.map (·, false), 0, 0, 0⟩
    if tally.matched = 0 then 0
    else
      let matched := tally.matched.toFloat
      (1.0 / 3.0)
        * (matched / a.length.toFloat + matched / b.length.toFloat
          + (matched - tally.displaced.toFloat) / matched)

/-- How many letters two words have in common from the beginning. -/
def commonHead : List Char → List Char → Nat
  | a :: as, b :: bs => if a = b then commonHead as bs + 1 else 0
  | _, _ => 0

/-- How alike two words are. -/
def measure (a b : String) : Float :=
  let base := jaro a.toList b.toList
  let score := base + 0.1 * (commonHead a.toList b.toList).toFloat * (1.0 - base)
  if score ≤ 1.0 then score else 1.0

/-- Is the word like one of these? -/
def resembles (word : String) (known : List String) : Bool :=
  known.any fun other => threshold < measure word other

end CommandLog.Similarity
