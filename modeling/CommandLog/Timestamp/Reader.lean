import CommandLog.Text.Blank
import CommandLog.Timestamp

/-!
# Reading timestamps

`Stamp.read?` reads the parts of a timestamp.  It takes every form that `Stamp.render` writes and
more: names in letters of either case, numbers with fewer digits, white space of any length, none
included, in front of a number, of the month and of the offset and at the end, and an offset with
colons or white space between hours and minutes.

Not every stamp that can be read shows a moment: `Stamp.IsReal` asks for a day that the calendar
has, on its day of the week, a time of that day, an offset of less than a day, and an instant that
is counted.  `Timestamp.isWellFormed` is the two together.
-/

namespace CommandLog

namespace Stamp

/-! ## The parts -/

/-- A letter in lower case. -/
def lowerCase (b : UInt8) : UInt8 := if 65 ≤ b ∧ b ≤ 90 then b + 32 else b

/-- The letters in every name of a day or a month. -/
def lettersInName : Nat := 3

/-- Reads a name, in letters of either case, as its number. -/
def readName (names : List String) (stream : Bytes) : Option (Nat × Bytes) :=
  let word := (stream.take lettersInName).map lowerCase
  (names.findIdx? fun name => (Utf8.encode name).map lowerCase == word).map
    (·, stream.drop lettersInName)

/-- No part of a timestamp is so great: it would be outside of all that is counted. -/
def partLimit : Nat := UInt64.size / 2

/-- Reads at most `room` digits as a number, which has to be below `partLimit`. -/
def readDigits (room : Nat) (stream : Bytes) : Option (Nat × Bytes) :=
  let run := (stream.take room).takeWhile fun b => (Numeral.digit? b).isSome
  (Numeral.below? partLimit run).map (·, stream.drop run.length)

/-- Reads at most `room` digits as a number, after any white space. -/
def readNumber (room : Nat) (stream : Bytes) : Option (Nat × Bytes) :=
  readDigits room (Blank.drop stream)

/-- Reads exactly two digits as a number. -/
def readTwo (stream : Bytes) : Option (Nat × Bytes) :=
  if stream.length < 2 then none
  else (Numeral.value? (stream.take 2)).map (·, stream.drop 2)

/-- Reads a sign: is it a minus? -/
def readSign : Bytes → Option (Bool × Bytes)
  | 43 :: rest => some (false, rest)
  | 45 :: rest => some (true, rest)
  | _ => none

/-- Reads a year: a sign and any number of digits, or at most four digits without a sign. -/
def readYear (stream : Bytes) : Option (Int × Bytes) :=
  let stream := Blank.drop stream
  match readSign stream with
  | some (negative, rest) =>
    (readDigits rest.length rest).map fun (n, rest) => (if negative then -(n : Int) else n, rest)
  | none => (readDigits 4 stream).map fun (n, rest) => ((n : Int), rest)

/-- The character that is a minus and nothing else; it can stand in front of an offset. -/
def minusSign : Bytes := Utf8.encode "\u2212"

/-- Reads an offset: a sign, two digits for the hours, and two for the minutes. -/
def readZone (stream : Bytes) : Option (Zone × Bytes) := do
  let stream := Blank.drop stream
  let (west, rest) ← readSign stream <|> (stream.dropHead? minusSign).map (true, ·)
  let (hours, rest) ← readTwo rest
  let (minutes, rest) ← readTwo (Utf8.dropWhile (fun c => c == ':' || Blank.isBlank c) rest)
  if minutes < 60 then return (⟨west, hours * 60 + minutes⟩, rest) else none

/-! ## The whole -/

/-- The parts of a timestamp. -/
def read? (line : Bytes) : Option Stamp := do
  let rest ← line.dropHead? head
  let (weekday, rest) ← readName weekdayNames rest
  let rest ← rest.dropHead? (Utf8.encode ",")
  let (day, rest) ← readNumber 2 rest
  let (month, rest) ← readName monthNames (Blank.drop rest)
  let (year, rest) ← readYear rest
  let (hour, rest) ← readNumber 2 rest
  let rest ← rest.dropHead? (Utf8.encode ":")
  let (minute, rest) ← readNumber 2 rest
  let rest ← rest.dropHead? (Utf8.encode ":")
  let (second, rest) ← readNumber 2 rest
  let (zone, rest) ← readZone rest
  if Blank.drop rest = [] then
    return ⟨weekday, ⟨year, month + 1, day⟩, hour, minute, second, zone⟩
  else none

/-- The second of local time, where a leap second counts as the one that it follows. -/
def toCounted (stamp : Stamp) : Int := toLocal { stamp with second := min stamp.second 59 }

/-- Does the stamp show a moment? -/
def IsReal (stamp : Stamp) : Prop :=
  stamp.date.IsReal ∧ stamp.weekday = Date.weekday stamp.date.dayNumber ∧
    (stamp.hour < 24 ∧ stamp.minute < 60 ∧ stamp.second ≤ 60) ∧ IsOffset stamp.zone.toOffset ∧
    IsCounted stamp.toCounted ∧ IsCounted (stamp.toCounted - stamp.zone.toOffset)

instance (stamp : Stamp) : Decidable stamp.IsReal :=
  inferInstanceAs (Decidable (_ ∧ _ ∧ (_ ∧ _ ∧ _) ∧ _ ∧ _ ∧ _))

end Stamp

namespace Timestamp

/-- Is the line a timestamp that shows a moment? -/
def isWellFormed (line : Bytes) : Bool := (Stamp.read? line).any fun stamp => stamp.IsReal

end Timestamp

end CommandLog
