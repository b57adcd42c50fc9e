import CommandLog.Calendar
import CommandLog.Command
import CommandLog.Numeral

/-!
# Timestamps

A timestamp is a command that says when it was written:

  `timestamp:Tue, 02 Jan 2024 03:04:05 +0000`

`Stamp.ofInstant` reads the calendar and the clock off an instant at a given offset from UTC, and
`Stamp.render` writes the command.  `Timestamp.entry` is the two together.

A year from 0 to 9999 has four digits; any other has a sign and at least four.  The offset is
written in hours and minutes, rounded to the nearest minute with a half going up, and it keeps its
sign even where it rounds to nothing.  A leap second is written as one more than the second that it
follows.

`Timestamp.stamps` picks the complete lines out of a log that begin like a timestamp.
`Timestamp.withoutStamps` leaves out every line that does, also one that is not complete yet.
-/

namespace CommandLog

/-- Why there is no timestamp. -/
inductive TimeFault where
  /-- The instant lies outside of what is counted, or inside of a leap second that is none. -/
  | instant
  /-- The offset is a day or more. -/
  | offset
  deriving DecidableEq

/-- How far local time is from UTC, as it is written. -/
structure Zone where
  west : Bool
  minutes : Nat
  deriving DecidableEq

/-- The offset to the nearest minute. -/
def Zone.ofOffset (offset : Int) : Zone := ⟨offset < 0, (offset.natAbs + 30) / 60⟩

/-- The offset in seconds. -/
def Zone.toOffset (zone : Zone) : Int :=
  if zone.west then -(zone.minutes * 60 : Int) else zone.minutes * 60

/-- The parts of a timestamp. -/
structure Stamp where
  /-- Counted from Sunday as 0. -/
  weekday : Nat
  date : Date
  hour : Nat
  minute : Nat
  /-- Can be 60, in a leap second. -/
  second : Nat
  zone : Zone
  deriving DecidableEq

namespace Stamp

/-- The first second that is counted, at the beginning of year -262143. -/
def firstSecond : Int := -8334601228800

/-- The last second that is counted, at the end of year 262142. -/
def lastSecond : Int := 8210266876799

/-- Nanoseconds in a second; a leap second is counted on from there. -/
def nanosInSecond : Nat := 1000000000

def secondsInDay : Int := 86400

/-- Is this a second that is counted? -/
def IsCounted (seconds : Int) : Prop := firstSecond ≤ seconds ∧ seconds ≤ lastSecond

instance (seconds : Int) : Decidable (IsCounted seconds) := inferInstanceAs (Decidable (_ ∧ _))

/-- Is this an instant?  Only the last second of a minute can be followed by a leap second. -/
def IsInstant (seconds : Int) (nanos : Nat) : Prop :=
  nanos < 2 * nanosInSecond ∧ (nanosInSecond ≤ nanos → seconds % 60 = 59) ∧ IsCounted seconds

instance (seconds : Int) (nanos : Nat) : Decidable (IsInstant seconds nanos) :=
  inferInstanceAs (Decidable (_ ∧ _ ∧ _))

/-- Is this an offset from UTC? -/
def IsOffset (offset : Int) : Prop := -secondsInDay < offset ∧ offset < secondsInDay

instance (offset : Int) : Decidable (IsOffset offset) := inferInstanceAs (Decidable (_ ∧ _))

/-- What calendar and clock show at a second of local time. -/
def ofLocal (seconds : Int) (inLeapSecond : Bool) (zone : Zone) : Stamp :=
  let day := seconds / secondsInDay
  let secondOfDay := (seconds % secondsInDay).toNat
  { weekday := Date.weekday day
    date := Date.ofDay day
    hour := secondOfDay / 3600
    minute := secondOfDay / 60 % 60
    second := secondOfDay % 60 + (if inLeapSecond then 1 else 0)
    zone }

/-- What calendar and clock show at an instant, counted in seconds from the beginning of 1970 and
nanoseconds, where local time is `offset` seconds ahead of UTC. -/
def ofInstant (seconds : Int) (nanos : Nat) (offset : Int) : Except TimeFault Stamp :=
  if ¬ IsInstant seconds nanos then .error .instant
  else if ¬ IsOffset offset then .error .offset
  else .ok (ofLocal (seconds + offset) (nanosInSecond ≤ nanos) (.ofOffset offset))

/-- The second of local time that calendar and clock show. -/
def toLocal (stamp : Stamp) : Int :=
  stamp.date.dayNumber * secondsInDay + stamp.hour * 3600 + stamp.minute * 60 + stamp.second

/-! ## The written form -/

/-- What every timestamp begins with. -/
def head : Bytes := Utf8.encode "timestamp:"

def weekdayNames : List String := ["Sun", "Mon", "Tue", "Wed", "Thu", "Fri", "Sat"]

def monthNames : List String :=
  ["Jan", "Feb", "Mar", "Apr", "May", "Jun", "Jul", "Aug", "Sep", "Oct", "Nov", "Dec"]

/-- A name by its number, from 0. -/
def nameOf (names : List String) (i : Nat) : Bytes := Utf8.encode (names[i]?.getD "")

/-- A year: four digits, or a sign and at least four. -/
def renderYear (year : Int) : Bytes :=
  if 0 ≤ year ∧ year ≤ 9999 then Numeral.padded 4 year.natAbs
  else (if year < 0 then 45 else 43) :: Numeral.padded 4 year.natAbs

/-- An offset: a sign, hours and minutes. -/
def renderZone (zone : Zone) : Bytes :=
  (if zone.west then 45 else 43)
    :: Numeral.padded 2 (zone.minutes / 60) ++ Numeral.padded 2 (zone.minutes % 60)

/-- The bytes of a timestamp, newline included. -/
def render (stamp : Stamp) : Bytes :=
  head ++ nameOf weekdayNames stamp.weekday ++ Utf8.encode ", "
    ++ Numeral.padded 2 stamp.date.day ++ Utf8.encode " "
    ++ nameOf monthNames (stamp.date.month - 1) ++ Utf8.encode " "
    ++ renderYear stamp.date.year ++ Utf8.encode " "
    ++ Numeral.padded 2 stamp.hour ++ Utf8.encode ":"
    ++ Numeral.padded 2 stamp.minute ++ Utf8.encode ":"
    ++ Numeral.padded 2 stamp.second ++ Utf8.encode " "
    ++ renderZone stamp.zone ++ [newline]

end Stamp

namespace Timestamp

/-- The timestamp command for an instant. -/
def entry (seconds : Int) (nanos : Nat) (offset : Int) : Except TimeFault Command :=
  (Stamp.ofInstant seconds nanos offset).map fun stamp => ⟨stamp.render⟩

/-- Does a line begin like a timestamp? -/
def isStamp (line : Bytes) : Bool := (line.dropHead? Stamp.head).isSome

/-- The complete lines that begin like a timestamp. -/
def stamps (log : Bytes) : List Bytes := log.lines.filter isStamp

/-- A log without the lines that begin like a timestamp, the unfinished one at its end included. -/
def withoutStamps (log : Bytes) : Bytes :=
  ((log.lines ++ [log.unfinished]).filter (!isStamp ·)).flatten

end Timestamp

end CommandLog
