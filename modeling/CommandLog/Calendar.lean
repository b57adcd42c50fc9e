/-!
# The calendar

Dates of the Gregorian calendar, continued without end in both directions, and their numbers: day 0
is the first of January 1970, and the year before year 1 is year 0.

`Date.ofDay` finds the date with a number, `Date.dayNumber` the number of a date.  Both count the
year from March on, so that the day that not every year has is the last one of its year, and the
years in spans of 400, after which the calendar repeats itself.  `dayNumber_ofDay` states that no
day is lost or met twice, and so a date is real if its number leads back to it (`Date.IsReal`).
-/

namespace CommandLog

/-- A date: the months are counted from 1 and so are the days of a month. -/
structure Date where
  year : Int
  month : Nat
  day : Nat
  deriving DecidableEq

namespace Date

/-- Days in 400 years. -/
def daysInCycle : Nat := 146097

/-- The number of the first of March of year 0, counted backwards from day 0. -/
def daysBeforeEpoch : Nat := 719468

/-- The year within a cycle, counted from March, that holds a day of the cycle, and the day within
that year.  A century has 36524 days and four years have 1461; the last century of a cycle and the
last of four years have one day more, which does not begin another one. -/
def yearAndDay (dayOfCycle : Nat) : Nat × Nat :=
  let century := min (dayOfCycle / 36524) 3
  let dayOfCentury := dayOfCycle - century * 36524
  let fourYears := dayOfCentury / 1461
  let dayOfFour := dayOfCentury % 1461
  let year := min (dayOfFour / 365) 3
  (century * 100 + fourYears * 4 + year, dayOfFour - year * 365)

/-- How many days of the year lie before the month, counted from March as month 0. -/
def daysBeforeMonth (month : Nat) : Nat := (153 * month + 2) / 5

/-- The month that holds a day of the year, both counted from March on. -/
def monthOf (dayOfYear : Nat) : Nat := (5 * dayOfYear + 2) / 153

/-- The date with a number. -/
def ofDay (number : Int) : Date :=
  let shifted := number + daysBeforeEpoch
  let cycle := shifted / daysInCycle
  let (year, dayOfYear) := yearAndDay (shifted % daysInCycle).toNat
  let month := monthOf dayOfYear
  { year := cycle * 400 + year + (if month < 10 then 0 else 1)
    month := if month < 10 then month + 3 else month - 9
    day := dayOfYear - daysBeforeMonth month + 1 }

/-- The number of a date. -/
def dayNumber (date : Date) : Int :=
  let year := if date.month ≤ 2 then date.year - 1 else date.year
  let yearOfCycle := (year % 400).toNat
  let month := if date.month ≤ 2 then date.month + 9 else date.month - 3
  let dayOfYear := daysBeforeMonth month + date.day - 1
  let dayOfCycle := yearOfCycle * 365 + yearOfCycle / 4 - yearOfCycle / 100 + dayOfYear
  year / 400 * daysInCycle + dayOfCycle - daysBeforeEpoch

/-- Does the calendar have the date?  It does if the date is the one with its number. -/
def IsReal (date : Date) : Prop := ofDay date.dayNumber = date

instance (date : Date) : Decidable date.IsReal := inferInstanceAs (Decidable (_ = _))

/-- The day of the week of a day number, counted from Sunday as 0. -/
def weekday (number : Int) : Nat := ((number + 4) % 7).toNat

theorem yearAndDay_bounds {dayOfCycle : Nat} (h : dayOfCycle < daysInCycle) :
    (yearAndDay dayOfCycle).1 < 400 ∧ (yearAndDay dayOfCycle).2 < 366 ∧
      (yearAndDay dayOfCycle).1 * 365 + (yearAndDay dayOfCycle).1 / 4
        - (yearAndDay dayOfCycle).1 / 100 + (yearAndDay dayOfCycle).2 = dayOfCycle := by
  simp only [yearAndDay, daysInCycle] at *
  generalize hc : min (dayOfCycle / 36524) 3 = century
  have hcentury : century ≤ 3 ∧ century * 36524 ≤ dayOfCycle ∧
      dayOfCycle - century * 36524 ≤ 36524 ∧
      (century < 3 → dayOfCycle - century * 36524 < 36524) := by omega
  generalize hd : dayOfCycle - century * 36524 = dayOfCentury at *
  generalize hf : dayOfCentury / 1461 = fourYears
  have hfour : fourYears ≤ 24 ∧ fourYears * 1461 + dayOfCentury % 1461 = dayOfCentury := by omega
  generalize hr : dayOfCentury % 1461 = dayOfFour at *
  have hlt : dayOfFour < 1461 := by omega
  generalize hy : min (dayOfFour / 365) 3 = year
  have hyear : year ≤ 3 ∧ year * 365 ≤ dayOfFour ∧ dayOfFour - year * 365 < 366 := by omega
  have h4 : (century * 100 + fourYears * 4 + year) / 4 = century * 25 + fourYears := by omega
  have h100 : (century * 100 + fourYears * 4 + year) / 100 = century := by omega
  rw [h4, h100]
  omega

theorem month_bounds {dayOfYear : Nat} (h : dayOfYear < 366) :
    monthOf dayOfYear < 12 ∧ daysBeforeMonth (monthOf dayOfYear) ≤ dayOfYear := by
  simp only [monthOf, daysBeforeMonth]
  omega

/-- The date with a number has that number. -/
theorem dayNumber_ofDay (number : Int) : (ofDay number).dayNumber = number := by
  generalize hs : number + (daysBeforeEpoch : Int) = shifted
  have hcycle : (shifted % (daysInCycle : Int)).toNat < daysInCycle := by
    simp only [daysInCycle]
    omega
  obtain ⟨hyear, hday, heq⟩ := yearAndDay_bounds hcycle
  obtain ⟨hmonth, hle⟩ := month_bounds hday
  simp only [ofDay, dayNumber, hs]
  generalize (yearAndDay (shifted % (daysInCycle : Int)).toNat).1 = year at *
  generalize (yearAndDay (shifted % (daysInCycle : Int)).toNat).2 = dayOfYear at *
  generalize hm : monthOf dayOfYear = month at *
  have hsum : shifted / (daysInCycle : Int) * daysInCycle + (shifted % (daysInCycle : Int)).toNat
      = shifted := by
    simp only [daysInCycle]
    omega
  by_cases hlate : month < 10
  · have h1 : ¬ month + 3 ≤ 2 := by omega
    have h2 : month + 3 - 3 = month := by omega
    simp only [hlate, if_true, h1, if_false, h2]
    have h3 : (shifted / (daysInCycle : Int) * 400 + (year : Int) + 0) / 400
        = shifted / (daysInCycle : Int) := by omega
    have h4 : ((shifted / (daysInCycle : Int) * 400 + (year : Int) + 0) % 400).toNat = year := by
      omega
    rw [h3, h4]
    omega
  · have h1 : month - 9 ≤ 2 := by omega
    have h2 : month - 9 + 9 = month := by omega
    simp only [hlate, if_false, h1, if_true, h2]
    have h3 : (shifted / (daysInCycle : Int) * 400 + (year : Int) + 1 - 1) / 400
        = shifted / (daysInCycle : Int) := by omega
    have h4 : ((shifted / (daysInCycle : Int) * 400 + (year : Int) + 1 - 1) % 400).toNat
        = year := by omega
    rw [h3, h4]
    omega

/-- Every number leads to a date that the calendar has. -/
theorem isReal_ofDay (number : Int) : (ofDay number).IsReal := by
  rw [IsReal, dayNumber_ofDay]

end Date

end CommandLog
