import CommandLog.Calendar
import Mathlib.Tactic.Common
import Mathlib.Tactic.IntervalCases

/-!
# Day after day

`Date.ofDay` and `Date.dayNumber` find a date by its number and a number by its date in one go.  Here is
the calendar as it is told: months of 28 to 31 days, a leap day in every fourth year, but not in a full
century unless 400 divides it, and after each day comes the next one (`Date.next`).  `Date.IsDay` counts
from the first of January 1970 on, day after day, in both directions.

The two agree: `dayNumber_next` is the step, `IsProper.isReal` says that no date of the calendar is left
out, and `isDay_iff` that counting comes to the date that `Date.ofDay` finds.
-/

namespace CommandLog

namespace Date

/-! ## The calendar as it is told -/

/-- Does the year have a leap day? -/
def IsLeap (year : Int) : Prop := year % 4 = 0 ∧ (year % 100 = 0 → year % 400 = 0)

instance (year : Int) : Decidable (IsLeap year) := inferInstanceAs (Decidable (_ ∧ (_ → _)))

/-- How many days a month has. -/
def daysInMonth (year : Int) (month : Nat) : Nat :=
  if month = 2 then (if IsLeap year then 29 else 28)
  else if month = 4 ∨ month = 6 ∨ month = 9 ∨ month = 11 then 30
  else 31

/-- The date has a month of the year and a day of the month. -/
structure IsProper (date : Date) : Prop where
  month_pos : 0 < date.month
  month_le : date.month ≤ 12
  day_pos : 0 < date.day
  day_le : date.day ≤ daysInMonth date.year date.month

/-- The date of the day after. -/
def next (date : Date) : Date :=
  if date.day < daysInMonth date.year date.month then { date with day := date.day + 1 }
  else if date.month < 12 then { date with month := date.month + 1, day := 1 }
  else ⟨date.year + 1, 1, 1⟩

/-- The date of the day with a number, which is counted day after day from the first of January 1970. -/
inductive IsDay : Int → Date → Prop
  | epoch : IsDay 0 ⟨1970, 1, 1⟩
  | after {number : Int} {date : Date} : IsDay number date → IsDay (number + 1) date.next
  | before {number : Int} {date : Date} : date.IsProper → IsDay (number + 1) date.next →
      IsDay number date

variable {date other : Date}

lemma daysInMonth_pos (year : Int) (month : Nat) : 0 < daysInMonth year month := by
  unfold daysInMonth
  split_ifs <;> decide

lemma daysInMonth_le (year : Int) (month : Nat) : daysInMonth year month ≤ 31 := by
  unfold daysInMonth
  split_ifs <;> decide

lemma IsProper.next (h : date.IsProper) : date.next.IsProper := by
  obtain ⟨hmonth, hle, hday, hlast⟩ := h
  unfold Date.next
  split_ifs with hwithin hyear
  · exact ⟨hmonth, hle, Nat.succ_pos _, hwithin⟩
  · exact ⟨Nat.succ_pos _, hyear, Nat.one_pos, daysInMonth_pos _ _⟩
  · exact ⟨Nat.one_pos, Nat.one_le_ofNat, Nat.one_pos, daysInMonth_pos _ _⟩

/-! ## The number of the day after -/

/-- How many days lie before the year, which is counted from March on. -/
def daysBeforeYear (year : Int) : Int :=
  year / 400 * daysInCycle + ((year % 400) * 365 + year % 400 / 4 - year % 400 / 100)

/-- A year that ends with February has a day more if this February has. -/
lemma daysBeforeYear_succ (year : Int) :
    daysBeforeYear year = daysBeforeYear (year - 1) + if IsLeap year then 366 else 365 := by
  unfold daysBeforeYear IsLeap daysInCycle
  split_ifs <;> omega

/-- The year counted from March on, and the month within it. -/
def marchYear (date : Date) : Int := if date.month ≤ 2 then date.year - 1 else date.year

def marchMonth (date : Date) : Nat := if date.month ≤ 2 then date.month + 9 else date.month - 3

lemma dayNumber_eq (hday : 0 < date.day) :
    date.dayNumber = daysBeforeYear date.marchYear + daysBeforeMonth date.marchMonth + date.day
      - 1 - daysBeforeEpoch := by
  simp only [dayNumber, daysBeforeYear, marchYear, marchMonth]
  generalize (if date.month ≤ 2 then date.year - 1 else date.year) = year
  omega

/-- A month that is not the last of its year has the days up to the next one. -/
lemma IsProper.daysInMonth_eq (h : date.IsProper) (hmonth : date.month ≠ 2) :
    date.marchMonth < 11 ∧ daysBeforeMonth (date.marchMonth + 1) =
      daysBeforeMonth date.marchMonth + daysInMonth date.year date.month := by
  obtain ⟨year, month, day⟩ := date
  obtain ⟨hpos, hle, -, -⟩ := h
  simp only at hpos hle hmonth
  interval_cases month <;> simp [marchMonth, daysBeforeMonth, daysInMonth] at hmonth ⊢

/-- After the last day of such a month comes the first day of the next one. -/
lemma IsProper.next_of_last (h : date.IsProper) (hmonth : date.month ≠ 2)
    (hlast : date.day = daysInMonth date.year date.month) :
    date.next.marchYear = date.marchYear ∧ date.next.marchMonth = date.marchMonth + 1 ∧
      date.next.day = 1 := by
  have hpos := h.month_pos
  have hle := h.month_le
  by_cases hend : date.month < 12
  · have hside : date.month + 1 ≤ 2 ↔ date.month ≤ 2 := by omega
    simp only [Date.next, if_neg (Nat.not_lt_of_le hlast.ge), if_pos hend, marchYear, marchMonth,
      hside, true_and, and_true]
    split_ifs <;> omega
  · obtain hdecember : date.month = 12 := by omega
    simp [Date.next, hlast, marchYear, marchMonth, hdecember]

lemma dayNumber_next (h : date.IsProper) : date.next.dayNumber = date.dayNumber + 1 := by
  rw [dayNumber_eq h.next.day_pos, dayNumber_eq h.day_pos]
  rcases Nat.lt_or_eq_of_le h.day_le with hwithin | hlast
  · simp only [Date.next, if_pos hwithin, marchYear, marchMonth]
    omega
  · by_cases hmonth : date.month = 2
    · -- the last day of February is that of the year
      have hyear := daysBeforeYear_succ date.year
      have hend : ¬ date.day < daysInMonth date.year 2 := Nat.not_lt_of_le (hmonth ▸ hlast.ge)
      rw [hmonth, daysInMonth, if_pos rfl] at hlast
      simp only [Date.next, hmonth, if_neg hend, marchYear, marchMonth, daysBeforeMonth]
      split_ifs at hyear hlast ⊢ <;> simp only at * <;> omega
    · obtain ⟨hyear, hnext, hday⟩ := h.next_of_last hmonth hlast
      have hdays := (h.daysInMonth_eq hmonth).2
      rw [hyear, hnext, hday, hdays, hlast]
      omega

/-! ## No date is left out -/

/-- A day of a year leads back to the year and to the day, if the year has it. -/
lemma yearAndDay_eq {year day : Nat} (hyear : year < 400)
    (hday : day < 365 ∨ day = 365 ∧ year % 4 = 3 ∧ (year % 100 = 99 → year = 399)) :
    yearAndDay (year * 365 + year / 4 - year / 100 + day) = (year, day) := by
  obtain ⟨century, fourYears, last, rfl, hcentury, hfour, hlast⟩ :
      ∃ century fourYears last, year = century * 100 + fourYears * 4 + last ∧
        century < 4 ∧ fourYears < 25 ∧ last < 4 :=
    ⟨year / 100, year % 100 / 4, year % 4, by omega, by omega, by omega, by omega⟩
  have hcycle : (century * 100 + fourYears * 4 + last) * 365 +
      (century * 100 + fourYears * 4 + last) / 4 - (century * 100 + fourYears * 4 + last) / 100 + day =
        century * 36524 + fourYears * 1461 + last * 365 + day := by omega
  -- the leap day is the last of four years, and it is none at the end of a century but the last
  replace hday : day < 365 ∨ day = 365 ∧ last = 3 ∧ (fourYears = 24 → century = 3) := by omega
  clear hyear
  have hfirst : min ((century * 36524 + fourYears * 1461 + last * 365 + day) / 36524) 3 = century := by
    omega
  have hsecond : (fourYears * 1461 + last * 365 + day) / 1461 = fourYears := by omega
  have hrest : (fourYears * 1461 + last * 365 + day) % 1461 = last * 365 + day := by omega
  have hthird : min ((last * 365 + day) / 365) 3 = last := by
    rcases hday with hlt | ⟨rfl, rfl, -⟩
    · rw [Nat.mul_comm, Nat.mul_add_div (by decide), Nat.div_eq_of_lt hlt]
      omega
    · rfl
  have hcut : century * 36524 + fourYears * 1461 + last * 365 + day - century * 36524 =
      fourYears * 1461 + last * 365 + day := by omega
  rw [hcycle]
  simp only [yearAndDay, hfirst, hcut, hsecond, hrest, hthird, Nat.add_sub_cancel_left]

/-- A day of a month leads back to the month. -/
lemma monthOf_eq {month day : Nat} (hmonth : month < 12) (hday : 0 < day)
    (hle : day ≤ daysBeforeMonth (month + 1) - daysBeforeMonth month) :
    monthOf (daysBeforeMonth month + day - 1) = month := by
  simp only [daysBeforeMonth, monthOf] at hle ⊢
  omega

/-- Counted from March on, a date has a month of the year and a day of this month, and only a year that
ends with a leap day has a day number 365. -/
lemma IsProper.march (h : date.IsProper) :
    date.marchMonth < 12 ∧
      date.day ≤ daysBeforeMonth (date.marchMonth + 1) - daysBeforeMonth date.marchMonth ∧
      (daysBeforeMonth date.marchMonth + date.day - 1 < 365 ∨
        daysBeforeMonth date.marchMonth + date.day - 1 = 365 ∧ IsLeap (date.marchYear + 1)) := by
  have hday := h.day_le
  by_cases hmonth : date.month = 2
  · rw [hmonth, daysInMonth, if_pos rfl] at hday
    simp only [marchYear, marchMonth, hmonth, Nat.le_refl, if_true, daysBeforeMonth,
      Int.sub_add_cancel]
    split_ifs at hday with hleap
    · simp only [hleap, and_true]
      omega
    · omega
  · obtain ⟨hlt, hdays⟩ := h.daysInMonth_eq hmonth
    have hpos := h.day_pos
    refine ⟨hlt.trans (by decide), by omega, .inl ?_⟩
    unfold daysBeforeMonth at hdays ⊢
    omega

/-- Year and month are found again from those counted from March on. -/
lemma IsProper.of_march (h : date.IsProper) :
    date.marchYear + (if date.marchMonth < 10 then 0 else 1) = date.year ∧
      (if date.marchMonth < 10 then date.marchMonth + 3 else date.marchMonth - 9) = date.month := by
  have hpos := h.month_pos
  have hle := h.month_le
  unfold marchYear marchMonth
  split_ifs <;> omega

/-- The days of a year lie within the cycle. -/
lemma dayOfCycle_lt {year day : Nat} (hyear : year < 400) (hday : day ≤ 365) :
    year * 365 + year / 4 - year / 100 + day < daysInCycle := by
  unfold daysInCycle
  omega

/-- A day of a cycle leads back to the cycle and to the day. -/
lemma split_cycle {dayOfCycle : Nat} (h : dayOfCycle < daysInCycle) (cycle : Int) :
    (cycle * daysInCycle + dayOfCycle) / daysInCycle = cycle ∧
      ((cycle * daysInCycle + dayOfCycle) % daysInCycle).toNat = dayOfCycle := by
  unfold daysInCycle at *
  omega

/-- A date of the calendar is the one with its number. -/
lemma IsProper.isReal (h : date.IsProper) : date.IsReal := by
  obtain ⟨hmonth, hday, hlast⟩ := h.march
  obtain ⟨hyearOf, hmonthOf⟩ := h.of_march
  have hmonthFound := monthOf_eq hmonth h.day_pos hday
  have hnumber : date.dayNumber + daysBeforeEpoch = date.marchYear / 400 * daysInCycle +
      ((date.marchYear % 400).toNat * 365 + (date.marchYear % 400).toNat / 4
        - (date.marchYear % 400).toNat / 100
        + (daysBeforeMonth date.marchMonth + date.day - 1) : Nat) := Int.sub_add_cancel _ _
  have hdayOf : daysBeforeMonth date.marchMonth + date.day - 1 - daysBeforeMonth date.marchMonth + 1 =
      date.day := by
    have hpos := h.day_pos
    omega
  have hyear : (date.marchYear % 400).toNat < 400 := by omega
  generalize daysBeforeMonth date.marchMonth + date.day - 1 = dayOfYear at *
  have hleap : dayOfYear < 365 ∨ dayOfYear = 365 ∧ (date.marchYear % 400).toNat % 4 = 3 ∧
      ((date.marchYear % 400).toNat % 100 = 99 → (date.marchYear % 400).toNat = 399) := by
    unfold IsLeap at hlast
    omega
  have hfound := yearAndDay_eq hyear hleap
  have hle : dayOfYear ≤ 365 := by omega
  obtain ⟨hcycle, hdayOfCycle⟩ := split_cycle (dayOfCycle_lt hyear hle) (date.marchYear / 400)
  have hyearFound : date.marchYear / 400 * 400 + (date.marchYear % 400).toNat = date.marchYear := by
    omega
  rw [IsReal, ofDay, hnumber, hcycle, hdayOfCycle, hfound]
  simp only [hmonthFound, hyearFound, hyearOf, hmonthOf, hdayOf]

/-- The date of the same day so many times 400 years later. -/
def later (cycles : Int) (date : Date) : Date := { date with year := date.year + cycles * 400 }

lemma IsProper.later (h : date.IsProper) (cycles : Int) : (date.later cycles).IsProper := by
  have hleap : IsLeap (date.year + cycles * 400) ↔ IsLeap date.year := by
    unfold IsLeap
    omega
  have hdays : daysInMonth (date.year + cycles * 400) date.month = daysInMonth date.year date.month :=
    if_congr Iff.rfl (if_congr hleap rfl rfl) rfl
  exact ⟨h.month_pos, h.month_le, h.day_pos, hdays.symm ▸ h.day_le⟩

lemma dayNumber_later (cycles : Int) (h : 0 < date.day) :
    (date.later cycles).dayNumber = date.dayNumber + cycles * daysInCycle := by
  have hyear : (date.later cycles).marchYear = date.marchYear + cycles * 400 := by
    simp only [marchYear, later]
    split_ifs <;> omega
  have hmonth : (date.later cycles).marchMonth = date.marchMonth := rfl
  have hdays : daysBeforeYear (date.marchYear + cycles * 400) =
      daysBeforeYear date.marchYear + cycles * daysInCycle := by
    simp only [daysBeforeYear, daysInCycle]
    omega
  have hday : 0 < (date.later cycles).day := h
  rw [dayNumber_eq hday, dayNumber_eq h, hyear, hmonth, hdays]
  simp only [later]
  omega

/-- Every number is that of a date of the calendar. -/
lemma exists_isProper (number : Int) : ∃ date : Date, date.IsProper ∧ date.dayNumber = number := by
  -- day after day from a day so many times 400 years ago
  have hforward : ∀ n : Nat, ∃ date : Date, date.IsProper ∧ date.dayNumber = n := by
    intro n
    induction n with
    | zero => exact ⟨⟨1970, 1, 1⟩, ⟨by decide, by decide, by decide, by decide⟩, by decide⟩
    | succ n ih =>
      obtain ⟨date, hproper, hnumber⟩ := ih
      refine ⟨date.next, hproper.next, ?_⟩
      rw [dayNumber_next hproper, hnumber]
      rfl
  obtain ⟨date, hproper, hnumber⟩ := hforward (number + number.natAbs * daysInCycle).toNat
  refine ⟨date.later (-number.natAbs), hproper.later _, ?_⟩
  rw [dayNumber_later _ hproper.day_pos, hnumber, daysInCycle]
  omega

lemma isProper_ofDay (number : Int) : (ofDay number).IsProper := by
  obtain ⟨date, hproper, rfl⟩ := exists_isProper number
  rwa [hproper.isReal]

/-- After the day with a number comes the day with the next number. -/
lemma ofDay_succ (number : Int) : ofDay (number + 1) = (ofDay number).next := by
  have hproper := isProper_ofDay number
  rw [← hproper.next.isReal, dayNumber_next hproper, dayNumber_ofDay]

/-! ## Counting -/

/-- To count day after day is to find the date by its number. -/
theorem isDay_iff {number : Int} : IsDay number date ↔ date = ofDay number := by
  constructor
  · intro h
    induction h with
    | epoch => decide
    | after _ ih => rw [ofDay_succ, ih]
    | @before number date hproper _ ih =>
      have hnumber := congrArg dayNumber ih
      rw [dayNumber_next hproper, dayNumber_ofDay] at hnumber
      obtain rfl : date.dayNumber = number := by omega
      exact hproper.isReal.symm
  · rintro rfl
    induction number using Int.induction_on with
    | zero => exact .epoch
    | succ n ih =>
      rw [ofDay_succ]
      exact ih.after
    | pred n ih =>
      refine .before (isProper_ofDay _) ?_
      rw [← ofDay_succ, Int.sub_add_cancel]
      exact ih

end Date

end CommandLog
