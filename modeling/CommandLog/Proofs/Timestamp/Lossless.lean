import CommandLog.Proofs.Calendar.Days
import CommandLog.Proofs.Timestamp.Lines
import CommandLog.Proofs.Timestamp.Parts

/-!
# Timestamps lose no second

A stamp whose parts fit into the room that the written form has for them (`Stamp.Fits`) is read back
from this form (`Stamp.read?_render`), and the stamp of an instant fits (`fits_of_ofInstant`), also where
the year has a sign and five or six digits.  Outside of leap seconds it shows the second of local time
(`Stamp.Shows`): the date is the one that is counted day after day from 1970, with its day of the week,
and the clock shows the time of this day.

`Timestamp.entry_shows_instant` is the result: for every instant and every offset there is a timestamp,
it is a command that is stored, and local time to the second is in its text.
-/

namespace CommandLog

lemma Bytes.dropHead?_append (head rest : Bytes) : dropHead? (head ++ rest) head = some rest :=
  dropHead?_eq_some_iff.2 rfl

/-- The years of a calendar go on more slowly than its days. -/
lemma Date.natAbs_year_ofDay_le (number : Int) :
    (ofDay number).year.natAbs ≤ number.natAbs + 1000000 := by
  have hcycle : ((number + daysBeforeEpoch) % (daysInCycle : Int)).toNat < daysInCycle := by
    unfold daysInCycle
    omega
  have hyear := (yearAndDay_bounds hcycle).1
  simp only [ofDay]
  generalize (yearAndDay ((number + daysBeforeEpoch) % (daysInCycle : Int)).toNat).1 = year at hyear
  unfold daysInCycle daysBeforeEpoch
  split_ifs <;> omega

namespace Stamp

variable {stamp : Stamp} {seconds offset second : Int} {nanos : Nat}

/-! ## The whole read back -/

/-- Every part fits into the room that the written form has for it. -/
structure Fits (stamp : Stamp) : Prop where
  weekday_lt : stamp.weekday < 7
  day_lt : stamp.date.day < 100
  month_pos : 0 < stamp.date.month
  month_le : stamp.date.month ≤ 12
  year_lt : stamp.date.year.natAbs < partLimit
  hour_lt : stamp.hour < 100
  minute_lt : stamp.minute < 100
  second_lt : stamp.second < 100
  zone_lt : stamp.zone.minutes < 6000

/-- What is written for a stamp is read as this stamp. -/
lemma read?_render (h : stamp.Fits) : read? stamp.render = some stamp := by
  have hcomma : Utf8.encode ", " = Utf8.encode "," ++ Utf8.encode " " := by decide
  have hmonth : stamp.date.month - 1 < 12 := by
    have hle := h.month_le
    omega
  have hstops := stops_nameOf_monthNames hmonth
  rw [render_eq, body, hcomma]
  simp only [List.append_assoc, read?, Option.bind_eq_bind]
  -- part by part, in the order in which they are written
  rw [Bytes.dropHead?_append, Option.bind_some,
    readName_nameOf isTable_weekdayNames h.weekday_lt, Option.bind_some,
    Bytes.dropHead?_append, Option.bind_some,
    readNumber_space, readNumber_padded h.day_lt, Option.bind_some,
    Blank.drop_space, Blank.drop_append_of_stops hstops,
    readName_nameOf isTable_monthNames hmonth, Option.bind_some,
    readYear_renderYear h.year_lt, Option.bind_some,
    readNumber_space, readNumber_padded h.hour_lt, Option.bind_some,
    Bytes.dropHead?_append, Option.bind_some,
    readNumber_padded h.minute_lt, Option.bind_some,
    Bytes.dropHead?_append, Option.bind_some,
    readNumber_padded h.second_lt, Option.bind_some,
    readZone_renderZone h.zone_lt, Option.bind_some,
    if_pos Blank.drop_newline, Option.pure_def, Nat.sub_add_cancel h.month_pos]

lemma ofInstant_eq_ok_iff : ofInstant seconds nanos offset = .ok stamp ↔
    (IsInstant seconds nanos ∧ IsOffset offset) ∧
      stamp = ofLocal (seconds + offset) (nanosInSecond ≤ nanos) (.ofOffset offset) := by
  unfold ofInstant
  by_cases hinstant : IsInstant seconds nanos
  · by_cases hoffset : IsOffset offset
    · simp only [hinstant, hoffset, not_true, if_false, Except.ok.injEq, and_self, true_and, eq_comm]
    · simp [hinstant, hoffset]
  · simp [hinstant]

/-- The stamp of an instant fits. -/
lemma fits_of_ofInstant (h : ofInstant seconds nanos offset = .ok stamp) : stamp.Fits := by
  obtain ⟨⟨⟨-, -, hfirst, hlast⟩, hwest, heast⟩, rfl⟩ := ofInstant_eq_ok_iff.1 h
  have hdate := Date.isProper_ofDay ((seconds + offset) / secondsInDay)
  have hdays := Date.natAbs_year_ofDay_le ((seconds + offset) / secondsInDay)
  have hlength : Date.daysInMonth (Date.ofDay ((seconds + offset) / secondsInDay)).year
      (Date.ofDay ((seconds + offset) / secondsInDay)).month ≤ 31 := Date.daysInMonth_le _ _
  unfold firstSecond at hfirst
  unfold lastSecond at hlast
  unfold secondsInDay at *
  exact {
    weekday_lt := by
      simp only [ofLocal, Date.weekday]
      omega
    day_lt := Nat.lt_of_le_of_lt (hdate.day_le.trans hlength) (by decide)
    month_pos := hdate.month_pos
    month_le := hdate.month_le
    year_lt := by
      have hlimit : partLimit = 9223372036854775808 := by decide
      rw [hlimit]
      refine Nat.lt_of_le_of_lt hdays ?_
      omega
    hour_lt := by
      simp only [ofLocal, secondsInDay]
      omega
    minute_lt := by
      simp only [ofLocal, secondsInDay]
      omega
    second_lt := by
      simp only [ofLocal, secondsInDay]
      split_ifs <;> omega
    zone_lt := by
      simp only [ofLocal, Zone.ofOffset]
      omega }

/-! ## Local time -/

/-- Calendar and clock show the second of local time. -/
structure Shows (stamp : Stamp) (second : Int) : Prop where
  isDay : Date.IsDay (second / secondsInDay) stamp.date
  weekday_eq : stamp.weekday = Date.weekday (second / secondsInDay)
  hour_lt : stamp.hour < 24
  minute_lt : stamp.minute < 60
  second_lt : stamp.second < 60
  time_eq : (stamp.hour * 3600 + stamp.minute * 60 + stamp.second : Int) = second % secondsInDay

lemma shows_ofLocal (second : Int) (zone : Zone) : (ofLocal second false zone).Shows second where
  isDay := Date.isDay_iff.2 rfl
  weekday_eq := rfl
  hour_lt := by
    simp only [ofLocal, secondsInDay]
    omega
  minute_lt := Nat.mod_lt _ (by decide)
  second_lt := Nat.mod_lt _ (by decide)
  time_eq := by
    simp only [ofLocal, secondsInDay, Bool.false_eq_true, if_false]
    omega

/-- The second that is shown is found again. -/
lemma Shows.toLocal_eq (h : stamp.Shows second) : stamp.toLocal = second := by
  have htime := h.time_eq
  rw [toLocal, Date.isDay_iff.1 h.isDay, Date.dayNumber_ofDay]
  unfold secondsInDay at *
  omega

lemma shows_of_ofInstant (h : ofInstant seconds nanos offset = .ok stamp)
    (hnanos : nanos < nanosInSecond) : stamp.Shows (seconds + offset) := by
  obtain ⟨-, rfl⟩ := ofInstant_eq_ok_iff.1 h
  rw [decide_eq_false (Nat.not_le.2 hnanos)]
  exact shows_ofLocal _ _

end Stamp

/-! ## The command -/

/-- The command is one line, which the gate for bytes from outside lets through as it is, and it is
stored. -/
structure Command.IsStorable (command : Command) : Prop where
  count_newline : command.bytes.count newline = 1
  getLast?_eq : command.bytes.getLast? = some newline
  ofBytes_eq : ofBytes command.bytes = .ok command
  ofCommand_eq : Request.ofCommand command = .ok (.store command)

namespace Timestamp

variable {command : Command} {stamp : Stamp} {seconds offset : Int} {nanos : Nat}

/-- No timestamp begins like a seek. -/
lemma not_begins_with_seekHead (rest : Bytes) : ¬ Request.seekHead <+: Stamp.head ++ rest :=
  Bytes.dropHead?_eq_none_iff.1 rfl

lemma IsEntry.isStorable (h : IsEntry command) : command.IsStorable := by
  obtain ⟨hcount, hlast⟩ := Bytes.isLine_iff.1 h.isComplete
  obtain ⟨stamp, hbytes⟩ := h.bytes_eq
  refine ⟨hcount, hlast, Command.ofBytes_eq_ok_iff.2 ⟨h.isComplete, rfl⟩, ?_⟩
  have hstore := Request.ofCommand_of_not_head (not_begins_with_seekHead stamp.body)
  rwa [List.append_assoc, ← hbytes] at hstore

lemma entry_eq_ok_iff : entry seconds nanos offset = .ok command ↔
    ∃ stamp, Stamp.ofInstant seconds nanos offset = .ok stamp ∧ command = ⟨stamp.render⟩ := by
  unfold entry
  cases Stamp.ofInstant seconds nanos offset with
  | error fault => simp [Except.map]
  | ok stamp => simp [Except.map, eq_comm]

/-- For every instant and every offset there is a timestamp.  It is stored as it is, and what calendar
and clock show is read back from it.  Outside of leap seconds this is local time to the second, and so no
other second has the same timestamp at the same offset. -/
theorem entry_shows_instant (hinstant : Stamp.IsInstant seconds nanos)
    (hoffset : Stamp.IsOffset offset) :
    ∃ (command : Command) (stamp : Stamp), entry seconds nanos offset = .ok command ∧
      command.IsStorable ∧ command.bytes = stamp.render ∧
      Stamp.read? command.bytes = some stamp ∧
      (nanos < Stamp.nanosInSecond →
        stamp.Shows (seconds + offset) ∧ stamp.toLocal = seconds + offset ∧
          ∀ (seconds' : Int) (nanos' : Nat), nanos' < Stamp.nanosInSecond →
            entry seconds' nanos' offset = .ok command → seconds' = seconds) := by
  have hstamp := Stamp.ofInstant_eq_ok_iff.2 ⟨⟨hinstant, hoffset⟩, rfl⟩
  have hentry := entry_eq_ok_iff.2 ⟨_, hstamp, rfl⟩
  refine ⟨_, _, hentry, IsEntry.isStorable ⟨_, _, _, hentry⟩, rfl,
    Stamp.read?_render (Stamp.fits_of_ofInstant hstamp), fun hnanos => ?_⟩
  have hshows := Stamp.shows_of_ofInstant hstamp hnanos
  refine ⟨hshows, hshows.toLocal_eq, fun seconds' nanos' hnanos' hsame => ?_⟩
  obtain ⟨other, hother, hrender⟩ := entry_eq_ok_iff.1 hsame
  -- both are read from the same text
  have hread := Stamp.read?_render (Stamp.fits_of_ofInstant hother)
  rw [← Command.mk.inj hrender, Stamp.read?_render (Stamp.fits_of_ofInstant hstamp)] at hread
  have hsecond := (Stamp.shows_of_ofInstant hother hnanos').toLocal_eq
  rw [← Option.some.inj hread, hshows.toLocal_eq] at hsecond
  omega

/-- The first second that is counted, at an offset of a day to the west but for one second: the year
before, the sign of which is read as well as its six digits. -/
theorem entry_shows_instant_first :
    Stamp.IsInstant Stamp.firstSecond 0 ∧ Stamp.IsOffset (-86399) ∧
      ∃ (command : Command) (stamp : Stamp),
        entry Stamp.firstSecond 0 (-86399) = .ok command ∧
        stamp.date = ⟨-262144, 12, 31⟩ ∧ Stamp.read? command.bytes = some stamp ∧
        stamp.toLocal = Stamp.firstSecond - 86399 := by
  have hinstant : Stamp.IsInstant Stamp.firstSecond 0 := by decide
  have hoffset : Stamp.IsOffset (-86399) := by decide
  obtain ⟨command, stamp, hentry, -, -, hread, hlocal⟩ := entry_shows_instant hinstant hoffset
  obtain ⟨hshows, hsecond, -⟩ := hlocal (by decide)
  exact ⟨hinstant, hoffset, command, stamp, hentry,
    (Date.isDay_iff.1 hshows.isDay).trans (by decide), hread, hsecond⟩

end Timestamp

end CommandLog
