import CommandLog.Proofs.Numeral.Decimal
import CommandLog.Proofs.Request.Grammar
import CommandLog.Timestamp.Reader

/-!
# The parts of a timestamp read back

Each part that `Stamp.render` writes is what the reader of this part finds in front of whatever comes
next: names (`readName_nameOf`), numbers of two digits (`readNumber_padded`), a year with or without
a sign (`readYear_renderYear`) and an offset (`readZone_renderZone`).  White space that comes before is
dropped, and nothing else is, because each part begins with a byte that stops the dropping
(`Utf8.Stops`).
-/

namespace CommandLog

/-! ## Where dropping stops -/

namespace Utf8

variable {p : Char → Bool} {run : Bytes} {b : UInt8}

/-- The run begins with a byte of ASCII that does not satisfy `p`. -/
def Stops (p : Char → Bool) (run : Bytes) : Prop :=
  ∃ b ∈ run.head?, b < 0x80 ∧ p (Char.ofNat b.toNat) = false

instance (p : Char → Bool) (run : Bytes) : Decidable (Stops p run) :=
  inferInstanceAs (Decidable (∃ b ∈ run.head?, _))

lemma takePiece_of_ascii (hascii : b < 0x80) (rest : Bytes) :
    takePiece b rest = (some (Char.ofNat b.toNat), rest) :=
  if_pos hascii

lemma dropWhile_append_of_stops (h : Stops p run) (rest : Bytes) :
    dropWhile p (run ++ rest) = run ++ rest := by
  obtain ⟨b, hb, hascii, hp⟩ := h
  obtain ⟨others, rfl⟩ := List.head?_eq_some_iff.1 hb
  rw [List.cons_append, dropWhile, takePiece_of_ascii hascii, Option.any_some, hp,
    if_neg Bool.false_ne_true]

lemma dropWhile_cons_of_ascii (hascii : b < 0x80) (hp : p (Char.ofNat b.toNat) = true)
    (rest : Bytes) : dropWhile p (b :: rest) = dropWhile p rest := by
  rw [dropWhile, takePiece_of_ascii hascii, Option.any_some, if_pos hp]

/-- A numeral stops what drops no digits. -/
lemma stops_of_value? {n : Nat} (hp : ∀ d < 10, p (Char.ofNat (48 + d)) = false)
    (h : Numeral.value? run = some n) : Stops p run := by
  have hdenotes := Numeral.value?_eq_some_iff.1 h
  obtain ⟨b, others, rfl⟩ := List.exists_cons_of_ne_nil hdenotes.ne_nil
  obtain ⟨hlow, hhigh⟩ := hdenotes.isDigit b List.mem_cons_self
  have hlow : 48 ≤ b.toNat := hlow
  have hhigh : b.toNat ≤ 57 := hhigh
  refine ⟨b, rfl, Nat.lt_of_le_of_lt hhigh (by decide), ?_⟩
  have hdigit := hp (b.toNat - 48) (by omega)
  rwa [Nat.add_sub_cancel' hlow] at hdigit

end Utf8

namespace Blank

lemma drop_append_of_stops {run : Bytes} (h : Utf8.Stops isBlank run) (rest : Bytes) :
    drop (run ++ rest) = run ++ rest :=
  Utf8.dropWhile_append_of_stops h rest

lemma drop_space (rest : Bytes) : drop (Utf8.encode " " ++ rest) = drop rest :=
  Utf8.dropWhile_cons_of_ascii (by decide) (by decide) rest

lemma drop_newline : drop [newline] = [] := by
  rw [drop, Utf8.dropWhile_cons_of_ascii (by decide) (by decide), Utf8.dropWhile]

lemma stops_of_value? {run : Bytes} {n : Nat} (h : Numeral.value? run = some n) :
    Utf8.Stops isBlank run :=
  Utf8.stops_of_value? (by decide) h

end Blank

namespace Stamp

variable {run rest : Bytes} {room width n : Nat}

/-! ## Names -/

/-- Each name has as many letters as are read, and is told from those before it whatever the case of
its letters is. -/
def IsTable (names : List String) : Prop :=
  ∀ i < names.length, (nameOf names i).length = lettersInName ∧
    names.findIdx? (fun name =>
      (Utf8.encode name).map lowerCase == (nameOf names i).map lowerCase) = some i

instance (names : List String) : Decidable (IsTable names) :=
  inferInstanceAs (Decidable (∀ i < names.length, _))

lemma isTable_weekdayNames : IsTable weekdayNames := by decide

lemma isTable_monthNames : IsTable monthNames := by decide

lemma stops_nameOf_monthNames {i : Nat} (h : i < 12) :
    Utf8.Stops Blank.isBlank (nameOf monthNames i) := by
  have hall : ∀ i < 12, Utf8.Stops Blank.isBlank (nameOf monthNames i) := by decide
  exact hall i h

lemma readName_nameOf {names : List String} (hnames : IsTable names) {i : Nat}
    (h : i < names.length) (rest : Bytes) :
    readName names (nameOf names i ++ rest) = some (i, rest) := by
  obtain ⟨hlength, hfound⟩ := hnames i h
  rw [readName, ← hlength, List.take_left, List.drop_left, hfound, Option.map_some]

/-! ## Numbers -/

/-- A numeral is read if there is room for it and no digit follows within the room. -/
lemma readDigits_append (hvalue : Numeral.value? run = some n) (hn : n < partLimit)
    (hroom : run.length ≤ room)
    (hrest : (rest.take (room - run.length)).takeWhile (fun b => (Numeral.digit? b).isSome) = []) :
    readDigits room (run ++ rest) = some (n, rest) := by
  have hbelow : Numeral.below? partLimit run = some n := by
    rw [Numeral.below?_eq, hvalue]
    exact Option.filter_some_pos (decide_eq_true hn)
  have hrun : (List.take room (run ++ rest)).takeWhile (fun b => (Numeral.digit? b).isSome) = run := by
    rw [List.take_append, List.take_of_length_le hroom,
      List.takeWhile_append_of_pos (Numeral.isSome_digit?_of_value? hvalue), hrest, List.append_nil]
  rw [readDigits, hrun, hbelow, Option.map_some, List.drop_left]

/-- A numeral that takes not more than the room is read up to the space that follows. -/
lemma readDigits_space (hvalue : Numeral.value? run = some n) (hn : n < partLimit) (rest : Bytes) :
    readDigits (run ++ (Utf8.encode " " ++ rest)).length (run ++ (Utf8.encode " " ++ rest)) =
      some (n, Utf8.encode " " ++ rest) := by
  have hroom : run.length ≤ (run ++ (Utf8.encode " " ++ rest)).length := by
    rw [List.length_append]
    exact Nat.le_add_right _ _
  refine readDigits_append hvalue hn hroom ?_
  rw [List.length_append, Nat.add_sub_cancel_left, List.take_length]
  rfl

/-- A numeral that takes all the room is read, whatever follows. -/
lemma readDigits_padded (hwidth : 0 < width) (h : n < 10 ^ width) (hn : n < partLimit)
    (rest : Bytes) : readDigits width (Numeral.padded width n ++ rest) = some (n, rest) := by
  have hlength := Numeral.length_padded hwidth h
  refine readDigits_append (Numeral.value?_padded width n) hn hlength.le ?_
  rw [hlength, Nat.sub_self, List.take_zero, List.takeWhile_nil]

lemma readNumber_padded (h : n < 100) (rest : Bytes) :
    readNumber 2 (Numeral.padded 2 n ++ rest) = some (n, rest) := by
  rw [readNumber, Blank.drop_append_of_stops (Blank.stops_of_value? (Numeral.value?_padded 2 n))]
  exact readDigits_padded (by decide) h (h.trans (by decide)) rest

lemma readNumber_space (room : Nat) (stream : Bytes) :
    readNumber room (Utf8.encode " " ++ stream) = readNumber room stream := by
  rw [readNumber, Blank.drop_space, readNumber]

lemma readTwo_padded (h : n < 100) (rest : Bytes) :
    readTwo (Numeral.padded 2 n ++ rest) = some (n, rest) := by
  have hlength : (Numeral.padded 2 n).length = 2 := Numeral.length_padded (by decide) h
  have hroom : ¬ (Numeral.padded 2 n ++ rest).length < 2 := by
    rw [List.length_append, hlength]
    exact Nat.not_lt.2 (Nat.le_add_right 2 _)
  rw [readTwo, if_neg hroom, List.take_left' hlength, List.drop_left' hlength,
    Numeral.value?_padded, Option.map_some]

/-! ## Years and offsets -/

/-- The byte of a sign. -/
def signOf (negative : Bool) : UInt8 := if negative then 45 else 43

lemma readSign_signOf (negative : Bool) (rest : Bytes) :
    readSign (signOf negative :: rest) = some (negative, rest) := by
  cases negative with
  | false => rfl
  | true => rfl

lemma stops_signOf (negative : Bool) (rest : Bytes) :
    Utf8.Stops Blank.isBlank (signOf negative :: rest) := by
  refine ⟨_, rfl, ?_⟩
  cases negative with
  | false => decide
  | true => decide

/-- A numeral does not begin with a sign. -/
lemma readSign_of_value? (h : Numeral.value? run = some n) (rest : Bytes) :
    readSign (run ++ rest) = none := by
  cases run with
  | nil => cases h
  | cons b others =>
    have hdigit : (Numeral.digit? b).isSome :=
      Numeral.isSome_digit?_of_value? h b List.mem_cons_self
    have hsign : b ≠ 43 ∧ b ≠ 45 := by
      constructor
      · rintro rfl
        exact absurd hdigit (by decide)
      · rintro rfl
        exact absurd hdigit (by decide)
    rw [List.cons_append]
    unfold readSign
    split
    · next heq => exact absurd (List.cons.inj heq).1 hsign.1
    · next heq => exact absurd (List.cons.inj heq).1 hsign.2
    · rfl

/-- A year is read back, if a space follows. -/
lemma readYear_renderYear {year : Int} (h : year.natAbs < partLimit) (rest : Bytes) :
    readYear (Utf8.encode " " ++ (renderYear year ++ (Utf8.encode " " ++ rest))) =
      some (year, Utf8.encode " " ++ rest) := by
  have hvalue := Numeral.value?_padded 4 year.natAbs
  rw [readYear, Blank.drop_space]
  by_cases hfour : 0 ≤ year ∧ year ≤ 9999
  · rw [renderYear, if_pos hfour, Blank.drop_append_of_stops (Blank.stops_of_value? hvalue)]
    have hfits : year.natAbs < 10 ^ 4 := by omega
    simp only [readSign_of_value? hvalue, readDigits_padded (by decide) hfits h, Option.map_some,
      Int.natAbs_of_nonneg hfour.1]
  · have hsign : (if year < 0 then (45 : UInt8) else 43) = signOf (decide (year < 0)) := by
      simp only [signOf, decide_eq_true_eq]
    rw [renderYear, if_neg hfour, hsign, Blank.drop_append_of_stops (stops_signOf _ _),
      List.cons_append]
    have hyear : (if decide (year < 0) then -(year.natAbs : Int) else year.natAbs) = year := by
      simp only [decide_eq_true_eq]
      split_ifs <;> omega
    simp only [readSign_signOf, readDigits_space hvalue h, Option.map_some, hyear]

/-- An offset is read back. -/
lemma readZone_renderZone {zone : Zone} (h : zone.minutes < 6000) (rest : Bytes) :
    readZone (Utf8.encode " " ++ (renderZone zone ++ rest)) = some (zone, rest) := by
  have hvalue := Numeral.value?_padded 2 (zone.minutes % 60)
  have hminutes : zone.minutes % 60 < 60 := Nat.mod_lt _ (by decide)
  have hhours : zone.minutes / 60 < 100 := by omega
  have hstops : Utf8.Stops (fun c => c == ':' || Blank.isBlank c)
      (Numeral.padded 2 (zone.minutes % 60)) := Utf8.stops_of_value? (by decide) hvalue
  have hsign : renderZone zone = signOf zone.west ::
    (Numeral.padded 2 (zone.minutes / 60) ++ Numeral.padded 2 (zone.minutes % 60)) := rfl
  have hsum : zone.minutes / 60 * 60 + zone.minutes % 60 = zone.minutes := by omega
  rw [readZone, Blank.drop_space, hsign, Blank.drop_append_of_stops (stops_signOf _ _),
    List.cons_append, List.append_assoc]
  simp only [readSign_signOf, Option.orElse_eq_orElse, Option.orElse_eq_or, Option.some_or,
    Option.bind_eq_bind, Option.bind_some, readTwo_padded hhours,
    Utf8.dropWhile_append_of_stops hstops, readTwo_padded (hminutes.trans (by decide)),
    if_pos hminutes, hsum, Option.pure_def]

end Stamp

end CommandLog
