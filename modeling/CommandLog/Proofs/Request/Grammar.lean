import CommandLog.Proofs.Bytes.Lines
import CommandLog.Proofs.Numeral.Decimal
import CommandLog.Request
import Mathlib.Data.List.TakeWhile

/-!
# The grammar of a seek

`Request.Spells` says which texts ask for a place, and for which one: any number of zeros may lead
its two numbers.  `seekArguments?_eq_some_iff` says that these are the arguments that are read, and
`ofCommand_of_spells`, `ofCommand_of_not_spells` and `ofCommand_of_not_head` what the line of a
text comes to.  The line that is written for a place spells it (`exists_spells_seekLine`).
-/

namespace CommandLog

namespace Bytes

lemma dropHead?_eq_some_iff {stream head rest : Bytes} :
    dropHead? stream head = some rest ↔ stream = head ++ rest := by
  fun_induction dropHead? stream head with
  | case1 stream => simp
  | case2 => simp
  | case3 b stream head ih => simp [ih]
  | case4 b stream h head hne => simp [hne]

lemma dropHead?_eq_none_iff {stream head : Bytes} :
    dropHead? stream head = none ↔ ¬ head <+: stream := by
  constructor
  · rintro h ⟨rest, rfl⟩
    rw [dropHead?_eq_some_iff.2 rfl] at h
    cases h
  · intro h
    cases hrest : dropHead? stream head with
    | none => rfl
    | some rest => exact absurd ⟨rest, (dropHead?_eq_some_iff.1 hrest).symm⟩ h

end Bytes

namespace Request

/-! ## The arguments of a seek -/

lemma splitComma?_eq_some_iff {bytes left right : Bytes} :
    splitComma? bytes = some (left, right) ↔ bytes = left ++ comma :: right ∧ comma ∉ left := by
  rw [splitComma?]
  constructor
  · intro h
    have hparts := List.takeWhile_append_dropWhile (p := (· ≠ comma)) (l := bytes)
    have hfirst := List.head?_dropWhile_not (· ≠ comma) bytes
    split at h
    · cases h
    · next first rest hrest =>
      rw [hrest] at hparts hfirst
      obtain ⟨rfl, rfl⟩ := Prod.mk.inj (Option.some.inj h)
      have hcomma : first = comma := by simpa using hfirst
      rw [hcomma] at hparts
      exact ⟨hparts.symm, fun hmem => by simpa using List.mem_takeWhile_imp hmem⟩
  · rintro ⟨rfl, hleft⟩
    have hall : ∀ b ∈ left, decide (b ≠ comma) = true := by
      intro b hb
      exact decide_eq_true fun heq => hleft (heq ▸ hb)
    rw [List.dropWhile_append_of_pos hall, List.takeWhile_append_of_pos hall]
    simp

lemma dropNewline?_eq_some_iff {bytes rest : Bytes} :
    dropNewline? bytes = some rest ↔ bytes = rest ++ [newline] := by
  rw [dropNewline?]
  constructor
  · intro h
    obtain ⟨hlast, hrest⟩ := Option.ite_none_right_eq_some.1 h
    obtain ⟨start, rfl⟩ := List.getLast?_eq_some_iff.1 hlast
    rw [← Option.some.inj hrest, List.dropLast_concat]
  · rintro rfl
    simp

/-- Two numbers are read exactly from two runs of digits that have these values, with a comma
between them and a newline at the end. -/
lemma seekArguments?_eq_some_iff {arguments : Bytes} {command offset : UInt32} :
    seekArguments? arguments = some (command, offset) ↔
      ∃ left right, arguments = left ++ comma :: right ++ [newline] ∧
        Numeral.value? left = some command.toNat ∧ Numeral.value? right = some offset.toNat := by
  simp only [seekArguments?, Option.bind_eq_bind, Option.bind_eq_some_iff, Option.pure_def,
    Option.some.injEq, Prod.mk.injEq, dropNewline?_eq_some_iff, Numeral.word32?_eq_some_iff]
  constructor
  · rintro ⟨rest, rfl, ⟨left, right⟩, hsplit, _, hleft, _, hright, rfl, rfl⟩
    exact ⟨left, right, by rw [(splitComma?_eq_some_iff.1 hsplit).1], hleft, hright⟩
  · rintro ⟨left, right, rfl, hleft, hright⟩
    have hcomma : comma ∉ left := fun hmem =>
      absurd (Numeral.isSome_digit?_of_value? hleft comma hmem) (by decide)
    exact ⟨_, rfl, (left, right), splitComma?_eq_some_iff.2 ⟨rfl, hcomma⟩, command, hleft, offset,
      hright, rfl, rfl⟩

/-! ## What the line of a text asks for -/

/-- The text asks for a place: what every seek begins with is followed by two runs of digits with
these values and a comma between them. -/
def Spells (text : Bytes) (command offset : UInt32) : Prop :=
  ∃ left right, text = seekHead ++ (left ++ comma :: right) ∧
    Numeral.value? left = some command.toNat ∧ Numeral.value? right = some offset.toNat

variable {text arguments : Bytes} {command offset : UInt32}

lemma newline_not_mem_seekHead : newline ∉ seekHead := by decide

lemma seekArguments?_eq_some_iff_spells :
    seekArguments? (arguments ++ [newline]) = some (command, offset) ↔
      Spells (seekHead ++ arguments) command offset := by
  simp only [seekArguments?_eq_some_iff, Spells, List.append_cancel_left_eq,
    List.append_cancel_right_eq]

lemma ofCommand_of_spells (h : Spells text command offset) :
    ofCommand ⟨text ++ [newline]⟩ = .ok (.seek command offset) := by
  obtain ⟨arguments, rfl⟩ : ∃ arguments, text = seekHead ++ arguments := by
    obtain ⟨_, _, rfl, -, -⟩ := h
    exact ⟨_, rfl⟩
  simp only [List.append_assoc, ofCommand, Bytes.dropHead?_eq_some_iff.2 rfl,
    seekArguments?_eq_some_iff_spells.2 h]

lemma ofCommand_of_not_spells
    (h : ∀ command offset, ¬ Spells (seekHead ++ arguments) command offset) :
    ofCommand ⟨seekHead ++ arguments ++ [newline]⟩ =
      .error (.malformedSeek (Utf8.lossy (arguments ++ [newline]))) := by
  have hnone : seekArguments? (arguments ++ [newline]) = none := by
    refine Option.eq_none_iff_forall_ne_some.2 fun ⟨command, offset⟩ hsome => ?_
    exact h command offset (seekArguments?_eq_some_iff_spells.1 hsome)
  simp only [List.append_assoc, ofCommand, Bytes.dropHead?_eq_some_iff.2 rfl, hnone]

lemma ofCommand_of_not_head (h : ¬ seekHead <+: text) :
    ofCommand ⟨text ++ [newline]⟩ = .ok (.store ⟨text ++ [newline]⟩) := by
  have hline : ¬ seekHead <+: text ++ [newline] := by
    rw [List.prefix_concat_iff]
    rintro (heq | hhead)
    · exact newline_not_mem_seekHead (heq ▸ List.mem_append_right _ List.mem_cons_self)
    · exact h hhead
  rw [ofCommand, Bytes.dropHead?_eq_none_iff.2 hline]

/-- Only the command itself is stored. -/
lemma eq_of_ofCommand_eq_store {command stored : Command}
    (h : ofCommand command = .ok (.store stored)) : command = stored := by
  rw [ofCommand] at h
  split at h
  · exact Request.store.inj (Except.ok.inj h)
  · split at h <;> cases h

/-! ## The line that is written for a place -/

lemma newline_not_mem_of_value? {n : Nat} {run : Bytes} (h : Numeral.value? run = some n) :
    newline ∉ run :=
  fun hmem => absurd (Numeral.isSome_digit?_of_value? h newline hmem) (by decide)

lemma Spells.newline_not_mem (h : Spells text command offset) : newline ∉ text := by
  obtain ⟨left, right, rfl, hleft, hright⟩ := h
  have hcomma : newline ≠ comma := by decide
  simp [newline_not_mem_seekHead, newline_not_mem_of_value? hleft, hcomma,
    newline_not_mem_of_value? hright]

/-- The line written for a place is that of a text that spells it. -/
lemma exists_spells_seekLine (command offset : UInt32) :
    ∃ text, Spells text command offset ∧ seekLine command offset = text ++ [newline] :=
  ⟨_, ⟨Numeral.digits command.toNat, Numeral.digits offset.toNat, rfl, Numeral.value?_digits _,
    Numeral.value?_digits _⟩, by simp [seekLine]⟩

lemma isLine_seekLine (command offset : UInt32) : Bytes.IsLine (seekLine command offset) := by
  obtain ⟨text, hspells, hline⟩ := exists_spells_seekLine command offset
  rw [hline]
  exact Bytes.isLine_append_newline hspells.newline_not_mem

/-- The line written for a place is read as that place. -/
lemma ofCommand_seekLine (command offset : UInt32) :
    ofCommand ⟨seekLine command offset⟩ = .ok (.seek command offset) := by
  obtain ⟨text, hspells, hline⟩ := exists_spells_seekLine command offset
  rw [hline]
  exact ofCommand_of_spells hspells

end Request

end CommandLog
