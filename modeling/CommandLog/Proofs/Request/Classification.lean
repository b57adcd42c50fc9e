import CommandLog.Proofs.Request.Grammar

/-!
# What any bytes are taken for

Bytes from outside go through two gates.  `Command.ofBytes` lets exactly one complete line through,
and `Request.ofCommand` sorts the lines into commands to be stored, seeks, and what begins like a seek
and is none.  `Request.IsSeek` is the grammar of a seek, said in terms of the line alone: how its two
numbers are written, and which numbers these are.

`ofCommand_cases` says all that a line can be taken for.  The main statement
`classification_follows_grammar` turns it around: from the bytes alone it follows which gate they
pass, and as what.
-/

namespace CommandLog

namespace Request

/-- The line is a seek for the given place: behind what every seek begins with come two rows of
digits, with a comma between them and a newline at the end. -/
def IsSeek (line : Bytes) (command offset : UInt32) : Prop :=
  ∃ left right, line = seekHead ++ (left ++ comma :: right ++ [newline]) ∧
    Numeral.Denotes left command.toNat ∧ Numeral.Denotes right offset.toNat

variable {line arguments : Bytes} {command : Command} {number offset : UInt32}

/-- Behind what every seek begins with, the arguments decide. -/
lemma isSeek_iff : IsSeek (seekHead ++ arguments) number offset ↔
    seekArguments? arguments = some (number, offset) := by
  simp only [IsSeek, seekArguments?_eq_some_iff, Numeral.value?_eq_some_iff,
    List.append_cancel_left_eq]

lemma IsSeek.exists_arguments (h : IsSeek line number offset) :
    ∃ arguments, line = seekHead ++ arguments := by
  obtain ⟨left, right, hline, -⟩ := h
  exact ⟨_, hline⟩

/-- All that a command can be taken for. -/
lemma ofCommand_cases (command : Command) :
    (¬ seekHead <+: command.bytes ∧ ofCommand command = .ok (.store command)) ∨
    (∃ arguments number offset, command.bytes = seekHead ++ arguments ∧
      seekArguments? arguments = some (number, offset) ∧
      ofCommand command = .ok (.seek number offset)) ∨
    (∃ arguments, command.bytes = seekHead ++ arguments ∧ seekArguments? arguments = none ∧
      ofCommand command = .error (.malformedSeek (Utf8.lossy arguments))) := by
  cases hhead : command.bytes.dropHead? seekHead with
  | none =>
    left
    refine ⟨Bytes.dropHead?_eq_none_iff.1 hhead, ?_⟩
    rw [ofCommand, hhead]
  | some arguments =>
    right
    have hbytes := Bytes.dropHead?_eq_some_iff.1 hhead
    cases harguments : seekArguments? arguments with
    | none =>
      right
      exact ⟨arguments, hbytes, harguments, by simp only [ofCommand, hhead, harguments]⟩
    | some place =>
      left
      obtain ⟨number, offset⟩ := place
      exact ⟨arguments, number, offset, hbytes, harguments,
        by simp only [ofCommand, hhead, harguments]⟩

/-- A command is taken for a seek exactly if it is one. -/
lemma ofCommand_eq_seek_iff :
    ofCommand command = .ok (.seek number offset) ↔ IsSeek command.bytes number offset := by
  rcases ofCommand_cases command with ⟨hhead, hresult⟩ | ⟨arguments, i, k, hbytes, hread, hresult⟩ |
    ⟨arguments, hbytes, hread, hresult⟩
  · have hnone : ¬ IsSeek command.bytes number offset := by
      intro hseek
      obtain ⟨arguments, hbytes⟩ := hseek.exists_arguments
      exact hhead ⟨arguments, hbytes.symm⟩
    simp [hresult, hnone]
  · simp [hresult, hbytes, isSeek_iff, hread]
  · simp [hresult, hbytes, isSeek_iff, hread]

/-- A command is stored exactly if it does not begin like a seek, and then as it is. -/
lemma ofCommand_eq_store_iff {stored : Command} :
    ofCommand command = .ok (.store stored) ↔ ¬ seekHead <+: command.bytes ∧ stored = command := by
  rcases ofCommand_cases command with ⟨hhead, hresult⟩ | ⟨arguments, i, k, hbytes, -, hresult⟩ |
    ⟨arguments, hbytes, -, hresult⟩
  · simp [hresult, hhead, eq_comm]
  · simp [hresult, hbytes]
  · simp [hresult, hbytes]

/-- A command is refused exactly if it begins like a seek and is none. -/
lemma ofCommand_eq_error_iff {failure : Failure} :
    ofCommand command = .error failure ↔
      ∃ arguments, command.bytes = seekHead ++ arguments ∧
        (∀ number offset, ¬ IsSeek command.bytes number offset) ∧
        failure = .malformedSeek (Utf8.lossy arguments) := by
  rcases ofCommand_cases command with ⟨hhead, hresult⟩ | ⟨arguments, i, k, hbytes, hread, hresult⟩ |
    ⟨arguments, hbytes, hread, hresult⟩
  · have hnone : ∀ arguments, command.bytes ≠ seekHead ++ arguments :=
      fun arguments hbytes => hhead ⟨arguments, hbytes.symm⟩
    simp [hresult, hnone]
  · have hseek : IsSeek command.bytes i k := hbytes ▸ isSeek_iff.2 hread
    simp only [hresult, reduceCtorEq, false_iff, not_exists, not_and]
    intro _ _ hnone
    exact absurd hseek (hnone i k)
  · simp [hresult, hbytes, isSeek_iff, hread, eq_comm]

/-- What any bytes are taken for.  They are a command, with all their bytes, exactly if they have one
newline and that is the last byte.  A command is a seek for a place exactly if it is written by the
grammar of seeks with the numbers of that place; if it begins like a seek and is none for any place,
it is refused with the text of what follows the beginning; and in all other cases it is to be stored,
unchanged. -/
theorem classification_follows_grammar (data : Bytes) :
    (∀ command, Command.ofBytes data = .ok command ↔
      (data.count newline = 1 ∧ data.getLast? = some newline) ∧ command.bytes = data) ∧
    (∀ failure, Command.ofBytes data = .error failure ↔
      ¬ (data.count newline = 1 ∧ data.getLast? = some newline) ∧
        failure = .incompleteCommand data) ∧
    (∀ number offset, ofCommand ⟨data⟩ = .ok (.seek number offset) ↔ IsSeek data number offset) ∧
    (∀ failure, ofCommand ⟨data⟩ = .error failure ↔
      ∃ arguments, data = seekHead ++ arguments ∧
        (∀ number offset, ¬ IsSeek data number offset) ∧
        failure = .malformedSeek (Utf8.lossy arguments)) ∧
    (∀ stored, ofCommand ⟨data⟩ = .ok (.store stored) ↔
      ¬ seekHead <+: data ∧ stored.bytes = data) := by
  have hbytes (command : Command) : command.bytes = data ↔ command = ⟨data⟩ :=
    ⟨fun h => h ▸ rfl, fun h => h ▸ rfl⟩
  refine ⟨?_, ?_, ?_, ?_, ?_⟩
  · intro command
    rw [Command.ofBytes_eq_ok_iff, Bytes.isLine_iff, hbytes]
  · intro failure
    rw [← Bytes.isLine_iff]
    by_cases hline : data.IsLine
    · simp [Command.ofBytes, hline]
    · simp [Command.ofBytes, hline, eq_comm]
  · intro number offset
    exact ofCommand_eq_seek_iff
  · intro failure
    exact ofCommand_eq_error_iff
  · intro stored
    rw [ofCommand_eq_store_iff, hbytes]

/-- Leading zeros change nothing, and the greatest number that there is room for is read. -/
example : ofCommand ⟨Utf8.encode "AESDCHAR_IOCSEEKTO:007,4294967295\n"⟩ =
    .ok (.seek 7 4294967295) := by
  decide +kernel

end Request

end CommandLog
