import CommandLog.Failure

/-!
# Commands

A command is the unit that the log keeps: one line, newline included.  `Command.ofBytes` is the
gate for bytes from outside; it lets exactly the complete lines through and keeps them unchanged
(`ofBytes_eq_ok_iff`).
-/

namespace CommandLog

/-- The bytes of one command, its newline included.  `Command.IsComplete` says that they are one
line; whoever builds a command other than through `Command.ofBytes` answers for it. -/
structure Command where
  bytes : Bytes
  deriving DecidableEq

namespace Command

/-- The command is one complete line. -/
def IsComplete (command : Command) : Prop := command.bytes.IsLine

instance (command : Command) : Decidable command.IsComplete :=
  inferInstanceAs (Decidable command.bytes.IsLine)

/-- The command with these bytes, if they are one complete line. -/
def ofBytes (data : Bytes) : Except Failure Command :=
  if data.IsLine then .ok ⟨data⟩ else .error (.incompleteCommand data)

/-- How many bytes the command has. -/
def length (command : Command) : Nat := command.bytes.length

/-- The command as a quoted text. -/
def quoted (command : Command) : String := quote (Utf8.lossy command.bytes)

theorem ofBytes_eq_ok_iff {data : Bytes} {command : Command} :
    ofBytes data = .ok command ↔ data.IsLine ∧ command = ⟨data⟩ := by
  unfold ofBytes
  split
  · next h => simp [h, eq_comm]
  · next h => simp [h]

/-- A complete command has at least its newline. -/
theorem IsComplete.length_pos {command : Command} (h : command.IsComplete) :
    0 < command.length :=
  List.length_pos_iff.2 (Bytes.IsLine.ne_nil h)

end Command

/-- The bytes of several commands, one after the other. -/
def Command.concat (commands : List Command) : Bytes := commands.flatMap Command.bytes

/-- How many bytes several commands have together. -/
def Command.totalLength : List Command → Nat
  | [] => 0
  | command :: others => command.length + totalLength others

theorem Command.totalLength_append (commands others : List Command) :
    totalLength (commands ++ others) = totalLength commands + totalLength others := by
  induction commands with
  | nil => simp [totalLength]
  | cons command commands ih => simp [totalLength, ih, Nat.add_assoc]

/-- The lengths add up to that of the bytes. -/
theorem Command.length_concat (commands : List Command) :
    (concat commands).length = totalLength commands := by
  induction commands with
  | nil => rfl
  | cons command others ih =>
    have hcons : concat (command :: others) = command.bytes ++ concat others := rfl
    rw [hcons, List.length_append, ih]
    rfl

/-- Complete commands in front of a stream are its first lines and change nothing else. -/
theorem Command.splitLines_concat_append {commands : List Command}
    (h : ∀ command ∈ commands, command.IsComplete) (stream : Bytes) :
    Bytes.splitLines (concat commands ++ stream) =
      (commands.map Command.bytes ++ Bytes.lines stream, Bytes.unfinished stream) := by
  induction commands with
  | nil => rfl
  | cons command others ih =>
    have hcons : concat (command :: others) = command.bytes ++ concat others := rfl
    have ih := ih fun other ho => h other (List.mem_cons_of_mem _ ho)
    rw [hcons, List.append_assoc,
      Bytes.splitLines_append_of_isLine (h command List.mem_cons_self), Bytes.lines,
      Bytes.unfinished, ih]
    rfl

end CommandLog
