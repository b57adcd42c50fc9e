import CommandLog.Command
import Mathlib.Tactic.Common

/-!
# The lines of a stream that goes on

What arrives later can only complete the line that was begun: `lines_append` and `unfinished_append`
say that the lines of a longer stream are those of its beginning, followed by those of the rest with
the unfinished line in front of it.
-/

namespace CommandLog

namespace Bytes

lemma concat_map_mk (lines : List Bytes) :
    Command.concat (lines.map Command.mk) = lines.flatten := by
  rw [Command.concat, List.flatMap_map, List.flatMap_id']

lemma isComplete_of_mem_lines {stream : Bytes} {command : Command}
    (h : command ∈ (lines stream).map Command.mk) : command.IsComplete := by
  obtain ⟨line, hline, rfl⟩ := List.mem_map.1 h
  exact isLine_of_mem_lines hline

lemma map_bytes_map_mk (lines : List Bytes) :
    (lines.map Command.mk).map Command.bytes = lines := by
  rw [List.map_map]
  exact List.map_id lines

lemma splitLines_append (stream more : Bytes) :
    splitLines (stream ++ more) =
      (lines stream ++ lines (unfinished stream ++ more), unfinished (unfinished stream ++ more)) := by
  have hstream : stream ++ more =
      Command.concat ((lines stream).map Command.mk) ++ (unfinished stream ++ more) := by
    rw [concat_map_mk, ← List.append_assoc, flatten_lines_append_unfinished]
  rw [hstream, Command.splitLines_concat_append fun _ h => isComplete_of_mem_lines h,
    map_bytes_map_mk]

lemma lines_append (stream more : Bytes) :
    lines (stream ++ more) = lines stream ++ lines (unfinished stream ++ more) := by
  rw [lines, splitLines_append]

lemma unfinished_append (stream more : Bytes) :
    unfinished (stream ++ more) = unfinished (unfinished stream ++ more) := by
  rw [unfinished, splitLines_append]

/-- A line is the only line that it has, and nothing follows it. -/
lemma IsLine.splitLines_eq {line : Bytes} (h : IsLine line) : splitLines line = ([line], []) := by
  have hsplit := splitLines_append_of_isLine h []
  rwa [List.append_nil] at hsplit

/-- What has no newline is a line as soon as it gets one. -/
lemma isLine_append_newline {start : Bytes} (h : newline ∉ start) : IsLine (start ++ [newline]) :=
  IsLine.append (by simp [IsLine]) h

/-- A line has one newline, and it is the last byte. -/
lemma isLine_iff {stream : Bytes} :
    IsLine stream ↔ stream.count newline = 1 ∧ stream.getLast? = some newline := by
  induction stream with
  | nil => simp [IsLine]
  | cons b rest ih =>
    rw [IsLine]
    by_cases hb : b = newline
    · subst hb
      rw [if_pos rfl, List.count_cons_self, Nat.add_eq_right, List.count_eq_zero]
      constructor
      · rintro rfl
        exact ⟨List.not_mem_nil, rfl⟩
      · rintro ⟨hnone, hlast⟩
        -- the last byte would be a second newline
        by_contra hne
        rw [List.getLast?_cons_of_ne_nil hne] at hlast
        exact hnone (List.mem_of_getLast? hlast)
    · rw [if_neg hb, ih, List.count_cons_of_ne hb]
      cases rest with
      | nil => simp
      | cons next others => rw [List.getLast?_cons_cons]

/-- What has no newline has no line either. -/
lemma splitLines_of_not_mem {stream : Bytes} (h : newline ∉ stream) :
    splitLines stream = ([], stream) := by
  have hnil := splitLines_append_of_not_mem h []
  rw [List.append_nil] at hnil
  rw [hnil, splitLines]
  simp

section Concat

variable {commands : List Command}

/-- The lines of complete commands are these commands, and nothing is left over. -/
lemma splitLines_concat (h : ∀ command ∈ commands, command.IsComplete) :
    splitLines (Command.concat commands) = (commands.map Command.bytes, []) := by
  have hsplit := Command.splitLines_concat_append h []
  rw [List.append_nil] at hsplit
  rw [hsplit, lines, unfinished, splitLines, List.append_nil]

lemma lines_concat (h : ∀ command ∈ commands, command.IsComplete) :
    lines (Command.concat commands) = commands.map Command.bytes := by
  rw [lines, splitLines_concat h]

lemma unfinished_concat (h : ∀ command ∈ commands, command.IsComplete) :
    unfinished (Command.concat commands) = [] := by
  rw [unfinished, splitLines_concat h]

end Concat

end Bytes

end CommandLog
