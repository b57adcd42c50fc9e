import CommandLog.Bytes.Packed
import CommandLog.Command

/-!
# Reassembling commands

A stream arrives in pieces of any size.  A `LineBuffer` keeps the bytes that have not become a
command yet: `feed` adds a piece, `next?` takes the oldest complete command out, `drain` takes all
of them out.

The commands that are complete are kept apart from the beginning of one that is not, so that no byte
is looked at again when the next piece arrives.  The bytes themselves, `LineBuffer.pending`, are the
view on which everything is stated: `pending_feed` says that a piece is added at their end,
`pending_of_next?` and `drain_eq` that the commands handed out are their first lines, and
`pending_injective` that a buffer is known by them.

Memory for the bytes never runs out here.  Where a storage is to meet that, a `ScarceDevice` does, and
then nothing of the piece is taken in.
-/

namespace CommandLog

/-- The bytes received so far that belong to no command yet handed out. -/
structure LineBuffer where
  /-- The commands that are complete, oldest first. -/
  ready : List Command
  /-- The beginning of a command that is not complete yet. -/
  started : Packed
  isComplete_of_mem : ∀ command ∈ ready, command.IsComplete
  newline_not_mem : newline ∉ started.toBytes

namespace LineBuffer

/-- Nothing received yet. -/
def empty : LineBuffer := ⟨[], .empty, by simp, by simp⟩

/-- The bytes of the buffer, in the order in which they were received. -/
def pending (buffer : LineBuffer) : Bytes :=
  Command.concat buffer.ready ++ buffer.started.toBytes

/-- How many bytes there are in the buffer. -/
def size (buffer : LineBuffer) : Nat :=
  Command.totalLength buffer.ready + buffer.started.size

/-- Is there nothing left over? -/
def isEmpty (buffer : LineBuffer) : Bool := buffer.ready.isEmpty && buffer.started.isEmpty

/-- Forgets what is left over. -/
def clear (_ : LineBuffer) : LineBuffer := empty

/-- Adds the beginning of a command. -/
def extend (buffer : LineBuffer) (tail : Bytes) (h : newline ∉ tail) : LineBuffer where
  ready := buffer.ready
  started := buffer.started.append tail
  isComplete_of_mem := buffer.isComplete_of_mem
  newline_not_mem := by simp [buffer.newline_not_mem, h]

/-- Completes the command that was begun, and adds others and the beginning of a new one. -/
def complete (buffer : LineBuffer) (line : Bytes) (others : List Bytes) (tail : Bytes)
    (h : ∀ l ∈ line :: others, l.IsLine) (ht : newline ∉ tail) : LineBuffer where
  ready := buffer.ready ++ ⟨buffer.started.toBytes ++ line⟩ :: others.map Command.mk
  started := .ofBytes tail
  isComplete_of_mem := by
    intro command hc
    rcases List.mem_append.1 hc with hc | hc
    · exact buffer.isComplete_of_mem command hc
    · rcases List.mem_cons.1 hc with rfl | hc
      · exact (h line List.mem_cons_self).append buffer.newline_not_mem
      · obtain ⟨l, hl, rfl⟩ := List.mem_map.1 hc
        exact h l (List.mem_cons_of_mem _ hl)
  newline_not_mem := by simpa using ht

/-- Adds a received piece. -/
def feed (buffer : LineBuffer) (piece : Bytes) : LineBuffer :=
  match h : Bytes.splitLines piece with
  | ([], tail) => buffer.extend tail (by
      simpa [Bytes.unfinished, h] using Bytes.newline_not_mem_unfinished piece)
  | (line :: others, tail) =>
    buffer.complete line others tail
      (fun l hl =>
        have hmem : l ∈ Bytes.lines piece := by simpa [Bytes.lines, h] using hl
        Bytes.isLine_of_mem_lines hmem)
      (by simpa [Bytes.unfinished, h] using Bytes.newline_not_mem_unfinished piece)

/-- The buffer with these commands complete, the last ones that it has. -/
def keep (buffer : LineBuffer) (commands : List Command)
    (h : ∀ command ∈ commands, command ∈ buffer.ready) : LineBuffer :=
  { buffer with
    ready := commands
    isComplete_of_mem := fun command hc => buffer.isComplete_of_mem command (h command hc) }

/-- Takes the oldest complete command out, if there is one. -/
def next? (buffer : LineBuffer) : Option (Command × LineBuffer) :=
  match h : buffer.ready with
  | [] => none
  | command :: others => some (command, buffer.keep others (by simp +contextual [h]))

/-- Takes every complete command out, oldest first. -/
def drain (buffer : LineBuffer) : List Command × LineBuffer :=
  (buffer.ready, buffer.keep [] (by simp))

/-! ## What is in a buffer -/

@[simp] theorem pending_empty : empty.pending = [] := rfl

theorem length_pending (buffer : LineBuffer) : buffer.pending.length = buffer.size := by
  rw [pending, List.length_append, Command.length_concat, Packed.length_toBytes, size]

/-- The complete commands are the lines of the bytes, and the one begun is what is left over. -/
theorem splitLines_pending (buffer : LineBuffer) :
    Bytes.splitLines buffer.pending =
      (buffer.ready.map Command.bytes, buffer.started.toBytes) := by
  have hstarted := Bytes.splitLines_append_of_not_mem buffer.newline_not_mem []
  rw [List.append_nil] at hstarted
  rw [pending, Command.splitLines_concat_append buffer.isComplete_of_mem, Bytes.lines,
    Bytes.unfinished, hstarted]
  simp [Bytes.splitLines]

theorem ready_eq (buffer : LineBuffer) :
    buffer.ready = (Bytes.lines buffer.pending).map Command.mk := by
  rw [Bytes.lines, splitLines_pending, List.map_map]
  exact (List.map_id _).symm

theorem started_eq (buffer : LineBuffer) :
    buffer.started.toBytes = Bytes.unfinished buffer.pending := by
  rw [Bytes.unfinished, splitLines_pending]

/-- Buffers with the same bytes are the same. -/
theorem pending_injective {buffer other : LineBuffer} (h : buffer.pending = other.pending) :
    buffer = other := by
  have hready : buffer.ready = other.ready := by rw [ready_eq, ready_eq, h]
  have hstarted : buffer.started = other.started :=
    Packed.toBytes_injective (by rw [started_eq, started_eq, h])
  obtain ⟨_, _, _, _⟩ := buffer
  obtain ⟨_, _, _, _⟩ := other
  cases hready
  cases hstarted
  rfl

/-- A buffer is empty exactly if it has no bytes, for a complete command has at least one. -/
theorem isEmpty_eq (buffer : LineBuffer) : buffer.isEmpty = buffer.pending.isEmpty := by
  rw [isEmpty, Packed.isEmpty_eq, pending]
  cases h : buffer.ready with
  | nil => rfl
  | cons command others =>
    have hne := (buffer.isComplete_of_mem command (by simp [h])).ne_nil
    simp [Command.concat, hne]

/-! ## What the operations do to it -/

/-- A piece is added at the end. -/
@[simp] theorem pending_feed (buffer : LineBuffer) (piece : Bytes) :
    (buffer.feed piece).pending = buffer.pending ++ piece := by
  have hpiece := Bytes.flatten_lines_append_unfinished piece
  unfold feed
  split
  · next tail h =>
    rw [Bytes.lines, Bytes.unfinished, h] at hpiece
    simpa [extend, pending] using hpiece
  · next line others tail h =>
    rw [Bytes.lines, Bytes.unfinished, h] at hpiece
    simp [complete, pending, Command.concat, List.flatMap_map, ← hpiece, List.flatMap_id']

/-- There is no command to take out as long as no newline has come. -/
theorem next?_eq_none_iff {buffer : LineBuffer} :
    buffer.next? = none ↔ newline ∉ buffer.pending := by
  unfold next?
  split
  · next h => simp [pending, h, Command.concat, buffer.newline_not_mem]
  · next command others h =>
    have hmem := (buffer.isComplete_of_mem command (by simp [h])).newline_mem
    simp [pending, h, Command.concat, hmem]

/-- What is taken out is complete, and it is the first of the bytes. -/
theorem pending_of_next? {buffer rest : LineBuffer} {command : Command}
    (h : buffer.next? = some (command, rest)) :
    command.IsComplete ∧ buffer.pending = command.bytes ++ rest.pending := by
  unfold next? at h
  split at h
  · simp at h
  · next first others hready =>
    simp only [Option.some.injEq, Prod.mk.injEq] at h
    obtain ⟨rfl, rfl⟩ := h
    exact ⟨buffer.isComplete_of_mem _ (by simp [hready]), by
      simp [pending, keep, hready, Command.concat]⟩

/-- A drain hands out the lines of the bytes and leaves the unfinished rest. -/
theorem drain_eq (buffer : LineBuffer) :
    buffer.drain.1 = (Bytes.lines buffer.pending).map Command.mk ∧
      buffer.drain.2.pending = Bytes.unfinished buffer.pending :=
  ⟨buffer.ready_eq, by
    rw [← started_eq]
    simp [drain, keep, pending, Command.concat]⟩

end LineBuffer

end CommandLog
