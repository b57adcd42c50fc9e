/-!
# Byte streams and their lines

A command travels as a *line*: a run of bytes whose only newline is its last byte.  This module
holds the two views of a byte stream on which the rest of the library is stated:

- `Bytes.lines`, the complete lines of the stream in order, and
- `Bytes.unfinished`, the bytes after its last newline.

`flatten_lines_append_unfinished` says that the two views together lose nothing,
`isLine_of_mem_lines` that the first view holds lines only, and `newline_not_mem_unfinished` that
the second holds no newline.  `splitLines_append_of_not_mem` and `splitLines_append_of_isLine` say
what both views become when something is put in front of a stream.
-/

namespace CommandLog

/-- A byte stream, first byte first. -/
abbrev Bytes := List UInt8

/-- The byte that ends a command. -/
def newline : UInt8 := 10

namespace Bytes

/-- The stream is one complete line: its only newline is its last byte. -/
def IsLine : Bytes → Prop
  | [] => False
  | b :: rest => if b = newline then rest = [] else IsLine rest

instance decidableIsLine : (stream : Bytes) → Decidable (IsLine stream)
  | [] => isFalse id
  | b :: rest =>
    if h : b = newline then
      if hr : rest = [] then isTrue (by simp [IsLine, h, hr])
      else isFalse (by simp [IsLine, h, hr])
    else
      match decidableIsLine rest with
      | isTrue hl => isTrue (by simpa [IsLine, h] using hl)
      | isFalse hl => isFalse (by simpa [IsLine, h] using hl)

/-- The stream as its complete lines, in order, and the bytes after its last newline. -/
def splitLines : Bytes → List Bytes × Bytes
  | [] => ([], [])
  | b :: rest =>
    let (lines, tail) := splitLines rest
    if b = newline then ([b] :: lines, tail)
    else
      match lines with
      | [] => ([], b :: tail)
      | line :: others => ((b :: line) :: others, tail)

/-- The complete lines of the stream, in order, each with its newline. -/
def lines (stream : Bytes) : List Bytes := (splitLines stream).1

/-- The bytes after the last newline: the beginning of a line that is not complete yet. -/
def unfinished (stream : Bytes) : Bytes := (splitLines stream).2

/-- What follows `head` in the stream, if the stream begins with it. -/
def dropHead? : (stream head : Bytes) → Option Bytes
  | stream, [] => some stream
  | [], _ :: _ => none
  | b :: stream, h :: head => if b = h then dropHead? stream head else none

/-- Cuts the stream into pieces of at most `room + 1` bytes, each as long as it can be. -/
def pieces (room : Nat) : (stream : Bytes) → List Bytes
  | [] => []
  | b :: rest => (b :: rest.take room) :: pieces room (rest.drop room)
termination_by stream => stream.length
decreasing_by
  simp only [List.length_drop, List.length_cons]
  omega

/-! ## Reading on -/

/-- Behind a piece comes what the stream holds behind it. -/
theorem drop_add_length {stream piece rest : Bytes} {position : Nat}
    (h : stream.drop position = piece ++ rest) : stream.drop (position + piece.length) = rest := by
  rw [← List.drop_drop, h, List.drop_left]

/-! ## What cutting into pieces gives -/

/-- The pieces are the stream again. -/
theorem flatten_pieces (room : Nat) (stream : Bytes) : (pieces room stream).flatten = stream := by
  fun_induction pieces room stream with
  | case1 => rfl
  | case2 b rest ih =>
    rw [List.flatten_cons, ih, List.cons_append, List.take_append_drop]

/-- No piece is empty, and none is longer than the room there is. -/
theorem length_of_mem_pieces {room : Nat} {stream piece : Bytes}
    (h : piece ∈ pieces room stream) : 0 < piece.length ∧ piece.length ≤ room + 1 := by
  fun_induction pieces room stream with
  | case1 => simp at h
  | case2 b rest ih =>
    rcases List.mem_cons.1 h with rfl | h
    · rw [List.length_cons, List.length_take]
      omega
    · exact ih h

/-! ## What the two views say together -/

/-- The lines and the unfinished rest are the stream again. -/
theorem flatten_lines_append_unfinished (stream : Bytes) :
    (lines stream).flatten ++ unfinished stream = stream := by
  unfold lines unfinished
  induction stream with
  | nil => rfl
  | cons b rest ih =>
    simp only [splitLines]
    split
    · simpa using ih
    · cases hl : (splitLines rest).1 with
      | nil => simpa [hl] using ih
      | cons line others => simpa [hl] using ih

/-- Every line of a stream is a line. -/
theorem isLine_of_mem_lines {stream line : Bytes} (h : line ∈ lines stream) : IsLine line := by
  unfold lines at h
  induction stream generalizing line with
  | nil => simp [splitLines] at h
  | cons b rest ih =>
    simp only [splitLines] at h
    split at h
    · next hb =>
      rcases List.mem_cons.1 h with rfl | h
      · simp [IsLine, hb]
      · exact ih h
    · next hb =>
      cases hl : (splitLines rest).1 with
      | nil => simp [hl] at h
      | cons first others =>
        simp only [hl] at h ih
        rcases List.mem_cons.1 h with rfl | h
        · simpa [IsLine, hb] using ih List.mem_cons_self
        · exact ih (List.mem_cons_of_mem _ h)

/-- No newline is left over. -/
theorem newline_not_mem_unfinished (stream : Bytes) : newline ∉ unfinished stream := by
  unfold unfinished
  induction stream with
  | nil => simp [splitLines]
  | cons b rest ih =>
    simp only [splitLines]
    split
    · exact ih
    · next hb =>
      cases hl : (splitLines rest).1 with
      | nil => simp [ih, Ne.symm hb]
      | cons line others => exact ih

/-! ## Lines -/

theorem IsLine.ne_nil {line : Bytes} (h : IsLine line) : line ≠ [] := by
  rintro rfl
  exact h

theorem IsLine.newline_mem {line : Bytes} (h : IsLine line) : newline ∈ line := by
  induction line with
  | nil => exact h.elim
  | cons b rest ih =>
    by_cases hb : b = newline
    · exact hb ▸ List.mem_cons_self
    · rw [IsLine, if_neg hb] at h
      exact List.mem_cons_of_mem _ (ih h)

/-- What has no newline can be put in front of a line. -/
theorem IsLine.append {start line : Bytes} (h : IsLine line) (hs : newline ∉ start) :
    IsLine (start ++ line) := by
  induction start with
  | nil => exact h
  | cons b rest ih =>
    rw [List.mem_cons, not_or] at hs
    simpa [IsLine, Ne.symm hs.1] using ih hs.2

/-! ## The two views of a longer stream -/

/-- What has no newline is put in front of the first line, or of what is left over if there is no
line. -/
theorem splitLines_append_of_not_mem {start : Bytes} (hs : newline ∉ start) (stream : Bytes) :
    splitLines (start ++ stream) =
      match splitLines stream with
      | ([], tail) => ([], start ++ tail)
      | (line :: others, tail) => ((start ++ line) :: others, tail) := by
  induction start with
  | nil => rcases h : splitLines stream with ⟨_ | _, _⟩ <;> simp [h]
  | cons b rest ih =>
    rw [List.mem_cons, not_or] at hs
    rw [List.cons_append, splitLines, ih hs.2]
    rcases splitLines stream with ⟨_ | _, _⟩ <;> simp [Ne.symm hs.1]

/-- A line in front of a stream is the first of its lines and changes nothing else. -/
theorem splitLines_append_of_isLine {line : Bytes} (h : IsLine line) (stream : Bytes) :
    splitLines (line ++ stream) = (line :: lines stream, unfinished stream) := by
  induction line with
  | nil => exact h.elim
  | cons b rest ih =>
    rw [List.cons_append, splitLines]
    by_cases hb : b = newline
    · rw [IsLine, if_pos hb] at h
      subst h
      simp [hb, lines, unfinished]
    · rw [IsLine, if_neg hb] at h
      simp [hb, ih h]

end Bytes

end CommandLog
