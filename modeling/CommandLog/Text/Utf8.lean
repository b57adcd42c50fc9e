import CommandLog.Bytes

/-!
# Text as bytes

The UTF-8 form of a text and the two ways of reading bytes as text: `Utf8.decode?` reads well-formed
bytes only, and `Utf8.lossy` reads any bytes and puts one replacement character for each *maximal
subpart* that is ill formed, that is, for the longest run of bytes that could still have become a
character when the byte after it ruled that out.

Both are views of one reading, `Utf8.pieces`, which is total because every piece takes at least its
first byte (`length_takePiece_le`).
-/

namespace CommandLog.Utf8

/-- The bytes of a text. -/
def encode (text : String) : Bytes :=
  text.toList.flatMap String.utf8EncodeChar

/-- What the first byte of a longer character announces: its share of the scalar value, the range
in which the second byte must lie, and how many bytes come after the second. -/
structure Lead where
  value : Nat
  low : UInt8
  high : UInt8
  more : Nat

/-- The announcement of a first byte.  The ranges leave out overlong forms, surrogates and values
above U+10FFFF; a byte that begins no character announces nothing. -/
def lead? (b : UInt8) : Option Lead :=
  if b < 0xC2 then none
  else if b ≤ 0xDF then some ⟨b.toNat - 0xC0, 0x80, 0xBF, 0⟩
  else if b = 0xE0 then some ⟨0x0, 0xA0, 0xBF, 1⟩
  else if b = 0xED then some ⟨0xD, 0x80, 0x9F, 1⟩
  else if b ≤ 0xEF then some ⟨b.toNat - 0xE0, 0x80, 0xBF, 1⟩
  else if b = 0xF0 then some ⟨0x0, 0x90, 0xBF, 2⟩
  else if b ≤ 0xF3 then some ⟨b.toNat - 0xF0, 0x80, 0xBF, 2⟩
  else if b = 0xF4 then some ⟨0x4, 0x80, 0x8F, 2⟩
  else none

/-- The scalar value after one more continuation byte. -/
def shift (value : Nat) (b : UInt8) : Nat := value * 64 + b.toNat % 64

/-- Reads `n` continuation bytes onto a scalar value.  A byte that is none ends the piece and is
left for the next one. -/
def takeTail (value : Nat) : Nat → Bytes → Option Nat × Bytes
  | 0, rest => (some value, rest)
  | _ + 1, [] => (none, [])
  | n + 1, b :: rest =>
    if 0x80 ≤ b ∧ b ≤ 0xBF then takeTail (shift value b) n rest else (none, b :: rest)

/-- Reads one piece that begins with `b`: a character, or `none` for an ill-formed subpart. -/
def takePiece (b : UInt8) (rest : Bytes) : Option Char × Bytes :=
  if b < 0x80 then (some (Char.ofNat b.toNat), rest)
  else
    match lead? b, rest with
    | none, _ => (none, rest)
    | some _, [] => (none, [])
    | some lead, second :: others =>
      if lead.low ≤ second ∧ second ≤ lead.high then
        let (value, after) := takeTail (shift lead.value second) lead.more others
        (value.map Char.ofNat, after)
      else (none, rest)

theorem length_takeTail_le (value n : Nat) (rest : Bytes) :
    (takeTail value n rest).2.length ≤ rest.length := by
  induction n generalizing value rest with
  | zero => simp [takeTail]
  | succ n ih =>
    cases rest with
    | nil => simp [takeTail]
    | cons b rest =>
      unfold takeTail
      split
      · exact Nat.le_trans (ih _ _) (by simp)
      · simp

/-- A piece takes its first byte and never gives anything back. -/
theorem length_takePiece_le (b : UInt8) (rest : Bytes) :
    (takePiece b rest).2.length ≤ rest.length := by
  unfold takePiece
  split
  · simp
  · split
    · simp
    · simp
    · split
      · exact Nat.le_trans (length_takeTail_le _ _ _) (by simp)
      · simp

/-- The characters of a byte stream, with `none` for each ill-formed subpart. -/
def pieces : Bytes → List (Option Char)
  | [] => []
  | b :: rest => (takePiece b rest).1 :: pieces (takePiece b rest).2
termination_by stream => stream.length
decreasing_by
  have := length_takePiece_le b rest
  simp only [List.length_cons]
  omega

/-- Drops characters from the front as long as they satisfy `p`.  An ill-formed subpart is none. -/
def dropWhile (p : Char → Bool) : Bytes → Bytes
  | [] => []
  | b :: rest =>
    if (takePiece b rest).1.any p then dropWhile p (takePiece b rest).2 else b :: rest
termination_by stream => stream.length
decreasing_by
  have := length_takePiece_le b rest
  simp only [List.length_cons]
  omega

/-- The text of well-formed bytes, and nothing for any others. -/
def decode? (stream : Bytes) : Option String :=
  ((pieces stream).mapM id).map String.ofList

/-- The character that stands for what cannot be read. -/
def replacement : Char := '\uFFFD'

/-- The text of any bytes, with the replacement character for each ill-formed subpart. -/
def lossy (stream : Bytes) : String :=
  String.ofList ((pieces stream).map (·.getD replacement))

end CommandLog.Utf8
