import CommandLog.Text.Utf8

/-!
# White space

`Blank.isBlank` holds of the characters that only part others: the space, the control characters
that move on to another column or line, and the spaces and separators of other scripts.  Whoever
reads words that blanks may part drops them with `Blank.drop`.
-/

namespace CommandLog.Blank

/-- Is the character white space? -/
def isBlank (c : Char) : Bool :=
  let n := c.toNat
  (0x9 ≤ n && n ≤ 0xD) || n == 0x20 || n == 0x85 || n == 0xA0 || n == 0x1680
    || (0x2000 ≤ n && n ≤ 0x200A) || n == 0x2028 || n == 0x2029 || n == 0x202F || n == 0x205F
    || n == 0x3000

/-- Drops the white space at the front. -/
def drop (stream : Bytes) : Bytes := Utf8.dropWhile isBlank stream

end CommandLog.Blank
