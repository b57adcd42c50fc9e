import CommandLog.Text.Unseen

/-!
# Quoted text

`quote` writes a text between double quotes so that it stays on one line and every character can be
told: the usual backslash pairs for NUL, tab, carriage return, newline, the quote and the backslash,
and `\u` with the code point in braces, in lower-case hexadecimal without padding, for every other
character that has no image of its own.  All other characters, the single quote among them, stand
for themselves.
-/

namespace CommandLog

/-- The written form of one character inside a quoted text. -/
def escape (c : Char) : List Char :=
  if c = '\x00' then ['\\', '0']
  else if c = '\t' then ['\\', 't']
  else if c = '\r' then ['\\', 'r']
  else if c = '\n' then ['\\', 'n']
  else if c = '"' then ['\\', '"']
  else if c = '\\' then ['\\', '\\']
  else if isUnseen c then ['\\', 'u', '\x7b'] ++ Nat.toDigits 16 c.toNat ++ ['\x7d']
  else [c]

/-- A text between double quotes, on one line. -/
def quote (text : String) : String :=
  String.ofList ('"' :: text.toList.flatMap escape ++ ['"'])

end CommandLog
