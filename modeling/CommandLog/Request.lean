import CommandLog.Command
import CommandLog.Numeral

/-!
# Requests

What a command asks of the server.  A command that begins with `Request.seekHead` asks for the log
from a given place on; every other command is to be stored.  `Request.ofCommand` reads a command,
`Request.stores` tells whether it is one to be stored, and `Request.seekLine` writes the one
canonical form of a seek.
-/

namespace CommandLog

/-- What a client asks for. -/
inductive Request where
  /-- Append the command to the log and reply with the whole log. -/
  | store (command : Command)
  /-- Reply with the log from byte `offset` of command number `command` on, counted from the oldest
  one that is kept. -/
  | seek (command offset : UInt32)
  deriving DecidableEq

namespace Request

/-- What every seek begins with. -/
def seekHead : Bytes := Utf8.encode "AESDCHAR_IOCSEEKTO:"

/-- The byte between the two numbers of a seek. -/
def comma : UInt8 := 44

/-- The bytes before the first comma and those after it. -/
def splitComma? (bytes : Bytes) : Option (Bytes × Bytes) :=
  match bytes.dropWhile (· ≠ comma) with
  | [] => none
  | _ :: right => some (bytes.takeWhile (· ≠ comma), right)

/-- The bytes without their final newline. -/
def dropNewline? (bytes : Bytes) : Option Bytes :=
  if bytes.getLast? = some newline then some bytes.dropLast else none

/-- Two numbers, each written in digits only, with a comma between them and a newline at the end. -/
def seekArguments? (arguments : Bytes) : Option (UInt32 × UInt32) := do
  let (left, right) ← splitComma? (← dropNewline? arguments)
  return (← Numeral.word32? left, ← Numeral.word32? right)

/-- What a command asks for.  A seek whose arguments cannot be read is refused with the text of all
that follows `seekHead`, the newline included. -/
def ofCommand (command : Command) : Except Failure Request :=
  match command.bytes.dropHead? seekHead with
  | none => .ok (.store command)
  | some arguments =>
    match seekArguments? arguments with
    | some (number, offset) => .ok (.seek number offset)
    | none => .error (.malformedSeek (Utf8.lossy arguments))

/-- Does the command ask to be stored? -/
def stores (command : Command) : Bool :=
  match ofCommand command with
  | .ok (.store _) => true
  | _ => false

/-- The command that asks for a seek. -/
def seekLine (command offset : UInt32) : Bytes :=
  seekHead ++ Numeral.digits command.toNat ++ [comma] ++ Numeral.digits offset.toNat ++ [newline]

/-- What is stored is the command itself, unchanged. -/
theorem ofCommand_of_stores {command : Command} (h : stores command = true) :
    ofCommand command = .ok (.store command) := by
  unfold stores at h
  unfold ofCommand at h ⊢
  split
  · rfl
  · next arguments hhead =>
    rw [hhead] at h
    cases hseek : seekArguments? arguments <;> simp [hseek] at h

end Request

end CommandLog
