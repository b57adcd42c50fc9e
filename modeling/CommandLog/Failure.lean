import CommandLog.Text.Quoted
import CommandLog.Text.Utf8

/-!
# What can go wrong

Three kinds of causes.  A `Fault` comes from the operating system or from a cursor; a `Misuse` is an
argument that a program cannot work with; a `Failure` is anything that an operation of the library
reports.  Each is a cause: the wording is in `Fault.message`, `Misuse.message` and
`Failure.message`, and nowhere else.

`Failure.diagnosis` is the other written form, the one the client program prints: it names the kind
of the failure and quotes the texts it carries.
-/

namespace CommandLog

/-- What the operating system, or a cursor over stored bytes, refuses. -/
inductive Fault where
  | notFound
  | alreadyExists
  | isADirectory
  | notADirectory
  | nameTooLong
  /-- A path cannot hold a NUL, which would end it. -/
  | nulInPath
  | invalidArgument
  | permissionDenied
  | noSuchDevice
  /-- The medium that holds a file cannot be written to. -/
  | inputOutput
  /-- There is no more room for a file to grow. -/
  | noSpace
  /-- A device's cursor would leave the stored bytes. -/
  | seekOutside (target : Int) (size : Nat)
  | connectionRefused
  | connectionReset
  | networkUnreachable
  | addressInUse
  | addressNotAvailable
  deriving DecidableEq

namespace Fault

/-- The number under which the operating system knows the fault, if it gets to know it at all. -/
def code? : Fault → Option Nat
  | .notFound => some 2
  | .inputOutput => some 5
  | .permissionDenied => some 13
  | .alreadyExists => some 17
  | .noSuchDevice => some 19
  | .notADirectory => some 20
  | .isADirectory => some 21
  | .invalidArgument => some 22
  | .noSpace => some 28
  | .nameTooLong => some 36
  | .addressInUse => some 98
  | .addressNotAvailable => some 99
  | .networkUnreachable => some 101
  | .connectionReset => some 104
  | .connectionRefused => some 111
  | .nulInPath | .seekOutside _ _ => none

/-- The name of the class of faults that this one belongs to. -/
def kind : Fault → String
  | .notFound => "NotFound"
  | .alreadyExists => "AlreadyExists"
  | .notADirectory => "NotADirectory"
  | .isADirectory => "IsADirectory"
  | .nameTooLong => "InvalidFilename"
  | .invalidArgument | .nulInPath | .seekOutside _ _ => "InvalidInput"
  | .permissionDenied => "PermissionDenied"
  | .noSuchDevice | .inputOutput => "Uncategorized"
  | .noSpace => "StorageFull"
  | .addressInUse => "AddrInUse"
  | .addressNotAvailable => "AddrNotAvailable"
  | .networkUnreachable => "NetworkUnreachable"
  | .connectionRefused => "ConnectionRefused"
  | .connectionReset => "ConnectionReset"

/-- The fault in words. -/
def text : Fault → String
  | .notFound => "No such file or directory"
  | .alreadyExists => "File exists"
  | .notADirectory => "Not a directory"
  | .isADirectory => "Is a directory"
  | .nameTooLong => "File name too long"
  | .nulInPath => "file name contained an unexpected NUL byte"
  | .invalidArgument => "Invalid argument"
  | .permissionDenied => "Permission denied"
  | .noSuchDevice => "No such device"
  | .inputOutput => "Input/output error"
  | .noSpace => "No space left on device"
  | .addressNotAvailable => "Cannot assign requested address"
  | .addressInUse => "Address already in use"
  | .networkUnreachable => "Network is unreachable"
  | .connectionRefused => "Connection refused"
  | .connectionReset => "Connection reset by peer"
  | .seekOutside target size =>
    "seek target " ++ toString target ++ " is outside of 0..=" ++ toString size

/-- The fault as it is reported: in words, with its number where it has one. -/
def message (fault : Fault) : String :=
  match fault.code? with
  | some code => fault.text ++ " (os error " ++ toString code ++ ")"
  | none => fault.text

/-- The fault as a program prints it for diagnosis. -/
def diagnosis (fault : Fault) : String :=
  match fault, fault.code? with
  | _, some code =>
    "Os \x7b code: " ++ toString code ++ ", kind: " ++ fault.kind ++ ", message: "
      ++ quote fault.text ++ " \x7d"
  | .nulInPath, none =>
    "Error \x7b kind: " ++ fault.kind ++ ", message: " ++ quote fault.text ++ " \x7d"
  | _, none =>
    "Custom \x7b kind: " ++ fault.kind ++ ", error: " ++ quote fault.text ++ " \x7d"

end Fault

/-- An argument that a program cannot work with. -/
inductive Misuse where
  | address (given : String)
  | capacity (given : String)
  | interval (given : String)
  /-- The named argument must be a number. -/
  | number (name given : String)
  /-- The text to send holds a newline of its own. -/
  | severalLines
  | noRequest
  deriving DecidableEq

/-- The misuse in words. -/
def Misuse.message : Misuse → String
  | .address given => "could not parse " ++ given ++ " into an IP address and port"
  | .capacity given => "the capacity must be a positive integer, got: " ++ given
  | .interval given => "the timestamp interval must be a number of seconds, got: " ++ given
  | .number name given => name ++ " must be an unsigned integer, got: " ++ given
  | .severalLines => "TEXT must be a single line"
  | .noRequest => "unknown command received"

/-- Why an operation of the library failed. -/
inductive Failure where
  | io (fault : Fault)
  /-- The log holds no such command, or the command no such byte. -/
  | outOfRange (command offset : UInt32)
  /-- A seek request with arguments that are not two numbers. -/
  | malformedSeek (arguments : String)
  /-- The storage keeps no track of single commands. -/
  | seekUnsupported (storage : String)
  /-- There was no memory for a buffer of so many bytes. -/
  | noMemory (size : Nat)
  /-- A worker panicked while it held the lock on the storage. -/
  | lockPoisoned
  | misuse (cause : Misuse)
  /-- The bytes are not one complete line. -/
  | incompleteCommand (data : Bytes)
  /-- A log cannot have room for no command at all. -/
  | noRoom
  /-- The server answered a seek with an empty reply. -/
  | seekRejected (command offset : UInt32)
  /-- A storage refused to work, in its own words. -/
  | refused (text : String)
  deriving DecidableEq

namespace Failure

/-- The failure in words. -/
def message : Failure → String
  | .io fault => "IO error: " ++ fault.message
  | .outOfRange command offset =>
    "seek target out of range: command " ++ toString command.toNat ++ ", offset "
      ++ toString offset.toNat
  | .malformedSeek arguments => "malformed seek command: " ++ arguments
  | .seekUnsupported storage => "seek is not supported by the " ++ storage ++ " backend"
  | .noMemory _ =>
    "could not grow buffer: memory allocation failed because the memory allocator returned an error"
  | .lockPoisoned => "the shared write lock was poisoned"
  | .misuse cause => cause.message
  | .incompleteCommand data =>
    "a command must contain exactly one trailing delimiter: " ++ quote (Utf8.lossy data)
  | .noRoom => "a command log needs room for at least one entry"
  | .seekRejected command offset =>
    "the server rejected seek position " ++ toString command.toNat ++ ","
      ++ toString offset.toNat
  | .refused text => text

/-- The failure as the client program prints it: its kind, with the texts it carries quoted. -/
def diagnosis (failure : Failure) : String :=
  match failure with
  | .io fault => "Io(" ++ fault.diagnosis ++ ")"
  | .outOfRange command offset =>
    "OutOfRange \x7b write_cmd: " ++ toString command.toNat ++ ", write_cmd_offset: "
      ++ toString offset.toNat ++ " \x7d"
  | .malformedSeek arguments => "MalformedSeek(" ++ quote arguments ++ ")"
  | .seekUnsupported storage => "SeekUnsupported(" ++ quote storage ++ ")"
  | .noMemory size =>
    "Alloc(TryReserveError \x7b kind: AllocError \x7b layout: Layout \x7b size: " ++ toString size
      ++ ", align: 1 (1 << 0) \x7d, non_exhaustive: () \x7d \x7d)"
  | .lockPoisoned => "LockPoisoned"
  | .misuse cause => "Parsing(" ++ quote cause.message ++ ")"
  | .incompleteCommand _ | .noRoom | .seekRejected _ _ | .refused _ =>
    "StringErr(" ++ quote failure.message ++ ")"

end Failure

end CommandLog
