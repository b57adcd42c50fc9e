import CommandLog.Client
import CommandLog.CommandLine.Outcome

/-!
# The client program

Sends one request to a server and prints the reply.  Whatever can be told to be wrong before that is
reported without sending anything: a text of several lines, a seek whose arguments cannot be read,
numbers that are none, and last an address that is none.

A seek that is answered with nothing was rejected by the server.
-/

namespace CommandLog

/-- What the client program was told. -/
structure ClientOptions where
  address : Address
  request : Request

namespace ClientOptions

/-- The bytes that are sent. -/
def bytes (options : ClientOptions) : Bytes :=
  match options.request with
  | .store command => command.bytes
  | .seek command offset => Request.seekLine command offset

end ClientOptions

namespace ClientProgram

def addressOption : ValueOption := ⟨"addr", "IP_ADDR:PORT", "127.0.0.1:9000", none⟩

/-- The program and what it accepts. -/
def program : Program :=
  { name := "aesd-client"
    version := "0.1.0"
    level := ⟨[], [addressOption], []⟩
    subcommands :=
      [⟨"send", ⟨[], [], ["TEXT"]⟩⟩, ⟨"seek", ⟨[], [], ["COMMAND", "OFFSET"]⟩⟩] }

/-- A number given as the named operand. -/
def number (name given : String) : Except Failure UInt32 :=
  match Numeral.unsigned? UInt32.size given with
  | some n => .ok (UInt32.ofNat n)
  | none => .error (.misuse (.number name given))

/-- The request that a text to be sent is: it gets its newline here. -/
def sendRequest (text : String) : Except Failure Request :=
  let data := Utf8.encode text
  if newline ∈ data then .error (.misuse .severalLines)
  else do Request.ofCommand (← Command.ofBytes (data ++ [newline]))

/-- The request that was asked for. -/
def request (parsed : Parsed) : Except Failure Request :=
  match parsed.subcommand with
  | some ("send", given) => sendRequest (given.operand 0)
  | some ("seek", given) => do
    let command ← number "COMMAND" (given.operand 0)
    let offset ← number "OFFSET" (given.operand 1)
    return .seek command offset
  | _ => .error (.misuse .noRequest)

/-- Checks what was given: first the request, then the address. -/
def options (parsed : Parsed) : Except Failure ClientOptions := do
  let request ← request parsed
  match Address.ofString? (parsed.top.value addressOption) with
  | some address => return ⟨address, request⟩
  | none => .error (.misuse (.address (parsed.top.value addressOption)))

/-- How the program ends with a failure. -/
def fail (failure : Failure) : Outcome := .failure ("Error: " ++ failure.diagnosis)

/-- Reads the command line; or ends at once. -/
def start (words : List String) : Except Outcome ClientOptions :=
  match program.parse words with
  | .error interruption => .error (interruption.outcome program)
  | .ok parsed => (options parsed).mapError fail

/-- How the program ends with what became of its request. -/
def finish (options : ClientOptions) (reply : Except Failure Bytes) : Outcome :=
  match reply with
  | .error failure => fail failure
  | .ok reply =>
    match options.request with
    | .store _ => .success reply
    | .seek command offset =>
      if reply = [] then fail (.seekRejected command offset) else .success reply

/-- A run of the program where nobody listens at any address. -/
def runAlone (network : Network) (words : List String) : Outcome :=
  match start words with
  | .error outcome => outcome
  | .ok options =>
    match network.connect options.address false with
    | .ok () => finish options (.ok [])
    | .error fault => finish options (.error (.io fault))

/-- A run of the program against a server. -/
def runAgainst {σ ρ : Type} [Storage σ ρ] (network : Network) (server : Server σ)
    (words : List String) : Server σ × Outcome :=
  match start words with
  | .error outcome => (server, outcome)
  | .ok options =>
    let (server, reply) := Client.request network options.address server options.bytes
    (server, finish options reply)

end ClientProgram

end CommandLog
