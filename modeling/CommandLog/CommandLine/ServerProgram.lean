import CommandLog.CommandLine.Outcome
import CommandLog.Network
import CommandLog.Server

/-!
# The server program

The options of the server program, what they must be, and how the program comes to serve: it opens
the storage, binds the address, goes into the background if it is asked to, and begins to serve.  If
the address cannot be bound, the storage is given up again, which removes a data file that is not
persistent.

In the background the working directory is the root.  The data file stays open, but its path is
followed again for every reader and at the end.
-/

namespace CommandLog

/-- Where the server program keeps its log. -/
inductive StorageKind where
  | file
  | device
  deriving DecidableEq

/-- What the server program was told. -/
structure ServerOptions where
  address : Address
  storage : StorageKind
  dataFile : String
  capacity : Nat
  /-- In seconds; 0 for no timestamps. -/
  interval : Nat
  keepAlive : Bool
  background : Bool

namespace ServerProgram

def addressOption : ValueOption := ⟨"addr", "IP_ADDR:PORT", "0.0.0.0:9000", none⟩

def storageOption : ValueOption := ⟨"backend", "BACKEND", "file", some ["file", "device"]⟩

def dataFileOption : ValueOption := ⟨"data-file", "PATH", "/var/tmp/aesdsocketdata", none⟩

def capacityOption : ValueOption := ⟨"capacity", "COMMANDS", "10", none⟩

def intervalOption : ValueOption := ⟨"timestamp-interval", "SECONDS", "10", none⟩

/-- The program and what it accepts. -/
def program : Program :=
  { name := "aesdsocket"
    version := "0.1.0"
    level :=
      { flags := [⟨"daemon", some 'd'⟩, ⟨"keep-alive", none⟩, ⟨"verbose", some 'v'⟩]
        options :=
          [addressOption, storageOption, dataFileOption, capacityOption, intervalOption]
        operands := [] }
    subcommands := [] }

/-- Numbers on the command line fit into 64 bits. -/
def numberLimit : Nat := UInt64.size

/-- Checks what was given, in this order: the address, the capacity, the interval. -/
def options (given : Given) : Except Misuse ServerOptions := do
  let address ←
    match Address.ofString? (given.value addressOption) with
    | some address => .ok address
    | none => .error (.address (given.value addressOption))
  let capacity ←
    match Numeral.unsigned? numberLimit (given.value capacityOption) with
    | some (n + 1) => .ok (n + 1)
    | _ => .error (.capacity (given.value capacityOption))
  let interval ←
    match Numeral.unsigned? numberLimit (given.value intervalOption) with
    | some n => .ok n
    | none => .error (.interval (given.value intervalOption))
  return {
    address, capacity, interval
    storage := if given.value storageOption = "device" then .device else .file
    dataFile := given.value dataFileOption
    keepAlive := given.has "keep-alive"
    background := given.has "daemon" }

/-- The server's settings, with the interval in milliseconds. -/
def settings (options : ServerOptions) : Settings := ⟨options.keepAlive, options.interval * 1000⟩

/-- A server that serves, over the storage that was asked for. -/
inductive Service where
  | file (server : Server HostedFile)
  | device (server : Server Device)

/-- Binds the address; if that fails, the storage is given up. -/
def bind {σ ρ : Type} [Storage σ ρ] (network : Network) (options : ServerOptions) (storage : σ) :
    σ × Except Failure Unit :=
  match network.bind options.address with
  | .ok () => (storage, .ok ())
  | .error fault => Server.giveUp storage (.io fault)

/-- Goes into the background, if that was asked for. -/
def detach (options : ServerOptions) (fs : FileSystem) : FileSystem :=
  if options.background then fs.changeDirectory [] else fs

/-- Begins to serve.  The file system is the one that is left, whether that works or not. -/
def launch (fs : FileSystem) (network : Network) (options : ServerOptions) :
    FileSystem × Except Failure Service :=
  match options.storage with
  | .device =>
    match bind network options (Device.empty options.capacity) with
    | (_, .error failure) => (fs, .error failure)
    | (device, .ok ()) =>
      (detach options fs, .ok (.device (.start (settings options) device)))
  | .file =>
    match DataFile.openAt fs (.ofString options.dataFile) with
    | .error failure => (fs, .error failure)
    | .ok (fs, file) =>
      match bind network options (HostedFile.mk fs file) with
      | (hosted, .error failure) => (hosted.host, .error failure)
      | (hosted, .ok ()) =>
        let hosted := { hosted with host := detach options hosted.host }
        (hosted.host, .ok (.file (.start (settings options) hosted)))

/-- How the program ends with a failure. -/
def fail (failure : Failure) : Outcome := .failure failure.message

/-- Reads the command line; or ends at once. -/
def read (words : List String) : Except Outcome ServerOptions :=
  match program.parse words with
  | .error interruption => .error (interruption.outcome program)
  | .ok parsed => (options parsed.top).mapError fun misuse => fail (.misuse misuse)

/-- Reads the command line and begins to serve; or ends at once. -/
def start (fs : FileSystem) (network : Network) (words : List String) :
    FileSystem × Except Outcome (ServerOptions × Service) :=
  match read words with
  | .error outcome => (fs, .error outcome)
  | .ok options =>
    let (fs, service) := launch fs network options
    (fs, (service.map (options, ·)).mapError fail)

/-- How the program ends when its server has stopped. -/
def finish (result : Except Failure Unit) : Outcome :=
  match result with
  | .ok () => .success []
  | .error failure => fail failure

end ServerProgram

end CommandLog
