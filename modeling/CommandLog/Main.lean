import CommandLog.CommandLine.ClientProgram
import CommandLog.CommandLine.ServerProgram
import Std.Async.Select
import Std.Async.Signal
import Std.Async.TCP
import Std.Async.Timer
import Std.Sync.Mutex
import Std.Time.Zoned

/-!
# The programs on a real host

`main` runs the server program or the client program, whichever its first word names.  What the
programs do is decided elsewhere; here sockets, files, signals and clocks are tied to it.

Every change of the server happens under one lock (`Running.update`); the replies are sent without
it.  The data file is read before each change and what the change appended is written afterwards, so
that others may read it and append to it as well.

To put the process into the background is left to whoever starts it.  A server that was asked to
serve there follows the path of its data file from the root.
-/

namespace CommandLog

open Std.Async

/-! ## Faults, bytes and addresses -/

/-- The number of a fault, which comes with its sign changed from an operation on a socket. -/
def faultCode (code : UInt32) : Nat :=
  if code.toNat < UInt32.size / 2 then code.toNat else UInt32.size - code.toNat

/-- The number under which the system reports an error. -/
def osCode? : IO.Error → Option Nat
  | .alreadyExists _ code _ | .invalidArgument _ code _ | .permissionDenied _ code _
  | .resourceExhausted _ code _ | .inappropriateType _ code _ | .noSuchThing _ code _
  | .interrupted _ code _ | .noFileOrDirectory _ code _
  | .otherError code _ | .resourceBusy code _ | .resourceVanished code _
  | .unsupportedOperation code _ | .hardwareFault code _ | .unsatisfiedConstraints code _
  | .illegalOperation code _ | .protocolError code _ | .timeExpired code _ =>
    some (faultCode code)
  | .unexpectedEof | .userError _ => none

/-- The faults that the system can report. -/
def systemFaults : List Fault :=
  [.notFound, .permissionDenied, .alreadyExists, .noSuchDevice, .notADirectory, .isADirectory,
    .invalidArgument, .inputOutput, .noSpace, .nameTooLong, .addressInUse, .addressNotAvailable,
    .networkUnreachable, .connectionReset, .connectionRefused]

/-- What an action gives, or why it failed.  A fault without a number here keeps its own words. -/
def attempt {α : Type} (action : IO α) : IO (Except Failure α) := do
  match ← action.toBaseIO with
  | .ok value => return .ok value
  | .error error =>
    match systemFaults.find? fun fault => fault.code?.isSome && fault.code? == osCode? error with
    | some fault => return .error (.io fault)
    | none => return .error (.refused (toString error))

/-- Bytes as they are sent and written. -/
def pack (data : Bytes) : ByteArray := ⟨data.toArray⟩

/-- An address as a socket takes it. -/
def Address.toSocket? (address : Address) : Option Std.Net.SocketAddress :=
  let port := UInt16.ofNat address.port
  match address.ip with
  | .v4 [a, b, c, d] =>
    some (.v4 ⟨.ofParts (.ofNat a) (.ofNat b) (.ofNat c) (.ofNat d), port⟩)
  | .v6 [a, b, c, d, e, f, g, h] _ =>
    some (.v6 ⟨.ofParts (.ofNat a) (.ofNat b) (.ofNat c) (.ofNat d) (.ofNat e) (.ofNat f)
      (.ofNat g) (.ofNat h), port⟩)
  | _ => none

/-- The address of a socket; what is no address is refused as an argument. -/
def Address.toSocket (address : Address) : IO Std.Net.SocketAddress :=
  match address.toSocket? with
  | some socket => return socket
  | none => throw (.invalidArgument none 22 "Invalid argument")

/-- Leaves an outcome behind. -/
def report (outcome : Outcome) : IO UInt32 := do
  (← IO.getStdout).write (pack outcome.output)
  (← IO.getStderr).putStr outcome.diagnostics
  return UInt32.ofNat outcome.code

/-! ## The client -/

/-- Reads until the other side closes the connection. -/
partial def readAll (socket : TCP.Socket.Client) (received : Bytes) : Async Bytes := do
  match ← socket.recv? 8192 with
  | some data => readAll socket (received ++ data.toList)
  | none => return received

/-- Sends bytes over a new connection and collects the reply. -/
def exchange (address : Address) (data : Bytes) : Async Bytes := do
  let socket ← TCP.Socket.Client.mk
  socket.connect (← address.toSocket)
  socket.send (pack data)
  readAll socket []

/-- Runs the client program. -/
def runClient (words : List String) : IO UInt32 := do
  match ClientProgram.start words with
  | .error outcome => report outcome
  | .ok options =>
    let reply ← attempt (exchange options.address options.bytes).block
    report (ClientProgram.finish options reply)

/-! ## The server -/

/-- What ties a storage to the host: how it is brought up to date before it is used, and how what
became of it is carried over. -/
structure Backing (σ : Type) where
  refresh : σ → IO σ
  commit : (before after : σ) → IO Unit

/-- A device is kept in memory only. -/
def Backing.ofDevice : Backing Device := ⟨pure, fun _ _ => pure ()⟩

/-- Where a server finds its data file: the one file of a file system of its own. -/
def logName : String := "/log"

/-- Such a file system, with these bytes in the file. -/
def logFiles (data : Bytes) : FileSystem :=
  let fs := FileSystem.ofDirectories [] []
  ((fs.put (.ofString logName) data).toOption).getD fs

/-- A file is read by its name and appended to through its handle. -/
def Backing.ofFile (handle : IO.FS.Handle) (name : String) : Backing HostedFile where
  refresh hosted := do
    let path := Path.ofString logName
    let host :=
      match ← (IO.FS.readBinFile name).toBaseIO with
      | .ok data => hosted.host.put path data.toList
      | .error _ => hosted.host.remove path
    return { hosted with host := host.toOption.getD hosted.host }
  commit before after := do
    let path := Path.ofString logName
    let number := after.file.number
    let appended := (after.host.packed number).slice (before.host.size number)
      (after.host.size number)
    if appended ≠ [] then
      handle.write (pack appended)
      handle.flush
    if before.host.exists? path && !after.host.exists? path then IO.FS.removeFile name

/-- A server that runs on this host. -/
structure Running (σ : Type) where
  server : Std.Mutex (Server σ)
  backing : Backing σ
  /-- The workers that were started and may not have ended. -/
  workers : IO.Ref (List (AsyncTask Unit))

namespace Running

variable {σ ρ : Type} [Storage σ ρ]

/-- The server as it is now. -/
def now (running : Running σ) : IO (Server σ) := running.server.atomically get

/-- Changes the server under the lock, and gives what the change answers. -/
def update {α : Type} (running : Running σ) (change : Server σ → Server σ × α) : IO α :=
  running.server.atomically do
    let server ← get
    let storage ← running.backing.refresh server.shared.storage
    let (server, answer) := change { server with shared := { server.shared with storage } }
    set server
    running.backing.commit storage server.shared.storage
    return answer

/-- A connection receives a piece, unless the server has stopped.  The answer is the connection
after it, and what is to be sent. -/
def receive (running : Running σ) (session : Session) (piece : Bytes) : IO (Session × Bytes) :=
  running.update fun server =>
    if server.isServing then
      let (shared, session, reply) :=
        session.receive server.settings.keepAlive server.shared piece
      ({ server with shared }, session, reply)
    else (server, session.close, [])

/-- How long a worker waits for bytes before it looks whether the server has stopped. -/
def patience : Std.Time.Millisecond.Offset := 500

/-- Serves one connection. -/
partial def converse (running : Running σ) (session : Session) (socket : TCP.Socket.Client) :
    Async Unit := do
  let pause ← Selector.sleep patience
  let received ← Selectable.one #[
    .case (socket.recvSelector receiveRoom.toUInt64) fun data => return some data,
    .case pause fun _ => return none]
  match received with
  | none => if (← running.now).isServing then converse running session socket
  | some none => return
  | some (some data) =>
    let (session, reply) ← running.receive session data.toList
    if reply ≠ [] then socket.send (pack reply)
    if session.isOpen then converse running session socket

/-- Serves one connection and closes it.  A fault on it ends it and nothing else. -/
def work (running : Running σ) (socket : TCP.Socket.Client) : Async Unit := do
  try
    running.converse .start socket
    socket.shutdown
  catch _ => return

/-- Accepts connections and starts a worker for each, until accepting fails. -/
partial def accept (running : Running σ) (listener : TCP.Socket.Server) : Async Unit := do
  let socket ← listener.accept
  let worker ← async (running.work socket)
  let busy ← (← running.workers.get).filterM fun worker => return !(← IO.hasFinished worker)
  running.workers.set (worker :: busy)
  accept running listener

/-- The timestamp of this moment. -/
def timestamp : IO (Except TimeFault Command) := do
  let moment ← Std.Time.Timestamp.now
  let offset ←
    match ← Std.Time.Database.defaultGetLocalZoneRules.toBaseIO with
    | .ok rules => pure (rules.timezoneAt moment).offset.second.val
    | .error _ => pure 0
  return Timestamp.entry moment.val.second.val moment.val.nano.val.toNat offset

/-- Writes timestamps as long as the server serves. -/
partial def keepTime (running : Running σ) : Async Unit := do
  let server ← running.now
  if server.isStamping then
    sleep (.ofInt server.settings.interval)
    match ← timestamp with
    | .ok entry => running.update fun server => (server.stamp entry, ())
    | .error _ => pure ()
    keepTime running

/-- Serves until a signal comes or accepting fails.  The answer is how the run ended. -/
def serve (running : Running σ) (listener : TCP.Socket.Server) (signals : List (AsyncTask Int)) :
    IO (Except Failure Unit) := do
  let _ ← running.keepTime.asTask
  let accepting ← (running.accept listener).asTask
  let ended ← IO.waitAny (accepting :: signals.map (·.map fun _ => ()))
  let accepted ← attempt (IO.ofExcept ended)
  let result ← running.update fun server => (server.stop, server.stop.result)
  for worker in ← running.workers.get do worker.block
  return accepted.bind fun _ => result.getD (.ok ())

end Running

/-- Begins to run a server. -/
def Running.ofServer {σ : Type} (server : Server σ) (backing : Backing σ) : IO (Running σ) :=
  return ⟨← Std.Mutex.new server, backing, ← IO.mkRef []⟩

/-- A socket that listens at an address. -/
def listenAt (address : Address) : IO TCP.Socket.Server := do
  let listener ← TCP.Socket.Server.mk
  listener.bind (← address.toSocket)
  listener.listen 128
  return listener

/-- The name by which the data file is reached once the server serves. -/
def reachedAs (options : ServerOptions) : String :=
  if options.background && !(Path.ofString options.dataFile).isAbsolute then
    "/" ++ options.dataFile
  else options.dataFile

/-- The log that the storage begins with, and the handle that it is appended through. -/
def openLog (options : ServerOptions) : IO (Option IO.FS.Handle × FileSystem) := do
  match options.storage with
  | .device => return (none, logFiles [])
  | .file =>
    let handle ← IO.FS.Handle.mk options.dataFile .append
    return (some handle, logFiles (← IO.FS.readBinFile options.dataFile).toList)

/-- The network as it is met once the address is bound: nothing stands in the way. -/
def openNetwork : Network := ⟨[], 0, UInt32.size, true⟩

/-- Begins to serve at an address that is free, and serves until a signal comes. -/
def serveAt (options : ServerOptions) (handle : Option IO.FS.Handle) (fs : FileSystem)
    (listener : TCP.Socket.Server) : IO (Except Failure Unit) := do
  let signals ← [Signal.sigterm, Signal.sigint].mapM fun signal => do
    (← Signal.Waiter.mk signal true).wait
  match (ServerProgram.launch fs openNetwork { options with dataFile := logName }).2, handle with
  | .error failure, _ => return .error failure
  | .ok (.device server), _ => (← Running.ofServer server .ofDevice).serve listener signals
  | .ok (.file server), some handle =>
    (← Running.ofServer server (.ofFile handle (reachedAs options))).serve listener signals
  | .ok (.file _), none => return .ok ()

/-- Gives the data file up before anything was served, because of a failure.  If it cannot be
removed for another reason than being gone, that is the failure that is reported. -/
def abandon (options : ServerOptions) (failure : Failure) : IO Failure := do
  match options.storage with
  | .device => return failure
  | .file =>
    match ← attempt (IO.FS.removeFile options.dataFile) with
    | .error closing => return if closing = .io .notFound then failure else closing
    | .ok () => return failure

/-- Runs the server program. -/
def runServer (words : List String) : IO UInt32 := do
  match ServerProgram.read words with
  | .error outcome => report outcome
  | .ok options =>
    match ← attempt (openLog options) with
    | .error failure => report (ServerProgram.fail failure)
    | .ok (handle, fs) =>
      match ← attempt (listenAt options.address) with
      | .ok listener => report (ServerProgram.finish (← serveAt options handle fs listener))
      | .error failure => report (ServerProgram.fail (← abandon options failure))

end CommandLog

/-- Runs the program that the first word names, with the other words as its command line. -/
def main (words : List String) : IO UInt32 := do
  let server := CommandLog.ServerProgram.program.name
  let client := CommandLog.ClientProgram.program.name
  match words with
  | program :: rest =>
    if program == server then CommandLog.runServer rest
    else if program == client then CommandLog.runClient rest
    else CommandLog.report (.failure ("expected " ++ server ++ " or " ++ client))
  | [] => CommandLog.report (.failure ("expected " ++ server ++ " or " ++ client))
