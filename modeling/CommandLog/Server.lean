import CommandLog.Server.Session
import CommandLog.Timestamp

/-!
# The server

A server with its connections, as it is seen from outside while one thing happens at a time: a
client connects, sends bytes, closes its sending side or resets the connection; time passes; the
server is told to stop.  After each of these, `Server.handle`, the server has done all that follows
from it.

A server that was told to stop serves no new connection.  The open ones are closed, every worker is
joined, the timestamps end, and then the storage is closed, once; how the closing ended is how the
run ended.

Left out is how often a worker that waits for bytes looks whether the server is to stop.  That can be
set as well, and only decides how soon an idle connection ends; but an interval of 0 is refused by the
sockets, and then every connection is closed unserved, which is not covered here.  A connection does
not run out of memory for what it receives, and the sockets fail only where a client resets its
connection.  What is written to a log about the run is left out, too.
-/

namespace CommandLog

/-- What can be set on a server. -/
structure Settings where
  /-- Does a connection stay open for more commands after a reply? -/
  keepAlive : Bool
  /-- The time between two timestamps; none are written at intervals of 0. -/
  interval : Nat

/-- How many bytes a worker receives at most at a time. -/
def receiveRoom : Nat := 512

/-- A server, its connections, and how its run ended once it has.  A connection is known by a number
that whoever connects picks; a number that nobody has picked stands for no connection. -/
structure Server (σ : Type) where
  settings : Settings
  shared : Shared σ
  sessions : Nat → Option Session
  result : Option (Except Failure Unit)

namespace Server

variable {σ ρ : Type} [Storage σ ρ]

/-- A server that begins to serve. -/
def start (settings : Settings) (storage : σ) : Server σ :=
  ⟨settings, .ofStorage storage, fun _ => none, none⟩

/-- Gives the storage up before anything was served, because of a failure.  If the closing fails as
well, that is the failure that is reported. -/
def giveUp (storage : σ) (failure : Failure) : σ × Except Failure Unit :=
  match Storage.close storage with
  | (storage, .ok ()) => (storage, .error failure)
  | (storage, .error closing) => (storage, .error closing)

/-- Does the server take new connections? -/
def isServing (server : Server σ) : Bool := server.result.isNone

/-- Are timestamps written? -/
def isStamping (server : Server σ) : Bool :=
  server.isServing && server.settings.interval != 0
    && Storage.wantsTimestamps server.shared.storage

/-- Puts a session in the place of the one with its number. -/
def setSession (server : Server σ) (number : Nat) (session : Session) : Server σ :=
  { server with
    sessions := fun other => if other = number then some session else server.sessions other }

/-- Is the connection open? -/
def isOpen (server : Server σ) (number : Nat) : Bool :=
  (server.sessions number).any (·.isOpen)

/-- A client connects, unless the server has stopped. -/
def connect (server : Server σ) (number : Nat) : Server σ :=
  if server.isServing then server.setSession number .start else server

/-- A connection receives one piece.  The answer is what is sent. -/
def receive (server : Server σ) (number : Nat) (piece : Bytes) : Server σ × Bytes :=
  match server.sessions number with
  | none => (server, [])
  | some session =>
    let (shared, session, reply) :=
      session.receive server.settings.keepAlive server.shared piece
    ({ server with shared }.setSession number session, reply)

/-- A connection receives pieces one after the other. -/
def receiveAll (server : Server σ) (number : Nat) : List Bytes → Server σ × Bytes
  | [] => (server, [])
  | piece :: others =>
    let (server, reply) := server.receive number piece
    let (server, replies) := receiveAll server number others
    (server, reply ++ replies)

/-- Bytes are sent to a connection and arrive in pieces of the size that a worker receives. -/
def deliver (server : Server σ) (number : Nat) (data : Bytes) : Server σ × Bytes :=
  server.receiveAll number (data.pieces (receiveRoom - 1))

/-- A connection ends, because the client closed its sending side or reset it.  A command that is
not complete is lost. -/
def hangUp (server : Server σ) (number : Nat) : Server σ :=
  match server.sessions number with
  | none => server
  | some session => server.setSession number session.close

/-- A timestamp is written, if timestamps are written at all.  One that cannot be appended is left
out. -/
def stamp (server : Server σ) (entry : Command) : Server σ :=
  if server.isStamping then { server with shared := (server.shared.append entry.bytes).1 }
  else server

/-- The server is told to stop.  Told again, it does nothing. -/
def stop (server : Server σ) : Server σ :=
  if server.isServing then
    let (storage, result) := Storage.close server.shared.storage
    { server with
      shared := { server.shared with storage }
      sessions := fun number => (server.sessions number).map Session.close
      result := some result }
  else server

/-- All bytes of the log, as far as there is one. -/
def log? (server : Server σ) : Option Bytes := Storage.contents? server.shared.storage

/-! ## Histories -/

/-- What can happen to a server. -/
inductive Event where
  | connect (number : Nat)
  | receive (number : Nat) (piece : Bytes)
  | hangUp (number : Nat)
  | stamp (entry : Command)
  | stop

/-- The connection that an event belongs to. -/
def Event.connection? : Event → Option Nat
  | .connect number | .receive number _ | .hangUp number => some number
  | .stamp _ | .stop => none

/-- What an event leads to, and what is sent to its connection. -/
def handle (server : Server σ) : Event → Server σ × Bytes
  | .connect number => (server.connect number, [])
  | .receive number piece => server.receive number piece
  | .hangUp number => (server.hangUp number, [])
  | .stamp entry => (server.stamp entry, [])
  | .stop => (server.stop, [])

/-- What a history leads to, and what is sent after each event. -/
def handleAll (server : Server σ) : List Event → Server σ × List Bytes
  | [] => (server, [])
  | event :: others =>
    let (server, reply) := server.handle event
    let (server, replies) := handleAll server others
    (server, reply :: replies)

end Server

end CommandLog
