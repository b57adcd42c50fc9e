import CommandLog.Server.Shared

/-!
# One connection

How a worker serves a connection while nobody else acts.  The bytes arrive in pieces.  Each piece is
added to what is left over from the ones before; the commands that are complete now are carried out
in order, and the reply of each is sent to its end before the next one is looked at.

Whatever fails, the connection is closed at once and nothing more is sent.  Unless the connection is
kept alive it is also closed after the first piece that completed a command, and what is left over
then is lost.
-/

namespace CommandLog

namespace Shared

variable {σ ρ : Type} [Storage σ ρ]

/-- Carries a command out and sends its reply.  The answer is what is sent and, if the connection
has to be given up, why. -/
def answer (shared : Shared σ) (command : Command) : Shared σ × Bytes × Option Stop :=
  match shared.execute command with
  | (shared, .error stop) => (shared, [], some stop)
  | (shared, .ok reader) =>
    match Storage.readToEnd shared.storage reader with
    | .ok (reply, _) => (shared, reply, none)
    | .error fault => (shared, [], some (.failed (.io fault)))

/-- Answers commands in order, up to the first that makes the connection be given up. -/
def answerAll (shared : Shared σ) : List Command → Shared σ × Bytes × Option Stop
  | [] => (shared, [], none)
  | command :: others =>
    match shared.answer command with
    | (shared, reply, some stop) => (shared, reply, some stop)
    | (shared, reply, none) =>
      let (shared, replies, stop) := shared.answerAll others
      (shared, reply ++ replies, stop)

end Shared

/-- A connection as its worker sees it. -/
structure Session where
  buffer : LineBuffer
  isOpen : Bool

namespace Session

variable {σ ρ : Type} [Storage σ ρ]

/-- A connection that was just accepted. -/
def start : Session := ⟨.empty, true⟩

/-- The connection is closed. -/
def close (session : Session) : Session := { session with isOpen := false }

/-- Receives one piece and answers the commands that are complete now.  The answer is what is sent.
A closed connection receives nothing. -/
def receive (keepAlive : Bool) (shared : Shared σ) (session : Session) (piece : Bytes) :
    Shared σ × Session × Bytes :=
  if !session.isOpen then (shared, session, [])
  else
    match (session.buffer.feed piece).drain with
    | ([], buffer) => (shared, { session with buffer }, [])
    | (commands, buffer) =>
      let (shared, reply, stop) := shared.answerAll commands
      (shared, ⟨buffer, keepAlive && stop.isNone⟩, reply)

/-- Receives pieces one after the other. -/
def receiveAll (keepAlive : Bool) (shared : Shared σ) (session : Session) :
    List Bytes → Shared σ × Session × Bytes
  | [] => (shared, session, [])
  | piece :: others =>
    let (shared, session, reply) := receive keepAlive shared session piece
    let (shared, session, replies) := receiveAll keepAlive shared session others
    (shared, session, reply ++ replies)

end Session

end CommandLog
