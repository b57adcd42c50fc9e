import CommandLog.Network
import CommandLog.Server

/-!
# The client

Each request of a client uses a connection of its own: the bytes are sent, and then everything is
read that the server sends until it closes the connection.

`Client.textLine` and `Request.seekLine` are the bytes of the two kinds of requests.
-/

namespace CommandLog

namespace Client

variable {σ ρ : Type} [Storage σ ρ]

/-- The bytes that ask for a text to be stored: the text, with a newline unless it ends in one. -/
def textLine (text : String) : Bytes :=
  let data := Utf8.encode text
  if data.getLast? = some newline then data else data ++ [newline]

/-- Sends bytes over a new connection to the server's address and collects the reply: all that the
server sends in answer.  Nothing else is ever sent over that connection. -/
def request (network : Network) (address : Address) (server : Server σ) (data : Bytes) :
    Server σ × Except Failure Bytes :=
  match network.connect address server.isServing with
  | .error fault => (server, .error (.io fault))
  | .ok () =>
    let (shared, _, reply) :=
      Session.start.receiveAll server.settings.keepAlive server.shared
        (data.pieces (receiveRoom - 1))
    ({ server with shared }, .ok reply)

/-- Asks for a text to be stored.  The reply is the whole log. -/
def send (network : Network) (address : Address) (server : Server σ) (text : String) :
    Server σ × Except Failure Bytes :=
  request network address server (textLine text)

/-- Asks for the log from a command and an offset on.  An empty reply means that the server rejected
the place. -/
def seekTo (network : Network) (address : Address) (server : Server σ) (command offset : UInt32) :
    Server σ × Except Failure Bytes :=
  request network address server (Request.seekLine command offset)

end Client

end CommandLog
