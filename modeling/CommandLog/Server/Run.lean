import CommandLog.Server

/-!
# A run of the server, step by step

While a `Server` is looked at between two things that happen to it, a `Run` is looked at between any
two of its atomic steps: the workers, the main thread that accepts connections, the thread that
writes timestamps and whoever asks the server to stop take turns in any order.

A worker's steps are to receive a piece, to carry the next command out in one lock section, and to
send some more bytes of a reply.  The main thread binds the address, gets ready, and then goes
round: it looks whether it is asked to stop, accepts a connection, and joins the workers that have
ended.  On its way out it joins the workers that are left, stops the timestamps and closes the
storage, in this order.

`Run.step?` is one such step; it is refused where it cannot be taken.
-/

namespace CommandLog

/-- What a worker is about to do.  Commands that are complete and not yet carried out are waiting in
order. -/
inductive WorkerPhase (ρ : Type) where
  | receiving
  | executing (command : Command) (waiting : List Command)
  | replying (reader : ρ) (waiting : List Command)
  /-- The connection is closed, for a reason if it was given up. -/
  | ended (stop : Option Stop)

/-- A connection, what its worker has received and sent, and whether the worker was joined. -/
structure Connection (ρ : Type) where
  buffer : LineBuffer
  phase : WorkerPhase ρ
  received : Bytes
  sent : Bytes
  joined : Bool

/-- Where the main thread is. -/
inductive Stage where
  | binding
  | settingUp
  /-- About to look whether the server is asked to stop. -/
  | looking
  | accepting
  /-- About to join the workers that have ended. -/
  | reaping
  /-- On the way out, until every worker is joined and the timestamps have stopped. -/
  | joining
  /-- About to close the storage.  Before anything was served, a failure of the closing is the one
  that is reported. -/
  | closing (served : Bool)
  | returned (result : Except Failure Unit)

/-- The state of a run. -/
structure Run (σ ρ : Type) where
  settings : Settings
  shared : Shared σ
  stage : Stage
  /-- Is the server asked to stop? -/
  exiting : Bool
  connections : List (Connection ρ)
  /-- Is the thread running that writes timestamps? -/
  stamping : Bool
  /-- How binding, getting ready or accepting ended. -/
  outcome : Except Failure Unit
  /-- How often the storage was closed. -/
  closings : Nat

namespace Connection

variable {ρ : Type}

/-- A connection that was just accepted. -/
def accepted : Connection ρ := ⟨.empty, .receiving, [], [], false⟩

/-- Has its worker ended? -/
def hasEnded (connection : Connection ρ) : Bool :=
  match connection.phase with
  | .ended _ => true
  | _ => false

/-- The worker gives the connection up. -/
def stopWith (connection : Connection ρ) (stop : Option Stop) : Connection ρ :=
  { connection with phase := .ended stop }

/-- A piece is received: the commands that are complete now are to be carried out. -/
def receive (connection : Connection ρ) (piece : Bytes) : Connection ρ :=
  let (commands, buffer) := (connection.buffer.feed piece).drain
  { connection with
    buffer
    received := connection.received ++ piece
    phase :=
      match commands with
      | [] => .receiving
      | command :: waiting => .executing command waiting }

/-- A reply is sent to its end.  Once nothing is waiting any more, the connection is kept or
closed. -/
def finishReply (keepAlive : Bool) (connection : Connection ρ) (waiting : List Command) :
    Connection ρ :=
  { connection with
    phase :=
      match waiting with
      | command :: waiting => .executing command waiting
      | [] => if keepAlive then .receiving else .ended none }

end Connection

namespace Run

/-- The steps of all participants. -/
inductive Step where
  /-- Somebody asks the server to stop. -/
  | trigger
  | bind
  | bindFails (fault : Fault)
  | setUp
  | setUpFails (failure : Failure)
  | look
  | accept
  | acceptFails (fault : Fault)
  /-- The accepted connection gets no worker. -/
  | registerFails (fault : Fault)
  /-- Accepting was interrupted and begins again. -/
  | interrupted
  | reap
  /-- The main thread joins one worker on its way out. -/
  | join (connection : Nat)
  /-- With every worker joined, it stops the thread that writes timestamps. -/
  | stopTimestamps
  | close
  | receive (connection : Nat) (piece : Bytes)
  | execute (connection : Nat)
  | send (connection room : Nat)
  /-- The client closes its sending side. -/
  | finish (connection : Nat)
  /-- The client resets the connection. -/
  | abort (connection : Nat)
  /-- A worker that waits for bytes sees that the server is asked to stop. -/
  | idle (connection : Nat)
  /-- A timestamp is appended. -/
  | stamp (entry : Command)

variable {σ ρ : Type} [Storage σ ρ]

/-- Before the address is bound. -/
def initial (settings : Settings) (storage : σ) : Run σ ρ :=
  { settings, shared := .ofStorage storage, stage := .binding, exiting := false
    connections := [], stamping := false, outcome := .ok (), closings := 0 }

/-- Puts a connection in the place of the one with its number. -/
def setConnection (run : Run σ ρ) (number : Nat) (connection : Connection ρ) : Run σ ρ :=
  { run with connections := run.connections.set number connection }

/-- The result of a run from the failure before the closing, if any, and that of the closing. -/
def resultOf (served : Bool) (outcome closed : Except Failure Unit) : Except Failure Unit :=
  match outcome, closed with
  | .ok (), closed => closed
  | .error failure, .ok () => .error failure
  | .error failure, .error closing => .error (if served then failure else closing)

/-- A connection that carries its next command out. -/
def executeOn (run : Run σ ρ) (number : Nat) (connection : Connection ρ) (command : Command)
    (waiting : List Command) : Run σ ρ :=
  match run.shared.execute command with
  | (shared, .ok reader) =>
    { run with shared }.setConnection number
      { connection with phase := .replying reader waiting }
  | (shared, .error stop) =>
    { run with shared }.setConnection number (connection.stopWith (some stop))

/-- A connection that sends at most `room` more bytes of a reply. -/
def sendOn (run : Run σ ρ) (number : Nat) (connection : Connection ρ) (reader : ρ)
    (waiting : List Command) (room : Nat) : Run σ ρ :=
  match Storage.read run.shared.storage reader room with
  | .error fault => run.setConnection number (connection.stopWith (some (.failed (.io fault))))
  | .ok ([], _) =>
    run.setConnection number (connection.finishReply run.settings.keepAlive waiting)
  | .ok (piece, reader) =>
    run.setConnection number
      { connection with phase := .replying reader waiting, sent := connection.sent ++ piece }

/-- One step, if it can be taken. -/
def step? (run : Run σ ρ) : Step → Option (Run σ ρ)
  | .trigger => some { run with exiting := true }
  | .bind =>
    match run.stage with
    | .binding => some { run with stage := .settingUp }
    | _ => none
  | .bindFails fault =>
    match run.stage with
    | .binding => some { run with stage := .closing false, outcome := .error (.io fault) }
    | _ => none
  | .setUp =>
    match run.stage with
    | .settingUp =>
      if run.settings.interval = 0 then some { run with stage := .looking }
      else if run.shared.poisoned then
        some { run with stage := .closing false, outcome := .error .lockPoisoned }
      else
        some { run with
          stage := .looking, stamping := Storage.wantsTimestamps run.shared.storage }
    | _ => none
  | .setUpFails failure =>
    match run.stage with
    | .settingUp => some { run with stage := .closing false, outcome := .error failure }
    | _ => none
  | .look =>
    match run.stage with
    | .looking => some { run with stage := if run.exiting then .joining else .accepting }
    | _ => none
  | .accept =>
    match run.stage with
    | .accepting =>
      some { run with stage := .reaping, connections := run.connections ++ [.accepted] }
    | _ => none
  | .acceptFails fault =>
    match run.stage with
    | .accepting =>
      if run.exiting then some { run with stage := .joining }
      else some { run with stage := .joining, outcome := .error (.io fault) }
    | _ => none
  | .registerFails fault =>
    match run.stage with
    | .accepting => some { run with stage := .joining, outcome := .error (.io fault) }
    | _ => none
  | .interrupted =>
    match run.stage with
    | .accepting => if run.exiting then none else some { run with stage := .looking }
    | _ => none
  | .reap =>
    match run.stage with
    | .reaping =>
      some { run with
        stage := .looking
        connections := run.connections.map fun connection =>
          if connection.hasEnded then { connection with joined := true } else connection }
    | _ => none
  | .join number => do
    match run.stage with
    | .joining =>
      let connection ← run.connections[number]?
      if connection.hasEnded && !connection.joined then
        some (run.setConnection number { connection with joined := true })
      else none
    | _ => none
  | .stopTimestamps =>
    match run.stage with
    | .joining =>
      if run.connections.all (·.joined) then
        some { run with stage := .closing true, stamping := false }
      else none
    | _ => none
  | .close =>
    match run.stage with
    | .closing served =>
      let (storage, closed) := Storage.close run.shared.storage
      some { run with
        shared := { run.shared with storage }
        closings := run.closings + 1
        stage := .returned (resultOf served run.outcome closed) }
    | _ => none
  | .receive number piece => do
    let connection ← run.connections[number]?
    match connection.phase with
    | .receiving => if piece = [] then none else run.setConnection number (connection.receive piece)
    | _ => none
  | .execute number => do
    let connection ← run.connections[number]?
    match connection.phase with
    | .executing command waiting => run.executeOn number connection command waiting
    | _ => none
  | .send number room => do
    let connection ← run.connections[number]?
    match connection.phase with
    | .replying reader waiting =>
      if room = 0 then none else run.sendOn number connection reader waiting room
    | _ => none
  | .finish number => do
    let connection ← run.connections[number]?
    match connection.phase with
    | .receiving => run.setConnection number (connection.stopWith none)
    | _ => none
  | .abort number => do
    let connection ← run.connections[number]?
    match connection.phase with
    | .receiving | .replying _ _ =>
      run.setConnection number (connection.stopWith (some (.failed (.io .connectionReset))))
    | _ => none
  | .idle number => do
    let connection ← run.connections[number]?
    match connection.phase with
    | .receiving =>
      if run.exiting then run.setConnection number (connection.stopWith none) else none
    | _ => none
  | .stamp entry =>
    if run.stamping then
      match run.shared.append entry.bytes with
      | (shared, .error .panicked) => some { run with shared, stamping := false }
      | (shared, _) => some { run with shared }
    else none

/-- The steps of a history, taken one after the other. -/
def stepAll? (run : Run σ ρ) : List Step → Option (Run σ ρ)
  | [] => some run
  | step :: others => do (← run.step? step).stepAll? others

/-- The runs that steps lead to from the beginning. -/
inductive Reachable (settings : Settings) (storage : σ) : Run σ ρ → Prop where
  | initial : Reachable settings storage (initial settings storage)
  | step {run next : Run σ ρ} (step : Step) :
    Reachable settings storage run → run.step? step = some next →
      Reachable settings storage next

end Run

end CommandLog
