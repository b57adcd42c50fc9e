import CommandLog.Server.Run
import Mathlib.Tactic.Common

/-!
# What a step of a run can do

The steps of a run change few things each.  `Run.step_cases` says all that a step can do: the main
thread goes on, in one of the ways that `Run.Turns` lists, or accepts a connection, or joins workers,
or closes the storage; a timestamp is appended; or one connection makes a move, one of those that
`Connection.Moves` lists, and the storage changes by the lock section of the command that is carried
out with it.

What holds along a run is stated on what its steps carry out and receive: `Run.executed` and
`Step.received` for one step, `Run.executedAll` and `Step.receivedAll` for a history.
`connection_of_step` and `shared_of_step` say what a step does to one connection, whichever
connection the step belongs to, and to the storage behind its lock.
-/

namespace CommandLog

namespace Connection

variable {ρ : Type}

/-- A worker that has ended is joined. -/
def joinEnded (connection : Connection ρ) : Connection ρ :=
  if connection.hasEnded then { connection with joined := true } else connection

lemma hasEnded_joinEnded (connection : Connection ρ) :
    connection.joinEnded.hasEnded = connection.hasEnded := by
  unfold joinEnded
  split <;> rfl

lemma joined_joinEnded (connection : Connection ρ) :
    connection.joinEnded.joined = (connection.hasEnded || connection.joined) := by
  unfold joinEnded
  cases connection.hasEnded <;> rfl

/-- What a step can do to a connection, with the commands that it carries out for the connection,
the bytes that the connection receives and those that are read for its reply, where no bytes at all
say that the reply is at its end. -/
inductive Moves (keepAlive : Bool) :
    Connection ρ → List Command → Bytes → Option Bytes → Connection ρ → Prop where
  | stay (connection : Connection ρ) : Moves keepAlive connection [] [] none connection
  | join {connection : Connection ρ} (h : connection.hasEnded = true) :
    Moves keepAlive connection [] [] none { connection with joined := true }
  | receive {connection : Connection ρ} (piece : Bytes) (h : connection.phase = .receiving) :
    Moves keepAlive connection [] piece none (connection.receive piece)
  | execute {connection : Connection ρ} {command : Command} {waiting : List Command} (reader : ρ)
    (h : connection.phase = .executing command waiting) :
    Moves keepAlive connection [command] [] none
      { connection with phase := .replying reader waiting }
  | refuse {connection : Connection ρ} {command : Command} {waiting : List Command} (stop : Stop)
    (h : connection.phase = .executing command waiting) :
    Moves keepAlive connection [command] [] none (connection.stopWith (some stop))
  | send {connection : Connection ρ} {reader : ρ} {waiting : List Command} (moved : ρ)
    {piece : Bytes} (hpiece : piece ≠ []) (h : connection.phase = .replying reader waiting) :
    Moves keepAlive connection [] [] (some piece)
      { connection with phase := .replying moved waiting, sent := connection.sent ++ piece }
  | finishReply {connection : Connection ρ} {reader : ρ} {waiting : List Command}
    (h : connection.phase = .replying reader waiting) :
    Moves keepAlive connection [] [] (some []) (connection.finishReply keepAlive waiting)
  | hangUp {connection : Connection ρ} (h : connection.phase = .receiving) :
    Moves keepAlive connection [] [] none (connection.stopWith none)
  | giveUp {connection : Connection ρ} (stop : Stop) (hopen : connection.hasEnded = false)
    (h : ∀ command waiting, connection.phase ≠ .executing command waiting) :
    Moves keepAlive connection [] [] none (connection.stopWith (some stop))

lemma exists_stop_of_hasEnded {connection : Connection ρ} (h : connection.hasEnded = true) :
    ∃ stop, connection.phase = .ended stop := by
  unfold hasEnded at h
  cases hphase : connection.phase with
  | ended stop => exact ⟨stop, rfl⟩
  | _ => simp [hphase] at h

/-- A worker that has ended can only be joined. -/
lemma Moves.of_hasEnded {keepAlive : Bool} {connection after : Connection ρ}
    {commands : List Command} {piece : Bytes} {read : Option Bytes}
    (h : connection.Moves keepAlive commands piece read after)
    (hended : connection.hasEnded = true) :
    commands = [] ∧ piece = [] ∧ ∃ joined, after = { connection with joined } := by
  obtain ⟨_, hphase⟩ := exists_stop_of_hasEnded hended
  cases h with
  | stay => exact ⟨rfl, rfl, connection.joined, rfl⟩
  | join h => exact ⟨rfl, rfl, true, rfl⟩
  | receive piece h | execute reader h | refuse stop h | send moved hpiece h | finishReply h
  | hangUp h =>
    rw [hphase] at h
    cases h
  | giveUp stop hopen h => exact absurd (hended.symm.trans hopen) (by decide)

end Connection

namespace Run

/-! ## What steps carry out and receive -/

/-- The connection that a step belongs to. -/
def Step.connection? : Step → Option Nat
  | .join number | .receive number _ | .execute number | .send number _ | .finish number
  | .abort number | .idle number => some number
  | _ => none

/-- The bytes that a connection receives in a step. -/
def Step.received (number : Nat) : Step → Bytes
  | .receive other piece => if other = number then piece else []
  | _ => []

/-- The bytes that a connection receives in a history. -/
def Step.receivedAll (number : Nat) (steps : List Step) : Bytes :=
  steps.flatMap (Step.received number)

section Executed

variable {σ ρ : Type}

/-- The command that a step carries out, with the connection that sent it. -/
def executed (run : Run σ ρ) : Step → List (Nat × Command)
  | .execute number =>
    match run.connections[number]? with
    | some connection =>
      match connection.phase with
      | .executing command _ => [(number, command)]
      | _ => []
    | none => []
  | _ => []

/-- The commands among these that a connection sent. -/
def commandsOf (number : Nat) (executed : List (Nat × Command)) : List Command :=
  executed.filterMap fun (other, command) => if other = number then some command else none

lemma commandsOf_append (number : Nat) (executed others : List (Nat × Command)) :
    commandsOf number (executed ++ others) =
      commandsOf number executed ++ commandsOf number others :=
  List.filterMap_append

lemma commandsOf_of_ne {number other : Nat} (h : other ≠ number) (command : Command) :
    commandsOf number [(other, command)] = [] := by
  simp [commandsOf, h]

lemma commandsOf_self (number : Nat) (command : Command) :
    commandsOf number [(number, command)] = [command] := by
  simp [commandsOf]

end Executed

variable {σ ρ : Type} [Storage σ ρ]

/-- The commands that a history carries out, in this order, with the connections that sent them. -/
def executedAll (run : Run σ ρ) : List Step → List (Nat × Command)
  | [] => []
  | step :: others =>
    match run.step? step with
    | some next => run.executed step ++ next.executedAll others
    | none => []

/-- The bytes that a step reads for the reply of a connection, if it reads any.  No bytes at all say
that the reply is at its end. -/
def readFor (run : Run σ ρ) (number : Nat) : Step → Option Bytes
  | .send other room =>
    if other = number then
      match run.connections[number]? with
      | some connection =>
        match connection.phase with
        | .replying reader _ =>
          match Storage.read run.shared.storage reader room with
          | .ok (piece, _) => some piece
          | .error _ => none
        | _ => none
      | none => none
    else none
  | _ => none

end Run

/-- Carries commands out one after the other, each in its lock section. -/
def Shared.executeAll {σ ρ : Type} [Storage σ ρ] (shared : Shared σ) (commands : List Command) :
    Shared σ :=
  commands.foldl (fun shared command => (shared.execute command).1) shared

namespace Run

variable {σ ρ : Type} [Storage σ ρ] {run next : Run σ ρ} {step : Step}

/-! ## One place -/

section Place

omit [Storage σ ρ]

variable {number : Nat} {connection : Connection ρ}

/-- A connection that was put in a place is there. -/
lemma getElem?_setConnection (hconnection : run.connections[number]? = some connection)
    (after : Connection ρ) :
    (run.setConnection number after).connections[number]? = some after :=
  List.getElem?_set_self (List.getElem?_eq_some_iff.1 hconnection).1

lemma setConnection_self (hconnection : run.connections[number]? = some connection) :
    run.setConnection number connection = run := by
  obtain ⟨_, heq⟩ := List.getElem?_eq_some_iff.1 hconnection
  rw [setConnection, ← heq, List.set_getElem_self]

/-- What was put in a place last is there, whatever was put there before. -/
lemma setConnection_setConnection (run : Run σ ρ) (number : Nat) (connection after : Connection ρ) :
    (run.setConnection number connection).setConnection number after =
      run.setConnection number after := by
  simp only [setConnection, List.set_set]

end Place

/-! ## One step -/

/-- A connection has no part in the steps that belong to others. -/
lemma nothing_of_connection?_ne (run : Run σ ρ) {number : Nat}
    (h : step.connection? ≠ some number) :
    commandsOf number (run.executed step) = [] ∧ step.received number = [] ∧
      run.readFor number step = none := by
  cases step with
  | execute other =>
    have hne : other ≠ number := fun heq => h (congrArg some heq)
    refine ⟨?_, rfl, rfl⟩
    simp only [executed]
    split
    · split
      · exact commandsOf_of_ne hne _
      · rfl
    · rfl
  | receive other piece =>
    have hne : other ≠ number := fun heq => h (congrArg some heq)
    exact ⟨rfl, if_neg hne, rfl⟩
  | send other room =>
    have hne : other ≠ number := fun heq => h (congrArg some heq)
    exact ⟨rfl, rfl, if_neg hne⟩
  | _ => exact ⟨rfl, rfl, rfl⟩

omit [Storage σ ρ] in
lemma executed_of_connection? (run : Run σ ρ) (h : step.connection? = none) :
    run.executed step = [] := by
  cases step <;> first | rfl | simp [Step.connection?] at h

omit [Storage σ ρ] in
/-- A step carries out no command, or one that a worker is at. -/
lemma executed_cases (run : Run σ ρ) (step : Step) :
    run.executed step = [] ∨
      ∃ number connection command waiting, step = .execute number ∧
        run.connections[number]? = some connection ∧
        connection.phase = .executing command waiting ∧
        run.executed step = [(number, command)] := by
  cases step with
  | execute number =>
    rw [executed]
    split
    · next connection hconnection =>
      split
      · next command waiting hphase =>
        exact .inr ⟨number, connection, command, waiting, rfl, hconnection, hphase, rfl⟩
      · exact .inl rfl
    · exact .inl rfl
  | _ => exact .inl rfl

/-- A worker that has a command to carry out can do so. -/
lemma step?_of_executing {number : Nat} {connection : Connection ρ} {command : Command}
    {waiting : List Command} (hconnection : run.connections[number]? = some connection)
    (hphase : connection.phase = .executing command waiting) :
    run.step? (.execute number) = some (run.executeOn number connection command waiting) := by
  simp only [step?, hconnection, Option.bind_eq_bind, Option.bind_some, hphase]

/-- With a command that fails and leaves the storage and the lock as they are, it gives the connection
up and does nothing else. -/
lemma step?_of_refused {number : Nat} {connection : Connection ρ} {command : Command}
    {waiting : List Command} {stop : Stop} (hconnection : run.connections[number]? = some connection)
    (hphase : connection.phase = .executing command waiting)
    (hrefused : run.shared.execute command = (run.shared, .error stop)) :
    run.step? (.execute number) =
      some (run.setConnection number (connection.stopWith (some stop))) := by
  rw [step?_of_executing hconnection hphase, executeOn, hrefused]

/-- What a worker's step does: its connection makes a move, and the storage changes by the command
that is carried out. -/
def Works (run : Run σ ρ) (step : Step) (next : Run σ ρ) : Prop :=
  ∃ number before after, step.connection? = some number ∧ run.connections[number]? = some before ∧
    before.Moves run.settings.keepAlive (commandsOf number (run.executed step))
      (step.received number) (run.readFor number step) after ∧
    next = { run with
      shared := run.shared.executeAll ((run.executed step).map Prod.snd)
      connections := run.connections.set number after }

/-- A move with which no command is carried out. -/
lemma works_of_moves {number : Nat} {before after : Connection ρ}
    (hnumber : step.connection? = some number) (hbefore : run.connections[number]? = some before)
    (hexecuted : run.executed step = [])
    (hmoves : before.Moves run.settings.keepAlive [] (step.received number)
      (run.readFor number step) after)
    (hnext : next = run.setConnection number after) : run.Works step next := by
  refine ⟨number, before, after, hnumber, hbefore, ?_, ?_⟩
  · rw [hexecuted]
    exact hmoves
  · rw [hexecuted]
    exact hnext

lemma works_of_executing {number : Nat} {before : Connection ρ} {command : Command}
    {waiting : List Command} (hbefore : run.connections[number]? = some before)
    (hphase : before.phase = .executing command waiting)
    (hnext : run.executeOn number before command waiting = next) :
    run.Works (.execute number) next := by
  have hexecuted : run.executed (.execute number) = [(number, command)] := by
    simp only [executed, hbefore, hphase]
  unfold executeOn at hnext
  rcases hresult : run.shared.execute command with ⟨shared, stop | reader⟩
  · refine ⟨number, before, before.stopWith (some stop), rfl, hbefore, ?_, ?_⟩
    · rw [hexecuted, commandsOf_self]
      exact .refuse stop hphase
    · rw [hresult] at hnext
      rw [hexecuted, ← hnext]
      simp [Shared.executeAll, hresult, setConnection]
  · refine ⟨number, before, { before with phase := .replying reader waiting }, rfl, hbefore, ?_, ?_⟩
    · rw [hexecuted, commandsOf_self]
      exact .execute reader hphase
    · rw [hresult] at hnext
      rw [hexecuted, ← hnext]
      simp [Shared.executeAll, hresult, setConnection]

/-- To send some more of a reply is a move, whichever way it ends. -/
lemma works_of_replying {number room : Nat} {before : Connection ρ} {reader : ρ}
    {waiting : List Command} (hbefore : run.connections[number]? = some before)
    (hphase : before.phase = .replying reader waiting)
    (hnext : run.sendOn number before reader waiting room = next) :
    run.Works (.send number room) next := by
  have hread : run.readFor number (.send number room) =
      match Storage.read run.shared.storage reader room with
      | .ok (piece, _) => some piece
      | .error _ => none := by
    simp only [readFor, hbefore, hphase, if_true]
  unfold sendOn at hnext
  rcases hresult : Storage.read run.shared.storage reader room with fault | ⟨piece, moved⟩
  · rw [hresult] at hnext hread
    refine works_of_moves rfl hbefore rfl ?_ hnext.symm
    rw [hread]
    refine .giveUp _ ?_ ?_
    · rw [Connection.hasEnded, hphase]
    · intro command others
      rw [hphase]
      simp
  · rw [hresult] at hnext hread
    cases piece with
    | nil =>
      refine works_of_moves rfl hbefore rfl ?_ hnext.symm
      rw [hread]
      exact .finishReply hphase
    | cons byte others =>
      refine works_of_moves rfl hbefore rfl ?_ hnext.symm
      rw [hread]
      exact .send moved (List.cons_ne_nil byte others) hphase

/-- What the main thread does without a look at the storage or at single connections, and that the
server is asked to stop. -/
inductive Turns (run : Run σ ρ) : Step → Run σ ρ → Prop where
  | trigger : Turns run .trigger { run with exiting := true }
  | bind (h : run.stage = .binding) : Turns run .bind { run with stage := .settingUp }
  | bindFails (fault : Fault) (h : run.stage = .binding) :
    Turns run (.bindFails fault)
      { run with stage := .closing false, outcome := .error (.io fault) }
  | setUp (stamping : Bool) (h : run.stage = .settingUp)
    (hstamping : stamping = true →
      run.stamping = true ∨ Storage.wantsTimestamps run.shared.storage = true) :
    Turns run .setUp { run with stage := .looking, stamping }
  | setUpPoisoned (h : run.stage = .settingUp) (hpoisoned : run.shared.poisoned = true) :
    Turns run .setUp { run with stage := .closing false, outcome := .error .lockPoisoned }
  | setUpFails (failure : Failure) (h : run.stage = .settingUp) :
    Turns run (.setUpFails failure)
      { run with stage := .closing false, outcome := .error failure }
  | look (h : run.stage = .looking) :
    Turns run .look { run with stage := if run.exiting then .joining else .accepting }
  | acceptFails (fault : Fault) (h : run.stage = .accepting) :
    Turns run (.acceptFails fault)
      { run with
        stage := .joining
        outcome := if run.exiting then run.outcome else .error (.io fault) }
  | registerFails (fault : Fault) (h : run.stage = .accepting) :
    Turns run (.registerFails fault) { run with stage := .joining, outcome := .error (.io fault) }
  | interrupted (h : run.stage = .accepting) (hexiting : run.exiting = false) :
    Turns run .interrupted { run with stage := .looking }
  | stopTimestamps (h : run.stage = .joining)
    (hjoined : ∀ connection ∈ run.connections, connection.joined = true) :
    Turns run .stopTimestamps { run with stage := .closing true, stamping := false }

/-- In a turn of the main thread, the connections and the storage stay as they are. -/
lemma Turns.frame (h : run.Turns step next) :
    step.connection? = none ∧ ∃ stage exiting stamping outcome,
      (stamping = true →
        run.stamping = true ∨ Storage.wantsTimestamps run.shared.storage = true) ∧
      next = { run with stage, exiting, stamping, outcome } := by
  cases h with
  | setUp stamping h hstamping => exact ⟨rfl, _, _, _, _, hstamping, rfl⟩
  | stopTimestamps h hjoined =>
    exact ⟨rfl, _, _, _, _, fun hstamping => absurd hstamping Bool.false_ne_true, rfl⟩
  | _ => exact ⟨rfl, _, _, _, _, .inl, rfl⟩

/-- All that a step can do. -/
lemma step_cases (h : run.step? step = some next) :
    run.Turns step next ∨
    (step = .accept ∧ run.stage = .accepting ∧
      next = { run with stage := .reaping, connections := run.connections ++ [.accepted] }) ∨
    (step = .reap ∧ run.stage = .reaping ∧
      next = { run with
        stage := .looking, connections := run.connections.map Connection.joinEnded }) ∨
    (∃ served, step = .close ∧ run.stage = .closing served ∧
      next = { run with
        shared := { run.shared with storage := (Storage.close run.shared.storage).1 }
        closings := run.closings + 1
        stage :=
          .returned (resultOf served run.outcome (Storage.close run.shared.storage).2) }) ∨
    (∃ entry stamping, step = .stamp entry ∧ run.stamping = true ∧
      next = { run with shared := (run.shared.append entry.bytes).1, stamping }) ∨
    run.Works step next := by
  cases step with
  -- the steps of the main thread
  | trigger =>
    left
    cases h
    exact .trigger
  | bind =>
    left
    simp only [step?] at h
    split at h
    · next hstage =>
      cases h
      exact .bind hstage
    · cases h
  | bindFails fault =>
    left
    simp only [step?] at h
    split at h
    · next hstage =>
      cases h
      exact .bindFails fault hstage
    · cases h
  | setUp =>
    left
    simp only [step?] at h
    split at h
    · next hstage =>
      split at h
      · cases h
        exact .setUp _ hstage .inl
      · split at h
        · next hpoisoned =>
          cases h
          exact .setUpPoisoned hstage hpoisoned
        · cases h
          exact .setUp _ hstage .inr
    · cases h
  | setUpFails failure =>
    left
    simp only [step?] at h
    split at h
    · next hstage =>
      cases h
      exact .setUpFails failure hstage
    · cases h
  | look =>
    left
    simp only [step?] at h
    split at h
    · next hstage =>
      cases h
      exact .look hstage
    · cases h
  | acceptFails fault =>
    left
    simp only [step?] at h
    split at h
    · next hstage =>
      have hturns := Turns.acceptFails fault hstage
      split at h
      · next hexiting =>
        cases h
        rw [if_pos hexiting] at hturns
        exact hturns
      · next hexiting =>
        cases h
        rw [if_neg hexiting] at hturns
        exact hturns
    · cases h
  | registerFails fault =>
    left
    simp only [step?] at h
    split at h
    · next hstage =>
      cases h
      exact .registerFails fault hstage
    · cases h
  | interrupted =>
    left
    simp only [step?] at h
    split at h
    · next hstage =>
      split at h
      · cases h
      · next hexiting =>
        cases h
        exact .interrupted hstage (Bool.eq_false_iff.2 hexiting)
    · cases h
  | stopTimestamps =>
    left
    simp only [step?] at h
    split at h
    · next hstage =>
      split at h
      · next hjoined =>
        cases h
        exact .stopTimestamps hstage (List.all_eq_true.1 hjoined)
      · cases h
    · cases h
  | accept =>
    right; left
    simp only [step?] at h
    split at h
    · next hstage =>
      cases h
      exact ⟨rfl, hstage, rfl⟩
    · cases h
  | reap =>
    right; right; left
    simp only [step?] at h
    split at h
    · next hstage =>
      cases h
      exact ⟨rfl, hstage, rfl⟩
    · cases h
  | close =>
    right; right; right; left
    simp only [step?] at h
    split at h
    · next served hstage =>
      cases h
      exact ⟨served, rfl, hstage, rfl⟩
    · cases h
  | stamp entry =>
    right; right; right; right; left
    simp only [step?] at h
    split at h
    · next hstamping =>
      rcases happend : run.shared.append entry.bytes with ⟨shared, outcome⟩
      rw [happend] at h
      split at h
      · next hresult =>
        cases hresult
        cases h
        exact ⟨entry, false, rfl, hstamping, by rw [happend]⟩
      · next hresult =>
        cases hresult
        cases h
        exact ⟨entry, run.stamping, rfl, hstamping, by rw [happend]⟩
    · cases h
  -- from here on, the steps of the workers
  | join number =>
    right; right; right; right; right
    simp only [step?] at h
    split at h
    · obtain ⟨connection, hconnection, h⟩ := Option.bind_eq_some_iff.1 h
      split at h
      · next hended =>
        simp only [Bool.and_eq_true] at hended
        cases h
        exact works_of_moves rfl hconnection rfl (.join hended.1) rfl
      · cases h
    · cases h
  | receive number piece =>
    right; right; right; right; right
    obtain ⟨connection, hconnection, h⟩ := Option.bind_eq_some_iff.1 h
    split at h
    · next hphase =>
      split at h
      · cases h
      · cases h
        have hreceived : (Step.receive number piece).received number = piece := if_pos rfl
        refine works_of_moves rfl hconnection rfl ?_ rfl
        rw [hreceived]
        exact .receive piece hphase
    · cases h
  | execute number =>
    right; right; right; right; right
    obtain ⟨connection, hconnection, h⟩ := Option.bind_eq_some_iff.1 h
    split at h
    · next command waiting hphase =>
      exact works_of_executing hconnection hphase (Option.some.inj h)
    · cases h
  | send number room =>
    right; right; right; right; right
    obtain ⟨connection, hconnection, h⟩ := Option.bind_eq_some_iff.1 h
    split at h
    · next reader waiting hphase =>
      split at h
      · cases h
      · exact works_of_replying hconnection hphase (Option.some.inj h)
    · cases h
  | finish number =>
    right; right; right; right; right
    obtain ⟨connection, hconnection, h⟩ := Option.bind_eq_some_iff.1 h
    split at h
    · next hphase =>
      cases h
      exact works_of_moves rfl hconnection rfl (.hangUp hphase) rfl
    · cases h
  | abort number =>
    right; right; right; right; right
    obtain ⟨connection, hconnection, h⟩ := Option.bind_eq_some_iff.1 h
    split at h
    · next hphase =>
      cases h
      refine works_of_moves rfl hconnection rfl (.giveUp _ ?_ ?_) rfl
      · rw [Connection.hasEnded, hphase]
      · intro command others
        rw [hphase]
        simp
    · next hphase =>
      cases h
      refine works_of_moves rfl hconnection rfl (.giveUp _ ?_ ?_) rfl
      · rw [Connection.hasEnded, hphase]
      · intro command others
        rw [hphase]
        simp
    · cases h
  | idle number =>
    right; right; right; right; right
    obtain ⟨connection, hconnection, h⟩ := Option.bind_eq_some_iff.1 h
    split at h
    · next hphase =>
      split at h
      · cases h
        exact works_of_moves rfl hconnection rfl (.hangUp hphase) rfl
      · cases h
    · cases h

/-- What a step does to one connection, whichever connection it belongs to. -/
lemma connection_of_step (h : run.step? step = some next) {number : Nat} {before : Connection ρ}
    (hbefore : run.connections[number]? = some before) :
    ∃ after, next.connections[number]? = some after ∧
      before.Moves run.settings.keepAlive (commandsOf number (run.executed step))
        (step.received number) (run.readFor number step) after := by
  have hstay : step.connection? ≠ some number →
      before.Moves run.settings.keepAlive (commandsOf number (run.executed step))
        (step.received number) (run.readFor number step) before := by
    intro hne
    obtain ⟨hexecuted, hreceived, hread⟩ := run.nothing_of_connection?_ne hne
    rw [hexecuted, hreceived, hread]
    exact .stay before
  have hmain : step.connection? = none → step.connection? ≠ some number := by
    intro hnone
    rw [hnone]
    exact Option.some_ne_none number |>.symm
  rcases step_cases h with hturns | ⟨rfl, -, rfl⟩ | ⟨rfl, -, rfl⟩ | ⟨_, rfl, -, rfl⟩ |
    ⟨_, _, rfl, -, rfl⟩ | ⟨worker, there, after, hworker, hthere, hmoves, rfl⟩
  · obtain ⟨hnone, _, _, _, _, -, rfl⟩ := hturns.frame
    exact ⟨before, hbefore, hstay (hmain hnone)⟩
  · refine ⟨before, ?_, hstay (hmain rfl)⟩
    have hlt := (List.getElem?_eq_some_iff.1 hbefore).1
    rw [List.getElem?_append_left hlt, hbefore]
  · refine ⟨before.joinEnded, by rw [List.getElem?_map, hbefore]; rfl, ?_⟩
    unfold Connection.joinEnded
    split
    · next hended => exact .join hended
    · exact hstay (hmain rfl)
  · exact ⟨before, hbefore, hstay (hmain rfl)⟩
  · exact ⟨before, hbefore, hstay (hmain rfl)⟩
  · by_cases heq : worker = number
    · subst heq
      rw [hthere] at hbefore
      cases hbefore
      have hlt := (List.getElem?_eq_some_iff.1 hthere).1
      exact ⟨after, List.getElem?_set_self hlt, hmoves⟩
    · refine ⟨before, by rw [List.getElem?_set_ne heq, hbefore], hstay ?_⟩
      rw [hworker]
      exact fun heq' => heq (Option.some.inj heq')

/-- A connection that is not there yet sends nothing, and begins as one that was just accepted. -/
lemma new_connection_of_step (h : run.step? step = some next) {number : Nat}
    (hnone : run.connections[number]? = none) :
    commandsOf number (run.executed step) = [] ∧ step.received number = [] ∧
      run.readFor number step = none ∧
      ∀ after, next.connections[number]? = some after → after = .accepted := by
  have hquiet : step.connection? = none → step.connection? ≠ some number := by
    intro hconnection
    rw [hconnection]
    exact Option.some_ne_none number |>.symm
  have habsent : ∀ {after : Connection ρ}, run.connections[number]? = some after →
      after = .accepted := by
    intro after hafter
    rw [hnone] at hafter
    cases hafter
  suffices hsuffices : step.connection? ≠ some number ∧
      ∀ after, next.connections[number]? = some after → after = .accepted by
    obtain ⟨hne, hnew⟩ := hsuffices
    obtain ⟨hexecuted, hreceived, hread⟩ := run.nothing_of_connection?_ne hne
    exact ⟨hexecuted, hreceived, hread, hnew⟩
  rcases step_cases h with hturns | ⟨rfl, -, rfl⟩ | ⟨rfl, -, rfl⟩ | ⟨_, rfl, -, rfl⟩ |
    ⟨_, _, rfl, -, rfl⟩ | ⟨worker, there, _, hworker, hthere, -, rfl⟩
  · obtain ⟨hconnection, _, _, _, _, -, rfl⟩ := hturns.frame
    exact ⟨hquiet hconnection, fun _ => habsent⟩
  · refine ⟨hquiet rfl, ?_⟩
    intro after hafter
    rw [List.getElem?_append_right (List.getElem?_eq_none_iff.1 hnone)] at hafter
    exact List.mem_singleton.1 (List.mem_of_getElem? hafter)
  · refine ⟨hquiet rfl, ?_⟩
    intro after hafter
    rw [List.getElem?_map, hnone] at hafter
    cases hafter
  · exact ⟨hquiet rfl, fun _ => habsent⟩
  · exact ⟨hquiet rfl, fun _ => habsent⟩
  · have hne : worker ≠ number := by
      rintro rfl
      rw [hnone] at hthere
      cases hthere
    refine ⟨?_, ?_⟩
    · rw [hworker]
      exact fun heq => hne (Option.some.inj heq)
    · intro after hafter
      rw [List.getElem?_set_ne hne] at hafter
      exact habsent hafter

/-- The settings stay as they are. -/
lemma settings_of_step (h : run.step? step = some next) : next.settings = run.settings := by
  rcases step_cases h with hturns | ⟨-, -, rfl⟩ | ⟨-, -, rfl⟩ | ⟨_, -, -, rfl⟩ |
    ⟨_, _, -, -, rfl⟩ | ⟨_, _, _, -, -, -, rfl⟩
  · obtain ⟨-, _, _, _, _, -, rfl⟩ := hturns.frame
    rfl
  all_goals rfl

/-- Timestamps begin only for a storage that wants them. -/
lemma stamping_of_step (h : run.step? step = some next) (hstamping : run.stamping = false)
    (hwants : Storage.wantsTimestamps run.shared.storage = false) : next.stamping = false := by
  rcases step_cases h with hturns | ⟨-, -, rfl⟩ | ⟨-, -, rfl⟩ | ⟨_, -, -, rfl⟩ |
    ⟨_, _, -, hstamps, -⟩ | ⟨_, _, _, -, -, -, rfl⟩
  · obtain ⟨-, _, _, stamping, _, hstamps, rfl⟩ := hturns.frame
    apply Bool.eq_false_iff.2
    intro hbegun
    rcases hstamps hbegun with hstamps | hstamps
    · exact Bool.eq_false_iff.1 hstamping hstamps
    · exact Bool.eq_false_iff.1 hwants hstamps
  · exact hstamping
  · exact hstamping
  · exact hstamping
  · exact absurd hstamps (Bool.eq_false_iff.1 hstamping)
  · exact hstamping

/-- Apart from timestamps, the storage behind its lock changes by the closing, and by the commands
that are carried out. -/
lemma shared_of_step (h : run.step? step = some next) (hstamping : run.stamping = false) :
    (step = .close ∧
      next.shared =
        { run.shared with storage := (Storage.close run.shared.storage).1 }) ∨
    next.shared = run.shared.executeAll ((run.executed step).map Prod.snd) := by
  rcases step_cases h with hturns | ⟨rfl, -, rfl⟩ | ⟨rfl, -, rfl⟩ | ⟨_, rfl, -, rfl⟩ |
    ⟨_, _, -, hstamps, -⟩ | ⟨_, _, _, -, -, -, rfl⟩
  · obtain ⟨hconnection, _, _, _, _, -, rfl⟩ := hturns.frame
    right
    rw [run.executed_of_connection? hconnection]
    rfl
  · exact .inr rfl
  · exact .inr rfl
  · exact .inl ⟨rfl, rfl⟩
  · exact absurd hstamps (Bool.eq_false_iff.1 hstamping)
  · exact .inr rfl

/-! ## Histories -/

lemma stepAll?_cons {others : List Step} {last : Run σ ρ}
    (h : run.stepAll? (step :: others) = some last) :
    ∃ next, run.step? step = some next ∧ next.stepAll? others = some last ∧
      run.executedAll (step :: others) = run.executed step ++ next.executedAll others := by
  obtain ⟨next, hnext, hlast⟩ := Option.bind_eq_some_iff.1 h
  refine ⟨next, hnext, hlast, ?_⟩
  rw [executedAll, hnext]

lemma stepAll?_append (run : Run σ ρ) (steps others : List Step) :
    run.stepAll? (steps ++ others) =
      (run.stepAll? steps).bind fun next => next.stepAll? others := by
  induction steps generalizing run with
  | nil => rfl
  | cons step steps ih =>
    simp only [List.cons_append, stepAll?, Option.bind_eq_bind, Option.bind_assoc, ih]

/-- What every step keeps, every history keeps. -/
lemma invariant_of_stepAll? {P : Run σ ρ → Prop} {steps : List Step} {last : Run σ ρ}
    (hkeep : ∀ {before taken after}, P before → before.step? taken = some after → P after)
    (hstart : P run) (h : run.stepAll? steps = some last) : P last := by
  induction steps generalizing run with
  | nil =>
    cases h
    exact hstart
  | cons step others ih =>
    obtain ⟨next, hstep, hlast, -⟩ := stepAll?_cons h
    exact ih (hkeep hstart hstep) hlast

/-- A worker that has ended carries nothing out any more and receives nothing, and it can only be
joined. -/
lemma stepAll?_of_hasEnded {steps : List Step} {last : Run σ ρ}
    (h : run.stepAll? steps = some last) {number : Nat} {connection : Connection ρ}
    (hconnection : run.connections[number]? = some connection)
    (hended : connection.hasEnded = true) :
    commandsOf number (run.executedAll steps) = [] ∧ Step.receivedAll number steps = [] ∧
      ∃ joined, last.connections[number]? = some { connection with joined } := by
  induction steps generalizing run connection with
  | nil =>
    cases h
    exact ⟨rfl, rfl, connection.joined, hconnection⟩
  | cons step others ih =>
    obtain ⟨next, hstep, hlast, hexecuted⟩ := stepAll?_cons h
    obtain ⟨_, hafter, hmoves⟩ := connection_of_step hstep hconnection
    obtain ⟨hcommands, hreceived, joined, rfl⟩ := hmoves.of_hasEnded hended
    obtain ⟨hlater, hlater', hlast⟩ := ih hlast hafter hended
    rw [hexecuted, commandsOf_append, hcommands, hlater, Step.receivedAll, List.flatMap_cons,
      hreceived]
    exact ⟨rfl, hlater', hlast⟩

/-- What is carried out for a connection that has ended, and what it receives, is nothing. -/
lemma nothing_of_hasEnded {steps : List Step} {last : Run σ ρ}
    (h : run.stepAll? steps = some last) {number : Nat} {connection : Connection ρ}
    (hconnection : run.connections[number]? = some connection)
    (hended : connection.hasEnded = true) :
    commandsOf number (run.executedAll steps) = [] ∧ Step.receivedAll number steps = [] :=
  have hnothing := stepAll?_of_hasEnded h hconnection hended
  ⟨hnothing.1, hnothing.2.1⟩

end Run

end CommandLog
