import CommandLog.Proofs.Device.Written
import CommandLog.Proofs.Server.Steps

/-!
# Connections do not mix

A command may arrive in many pieces, and any number of connections send theirs at the same time.
Two buffers stand between them and the log of a device: each connection has one, and behind the lock
there is the one of the device itself, which all connections share.  The main statement
`device_keeps_connections_apart` says that nothing gets mixed up: after every history, the device
has nothing begun in its own buffer, its log is what it was at first with the commands stored since
at its end, as far as there is room, and the commands carried out for a connection are the first
lines of the stream of that connection, in order and each of them once.

There are two invariants.  `Connection.Accounts` ties a connection to its own stream: the lines of
the stream are the commands carried out so far and those that are waiting, and the buffer holds the
rest.  Every move keeps it (`Connection.Moves.accounts`).  `executeAll_device` is the other one: a
lock section writes a complete command or nothing, so that the device never has anything left over.
-/

namespace CommandLog

/-! ## A connection and its stream -/

section Accounts

variable {ρ : Type}

/-- The commands are those that a worker has still to carry out; once it has ended, it does not
matter which were left. -/
def WorkerPhase.Awaits : WorkerPhase ρ → List Command → Prop
  | .receiving, commands => commands = []
  | .executing command waiting, commands => commands = command :: waiting
  | .replying _ waiting, commands => commands = waiting
  | .ended _, _ => True

/-- Of the stream that a connection has received, the complete lines are the commands that were
carried out for it, followed by those that are waiting, and the rest is in its buffer. -/
def Connection.Accounts (connection : Connection ρ) (commands : List Command) (received : Bytes) :
    Prop :=
  ∃ waiting, connection.phase.Awaits waiting ∧
    Bytes.splitLines received =
      ((commands ++ waiting).map Command.bytes, connection.buffer.pending)

namespace Connection

variable {connection after : Connection ρ} {commands more : List Command} {received piece : Bytes}

lemma accounts_accepted : (accepted : Connection ρ).Accounts [] [] :=
  ⟨[], rfl, rfl⟩

/-- A connection that receives a piece goes on with the commands that the piece completes. -/
lemma Accounts.receive (h : connection.Accounts commands received)
    (hphase : connection.phase = .receiving) (piece : Bytes) :
    (connection.receive piece).Accounts commands (received ++ piece) := by
  obtain ⟨waiting, hwaiting, hlines⟩ := h
  rw [hphase] at hwaiting
  cases hwaiting
  obtain ⟨hcommands, hrest⟩ := LineBuffer.drain_eq (connection.buffer.feed piece)
  rw [LineBuffer.pending_feed] at hcommands hrest
  refine ⟨(connection.buffer.feed piece).drain.1, ?_, ?_⟩
  · unfold Connection.receive
    rcases (connection.buffer.feed piece).drain with ⟨_ | ⟨command, waiting⟩, buffer⟩
    · rfl
    · rfl
  · have hbuffer : (connection.receive piece).buffer = (connection.buffer.feed piece).drain.2 := rfl
    rw [Bytes.splitLines_append, Bytes.lines, Bytes.unfinished, hlines, List.append_nil,
      List.map_append, hbuffer, hcommands, hrest, Bytes.map_bytes_map_mk]

/-- Every move keeps the accounts of a connection. -/
lemma Moves.accounts {keepAlive : Bool} {read : Option Bytes}
    (hmoves : connection.Moves keepAlive more piece read after)
    (h : connection.Accounts commands received) :
    after.Accounts (commands ++ more) (received ++ piece) := by
  cases hmoves with
  | stay =>
    rw [List.append_nil, List.append_nil]
    exact h
  | join hended =>
    rw [List.append_nil, List.append_nil]
    exact h
  | receive _ hphase =>
    rw [List.append_nil]
    exact h.receive hphase piece
  | @execute command waiting reader hphase =>
    obtain ⟨_, hwaiting, hlines⟩ := h
    rw [hphase] at hwaiting
    subst hwaiting
    refine ⟨waiting, rfl, ?_⟩
    rw [List.append_nil, hlines, List.append_assoc]
    rfl
  | @refuse command waiting stop hphase =>
    obtain ⟨_, hwaiting, hlines⟩ := h
    rw [hphase] at hwaiting
    subst hwaiting
    refine ⟨waiting, trivial, ?_⟩
    rw [List.append_nil, hlines, List.append_assoc]
    rfl
  | send moved hpiece hphase =>
    obtain ⟨waiting, hwaiting, hlines⟩ := h
    rw [hphase] at hwaiting
    rw [List.append_nil, List.append_nil]
    exact ⟨waiting, hwaiting, hlines⟩
  | @finishReply reader waiting hphase =>
    obtain ⟨left, hleft, hlines⟩ := h
    rw [hphase] at hleft
    rw [show left = waiting from hleft] at hlines
    rw [List.append_nil, List.append_nil]
    refine ⟨waiting, ?_, hlines⟩
    unfold Connection.finishReply
    cases waiting with
    | cons command others => rfl
    | nil =>
      cases keepAlive with
      | true => rfl
      | false => trivial
  | hangUp hphase =>
    obtain ⟨waiting, -, hlines⟩ := h
    rw [List.append_nil, List.append_nil]
    exact ⟨waiting, trivial, hlines⟩
  | giveUp stop hopen hphase =>
    obtain ⟨waiting, -, hlines⟩ := h
    rw [List.append_nil, List.append_nil]
    exact ⟨waiting, trivial, hlines⟩

/-- The commands carried out for a connection are the first lines of its stream. -/
lemma Accounts.exists_lines (h : connection.Accounts commands received) :
    ∃ later, Bytes.lines received = commands.map Command.bytes ++ later := by
  obtain ⟨waiting, -, hlines⟩ := h
  refine ⟨waiting.map Command.bytes, ?_⟩
  rw [Bytes.lines, hlines, List.map_append]

end Connection

end Accounts

/-! ## The device behind the lock -/

section Locked

variable {device : Device}

/-- A lock section on a device writes the command to it if the command asks to be stored. -/
lemma Shared.execute_device_of_stores {command : Command} (h : Request.stores command = true) :
    ((Shared.ofStorage device).execute command).1 =
      Shared.ofStorage (device.write command.bytes) := by
  rw [Shared.execute_of_stores h]
  rfl

/-- Commands that are carried out in their lock sections write those of them to the device that ask
to be stored. -/
lemma Shared.executeAll_device (hpending : device.incoming.pending = []) {commands : List Command}
    (hcomplete : ∀ command ∈ commands, command.IsComplete) :
    (Shared.ofStorage device).executeAll commands =
      Shared.ofStorage (device.write (Command.concat (commands.filter Request.stores))) := by
  induction commands generalizing device with
  | nil =>
    have hnothing : newline ∉ device.incoming.pending := by
      rw [hpending]
      exact List.not_mem_nil
    exact congrArg Shared.ofStorage (Device.write_nil hnothing).symm
  | cons command others ih =>
    have hothers : ∀ other ∈ others, other.IsComplete :=
      fun other hmem => hcomplete other (List.mem_cons_of_mem _ hmem)
    show (((Shared.ofStorage device).execute command).1).executeAll others = _
    cases hstores : Request.stores command with
    | false =>
      rw [Shared.execute_of_not_stores hstores, ih hpending hothers,
        List.filter_cons_of_neg (by rw [hstores]; decide)]
    | true =>
      have hone : ∀ other ∈ [command], other.IsComplete := by
        intro other hmem
        rw [List.mem_singleton.1 hmem]
        exact hcomplete command List.mem_cons_self
      -- the command leaves nothing over, so the writes can be put together
      have hwritten := (Device.write_concat hpending hone).2
      rw [Command.concat, List.flatMap_singleton] at hwritten
      rw [Shared.execute_device_of_stores hstores, ih hwritten hothers,
        List.filter_cons_of_pos hstores, Command.concat_cons, Device.write_append]

end Locked

namespace Run

/-! ## Runs on a device -/

/-- What a history of a run on a device has led to, with the commands that it has carried out and
what each connection has received. -/
structure Isolated (run : Run Device Cursor) (device : Device) (executed : List (Nat × Command))
    (received : Nat → Bytes) : Prop where
  stamping_eq : run.stamping = false
  shared_eq : run.shared = (Shared.ofStorage device).executeAll (executed.map Prod.snd)
  accounts : ∀ (number : Nat) (connection : Connection Cursor),
    run.connections[number]? = some connection →
    connection.Accounts (commandsOf number executed) (received number)
  absent : ∀ number : Nat, run.connections[number]? = none →
    commandsOf number executed = [] ∧ received number = []

variable {run next : Run Device Cursor} {device : Device} {executed : List (Nat × Command)}
  {received : Nat → Bytes} {taken : Step}

lemma isolated_initial (settings : Settings) (device : Device) :
    (initial settings device : Run Device Cursor).Isolated device [] fun _ => [] where
  stamping_eq := rfl
  shared_eq := rfl
  accounts := by
    intro number connection hconnection
    cases hconnection
  absent := fun _ _ => ⟨rfl, rfl⟩

/-- No timestamps are written to a device, and to close one changes nothing. -/
lemma shared_of_device_step (h : run.step? taken = some next) (hstamping : run.stamping = false) :
    next.shared = run.shared.executeAll ((run.executed taken).map Prod.snd) := by
  rcases shared_of_step h hstamping with ⟨rfl, hclosed⟩ | hexecuted
  · exact hclosed
  · exact hexecuted

/-- A step keeps the accounts of all connections, with what it carries out and what they receive. -/
lemma Isolated.step (hrun : run.Isolated device executed received)
    (h : run.step? taken = some next) :
    next.Isolated device (executed ++ run.executed taken)
      fun number => received number ++ taken.received number where
  stamping_eq := stamping_of_step h hrun.stamping_eq rfl
  shared_eq := by
    rw [shared_of_device_step h hrun.stamping_eq, hrun.shared_eq, List.map_append]
    exact List.foldl_append.symm
  accounts := by
    intro number connection hconnection
    rw [commandsOf_append]
    cases hbefore : run.connections[number]? with
    | none =>
      obtain ⟨hcommands, hpiece, -, hnew⟩ := new_connection_of_step h hbefore
      obtain ⟨hcommands', hpieces⟩ := hrun.absent number hbefore
      rw [hnew connection hconnection, hcommands, hcommands', hpiece, hpieces]
      exact Connection.accounts_accepted
    | some before =>
      obtain ⟨after, hafter, hmoves⟩ := connection_of_step h hbefore
      rw [hconnection] at hafter
      cases hafter
      exact hmoves.accounts (hrun.accounts number before hbefore)
  absent := by
    intro number hnone
    cases hbefore : run.connections[number]? with
    | none =>
      obtain ⟨hcommands, hpiece, -⟩ := new_connection_of_step h hbefore
      obtain ⟨hcommands', hpieces⟩ := hrun.absent number hbefore
      rw [commandsOf_append, hcommands, hcommands', hpiece, hpieces]
      exact ⟨rfl, rfl⟩
    | some before =>
      obtain ⟨after, hafter, -⟩ := connection_of_step h hbefore
      rw [hnone] at hafter
      cases hafter

lemma Isolated.stepAll {steps : List Step} {last : Run Device Cursor}
    (hrun : run.Isolated device executed received) (h : run.stepAll? steps = some last) :
    last.Isolated device (executed ++ run.executedAll steps)
      fun number => received number ++ Step.receivedAll number steps := by
  induction steps generalizing run executed received with
  | nil =>
    cases h
    simp only [executedAll, Step.receivedAll, List.flatMap_nil, List.append_nil]
    exact hrun
  | cons step others ih =>
    obtain ⟨next, hstep, hlast, hexecuted⟩ := stepAll?_cons h
    have hnext := ih (hrun.step hstep) hlast
    simp only [List.append_assoc] at hnext
    rw [hexecuted]
    exact hnext

/-- The commands carried out for a connection are the first lines of its stream, also before the
connection is there. -/
lemma Isolated.exists_lines (hrun : run.Isolated device executed received) (number : Nat) :
    ∃ later, Bytes.lines (received number) =
      (commandsOf number executed).map Command.bytes ++ later := by
  cases hconnection : run.connections[number]? with
  | none =>
    obtain ⟨hcommands, hpieces⟩ := hrun.absent number hconnection
    rw [hcommands, hpieces]
    exact ⟨[], rfl⟩
  | some connection => exact (hrun.accounts number connection hconnection).exists_lines

lemma mem_commandsOf {entry : Nat × Command} (h : entry ∈ executed) :
    entry.2 ∈ commandsOf entry.1 executed :=
  List.mem_filterMap.2 ⟨entry, h, if_pos rfl⟩

/-- Every command that was carried out is a line of the stream of the connection that sent it. -/
lemma Isolated.mem_lines (hrun : run.Isolated device executed received) {entry : Nat × Command}
    (h : entry ∈ executed) : entry.2.bytes ∈ Bytes.lines (received entry.1) := by
  obtain ⟨later, hlines⟩ := hrun.exists_lines entry.1
  rw [hlines]
  exact List.mem_append_left _ (List.mem_map_of_mem (mem_commandsOf h))

lemma Isolated.isComplete (hrun : run.Isolated device executed received) :
    ∀ command ∈ executed.map Prod.snd, command.IsComplete := by
  intro command hmem
  obtain ⟨entry, hentry, rfl⟩ := List.mem_map.1 hmem
  exact Bytes.isLine_of_mem_lines (hrun.mem_lines hentry)

/-- The device is the one at first, with the commands stored since written to it. -/
lemma Isolated.storage_eq (hrun : run.Isolated device executed received)
    (hpending : device.incoming.pending = []) :
    run.shared.storage =
      device.write (Command.concat ((executed.map Prod.snd).filter Request.stores)) :=
  congrArg Shared.storage
    (hrun.shared_eq.trans (Shared.executeAll_device hpending hrun.isComplete))

/-- Connections to a device that has nothing left over do not mix, however their steps take turns
and however they end.  After every history the device has nothing left over, and its log is made of
the commands that it had at first and those stored since, in the order in which they were carried
out, as far as there is room.  The commands carried out for a connection are the first lines of the
bytes that this connection has received, each of them once; so every entry that the device did not
have at first is a line of one connection.  And a connection that has ended receives nothing more,
and nothing more is carried out for it. -/
theorem device_keeps_connections_apart {capacity : Nat} {fresh : Device}
    (hfresh : Device.ofCapacity capacity = .ok fresh) (writes : List Bytes)
    (hpending : (writes.foldl Device.write fresh).incoming.pending = []) (settings : Settings)
    {steps : List Step} {run : Run Device Cursor}
    (h : (initial settings (writes.foldl Device.write fresh)).stepAll? steps = some run) :
    let device := writes.foldl Device.write fresh
    let executed := (initial settings device : Run Device Cursor).executedAll steps
    let stored := (executed.map Prod.snd).filter Request.stores
    run.shared.storage.incoming.pending = [] ∧
    run.shared.storage.entries =
      (device.entries ++ stored).drop ((device.entries ++ stored).length - capacity) ∧
    (∀ number, ∃ later, Bytes.lines (Step.receivedAll number steps) =
      (commandsOf number executed).map Command.bytes ++ later) ∧
    (∀ entry ∈ run.shared.storage.entries, entry ∈ device.entries ∨
      ∃ number, entry ∈ commandsOf number executed ∧
        entry.bytes ∈ Bytes.lines (Step.receivedAll number steps)) ∧
    (∀ (number : Nat) (connection : Connection Cursor),
      run.connections[number]? = some connection → connection.hasEnded = true →
      ∀ more last, run.stepAll? more = some last →
        commandsOf number (run.executedAll more) = [] ∧ Step.receivedAll number more = []) := by
  have hrun := (isolated_initial settings (writes.foldl Device.write fresh)).stepAll h
  obtain ⟨chronicle, hfollows⟩ := Device.exists_follows hfresh writes
  have hroom : (writes.foldl Device.write fresh).log.capacity = capacity := by
    rw [Device.capacity_foldl_write, (Device.ofCapacity_eq_ok hfresh).2]
    exact Ring.capacity_empty capacity
  simp only [List.nil_append] at hrun
  intro device executed stored
  have hstored : ∀ command ∈ stored, command.IsComplete :=
    fun command hmem => hrun.isComplete command (List.mem_filter.1 hmem).1
  have hstorage : run.shared.storage = device.write (Command.concat stored) :=
    hrun.storage_eq hpending
  have hentries : run.shared.storage.entries =
      (device.entries ++ stored).drop ((device.entries ++ stored).length - capacity) := by
    rw [hstorage, Device.entries_write_concat hfollows.wellFormed hpending hstored, hroom]
  refine ⟨?_, hentries, hrun.exists_lines, ?_, ?_⟩
  · rw [hstorage, (Device.write_concat hpending hstored).2]
  · intro entry hentry
    rw [hentries] at hentry
    rcases List.mem_append.1 (List.mem_of_mem_drop hentry) with hold | hnew
    · exact .inl hold
    · obtain ⟨sent, hsent, rfl⟩ := List.mem_map.1 (List.mem_filter.1 hnew).1
      exact .inr ⟨sent.1, mem_commandsOf hsent, hrun.mem_lines hsent⟩
  · intro number connection hconnection hended more last hmore
    exact nothing_of_hasEnded hmore hconnection hended

/-- Connection 0 begins a command and hangs up; what connection 1 sends in between is stored as it
is, and makes room for itself by the command that the device had at first. -/
theorem device_keeps_connections_apart_one :
    ∃ fresh run, Device.ofCapacity 1 = .ok fresh ∧
      ([[99, 10]].foldl Device.write fresh).incoming.pending = [] ∧
      (initial ⟨false, 0⟩ ([[99, 10]].foldl Device.write fresh)).stepAll?
        [.bind, .setUp, .look, .accept, .reap, .look, .accept, .receive 0 [97],
          .receive 1 [98, 10], .execute 1, .finish 0] = some run ∧
      run.shared.storage.incoming.pending = [] ∧
      run.shared.storage.entries = [⟨[98, 10]⟩] ∧
      ∀ more last, run.stepAll? more = some last → commandsOf 0 (run.executedAll more) = [] := by
  obtain ⟨run, hrun, hended⟩ : ∃ run : Run Device Cursor,
      (initial ⟨false, 0⟩ ([[99, 10]].foldl Device.write (Device.empty 1))).stepAll?
        [.bind, .setUp, .look, .accept, .reap, .look, .accept, .receive 0 [97],
          .receive 1 [98, 10], .execute 1, .finish 0] = some run ∧
      (run.connections[0]?).map Connection.hasEnded = some true :=
    ⟨_, rfl, rfl⟩
  obtain ⟨connection, hconnection, hended⟩ := Option.map_eq_some_iff.1 hended
  obtain ⟨hpending, hentries, -, -, hlater⟩ :=
    device_keeps_connections_apart (show Device.ofCapacity 1 = .ok (Device.empty 1) from rfl)
      [[99, 10]] rfl ⟨false, 0⟩ hrun
  refine ⟨Device.empty 1, run, rfl, rfl, hrun, hpending, ?_, ?_⟩
  · rw [hentries]
    rfl
  · intro more last hmore
    exact (hlater 0 connection hconnection hended more last hmore).1

end Run

end CommandLog
