import CommandLog.Proofs.DataFile.OpenFile
import CommandLog.Proofs.Device.Written
import CommandLog.Proofs.Server.Erasure
import CommandLog.Proofs.Server.LineByLine

/-!
# A device and a data file behind the same server

A device forgets old commands and a data file does not.  Apart from that they do the same for a
server: as long as its clients only have commands stored, `device_agrees_with_file` says that a
server on a device and one on a data file, both with an empty log at first, carry out the same
commands and close the same connections, and that each reply of the first is made of the last lines
of the reply of the second.

To say so, `Server.answeredAll` lists what a server carries out in a history, each command with its
reply; `handleAll_eq_answeredAll` ties it to the bytes that are sent.  The proof is a simulation:
`Shared.Agrees` relates the two storages through the bytes written to both, one command keeps it
(`Shared.Agrees.answer`), and so does every event of a server (`Server.Agrees.handle`).
-/

namespace CommandLog

/-! ## The last lines of a stream -/

namespace Bytes

/-- The last lines of a stream, so many as given, or all of them if there are fewer. -/
def lastLines (count : Nat) (stream : Bytes) : Bytes :=
  ((lines stream).drop ((lines stream).length - count)).flatten

lemma lastLines_concat {commands : List Command} (h : ∀ command ∈ commands, command.IsComplete)
    (count : Nat) :
    lastLines count (Command.concat commands) =
      Command.concat (commands.drop (commands.length - count)) := by
  rw [lastLines, lines_concat h, List.length_map, ← List.map_drop, Command.concat,
    ← List.flatMap_def]

/-- With no more lines than that, nothing is left out. -/
lemma lastLines_concat_of_le {commands : List Command}
    (h : ∀ command ∈ commands, command.IsComplete) {count : Nat} (hle : commands.length ≤ count) :
    lastLines count (Command.concat commands) = Command.concat commands := by
  rw [lastLines_concat h, Nat.sub_eq_zero_of_le hle, List.drop_zero]

end Bytes

/-! ## What is carried out, with the replies -/

/-- A command that was carried out for a connection, and its reply if it has one. -/
structure Answered where
  connection : Nat
  command : Command
  reply : Option Bytes

namespace Answered

/-- The answer with the last lines of its reply only. -/
def keepLast (count : Nat) (answered : Answered) : Answered :=
  { answered with reply := answered.reply.map (Bytes.lastLines count) }

/-- Every command is answered with all that was written before and all commands up to this one. -/
def ReplayAll (written : Bytes) (answers : List Answered) : Prop :=
  ∀ k answered, answers[k]? = some answered →
    answered.reply = some (written ++ Command.concat ((answers.map command).take (k + 1)))

lemma replayAll_nil (written : Bytes) : ReplayAll written [] := by
  intro k answered h
  cases h

lemma replayAll_append {written : Bytes} {answers others : List Answered}
    (h : ReplayAll written answers)
    (h' : ReplayAll (written ++ Command.concat (answers.map command)) others) :
    ReplayAll written (answers ++ others) := by
  intro k answered hk
  rw [List.map_append]
  by_cases hlt : k < answers.length
  · rw [List.getElem?_append_left hlt] at hk
    have hle : k + 1 ≤ (answers.map command).length := by
      rw [List.length_map]
      exact hlt
    rw [List.take_append_of_le_length hle, h k answered hk]
  · have hle : answers.length ≤ k := Nat.le_of_not_lt hlt
    have hall : (answers.map command).length ≤ k + 1 := by
      rw [List.length_map]
      exact Nat.le_succ_of_le hle
    rw [List.getElem?_append_right hle] at hk
    rw [h' _ answered hk, List.take_append, List.take_of_length_le hall, List.length_map,
      Nat.sub_add_comm hle, Command.concat_append, List.append_assoc]

lemma replayAll_cons {written : Bytes} {first : Answered} {others : List Answered}
    (h : first.reply = some (written ++ first.command.bytes))
    (h' : ReplayAll (written ++ first.command.bytes) others) :
    ReplayAll written (first :: others) := by
  have hfirst : Command.concat [first.command] = first.command.bytes := List.flatMap_singleton ..
  have hone : ReplayAll written [first] := by
    intro k answered hk
    cases k with
    | zero =>
      cases hk
      rw [h, ← hfirst]
      rfl
    | succ k => cases hk
  refine replayAll_append hone ?_
  rw [List.map_singleton, hfirst]
  exact h'

end Answered

namespace Shared

variable {σ ρ : Type} [Storage σ ρ]

/-- The commands of these that are carried out for a connection, up to the first that fails. -/
def answered (shared : Shared σ) (connection : Nat) : List Command → List Answered
  | [] => []
  | command :: others =>
    match shared.answer command with
    | (_, _, some _) => [⟨connection, command, none⟩]
    | (shared, reply, none) => ⟨connection, command, some reply⟩ :: shared.answered connection others

/-- What is sent are the replies. -/
lemma answerAll_eq_answered (shared : Shared σ) (connection : Nat) (commands : List Command) :
    (shared.answerAll commands).2.1 =
      (shared.answered connection commands).flatMap fun answered => answered.reply.getD [] := by
  induction commands generalizing shared with
  | nil => rfl
  | cons command others ih =>
    have hfailed : ∀ {after reply stop}, shared.answer command = (after, reply, some stop) →
        reply = [] := by
      intro after reply stop h
      unfold answer at h
      split at h
      · cases h
        rfl
      · split at h
        · cases h
        · cases h
          rfl
    rw [answerAll, answered]
    rcases hanswer : shared.answer command with ⟨after, reply, _ | stop⟩
    · simp only [ih, List.flatMap_cons, Option.getD_some]
    · rw [hfailed hanswer]
      rfl

/-- The first command is carried out. -/
lemma answered_cons (shared : Shared σ) (connection : Nat) (command : Command)
    (others : List Command) :
    ∃ reply later, shared.answered connection (command :: others) =
      ⟨connection, command, reply⟩ :: later := by
  rw [answered]
  rcases shared.answer command with ⟨after, reply, _ | stop⟩
  · exact ⟨_, _, rfl⟩
  · exact ⟨_, _, rfl⟩

lemma answered_cons_of_answer {shared after : Shared σ} {command : Command} {reply : Bytes}
    (h : shared.answer command = (after, reply, none)) (connection : Nat)
    (others : List Command) :
    shared.answered connection (command :: others) =
      ⟨connection, command, some reply⟩ :: after.answered connection others := by
  rw [answered, h]

lemma answerAll_cons_of_answer {shared after : Shared σ} {command : Command} {reply : Bytes}
    (h : shared.answer command = (after, reply, none)) (others : List Command) :
    shared.answerAll (command :: others) =
      ((after.answerAll others).1, reply ++ (after.answerAll others).2.1,
        (after.answerAll others).2.2) := by
  rw [answerAll, h]

lemma command_mem_of_mem_answered {shared : Shared σ} {connection : Nat} {commands : List Command}
    {answered : Answered} (h : answered ∈ shared.answered connection commands) :
    answered.command ∈ commands := by
  induction commands generalizing shared with
  | nil => cases h
  | cons command others ih =>
    rw [Shared.answered] at h
    split at h
    · rw [List.mem_singleton.1 h]
      exact List.mem_cons_self
    · rcases List.mem_cons.1 h with rfl | h
      · exact List.mem_cons_self
      · exact List.mem_cons_of_mem _ (ih h)

end Shared

namespace Session

variable {σ ρ : Type} [Storage σ ρ]

/-- What is carried out when a piece is received. -/
def answered (shared : Shared σ) (session : Session) (connection : Nat) (piece : Bytes) :
    List Answered :=
  if session.isOpen then shared.answered connection (session.buffer.feed piece).drain.1 else []

lemma receive_eq_answered (keepAlive : Bool) (shared : Shared σ) (session : Session)
    (connection : Nat) (piece : Bytes) :
    (session.receive keepAlive shared piece).2.2 =
      (session.answered shared connection piece).flatMap fun answered =>
        answered.reply.getD [] := by
  obtain ⟨buffer, isOpen⟩ := session
  cases isOpen with
  | false => rfl
  | true =>
    rw [answered, if_pos rfl, ← Shared.answerAll_eq_answered]
    unfold receive
    rcases (buffer.feed piece).drain with ⟨_ | ⟨command, others⟩, rest⟩
    · rfl
    · rfl

lemma isComplete_of_mem_answered {shared : Shared σ} {session : Session} {connection : Nat}
    {piece : Bytes} {entry : Answered} (h : entry ∈ session.answered shared connection piece) :
    entry.command.IsComplete := by
  rw [answered] at h
  split at h
  · have hmem := Shared.command_mem_of_mem_answered h
    rw [(LineBuffer.drain_eq _).1] at hmem
    exact Bytes.isComplete_of_mem_lines hmem
  · cases h

end Session

namespace Server

variable {σ ρ : Type} [Storage σ ρ]

/-- What is carried out because of an event. -/
def answered (server : Server σ) : Event → List Answered
  | .receive number piece =>
    (server.sessions number).elim [] fun session => session.answered server.shared number piece
  | _ => []

/-- What is carried out in a history, in this order. -/
def answeredAll (server : Server σ) : List Event → List Answered
  | [] => []
  | event :: others => server.answered event ++ (server.handle event).1.answeredAll others

/-- What is sent because of an event are the replies to what is carried out. -/
lemma handle_eq_answered (server : Server σ) (event : Event) :
    (server.handle event).2 =
      (server.answered event).flatMap fun answered => answered.reply.getD [] := by
  cases event with
  | receive number piece =>
    show (server.receive number piece).2 = _
    unfold receive answered
    cases hsession : server.sessions number with
    | none =>
      simp only [hsession]
      rfl
    | some session =>
      simp only [hsession]
      exact Session.receive_eq_answered _ _ session number piece
  | _ => rfl

/-- What is sent in a history are the replies to what is carried out. -/
lemma handleAll_eq_answeredAll (server : Server σ) (events : List Event) :
    (server.handleAll events).2.flatten =
      (server.answeredAll events).flatMap fun answered => answered.reply.getD [] := by
  induction events generalizing server with
  | nil => rfl
  | cons event others ih =>
    rw [answeredAll, List.flatMap_append, ← handle_eq_answered, ← ih]
    rfl

/-- Only complete commands are carried out. -/
lemma isComplete_of_mem_answeredAll {server : Server σ} {events : List Event} {entry : Answered}
    (h : entry ∈ server.answeredAll events) : entry.command.IsComplete := by
  induction events generalizing server with
  | nil => cases h
  | cons event others ih =>
    rcases List.mem_append.1 h with hnow | hlater
    · cases event with
      | receive number piece =>
        rw [answered] at hnow
        cases hsession : server.sessions number with
        | none =>
          rw [hsession] at hnow
          cases hnow
        | some session =>
          rw [hsession] at hnow
          exact Session.isComplete_of_mem_answered hnow
      | _ => cases hnow
    · exact ih hlater

end Server

/-! ## The two storages -/

namespace Shared

/-- A command that is stored is answered with the whole log. -/
lemma answer_of_stored {σ ρ : Type} [Storage σ ρ] [LogView σ] {shared : Shared σ}
    {command : Command} {after : σ} {contents : Bytes} (hstores : Request.stores command = true)
    (hpoisoned : shared.poisoned = false)
    (happend : Storage.append shared.storage command.bytes = (after, .stored))
    (hcontents : Storage.contents? after = some contents) :
    shared.answer command = (.ofStorage after, contents, none) := by
  obtain ⟨storage, poisoned⟩ := shared
  simp only at hpoisoned happend
  have hline : (⟨storage, poisoned⟩ : Shared σ).answerLine command.bytes =
      (.ofStorage after, some contents) := by
    simp only [answerLine, Request.ofCommand_of_stores hstores, hpoisoned, happend, hcontents,
      Bool.false_eq_true, if_false]
    rfl
  obtain ⟨hafter, hreply, hstop⟩ := answer_eq_answerLine (⟨storage, poisoned⟩ : Shared σ) command
  rw [hline] at hafter hreply hstop
  exact Prod.ext hafter (Prod.ext hreply (Option.isNone_iff_eq_none.1 hstop))

/-- The same bytes were written to a new device and to an empty data file. -/
structure Agrees (capacity : Nat) (written : Bytes) (ofDevice : Shared Device)
    (ofFile : Shared HostedFile) : Prop where
  device_eq : ofDevice = .ofStorage ((Device.empty capacity).write written)
  poisoned_eq : ofFile.poisoned = false
  holds : ofFile.storage.Holds written

variable {capacity : Nat} {written : Bytes} {ofDevice : Shared Device} {ofFile : Shared HostedFile}

/-- One command that is stored is answered with all that was written to the data file, and with the
last lines of it by the device. -/
lemma Agrees.answer (h : Agrees capacity written ofDevice ofFile) (hcapacity : 0 < capacity)
    {command : Command} (hstores : Request.stores command = true) :
    ∃ device file, Agrees capacity (written ++ command.bytes) device file ∧
      file.storage.file.persistent = ofFile.storage.file.persistent ∧
      ofDevice.answer command =
        (device, Bytes.lastLines capacity (written ++ command.bytes), none) ∧
      ofFile.answer command = (file, written ++ command.bytes, none) := by
  have hdevice : ofDevice.storage.write command.bytes =
      (Device.empty capacity).write (written ++ command.bytes) := by
    rw [h.device_eq, Device.write_append]
    rfl
  have hkeeps := Device.keeps_write_empty hcapacity (written ++ command.bytes)
  have hholds := h.holds.append command.bytes
  refine ⟨.ofStorage (ofDevice.storage.write command.bytes),
    .ofStorage (Storage.append ofFile.storage command.bytes).1, ⟨?_, rfl, hholds⟩, ?_, ?_, ?_⟩
  · rw [hdevice]
  · show (Storage.append ofFile.storage command.bytes).1.file.persistent = _
    rw [HostedFile.append_eq h.holds.clear]
  · apply answer_of_stored hstores
    · rw [h.device_eq]
      rfl
    · rfl
    · show some (ofDevice.storage.write command.bytes).contents = _
      rw [hdevice, hkeeps.contents_eq, Bytes.lastLines]
  · have hstored := HostedFile.append_snd h.holds.clear command.bytes
    exact answer_of_stored hstores h.poisoned_eq (Prod.ext rfl hstored) hholds.contents?_eq

/-- Commands that are all stored are all answered. -/
lemma Agrees.answerAll (hcapacity : 0 < capacity) (connection : Nat) {commands : List Command}
    (h : Agrees capacity written ofDevice ofFile)
    (hstores : ∀ entry ∈ ofDevice.answered connection commands,
      Request.stores entry.command = true) :
    ∃ device file reply reply',
      Agrees capacity (written ++ Command.concat commands) device file ∧
      file.storage.file.persistent = ofFile.storage.file.persistent ∧
      ofDevice.answerAll commands = (device, reply, none) ∧
      ofFile.answerAll commands = (file, reply', none) ∧
      ofDevice.answered connection commands =
        (ofFile.answered connection commands).map (Answered.keepLast capacity) ∧
      Answered.ReplayAll written (ofFile.answered connection commands) ∧
      (ofFile.answered connection commands).map Answered.command = commands := by
  induction commands generalizing written ofDevice ofFile with
  | nil =>
    refine ⟨ofDevice, ofFile, [], [], ?_, rfl, rfl, rfl, rfl, Answered.replayAll_nil written, rfl⟩
    rw [Command.concat, List.flatMap_nil, List.append_nil]
    exact h
  | cons command others ih =>
    obtain ⟨_, _, hfirst⟩ := ofDevice.answered_cons connection command others
    have hcommand : Request.stores command = true :=
      hstores ⟨connection, command, _⟩ (by rw [hfirst]; exact List.mem_cons_self)
    obtain ⟨device, file, hnext, hpersistent, hdevice, hfile⟩ := h.answer hcapacity hcommand
    have hlater : ∀ entry ∈ device.answered connection others,
        Request.stores entry.command = true := by
      intro entry hentry
      refine hstores entry ?_
      rw [answered_cons_of_answer hdevice]
      exact List.mem_cons_of_mem _ hentry
    obtain ⟨device', file', reply, reply', hlast, hpersistent', hdevice', hfile', hanswered, hreplay,
      hcommands⟩ := ih hnext hlater
    refine ⟨device', file', _, _, ?_, hpersistent'.trans hpersistent,
      (answerAll_cons_of_answer hdevice others).trans (by rw [hdevice']),
      (answerAll_cons_of_answer hfile others).trans (by rw [hfile']), ?_, ?_, ?_⟩
    · rw [Command.concat_cons, ← List.append_assoc]
      exact hlast
    · rw [answered_cons_of_answer hdevice, answered_cons_of_answer hfile, hanswered]
      rfl
    · rw [answered_cons_of_answer hfile]
      exact Answered.replayAll_cons rfl hreplay
    · rw [answered_cons_of_answer hfile, List.map_cons, hcommands]

end Shared

/-! ## The two servers -/

namespace Server

/-- Two servers that have done the same, one on a device and one on a data file. -/
structure Agrees (capacity : Nat) (persistent : Bool) (written : Bytes)
    (ofDevice : Server Device) (ofFile : Server HostedFile) : Prop where
  settings_eq : ofDevice.settings = ofFile.settings
  sessions_eq : ofDevice.sessions = ofFile.sessions
  serving_eq : ofDevice.isServing = ofFile.isServing
  device_eq : ofDevice.shared = .ofStorage ((Device.empty capacity).write written)
  persistent_eq : ofFile.shared.storage.file.persistent = persistent
  /-- The file is there until it is closed, and after that if it is to outlive its closing. -/
  shared : ofFile.isServing = true ∨ persistent = true →
    Shared.Agrees capacity written ofDevice.shared ofFile.shared
  closed : ofFile.isServing = false → ∀ number, ofFile.isOpen number = false

variable {capacity : Nat} {persistent : Bool} {written : Bytes} {ofDevice : Server Device}
  {ofFile : Server HostedFile} {number : Nat} {event : Event}

/-- The same session is put in the same place. -/
lemma Agrees.setSession (h : Agrees capacity persistent written ofDevice ofFile) (number : Nat)
    {session : Session} (hclosed : ofFile.isServing = false → session.isOpen = false) :
    Agrees capacity persistent written (ofDevice.setSession number session)
      (ofFile.setSession number session) where
  settings_eq := h.settings_eq
  sessions_eq := by
    unfold Server.setSession
    rw [h.sessions_eq]
  serving_eq := h.serving_eq
  device_eq := h.device_eq
  persistent_eq := h.persistent_eq
  shared := h.shared
  closed := by
    intro hserving other
    show (if other = number then some session else ofFile.sessions other).any (·.isOpen) = false
    split
    · exact hclosed hserving
    · exact h.closed hserving other

/-- As long as both serve, the storages can be replaced by others that agree. -/
lemma Agrees.withShared (h : Agrees capacity persistent written ofDevice ofFile)
    (hserving : ofFile.isServing = true) {written' : Bytes} {device : Shared Device}
    {file : Shared HostedFile} (hshared : Shared.Agrees capacity written' device file)
    (hpersistent : file.storage.file.persistent = ofFile.shared.storage.file.persistent) :
    Agrees capacity persistent written' { ofDevice with shared := device }
      { ofFile with shared := file } where
  settings_eq := h.settings_eq
  sessions_eq := h.sessions_eq
  serving_eq := h.serving_eq
  device_eq := hshared.device_eq
  persistent_eq := hpersistent.trans h.persistent_eq
  shared := fun _ => hshared
  closed := fun hstopped => absurd hserving (Bool.eq_false_iff.1 hstopped)

/-- What the two servers do because of an event, and that they agree afterwards. -/
structure Alike (capacity : Nat) (persistent : Bool) (written : Bytes) (ofDevice : Server Device)
    (ofFile : Server HostedFile) (event : Event) : Prop where
  answered_eq : ofDevice.answered event =
    (ofFile.answered event).map (Answered.keepLast capacity)
  replayAll : Answered.ReplayAll written (ofFile.answered event)
  after : Agrees capacity persistent
    (written ++ Command.concat ((ofFile.answered event).map Answered.command))
    (ofDevice.handle event).1 (ofFile.handle event).1

/-- An event with which nothing is carried out. -/
lemma alike_of_quiet (hdevice : ofDevice.answered event = []) (hfile : ofFile.answered event = [])
    (h : Agrees capacity persistent written (ofDevice.handle event).1 (ofFile.handle event).1) :
    Alike capacity persistent written ofDevice ofFile event where
  answered_eq := by rw [hdevice, hfile, List.map_nil]
  replayAll := by
    rw [hfile]
    exact Answered.replayAll_nil written
  after := by
    rw [hfile, List.map_nil, Command.concat, List.flatMap_nil, List.append_nil]
    exact h

section Receive

variable {σ ρ : Type} [Storage σ ρ] {server : Server σ}

lemma receive_of_none (h : server.sessions number = none) (piece : Bytes) :
    server.receive number piece = (server, []) ∧ server.answered (.receive number piece) = [] := by
  constructor
  · rw [Server.receive, h]
  · rw [answered, h, Option.elim_none]

lemma receive_of_some {session : Session} (h : server.sessions number = some session)
    (piece : Bytes) :
    (server.receive number piece).1 =
        { server with
          shared := (session.receive server.settings.keepAlive server.shared piece).1 }.setSession
            number (session.receive server.settings.keepAlive server.shared piece).2.1 ∧
      server.answered (.receive number piece) = session.answered server.shared number piece := by
  constructor
  · rw [Server.receive, h]
  · rw [answered, h, Option.elim_some]

end Receive

/-- What one connection receives is answered alike. -/
lemma Agrees.receive (h : Agrees capacity persistent written ofDevice ofFile)
    (hcapacity : 0 < capacity) {piece : Bytes}
    (hstores : ∀ entry ∈ ofDevice.answered (.receive number piece),
      Request.stores entry.command = true) :
    Alike capacity persistent written ofDevice ofFile (.receive number piece) := by
  have hsame := congrFun h.sessions_eq number
  cases hsession : ofFile.sessions number with
  | none =>
    rw [hsession] at hsame
    obtain ⟨hdevice, hquiet⟩ := receive_of_none hsame piece
    obtain ⟨hfile, hquiet'⟩ := receive_of_none hsession piece
    refine alike_of_quiet hquiet hquiet' ?_
    show Agrees capacity persistent written (ofDevice.receive number piece).1
      (ofFile.receive number piece).1
    rw [hdevice, hfile]
    exact h
  | some session =>
    rw [hsession] at hsame
    obtain ⟨hdevice, hanswered⟩ := receive_of_some hsame piece
    obtain ⟨hfile, hanswered'⟩ := receive_of_some hsession piece
    obtain ⟨buffer, isOpen⟩ := session
    cases isOpen with
    | false =>
      refine alike_of_quiet hanswered hanswered' ?_
      show Agrees capacity persistent written (ofDevice.receive number piece).1
        (ofFile.receive number piece).1
      rw [hdevice, hfile]
      exact h.setSession number fun _ => rfl
    | true =>
      have hserving : ofFile.isServing = true := by
        by_contra hstopped
        have hclosed := h.closed (Bool.eq_false_iff.2 hstopped) number
        rw [isOpen, hsession] at hclosed
        cases hclosed
      have hopen : ∀ {σ ρ : Type} [Storage σ ρ] (shared : Shared σ),
          (⟨buffer, true⟩ : Session).answered shared number piece =
            shared.answered number (buffer.feed piece).drain.1 := fun _ => rfl
      rw [hopen] at hanswered hanswered'
      rw [hanswered] at hstores
      obtain ⟨device, file, reply, reply', hshared, hpersistent, hall, hall', hkept, hreplay,
        hstored⟩ := (h.shared (.inl hserving)).answerAll hcapacity number hstores
      constructor
      · rw [hanswered, hanswered']
        exact hkept
      · rw [hanswered']
        exact hreplay
      · show Agrees capacity persistent _ (ofDevice.receive number piece).1
          (ofFile.receive number piece).1
        have hkeepAlive := congrArg Settings.keepAlive h.settings_eq
        rw [hdevice, hfile, hanswered', hstored, Session.receive_of_open,
          Session.receive_of_open, hkeepAlive]
        simp only [hall, hall']
        exact (h.withShared hserving hshared hpersistent).setSession number
          fun hstopped => absurd hserving (Bool.eq_false_iff.1 hstopped)

lemma Agrees.stop (h : Agrees capacity persistent written ofDevice ofFile) :
    Agrees capacity persistent written ofDevice.stop ofFile.stop := by
  unfold Server.stop
  rw [h.serving_eq]
  split
  · next hserving =>
    have hclear := (h.shared (.inl hserving)).holds.clear
    constructor
    · exact h.settings_eq
    · simp only [h.sessions_eq]
    · rfl
    · exact h.device_eq
    · show (Storage.close ofFile.shared.storage).1.file.persistent = persistent
      rw [HostedFile.file_close hclear, h.persistent_eq]
    · rintro (hstopped | hpersistent)
      · cases hstopped
      · obtain ⟨hdevice, hpoisoned, hholds⟩ := h.shared (.inr hpersistent)
        refine ⟨hdevice, hpoisoned, ?_⟩
        show (Storage.close ofFile.shared.storage).1.Holds written
        rw [hholds.close_of_persistent (h.persistent_eq.trans hpersistent)]
        exact hholds
    · intro _ number
      show ((ofFile.sessions number).map Session.close).any (·.isOpen) = false
      cases ofFile.sessions number with
      | none => rfl
      | some session => rfl
  · exact h

/-- Every event keeps the agreement. -/
lemma Agrees.handle (h : Agrees capacity persistent written ofDevice ofFile)
    (hcapacity : 0 < capacity)
    (hstamp : ∀ entry, event = .stamp entry → ofFile.settings.interval = 0)
    (hstores : ∀ entry ∈ ofDevice.answered event, Request.stores entry.command = true) :
    Alike capacity persistent written ofDevice ofFile event := by
  cases event with
  | connect number =>
    refine alike_of_quiet rfl rfl ?_
    show Agrees capacity persistent written (ofDevice.connect number) (ofFile.connect number)
    unfold connect
    rw [h.serving_eq]
    split
    · next hserving =>
      exact h.setSession number fun hstopped => absurd hserving (Bool.eq_false_iff.1 hstopped)
    · exact h
  | receive number piece => exact h.receive hcapacity hstores
  | hangUp number =>
    refine alike_of_quiet rfl rfl ?_
    show Agrees capacity persistent written (ofDevice.hangUp number) (ofFile.hangUp number)
    unfold hangUp
    rw [h.sessions_eq]
    cases ofFile.sessions number with
    | none => exact h
    | some session => exact h.setSession number fun _ => rfl
  | stamp entry =>
    refine alike_of_quiet rfl rfl ?_
    have hdevice : ofDevice.isStamping = false := Bool.and_false _
    have hfile : ofFile.isStamping = false := by
      rw [isStamping, hstamp entry rfl]
      simp
    show Agrees capacity persistent written (ofDevice.stamp entry) (ofFile.stamp entry)
    rw [stamp, stamp, hdevice, hfile]
    exact h
  | stop => exact alike_of_quiet rfl rfl h.stop

/-! ## Histories -/

lemma agrees_start {fs host : FileSystem} {path : Path} {file : DataFile} (hfs : fs.WellFormed)
    (hopen : DataFile.openAt fs path = .ok (host, file)) (hempty : file.isEmpty = true)
    (capacity : Nat) (persistent : Bool) (settings : Settings) :
    Agrees capacity persistent [] (start settings (Device.empty capacity))
      (start settings (⟨host, file.persist persistent⟩ : HostedFile)) := by
  have hdevice : (Device.empty capacity).write [] = Device.empty capacity :=
    Device.write_nil List.not_mem_nil
  have hshared : (Shared.ofStorage (Device.empty capacity) : Shared Device) =
      .ofStorage ((Device.empty capacity).write []) := by
    rw [hdevice]
  exact
    { settings_eq := rfl
      sessions_eq := rfl
      serving_eq := rfl
      device_eq := hshared
      persistent_eq := rfl
      shared := fun _ => ⟨hshared, rfl, HostedFile.holds_of_openAt hfs hopen hempty persistent⟩
      closed := fun hstopped => absurd hstopped.symm Bool.false_ne_true }

lemma settings_handle {σ ρ : Type} [Storage σ ρ] (server : Server σ) (event : Event) :
    (server.handle event).1.settings = server.settings := by
  cases event with
  | connect number =>
    show (server.connect number).settings = _
    unfold connect
    split <;> rfl
  | receive number piece =>
    show (server.receive number piece).1.settings = _
    cases hsession : server.sessions number with
    | none => rw [(receive_of_none hsession piece).1]
    | some session =>
      rw [(receive_of_some hsession piece).1]
      rfl
  | hangUp number =>
    show (server.hangUp number).settings = _
    unfold hangUp
    split <;> rfl
  | stamp entry =>
    show (server.stamp entry).settings = _
    unfold stamp
    split <;> rfl
  | stop =>
    show server.stop.settings = _
    unfold Server.stop
    split <;> rfl

/-- What the servers do in a history, and that they agree at its end. -/
lemma Agrees.handleAll {events : List Event}
    (h : Agrees capacity persistent written ofDevice ofFile) (hcapacity : 0 < capacity)
    (hstamps : ∀ entry, .stamp entry ∈ events → ofFile.settings.interval = 0)
    (hstores : ∀ entry ∈ ofDevice.answeredAll events, Request.stores entry.command = true) :
    ofDevice.answeredAll events =
        (ofFile.answeredAll events).map (Answered.keepLast capacity) ∧
      Answered.ReplayAll written (ofFile.answeredAll events) ∧
      Agrees capacity persistent
        (written ++ Command.concat ((ofFile.answeredAll events).map Answered.command))
        (ofDevice.handleAll events).1 (ofFile.handleAll events).1 := by
  induction events generalizing written ofDevice ofFile with
  | nil =>
    refine ⟨rfl, Answered.replayAll_nil written, ?_⟩
    rw [answeredAll, List.map_nil, Command.concat, List.flatMap_nil, List.append_nil]
    exact h
  | cons event others ih =>
    have hnow : Alike capacity persistent written ofDevice ofFile event := by
      refine h.handle hcapacity ?_ fun entry hentry => hstores entry (List.mem_append_left _ hentry)
      rintro entry rfl
      exact hstamps entry List.mem_cons_self
    have hsettings : (ofFile.handle event).1.settings = ofFile.settings := ofFile.settings_handle event
    obtain ⟨hkept, hreplay, hlast⟩ := ih hnow.after
      (fun entry hentry => by rw [hsettings]; exact hstamps entry (List.mem_cons_of_mem _ hentry))
      (fun entry hentry => hstores entry (List.mem_append_right _ hentry))
    rw [handleAll_cons_fst, handleAll_cons_fst, answeredAll, answeredAll, List.map_append,
      List.map_append, Command.concat_append, ← List.append_assoc]
    exact ⟨by rw [hnow.answered_eq, hkept], Answered.replayAll_append hnow.replayAll hreplay, hlast⟩

/-- Whatever the capacity, the settings and the path, and whether the file is to outlive the server:
behind a server whose clients only have commands stored, a device and a data file that both hold
nothing at first do the same, as far as there is room.  The same commands are carried out for the
same connections, in the same order, and the same connections are closed.  On the data file, a
command is answered with all commands up to this one; on the device with the last lines of that, so
many as there is room for, and with the same bytes as long as there were no more.  These replies are
what is sent, and nothing else is.  In the same way the log of the device is that of the data file, as
long as that is there. -/
theorem device_agrees_with_file {device : Device} (hdevice : Device.ofCapacity capacity = .ok device)
    {fs host : FileSystem} {path : Path} {file : DataFile} (hfs : fs.WellFormed)
    (hopen : DataFile.openAt fs path = .ok (host, file)) (hempty : file.isEmpty = true)
    (persistent : Bool) (settings : Settings) {events : List Event}
    (hstamps : settings.interval = 0 ∨ ∀ entry, .stamp entry ∉ events)
    (hstores : ∀ entry ∈ (start settings device).answeredAll events,
      Request.stores entry.command = true) :
    let ofDevice := start settings device
    let ofFile := start settings (⟨host, file.persist persistent⟩ : HostedFile)
    let answers := ofFile.answeredAll events
    let stored := answers.map Answered.command
    ofDevice.answeredAll events = answers.map (Answered.keepLast capacity) ∧
    (∀ k entry, answers[k]? = some entry →
      entry.reply = some (Command.concat (stored.take (k + 1)))) ∧
    (∀ k < capacity, (ofDevice.answeredAll events)[k]? = answers[k]?) ∧
    (∀ number, (ofDevice.handleAll events).1.isOpen number =
      (ofFile.handleAll events).1.isOpen number) ∧
    (ofDevice.handleAll events).1.log? =
      some (Bytes.lastLines capacity (Command.concat stored)) ∧
    (stored.length ≤ capacity →
      (ofDevice.handleAll events).1.log? = some (Command.concat stored)) ∧
    ((ofFile.handleAll events).1.isServing = true ∨ persistent = true →
      (ofFile.handleAll events).1.log? = some (Command.concat stored)) ∧
    (ofFile.handleAll events).2.flatten =
      (answers.flatMap fun answered => answered.reply.getD []) ∧
    (ofDevice.handleAll events).2.flatten =
      (answers.flatMap fun answered => (answered.keepLast capacity).reply.getD []) := by
  obtain ⟨hcapacity, rfl⟩ := Device.ofCapacity_eq_ok hdevice
  intro ofDevice ofFile answers stored
  have hinterval : ∀ entry, .stamp entry ∈ events → ofFile.settings.interval = 0 :=
    fun entry hentry => hstamps.resolve_right fun hnone => hnone entry hentry
  obtain ⟨hkept, hreplay, hlast⟩ :=
    (agrees_start hfs hopen hempty capacity persistent settings).handleAll hcapacity hinterval
      hstores
  have hcomplete : ∀ command ∈ stored, command.IsComplete := by
    intro command hcommand
    obtain ⟨entry, hentry, rfl⟩ := List.mem_map.1 hcommand
    exact isComplete_of_mem_answeredAll hentry
  have hlog : (ofDevice.handleAll events).1.log? =
      some (Bytes.lastLines capacity (Command.concat stored)) := by
    show some (ofDevice.handleAll events).1.shared.storage.contents = _
    rw [hlast.device_eq]
    exact congrArg some (Device.keeps_write_empty hcapacity (Command.concat stored)).contents_eq
  refine ⟨hkept, hreplay, ?_, ?_, hlog, ?_, ?_, handleAll_eq_answeredAll ofFile events, ?_⟩
  · intro k hk
    rw [hkept, List.getElem?_map]
    cases hentry : answers[k]? with
    | none => rfl
    | some entry =>
      have hfew : (stored.take (k + 1)).length ≤ capacity := by
        rw [List.length_take]
        omega
      have hfirst : ∀ command ∈ stored.take (k + 1), command.IsComplete :=
        fun command hcommand => hcomplete command (List.mem_of_mem_take hcommand)
      obtain ⟨connection, command, reply⟩ := entry
      have hreply : reply = some (Command.concat (stored.take (k + 1))) := hreplay k _ hentry
      rw [hreply]
      exact congrArg (fun bytes => some (Answered.mk connection command (some bytes)))
        (Bytes.lastLines_concat_of_le hfirst hfew)
  · intro number
    unfold isOpen
    rw [hlast.sessions_eq]
  · intro hfew
    rw [hlog, Bytes.lastLines_concat_of_le hcomplete hfew]
  · intro hthere
    exact (hlast.shared hthere).holds.contents?_eq
  · have hsent : (ofDevice.handleAll events).2.flatten =
        (ofDevice.answeredAll events).flatMap fun answered => answered.reply.getD [] :=
      handleAll_eq_answeredAll ofDevice events
    rw [hsent, hkept, List.flatMap_map]

/-- With room for one command, the second command is answered with itself by the device, and with both
commands by the data file, which outlives the server. -/
theorem device_agrees_with_file_one :
    ∃ host file, DataFile.openAt (.ofDirectories [["tmp"]] []) (.ofString "/tmp/log") =
        .ok (host, file) ∧ file.isEmpty = true ∧
      let events : List Event :=
        [.connect 0, .connect 1, .receive 0 [97, 10], .receive 1 [98], .receive 1 [10], .stop]
      let ofDevice := start ⟨true, 0⟩ (Device.empty 1)
      let ofFile := start ⟨true, 0⟩ (⟨host, file.persist true⟩ : HostedFile)
      ofDevice.answeredAll events =
          (ofFile.answeredAll events).map (Answered.keepLast 1) ∧
        (ofDevice.answeredAll events)[0]? = (ofFile.answeredAll events)[0]? ∧
        (ofDevice.handleAll events).1.log? =
          some (Bytes.lastLines 1
            (Command.concat ((ofFile.answeredAll events).map Answered.command))) ∧
        (ofFile.handleAll events).1.log? =
          some (Command.concat ((ofFile.answeredAll events).map Answered.command)) ∧
        (ofDevice.handleAll events).2.flatten =
          ((ofFile.answeredAll events).flatMap fun answered =>
            (answered.keepLast 1).reply.getD []) := by
  obtain ⟨host, file, hopen, hempty⟩ : ∃ host file,
      DataFile.openAt (.ofDirectories [["tmp"]] []) (.ofString "/tmp/log") = .ok (host, file) ∧
        file.isEmpty = true :=
    ⟨_, _, rfl, rfl⟩
  obtain ⟨hkept, -, hsame, -, hlog, -, hfile, -, hsent⟩ :=
    device_agrees_with_file (show Device.ofCapacity 1 = .ok (Device.empty 1) from rfl)
      (FileSystem.wellFormed_ofDirectories _ _) hopen hempty true ⟨true, 0⟩
      (show (0 = 0 ∨ ∀ entry, Event.stamp entry ∉
        [.connect 0, .connect 1, .receive 0 [97, 10], .receive 1 [98], .receive 1 [10], .stop])
        from .inl rfl)
      (by decide +kernel)
  exact ⟨host, file, hopen, hempty, hkept, hsame 0 Nat.one_pos, hlog, hfile (.inr rfl),
    hsent⟩

end Server

end CommandLog
