import CommandLog.Server
import CommandLog.Proofs.Storage.View

/-!
# Connections that store nothing

A connection may send bytes that never become a command, ask for the log from a place that is there
or from one that is not, ask in a way that cannot be read, and hang up at any time.  As long as the
storage is given nothing of it to append, nobody else can tell that it was there.  The main
statement `handleAll_erase` compares two runs of a server: one with the connection, and one from
whose history all its events are erased.  The others are sent the same bytes and are closed at the
same times, the log is the same at every time, and so is the result once the server has stopped.

The proof relates the states of the two runs by `Server.SameBeside`: they agree on all but the
erased connection's own session.  An event of that connection keeps the relation because it leaves
the storage and its lock as they are (`sameBeside_handle`), and an event of anyone else keeps it
because it looks at nothing that the two states disagree on (`SameBeside.handle`).
-/

namespace CommandLog

/-! ## What the storage is given to append -/

namespace Shared

variable {σ ρ : Type} [Storage σ ρ]

/-- The commands that the storage is given to append while commands are answered in order. -/
def appended (shared : Shared σ) : List Command → List Command
  | [] => []
  | command :: others =>
    let now := if Request.stores command && !shared.poisoned then [command] else []
    match shared.answer command with
    | (_, _, some _) => now
    | (shared, _, none) => now ++ shared.appended others

/-- A command changes nothing if the storage is not given it to append. -/
lemma execute_of_not_appended {shared : Shared σ} {command : Command}
    (h : (Request.stores command && !shared.poisoned) = false) :
    (shared.execute command).1 = shared := by
  cases hstores : Request.stores command with
  | false => exact execute_of_not_stores hstores shared
  | true =>
    cases hpoisoned : shared.poisoned with
    | true => exact (execute_of_poisoned hpoisoned command).1
    | false =>
      rw [hstores, hpoisoned] at h
      exact absurd h (by decide)

/-- To send a reply changes nothing. -/
lemma answer_fst (shared : Shared σ) (command : Command) :
    (shared.answer command).1 = (shared.execute command).1 := by
  unfold answer
  rcases shared.execute command with ⟨after, stop | reader⟩
  · rfl
  · simp only
    rcases Storage.readToEnd after.storage reader with fault | ⟨reply, last⟩
    · rfl
    · rfl

lemma answerAll_of_appended_eq_nil {shared : Shared σ} {commands : List Command}
    (h : shared.appended commands = []) : (shared.answerAll commands).1 = shared := by
  induction commands with
  | nil => rfl
  | cons command others ih =>
    have hsame := answer_fst shared command
    rw [appended] at h
    rw [answerAll]
    cases hnow : Request.stores command && !shared.poisoned with
    | true =>
      rw [hnow] at h
      rcases hanswer : shared.answer command with ⟨after, reply, _ | stop⟩ <;> simp [hanswer] at h
    | false =>
      rw [execute_of_not_appended hnow] at hsame
      rw [hnow] at h
      rcases hanswer : shared.answer command with ⟨after, reply, _ | stop⟩
      · rw [hanswer] at h hsame
        subst hsame
        simp only [Bool.false_eq_true, if_false, List.nil_append] at h
        exact ih h
      · rw [hanswer] at hsame
        exact hsame

end Shared

namespace Session

variable {σ ρ : Type} [Storage σ ρ]

/-- The commands that the storage is given to append when a piece is received. -/
def appended (shared : Shared σ) (session : Session) (piece : Bytes) : List Command :=
  if session.isOpen then shared.appended (session.buffer.feed piece).drain.1 else []

lemma receive_of_appended_eq_nil {shared : Shared σ} {session : Session} {piece : Bytes}
    (keepAlive : Bool) (h : session.appended shared piece = []) :
    (session.receive keepAlive shared piece).1 = shared := by
  unfold receive
  unfold appended at h
  cases hopen : session.isOpen with
  | false => rfl
  | true =>
    rw [hopen] at h
    simp only [Bool.not_true, Bool.false_eq_true, if_false]
    rcases hdrain : (session.buffer.feed piece).drain with ⟨_ | ⟨command, others⟩, buffer⟩
    · rfl
    · rw [hdrain] at h
      exact Shared.answerAll_of_appended_eq_nil h

end Session

namespace Server

section Erasure

variable {σ ρ : Type} [Storage σ ρ]

/-- The commands that the storage is given to append for a connection because of an event. -/
def appended (server : Server σ) (number : Nat) : Event → List Command
  | .receive other piece =>
    if other = number then
      (server.sessions number).elim [] fun session => session.appended server.shared piece
    else []
  | _ => []

/-- The commands that the storage is given to append for a connection during a history. -/
def appendedBy (server : Server σ) (number : Nat) : List Event → List Command
  | [] => []
  | event :: others =>
    server.appended number event ++ (server.handle event).1.appendedBy number others

/-- The history without the events of a connection. -/
def erase (number : Nat) (events : List Event) : List Event :=
  events.filter fun event => event.connection? ≠ some number

/-- The events of a history, each with what is sent because of it. -/
def transcript (server : Server σ) (events : List Event) : List (Event × Bytes) :=
  events.zip (server.handleAll events).2

/-! ## Servers that differ in one connection -/

/-- The servers agree on everything but the session of one connection. -/
structure SameBeside (number : Nat) (server other : Server σ) : Prop where
  settings_eq : server.settings = other.settings
  shared_eq : server.shared = other.shared
  sessions_eq : ∀ n ≠ number, server.sessions n = other.sessions n
  result_eq : server.result = other.result

variable {server other : Server σ} {number : Nat} {event : Event}

lemma SameBeside.refl (number : Nat) (server : Server σ) : server.SameBeside number server :=
  ⟨rfl, rfl, fun _ _ => rfl, rfl⟩

lemma SameBeside.trans {third : Server σ} (h : server.SameBeside number other)
    (h' : other.SameBeside number third) : server.SameBeside number third where
  settings_eq := h.settings_eq.trans h'.settings_eq
  shared_eq := h.shared_eq.trans h'.shared_eq
  sessions_eq := fun n hn => (h.sessions_eq n hn).trans (h'.sessions_eq n hn)
  result_eq := h.result_eq.trans h'.result_eq

lemma sameBeside_setSession (server : Server σ) (number : Nat) (session : Session) :
    (server.setSession number session).SameBeside number server where
  settings_eq := rfl
  shared_eq := rfl
  sessions_eq := fun _ hn => if_neg hn
  result_eq := rfl

/-- What is put in the place of another connection's session is seen by both. -/
lemma SameBeside.setSession (h : server.SameBeside number other) (n : Nat) (session : Session) :
    (server.setSession n session).SameBeside number (other.setSession n session) where
  settings_eq := h.settings_eq
  shared_eq := h.shared_eq
  sessions_eq := by
    intro m hm
    show (if m = n then some session else server.sessions m) =
      if m = n then some session else other.sessions m
    rw [h.sessions_eq m hm]
  result_eq := h.result_eq

/-- With the same settings and the same storage, only the sessions can differ. -/
lemma SameBeside.withShared (h : server.SameBeside number other) (settings : Settings)
    (shared : Shared σ) :
    (⟨settings, shared, server.sessions, server.result⟩ : Server σ).SameBeside number
      ⟨settings, shared, other.sessions, other.result⟩ where
  settings_eq := rfl
  shared_eq := rfl
  sessions_eq := h.sessions_eq
  result_eq := h.result_eq

/-- An event of the connection is seen by the connection only. -/
lemma sameBeside_handle (hevent : event.connection? = some number)
    (h : server.appended number event = []) :
    (server.handle event).1.SameBeside number server := by
  cases event with
  | connect n =>
    cases hevent
    show (server.connect number).SameBeside number server
    unfold connect
    split
    · exact server.sameBeside_setSession number _
    · exact .refl number server
  | receive n piece =>
    cases hevent
    show (server.receive number piece).1.SameBeside number server
    unfold receive
    cases hsession : server.sessions number with
    | none => exact .refl number server
    | some session =>
      rw [appended, if_pos rfl, hsession, Option.elim_some] at h
      have hshared := Session.receive_of_appended_eq_nil server.settings.keepAlive h
      simp only [hshared]
      exact server.sameBeside_setSession number _
  | hangUp n =>
    cases hevent
    show (server.hangUp number).SameBeside number server
    unfold hangUp
    cases server.sessions number with
    | none => exact .refl number server
    | some session => exact server.sameBeside_setSession number _
  | stamp entry => cases hevent
  | stop => cases hevent

lemma SameBeside.isServing_eq (h : server.SameBeside number other) :
    server.isServing = other.isServing := by
  rw [isServing, isServing, h.result_eq]

/-- An event of anyone else leads to the same on both servers. -/
lemma SameBeside.handle (h : server.SameBeside number other)
    (hevent : event.connection? ≠ some number) :
    (server.handle event).2 = (other.handle event).2 ∧
      (server.handle event).1.SameBeside number (other.handle event).1 := by
  cases event with
  | connect n =>
    refine ⟨rfl, ?_⟩
    show (server.connect n).SameBeside number (other.connect n)
    unfold connect
    rw [h.isServing_eq]
    split
    · exact h.setSession n _
    · exact h
  | receive n piece =>
    have hn : n ≠ number := fun heq => hevent (congrArg some heq)
    show (server.receive n piece).2 = (other.receive n piece).2 ∧
      (server.receive n piece).1.SameBeside number (other.receive n piece).1
    unfold receive
    rw [h.sessions_eq n hn, h.settings_eq, h.shared_eq]
    cases other.sessions n with
    | none => exact ⟨rfl, h⟩
    | some session =>
      refine ⟨rfl, ?_⟩
      exact (h.withShared _ _).setSession n _
  | hangUp n =>
    have hn : n ≠ number := fun heq => hevent (congrArg some heq)
    refine ⟨rfl, ?_⟩
    show (server.hangUp n).SameBeside number (other.hangUp n)
    unfold hangUp
    rw [h.sessions_eq n hn]
    cases other.sessions n with
    | none => exact h
    | some session => exact h.setSession n _
  | stamp entry =>
    refine ⟨rfl, ?_⟩
    show (server.stamp entry).SameBeside number (other.stamp entry)
    unfold stamp isStamping
    rw [h.isServing_eq, h.settings_eq, h.shared_eq]
    split
    · exact h.withShared _ _
    · exact h
  | stop =>
    refine ⟨rfl, ?_⟩
    show server.stop.SameBeside number other.stop
    unfold stop
    rw [h.isServing_eq, h.shared_eq]
    split
    · refine ⟨h.settings_eq, rfl, ?_, rfl⟩
      intro n hn
      exact congrArg (Option.map Session.close) (h.sessions_eq n hn)
    · exact h

/-! ## Histories -/

lemma erase_cons_of_eq (hevent : event.connection? = some number) (others : List Event) :
    erase number (event :: others) = erase number others :=
  List.filter_cons_of_neg (by simp [hevent])

lemma erase_cons_of_ne (hevent : event.connection? ≠ some number) (others : List Event) :
    erase number (event :: others) = event :: erase number others :=
  List.filter_cons_of_pos (by simp [hevent])

lemma handleAll_cons_fst (server : Server σ) (event : Event) (others : List Event) :
    (server.handleAll (event :: others)).1 = ((server.handle event).1.handleAll others).1 := rfl

lemma transcript_cons (server : Server σ) (event : Event) (others : List Event) :
    server.transcript (event :: others) =
      (event, (server.handle event).2) :: (server.handle event).1.transcript others := rfl

/-- Two servers that differ in one connection stay so, if the history of the one is that of the
other without the events of this connection, and what is sent to anyone else is the same. -/
lemma SameBeside.handleAll {events : List Event} (h : server.SameBeside number other)
    (hnothing : server.appendedBy number events = []) :
    (server.handleAll events).1.SameBeside number (other.handleAll (erase number events)).1 ∧
      other.transcript (erase number events) =
        (server.transcript events).filter fun entry => entry.1.connection? ≠ some number := by
  induction events generalizing server other with
  | nil => exact ⟨h, rfl⟩
  | cons event others ih =>
    obtain ⟨hnow, hlater⟩ := List.append_eq_nil_iff.1 hnothing
    rw [handleAll_cons_fst, transcript_cons]
    by_cases hevent : event.connection? = some number
    · -- a step that only the run with the connection makes
      have hown := sameBeside_handle hevent hnow
      obtain ⟨hstate, htranscript⟩ := ih (hown.trans h) hlater
      rw [erase_cons_of_eq hevent, List.filter_cons_of_neg (by simp [hevent])]
      exact ⟨hstate, htranscript⟩
    · -- a step that both runs make
      obtain ⟨hreply, hafter⟩ := h.handle hevent
      obtain ⟨hstate, htranscript⟩ := ih hafter hlater
      rw [erase_cons_of_ne hevent, handleAll_cons_fst, transcript_cons,
        List.filter_cons_of_pos (by simp [hevent]), htranscript, hreply]
      exact ⟨hstate, rfl⟩

lemma appendedBy_append (server : Server σ) (number : Nat) (events others : List Event) :
    server.appendedBy number (events ++ others) =
      server.appendedBy number events ++
        (server.handleAll events).1.appendedBy number others := by
  induction events generalizing server with
  | nil => rfl
  | cons event events ih =>
    rw [List.cons_append, appendedBy, appendedBy, ih, List.append_assoc, handleAll_cons_fst]

end Erasure

/-- Whatever the storage, its state and the settings: if nothing is appended for a connection during
a history, then erasing its events leaves what is sent to all others as it is, and at every time the
others' connections that are open, the log, the storage behind its lock, and the result. -/
theorem handleAll_erase {medium : Medium} (settings : Settings) (storage : medium.Store)
    {events : List Event} {number : Nat}
    (h : (start settings storage).appendedBy number events = []) :
    (start settings storage).transcript (erase number events) =
        ((start settings storage).transcript events).filter
          (fun entry => entry.1.connection? ≠ some number) ∧
      ∀ before, before <+: events →
        let server := ((start settings storage).handleAll before).1
        let other := ((start settings storage).handleAll (erase number before)).1
        (∀ n ≠ number, server.isOpen n = other.isOpen n) ∧ server.log? = other.log? ∧
          server.shared = other.shared ∧ server.result = other.result := by
  have hstart := SameBeside.refl number (start settings storage)
  refine ⟨(hstart.handleAll h).2, ?_⟩
  rintro before ⟨later, rfl⟩
  rw [appendedBy_append] at h
  have hbefore := (hstart.handleAll (List.append_eq_nil_iff.1 h).1).1
  intro server other
  refine ⟨?_, ?_, hbefore.shared_eq, hbefore.result_eq⟩
  · intro n hn
    unfold isOpen
    rw [hbefore.sessions_eq n hn]
  · unfold log?
    rw [hbefore.shared_eq]

/-- Connection 1 asks for a place that is not there and is closed, and connection 2 only begins a
command; connection 0 is sent the same without connection 1. -/
theorem handleAll_erase_device :
    let server := start ⟨true, 0⟩ (Device.empty 1 : Medium.device.Store)
    let events : List Event :=
      [.connect 0, .connect 1, .receive 0 [97, 10], .connect 2,
        .receive 1 (Request.seekLine 5 0), .receive 2 [98], .receive 0 [99, 10], .stop]
    server.appendedBy 1 events = [] ∧
      server.transcript (erase 1 events) =
        (server.transcript events).filter (fun entry => entry.1.connection? ≠ some 1) ∧
      (server.handleAll events).1.log? = (server.handleAll (erase 1 events)).1.log? ∧
      (server.handleAll events).1.result = (server.handleAll (erase 1 events)).1.result := by
  have h : (start ⟨true, 0⟩ (Device.empty 1 : Medium.device.Store)).appendedBy 1
      [.connect 0, .connect 1, .receive 0 [97, 10], .connect 2,
        .receive 1 (Request.seekLine 5 0), .receive 2 [98], .receive 0 [99, 10], .stop] = [] := by
    decide +kernel
  obtain ⟨htranscript, hstates⟩ := @handleAll_erase .device ⟨true, 0⟩ (Device.empty 1) _ 1 h
  obtain ⟨-, hlog, -, hresult⟩ := hstates _ List.prefix_rfl
  exact ⟨h, htranscript, hlog, hresult⟩

end Server

end CommandLog
