import CommandLog.Server
import Mathlib.Tactic.Common

/-!
# Storages that a server cannot tell apart

A server knows its storage only by what the operations on it answer.  `Storage.Likeness` says of a
relation between storages that every operation answers the same on both and keeps the relation.  The
lock sections and the replies then are the same (`Shared.Resembles.answerAll`), and so is all that a
server does, event by event: `Server.Resembles.handleAll`.
-/

namespace CommandLog

section

variable {σ σ' ρ : Type} [Storage σ ρ] [Storage σ' ρ]

/-- Storages in this relation answer every operation in the same way, and stay in the relation. -/
structure Storage.Likeness (R : σ → σ' → Prop) : Prop where
  append : ∀ {storage other}, R storage other → ∀ data,
    R (Storage.append storage data).1 (Storage.append other data).1 ∧
      (Storage.append other data).2 = (Storage.append storage data).2
  openReader : ∀ {storage other}, R storage other →
    (Storage.openReader other : Except Failure ρ) = Storage.openReader storage
  seekTo : ∀ {storage other}, R storage other → ∀ (reader : ρ) command offset,
    Storage.seekTo other reader command offset = Storage.seekTo storage reader command offset
  readToEnd : ∀ {storage other}, R storage other → ∀ reader : ρ,
    Storage.readToEnd other reader = Storage.readToEnd storage reader
  wantsTimestamps : ∀ {storage other}, R storage other →
    Storage.wantsTimestamps other = Storage.wantsTimestamps storage
  close : ∀ {storage other}, R storage other →
    R (Storage.close storage).1 (Storage.close other).1 ∧
      (Storage.close other).2 = (Storage.close storage).2
  contents?_eq : ∀ {storage other}, R storage other →
    Storage.contents? other = Storage.contents? storage

variable {R : σ → σ' → Prop}

/-! ## Under the lock -/

namespace Shared

/-- The storages are alike, and so are the locks. -/
structure Resembles (R : σ → σ' → Prop) (shared : Shared σ) (other : Shared σ') : Prop where
  storage : R shared.storage other.storage
  poisoned_eq : other.poisoned = shared.poisoned

variable {shared : Shared σ} {other : Shared σ'}

lemma Resembles.append (hR : Storage.Likeness R) (h : Resembles R shared other) (data : Bytes) :
    Resembles R (shared.append data).1 (other.append data).1 ∧
      (other.append data).2 = (shared.append data).2 := by
  unfold Shared.append
  rw [h.poisoned_eq]
  split
  · exact ⟨h, rfl⟩
  · next hpoisoned =>
    obtain ⟨hstorage, hend⟩ := hR.append h.storage data
    rcases hthis : Storage.append shared.storage data with ⟨after, ending⟩
    rcases hthat : Storage.append other.storage data with ⟨after', ending'⟩
    rw [hthis, hthat] at hstorage hend
    obtain rfl : ending' = ending := hend
    cases ending' with
    | stored | failed | panicked => exact ⟨⟨hstorage, rfl⟩, rfl⟩

lemma Resembles.openReader (hR : Storage.Likeness R) (h : Resembles R shared other) :
    (other.openReader : Except Stop ρ) = shared.openReader := by
  rw [Shared.openReader, hR.openReader h.storage, Shared.openReader]

lemma Resembles.seek (hR : Storage.Likeness R) (h : Resembles R shared other)
    (command offset : UInt32) :
    (other.seek command offset : Except Stop ρ) = shared.seek command offset := by
  simp only [Shared.seek, h.poisoned_eq, h.openReader hR, hR.seekTo h.storage]

lemma Resembles.store (hR : Storage.Likeness R) (h : Resembles R shared other) (command : Command) :
    Resembles R (shared.store command).1 (other.store command).1 ∧
      (other.store command).2 = (shared.store command).2 := by
  obtain ⟨hafter, hend⟩ := h.append hR command.bytes
  unfold Shared.store
  rcases hthis : shared.append command.bytes with ⟨after, ending⟩
  rcases hthat : other.append command.bytes with ⟨after', ending'⟩
  rw [hthis, hthat] at hafter hend
  obtain rfl : ending' = ending := hend
  cases ending' with
  | ok => exact ⟨hafter, hafter.openReader hR⟩
  | error stop => exact ⟨hafter, rfl⟩

/-- A command is carried out in the same way. -/
lemma Resembles.execute (hR : Storage.Likeness R) (h : Resembles R shared other)
    (command : Command) :
    Resembles R (shared.execute command).1 (other.execute command).1 ∧
      (other.execute command).2 = (shared.execute command).2 := by
  unfold Shared.execute
  split
  · exact ⟨h, rfl⟩
  · exact h.store hR _
  · exact ⟨h, h.seek hR _ _⟩

lemma Resembles.answer (hR : Storage.Likeness R) (h : Resembles R shared other) (command : Command) :
    Resembles R (shared.answer command).1 (other.answer command).1 ∧
      (other.answer command).2 = (shared.answer command).2 := by
  obtain ⟨hafter, hend⟩ := h.execute hR command
  unfold Shared.answer
  rcases hthis : shared.execute command with ⟨after, ending⟩
  rcases hthat : other.execute command with ⟨after', ending'⟩
  rw [hthis, hthat] at hafter hend
  obtain rfl : ending' = ending := hend
  cases ending' with
  | error stop => exact ⟨hafter, rfl⟩
  | ok reader =>
    have hread := hR.readToEnd hafter.storage reader
    dsimp only at hafter hread ⊢
    rw [hread]
    cases Storage.readToEnd after.storage reader with
    | ok | error => exact ⟨hafter, rfl⟩

/-- Commands are answered in the same way, up to the same one. -/
lemma Resembles.answerAll (hR : Storage.Likeness R) (h : Resembles R shared other)
    (commands : List Command) :
    Resembles R (shared.answerAll commands).1 (other.answerAll commands).1 ∧
      (other.answerAll commands).2 = (shared.answerAll commands).2 := by
  induction commands generalizing shared other with
  | nil => exact ⟨h, rfl⟩
  | cons command others ih =>
    obtain ⟨hafter, hend⟩ := h.answer hR command
    unfold Shared.answerAll
    rcases hthis : shared.answer command with ⟨after, reply, stop⟩
    rcases hthat : other.answer command with ⟨after', reply', stop'⟩
    rw [hthis, hthat] at hafter hend
    obtain ⟨rfl, rfl⟩ := Prod.mk.inj hend
    cases stop' with
    | some stop => exact ⟨hafter, rfl⟩
    | none =>
      obtain ⟨hlast, hrest⟩ := ih hafter
      rcases hthese : after.answerAll others with ⟨last, replies, stop⟩
      rcases hthose : after'.answerAll others with ⟨last', replies', stop'⟩
      rw [hthese, hthose] at hlast hrest
      obtain ⟨rfl, rfl⟩ := Prod.mk.inj hrest
      simp only [hthese, hthose]
      exact ⟨hlast, trivial⟩

end Shared

/-- A connection receives a piece in the same way. -/
lemma Session.receive_of_resembles (hR : Storage.Likeness R) {shared : Shared σ} {other : Shared σ'}
    (h : Shared.Resembles R shared other) (keepAlive : Bool) (session : Session) (piece : Bytes) :
    Shared.Resembles R (session.receive keepAlive shared piece).1
        (session.receive keepAlive other piece).1 ∧
      (session.receive keepAlive other piece).2 = (session.receive keepAlive shared piece).2 := by
  unfold Session.receive
  split
  · exact ⟨h, rfl⟩
  · split
    · exact ⟨h, rfl⟩
    · next commands buffer _ _ =>
      obtain ⟨hafter, hrest⟩ := h.answerAll hR commands
      rcases hthese : shared.answerAll commands with ⟨after, reply, stop⟩
      rcases hthose : other.answerAll commands with ⟨after', reply', stop'⟩
      rw [hthese, hthose] at hafter hrest
      obtain ⟨rfl, rfl⟩ := Prod.mk.inj hrest
      exact ⟨hafter, rfl⟩

/-! ## Servers -/

namespace Server

/-- The storages are alike, and everything else is the same. -/
structure Resembles (R : σ → σ' → Prop) (server : Server σ) (other : Server σ') : Prop where
  settings_eq : other.settings = server.settings
  shared : Shared.Resembles R server.shared other.shared
  sessions_eq : other.sessions = server.sessions
  result_eq : other.result = server.result

variable {server : Server σ} {other : Server σ'}

lemma resembles_start {storage : σ} {storage' : σ'} (h : R storage storage') (settings : Settings) :
    Resembles R (start settings storage) (start settings storage') :=
  ⟨rfl, ⟨h, rfl⟩, rfl, rfl⟩

lemma Resembles.isServing_eq (h : Resembles R server other) :
    other.isServing = server.isServing := by
  rw [isServing, h.result_eq, isServing]

lemma Resembles.isOpen_eq (h : Resembles R server other) (number : Nat) :
    other.isOpen number = server.isOpen number := by
  rw [isOpen, h.sessions_eq, isOpen]

lemma Resembles.log?_eq (hR : Storage.Likeness R) (h : Resembles R server other) :
    other.log? = server.log? :=
  hR.contents?_eq h.shared.storage

lemma Resembles.setSession (h : Resembles R server other) (number : Nat) (session : Session) :
    Resembles R (server.setSession number session) (other.setSession number session) where
  settings_eq := h.settings_eq
  shared := h.shared
  sessions_eq := by
    show (fun n => if n = number then some session else other.sessions n) = _
    rw [h.sessions_eq]
    rfl
  result_eq := h.result_eq

lemma Resembles.withShared (h : Resembles R server other) {shared : Shared σ} {shared' : Shared σ'}
    (hshared : Shared.Resembles R shared shared') :
    Resembles R { server with shared } { other with shared := shared' } :=
  ⟨h.settings_eq, hshared, h.sessions_eq, h.result_eq⟩

lemma Resembles.receive (hR : Storage.Likeness R) (h : Resembles R server other) (number : Nat)
    (piece : Bytes) :
    Resembles R (server.receive number piece).1 (other.receive number piece).1 ∧
      (other.receive number piece).2 = (server.receive number piece).2 := by
  unfold Server.receive
  rw [h.sessions_eq, h.settings_eq]
  cases server.sessions number with
  | none => exact ⟨h, rfl⟩
  | some session =>
    obtain ⟨hafter, hrest⟩ :=
      Session.receive_of_resembles hR h.shared server.settings.keepAlive session piece
    rcases hthis : session.receive server.settings.keepAlive server.shared piece with
      ⟨shared, after, reply⟩
    rcases hthat : session.receive server.settings.keepAlive other.shared piece with
      ⟨shared', after', reply'⟩
    rw [hthis, hthat] at hafter hrest
    obtain ⟨rfl, rfl⟩ := Prod.mk.inj hrest
    simp only [hthis, hthat]
    refine ⟨Resembles.setSession ?_ number after', trivial⟩
    exact ⟨rfl, hafter, rfl, h.result_eq⟩

lemma Resembles.stamp (hR : Storage.Likeness R) (h : Resembles R server other) (entry : Command) :
    Resembles R (server.stamp entry) (other.stamp entry) := by
  have hstamping : other.isStamping = server.isStamping := by
    rw [isStamping, h.isServing_eq, h.settings_eq, hR.wantsTimestamps h.shared.storage, isStamping]
  unfold Server.stamp
  rw [hstamping]
  split
  · exact h.withShared (h.shared.append hR entry.bytes).1
  · exact h

lemma Resembles.stop (hR : Storage.Likeness R) (h : Resembles R server other) :
    Resembles R server.stop other.stop := by
  unfold Server.stop
  rw [h.isServing_eq]
  split
  · obtain ⟨hstorage, hresult⟩ := hR.close h.shared.storage
    refine ⟨h.settings_eq, ⟨hstorage, h.shared.poisoned_eq⟩, ?_, congrArg some hresult⟩
    dsimp only
    rw [h.sessions_eq]
  · exact h

/-- Whatever happens to two servers over storages that are alike, they do the same. -/
lemma Resembles.handle (hR : Storage.Likeness R) (h : Resembles R server other) (event : Event) :
    Resembles R (server.handle event).1 (other.handle event).1 ∧
      (other.handle event).2 = (server.handle event).2 := by
  cases event with
  | connect number =>
    refine ⟨?_, rfl⟩
    show Resembles R (server.connect number) (other.connect number)
    unfold Server.connect
    rw [h.isServing_eq]
    split
    · exact h.setSession number .start
    · exact h
  | receive number piece => exact h.receive hR number piece
  | hangUp number =>
    refine ⟨?_, rfl⟩
    show Resembles R (server.hangUp number) (other.hangUp number)
    unfold Server.hangUp
    rw [h.sessions_eq]
    split
    · exact h
    · exact h.setSession number _
  | stamp entry => exact ⟨h.stamp hR entry, rfl⟩
  | stop => exact ⟨h.stop hR, rfl⟩

lemma Resembles.handleAll (hR : Storage.Likeness R) (h : Resembles R server other)
    (events : List Event) :
    Resembles R (server.handleAll events).1 (other.handleAll events).1 ∧
      (other.handleAll events).2 = (server.handleAll events).2 := by
  induction events generalizing server other with
  | nil => exact ⟨h, rfl⟩
  | cons event others ih =>
    obtain ⟨hafter, hreply⟩ := h.handle hR event
    obtain ⟨hlast, hreplies⟩ := ih hafter
    exact ⟨hlast, congrArg₂ List.cons hreply hreplies⟩

end Server

end

end CommandLog
