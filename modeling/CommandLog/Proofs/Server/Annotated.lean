import CommandLog.Proofs.Server.Closing
import CommandLog.Proofs.Server.Outline
import CommandLog.Proofs.Storage.Growing
import CommandLog.Proofs.Timestamp.Lines

/-!
# Storages and workers beside timestamps

Two servers keep their logs in storages of the same kind, and only the first writes timestamps.  The
log of the first is that of the second with timestamps added (`Shared.Annotated`), and so is each
reply, from what was sent of it to what the reader still has before it (`WorkerPhase.SameReply`).  A
reader of a file sees a timestamp that is written while its reply is being sent, so that the two need
not have sent the same part of it.

`Connection.Annotated` says that two connections are at the same point, and is kept by all that their
workers do.
-/

namespace CommandLog

section Storages

variable {σ ρ : Type} [Storage σ ρ] [GrowingLog σ] {old inserted : List Bytes}

/-! ## Two storages -/

lemma GrowingLog.rest_of_read {storage : σ} {reader moved : ρ} {room : Nat} {piece rest : Bytes}
    (hread : Storage.read storage reader room = .ok (piece, moved)) (hrest : Reads storage reader rest) :
    rest = piece ++ rest.drop room ∧ Reads storage moved (rest.drop room) := by
  obtain ⟨there, hthis, hthere⟩ := GrowingLog.read hrest room
  rw [hread] at hthis
  cases hthis
  exact ⟨(List.take_append_drop room rest).symm, hthere⟩

/-- With room for a byte, nothing is read only where nothing is left. -/
lemma GrowingLog.rest_eq_nil_of_read {storage : σ} {reader moved : ρ} {room : Nat} {rest : Bytes}
    (hroom : room ≠ 0) (hread : Storage.read storage reader room = .ok ([], moved))
    (hrest : Reads storage reader rest) : rest = [] := by
  obtain ⟨there, hthis, -⟩ := GrowingLog.read hrest room
  rw [hread] at hthis
  have htake : rest.take room = [] := (congrArg Prod.fst (Except.ok.inj hthis)).symm
  exact (List.take_eq_nil_iff.1 htake).resolve_left hroom

/-- When the storages become these, their readers see more, and what they see stays the same up to
timestamps. -/
def GrowingLog.Grow (old : List Bytes) (storage plain after after' : σ) : Prop :=
  ∃ seen seen' : Bytes,
    (∀ reader rest, Reads storage reader rest → Reads after reader (rest ++ seen)) ∧
    (∀ reader rest, Reads plain reader rest → Reads after' reader (rest ++ seen')) ∧
    ∀ log other, Timestamp.Annotated old log other →
      Timestamp.Annotated old (log ++ seen) (other ++ seen')

/-- The same storage behind two locks, but for the timestamps that were written into the first since:
these are `inserted`, and there were the `old` ones before. -/
structure Shared.Annotated (old inserted : List Bytes) (shared plain : Shared σ) : Prop where
  poisoned_eq : shared.poisoned = false
  plain_poisoned_eq : plain.poisoned = false
  manner_eq : GrowingLog.manner shared.storage = GrowingLog.manner plain.storage
  wantsTimestamps_eq : (GrowingLog.manner shared.storage).wantsTimestamps = true
  logs : ∃ log other, GrowingLog.Holds shared.storage log ∧ GrowingLog.Holds plain.storage other ∧
    Timestamp.Annotated old log other ∧ Timestamp.stamps log = old ++ inserted

namespace Shared

variable {shared plain : Shared σ} {line : Bytes} {command : Command}

omit [GrowingLog σ] in
lemma append_eq_ok {after : σ} (hpoisoned : shared.poisoned = false)
    (happend : Storage.append shared.storage line = (after, .stored)) :
    shared.append line = (.ofStorage after, .ok ()) := by
  obtain ⟨storage, poisoned⟩ := shared
  obtain rfl : poisoned = false := hpoisoned
  rw [append, if_neg Bool.false_ne_true, happend]
  rfl

/-- A line that is no timestamp is appended to both storages. -/
lemma Annotated.append (h : Annotated old inserted shared plain) (hline : line.IsLine)
    (hstamp : Timestamp.isStamp line = false) :
    ∃ after after', shared.append line = (.ofStorage after, .ok ()) ∧
      plain.append line = (.ofStorage after', .ok ()) ∧
      Annotated old inserted (.ofStorage after) (.ofStorage after') ∧
      GrowingLog.Grow old shared.storage plain.storage after after' := by
  obtain ⟨log, other, hholds, hholds', hlogs, hstamps⟩ := h.logs
  obtain ⟨after, happend, hafter, hmanner, hreads⟩ := GrowingLog.append hholds line
  obtain ⟨after', happend', hafter', hmanner', hreads'⟩ := GrowingLog.append hholds' line
  refine ⟨after, after', append_eq_ok h.poisoned_eq happend,
    append_eq_ok h.plain_poisoned_eq happend', ⟨rfl, rfl, ?_, ?_, ?_⟩, _, _, hreads, hreads', ?_⟩
  · exact hmanner.trans (h.manner_eq.trans hmanner'.symm)
  · exact (congrArg Manner.wantsTimestamps hmanner).trans h.wantsTimestamps_eq
  · refine ⟨_, _, hafter, hafter', hlogs.append hline hstamp, ?_⟩
    rw [Timestamp.stamps_append hlogs.log_complete, hstamps, Timestamp.stamps_of_isLine hline,
      hstamp, if_neg Bool.false_ne_true, List.append_nil]
  · intro log other hannotated
    split
    · exact hannotated.append hline hstamp
    · rw [List.append_nil, List.append_nil]
      exact hannotated

/-- A timestamp is appended to the first storage. -/
lemma Annotated.stamp (h : Annotated old inserted shared plain) (hline : line.IsLine)
    (hstamp : Timestamp.isStamp line = true) :
    ∃ after, shared.append line = (.ofStorage after, .ok ()) ∧
      Annotated old (inserted ++ [line]) (.ofStorage after) plain ∧
      GrowingLog.Grow old shared.storage plain.storage after plain.storage := by
  obtain ⟨log, other, hholds, hholds', hlogs, hstamps⟩ := h.logs
  obtain ⟨after, happend, hafter, hmanner, hreads⟩ := GrowingLog.append hholds line
  refine ⟨after, append_eq_ok h.poisoned_eq happend,
    ⟨rfl, h.plain_poisoned_eq, hmanner.trans h.manner_eq, ?_, ?_⟩, _, [], hreads, ?_, ?_⟩
  · exact (congrArg Manner.wantsTimestamps hmanner).trans h.wantsTimestamps_eq
  · refine ⟨_, _, hafter, hholds', hlogs.stamp hline hstamp, ?_⟩
    rw [Timestamp.stamps_append hlogs.log_complete, hstamps, Timestamp.stamps_of_isLine hline,
      if_pos hstamp, List.append_assoc]
  · intro reader rest hrest
    rw [List.append_nil]
    exact hrest
  · intro log other hannotated
    rw [List.append_nil]
    split
    · exact hannotated.stamp hline hstamp
    · rw [List.append_nil]
      exact hannotated

/-- In the lock section of a command, either both fail in the same way and nothing has changed, or
both open a reader on all that is in the log then. -/
lemma Annotated.execute (h : Annotated old inserted shared plain) (hcomplete : command.IsComplete)
    (hstamp : Timestamp.isStamp command.bytes = false) :
    (∃ stop, shared.execute command = (shared, .error stop) ∧
      plain.execute command = (plain, .error stop)) ∨
    ∃ after after' reader reader' log other,
      shared.execute command = (.ofStorage after, .ok reader) ∧
      plain.execute command = (.ofStorage after', .ok reader') ∧
      Annotated old inserted (.ofStorage after) (.ofStorage after') ∧
      GrowingLog.Grow old shared.storage plain.storage after after' ∧
      GrowingLog.Reads after reader log ∧ GrowingLog.Reads after' reader' other ∧
      Timestamp.Annotated old log other := by
  unfold Shared.execute
  rcases hrequest : Request.ofCommand command with failure | stored | ⟨number, offset⟩
  · -- a seek that cannot be read
    exact .inl ⟨_, rfl, rfl⟩
  · -- a command to be stored
    right
    obtain rfl := Request.eq_of_ofCommand_eq_store hrequest
    obtain ⟨after, after', happend, happend', hafter, hgrow⟩ := h.append hcomplete hstamp
    obtain ⟨log, other, hholds, hholds', hlogs, -⟩ := hafter.logs
    obtain ⟨reader, hreader, hreads⟩ := GrowingLog.openReader hholds
    obtain ⟨reader', hreader', hreads'⟩ := GrowingLog.openReader hholds'
    refine ⟨after, after', reader, reader', log, other, ?_, ?_, hafter, hgrow, hreads, hreads',
      hlogs⟩
    · simp only [store, happend, openReader, hreader]
      rfl
    · simp only [store, happend', openReader, hreader']
      rfl
  · -- a seek is refused
    left
    obtain ⟨log, other, hholds, hholds', -, -⟩ := h.logs
    obtain ⟨reader, hreader, -⟩ := GrowingLog.openReader hholds
    obtain ⟨reader', hreader', -⟩ := GrowingLog.openReader hholds'
    refine ⟨.failed (GrowingLog.refusal σ), ?_, ?_⟩
    · simp only [seek, h.poisoned_eq, Bool.false_eq_true, if_false, openReader, hreader]
      simp only [Except.mapError, bind, Except.bind, GrowingLog.seekTo]
    · simp only [seek, h.plain_poisoned_eq, Bool.false_eq_true, if_false, openReader, hreader']
      simp only [Except.mapError, bind, Except.bind, GrowingLog.seekTo]

end Shared

/-! ## Two connections -/

/-- Each of two workers has sent some part of its reply to a command and reads the rest, and the two
replies are the same up to timestamps. -/
inductive WorkerPhase.SameReply (old : List Bytes) (storage plain : σ) :
    ρ → Option (Command × Bytes) → ρ → Option (Command × Bytes) → Prop where
  | intro {reader reader' : ρ} {rest rest' : Bytes} (command : Command) (sent sent' : Bytes)
    (hreads : GrowingLog.Reads storage reader rest) (hreads' : GrowingLog.Reads plain reader' rest')
    (hreply : Timestamp.Annotated old (sent ++ rest) (sent' ++ rest')) :
    SameReply old storage plain reader (some (command, sent)) reader' (some (command, sent'))

/-- Two workers are at the same point, with replies that are the same up to timestamps. -/
inductive WorkerPhase.Annotated (old : List Bytes) (storage plain : σ) :
    WorkerPhase ρ → Option (Command × Bytes) → WorkerPhase ρ → Option (Command × Bytes) → Prop where
  | receiving : Annotated old storage plain .receiving none .receiving none
  | executing {command : Command} {waiting : List Command}
    (hcomplete : ∀ other ∈ command :: waiting, other.IsComplete) :
    Annotated old storage plain (.executing command waiting) none (.executing command waiting) none
  | replying {reader reader' : ρ} {waiting : List Command} {begun begun' : Option (Command × Bytes)}
    (h : SameReply old storage plain reader begun reader' begun')
    (hcomplete : ∀ other ∈ waiting, other.IsComplete) :
    Annotated old storage plain (.replying reader waiting) begun (.replying reader' waiting) begun'
  | ended (stop : Option Stop) {begun begun' : Option (Command × Bytes)}
    (hbegun : begun.map Prod.fst = begun'.map Prod.fst) :
    Annotated old storage plain (.ended stop) begun (.ended stop) begun'

/-- Two connections are at the same point, and the replies that were sent in full are the same up to
timestamps. -/
structure Connection.Annotated (old : List Bytes) (storage plain : σ) (connection : Connection ρ)
    (replies : Replies) (other : Connection ρ) (replies' : Replies) : Prop where
  buffer_eq : connection.buffer = other.buffer
  joined_eq : connection.joined = other.joined
  phases : connection.phase.Annotated old storage plain replies.begun other.phase replies'.begun
  whole : List.Forall₂ (Timestamp.SameReply old) replies.whole replies'.whole

namespace WorkerPhase

variable {storage plain after after' : σ} {begun begun' : Option (Command × Bytes)}

section SameReply

variable {reader reader' moved moved' : ρ} {room room' : Nat} {piece : Bytes}

lemma SameReply.grow (h : SameReply old storage plain reader begun reader' begun')
    (hgrow : GrowingLog.Grow old storage plain after after') :
    SameReply old after after' reader begun reader' begun' := by
  obtain ⟨seen, seen', hseen, hseen', hannotated⟩ := hgrow
  cases h with
  | intro command sent sent' hreads hreads' hreply =>
    refine .intro command sent sent' (hseen _ _ hreads) (hseen' _ _ hreads') ?_
    rw [← List.append_assoc, ← List.append_assoc]
    exact hannotated _ _ hreply

lemma SameReply.exists_reads (h : SameReply old storage plain reader begun reader' begun') :
    ∃ rest, GrowingLog.Reads storage reader rest := by
  cases h with
  | intro command sent sent' hreads => exact ⟨_, hreads⟩

/-- Both readers can read on. -/
lemma SameReply.exists_read (h : SameReply old storage plain reader begun reader' begun')
    (room room' : Nat) :
    (∃ piece moved, Storage.read storage reader room = .ok (piece, moved)) ∧
      ∃ piece moved, Storage.read plain reader' room' = .ok (piece, moved) := by
  cases h with
  | intro command sent sent' hreads hreads' hreply =>
    obtain ⟨moved, hread, -⟩ := GrowingLog.read hreads room
    obtain ⟨moved', hread', -⟩ := GrowingLog.read hreads' room'
    exact ⟨⟨_, _, hread⟩, _, _, hread'⟩

/-- The first worker sends some more of its reply. -/
lemma SameReply.send (h : SameReply old storage plain reader begun reader' begun')
    (hread : Storage.read storage reader room = .ok (piece, moved)) :
    SameReply old storage plain moved (begun.map fun (command, sent) => (command, sent ++ piece))
      reader' begun' := by
  cases h with
  | intro command sent sent' hreads hreads' hreply =>
    obtain ⟨hrest, hmoved⟩ := GrowingLog.rest_of_read hread hreads
    rw [hrest, ← List.append_assoc] at hreply
    exact .intro command (sent ++ piece) sent' hmoved hreads' hreply

/-- The second worker sends some more of its reply. -/
lemma SameReply.plain_send (h : SameReply old storage plain reader begun reader' begun')
    (hread : Storage.read plain reader' room = .ok (piece, moved)) :
    SameReply old storage plain reader begun moved
      (begun'.map fun (command, sent) => (command, sent ++ piece)) := by
  cases h with
  | intro command sent sent' hreads hreads' hreply =>
    obtain ⟨hrest, hmoved⟩ := GrowingLog.rest_of_read hread hreads'
    rw [hrest, ← List.append_assoc sent'] at hreply
    exact .intro command sent (sent' ++ piece) hreads hmoved hreply

/-- Where both replies are at their ends, what was sent is all. -/
lemma SameReply.finish (h : SameReply old storage plain reader begun reader' begun')
    (hroom : room ≠ 0) (hread : Storage.read storage reader room = .ok ([], moved))
    (hroom' : room' ≠ 0) (hread' : Storage.read plain reader' room' = .ok ([], moved')) :
    ∃ command sent sent', begun = some (command, sent) ∧ begun' = some (command, sent') ∧
      Timestamp.Annotated old sent sent' := by
  cases h with
  | intro command sent sent' hreads hreads' hreply =>
    rw [GrowingLog.rest_eq_nil_of_read hroom hread hreads,
      GrowingLog.rest_eq_nil_of_read hroom' hread' hreads', List.append_nil, List.append_nil] at hreply
    exact ⟨command, sent, sent', rfl, rfl, hreply⟩

end SameReply

variable {phase phase' : WorkerPhase ρ} {waiting : List Command}

/-- The same reply was begun by both. -/
lemma Annotated.begun_eq (h : Annotated old storage plain phase begun phase' begun') :
    begun.map Prod.fst = begun'.map Prod.fst := by
  cases h with
  | receiving => rfl
  | executing hcomplete => rfl
  | replying h hcomplete =>
    cases h
    rfl
  | ended stop hbegun => exact hbegun

lemma Annotated.grow (h : Annotated old storage plain phase begun phase' begun')
    (hgrow : GrowingLog.Grow old storage plain after after') :
    Annotated old after after' phase begun phase' begun' := by
  cases h with
  | receiving => exact .receiving
  | executing hcomplete => exact .executing hcomplete
  | replying h hcomplete => exact .replying (h.grow hgrow) hcomplete
  | ended stop hbegun => exact .ended stop hbegun

lemma Annotated.of_receiving (h : Annotated old storage plain phase begun .receiving begun') :
    phase = .receiving ∧ begun = none ∧ begun' = none := by
  cases h
  exact ⟨rfl, rfl, rfl⟩

lemma Annotated.of_executing {command : Command}
    (h : Annotated old storage plain phase begun (.executing command waiting) begun') :
    phase = .executing command waiting ∧ ∀ other ∈ command :: waiting, other.IsComplete := by
  cases h with
  | executing hcomplete => exact ⟨rfl, hcomplete⟩

lemma Annotated.of_replying {reader' : ρ}
    (h : Annotated old storage plain phase begun (.replying reader' waiting) begun') :
    ∃ reader, phase = .replying reader waiting ∧
      SameReply old storage plain reader begun reader' begun' ∧
      ∀ other ∈ waiting, other.IsComplete := by
  cases h with
  | replying h hcomplete => exact ⟨_, rfl, h, hcomplete⟩

lemma Annotated.plain_of_replying {reader : ρ}
    (h : Annotated old storage plain (.replying reader waiting) begun phase' begun') :
    ∃ reader', phase' = .replying reader' waiting ∧
      SameReply old storage plain reader begun reader' begun' ∧
      ∀ other ∈ waiting, other.IsComplete := by
  cases h with
  | replying h hcomplete => exact ⟨_, rfl, h, hcomplete⟩

lemma Annotated.of_ended {stop : Option Stop}
    (h : Annotated old storage plain phase begun (.ended stop) begun') : phase = .ended stop := by
  cases h
  rfl

end WorkerPhase

namespace Connection

variable {storage plain : σ} {connection other : Connection ρ} {replies replies' : Replies}

lemma Annotated.hasEnded_eq (h : Annotated old storage plain connection replies other replies') :
    connection.hasEnded = other.hasEnded := by
  have hphases := h.phases
  unfold hasEnded
  generalize connection.phase = phase, other.phase = phase', replies.begun = begun,
    replies'.begun = begun' at hphases ⊢
  cases hphases with
  | receiving => rfl
  | executing hcomplete => rfl
  | replying h hcomplete => rfl
  | ended stop hbegun => rfl

lemma Annotated.phase_of_receiving
    (h : Annotated old storage plain connection replies other replies')
    (hphase : other.phase = .receiving) : connection.phase = .receiving := by
  have hphases := h.phases
  rw [hphase] at hphases
  exact hphases.of_receiving.1

lemma Annotated.phase_of_executing
    (h : Annotated old storage plain connection replies other replies') {command : Command}
    {waiting : List Command} (hphase : other.phase = .executing command waiting) :
    connection.phase = .executing command waiting ∧
      ∀ other ∈ command :: waiting, other.IsComplete := by
  have hphases := h.phases
  rw [hphase] at hphases
  exact hphases.of_executing

lemma Annotated.phase_of_replying
    (h : Annotated old storage plain connection replies other replies') {reader' : ρ}
    {waiting : List Command} (hphase : other.phase = .replying reader' waiting) :
    ∃ reader, connection.phase = .replying reader waiting ∧
      WorkerPhase.SameReply old storage plain reader replies.begun reader' replies'.begun ∧
      ∀ other ∈ waiting, other.IsComplete := by
  have hphases := h.phases
  rw [hphase] at hphases
  exact hphases.of_replying

lemma Annotated.plain_phase_of_replying
    (h : Annotated old storage plain connection replies other replies') {reader : ρ}
    {waiting : List Command} (hphase : connection.phase = .replying reader waiting) :
    ∃ reader', other.phase = .replying reader' waiting ∧
      WorkerPhase.SameReply old storage plain reader replies.begun reader' replies'.begun ∧
      ∀ other ∈ waiting, other.IsComplete := by
  have hphases := h.phases
  rw [hphase] at hphases
  exact hphases.plain_of_replying

lemma Annotated.grow {after after' : σ}
    (h : Annotated old storage plain connection replies other replies')
    (hgrow : GrowingLog.Grow old storage plain after after') :
    Annotated old after after' connection replies other replies' :=
  ⟨h.buffer_eq, h.joined_eq, h.phases.grow hgrow, h.whole⟩

/-- Once a worker has ended, the storages have no part in it any more. -/
lemma Annotated.of_hasEnded (h : Annotated old storage plain connection replies other replies')
    (hended : other.hasEnded = true) (after after' : σ) :
    Annotated old after after' connection replies other replies' := by
  obtain ⟨stop, hphase⟩ := exists_stop_of_hasEnded hended
  have hphases := h.phases
  rw [hphase] at hphases
  refine ⟨h.buffer_eq, h.joined_eq, ?_, h.whole⟩
  rw [hphase, hphases.of_ended]
  exact .ended stop hphases.begun_eq

lemma annotated_accepted (old : List Bytes) (storage plain : σ) :
    Annotated old storage plain (accepted : Connection ρ) .empty accepted .empty where
  buffer_eq := rfl
  joined_eq := rfl
  phases := .receiving
  whole := .nil

lemma Annotated.stopWith (h : Annotated old storage plain connection replies other replies')
    (stop : Option Stop) :
    Annotated old storage plain (connection.stopWith stop) replies (other.stopWith stop)
      replies' where
  buffer_eq := h.buffer_eq
  joined_eq := h.joined_eq
  phases := .ended stop h.phases.begun_eq
  whole := h.whole

lemma Annotated.withJoined (h : Annotated old storage plain connection replies other replies')
    (joined : Bool) :
    Annotated old storage plain { connection with joined } replies { other with joined }
      replies' where
  buffer_eq := h.buffer_eq
  joined_eq := rfl
  phases := h.phases
  whole := h.whole

lemma Annotated.joinEnded (h : Annotated old storage plain connection replies other replies') :
    Annotated old storage plain connection.joinEnded replies other.joinEnded replies' := by
  unfold Connection.joinEnded
  rw [h.hasEnded_eq]
  split
  · exact h.withJoined true
  · exact h

lemma Annotated.receive (h : Annotated old storage plain connection replies other replies')
    (hphase : other.phase = .receiving) (piece : Bytes) :
    Annotated old storage plain (connection.receive piece) replies (other.receive piece)
      replies' := by
  have hphases := h.phases
  rw [hphase] at hphases
  obtain ⟨-, hbegun, hbegun'⟩ := hphases.of_receiving
  have hcomplete : ∀ command ∈ (other.buffer.feed piece).drain.1, command.IsComplete := by
    rw [(LineBuffer.drain_eq _).1]
    exact fun command hcommand => Bytes.isComplete_of_mem_lines hcommand
  unfold Connection.receive
  rw [h.buffer_eq]
  rcases hdrain : (other.buffer.feed piece).drain with ⟨_ | ⟨command, waiting⟩, buffer⟩
  · refine ⟨rfl, h.joined_eq, ?_, h.whole⟩
    rw [hbegun, hbegun']
    exact .receiving
  · rw [hdrain] at hcomplete
    refine ⟨rfl, h.joined_eq, ?_, h.whole⟩
    rw [hbegun, hbegun']
    exact .executing hcomplete

/-- A command is carried out, and both open a reader. -/
lemma Annotated.reply (h : Annotated old storage plain connection replies other replies')
    {waiting : List Command} (hcomplete : ∀ other ∈ waiting, other.IsComplete) {reader reader' : ρ}
    {rest rest' : Bytes} (hreads : GrowingLog.Reads storage reader rest)
    (hreads' : GrowingLog.Reads plain reader' rest') (hlogs : Timestamp.Annotated old rest rest')
    (command : Command) (read read' : Option Bytes) :
    Annotated old storage plain { connection with phase := .replying reader waiting }
      (replies.record [command] read) { other with phase := .replying reader' waiting }
      (replies'.record [command] read') where
  buffer_eq := h.buffer_eq
  joined_eq := h.joined_eq
  phases := .replying (.intro command [] [] hreads hreads' hlogs) hcomplete
  whole := h.whole

/-- A command is carried out and fails. -/
lemma Annotated.refuse (h : Annotated old storage plain connection replies other replies')
    (command : Command) (read read' : Option Bytes) (stop : Option Stop) :
    Annotated old storage plain (connection.stopWith stop) (replies.record [command] read)
      (other.stopWith stop) (replies'.record [command] read') where
  buffer_eq := h.buffer_eq
  joined_eq := h.joined_eq
  phases := .ended stop rfl
  whole := h.whole

section Replying

variable {reader reader' moved moved' : ρ} {waiting : List Command} {room room' : Nat} {byte : UInt8}
  {piece : Bytes}

/-- The first sends some more of its reply. -/
lemma Annotated.send (h : Annotated old storage plain connection replies other replies')
    (hphase : connection.phase = .replying reader waiting)
    (hread : Storage.read storage reader room = .ok (byte :: piece, moved)) (sent : Bytes) :
    Annotated old storage plain { connection with phase := .replying moved waiting, sent }
      (replies.record [] (some (byte :: piece))) other replies' := by
  obtain ⟨reader', hphase', hreply, hcomplete⟩ := h.plain_phase_of_replying hphase
  refine ⟨h.buffer_eq, h.joined_eq, ?_, h.whole⟩
  rw [hphase']
  exact .replying (hreply.send hread) hcomplete

/-- The second sends some more of its reply. -/
lemma Annotated.plain_send (h : Annotated old storage plain connection replies other replies')
    (hphase' : other.phase = .replying reader' waiting)
    (hread : Storage.read plain reader' room = .ok (byte :: piece, moved)) (sent : Bytes) :
    Annotated old storage plain connection replies
      { other with phase := .replying moved waiting, sent }
      (replies'.record [] (some (byte :: piece))) := by
  obtain ⟨reader, hphase, hreply, hcomplete⟩ := h.phase_of_replying hphase'
  refine ⟨h.buffer_eq, h.joined_eq, ?_, h.whole⟩
  rw [hphase]
  exact .replying (hreply.plain_send hread) hcomplete

/-- Both replies are at their ends. -/
lemma Annotated.finishReply (h : Annotated old storage plain connection replies other replies')
    (hphase : connection.phase = .replying reader waiting) (hroom : room ≠ 0)
    (hread : Storage.read storage reader room = .ok ([], moved))
    (hphase' : other.phase = .replying reader' waiting) (hroom' : room' ≠ 0)
    (hread' : Storage.read plain reader' room' = .ok ([], moved')) (keepAlive : Bool) :
    Annotated old storage plain (connection.finishReply keepAlive waiting)
      (replies.record [] (some [])) (other.finishReply keepAlive waiting)
      (replies'.record [] (some [])) := by
  obtain ⟨_, hthis, hreply, hcomplete⟩ := h.phase_of_replying hphase'
  rw [hphase] at hthis
  cases hthis
  obtain ⟨command, sent, sent', hbegun, hbegun', hsent⟩ := hreply.finish hroom hread hroom' hread'
  have hlast : Timestamp.SameReply old (command, sent) (command, sent') := ⟨rfl, hsent⟩
  have hwhole := List.rel_append h.whole (.cons hlast .nil)
  unfold Connection.finishReply Replies.record
  rw [hbegun, hbegun']
  refine ⟨h.buffer_eq, h.joined_eq, ?_, hwhole⟩
  cases waiting with
  | cons next waiting => exact .executing hcomplete
  | nil =>
    cases keepAlive with
    | true => exact .receiving
    | false => exact .ended none rfl

end Replying

end Connection

end Storages

end CommandLog
