import CommandLog.Proofs.Server.LineByLine
import CommandLog.Proofs.Server.Replies

/-!
# One batch for a connection that is not kept alive

Unless a connection is kept alive, it is closed after the first piece that completes a command.  What
is carried out then depends on where the stream was cut: the lines that this piece completes, in
order, up to the first that fails.  What the piece holds behind its last newline is lost, and so is
all that the client sends later.

There are two views of it.  While nobody else acts, `singleBatch_eq_answerLines` gives the storage
and the bytes sent: they are those of the plain fold over these lines.  In a run, where others may
act between any two steps, `Connection.FirstBatch` is the invariant beside `Connection.Exchanged`: a
worker that waits for bytes has received no newline so far.  The main statement `serves_one_batch`
puts both together.
-/

namespace CommandLog

namespace Bytes

lemma lines_eq_nil_iff {stream : Bytes} : lines stream = [] ↔ newline ∉ stream := by
  constructor
  · intro h
    have hstream := flatten_lines_append_unfinished stream
    rw [h, List.flatten_nil, List.nil_append] at hstream
    rw [← hstream]
    exact newline_not_mem_unfinished stream
  · intro h
    rw [lines, splitLines_of_not_mem h]

/-- A line is the only line that it has. -/
lemma IsLine.lines_eq {line : Bytes} (h : IsLine line) : lines line = [line] := by
  rw [lines, h.splitLines_eq]

/-- The beginning of a line that has its newline has the same lines. -/
lemma IsLine.lines_of_mem {start rest : Bytes} (h : IsLine (start ++ rest))
    (hstart : newline ∈ start) : lines start = lines (start ++ rest) := by
  have hwhole := h.lines_eq
  rw [lines_append] at hwhole
  rcases List.append_eq_singleton_iff.1 hwhole with ⟨hnil, -⟩ | ⟨hone, -⟩
  · exact absurd hstart (lines_eq_nil_iff.1 hnil)
  · rw [hone, h.lines_eq]

end Bytes

/-! ## While nobody else acts -/

namespace Session

section Pieces

variable {σ ρ : Type} [Storage σ ρ] {buffer : LineBuffer} {piece : Bytes} {pieces : List Bytes}

lemma receiveAll_append (keepAlive : Bool) (shared : Shared σ) (session : Session)
    (pieces others : List Bytes) :
    receiveAll keepAlive shared session (pieces ++ others) =
      let (shared, session, reply) := receiveAll keepAlive shared session pieces
      let (shared, session, replies) := receiveAll keepAlive shared session others
      (shared, session, reply ++ replies) := by
  induction pieces generalizing shared session with
  | nil => rfl
  | cons piece pieces ih =>
    rw [List.cons_append, receiveAll, receiveAll]
    simp only [ih, List.append_assoc]

/-- A piece that completes no command is kept in the buffer, and nothing else comes of it. -/
lemma receive_of_not_mem (keepAlive : Bool) (shared : Shared σ)
    (h : newline ∉ buffer.pending ++ piece) :
    ∃ rest : LineBuffer, rest.pending = buffer.pending ++ piece ∧
      receive keepAlive shared ⟨buffer, true⟩ piece = (shared, ⟨rest, true⟩, []) := by
  obtain ⟨hcommands, hrest⟩ := LineBuffer.drain_eq (buffer.feed piece)
  rw [LineBuffer.pending_feed, Bytes.lines_eq_nil_iff.2 h, List.map_nil] at hcommands
  rw [LineBuffer.pending_feed, Bytes.unfinished, Bytes.splitLines_of_not_mem h] at hrest
  refine ⟨(buffer.feed piece).drain.2, hrest, ?_⟩
  rw [receive_of_open]
  simp only [hcommands]
  rfl

/-- The first piece that completes a command has its commands answered, and closes the connection
unless it is kept alive. -/
lemma receive_of_mem (keepAlive : Bool) (shared : Shared σ) (h : newline ∈ buffer.pending ++ piece) :
    let commands := (Bytes.lines (buffer.pending ++ piece)).map Command.mk
    ∃ rest, receive keepAlive shared ⟨buffer, true⟩ piece =
      ((shared.answerAll commands).1,
        ⟨rest, keepAlive && (shared.answerAll commands).2.2.isNone⟩,
        (shared.answerAll commands).2.1) := by
  obtain ⟨hcommands, -⟩ := LineBuffer.drain_eq (buffer.feed piece)
  rw [LineBuffer.pending_feed] at hcommands
  refine ⟨(buffer.feed piece).drain.2, ?_⟩
  have hne : (buffer.feed piece).drain.1.isEmpty = false := by
    rw [hcommands, List.isEmpty_eq_false_iff]
    intro hnil
    exact absurd h (Bytes.lines_eq_nil_iff.1 (List.map_eq_nil_iff.1 hnil))
  rw [← hcommands, receive_of_open]
  simp only [hne, Bool.false_or]

/-- As long as no newline comes, nothing is carried out and nothing is sent. -/
lemma receiveAll_of_not_mem (keepAlive : Bool) (shared : Shared σ)
    (h : newline ∉ buffer.pending ++ pieces.flatten) :
    ∃ rest : LineBuffer, rest.pending = buffer.pending ++ pieces.flatten ∧
      receiveAll keepAlive shared ⟨buffer, true⟩ pieces = (shared, ⟨rest, true⟩, []) := by
  induction pieces generalizing buffer with
  | nil => exact ⟨buffer, (List.append_nil _).symm, rfl⟩
  | cons piece others ih =>
    rw [List.flatten_cons, ← List.append_assoc] at h ⊢
    have hfirst : newline ∉ buffer.pending ++ piece := fun hmem => h (List.mem_append_left _ hmem)
    obtain ⟨between, hbetween, hreceive⟩ := receive_of_not_mem keepAlive shared hfirst
    rw [← hbetween] at h ⊢
    obtain ⟨rest, hrest, hothers⟩ := ih h
    refine ⟨rest, hrest, ?_⟩
    simp only [receiveAll, hreceive, hothers, List.append_nil]

/-- What a connection comes to that is not kept alive, for pieces sent from its beginning on: the
storage behind its lock, all that was sent, and whether the connection is still open. -/
def singleBatch (shared : Shared σ) (pieces : List Bytes) : Shared σ × Bytes × Bool :=
  let (shared, session, reply) := receiveAll false shared .start pieces
  (shared, reply, session.isOpen)

lemma singleBatch_of_not_mem (shared : Shared σ) (h : newline ∉ pieces.flatten) :
    singleBatch shared pieces = (shared, [], true) := by
  have hstart : newline ∉ LineBuffer.empty.pending ++ pieces.flatten := by
    rw [LineBuffer.pending_empty, List.nil_append]
    exact h
  obtain ⟨rest, -, hreceive⟩ := receiveAll_of_not_mem false shared hstart
  unfold singleBatch start
  rw [hreceive]

/-- The commands that are complete with the first newline's piece are answered, and the connection
is closed; the later pieces are lost. -/
lemma singleBatch_eq_answerAll (shared : Shared σ) {before : List Bytes}
    (hbefore : newline ∉ before.flatten) (hpiece : newline ∈ piece) (later : List Bytes) :
    let commands := (Bytes.lines (before.flatten ++ piece)).map Command.mk
    singleBatch shared (before ++ piece :: later) =
      ((shared.answerAll commands).1, (shared.answerAll commands).2.1, false) := by
  have hstart : newline ∉ LineBuffer.empty.pending ++ before.flatten := by
    rw [LineBuffer.pending_empty, List.nil_append]
    exact hbefore
  obtain ⟨between, hbetween, hquiet⟩ := receiveAll_of_not_mem false shared hstart
  rw [LineBuffer.pending_empty, List.nil_append] at hbetween
  have hcomplete : newline ∈ between.pending ++ piece := List.mem_append_right _ hpiece
  obtain ⟨rest, hreceive⟩ := receive_of_mem false shared hcomplete
  rw [hbetween, Bool.false_and] at hreceive
  intro commands
  unfold singleBatch
  rw [receiveAll_append, start, hquiet]
  simp only [receiveAll, hreceive]
  rw [receiveAll_of_closed false _ rfl later]
  simp only [List.nil_append, List.append_nil]
  rfl

lemma singleBatch_eq_answerLines [LogView σ] (shared : Shared σ) {before : List Bytes}
    (hbefore : newline ∉ before.flatten) (hpiece : newline ∈ piece) (later : List Bytes) :
    let lines := Bytes.lines (before.flatten ++ piece)
    singleBatch shared (before ++ piece :: later) =
      ((shared.answerLines lines).1, (shared.answerLines lines).2.1, false) := by
  intro lines
  rw [singleBatch_eq_answerAll shared hbefore hpiece later, ← Shared.answerAll_eq_answerLines]

/-- Pieces with a newline among them can be parted at the first one that has it. -/
lemma exists_first (h : newline ∈ pieces.flatten) :
    ∃ before piece later, pieces = before ++ piece :: later ∧ newline ∉ before.flatten ∧
      newline ∈ piece := by
  induction pieces with
  | nil => exact absurd h List.not_mem_nil
  | cons piece others ih =>
    by_cases hpiece : newline ∈ piece
    · exact ⟨[], piece, others, rfl, List.not_mem_nil, hpiece⟩
    · rw [List.flatten_cons, List.mem_append, or_iff_right hpiece] at h
      obtain ⟨before, first, later, rfl, hbefore, hfirst⟩ := ih h
      refine ⟨piece :: before, first, later, rfl, ?_, hfirst⟩
      rw [List.flatten_cons, List.mem_append]
      exact fun hmem => hmem.elim hpiece hbefore

/-- However a line is cut, and whether the connection is kept alive or not, the line is the one command
that is carried out and answered. -/
lemma receiveAll_of_isLine (keepAlive : Bool) (shared : Shared σ)
    (h : Bytes.IsLine pieces.flatten) :
    ∃ session, receiveAll keepAlive shared start pieces =
      ((shared.answer ⟨pieces.flatten⟩).1, session, (shared.answer ⟨pieces.flatten⟩).2.1) := by
  have hone : (Bytes.lines pieces.flatten).map Command.mk = [⟨pieces.flatten⟩] := by
    rw [h.lines_eq, List.map_singleton]
  cases keepAlive with
  | true =>
    have hstart : newline ∉ LineBuffer.empty.pending := by
      rw [LineBuffer.pending_empty]
      exact List.not_mem_nil
    obtain ⟨hafter, -, hreply⟩ := receiveAll_eq_answerAll shared hstart pieces
    rw [LineBuffer.pending_empty, List.nil_append, hone, Shared.answerAll_singleton]
      at hafter hreply
    exact ⟨_, Prod.ext hafter (Prod.ext rfl hreply)⟩
  | false =>
    obtain ⟨before, piece, later, hpieces, hbefore, hpiece⟩ := exists_first h.newline_mem
    have hsplit : pieces.flatten = (before.flatten ++ piece) ++ later.flatten := by
      rw [hpieces, List.flatten_append, List.flatten_cons, List.append_assoc]
    have hlines : Bytes.lines (before.flatten ++ piece) = Bytes.lines pieces.flatten := by
      rw [hsplit]
      exact (hsplit ▸ h).lines_of_mem (List.mem_append_right _ hpiece)
    have hbatch := singleBatch_eq_answerAll shared hbefore hpiece later
    simp only [← hpieces, hlines, hone, Shared.answerAll_singleton, singleBatch, Prod.mk.injEq]
      at hbatch
    exact ⟨_, Prod.ext hbatch.1 (Prod.ext rfl hbatch.2.1)⟩

/-- For a stream whose only newline is its last byte, it makes no difference where the stream is cut
and whether the connection is kept alive. -/
lemma singleBatch_of_isLine [LogView σ] (shared : Shared σ) (h : Bytes.IsLine pieces.flatten) :
    singleBatch shared pieces =
      ((outcome shared pieces).1, (outcome shared pieces).2.1, false) := by
  obtain ⟨before, piece, later, hpieces, hbefore, hpiece⟩ := exists_first h.newline_mem
  have hsplit : pieces.flatten = (before.flatten ++ piece) ++ later.flatten := by
    rw [hpieces, List.flatten_append, List.flatten_cons, List.append_assoc]
  rw [hsplit] at h
  rw [outcome_eq_answerLines, hsplit, ← h.lines_of_mem (List.mem_append_right _ hpiece), hpieces,
    singleBatch_eq_answerLines shared hbefore hpiece later]

end Pieces

end Session

/-! ## In a run -/

namespace Connection

variable {ρ : Type} {connection after : Connection ρ} {pieces : List Bytes}
  {commands more : List Command} {replies : Replies}

/-- A worker that waits for bytes has carried nothing out so far, and only the last piece received
can have a newline. -/
structure FirstBatch (connection : Connection ρ) (pieces : List Bytes) (commands : List Command) :
    Prop where
  receiving : connection.phase = .receiving → commands = []
  earlier : ∀ piece ∈ pieces.dropLast, newline ∉ piece

lemma firstBatch_accepted : (accepted : Connection ρ).FirstBatch [] [] where
  receiving := fun _ => rfl
  earlier := fun _ hpiece => absurd hpiece List.not_mem_nil

/-- Every move of a connection that is not kept alive leaves it at its first batch. -/
lemma FirstBatch.move (h : connection.FirstBatch pieces commands)
    (hexchanged : connection.Exchanged pieces commands replies) {received read : Option Bytes}
    (hne : received ≠ some []) {piece : Bytes} (hreceived : received.getD [] = piece)
    (hmoves : connection.Moves false more piece read after) :
    after.FirstBatch (pieces ++ received.toList) (commands ++ more) where
  receiving := by
    intro hphase
    cases hmoves with
    | stay | join =>
      rw [List.append_nil]
      exact h.receiving hphase
    | receive _ hbefore =>
      rw [List.append_nil]
      exact h.receiving hbefore
    | @finishReply reader waiting hbefore =>
      -- a connection that is not kept alive does not go back to waiting for bytes
      cases waiting with
      | nil => cases hphase
      | cons command others => cases hphase
    | _ => cases hphase
  earlier := by
    cases received with
    | none =>
      rw [Option.toList_none, List.append_nil]
      exact h.earlier
    | some received =>
      have hpiece : piece ≠ [] := by
        rintro rfl
        exact hne (congrArg some hreceived)
      have hbefore : connection.phase = .receiving := by
        cases hmoves with
        | receive _ hbefore => exact hbefore
        | _ => exact absurd rfl hpiece
      have hlines := hexchanged.lines_eq (by rw [hbefore]; exact fun _ hwaiting => hwaiting)
      rw [h.receiving hbefore, List.map_nil, Bytes.lines_eq_nil_iff, List.mem_flatten] at hlines
      rw [Option.toList_some, List.dropLast_concat]
      exact fun earlier hearlier hmem => hlines ⟨earlier, hearlier, hmem⟩

end Connection

namespace Run

variable {σ ρ : Type} [Storage σ ρ] {run : Run σ ρ} {number : Nat} {settings : Settings}
  {storage : σ} {steps : List Step}

/-- Without keeping connections alive, a server serves every connection one batch. -/
lemma firstBatch_of_stepAll? (hkeepAlive : settings.keepAlive = false)
    (h : (initial settings storage).stepAll? steps = some run) {connection : Connection ρ}
    (hconnection : run.connections[number]? = some connection) :
    connection.FirstBatch (Step.pieces number steps)
      (commandsOf number ((initial settings storage : Run σ ρ).executedAll steps)) := by
  refine (exchange_of_stepAll?
    (P := fun connection pieces commands replies =>
      connection.Exchanged pieces commands replies ∧ connection.FirstBatch pieces commands)
    ⟨Connection.exchanged_accepted, Connection.firstBatch_accepted⟩ ?_ h hconnection).2
  rintro before after pieces commands more replies received read ⟨hexchanged, hbatch⟩ hne hmoves
  have hafter := hexchanged.move rfl hmoves
  rw [hkeepAlive] at hmoves
  exact ⟨hafter, hbatch.move hexchanged hne rfl hmoves⟩

end Run

namespace Connection

variable {ρ : Type} {connection : Connection ρ} {pieces : List Bytes} {commands : List Command}
  {replies : Replies}

/-- A connection is served the lines that the first piece with a newline completes, and nothing
else: one line after the other, each of them answered to its end before the next one is looked at, up
to the first that fails. -/
structure IsServedOnce (connection : Connection ρ) (pieces : List Bytes) (commands : List Command)
    (replies : Replies) : Prop where
  /-- Behind the first piece with a newline no other is received. -/
  earlier : ∀ piece ∈ pieces.dropLast, newline ∉ piece
  /-- All commands carried out but the last one were answered in full. -/
  commands_eq : replies.commands = commands
  /-- Nothing but the replies was sent. -/
  sent_eq : connection.sent = replies.bytes
  /-- The commands carried out are the first lines, and at the end all of them, unless the last one
  carried out has failed. -/
  lines_eq : ∃ waiting : List Command,
    Bytes.lines pieces.flatten = (commands ++ waiting).map Command.bytes ∧
      (connection.hasEnded = true → waiting = [] ∨ replies.begun.isSome)
  /-- Once all lines are answered, the connection is closed. -/
  closed : newline ∈ pieces.flatten →
    Bytes.lines pieces.flatten = commands.map Command.bytes → replies.begun = none →
    connection.hasEnded = true
  /-- Without a newline, nothing is carried out and nothing is sent. -/
  quiet : newline ∉ pieces.flatten → commands = [] ∧ connection.sent = []

lemma Exchanged.isServedOnce (h : connection.Exchanged pieces commands replies)
    (hbatch : connection.FirstBatch pieces commands) :
    connection.IsServedOnce pieces commands replies := by
  obtain ⟨waiting, hwaiting, hsplit⟩ := h.accounts
  have hlines : Bytes.lines pieces.flatten = (commands ++ waiting).map Command.bytes := by
    rw [Bytes.lines, hsplit]
  refine ⟨hbatch.earlier, h.commands_eq, h.sent_eq, ⟨waiting, hlines, ?_⟩, ?_, ?_⟩
  · intro hended
    rcases h.ended hended with hall | hbegun
    · rw [hlines, List.map_append] at hall
      exact .inl (List.map_eq_nil_iff.1 (List.append_right_eq_self.1 hall))
    · exact .inr hbegun
  · intro hmem hall hnone
    have howes := h.owes
    cases hphase : connection.phase with
    | receiving =>
      rw [hbatch.receiving hphase, List.map_nil, Bytes.lines_eq_nil_iff] at hall
      exact absurd hmem hall
    | executing command others =>
      rw [hphase] at hwaiting
      rw [hlines, List.map_append, List.append_right_eq_self, List.map_eq_nil_iff] at hall
      rw [show waiting = command :: others from hwaiting] at hall
      cases hall
    | replying reader others =>
      rw [hphase, hnone] at howes
      exact absurd howes Bool.false_ne_true
    | ended stop => rw [hasEnded, hphase]
  · intro hquiet
    rw [Bytes.lines_eq_nil_iff.2 hquiet] at hlines
    have hcommands := (List.append_eq_nil_iff.1 (List.map_eq_nil_iff.1 hlines.symm)).1
    have hreplies : replies.whole ++ replies.begun.toList = [] := by
      have heq := h.commands_eq
      rw [hcommands, Replies.commands] at heq
      exact List.map_eq_nil_iff.1 heq
    refine ⟨hcommands, ?_⟩
    rw [h.sent_eq, Replies.bytes, hreplies]
    rfl

end Connection

namespace Run

open Session

/-- Whatever the storage, a connection that is not kept alive is served one batch: the lines that are
complete with its first piece that has a newline.  While nobody else acts, what is stored and sent is
what comes of these lines one after the other, up to the first that fails; without a newline, it is
nothing at all; and for a stream whose only newline is its last byte it is the same wherever the
stream is cut, and the same as on a connection that is kept alive.  And however others act in
between, the commands carried out for the connection are these lines. -/
theorem serves_one_batch {medium : Medium} (shared : Shared medium.Store) (pieces : List Bytes) :
    (∀ before piece later, pieces = before ++ piece :: later → newline ∉ before.flatten →
      newline ∈ piece →
      let lines := Bytes.lines (before.flatten ++ piece)
      singleBatch shared pieces =
        ((shared.answerLines lines).1, (shared.answerLines lines).2.1, false)) ∧
    (newline ∉ pieces.flatten → singleBatch shared pieces = (shared, [], true)) ∧
    (Bytes.IsLine pieces.flatten → ∀ others, others.flatten = pieces.flatten →
      singleBatch shared others = singleBatch shared pieces ∧
      (singleBatch shared others).1 = (Session.outcome shared pieces).1 ∧
      (singleBatch shared others).2.1 = (Session.outcome shared pieces).2.1) ∧
    (∀ (settings : Settings) (storage : medium.Store) (steps : List Step)
      (run : Run medium.Store medium.Reader) (number : Nat) (connection : Connection medium.Reader),
      settings.keepAlive = false → (initial settings storage).stepAll? steps = some run →
      run.connections[number]? = some connection →
      let start : Run medium.Store medium.Reader := initial settings storage
      connection.IsServedOnce (Step.pieces number steps)
        (commandsOf number (start.executedAll steps)) (start.repliesTo number steps)) := by
  refine ⟨?_, fun hnone => singleBatch_of_not_mem shared hnone, ?_, ?_⟩
  · rintro before piece later rfl hbefore hpiece
    exact singleBatch_eq_answerLines shared hbefore hpiece later
  · intro hline others hothers
    have hsame : Session.outcome shared others = Session.outcome shared pieces := by
      rw [outcome_eq_answerLines, outcome_eq_answerLines, hothers]
    have hone : singleBatch shared others =
        ((Session.outcome shared pieces).1, (Session.outcome shared pieces).2.1, false) := by
      rw [singleBatch_of_isLine shared (by rw [hothers]; exact hline), hsame]
    rw [hone, singleBatch_of_isLine shared hline]
    exact ⟨rfl, rfl, rfl⟩
  · intro settings storage steps run number connection hkeepAlive h hconnection start
    exact (exchanged_of_stepAll? h hconnection).isServedOnce
      (firstBatch_of_stepAll? hkeepAlive h hconnection)

/-- On a device with room for one command, the second piece completes two commands and begins a
third, which is lost with the piece after it.  A line is answered alike in one piece and in two.  And
in a run, a connection is closed when the one line that its piece completes is answered. -/
theorem serves_one_batch_device :
    let shared : Shared Medium.device.Store := ⟨Device.empty 1, false⟩
    let steps : List Step :=
      [.bind, .setUp, .look, .accept, .receive 0 [97, 10, 98], .execute 0, .send 0 8, .send 0 8]
    let start : Run Medium.device.Store Medium.device.Reader :=
      initial ⟨false, 0⟩ (Device.empty 1)
    singleBatch shared [[97], [10, 98, 10, 99], [100, 10]] =
        ((shared.answerLines [[97, 10], [98, 10]]).1,
          (shared.answerLines [[97, 10], [98, 10]]).2.1, false) ∧
      singleBatch shared [[97], [98]] = (shared, [], true) ∧
      singleBatch shared [[97, 10]] = singleBatch shared [[97], [10]] ∧
      ∃ run connection, start.stepAll? steps = some run ∧
        run.connections[0]? = some connection ∧
        connection.IsServedOnce [[97, 10, 98]] [⟨[97, 10]⟩] ⟨[(⟨[97, 10]⟩, [97, 10])], none⟩ := by
  intro shared steps start
  have hline : Bytes.IsLine [[(97 : UInt8)], [10]].flatten := by decide
  obtain ⟨hbatch, -, -, hruns⟩ := serves_one_batch shared [[97], [10, 98, 10, 99], [100, 10]]
  obtain ⟨-, -, hone, -⟩ := serves_one_batch shared [[97], [10]]
  obtain ⟨-, hquiet, -, -⟩ := serves_one_batch shared [[97], [98]]
  refine ⟨hbatch [[97]] [10, 98, 10, 99] [[100, 10]] rfl (by decide) (by decide),
    hquiet (by decide), (hone hline [[97, 10]] rfl).1, ?_⟩
  obtain ⟨run, connection, hrun, hconnection⟩ : ∃ run connection,
      start.stepAll? steps = some run ∧ run.connections[0]? = some connection :=
    ⟨_, _, rfl, rfl⟩
  exact ⟨run, connection, hrun, hconnection,
    hruns ⟨false, 0⟩ (Device.empty 1) steps run 0 connection rfl hrun hconnection⟩

end Run

end CommandLog
