import CommandLog.Proofs.Server.Isolation

/-!
# Replies, one after the other

A worker looks at a command only when the reply to the one before it has been sent to its end.  To
say so of a run, in which the steps of all connections take turns, we put the `Replies` of one
connection beside the run: the commands that were answered in full, each with its reply, and the
command, if any, that was carried out but is not answered in full.  `Run.repliesTo` writes them down
from what the steps carry out and read for the connection.

What holds of a new connection and is kept by every move holds of every connection of a run, together
with the pieces that it has received, the commands carried out for it and its replies:
`exchange_of_stepAll?` is this induction, made once.  `Connection.Exchanged` is the first invariant
that comes from it: the commands carried out are the first lines of the pieces, what was sent are the
bytes of the replies and nothing else, and a worker that receives, or is about to carry out a
command, has no reply left to end.
-/

namespace CommandLog

/-- What was sent to a connection: the commands that were answered in full, with their replies, and
the one that was carried out after them, with what was sent of its reply. -/
structure Replies where
  whole : List (Command × Bytes)
  begun : Option (Command × Bytes)

namespace Replies

/-- Nothing was carried out yet. -/
def empty : Replies := ⟨[], none⟩

/-- The commands that were carried out. -/
def commands (replies : Replies) : List Command :=
  (replies.whole ++ replies.begun.toList).map Prod.fst

/-- All bytes of the replies. -/
def bytes (replies : Replies) : Bytes :=
  (replies.whole ++ replies.begun.toList).flatMap Prod.snd

/-- The replies after a command was carried out, if any, or bytes were read for the reply that was
begun, if any.  No bytes at all say that the reply is at its end. -/
def record (replies : Replies) : List Command → Option Bytes → Replies
  | command :: _, _ => ⟨replies.whole, some (command, [])⟩
  | [], none => replies
  | [], some [] => ⟨replies.whole ++ replies.begun.toList, none⟩
  | [], some piece =>
    ⟨replies.whole, replies.begun.map fun (command, sent) => (command, sent ++ piece)⟩

variable {replies : Replies}

lemma record_command (h : replies.begun = none) (command : Command) (read : Option Bytes) :
    (replies.record [command] read).commands = replies.commands ++ [command] ∧
      (replies.record [command] read).bytes = replies.bytes := by
  simp [record, commands, bytes, h]

lemma record_end (replies : Replies) :
    (replies.record [] (some [])).commands = replies.commands ∧
      (replies.record [] (some [])).bytes = replies.bytes := by
  simp [record, commands, bytes]

lemma record_piece (h : replies.begun.isSome) {piece : Bytes} (hpiece : piece ≠ []) :
    (replies.record [] (some piece)).commands = replies.commands ∧
      (replies.record [] (some piece)).bytes = replies.bytes ++ piece ∧
      (replies.record [] (some piece)).begun.isSome := by
  obtain ⟨begun, hbegun⟩ := Option.isSome_iff_exists.1 h
  cases piece with
  | nil => exact absurd rfl hpiece
  | cons byte others => simp [record, commands, bytes, hbegun]

end Replies

/-! ## What was exchanged over a connection -/

namespace Run

/-- The piece that a connection receives in a step, if it receives one. -/
def Step.piece? (number : Nat) : Step → Option Bytes
  | .receive other piece => if other = number then some piece else none
  | _ => none

/-- The pieces that a connection receives in a history. -/
def Step.pieces (number : Nat) (steps : List Step) : List Bytes :=
  steps.filterMap (Step.piece? number)

lemma getD_piece? (number : Nat) (taken : Step) :
    (taken.piece? number).getD [] = taken.received number := by
  cases taken with
  | receive other piece =>
    rw [Step.piece?, Step.received]
    split
    · rfl
    · rfl
  | _ => rfl

lemma pieces_cons (number : Nat) (taken : Step) (others : List Step) :
    Step.pieces number (taken :: others) =
      (taken.piece? number).toList ++ Step.pieces number others := by
  rw [Step.pieces, List.filterMap_cons]
  cases taken.piece? number with
  | none => rfl
  | some piece => rfl

variable {σ ρ : Type} [Storage σ ρ]

/-- The replies to a connection after a history, from those before it. -/
def repliesFrom (run : Run σ ρ) (number : Nat) (replies : Replies) : List Step → Replies
  | [] => replies
  | step :: others =>
    match run.step? step with
    | some next =>
      next.repliesFrom number
        (replies.record (commandsOf number (run.executed step)) (run.readFor number step)) others
    | none => replies

/-- The replies to a connection in a history. -/
def repliesTo (run : Run σ ρ) (number : Nat) (steps : List Step) : Replies :=
  run.repliesFrom number .empty steps

variable {run next : Run σ ρ} {number : Nat}

/-- A piece that is received is not empty. -/
lemma piece?_ne_nil {taken : Step} (h : run.step? taken = some next) (number : Nat) :
    taken.piece? number ≠ some [] := by
  cases taken with
  | receive other piece =>
    obtain ⟨connection, -, h⟩ := Option.bind_eq_some_iff.1 h
    intro hpiece
    rw [Step.piece?] at hpiece
    split at hpiece
    · rw [Option.some.inj hpiece] at h
      split at h
      · simp at h
      · cases h
    · cases hpiece
  | _ => exact fun hpiece => absurd hpiece.symm (Option.some_ne_none _)

/-- No piece is received over a connection that is not there yet. -/
lemma piece?_of_absent {taken : Step} (h : run.step? taken = some next)
    (hnone : run.connections[number]? = none) : taken.piece? number = none := by
  cases taken with
  | receive other piece =>
    apply if_neg
    rintro rfl
    obtain ⟨connection, hconnection, -⟩ := Option.bind_eq_some_iff.1 h
    rw [hnone] at hconnection
    cases hconnection
  | _ => rfl

section Induction

variable {P : Connection ρ → List Bytes → List Command → Replies → Prop} {keepAlive : Bool}
  {pieces : List Bytes} {commands : List Command} {replies : Replies} {steps : List Step}

/-- What was exchanged over a connection from a run on, if it has the property before that. -/
lemma exchange_from
    (hnew : P .accepted [] [] .empty)
    (hmove : ∀ {before after pieces commands more replies} {received read : Option Bytes},
      P before pieces commands replies → received ≠ some [] →
      before.Moves keepAlive more (received.getD []) read after →
      P after (pieces ++ received.toList) (commands ++ more) (replies.record more read))
    (hkeepAlive : run.settings.keepAlive = keepAlive)
    (hpresent : ∀ connection, run.connections[number]? = some connection →
      P connection pieces commands replies)
    (habsent : run.connections[number]? = none → pieces = [] ∧ commands = [] ∧ replies = .empty)
    (h : run.stepAll? steps = some next) {connection : Connection ρ}
    (hconnection : next.connections[number]? = some connection) :
    P connection (pieces ++ Step.pieces number steps)
      (commands ++ commandsOf number (run.executedAll steps))
      (run.repliesFrom number replies steps) := by
  induction steps generalizing run pieces commands replies with
  | nil =>
    cases h
    rw [Step.pieces, executedAll, commandsOf, List.filterMap_nil, List.filterMap_nil,
      List.append_nil, List.append_nil]
    exact hpresent connection hconnection
  | cons taken others ih =>
    obtain ⟨after, hstep, hlast, hexecuted⟩ := stepAll?_cons h
    rw [pieces_cons, hexecuted, commandsOf_append, repliesFrom, hstep, ← List.append_assoc,
      ← List.append_assoc]
    refine ih (by rw [settings_of_step hstep, hkeepAlive]) ?_ ?_ hlast
    · intro later hlater
      cases hbefore : run.connections[number]? with
      | none =>
        obtain ⟨hmore, -, hread, haccepted⟩ := new_connection_of_step hstep hbefore
        obtain ⟨rfl, rfl, rfl⟩ := habsent hbefore
        rw [hmore, hread, piece?_of_absent hstep hbefore, haccepted later hlater]
        exact hnew
      | some before =>
        obtain ⟨there, hthere, hmoves⟩ := connection_of_step hstep hbefore
        rw [hlater] at hthere
        cases hthere
        rw [hkeepAlive, ← getD_piece?] at hmoves
        exact hmove (hpresent before hbefore) (piece?_ne_nil hstep number) hmoves
    · intro hnone
      cases hbefore : run.connections[number]? with
      | none =>
        obtain ⟨hmore, -, hread, -⟩ := new_connection_of_step hstep hbefore
        obtain ⟨rfl, rfl, rfl⟩ := habsent hbefore
        rw [hmore, hread, piece?_of_absent hstep hbefore]
        exact ⟨rfl, rfl, rfl⟩
      | some before =>
        obtain ⟨there, hthere, -⟩ := connection_of_step hstep hbefore
        rw [hnone] at hthere
        cases hthere

/-- What holds of a new connection and is kept by every move holds of every connection of a run,
with the pieces that it has received, the commands carried out for it, and the replies to them. -/
lemma exchange_of_stepAll? {settings : Settings} {storage : σ}
    (hnew : P .accepted [] [] .empty)
    (hmove : ∀ {before after pieces commands more replies} {received read : Option Bytes},
      P before pieces commands replies → received ≠ some [] →
      before.Moves settings.keepAlive more (received.getD []) read after →
      P after (pieces ++ received.toList) (commands ++ more) (replies.record more read))
    (h : (initial settings storage).stepAll? steps = some run) {connection : Connection ρ}
    (hconnection : run.connections[number]? = some connection) :
    P connection (Step.pieces number steps)
      (commandsOf number ((initial settings storage : Run σ ρ).executedAll steps))
      ((initial settings storage : Run σ ρ).repliesTo number steps) := by
  have habsent : ∀ connection,
      (initial settings storage : Run σ ρ).connections[number]? = some connection →
      P connection [] [] .empty := by
    intro connection hconnection
    cases hconnection
  have hexchange := exchange_from hnew hmove rfl habsent (fun _ => ⟨rfl, rfl, rfl⟩) h hconnection
  rw [List.nil_append, List.nil_append] at hexchange
  exact hexchange

end Induction

end Run

/-! ## Received and sent -/

section Exchange

variable {ρ : Type}

/-- A worker in this phase has sent its replies to their ends, except for the one that it is sending
or that it was sending when it gave the connection up. -/
def WorkerPhase.Owes : WorkerPhase ρ → Option (Command × Bytes) → Prop
  | .replying _ _, begun => begun.isSome
  | .ended (some _), _ => True
  | .receiving, begun | .executing _ _, begun | .ended none, begun => begun = none

namespace Connection

variable {connection after : Connection ρ} {pieces : List Bytes} {commands more : List Command}
  {replies : Replies}

/-- What a connection has received and what it was sent fit together: the commands carried out are
the first lines of the pieces, the others are waiting, and once the connection has ended there were
no others or the last one carried out has failed. -/
structure Exchanged (connection : Connection ρ) (pieces : List Bytes) (commands : List Command)
    (replies : Replies) : Prop where
  accounts : connection.Accounts commands pieces.flatten
  commands_eq : replies.commands = commands
  sent_eq : connection.sent = replies.bytes
  owes : connection.phase.Owes replies.begun
  ended : connection.hasEnded = true →
    Bytes.lines pieces.flatten = commands.map Command.bytes ∨ replies.begun.isSome

lemma exchanged_accepted : (accepted : Connection ρ).Exchanged [] [] .empty where
  accounts := accounts_accepted
  commands_eq := rfl
  sent_eq := rfl
  owes := rfl
  ended := fun h => absurd h Bool.false_ne_true

/-- With nothing waiting, every line received so far was carried out. -/
lemma Exchanged.lines_eq (h : connection.Exchanged pieces commands replies)
    (hphase : ∀ waiting, connection.phase.Awaits waiting → waiting = []) :
    Bytes.lines pieces.flatten = commands.map Command.bytes := by
  obtain ⟨waiting, hwaiting, hlines⟩ := h.accounts
  rw [hphase waiting hwaiting, List.append_nil] at hlines
  rw [Bytes.lines, hlines]

/-- Every move keeps what was exchanged over a connection in order. -/
lemma Exchanged.move (h : connection.Exchanged pieces commands replies) {keepAlive : Bool}
    {received read : Option Bytes} {piece : Bytes} (hreceived : received.getD [] = piece)
    (hmoves : connection.Moves keepAlive more piece read after) :
    after.Exchanged (pieces ++ received.toList) (commands ++ more) (replies.record more read) := by
  have hstream : (pieces ++ received.toList).flatten = pieces.flatten ++ piece := by
    rw [List.flatten_append, ← hreceived]
    cases received with
    | none => rfl
    | some piece => exact congrArg (pieces.flatten ++ ·) (List.append_nil piece)
  have haccounts := hmoves.accounts h.accounts
  rw [← hstream] at haccounts
  have hbegun := h.owes
  cases hmoves with
  | stay | join =>
    rw [List.append_nil] at hstream haccounts ⊢
    refine ⟨haccounts, h.commands_eq, h.sent_eq, hbegun, ?_⟩
    rw [hstream]
    exact h.ended
  | receive _ hphase =>
    rw [hphase] at hbegun
    rw [List.append_nil] at haccounts ⊢
    refine ⟨haccounts, h.commands_eq, h.sent_eq, ?_, ?_⟩
    · unfold receive
      rcases (connection.buffer.feed piece).drain with ⟨_ | ⟨command, waiting⟩, buffer⟩
      · exact hbegun
      · exact hbegun
    · unfold receive
      rcases (connection.buffer.feed piece).drain with ⟨_ | ⟨command, waiting⟩, buffer⟩
      · exact fun hended => absurd hended Bool.false_ne_true
      · exact fun hended => absurd hended Bool.false_ne_true
  | @execute command waiting reader hphase =>
    rw [hphase] at hbegun
    obtain ⟨hcommands, hbytes⟩ := Replies.record_command hbegun command none
    refine ⟨haccounts, ?_, h.sent_eq.trans hbytes.symm, rfl, fun _ => .inr rfl⟩
    rw [hcommands, h.commands_eq]
  | @refuse command waiting stop hphase =>
    rw [hphase] at hbegun
    obtain ⟨hcommands, hbytes⟩ := Replies.record_command hbegun command none
    refine ⟨haccounts, ?_, h.sent_eq.trans hbytes.symm, trivial, fun _ => .inr rfl⟩
    rw [hcommands, h.commands_eq]
  | send moved hpiece hphase =>
    rw [hphase] at hbegun
    rw [List.append_nil] at haccounts ⊢
    obtain ⟨hcommands, hbytes, hstill⟩ := Replies.record_piece hbegun hpiece
    refine ⟨haccounts, hcommands.trans h.commands_eq, ?_, hstill, fun _ => .inr hstill⟩
    rw [hbytes, ← h.sent_eq]
  | @finishReply reader waiting hphase =>
    rw [List.append_nil] at hstream haccounts ⊢
    obtain ⟨hcommands, hbytes⟩ := replies.record_end
    refine ⟨haccounts, hcommands.trans h.commands_eq, h.sent_eq.trans hbytes.symm, ?_, ?_⟩
    · unfold finishReply
      cases waiting with
      | cons command others => rfl
      | nil => cases keepAlive <;> rfl
    · -- the worker ends here only if nothing is waiting
      cases waiting with
      | cons command others => exact fun hended => absurd hended Bool.false_ne_true
      | nil =>
        rw [hstream]
        refine fun _ => .inl (h.lines_eq ?_)
        rw [hphase]
        exact fun _ hwaiting => hwaiting
  | hangUp hphase =>
    rw [List.append_nil] at hstream haccounts ⊢
    have hlines := h.lines_eq (by rw [hphase]; exact fun _ hwaiting => hwaiting)
    rw [hphase] at hbegun
    refine ⟨haccounts, h.commands_eq, h.sent_eq, hbegun, fun _ => ?_⟩
    rw [hstream]
    exact .inl hlines
  | giveUp stop hopen hphase =>
    rw [List.append_nil] at hstream haccounts ⊢
    refine ⟨haccounts, h.commands_eq, h.sent_eq, trivial, fun _ => ?_⟩
    rw [hstream]
    cases hbefore : connection.phase with
    | receiving =>
      refine .inl (h.lines_eq ?_)
      rw [hbefore]
      exact fun _ hwaiting => hwaiting
    | executing command waiting => exact absurd hbefore (hphase command waiting)
    | replying reader waiting =>
      rw [hbefore] at hbegun
      exact .inr hbegun
    | ended stop =>
      rw [hasEnded, hbefore] at hopen
      exact absurd hopen.symm Bool.false_ne_true

end Connection

end Exchange

namespace Run

variable {σ ρ : Type} [Storage σ ρ] {run : Run σ ρ} {number : Nat} {settings : Settings}
  {storage : σ} {steps : List Step}

/-- After every history of a server, what was received and sent over a connection fits together. -/
lemma exchanged_of_stepAll? (h : (initial settings storage).stepAll? steps = some run)
    {connection : Connection ρ} (hconnection : run.connections[number]? = some connection) :
    connection.Exchanged (Step.pieces number steps)
      (commandsOf number ((initial settings storage : Run σ ρ).executedAll steps))
      ((initial settings storage : Run σ ρ).repliesTo number steps) :=
  exchange_of_stepAll? (P := Connection.Exchanged) Connection.exchanged_accepted
    (fun hbefore _ hmoves => hbefore.move rfl hmoves) h hconnection

end Run

end CommandLog
