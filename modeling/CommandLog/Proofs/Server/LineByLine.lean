import CommandLog.Server.Session
import CommandLog.Proofs.Bytes.Lines
import CommandLog.Proofs.Storage.View

/-!
# A connection answers line by line

A worker receives its bytes in pieces and carries over what is no complete command yet.  On a
connection that is kept alive none of this can be seen from outside: the main statement
`receiveAll_eq_answerLines` says that the storage, the bytes sent and whether the connection is
still open are those of `Shared.answerLines`, a plain fold over the lines of the whole stream that
knows of no pieces, no buffer and no reader.

The proof has two halves.  `receiveAll_eq_answerAll` takes the pieces away, by induction on them: what
is in the buffer has no newline, so a piece adds its complete lines to those answered so far and
leaves the unfinished rest, and once the connection is closed nothing changes any more.
`answer_eq_answerLine` takes the readers away, one line at a time, by what a `LogView` shows.
-/

namespace CommandLog

namespace Shared

section AnswerLine

variable {σ ρ : Type} [Storage σ ρ] [LogView σ]

/-- One line, answered from the log itself: a command to be stored is appended and answered with the
whole log as it is then, a seek with the log from its place on.  There is no answer if the line is
no request, if the storage refuses it, or if the log has no such place; and none to any request once
an append has panicked. -/
def answerLine (shared : Shared σ) (line : Bytes) : Shared σ × Option Bytes :=
  match Request.ofCommand ⟨line⟩ with
  | .error _ => (shared, none)
  | .ok (.store command) =>
    if shared.poisoned then (shared, none)
    else
      match Storage.append shared.storage command.bytes with
      | (storage, .stored) => (⟨storage, false⟩, Storage.contents? storage)
      | (storage, .failed _) => (⟨storage, false⟩, none)
      | (storage, .panicked) => (⟨storage, true⟩, none)
  | .ok (.seek number offset) =>
    if shared.poisoned then (shared, none)
    else
      (shared, (LogView.place? shared.storage number offset).bind fun place =>
        (Storage.contents? shared.storage).map (List.drop place))

/-- Lines, answered in order up to the first that has no answer: what is stored then, all that is
sent, and whether every line had its answer. -/
def answerLines (shared : Shared σ) : List Bytes → Shared σ × Bytes × Bool
  | [] => (shared, [], true)
  | line :: others =>
    match shared.answerLine line with
    | (shared, none) => (shared, [], false)
    | (shared, some reply) =>
      let (shared, replies, all) := shared.answerLines others
      (shared, reply ++ replies, all)

end AnswerLine

section Answer

variable {σ ρ : Type} [Storage σ ρ]

/-! ## One command -/

/-- A worker sends what the reader shows that it got in the lock section, and gives the connection
up if there is nothing to show. -/
lemma answer_eq_shown (shared : Shared σ) (command : Command) :
    (shared.answer command).1 = (shared.execute command).1 ∧
      (shared.answer command).2.1 =
        (Storage.shown? (shared.execute command).1.storage (shared.execute command).2).getD [] ∧
      (shared.answer command).2.2.isNone =
        (Storage.shown? (shared.execute command).1.storage (shared.execute command).2).isSome := by
  unfold answer
  rcases shared.execute command with ⟨after, stop | reader⟩
  · exact ⟨rfl, rfl, rfl⟩
  · simp only [Storage.shown?]
    rcases Storage.readToEnd after.storage reader with fault | ⟨reply, last⟩
    · exact ⟨rfl, rfl, rfl⟩
    · exact ⟨rfl, rfl, rfl⟩

variable [LogView σ]

lemma shown_store (shared : Shared σ) (command : Command) :
    ((shared.store command).1,
        Storage.shown? (shared.store command).1.storage (shared.store command).2) =
      if shared.poisoned then (shared, none)
      else
        match Storage.append shared.storage command.bytes with
        | (storage, .stored) => (⟨storage, false⟩, Storage.contents? storage)
        | (storage, .failed _) => (⟨storage, false⟩, none)
        | (storage, .panicked) => (⟨storage, true⟩, none) := by
  obtain ⟨storage, _ | _⟩ := shared
  · simp only [store, append, Bool.false_eq_true, if_false]
    rcases Storage.append storage command.bytes with ⟨after, _ | failure | _⟩
    · exact congrArg ((⟨after, false⟩ : Shared σ), ·)
        ((Storage.shown?_mapError _ _ _).trans (LogView.shown_openReader after))
    · rfl
    · rfl
  · rfl

lemma shown_seek (shared : Shared σ) (h : shared.poisoned = false) (number offset : UInt32) :
    Storage.shown? shared.storage (shared.seek number offset) =
      (LogView.place? shared.storage number offset).bind fun place =>
        (Storage.contents? shared.storage).map (List.drop place) := by
  have hseek : shared.seek number offset =
      (Storage.openReader shared.storage >>= fun reader =>
        Storage.seekTo shared.storage reader number offset).mapError .failed := by
    rw [seek, h, openReader]
    cases Storage.openReader shared.storage <;> rfl
  rw [hseek, Storage.shown?_mapError, LogView.shown_seekTo]

/-- What a lock section leaves behind and what its reader shows are the answer to the line. -/
lemma execute_eq_answerLine (shared : Shared σ) (command : Command) :
    ((shared.execute command).1,
        Storage.shown? (shared.execute command).1.storage (shared.execute command).2) =
      shared.answerLine command.bytes := by
  unfold execute answerLine
  rcases Request.ofCommand command with failure | stored | ⟨number, offset⟩
  · rfl
  · exact shown_store shared stored
  · cases hpoisoned : shared.poisoned with
    | true => simp [seek, hpoisoned, Storage.shown?]
    | false => simp [shown_seek shared hpoisoned]

/-! ## Commands in order -/

lemma answer_eq_answerLine (shared : Shared σ) (command : Command) :
    (shared.answer command).1 = (shared.answerLine command.bytes).1 ∧
      (shared.answer command).2.1 = (shared.answerLine command.bytes).2.getD [] ∧
      (shared.answer command).2.2.isNone = (shared.answerLine command.bytes).2.isSome := by
  rw [← execute_eq_answerLine]
  exact answer_eq_shown shared command

lemma answerAll_eq_answerLines (shared : Shared σ) (lines : List Bytes) :
    ((shared.answerAll (lines.map Command.mk)).1, (shared.answerAll (lines.map Command.mk)).2.1,
      (shared.answerAll (lines.map Command.mk)).2.2.isNone) = shared.answerLines lines := by
  induction lines generalizing shared with
  | nil => rfl
  | cons line others ih =>
    obtain ⟨hafter, hreply, hstop⟩ := answer_eq_answerLine shared ⟨line⟩
    rw [List.map_cons, answerAll, answerLines]
    rcases hanswer : shared.answer ⟨line⟩ with ⟨after, reply, _ | stop⟩ <;>
      rcases hline : shared.answerLine line with ⟨after', _ | reply'⟩ <;>
      rw [hanswer, hline] at hafter hreply hstop
    · simp at hstop
    · simp only at hafter hreply ⊢
      rw [← hafter, hreply, ← ih after, Option.getD_some]
    · simp only at hafter hreply ⊢
      rw [hafter, hreply]
      rfl
    · simp at hstop

end Answer

section Pieces

variable {σ ρ : Type} [Storage σ ρ]

lemma answerAll_singleton (shared : Shared σ) (command : Command) :
    shared.answerAll [command] = shared.answer command := by
  rw [answerAll]
  rcases shared.answer command with ⟨after, reply, _ | stop⟩
  · simp only [answerAll, List.append_nil]
  · rfl

/-- Answering goes on with later commands exactly if all earlier ones were answered. -/
lemma answerAll_append (shared : Shared σ) (commands others : List Command) :
    shared.answerAll (commands ++ others) =
      match shared.answerAll commands with
      | (shared, reply, some stop) => (shared, reply, some stop)
      | (shared, reply, none) =>
        ((shared.answerAll others).1, reply ++ (shared.answerAll others).2.1,
          (shared.answerAll others).2.2) := by
  induction commands generalizing shared with
  | nil => rfl
  | cons command commands ih =>
    rw [List.cons_append, answerAll, answerAll]
    rcases shared.answer command with ⟨after, reply, _ | stop⟩
    · simp only [ih]
      rcases after.answerAll commands with ⟨later, replies, _ | stop⟩
      · simp only [List.append_assoc]
      · rfl
    · rfl

end Pieces

end Shared

namespace Session

variable {σ ρ : Type} [Storage σ ρ]

/-! ## Pieces -/

lemma receiveAll_of_closed (keepAlive : Bool) (shared : Shared σ) {session : Session}
    (h : session.isOpen = false) (pieces : List Bytes) :
    receiveAll keepAlive shared session pieces = (shared, session, []) := by
  induction pieces with
  | nil => rfl
  | cons piece others ih =>
    have hreceive : receive keepAlive shared session piece = (shared, session, []) := by
      simp [receive, h]
    simp only [receiveAll, hreceive, ih, List.append_nil]

/-- An open connection answers the commands that are complete with a piece, and stays open if there
are none, or if it is kept alive and all of them are answered. -/
lemma receive_of_open (keepAlive : Bool) (shared : Shared σ) (buffer : LineBuffer) (piece : Bytes) :
    receive keepAlive shared ⟨buffer, true⟩ piece =
      let (commands, rest) := (buffer.feed piece).drain
      ((shared.answerAll commands).1,
        ⟨rest, commands.isEmpty || keepAlive && (shared.answerAll commands).2.2.isNone⟩,
        (shared.answerAll commands).2.1) := by
  unfold receive
  rcases (buffer.feed piece).drain with ⟨_ | ⟨command, others⟩, rest⟩
  · rfl
  · rfl

/-- On a connection that is kept alive, a piece is answered command by command. -/
lemma receive_keptAlive (shared : Shared σ) (buffer : LineBuffer) (piece : Bytes) :
    receive true shared ⟨buffer, true⟩ piece =
      let (commands, rest) := (buffer.feed piece).drain
      ((shared.answerAll commands).1, ⟨rest, (shared.answerAll commands).2.2.isNone⟩,
        (shared.answerAll commands).2.1) := by
  unfold receive
  rcases (buffer.feed piece).drain with ⟨_ | ⟨command, others⟩, rest⟩
  · rfl
  · rfl

/-- However the bytes come in pieces, the commands of the whole stream are answered in order. -/
lemma receiveAll_eq_answerAll (shared : Shared σ) {buffer : LineBuffer}
    (hbuffer : newline ∉ buffer.pending) (pieces : List Bytes) :
    let commands := (Bytes.lines (buffer.pending ++ pieces.flatten)).map Command.mk
    (receiveAll true shared ⟨buffer, true⟩ pieces).1 = (shared.answerAll commands).1 ∧
      (receiveAll true shared ⟨buffer, true⟩ pieces).2.1.isOpen =
        (shared.answerAll commands).2.2.isNone ∧
      (receiveAll true shared ⟨buffer, true⟩ pieces).2.2 = (shared.answerAll commands).2.1 := by
  induction pieces generalizing shared buffer with
  | nil =>
    have hlines : Bytes.lines buffer.pending = [] := by
      rw [Bytes.lines, Bytes.splitLines_of_not_mem hbuffer]
    rw [List.flatten_nil, List.append_nil, hlines]
    exact ⟨rfl, rfl, rfl⟩
  | cons piece others ih =>
    obtain ⟨hcommands, hrest⟩ := LineBuffer.drain_eq (buffer.feed piece)
    rw [LineBuffer.pending_feed] at hcommands hrest
    have hnewline : newline ∉ (buffer.feed piece).drain.2.pending := by
      rw [hrest]
      exact Bytes.newline_not_mem_unfinished _
    -- the commands of the stream are those that this piece completes and those that come later
    have hstream : (Bytes.lines (buffer.pending ++ (piece :: others).flatten)).map Command.mk =
        (buffer.feed piece).drain.1 ++
          (Bytes.lines ((buffer.feed piece).drain.2.pending ++ others.flatten)).map Command.mk := by
      rw [List.flatten_cons, ← List.append_assoc, Bytes.lines_append, List.map_append, hcommands,
        hrest]
    simp only [hstream, Shared.answerAll_append, receiveAll, receive_keptAlive]
    rcases shared.answerAll (buffer.feed piece).drain.1 with ⟨after, reply, _ | stop⟩
    · obtain ⟨hafter, hopen, hreplies⟩ := ih after hnewline
      exact ⟨hafter, hopen, congrArg (reply ++ ·) hreplies⟩
    · simp only [Option.isNone_some]
      rw [receiveAll_of_closed true after rfl others]
      exact ⟨rfl, rfl, List.append_nil reply⟩

/-- What a connection that is kept alive comes to, for pieces received from its beginning on: the
storage behind its lock, all that was sent, and whether the connection is still open. -/
def outcome (shared : Shared σ) (pieces : List Bytes) : Shared σ × Bytes × Bool :=
  let (shared, session, reply) := receiveAll true shared .start pieces
  (shared, reply, session.isOpen)

lemma outcome_eq_answerLines [LogView σ] (shared : Shared σ) (pieces : List Bytes) :
    outcome shared pieces = shared.answerLines (Bytes.lines pieces.flatten) := by
  have hstart : newline ∉ LineBuffer.empty.pending := by
    rw [LineBuffer.pending_empty]
    exact List.not_mem_nil
  obtain ⟨hafter, hopen, hreply⟩ := receiveAll_eq_answerAll shared hstart pieces
  rw [LineBuffer.pending_empty, List.nil_append] at hafter hopen hreply
  rw [← Shared.answerAll_eq_answerLines, ← hafter, ← hopen, ← hreply]
  rfl

/-- Whatever the storage and its state, a connection that is kept alive answers the lines of its
stream one after the other, and how the stream was cut into pieces makes no difference. -/
theorem receiveAll_eq_answerLines {medium : Medium} (shared : Shared medium.Store)
    {pieces others : List Bytes} (h : pieces.flatten = others.flatten) :
    outcome shared pieces = outcome shared others ∧
      outcome shared pieces = shared.answerLines (Bytes.lines pieces.flatten) := by
  refine ⟨?_, outcome_eq_answerLines shared pieces⟩
  rw [outcome_eq_answerLines, outcome_eq_answerLines, h]

/-- Two commands, cut in the middle of the first one or of the second one, on a device with room for
one. -/
theorem receiveAll_eq_answerLines_device :
    let shared : Shared Medium.device.Store := ⟨Device.empty 1, false⟩
    let pieces : List Bytes := [[97], [10, 98, 10]]
    let others : List Bytes := [[97, 10, 98], [10]]
    pieces.flatten = others.flatten ∧ outcome shared pieces = outcome shared others ∧
      outcome shared pieces = shared.answerLines [[97, 10], [98, 10]] := by
  have h : [[97], [10, 98, 10]].flatten = [[97, 10, 98], [(10 : UInt8)]].flatten := rfl
  exact ⟨h, receiveAll_eq_answerLines (⟨Device.empty 1, false⟩ : Shared Medium.device.Store) h⟩

example : (outcome (⟨Device.empty 1, false⟩ : Shared Device) [[97], [10, 98, 10, 99]]).2 =
    ([97, 10, 98, 10], true) := by decide +kernel

end Session

end CommandLog
