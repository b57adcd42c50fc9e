import CommandLog.Proofs.Request.Grammar
import CommandLog.Timestamp
import Mathlib.Data.List.Forall2

/-!
# Timestamps among the lines of a log

A timestamp is one complete line that begins like a timestamp, whatever the instant and the offset
(`Timestamp.IsEntry.isComplete`, `Timestamp.IsEntry.isStamp_eq`).  So what a timestamp adds to a log
that ends with a complete line is a line of its own: `Timestamp.stamps_append` finds it among the
timestamps, and `Timestamp.withoutStamps_append` leaves it out again.

`Timestamp.Annotated` says of two logs that the one is the other with timestamps added, anywhere
between its lines.  It is kept by a timestamp that the first log gets, and by a line that both get.
-/

namespace CommandLog

lemma Bytes.isLine_of_eq {line start rest : Bytes} (h : line = start ++ (rest ++ [newline]))
    (hstart : newline ∉ start) (hrest : newline ∉ rest) : line.IsLine := by
  rw [h]
  exact (isLine_append_newline hrest).append hstart

namespace Stamp

lemma newline_not_mem_padded (width n : Nat) : newline ∉ Numeral.padded width n := by
  unfold Numeral.padded
  rw [List.mem_append, not_or]
  constructor
  · intro h
    exact absurd (List.eq_of_mem_replicate h) (by decide)
  · exact Request.newline_not_mem_of_value? (Numeral.value?_digits n)

lemma newline_not_mem_nameOf {names : List String}
    (h : ∀ name ∈ names, newline ∉ Utf8.encode name) (i : Nat) : newline ∉ nameOf names i := by
  unfold nameOf
  cases hname : names[i]? with
  | none => exact List.not_mem_nil
  | some name => exact h name (List.mem_of_getElem? hname)

lemma newline_not_mem_renderYear (year : Int) : newline ∉ renderYear year := by
  unfold renderYear
  split
  · exact newline_not_mem_padded 4 _
  · rw [List.mem_cons, not_or]
    refine ⟨?_, newline_not_mem_padded 4 _⟩
    split
    · decide
    · decide

lemma newline_not_mem_renderZone (zone : Zone) : newline ∉ renderZone zone := by
  unfold renderZone
  rw [List.cons_append, List.mem_cons, List.mem_append, not_or, not_or]
  refine ⟨?_, newline_not_mem_padded 2 _, newline_not_mem_padded 2 _⟩
  split
  · decide
  · decide

/-- What a timestamp has between its beginning and its newline. -/
def body (stamp : Stamp) : Bytes :=
  nameOf weekdayNames stamp.weekday ++ Utf8.encode ", "
    ++ Numeral.padded 2 stamp.date.day ++ Utf8.encode " "
    ++ nameOf monthNames (stamp.date.month - 1) ++ Utf8.encode " "
    ++ renderYear stamp.date.year ++ Utf8.encode " "
    ++ Numeral.padded 2 stamp.hour ++ Utf8.encode ":"
    ++ Numeral.padded 2 stamp.minute ++ Utf8.encode ":"
    ++ Numeral.padded 2 stamp.second ++ Utf8.encode " "
    ++ renderZone stamp.zone

lemma render_eq (stamp : Stamp) : stamp.render = head ++ (stamp.body ++ [newline]) := by
  simp only [render, body, List.append_assoc]

lemma newline_not_mem_body (stamp : Stamp) : newline ∉ stamp.body := by
  have hdays : ∀ name ∈ weekdayNames, newline ∉ Utf8.encode name := by decide
  have hmonths : ∀ name ∈ monthNames, newline ∉ Utf8.encode name := by decide
  have hmarks : newline ∉ Utf8.encode ", " ∧ newline ∉ Utf8.encode " " ∧
      newline ∉ Utf8.encode ":" := by decide
  obtain ⟨hcomma, hblank, hcolon⟩ := hmarks
  simp only [body, List.mem_append, not_or, newline_not_mem_nameOf hdays,
    newline_not_mem_nameOf hmonths, newline_not_mem_padded, newline_not_mem_renderYear,
    newline_not_mem_renderZone, hcomma, hblank, hcolon, not_false_eq_true, and_self]

lemma newline_not_mem_head : newline ∉ head := by decide

end Stamp

namespace Timestamp

lemma isStamp_iff {line : Bytes} : isStamp line = true ↔ ∃ rest, line = Stamp.head ++ rest := by
  rw [isStamp, Option.isSome_iff_exists]
  exact exists_congr fun rest => Bytes.dropHead?_eq_some_iff

/-! ## The timestamp of an instant -/

/-- The command is the timestamp of some instant. -/
def IsEntry (command : Command) : Prop :=
  ∃ (seconds : Int) (nanos : Nat) (offset : Int), entry seconds nanos offset = .ok command

variable {command : Command}

lemma IsEntry.bytes_eq (h : IsEntry command) :
    ∃ stamp : Stamp, command.bytes = Stamp.head ++ (stamp.body ++ [newline]) := by
  obtain ⟨seconds, nanos, offset, h⟩ := h
  unfold entry at h
  cases hstamp : Stamp.ofInstant seconds nanos offset with
  | error fault =>
    rw [hstamp] at h
    cases h
  | ok stamp =>
    rw [hstamp] at h
    refine ⟨stamp, ?_⟩
    rw [← stamp.render_eq, ← Except.ok.inj h]

/-- Every timestamp is one complete line: its only newline is its last byte. -/
lemma IsEntry.isComplete (h : IsEntry command) : command.IsComplete := by
  obtain ⟨stamp, hbytes⟩ := h.bytes_eq
  exact Bytes.isLine_of_eq hbytes Stamp.newline_not_mem_head stamp.newline_not_mem_body

/-- Every timestamp begins like one. -/
lemma IsEntry.isStamp_eq (h : IsEntry command) : isStamp command.bytes = true := by
  obtain ⟨stamp, hbytes⟩ := h.bytes_eq
  exact isStamp_iff.2 ⟨_, hbytes⟩

/-! ## Logs that end with a complete line -/

section Complete

variable {log : Bytes}

lemma lines_append_of_complete (h : log.unfinished = []) (more : Bytes) :
    (log ++ more).lines = log.lines ++ more.lines := by
  rw [Bytes.lines_append, h, List.nil_append]

lemma unfinished_append_of_complete (h : log.unfinished = []) (more : Bytes) :
    (log ++ more).unfinished = more.unfinished := by
  rw [Bytes.unfinished_append, h, List.nil_append]

/-- The timestamps of a longer log are those of its beginning, followed by those of the rest. -/
lemma stamps_append (h : log.unfinished = []) (more : Bytes) :
    stamps (log ++ more) = stamps log ++ stamps more := by
  rw [stamps, lines_append_of_complete h, List.filter_append, stamps, stamps]

lemma withoutStamps_of_complete (h : log.unfinished = []) :
    withoutStamps log = (log.lines.filter (!isStamp ·)).flatten := by
  have hnil : [([] : Bytes)].filter (!isStamp ·) = [[]] := by decide
  rw [withoutStamps, h, List.filter_append, hnil, List.flatten_append, List.flatten_singleton,
    List.append_nil]

/-- A log without its timestamps goes on with the rest without its timestamps. -/
lemma withoutStamps_append (h : log.unfinished = []) (more : Bytes) :
    withoutStamps (log ++ more) = withoutStamps log ++ withoutStamps more := by
  rw [withoutStamps_of_complete h, withoutStamps, withoutStamps, lines_append_of_complete h,
    unfinished_append_of_complete h, List.append_assoc, List.filter_append, List.flatten_append]

/-- Without any timestamps there is nothing to leave out. -/
lemma withoutStamps_of_stamps_eq_nil (h : log.unfinished = []) (hnone : stamps log = []) :
    withoutStamps log = log := by
  have hall : log.lines.filter (!isStamp ·) = log.lines := by
    apply List.filter_eq_self.2
    intro line hline
    rw [Bool.not_eq_true', Bool.eq_false_iff]
    exact List.filter_eq_nil_iff.1 hnone line hline
  have hlog := Bytes.flatten_lines_append_unfinished log
  rw [h, List.append_nil] at hlog
  rw [withoutStamps_of_complete h, hall, hlog]

end Complete

section Line

variable {line : Bytes}

lemma unfinished_of_isLine (h : line.IsLine) : line.unfinished = [] := by
  rw [Bytes.unfinished, h.splitLines_eq]

lemma stamps_of_isLine (h : line.IsLine) : stamps line = if isStamp line then [line] else [] := by
  rw [stamps, Bytes.lines, h.splitLines_eq, List.filter_cons, List.filter_nil]

lemma withoutStamps_of_isLine (h : line.IsLine) :
    withoutStamps line = if isStamp line then [] else line := by
  rw [withoutStamps_of_complete (unfinished_of_isLine h), Bytes.lines, h.splitLines_eq,
    List.filter_cons, List.filter_nil]
  cases isStamp line with
  | true => rfl
  | false => exact List.append_nil line

end Line

/-! ## A log with timestamps added -/

/-- Both logs end with a complete line and are the same without their timestamps.  Those of the
second log are the old ones. -/
structure Annotated (old : List Bytes) (log plain : Bytes) : Prop where
  log_complete : log.unfinished = []
  plain_complete : plain.unfinished = []
  withoutStamps_eq : withoutStamps log = withoutStamps plain
  stamps_eq : stamps plain = old

variable {old : List Bytes} {log plain line : Bytes}

lemma annotated_self (h : log.unfinished = []) : Annotated (stamps log) log log :=
  ⟨h, h, rfl, rfl⟩

/-- A line that is no timestamp is added to both. -/
lemma Annotated.append (h : Annotated old log plain) (hline : line.IsLine)
    (hstamp : isStamp line = false) : Annotated old (log ++ line) (plain ++ line) where
  log_complete := by
    rw [unfinished_append_of_complete h.log_complete, unfinished_of_isLine hline]
  plain_complete := by
    rw [unfinished_append_of_complete h.plain_complete, unfinished_of_isLine hline]
  withoutStamps_eq := by
    rw [withoutStamps_append h.log_complete, withoutStamps_append h.plain_complete,
      h.withoutStamps_eq]
  stamps_eq := by
    rw [stamps_append h.plain_complete, h.stamps_eq, stamps_of_isLine hline, hstamp,
      if_neg Bool.false_ne_true, List.append_nil]

/-- A timestamp is added to the first. -/
lemma Annotated.stamp (h : Annotated old log plain) (hline : line.IsLine)
    (hstamp : isStamp line = true) : Annotated old (log ++ line) plain where
  log_complete := by
    rw [unfinished_append_of_complete h.log_complete, unfinished_of_isLine hline]
  plain_complete := h.plain_complete
  withoutStamps_eq := by
    rw [withoutStamps_append h.log_complete, withoutStamps_of_isLine hline, if_pos hstamp,
      List.append_nil, h.withoutStamps_eq]
  stamps_eq := h.stamps_eq

/-- If the second log has no timestamps, it is the first without its timestamps. -/
lemma Annotated.withoutStamps_eq_plain (h : Annotated old log plain) (hold : old = []) :
    withoutStamps log = plain := by
  rw [h.withoutStamps_eq,
    withoutStamps_of_stamps_eq_nil h.plain_complete (h.stamps_eq.trans hold)]

/-! ## Replies -/

/-- Two replies to the same command, the first of which is the second with timestamps added. -/
structure SameReply (old : List Bytes) (reply plain : Command × Bytes) : Prop where
  command_eq : reply.1 = plain.1
  bytes : Annotated old reply.2 plain.2

/-- A reply without its timestamps. -/
def withoutStampsIn (reply : Command × Bytes) : Command × Bytes := (reply.1, withoutStamps reply.2)

section Replies

variable {replies replies' : List (Command × Bytes)}

/-- Texts that end with complete lines, one after the other, lose their timestamps one by one. -/
lemma withoutStamps_flatMap
    (h : ∀ reply ∈ replies, reply.2.unfinished = []) :
    withoutStamps (replies.flatMap Prod.snd) =
      (replies.map (withoutStampsIn)).flatMap Prod.snd := by
  induction replies with
  | nil => rfl
  | cons reply others ih =>
    obtain ⟨hthis, hothers⟩ := List.forall_mem_cons.1 h
    rw [List.flatMap_cons, withoutStamps_append hthis, ih hothers, List.map_cons, List.flatMap_cons]
    rfl

/-- All these replies end with complete lines. -/
lemma unfinished_of_sameReply (h : List.Forall₂ (SameReply old) replies replies') :
    (∀ reply ∈ replies, reply.2.unfinished = []) ∧ ∀ reply ∈ replies', reply.2.unfinished = [] := by
  induction h with
  | nil => exact ⟨List.forall_mem_nil _, List.forall_mem_nil _⟩
  | cons hreply _ ih =>
    exact ⟨List.forall_mem_cons.2 ⟨hreply.bytes.log_complete, ih.1⟩,
      List.forall_mem_cons.2 ⟨hreply.bytes.plain_complete, ih.2⟩⟩

/-- Without their timestamps, the replies are the same. -/
lemma withoutStampsIn_of_sameReply (h : List.Forall₂ (SameReply old) replies replies') :
    replies.map withoutStampsIn = replies'.map withoutStampsIn := by
  rw [← List.forall₂_eq_eq_eq, List.forall₂_map_left_iff, List.forall₂_map_right_iff]
  exact h.imp fun _ _ hreply => Prod.ext hreply.command_eq hreply.bytes.withoutStamps_eq

/-- If there were no timestamps before, the second replies are the first without theirs. -/
lemma withoutStampsIn_eq_of_sameReply (h : List.Forall₂ (SameReply old) replies replies')
    (hold : old = []) : replies.map withoutStampsIn = replies' := by
  rw [← List.forall₂_eq_eq_eq, List.forall₂_map_left_iff]
  exact h.imp fun _ _ hreply =>
    Prod.ext hreply.command_eq (hreply.bytes.withoutStamps_eq_plain hold)

end Replies

end Timestamp

end CommandLog
