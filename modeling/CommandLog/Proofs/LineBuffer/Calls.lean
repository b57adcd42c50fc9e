import CommandLog.LineBuffer
import CommandLog.Proofs.Bytes.Lines

/-!
# Any use of a buffer

`Call`s are what can be asked of a buffer, in any order: a piece is added, one command is taken out,
or all are.  What every call keeps (`make_keeps`) is that the commands handed out and the bytes left
are together the bytes that came in; `makeAll_keeps` is that for a whole run.  Complete commands in
front of a stream are its first lines, and once none is left to be taken out they are all of them
(`makeAll_of_next?_eq_none`).  So a run that ends by taking all commands out depends on the bytes
alone (`makeAll_drain`), and not on how they were cut or on which calls came between.

To take all commands out is to take one out until there is none (`drain_eq_nextAll`).  The main
statement `commands_are_lines_of_stream` puts this together for runs that end either way.
-/

namespace CommandLog

namespace LineBuffer

/-- What can be asked of a buffer. -/
inductive Call where
  | feed (piece : Bytes)
  | next
  | drain

/-- The bytes that a call brings. -/
def Call.bytes : Call → Bytes
  | .feed piece => piece
  | .next | .drain => []

/-- The commands that a call hands out, and the buffer after it. -/
def make (buffer : LineBuffer) : Call → List Command × LineBuffer
  | .feed piece => ([], buffer.feed piece)
  | .next =>
    match buffer.next? with
    | some (command, rest) => ([command], rest)
    | none => ([], buffer)
  | .drain => buffer.drain

/-- Makes calls one after the other. -/
def makeAll (buffer : LineBuffer) : List Call → List Command × LineBuffer
  | [] => ([], buffer)
  | call :: others =>
    let (commands, buffer) := buffer.make call
    let (more, buffer) := buffer.makeAll others
    (commands ++ more, buffer)

/-- The bytes that several calls bring. -/
def fed (calls : List Call) : Bytes := calls.flatMap Call.bytes

variable {calls : List Call}

lemma makeAll_append (buffer : LineBuffer) (calls others : List Call) :
    buffer.makeAll (calls ++ others) =
      ((buffer.makeAll calls).1 ++ ((buffer.makeAll calls).2.makeAll others).1,
        ((buffer.makeAll calls).2.makeAll others).2) := by
  induction calls generalizing buffer with
  | nil => rfl
  | cons call calls ih =>
    rw [List.cons_append]
    simp only [makeAll, ih, List.append_assoc]

/-- A call keeps the bytes: what it hands out, and what is left, is what there was and what came. -/
lemma make_keeps (buffer : LineBuffer) (call : Call) :
    (∀ command ∈ (buffer.make call).1, command.IsComplete) ∧
      Command.concat (buffer.make call).1 ++ (buffer.make call).2.pending =
        buffer.pending ++ call.bytes := by
  cases call with
  | feed piece => exact ⟨fun _ hmem => absurd hmem List.not_mem_nil, pending_feed buffer piece⟩
  | next =>
    rw [make, Call.bytes, List.append_nil]
    split
    · next command rest h =>
      obtain ⟨hcomplete, hpending⟩ := pending_of_next? h
      refine ⟨fun other hmem => List.mem_singleton.1 hmem ▸ hcomplete, ?_⟩
      rw [hpending, Command.concat, List.flatMap_singleton]
    · exact ⟨fun _ hmem => absurd hmem List.not_mem_nil, rfl⟩
  | drain =>
    obtain ⟨hcommands, hrest⟩ := drain_eq buffer
    rw [make, Call.bytes, List.append_nil, hrest, hcommands, Bytes.concat_map_mk]
    exact ⟨fun _ => Bytes.isComplete_of_mem_lines, Bytes.flatten_lines_append_unfinished _⟩

lemma makeAll_keeps (buffer : LineBuffer) (calls : List Call) :
    (∀ command ∈ (buffer.makeAll calls).1, command.IsComplete) ∧
      Command.concat (buffer.makeAll calls).1 ++ (buffer.makeAll calls).2.pending =
        buffer.pending ++ fed calls := by
  induction calls generalizing buffer with
  | nil => exact ⟨fun _ hmem => absurd hmem List.not_mem_nil, (List.append_nil _).symm⟩
  | cons call calls ih =>
    obtain ⟨hfirst, hbytes⟩ := make_keeps buffer call
    obtain ⟨hothers, hrest⟩ := ih (buffer.make call).2
    constructor
    · intro command hmem
      exact (List.mem_append.1 hmem).elim (hfirst command) (hothers command)
    · have hcut : Command.concat (buffer.makeAll (call :: calls)).1 =
          Command.concat (buffer.make call).1 ++
            Command.concat ((buffer.make call).2.makeAll calls).1 := List.flatMap_append
      have hfed : fed (call :: calls) = call.bytes ++ fed calls := rfl
      rw [hcut, hfed, ← List.append_assoc, ← hbytes, List.append_assoc, List.append_assoc, ← hrest]
      rfl

/-- The commands handed out are the first lines of the bytes. -/
lemma splitLines_makeAll (buffer : LineBuffer) (calls : List Call) :
    Bytes.splitLines (buffer.pending ++ fed calls) =
      ((buffer.makeAll calls).1.map Command.bytes ++ Bytes.lines (buffer.makeAll calls).2.pending,
        Bytes.unfinished (buffer.makeAll calls).2.pending) := by
  obtain ⟨hcomplete, hbytes⟩ := makeAll_keeps buffer calls
  rw [← hbytes, Command.splitLines_concat_append hcomplete]

/-- As long as no complete command is left, those handed out are the lines of all that came in, and
what is left is what follows its last newline. -/
lemma makeAll_of_next?_eq_none {buffer : LineBuffer} (h : (buffer.makeAll calls).2.next? = none) :
    (buffer.makeAll calls).1 = (Bytes.lines (buffer.pending ++ fed calls)).map Command.mk ∧
      (buffer.makeAll calls).2.pending = Bytes.unfinished (buffer.pending ++ fed calls) := by
  have hleft := Bytes.splitLines_of_not_mem (next?_eq_none_iff.1 h)
  have hall := splitLines_makeAll buffer calls
  rw [Bytes.lines, Bytes.unfinished, hleft, List.append_nil] at hall
  have hsame : Command.mk ∘ Command.bytes = id := rfl
  rw [Bytes.lines, Bytes.unfinished, hall, List.map_map, hsame, List.map_id]
  exact ⟨rfl, rfl⟩

/-! ## Taking commands out -/

lemma drain_of_next?_eq_none {buffer : LineBuffer} (h : buffer.next? = none) :
    buffer.drain = ([], buffer) := by
  have hleft := Bytes.splitLines_of_not_mem (next?_eq_none_iff.1 h)
  obtain ⟨hcommands, hrest⟩ := drain_eq buffer
  rw [Bytes.lines, hleft] at hcommands
  rw [Bytes.unfinished, hleft] at hrest
  exact Prod.ext hcommands (pending_injective hrest)

/-- The command that comes next is the first of all of them. -/
lemma drain_of_next? {buffer rest : LineBuffer} {command : Command}
    (h : buffer.next? = some (command, rest)) :
    buffer.drain = (command :: rest.drain.1, rest.drain.2) := by
  obtain ⟨hcomplete, hpending⟩ := pending_of_next? h
  obtain ⟨hcommands, hleft⟩ := drain_eq buffer
  obtain ⟨hcommands', hleft'⟩ := drain_eq rest
  have hsplit := Bytes.splitLines_append_of_isLine hcomplete rest.pending
  rw [Bytes.lines, hpending, hsplit, List.map_cons, ← hcommands'] at hcommands
  rw [Bytes.unfinished, hpending, hsplit, ← hleft'] at hleft
  exact Prod.ext hcommands (pending_injective hleft)

/-- Takes commands out one at a time, until there is none. -/
def nextAll (buffer : LineBuffer) : List Command × LineBuffer :=
  match _h : buffer.next? with
  | none => ([], buffer)
  | some (command, rest) => (command :: rest.nextAll.1, rest.nextAll.2)
termination_by buffer.pending.length
decreasing_by
  all_goals
    obtain ⟨hcomplete, hpending⟩ := pending_of_next? _h
    have hpos := hcomplete.length_pos
    rw [hpending, List.length_append]
    exact Nat.lt_add_of_pos_left hpos

/-- To take all commands out is to take one out until there is none. -/
lemma drain_eq_nextAll (buffer : LineBuffer) : buffer.drain = buffer.nextAll := by
  fun_induction nextAll buffer with
  | case1 buffer h => exact drain_of_next?_eq_none h
  | case2 buffer command rest h ih => rw [drain_of_next? h, ih]

lemma next?_drain (buffer : LineBuffer) : buffer.drain.2.next? = none := by
  rw [next?_eq_none_iff, (drain_eq buffer).2]
  exact Bytes.newline_not_mem_unfinished _

/-- Once all commands are taken out, those handed out are the lines of all that came in, and what is
left is what follows its last newline. -/
lemma makeAll_drain (buffer : LineBuffer) (calls : List Call) :
    (buffer.makeAll (calls ++ [.drain])).1 =
        (Bytes.lines (buffer.pending ++ fed calls)).map Command.mk ∧
      (buffer.makeAll (calls ++ [.drain])).2.pending =
        Bytes.unfinished (buffer.pending ++ fed calls) := by
  have hnone : (buffer.makeAll (calls ++ [.drain])).2.next? = none := by
    rw [makeAll_append]
    exact next?_drain _
  have hfed : fed (calls ++ [.drain]) = fed calls := by
    rw [fed, List.flatMap_append]
    exact List.append_nil _
  have hall := makeAll_of_next?_eq_none hnone
  rwa [hfed] at hall

/-- A line comes out as one command, and nothing is left. -/
lemma makeAll_drain_of_isLine {line : Bytes} (h : line.IsLine) (hfed : fed calls = line) :
    empty.makeAll (calls ++ [.drain]) = ([⟨line⟩], empty) := by
  obtain ⟨hcommands, hrest⟩ := makeAll_drain empty calls
  rw [pending_empty, List.nil_append, hfed] at hcommands hrest
  rw [Bytes.lines, h.splitLines_eq] at hcommands
  rw [Bytes.unfinished, h.splitLines_eq] at hrest
  exact Prod.ext hcommands (pending_injective hrest)

/-! ## Any run from the beginning -/

/-- The calls end with one that leaves no complete command: all were taken out, or one was asked for
and there was none. -/
def Exhausts (buffer : LineBuffer) (calls : List Call) : Prop :=
  ∃ earlier, calls = earlier ++ [.drain] ∨
    calls = earlier ++ [.next] ∧ (buffer.makeAll earlier).2.next? = none

lemma Exhausts.next?_eq_none {buffer : LineBuffer} (h : buffer.Exhausts calls) :
    (buffer.makeAll calls).2.next? = none := by
  obtain ⟨earlier, rfl | ⟨rfl, hnone⟩⟩ := h
  · rw [makeAll_append]
    exact next?_drain _
  · have hmake : (buffer.makeAll earlier).2.make .next = ([], (buffer.makeAll earlier).2) := by
      rw [make, hnone]
    rw [makeAll_append, makeAll, hmake]
    exact hnone

/-- However a stream is cut into pieces, and whenever commands are taken out one at a time or all at
once: the commands handed out, followed by what is left, are the stream; each of them passes the check
for commands from outside, and they are the first lines of the stream, in their order.  After a call
that leaves no complete command, they are all of its lines, and no newline is left: then they depend
on the stream alone. -/
theorem commands_are_lines_of_stream (calls : List Call) :
    Command.concat (empty.makeAll calls).1 ++ (empty.makeAll calls).2.pending = fed calls ∧
    (∀ command ∈ (empty.makeAll calls).1,
      Command.ofBytes command.bytes = .ok command ∧
        command.bytes.count newline = 1 ∧ command.bytes.getLast? = some newline) ∧
    (empty.makeAll calls).1.map Command.bytes <+: Bytes.lines (fed calls) ∧
    (empty.makeAll calls).2.drain = (empty.makeAll calls).2.nextAll ∧
    (empty.Exhausts calls →
      newline ∉ (empty.makeAll calls).2.pending ∧
      (empty.makeAll calls).1.map Command.bytes = Bytes.lines (fed calls) ∧
      ∀ others, empty.Exhausts others → fed others = fed calls →
        empty.makeAll others = empty.makeAll calls) := by
  obtain ⟨hcomplete, hbytes⟩ := makeAll_keeps empty calls
  refine ⟨hbytes, ?_, ?_, drain_eq_nextAll _, ?_⟩
  · intro command hmem
    have hline := hcomplete command hmem
    exact ⟨Command.ofBytes_eq_ok_iff.2 ⟨hline, rfl⟩, Bytes.isLine_iff.1 hline⟩
  · have hall := splitLines_makeAll empty calls
    rw [pending_empty, List.nil_append] at hall
    rw [Bytes.lines, hall]
    exact List.prefix_append _ _
  · intro hexhausts
    have hnone := hexhausts.next?_eq_none
    obtain ⟨hcommands, hrest⟩ := makeAll_of_next?_eq_none hnone
    refine ⟨next?_eq_none_iff.1 hnone, ?_, ?_⟩
    · rw [hcommands, Bytes.map_bytes_map_mk]
      rfl
    · intro others hothers hfed
      obtain ⟨hcommands', hrest'⟩ := makeAll_of_next?_eq_none hothers.next?_eq_none
      rw [hfed] at hcommands' hrest'
      exact Prod.ext (hcommands'.trans hcommands.symm)
        (pending_injective (hrest'.trans hrest.symm))

/-- Two lines and the beginning of a third one, cut in the middle of the first and handed out one at a
time, come out as they do from one piece. -/
theorem commands_are_lines_of_stream_two :
    empty.Exhausts [.feed [97], .next, .feed [98, 10, 10, 99], .next, .next, .next] ∧
      (empty.makeAll [.feed [97], .next, .feed [98, 10, 10, 99], .next, .next, .next]).1.map
        Command.bytes = [[97, 98, 10], [10]] ∧
      empty.makeAll [.feed [97, 98, 10, 10, 99], .drain] =
        empty.makeAll [.feed [97], .next, .feed [98, 10, 10, 99], .next, .next, .next] := by
  have hexhausts :
      empty.Exhausts [.feed [97], .next, .feed [98, 10, 10, 99], .next, .next, .next] :=
    ⟨[.feed [97], .next, .feed [98, 10, 10, 99], .next, .next], .inr ⟨rfl, rfl⟩⟩
  obtain ⟨-, -, -, -, hall⟩ := commands_are_lines_of_stream
    [.feed [97], .next, .feed [98, 10, 10, 99], .next, .next, .next]
  obtain ⟨-, hlines, honly⟩ := hall hexhausts
  exact ⟨hexhausts, hlines, honly _ ⟨[.feed [97, 98, 10, 10, 99]], .inl rfl⟩ rfl⟩

end LineBuffer

end CommandLog
