import CommandLog.Proofs.Device.History

/-!
# What a cursor reads

Reads and writes take turns in any order, through any references.  This module says what the reads of
one cursor give, in the places of the chronicle, where nothing moves: `Excerpt.place` is where a read
begins.

The main statement `reads_follow_stream` has three parts.  Every cursor that is open can be read.  A
read gives the bytes of the stream from its place on, as far as there is room and as far as its one
command goes, and it gives nothing only behind the end of the stream.  And as long as nobody seeks with
the cursor, a later read begins behind the end of an earlier one; if they follow each other, the gap
between them is what was overwritten in the meantime.
-/

namespace CommandLog

/-- A read of a cursor: the device that it is open on, what has happened to the log by then, where in
the log the cursor stands, and the bytes that are read. -/
structure Excerpt where
  number : Nat
  chronicle : Chronicle
  position : Nat
  piece : Bytes

/-- Where in the stream the read begins. -/
def Excerpt.place (excerpt : Excerpt) : Nat := excerpt.chronicle.gone + excerpt.position

namespace Rack

/-- What a cursor reads after a history. -/
def excerpt? (fresh : Rack) (history : List Action) (cursor room : Nat) : Option Excerpt := do
  let (rack, _) ← fresh.stepAll history
  let (number, at_) ← rack.cursors[cursor]?
  let (_, answer) ← rack.step (.read cursor room)
  match answer with
  | .bytes piece =>
    return ⟨number, fresh.recordAll number .empty history, at_.position, piece⟩
  | _ => none

variable {fresh rack : Rack} {history : List Action} {c room : Nat} {excerpt : Excerpt}

lemma step_read {device : Device} {number : Nat} {at_ : Cursor}
    (hcursor : rack.cursors[c]? = some (number, at_))
    (hdevice : rack.devices[number]? = some device) (room : Nat) :
    rack.step (.read c room) =
      some (rack.place c (at_.read device room).2, .bytes (at_.read device room).1) := by
  simp [step, cursor?, hcursor, hdevice]

/-- What there is to know about a read: the state before it, and that it is a read there. -/
lemma excerpt?_eq_some (h : fresh.excerpt? history c room = some excerpt) :
    ∃ rack answers device at_, fresh.stepAll history = some (rack, answers) ∧
      rack.cursors[c]? = some (excerpt.number, at_) ∧
      rack.devices[excerpt.number]? = some device ∧
      excerpt.chronicle = fresh.recordAll excerpt.number Chronicle.empty history ∧
      excerpt.position = at_.position ∧ excerpt.piece = (at_.read device room).1 := by
  simp only [excerpt?, Option.bind_eq_bind, Option.bind_eq_some_iff] at h
  obtain ⟨⟨rack, answers⟩, hrack, ⟨number, at_⟩, hcursor, ⟨next, answer⟩, hstep, h⟩ := h
  have hsteps := step_cases hstep
  simp only [reduceCtorEq, false_and, exists_false, false_or, Action.read.injEq, Action.seek?,
    or_false] at hsteps
  obtain ⟨cursor, room', device, there, ⟨rfl, rfl⟩, hthere, -, rfl⟩ := hsteps
  simp only [Option.pure_def, Option.some.injEq] at h
  obtain ⟨target, htarget, hdevice⟩ := cursor?_eq_some hthere
  rw [hcursor] at htarget
  cases htarget
  subst h
  exact ⟨rack, answers, device, at_, hrack, hcursor, hdevice, rfl, rfl, rfl⟩

/-- A cursor that is open can be read. -/
lemma exists_excerpt {answers : List Answer} (hlinked : fresh.Linked)
    (h : fresh.stepAll history = some (rack, answers)) (hc : c < rack.cursors.length) (room : Nat) :
    ∃ excerpt, fresh.excerpt? history c room = some excerpt := by
  have hlt := (hlinked.stepAll h).cursor_lt rack.cursors[c] (List.getElem_mem hc)
  have hdevice := List.getElem?_eq_getElem hlt
  have hcursor := List.getElem?_eq_getElem hc
  refine ⟨⟨rack.cursors[c].1, fresh.recordAll rack.cursors[c].1 .empty history,
    rack.cursors[c].2.position, (rack.cursors[c].2.read rack.devices[rack.cursors[c].1] room).1⟩, ?_⟩
  simp only [excerpt?, h, hcursor, step_read hcursor hdevice, Option.bind_eq_bind,
    Option.bind_some, Option.pure_def]
  rfl

/-- A read gives what the stream holds at its place. -/
lemma piece_of_excerpt {capacities : List Nat} (hfresh : ofCapacities capacities = .ok fresh)
    (h : fresh.excerpt? history c room = some excerpt) :
    excerpt.piece = (excerpt.chronicle.stream.drop excerpt.place).take excerpt.piece.length ∧
      excerpt.piece.length = min room (Command.restAt excerpt.chronicle.added excerpt.place) := by
  obtain ⟨rack, answers, device, at_, hrack, -, hdevice, hchronicle, hposition, hpiece⟩ :=
    excerpt?_eq_some h
  have hfollows := follows_of_history hfresh hrack hdevice
  rw [Excerpt.place, hchronicle, hposition, hpiece]
  exact hfollows.read at_ room

/-- With room for a byte, a read comes back empty only behind the end of the stream. -/
lemma piece_eq_nil_iff {capacities : List Nat} (hfresh : ofCapacities capacities = .ok fresh)
    (h : fresh.excerpt? history c room = some excerpt) (hroom : 0 < room) :
    excerpt.piece = [] ↔ excerpt.chronicle.stream.length ≤ excerpt.place := by
  have hlength := (piece_of_excerpt hfresh h).2
  rw [Chronicle.stream, Command.length_concat, ← Command.restAt_eq_zero_iff,
    ← List.length_eq_zero_iff, hlength]
  omega

/-- Between two reads of a cursor that nobody seeks with, the places advance by what is read and by
what is overwritten. -/
lemma place_of_later_excerpt {between : List Action} {room' : Nat} {later : Excerpt}
    (h : fresh.excerpt? history c room = some excerpt)
    (hlater : fresh.excerpt? (history ++ .read c room :: between) c room' = some later)
    (hseek : ∀ action ∈ between, action.seek? ≠ some c) :
    later.number = excerpt.number ∧
      excerpt.chronicle.added <+: later.chronicle.added ∧
      excerpt.chronicle.gone ≤ later.chronicle.gone ∧
      excerpt.position + excerpt.piece.length ≤ later.position ∧
      ((∀ action ∈ between, action.read? ≠ some c) →
        later.position = excerpt.position + excerpt.piece.length) := by
  obtain ⟨rack, answers, device, at_, hrack, hcursor, hdevice, hchronicle, hposition, hpiece⟩ :=
    excerpt?_eq_some h
  obtain ⟨last, answers', device', there, hlast, hthere, -, hchronicle', hposition', -⟩ :=
    excerpt?_eq_some hlater
  -- the later read comes after the same state, the earlier read itself, and what is in between
  obtain ⟨middle, _, _, hmiddle, hrest, -⟩ := stepAll_append hlast
  rw [hrack] at hmiddle
  cases hmiddle
  obtain ⟨after, answer, _, hstep, hbetween, -⟩ := stepAll_cons hrest
  rw [step_read hcursor hdevice] at hstep
  cases hstep
  have hafter := cursors_place_self hcursor (at_.read device room).2
  obtain ⟨moved, hmoved, hle, hstill⟩ := cursor_of_stepAll hbetween hseek hafter
  rw [hthere] at hmoved
  obtain ⟨hnumber, rfl⟩ := Prod.mk.inj (Option.some.inj hmoved)
  have hread : (at_.read device room).2.position = excerpt.position + excerpt.piece.length := by
    rw [Cursor.position_read, hposition, hpiece]
  have hrecord : later.chronicle =
      (rack.place c (at_.read device room).2).recordAll excerpt.number excerpt.chronicle between := by
    rw [hchronicle', hchronicle, hnumber, recordAll_append hrack, recordAll,
      step_read hcursor hdevice]
    simp [record, written?]
  obtain ⟨hadded, hgone⟩ := recordAll_grows (rack.place c (at_.read device room).2) excerpt.number
    excerpt.chronicle between
  rw [← hrecord] at hadded hgone
  refine ⟨hnumber, hadded, hgone, ?_, ?_⟩
  · rw [hposition', ← hread]
    exact hle
  · intro hquiet
    rw [hposition', hstill hquiet, hread]

/-- What the reads of a cursor give, in whatever order reads and writes take turns: each gives the
bytes of the stream from its place on, and later ones begin behind the end of earlier ones. -/
theorem reads_follow_stream {capacities : List Nat} (hfresh : ofCapacities capacities = .ok fresh)
    (c : Nat) :
    (∀ history rack answers, fresh.stepAll history = some (rack, answers) →
      c < rack.cursors.length → ∀ room, ∃ excerpt, fresh.excerpt? history c room = some excerpt) ∧
    (∀ history room excerpt, fresh.excerpt? history c room = some excerpt →
      excerpt.piece = (excerpt.chronicle.stream.drop excerpt.place).take excerpt.piece.length ∧
      excerpt.piece.length = min room (Command.restAt excerpt.chronicle.added excerpt.place) ∧
      (0 < room → (excerpt.piece = [] ↔ excerpt.chronicle.stream.length ≤ excerpt.place))) ∧
    (∀ history between room room' excerpt later,
      fresh.excerpt? history c room = some excerpt →
      fresh.excerpt? (history ++ .read c room :: between) c room' = some later →
      (∀ action ∈ between, action.seek? ≠ some c) →
      later.number = excerpt.number ∧ excerpt.chronicle.added <+: later.chronicle.added ∧
      excerpt.chronicle.gone ≤ later.chronicle.gone ∧
      excerpt.place + excerpt.piece.length ≤ later.place ∧
      ((∀ action ∈ between, action.read? ≠ some c) →
        later.place = excerpt.place + excerpt.piece.length +
          (later.chronicle.gone - excerpt.chronicle.gone))) := by
  refine ⟨?_, ?_, ?_⟩
  · intro history rack answers h hc room
    exact exists_excerpt (linked_of_ofCapacities hfresh) h hc room
  · intro history room excerpt h
    obtain ⟨hbytes, hlength⟩ := piece_of_excerpt hfresh h
    exact ⟨hbytes, hlength, fun hroom => piece_eq_nil_iff hfresh h hroom⟩
  · intro history between room room' excerpt later h hlater hseek
    obtain ⟨hnumber, hadded, hgone, hle, hstill⟩ := place_of_later_excerpt h hlater hseek
    refine ⟨hnumber, hadded, hgone, ?_, ?_⟩
    · unfold Excerpt.place
      omega
    · intro hquiet
      have hposition := hstill hquiet
      unfold Excerpt.place
      omega

/-- Two slots: between the reads a third command overwrites the first one, of three bytes. -/
theorem reads_follow_stream_two :
    ∃ fresh first second,
      ofCapacities [2] = .ok fresh ∧
      fresh.excerpt? [.write 0 [97, 97, 10, 98, 98, 10], .openCursor 0] 0 64 = some first ∧
      fresh.excerpt? ([.write 0 [97, 97, 10, 98, 98, 10], .openCursor 0] ++
        .read 0 64 :: [.write 0 [99, 99, 10]]) 0 64 = some second ∧
      first.piece = [97, 97, 10] ∧
      second.place = first.place + first.piece.length + 3 ∧
      second.piece = (second.chronicle.stream.drop second.place).take second.piece.length := by
  obtain ⟨fresh, hfresh, hfirst, hsecond⟩ : ∃ fresh, ofCapacities [2] = .ok fresh ∧
      (fresh.excerpt? [.write 0 [97, 97, 10, 98, 98, 10], .openCursor 0] 0 64).map
        (fun first => (first.piece, first.chronicle.gone)) = some ([97, 97, 10], 0) ∧
      (fresh.excerpt? ([.write 0 [97, 97, 10, 98, 98, 10], .openCursor 0] ++
        .read 0 64 :: [.write 0 [99, 99, 10]]) 0 64).map
        (fun second => second.chronicle.gone) = some 3 :=
    ⟨_, rfl, by decide +kernel, by decide +kernel⟩
  obtain ⟨first, hfirst, hpiece⟩ := Option.map_eq_some_iff.1 hfirst
  obtain ⟨second, hsecond, hgone⟩ := Option.map_eq_some_iff.1 hsecond
  simp only [Prod.mk.injEq] at hpiece
  obtain ⟨-, hreads, hlater⟩ := reads_follow_stream hfresh 0
  obtain ⟨-, -, -, -, hplace⟩ := hlater _ _ _ _ _ _ hfirst hsecond (by simp [Action.seek?])
  have hgap := hplace (by simp [Action.read?])
  rw [hgone, hpiece.2] at hgap
  exact ⟨fresh, first, second, hfresh, hfirst, hsecond, hpiece.1, hgap,
    (hreads _ _ _ hsecond).1⟩

end Rack

end CommandLog
