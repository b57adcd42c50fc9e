import CommandLog.Proofs.Device.Reading
import CommandLog.Proofs.Device.Reply
import CommandLog.Proofs.Device.Written
import CommandLog.Proofs.Ring.Address

/-!
# Reading on from a byte

A cursor that is moved to a byte of a command is then read until a read finds nothing.  Every read
looks the position up again and stops where the command there ends, so that the bytes come in pieces,
however much room the reads have.

`Cursor.readEach` is such a reading, one read for each room.  Its pieces are the first of what a
reading at once gives (`readToEnd_of_readEach`), and all of it if one of them is empty
(`readEach_of_nil_mem`), which a reading of more pieces than there are bytes cannot avoid
(`nil_mem_readEach`).
On a rack others may go on as well, as long as nobody writes to the device: `exists_readEach` says that
the reads of the cursor are such a reading all the same.

The main statement `seekTo_then_read` says what is read after `Cursor.seekTo`, whether it has moved the
cursor or refused to.
-/

namespace CommandLog

namespace Cursor

variable {device : Device} {cursor : Cursor} {rooms : List Nat}

/-- Reads once with each room, in turn, and gives the pieces. -/
def readEach (device : Device) (cursor : Cursor) : List Nat → List Bytes × Cursor
  | [] => ([], cursor)
  | room :: rooms =>
    let (piece, moved) := cursor.read device room
    let (pieces, last) := moved.readEach device rooms
    (piece :: pieces, last)

lemma length_readEach (device : Device) (cursor : Cursor) (rooms : List Nat) :
    (cursor.readEach device rooms).1.length = rooms.length := by
  induction rooms generalizing cursor with
  | nil => rfl
  | cons room rooms ih =>
    rw [readEach, List.length_cons, List.length_cons, ih]

/-- The pieces are the first of what is left, and the rest is left for later reads. -/
lemma readToEnd_of_readEach (device : Device) (cursor : Cursor) (rooms : List Nat) :
    cursor.readToEnd device =
      ((cursor.readEach device rooms).1.flatten ++
          ((cursor.readEach device rooms).2.readToEnd device).1,
        ((cursor.readEach device rooms).2.readToEnd device).2) := by
  induction rooms generalizing cursor with
  | nil => rfl
  | cons room rooms ih =>
    rw [readToEnd_of_read device room cursor, ih (cursor.read device room).2, ← List.append_assoc]
    rfl

lemma readToEnd_of_fst_eq_nil (h : (cursor.readToEnd device).1 = []) :
    cursor.readToEnd device = ([], cursor) := by
  have hrest : device.contents.drop cursor.position = [] := h
  rw [readToEnd, hrest]
  rfl

/-- A read with room for a byte that comes back empty has all that was to be read before it. -/
lemma readEach_of_nil_mem (hrooms : ∀ room ∈ rooms, 0 < room)
    (h : [] ∈ (cursor.readEach device rooms).1) :
    (cursor.readEach device rooms).1.flatten = (cursor.readToEnd device).1 ∧
      (cursor.readEach device rooms).2 = (cursor.readToEnd device).2 := by
  have hall := readToEnd_of_readEach device cursor rooms
  suffices hend : (cursor.readEach device rooms).2.readToEnd device =
      ([], (cursor.readEach device rooms).2) by
    rw [hall, hend]
    exact ⟨(List.append_nil _).symm, rfl⟩
  induction rooms generalizing cursor with
  | nil => exact absurd h List.not_mem_nil
  | cons room rooms ih =>
    obtain ⟨hroom, hothers⟩ := List.forall_mem_cons.1 hrooms
    rcases List.mem_cons.1 h with hnil | h
    · -- the cursor stays where it is, and so do the later reads
      rw [readToEnd_of_read_eq_nil hroom hnil.symm, Prod.mk.injEq] at hall
      exact readToEnd_of_fst_eq_nil (List.append_eq_nil_iff.1 hall.1.symm).2
    · exact ih hothers h (readToEnd_of_readEach device _ rooms)

/-- More reads than there are bytes come to the end. -/
lemma nil_mem_readEach (hlong : (cursor.readToEnd device).1.length < rooms.length) :
    [] ∈ (cursor.readEach device rooms).1 := by
  induction rooms generalizing cursor with
  | nil => exact absurd hlong (Nat.not_lt_zero _)
  | cons room rooms ih =>
    rw [readEach]
    by_cases hnil : (cursor.read device room).1 = []
    · exact List.mem_cons.2 (.inl hnil.symm)
    · -- a read that gives something leaves fewer bytes
      have hpos := List.length_pos_iff.2 hnil
      have hall := congrArg (fun all => all.1.length) (readToEnd_of_read device room cursor)
      simp only [List.length_append] at hall
      rw [List.length_cons] at hlong
      exact List.mem_cons_of_mem _ (ih (by omega))

/-- Every piece is part of one of the commands that are kept. -/
lemma isPartOf_of_readEach {chronicle : Chronicle} (hfollows : device.Follows chronicle)
    {front back : List Bytes} {piece : Bytes}
    (h : (cursor.readEach device rooms).1 = front ++ piece :: back) (hne : piece ≠ []) :
    Piece.IsPartOf ⟨cursor.position + front.flatten.length, piece⟩ device.entries := by
  induction rooms generalizing cursor front with
  | nil => simp [readEach] at h
  | cons room rooms ih =>
    rw [readEach] at h
    cases front with
    | nil =>
      obtain ⟨rfl, -⟩ := List.cons.inj h
      have hpart := hfollows.fromNow.isPartOf_piece hne
      rw [Device.piece, Chronicle.gone, Device.chronicleFromNow, Command.totalLength,
        Nat.zero_add] at hpart
      exact hpart
    | cons first front =>
      obtain ⟨rfl, hothers⟩ := List.cons.inj h
      have hpart := ih hothers
      rw [position_read, Nat.add_assoc, ← List.length_append, ← List.flatten_cons] at hpart
      exact hpart

end Cursor

namespace Rack

/-! ## Reading while others go on -/

/-- The bytes that an action reads with a cursor, by what it answers. -/
def piece? (c : Nat) : Action × Answer → Option Bytes
  | (.read cursor _, .bytes piece) => if cursor = c then some piece else none
  | _ => none

/-- What the reads of a cursor give in a history, in their order. -/
def piecesOf (c : Nat) (history : List Action) (answers : List Answer) : List Bytes :=
  (history.zip answers).filterMap (piece? c)

/-- In this history nothing is written to the device, and the cursor on it is read only, each time with
room for a byte.  Everything else may happen. -/
structure OnlyReads (rack : Rack) (number c : Nat) (history : List Action) : Prop where
  written_eq : rack.writtenAll number history = []
  seek?_ne : ∀ action ∈ history, action.seek? ≠ some c
  has_room : ∀ action ∈ history, action.read? = some c → ∃ room, 0 < room ∧ action = .read c room

variable {rack next fresh : Rack} {history : List Action} {answers : List Answer} {action : Action}
  {answer : Answer} {number c : Nat} {device : Device} {at_ : Cursor}

lemma OnlyReads.tail (h : rack.OnlyReads number c (action :: history))
    (hstep : rack.step action = some (next, answer)) :
    (rack.written? number action).getD [] = [] ∧ next.OnlyReads number c history := by
  obtain ⟨hwritten, hseek, hroom⟩ := h
  rw [writtenAll, hstep] at hwritten
  obtain ⟨hfirst, hothers⟩ := List.append_eq_nil_iff.1 hwritten
  exact ⟨hfirst, hothers, fun other hmem => hseek other (List.mem_cons_of_mem _ hmem),
    fun other hmem => hroom other (List.mem_cons_of_mem _ hmem)⟩

lemma piecesOf_cons_read (c room : Nat) (history : List Action) (piece : Bytes)
    (answers : List Answer) :
    piecesOf c (.read c room :: history) (.bytes piece :: answers) =
      piece :: piecesOf c history answers := by
  simp [piecesOf, piece?]

lemma piecesOf_cons_of_ne (h : action.read? ≠ some c) (history : List Action) (answer : Answer)
    (answers : List Answer) :
    piecesOf c (action :: history) (answer :: answers) = piecesOf c history answers := by
  have hnone : piece? c (action, answer) = none := by
    cases action with
    | read cursor room =>
      have hne : cursor ≠ c := fun heq => h (congrArg some heq)
      cases answer <;> simp [piece?, hne]
    | _ => rfl
  rw [piecesOf, List.zip_cons_cons, List.filterMap_cons_none hnone]
  rfl

/-- A device that nothing is written to stays as it is, if no complete command waits in it. -/
lemma device_of_step_of_written_eq (hstep : rack.step action = some (next, answer))
    (hwritten : (rack.written? number action).getD [] = [])
    (hdevice : rack.devices[number]? = some device) (hpending : newline ∉ device.incoming.pending) :
    next.devices[number]? = some device := by
  rw [device_of_step hstep number, hdevice, Option.map_some]
  cases hdata : rack.written? number action with
  | none => rfl
  | some data =>
    rw [hdata, Option.getD_some] at hwritten
    rw [hwritten, Option.elim_some, Device.write_nil hpending]

/-- Whatever others do, the reads of a cursor are one reading of its device. -/
lemma exists_readEach (h : rack.stepAll history = some (next, answers))
    (hreads : rack.OnlyReads number c history) (hdevice : rack.devices[number]? = some device)
    (hpending : newline ∉ device.incoming.pending)
    (hcursor : rack.cursors[c]? = some (number, at_)) :
    ∃ rooms, (∀ room ∈ rooms, 0 < room) ∧
      piecesOf c history answers = (at_.readEach device rooms).1 ∧
      next.cursors[c]? = some (number, (at_.readEach device rooms).2) := by
  induction history generalizing rack answers at_ with
  | nil =>
    obtain ⟨rfl, rfl⟩ := stepAll_nil h
    exact ⟨[], fun _ hmem => absurd hmem List.not_mem_nil, rfl, hcursor⟩
  | cons action history ih =>
    obtain ⟨middle, answer, rest, hstep, hrest, rfl⟩ := stepAll_cons h
    obtain ⟨hwritten, hothers⟩ := hreads.tail hstep
    have hkept := device_of_step_of_written_eq hstep hwritten hdevice hpending
    by_cases hread : action.read? = some c
    · obtain ⟨room, hroom, rfl⟩ := hreads.has_room action List.mem_cons_self hread
      rw [step_read hcursor hdevice] at hstep
      cases hstep
      obtain ⟨rooms, hrooms, hpieces, hlast⟩ :=
        ih hrest hothers hkept (cursors_place_self hcursor _)
      refine ⟨room :: rooms, List.forall_mem_cons.2 ⟨hroom, hrooms⟩, ?_, hlast⟩
      rw [piecesOf_cons_read, hpieces, Cursor.readEach]
    · obtain ⟨still, hstill, -, hsame⟩ :=
        cursor_of_step hstep (hreads.seek?_ne action List.mem_cons_self) hcursor
      rw [hsame hread] at hstill
      obtain ⟨rooms, hrooms, hpieces, hlast⟩ := ih hrest hothers hkept hstill
      refine ⟨rooms, hrooms, ?_, hlast⟩
      rw [piecesOf_cons_of_ne hread, hpieces]

/-- A cursor can be read as often as one likes, with whatever rooms. -/
lemma exists_stepAll_reads (hcursor : rack.cursors[c]? = some (number, at_))
    (hdevice : rack.devices[number]? = some device) (rooms : List Nat) :
    ∃ next answers, rack.stepAll (rooms.map (Action.read c)) = some (next, answers) ∧
      piecesOf c (rooms.map (Action.read c)) answers = (at_.readEach device rooms).1 := by
  induction rooms generalizing rack at_ with
  | nil => exact ⟨rack, [], rfl, rfl⟩
  | cons room rooms ih =>
    obtain ⟨next, answers, hrest, hpieces⟩ :=
      ih (cursors_place_self hcursor (at_.read device room).2) hdevice
    refine ⟨next, .bytes (at_.read device room).1 :: answers, ?_, ?_⟩
    · rw [List.map_cons, stepAll, step_read hcursor hdevice]
      simp only [Option.bind_eq_bind, Option.bind_some, hrest, Option.pure_def]
    · rw [List.map_cons, piecesOf_cons_read, hpieces, Cursor.readEach]

lemma writtenAll_reads (rack : Rack) (number c : Nat) (rooms : List Nat) :
    rack.writtenAll number (rooms.map (Action.read c)) = [] := by
  induction rooms generalizing rack with
  | nil => rfl
  | cons room rooms ih =>
    rw [List.map_cons, writtenAll]
    split
    · exact ih _
    · rfl

lemma onlyReads_reads (rack : Rack) (number c : Nat) {rooms : List Nat}
    (hrooms : ∀ room ∈ rooms, 0 < room) :
    rack.OnlyReads number c (rooms.map (Action.read c)) where
  written_eq := writtenAll_reads rack number c rooms
  seek?_ne := by
    intro action hmem
    obtain ⟨room, -, rfl⟩ := List.mem_map.1 hmem
    exact (Option.some_ne_none c).symm
  has_room := by
    intro action hmem _
    obtain ⟨room, hroom, rfl⟩ := List.mem_map.1 hmem
    exact ⟨room, hrooms room hroom, rfl⟩

/-! ## What is read after a seek -/

/-- To read on with the cursor, which stands at the place `start` of the commands that its device
keeps, gives `rest` and then nothing more.

The cursor can be read as often as one likes, and a reading of more pieces than there are bytes has
come to a read that finds nothing.  Whatever others do in the meantime, short of writing to the device,
the pieces are the first of `rest`, each is part of one command, and with the first read that finds
nothing they are all of it; then the cursor stands behind them. -/
structure Yields (rack : Rack) (number c : Nat) (commands : List Command) (start : Nat)
    (rest : Bytes) : Prop where
  cursor_eq : rack.cursors[c]? = some (number, ⟨start⟩)
  can_read : ∀ rooms : List Nat, (∀ room ∈ rooms, 0 < room) →
    rack.OnlyReads number c (rooms.map (Action.read c)) ∧
      ∃ next answers, rack.stepAll (rooms.map (Action.read c)) = some (next, answers) ∧
        (piecesOf c (rooms.map (Action.read c)) answers).length = rooms.length
  nil_mem : ∀ history next answers, rack.stepAll history = some (next, answers) →
    rack.OnlyReads number c history → rest.length < (piecesOf c history answers).length →
      [] ∈ piecesOf c history answers
  flatten_prefix : ∀ history next answers, rack.stepAll history = some (next, answers) →
    rack.OnlyReads number c history → (piecesOf c history answers).flatten <+: rest
  isPartOf : ∀ history next answers, rack.stepAll history = some (next, answers) →
    rack.OnlyReads number c history →
    ∀ front piece back, piecesOf c history answers = front ++ piece :: back → piece ≠ [] →
      Piece.IsPartOf ⟨start + front.flatten.length, piece⟩ commands
  flatten_eq : ∀ history next answers, rack.stepAll history = some (next, answers) →
    rack.OnlyReads number c history → [] ∈ piecesOf c history answers →
      (piecesOf c history answers).flatten = rest ∧
        next.cursors[c]? = some (number, ⟨start + rest.length⟩)

/-- To read on gives what the device keeps behind the cursor. -/
lemma yields_of_follows {chronicle : Chronicle} (hcursor : rack.cursors[c]? = some (number, at_))
    (hdevice : rack.devices[number]? = some device) (hfollows : device.Follows chronicle)
    (hpending : newline ∉ device.incoming.pending) :
    rack.Yields number c device.entries at_.position (device.contents.drop at_.position) where
  cursor_eq := hcursor
  can_read := by
    intro rooms hrooms
    obtain ⟨next, answers, hnext, hpieces⟩ := exists_stepAll_reads hcursor hdevice rooms
    refine ⟨onlyReads_reads rack number c hrooms, next, answers, hnext, ?_⟩
    rw [hpieces, Cursor.length_readEach]
  nil_mem := by
    intro history next answers hnext hreads hlong
    obtain ⟨rooms, -, hpieces, -⟩ := exists_readEach hnext hreads hdevice hpending hcursor
    rw [hpieces] at hlong ⊢
    rw [Cursor.length_readEach] at hlong
    exact Cursor.nil_mem_readEach hlong
  flatten_prefix := by
    intro history next answers hnext hreads
    obtain ⟨rooms, -, hpieces, -⟩ := exists_readEach hnext hreads hdevice hpending hcursor
    have hall := congrArg Prod.fst (Cursor.readToEnd_of_readEach device at_ rooms)
    rw [← hpieces] at hall
    exact ⟨_, hall.symm⟩
  isPartOf := by
    intro history next answers hnext hreads front piece back hsplit hne
    obtain ⟨rooms, -, hpieces, -⟩ := exists_readEach hnext hreads hdevice hpending hcursor
    rw [hpieces] at hsplit
    exact Cursor.isPartOf_of_readEach hfollows hsplit hne
  flatten_eq := by
    intro history next answers hnext hreads hnil
    obtain ⟨rooms, hrooms, hpieces, hlast⟩ := exists_readEach hnext hreads hdevice hpending hcursor
    rw [hpieces] at hnil
    obtain ⟨hflatten, hend⟩ := Cursor.readEach_of_nil_mem hrooms hnil
    rw [hend] at hlast
    exact ⟨hpieces ▸ hflatten, hlast⟩

lemma step_seekTo (hcursor : rack.cursors[c]? = some (number, at_))
    (hdevice : rack.devices[number]? = some device) (i k : UInt32) :
    rack.step (.seekTo c i k) =
      match Cursor.seekTo device i k with
      | .ok moved => some (rack.place c moved, .position moved.position)
      | .error failure => some (rack, .failure failure) := by
  cases hmoved : Cursor.seekTo device i k with
  | ok moved => simp [step, cursor?, hcursor, hdevice, hmoved]
  | error failure => simp [step, cursor?, hcursor, hdevice, hmoved]

/-- No history adds a device. -/
lemma exists_device_of_stepAll (h : rack.stepAll history = some (next, answers))
    (hdevice : next.devices[number]? = some device) :
    ∃ before, rack.devices[number]? = some before := by
  induction history generalizing rack answers with
  | nil =>
    obtain ⟨rfl, -⟩ := stepAll_nil h
    exact ⟨device, hdevice⟩
  | cons action history ih =>
    obtain ⟨middle, answer, rest, hstep, hrest, -⟩ := stepAll_cons h
    obtain ⟨before, hbefore⟩ := ih hrest
    rw [device_of_step hstep number] at hbefore
    obtain ⟨first, hfirst, -⟩ := Option.map_eq_some_iff.1 hbefore
    exact ⟨first, hfirst⟩

/-- In a device that a history leads to, no complete command waits to be taken over. -/
lemma newline_not_mem_pending_of_history {capacities : List Nat}
    (hfresh : ofCapacities capacities = .ok fresh)
    (h : fresh.stepAll history = some (rack, answers))
    (hdevice : rack.devices[number]? = some device) : newline ∉ device.incoming.pending := by
  obtain ⟨before, hbefore⟩ := exists_device_of_stepAll h hdevice
  obtain ⟨rfl, -⟩ := ofCapacities_eq_ok hfresh
  rw [List.getElem?_map] at hbefore
  obtain ⟨capacity, hcapacity, -⟩ := Option.map_eq_some_iff.1 hbefore
  rw [device_of_history hfresh hcapacity h, Option.some.injEq] at hdevice
  rw [← hdevice]
  exact Device.newline_not_mem_pending_write _ _

/-- What is read after a seek to byte `k` of command number `i`, by any cursor of any device that a
history leads to.  If the log has that byte, the cursor comes to stand on it, and to read on gives the
rest of its command and all later ones, up to the end of the log.  If not, the seek is refused and
changes nothing, and to read on gives what it would have given before: all that there is behind the
cursor. -/
theorem seekTo_then_read {capacities : List Nat} (hfresh : ofCapacities capacities = .ok fresh)
    (h : fresh.stepAll history = some (rack, answers))
    (hcursor : rack.cursors[c]? = some (number, at_)) (i k : UInt32) :
    ∃ device, rack.devices[number]? = some device ∧
      ((∃ command place after rest, device.entries[i.toNat]? = some command ∧
          k.toNat < command.length ∧
          rack.step (.seekTo c i k) = some (after, .position place) ∧
          rest = command.bytes.drop k.toNat ++
            Command.concat (device.entries.drop (i.toNat + 1)) ∧
          after.Yields number c device.entries place rest ∧ place + rest.length = device.size) ∨
        ((¬ ∃ command, device.entries[i.toNat]? = some command ∧ k.toNat < command.length) ∧
          rack.step (.seekTo c i k) = some (rack, .failure (.outOfRange i k)) ∧
          rack.Yields number c device.entries at_.position
            (device.contents.drop at_.position))) := by
  have hlinked := (linked_of_ofCapacities hfresh).stepAll h
  have hlt := hlinked.cursor_lt _ (List.mem_of_getElem? hcursor)
  obtain ⟨device, hdevice⟩ : ∃ device, rack.devices[number]? = some device :=
    ⟨_, List.getElem?_eq_getElem hlt⟩
  have hfollows := follows_of_history hfresh h hdevice
  have hpending := newline_not_mem_pending_of_history hfresh h hdevice
  have hring := hfollows.wellFormed
  refine ⟨device, hdevice, ?_⟩
  rw [step_seekTo hcursor hdevice, Cursor.seekTo]
  by_cases hbyte : device.log.HasByte i.toNat k.toNat
  · left
    obtain ⟨command, hget, hoffset⟩ := hring.hasByte_iff_getElem?.1 hbyte
    have hplace := Ring.positionOf_eq_ok_iff.2 ⟨hbyte, rfl⟩
    have hrest := hring.drop_contents hget hoffset
    have hyields := yields_of_follows
      (cursors_place_self hcursor ⟨device.log.lengthBefore i.toNat + k.toNat⟩) hdevice hfollows
      hpending
    rw [Device.contents, hrest] at hyields
    rw [hplace]
    refine ⟨command, _, _, _, hget, hoffset, rfl, rfl, hyields, ?_⟩
    have hbefore := (hring.found_at_positionOf hplace).1
    have hsize : device.log.contents.length = device.log.size := by
      rw [Ring.contents, Command.length_concat, hring.size_eq]
    have hlength := congrArg List.length hrest
    rw [List.length_drop, hsize] at hlength
    rw [Device.entries, ← hlength]
    exact Nat.add_sub_of_le hbefore.le
  · right
    rw [Ring.positionOf_of_not_hasByte hbyte]
    refine ⟨fun hsome => hbyte (hring.hasByte_iff_getElem?.2 hsome), rfl, ?_⟩
    exact yields_of_follows hcursor hdevice hfollows hpending

/-- Two slots, the first of three commands is overwritten, and the cursor is moved to the second byte
of the older one that is left. -/
theorem seekTo_then_read_two :
    ∃ fresh rack answers after, ofCapacities [2] = .ok fresh ∧
      fresh.stepAll [.write 0 [97, 10, 98, 98, 10, 99, 10], .openCursor 0] = some (rack, answers) ∧
      rack.cursors[0]? = some (0, .start) ∧
      rack.step (.seekTo 0 0 1) = some (after, .position 1) ∧
      after.Yields 0 0 [⟨[98, 98, 10]⟩, ⟨[99, 10]⟩] 1 [98, 10, 99, 10] := by
  obtain ⟨fresh, rack, answers, device, hfresh, hrack, hcursor, hdevice, hentries, hsize⟩ :
      ∃ fresh rack answers device, ofCapacities [2] = .ok fresh ∧
        fresh.stepAll [.write 0 [97, 10, 98, 98, 10, 99, 10], .openCursor 0] =
          some (rack, answers) ∧
        rack.cursors[0]? = some (0, .start) ∧ rack.devices[0]? = some device ∧
        device.entries = [⟨[98, 98, 10]⟩, ⟨[99, 10]⟩] ∧ device.size = 5 :=
    ⟨_, _, _, _, rfl, rfl, rfl, rfl, by decide +kernel, by decide +kernel⟩
  obtain ⟨found, hfound, hsought⟩ := seekTo_then_read hfresh hrack hcursor 0 1
  cases hdevice.symm.trans hfound
  rw [hentries, hsize] at hsought
  rcases hsought with ⟨command, place, after, rest, hget, -, hstep, rfl, hyields, hplace⟩ | ⟨hnone, -⟩
  · cases hget
    have hone : place = 1 := Nat.add_right_cancel hplace
    rw [hone] at hstep hyields
    exact ⟨fresh, rack, answers, after, hfresh, hrack, hcursor, hstep, hyields⟩
  · exact absurd ⟨_, rfl, by decide⟩ hnone

end Rack

end CommandLog
