import CommandLog.Device
import CommandLog.Proofs.Bytes.Lines
import CommandLog.Proofs.Ring.Layout

/-!
# The chronicle of a device

A device forgets: what it overwrites leaves no trace in it.  To say what its cursors read we put a
`Chronicle` beside it, which forgets nothing.  It lists every command ever added to the log and those
of them that have been overwritten.  A byte then has a *place* that never changes, its index in
`Chronicle.stream`, the bytes of all commands ever added; a cursor at position `p` stands at the place
`Chronicle.gone + p`, for the log begins where the overwritten bytes end.

`Device.Follows` is the invariant: what was overwritten, followed by what is kept, is what was added.
A write keeps it (`Follows.write`), and it determines what a read gives: `Follows.read` says that the
bytes are those of the stream from the cursor's place on, as far as there is room and as far as the
one command goes that the place falls into, which is `Command.restAt`.
-/

namespace CommandLog

/-! ## Places in a list of commands -/

/-- How many bytes the command still has that the given place falls into, counted over the bytes of
all commands; none behind their end. -/
def Command.restAt : List Command → (place : Nat) → Nat
  | [], _ => 0
  | command :: others, place =>
    if place < command.length then command.length - place
    else restAt others (place - command.length)

namespace Command

lemma concat_cons (command : Command) (others : List Command) :
    concat (command :: others) = command.bytes ++ concat others :=
  List.flatMap_cons

lemma concat_append (commands others : List Command) :
    concat (commands ++ others) = concat commands ++ concat others :=
  List.flatMap_append

/-- Within the commands there is a rest, and behind them there is none. -/
lemma restAt_eq_zero_iff {commands : List Command} {place : Nat} :
    restAt commands place = 0 ↔ totalLength commands ≤ place := by
  induction commands generalizing place with
  | nil => simp [restAt, totalLength]
  | cons command others ih =>
    rw [restAt, totalLength]
    by_cases h : place < command.length
    · rw [if_pos h]
      omega
    · rw [if_neg h, ih]
      omega

lemma restAt_append_right (commands others : List Command) (place : Nat) :
    restAt (commands ++ others) (totalLength commands + place) = restAt others place := by
  induction commands with
  | nil => rw [List.nil_append, totalLength, Nat.zero_add]
  | cons command commands ih =>
    have hplace : command.length + totalLength commands + place - command.length =
        totalLength commands + place := by omega
    rw [List.cons_append, restAt, totalLength, if_neg (by omega), hplace, ih]

end Command

/-- The place that is looked up falls into the command found, which has so much rest. -/
lemma Ring.restAt_of_locateIn? {commands : List Command} {place offset : Nat} {command : Command}
    (h : Ring.locateIn? commands place = some (command, offset)) :
    Command.restAt commands place = command.length - offset := by
  induction commands generalizing place with
  | nil => simp [Ring.locateIn?] at h
  | cons first others ih =>
    rw [Ring.locateIn?] at h
    rw [Command.restAt]
    by_cases hlt : place < first.length
    · rw [if_pos hlt] at h ⊢
      simp only [Option.some.injEq, Prod.mk.injEq] at h
      obtain ⟨rfl, rfl⟩ := h
      rfl
    · rw [if_neg hlt] at h ⊢
      exact ih h

/-- The command found is one of the commands, and the place is counted from its beginning. -/
lemma Ring.exists_split_of_locateIn? {commands : List Command} {place offset : Nat} {command : Command}
    (h : Ring.locateIn? commands place = some (command, offset)) :
    ∃ before after, commands = before ++ command :: after ∧
      place = Command.totalLength before + offset ∧ offset < command.length := by
  induction commands generalizing place with
  | nil => simp [Ring.locateIn?] at h
  | cons first others ih =>
    rw [Ring.locateIn?] at h
    by_cases hlt : place < first.length
    · rw [if_pos hlt] at h
      simp only [Option.some.injEq, Prod.mk.injEq] at h
      obtain ⟨rfl, rfl⟩ := h
      exact ⟨[], others, rfl, (Nat.zero_add _).symm, hlt⟩
    · rw [if_neg hlt] at h
      obtain ⟨before, after, rfl, hplace, hoffset⟩ := ih h
      refine ⟨first :: before, after, rfl, ?_, hoffset⟩
      rw [Command.totalLength]
      omega

/-- A read moves on behind the bytes that it gives. -/
lemma Cursor.position_read (device : Device) (room : Nat) (cursor : Cursor) :
    (cursor.read device room).2.position =
      cursor.position + (cursor.read device room).1.length := by
  unfold Cursor.read
  split
  · rfl
  · rfl

/-! ## What has happened to a log -/

/-- Every command ever added to a log, and those of them that were overwritten, oldest first. -/
structure Chronicle where
  added : List Command
  overwritten : List Command

namespace Chronicle

/-- Nothing has happened yet. -/
def empty : Chronicle := ⟨[], []⟩

/-- The bytes of all commands ever added. -/
def stream (chronicle : Chronicle) : Bytes := Command.concat chronicle.added

/-- How many bytes were overwritten. -/
def gone (chronicle : Chronicle) : Nat := Command.totalLength chronicle.overwritten

end Chronicle

namespace Device

/-- The commands that a write completes, which it adds to the log. -/
def completedBy (device : Device) (data : Bytes) : List Command :=
  (device.incoming.feed data).drain.1

/-- The chronicle after a write. -/
def record (device : Device) (chronicle : Chronicle) (data : Bytes) : Chronicle :=
  ⟨chronicle.added ++ device.completedBy data,
    chronicle.overwritten ++ device.log.overwrittenBy (device.completedBy data)⟩

/-- The chronicle is one of the device: what was overwritten, followed by what is kept, is what was
added. -/
structure Follows (device : Device) (chronicle : Chronicle) : Prop where
  wellFormed : device.log.WellFormed
  all : chronicle.overwritten ++ device.entries = chronicle.added
  isComplete : ∀ command ∈ chronicle.added, command.IsComplete

variable {device : Device} {chronicle : Chronicle}

lemma ofCapacity_eq_ok {capacity : Nat} (h : ofCapacity capacity = .ok device) :
    0 < capacity ∧ device = empty capacity := by
  unfold ofCapacity at h
  cases hring : Ring.ofCapacity capacity with
  | error failure => simp [hring, Except.map] at h
  | ok ring =>
    obtain ⟨hpos, rfl⟩ := Ring.ofCapacity_eq_ok hring
    simp only [hring, Except.map, Except.ok.injEq] at h
    exact ⟨hpos, h.symm⟩

lemma follows_empty {capacity : Nat} (h : 0 < capacity) :
    (empty capacity).Follows Chronicle.empty where
  wellFormed := Ring.wellFormed_empty h
  all := rfl
  isComplete := fun _ hcommand => absurd hcommand List.not_mem_nil

lemma completedBy_eq (device : Device) (data : Bytes) :
    device.completedBy data = (Bytes.lines (device.incoming.pending ++ data)).map Command.mk := by
  rw [completedBy, (LineBuffer.drain_eq _).1, LineBuffer.pending_feed]

lemma log_write (device : Device) (data : Bytes) :
    (device.write data).log = device.log.pushAll (device.completedBy data) := rfl

lemma pending_write (device : Device) (data : Bytes) :
    (device.write data).incoming.pending = Bytes.unfinished (device.incoming.pending ++ data) := by
  have hrest := (LineBuffer.drain_eq (device.incoming.feed data)).2
  rwa [LineBuffer.pending_feed] at hrest

/-- A chronicle only grows. -/
lemma record_grows (device : Device) (chronicle : Chronicle) (data : Bytes) :
    chronicle.added <+: (device.record chronicle data).added ∧
      chronicle.gone ≤ (device.record chronicle data).gone := by
  constructor
  · exact List.prefix_append _ _
  · rw [record, Chronicle.gone, Chronicle.gone, Command.totalLength_append]
    exact Nat.le_add_right _ _

/-- A write keeps the chronicle that it writes on. -/
lemma Follows.write (h : device.Follows chronicle) (data : Bytes) :
    (device.write data).Follows (device.record chronicle data) where
  wellFormed := h.wellFormed.pushAll _
  all := by
    have hpushed := h.wellFormed.overwrittenBy_append_toList (device.completedBy data)
    have hall := h.all
    rw [entries] at hall
    rw [entries, record, log_write, List.append_assoc, hpushed, ← List.append_assoc, hall]
  isComplete := by
    intro command hcommand
    rcases List.mem_append.1 hcommand with hcommand | hcommand
    · exact h.isComplete command hcommand
    · rw [completedBy_eq] at hcommand
      exact Bytes.isComplete_of_mem_lines hcommand

/-- What a device keeps after any writes can be followed. -/
lemma exists_follows {capacity : Nat} {fresh : Device} (hfresh : ofCapacity capacity = .ok fresh)
    (writes : List Bytes) : ∃ chronicle, (writes.foldl write fresh).Follows chronicle := by
  obtain ⟨hpos, rfl⟩ := ofCapacity_eq_ok hfresh
  have hall : ∀ device : Device, (∃ chronicle, device.Follows chronicle) →
      ∃ chronicle, (writes.foldl write device).Follows chronicle := by
    induction writes with
    | nil =>
      intro device h
      exact h
    | cons data writes ih =>
      rintro device ⟨chronicle, h⟩
      exact ih (device.write data) ⟨_, h.write data⟩
  exact hall _ ⟨_, follows_empty hpos⟩

/-- A write does not change how many commands there is room for. -/
lemma capacity_foldl_write (device : Device) (writes : List Bytes) :
    (writes.foldl write device).log.capacity = device.log.capacity := by
  induction writes generalizing device with
  | nil => rfl
  | cons data writes ih =>
    rw [List.foldl_cons, ih, log_write, Ring.capacity_pushAll]

/-- The log is what is left of the stream behind the bytes that are gone. -/
lemma Follows.contents_eq (h : device.Follows chronicle) :
    chronicle.stream.drop chronicle.gone = device.contents := by
  rw [Chronicle.stream, Chronicle.gone, ← h.all, Command.concat_append, ← Command.length_concat,
    List.drop_left]
  rfl

/-- A read gives the bytes of the stream from the cursor's place on, as far as there is room and as
far as the command goes that the place falls into. -/
lemma Follows.read (h : device.Follows chronicle) (cursor : Cursor) (room : Nat) :
    (cursor.read device room).1 =
        (chronicle.stream.drop (chronicle.gone + cursor.position)).take
          (cursor.read device room).1.length ∧
      (cursor.read device room).1.length =
        min room (Command.restAt chronicle.added (chronicle.gone + cursor.position)) := by
  have hdrop : chronicle.stream.drop (chronicle.gone + cursor.position) =
      (Command.concat device.entries).drop cursor.position := by
    rw [← List.drop_drop, h.contents_eq]
    rfl
  have hrest : Command.restAt chronicle.added (chronicle.gone + cursor.position) =
      Command.restAt device.entries cursor.position := by
    rw [← h.all, Chronicle.gone, Command.restAt_append_right]
  rw [hdrop, hrest, Cursor.read, Ring.locate?_eq]
  cases hfound : Ring.locateIn? device.log.toList cursor.position with
  | none =>
    have hzero := Command.restAt_eq_zero_iff.2 (Ring.locateIn?_eq_none_iff.1 hfound)
    rw [entries, hzero, Nat.min_zero]
    exact ⟨rfl, rfl⟩
  | some found =>
    obtain ⟨command, offset⟩ := found
    obtain ⟨-, rest, hbytes⟩ := Ring.drop_concat_of_locateIn? hfound
    have hpiece : ((command.bytes.drop offset).take room).length =
        min room (command.length - offset) := by
      rw [List.length_take, List.length_drop]
      rfl
    rw [entries, Ring.restAt_of_locateIn? hfound, hbytes]
    have hsplit : command.bytes.drop offset ++ rest =
        (command.bytes.drop offset).take room ++ ((command.bytes.drop offset).drop room ++ rest) := by
      rw [← List.append_assoc, List.take_append_drop]
    refine ⟨?_, hpiece⟩
    rw [hsplit]
    exact List.take_left.symm

end Device

end CommandLog
