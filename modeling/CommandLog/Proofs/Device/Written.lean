import CommandLog.Proofs.Device.History
import CommandLog.Proofs.Ring.Queue

/-!
# A device is what was written to it

Any number of writers share a device, and a write may carry any bytes: it may complete a command
that someone else began, complete more commands than there is room for, or none.  All the same only
the stream of the bytes matters, in the order in which they were written.  `Device.write_append` is
the reason: to write a stream and then another is to write both at once, since the commands
completed by both writes are the lines of the stream that arrived, and what stays behind is its
unfinished line.

`Rack.writtenAll` is the stream that a history writes to one device, through whichever references.
By induction on the history, `device_of_stepAll`, the device is then the one to which this stream
was written at once.  The main statement `device_determined_by_written` says what such a device
keeps, `Device.Keeps`, and that two devices with room for as many commands are the same if the same
stream was written to them.
-/

namespace CommandLog

lemma Ring.pushAll_append (ring : Ring) (commands others : List Command) :
    ring.pushAll (commands ++ others) = (ring.pushAll commands).pushAll others :=
  List.foldl_append

namespace Device

variable {device other : Device}

/-! ## Writes one after the other -/

/-- Apart from its log a device has only the bytes that are not complete yet. -/
lemma eq_of_log_of_pending (hlog : device.log = other.log)
    (hpending : device.incoming.pending = other.incoming.pending) : device = other := by
  obtain ⟨log, incoming⟩ := device
  obtain ⟨log', incoming'⟩ := other
  have hincoming : incoming = incoming' := LineBuffer.pending_injective hpending
  rw [show log = log' from hlog, hincoming]

lemma newline_not_mem_pending_write (device : Device) (data : Bytes) :
    newline ∉ (device.write data).incoming.pending := by
  rw [pending_write]
  exact Bytes.newline_not_mem_unfinished _

/-- A later write completes the commands that it would have completed in one write with the earlier
one, less those that the earlier one has completed. -/
lemma completedBy_append (device : Device) (stream more : Bytes) :
    device.completedBy (stream ++ more) =
      device.completedBy stream ++ (device.write stream).completedBy more := by
  rw [completedBy_eq, completedBy_eq, completedBy_eq, pending_write, ← List.append_assoc,
    Bytes.lines_append, List.map_append]

/-- To write one stream after the other is to write both at once. -/
lemma write_append (device : Device) (stream more : Bytes) :
    device.write (stream ++ more) = (device.write stream).write more := by
  apply eq_of_log_of_pending
  · rw [log_write, log_write, log_write, completedBy_append, Ring.pushAll_append]
  · rw [pending_write, pending_write, pending_write, ← List.append_assoc, Bytes.unfinished_append]

/-- Where no command waits to be taken over, an empty write changes nothing. -/
lemma write_nil (h : newline ∉ device.incoming.pending) : device.write [] = device := by
  have hsplit := Bytes.splitLines_of_not_mem h
  apply eq_of_log_of_pending
  · rw [log_write, completedBy_eq, List.append_nil, Bytes.lines, hsplit]
    rfl
  · rw [pending_write, List.append_nil, Bytes.unfinished, hsplit]

/-- Complete commands that are written to a device with nothing left over are added to its log, and
leave nothing over. -/
lemma write_concat (hpending : device.incoming.pending = []) {commands : List Command}
    (hcomplete : ∀ command ∈ commands, command.IsComplete) :
    (device.write (Command.concat commands)).log = device.log.pushAll commands ∧
      (device.write (Command.concat commands)).incoming.pending = [] := by
  refine ⟨?_, ?_⟩
  · rw [log_write, completedBy_eq, hpending, List.nil_append, Bytes.lines_concat hcomplete,
      List.map_map]
    exact congrArg device.log.pushAll (List.map_id commands)
  · rw [pending_write, hpending, List.nil_append, Bytes.unfinished_concat hcomplete]

lemma entries_write_concat (hring : device.log.WellFormed) (hpending : device.incoming.pending = [])
    {commands : List Command} (hcomplete : ∀ command ∈ commands, command.IsComplete) :
    (device.write (Command.concat commands)).entries =
      (device.entries ++ commands).drop
        ((device.entries ++ commands).length - device.log.capacity) := by
  rw [entries, (write_concat hpending hcomplete).1, hring.toList_pushAll]
  rfl

/-! ## What a device keeps of a stream -/

/-- The device keeps the last lines of a stream, as many as it has room for, and the bytes behind
its last newline. -/
structure Keeps (device : Device) (capacity : Nat) (written : Bytes) : Prop where
  entries_eq : device.entries.map Command.bytes =
    (Bytes.lines written).drop ((Bytes.lines written).length - capacity)
  contents_eq : device.contents =
    ((Bytes.lines written).drop ((Bytes.lines written).length - capacity)).flatten
  size_eq : device.size = device.contents.length
  pending_eq : device.incoming.pending = Bytes.unfinished written

lemma log_write_empty (capacity : Nat) (written : Bytes) :
    ((empty capacity).write written).log =
      (Ring.empty capacity).pushAll ((Bytes.lines written).map Command.mk) := by
  rw [log_write, completedBy_eq]
  rfl

/-- A new device to which a stream was written keeps the last lines of the stream. -/
lemma keeps_write_empty {capacity : Nat} (hcapacity : 0 < capacity) (written : Bytes) :
    ((empty capacity).write written).Keeps capacity written := by
  have hring := (Ring.wellFormed_empty hcapacity).pushAll ((Bytes.lines written).map Command.mk)
  have hlist := (Ring.toList_pushAll hcapacity ((Bytes.lines written).map Command.mk)).1
  rw [List.length_map, ← List.map_drop] at hlist
  constructor
  · rw [entries, log_write_empty, hlist, Bytes.map_bytes_map_mk]
  · rw [contents, Ring.contents, log_write_empty, hlist, Bytes.concat_map_mk]
  · rw [size, contents, log_write_empty, hring.length_contents]
  · rw [pending_write]
    rfl

end Device

namespace Rack

/-- The bytes that a history writes to a device, in the order in which they are written. -/
def writtenAll (rack : Rack) (number : Nat) : List Action → Bytes
  | [] => []
  | action :: others =>
    match rack.step action with
    | some (next, _) => (rack.written? number action).getD [] ++ next.writtenAll number others
    | none => []

variable {rack next fresh : Rack} {number : Nat} {history : List Action} {answers : List Answer}

/-- After a history, a device is the one to which all that the history writes was written at once.
-/
lemma device_of_stepAll {device : Device} (h : rack.stepAll history = some (next, answers))
    (hdevice : rack.devices[number]? = some device) (hpending : newline ∉ device.incoming.pending) :
    next.devices[number]? = some (device.write (rack.writtenAll number history)) := by
  induction history generalizing rack device answers with
  | nil =>
    obtain ⟨rfl, -⟩ := stepAll_nil h
    rw [writtenAll, Device.write_nil hpending]
    exact hdevice
  | cons action others ih =>
    obtain ⟨after, answer, rest, hstep, hrest, -⟩ := stepAll_cons h
    have hafter := device_of_step hstep number
    rw [hdevice, Option.map_some] at hafter
    rw [writtenAll, hstep]
    cases hwritten : rack.written? number action with
    | none =>
      rw [hwritten] at hafter
      exact ih hrest hafter hpending
    | some data =>
      rw [hwritten] at hafter
      -- the device that the later writes find has no complete command left in its buffer either
      rw [Option.getD_some, Device.write_append]
      exact ih hrest hafter (device.newline_not_mem_pending_write data)

/-- The device that a history from new devices on leads to. -/
lemma device_of_history {capacities : List Nat} {capacity : Nat}
    (hfresh : ofCapacities capacities = .ok fresh) (hcapacity : capacities[number]? = some capacity)
    (h : fresh.stepAll history = some (rack, answers)) :
    rack.devices[number]? =
      some ((Device.empty capacity).write (fresh.writtenAll number history)) := by
  obtain ⟨hrack, -⟩ := ofCapacities_eq_ok hfresh
  apply device_of_stepAll h
  · rw [hrack, List.getElem?_map, hcapacity]
    rfl
  · show newline ∉ LineBuffer.empty.pending
    rw [LineBuffer.pending_empty]
    exact List.not_mem_nil

/-- Through a reference that leads to a device that is there, a write takes all bytes, and does what
an append of them to the device does. -/
lemma exists_step_write {reference : Nat} {device : Device}
    (hreference : rack.references[reference]? = some number)
    (hdevice : rack.devices[number]? = some device) (data : Bytes) :
    ∃ after, rack.step (.write reference data) = some (after, .written data.length) ∧
      after.devices[number]? = some (Storage.append device data).1 ∧
      (Storage.append device data).2 = .stored := by
  have hlt := (List.getElem?_eq_some_iff.1 hdevice).1
  refine ⟨{ rack with devices := rack.devices.modify number (·.write data) }, ?_, ?_, rfl⟩
  · simp [step, hreference, hlt]
  · rw [List.getElem?_modify, hdevice]
    simp only [if_pos]
    rfl

/-- Whatever is done with devices, a device keeps the last lines of what was written to it, through
whichever references and by writes or appends; and two devices with as much room are the same if the
same stream was written to them, however it was cut into writes. -/
theorem device_determined_by_written {capacities : List Nat} {capacity : Nat}
    (hfresh : ofCapacities capacities = .ok fresh)
    (hcapacity : capacities[number]? = some capacity) :
    (∀ history rack answers, fresh.stepAll history = some (rack, answers) →
      ∃ device, rack.devices[number]? = some device ∧
        device.Keeps capacity (fresh.writtenAll number history) ∧
        ∀ reference data, rack.references[reference]? = some number →
          ∃ after, rack.step (.write reference data) = some (after, .written data.length) ∧
            after.devices[number]? = some (Storage.append device data).1 ∧
            (Storage.append device data).2 = .stored) ∧
    (∀ (others : List Nat) (fresh' : Rack) (number' : Nat),
      ofCapacities others = .ok fresh' → others[number']? = some capacity →
      ∀ history rack answers history' rack' answers',
        fresh.stepAll history = some (rack, answers) →
        fresh'.stepAll history' = some (rack', answers') →
        fresh.writtenAll number history = fresh'.writtenAll number' history' →
        rack.devices[number]? = rack'.devices[number']?) := by
  refine ⟨?_, ?_⟩
  · intro history rack answers h
    have hpos := (ofCapacities_eq_ok hfresh).2 capacity (List.mem_of_getElem? hcapacity)
    have hdevice := device_of_history hfresh hcapacity h
    refine ⟨_, hdevice, Device.keeps_write_empty hpos _, ?_⟩
    intro reference data hreference
    exact exists_step_write hreference hdevice data
  · intro others fresh' number' hfresh' hcapacity' history rack answers history' rack' answers' h h'
      hwritten
    rw [device_of_history hfresh hcapacity h, device_of_history hfresh' hcapacity' h', hwritten]

/-- Two references to a device with room for two commands; the first of three commands is begun
through one of them and completed through the other. -/
theorem device_determined_by_written_two :
    ∃ fresh rack answers device, ofCapacities [2] = .ok fresh ∧ [2][0]? = some 2 ∧
      fresh.stepAll [.refer 0, .write 0 [97], .write 1 [10, 98, 10, 99], .write 0 [10, 100]] =
        some (rack, answers) ∧
      rack.devices[0]? = some device ∧
      device.entries.map Command.bytes = [[98, 10], [99, 10]] ∧
      device.incoming.pending = [100] := by
  obtain ⟨fresh, rack, answers, hfresh, hrack, hwritten⟩ : ∃ fresh rack answers,
      ofCapacities [2] = .ok fresh ∧
      fresh.stepAll [.refer 0, .write 0 [97], .write 1 [10, 98, 10, 99], .write 0 [10, 100]] =
        some (rack, answers) ∧
      fresh.writtenAll 0 [.refer 0, .write 0 [97], .write 1 [10, 98, 10, 99], .write 0 [10, 100]] =
        [97, 10, 98, 10, 99, 10, 100] :=
    ⟨_, _, _, rfl, rfl, rfl⟩
  obtain ⟨device, hdevice, hkeeps, -⟩ :=
    (device_determined_by_written hfresh (show [2][0]? = some 2 from rfl)).1 _ _ _ hrack
  rw [hwritten] at hkeeps
  exact ⟨fresh, rack, answers, device, hfresh, rfl, hrack, hdevice, hkeeps.entries_eq,
    hkeeps.pending_eq⟩

end Rack

end CommandLog
