import CommandLog.Proofs.Device.Written
import CommandLog.Proofs.LineBuffer.Calls

/-!
# A dump of the log

Nothing in the contents of a device says where a command ends, and nothing has to: every command that it
keeps is one complete line (`Follows.isComplete_entries`), whoever wrote it and however it was cut.  So
the lines of a dump are the commands themselves, and nothing follows them (`Bytes.splitLines_concat`).

From this it follows what becomes of a dump.  A buffer that it is fed to hands the commands out again
(`LineBuffer.makeAll_eq_of_fed_concat`), a fresh device that it is written to keeps the last of them
(`entries_of_written_dump`), and no other commands have the same dump (`Command.concat_injective`).  The
main statement `dump_decodes` says so of every device that a history leads to.
-/

namespace CommandLog

/-! ## The lines of a dump -/

/-- Complete commands are known by their bytes. -/
lemma Command.concat_injective {commands others : List Command}
    (h : ∀ command ∈ commands, command.IsComplete) (h' : ∀ command ∈ others, command.IsComplete)
    (heq : concat commands = concat others) : commands = others := by
  have hlines := congrArg Bytes.lines heq
  rw [Bytes.lines_concat h, Bytes.lines_concat h'] at hlines
  exact (List.map_inj_right fun _ _ => congrArg Command.mk).1 hlines

/-- Complete commands that a buffer was fed with come out again, and nothing is left. -/
lemma LineBuffer.makeAll_eq_of_fed_concat {commands : List Command} {calls : List Call}
    (h : ∀ command ∈ commands, command.IsComplete) (hfed : fed calls = Command.concat commands)
    (hexhausts : empty.Exhausts calls) : empty.makeAll calls = (commands, empty) := by
  obtain ⟨hcommands, hrest⟩ := makeAll_of_next?_eq_none hexhausts.next?_eq_none
  rw [pending_empty, List.nil_append, hfed] at hcommands hrest
  rw [Bytes.lines_concat h, List.map_map] at hcommands
  rw [Bytes.unfinished_concat h] at hrest
  exact Prod.ext (hcommands.trans (List.map_id commands)) (pending_injective hrest)

namespace Device

variable {device : Device} {chronicle : Chronicle} {capacity : Nat}

/-- Whatever is kept is complete. -/
lemma Follows.isComplete_entries (h : device.Follows chronicle) :
    ∀ command ∈ device.entries, command.IsComplete := by
  intro command hmem
  apply h.isComplete
  rw [← h.all]
  exact List.mem_append_right _ hmem

/-- To write pieces one after the other is to write all of them at once. -/
lemma foldl_write (hpending : newline ∉ device.incoming.pending) (writes : List Bytes) :
    writes.foldl write device = device.write writes.flatten := by
  induction writes generalizing device with
  | nil => exact (write_nil hpending).symm
  | cons data writes ih =>
    rw [List.foldl_cons, ih (device.newline_not_mem_pending_write data), List.flatten_cons,
      write_append]

/-- A fresh device that a dump is written to keeps the last of its commands, and nothing begun. -/
lemma entries_of_written_dump (hcapacity : 0 < capacity) {commands : List Command}
    (h : ∀ command ∈ commands, command.IsComplete) {writes : List Bytes}
    (hwrites : writes.flatten = Command.concat commands) :
    (writes.foldl write (empty capacity)).entries = commands.drop (commands.length - capacity) ∧
      (writes.foldl write (empty capacity)).incoming.pending = [] := by
  have hnothing : (empty capacity).incoming.pending = [] := LineBuffer.pending_empty
  have hpending : newline ∉ (empty capacity).incoming.pending := by
    rw [hnothing]
    exact List.not_mem_nil
  rw [foldl_write hpending, hwrites,
    entries_write_concat (Ring.wellFormed_empty hcapacity) hnothing h]
  exact ⟨by simp [entries, empty, Ring.toList_empty, Ring.capacity_empty],
    (write_concat hnothing h).2⟩

end Device

namespace Rack

variable {fresh rack : Rack} {history : List Action} {answers : List Answer} {number : Nat}
  {device : Device}

/-- The dump of a device, whatever was written to it.  A buffer that it is fed to in any pieces hands out
just the commands that the device keeps, and has nothing left.  A fresh device that it is written to in
any pieces keeps the last of them, as many as it has room for, with nothing begun; with room for all, it
has the same contents.  And devices with the same dump keep the same commands. -/
theorem dump_decodes {capacities : List Nat} (hfresh : ofCapacities capacities = .ok fresh)
    (h : fresh.stepAll history = some (rack, answers))
    (hdevice : rack.devices[number]? = some device) :
    (∀ calls, LineBuffer.fed calls = device.contents → LineBuffer.empty.Exhausts calls →
      LineBuffer.empty.makeAll calls = (device.entries, LineBuffer.empty)) ∧
    (∀ capacity, 0 < capacity → ∃ blank, Device.ofCapacity capacity = .ok blank ∧
      ∀ writes : List Bytes, writes.flatten = device.contents →
        let copy := writes.foldl Device.write blank
        copy.entries = device.entries.drop (device.entries.length - capacity) ∧
        copy.incoming.pending = [] ∧
        (device.entries.length ≤ capacity → copy.contents = device.contents)) ∧
    (∀ (others : List Nat) (fresh' rack' : Rack) (history' : List Action) (answers' : List Answer)
      (number' : Nat) (device' : Device), ofCapacities others = .ok fresh' →
      fresh'.stepAll history' = some (rack', answers') → rack'.devices[number']? = some device' →
      device'.contents = device.contents → device'.entries = device.entries) := by
  have hcomplete := (follows_of_history hfresh h hdevice).isComplete_entries
  refine ⟨?_, ?_, ?_⟩
  · intro calls hfed hexhausts
    exact LineBuffer.makeAll_eq_of_fed_concat hcomplete hfed hexhausts
  · intro capacity hcapacity
    refine ⟨.empty capacity, by simp [Device.ofCapacity, Ring.ofCapacity, hcapacity, Except.map,
      Device.empty], ?_⟩
    intro writes hwrites
    obtain ⟨hentries, hpending⟩ := Device.entries_of_written_dump hcapacity hcomplete hwrites
    refine ⟨hentries, hpending, ?_⟩
    intro hroom
    rw [Nat.sub_eq_zero_of_le hroom, List.drop_zero] at hentries
    exact congrArg Command.concat hentries
  · intro others fresh' rack' history' answers' number' device' hfresh' h' hdevice' hsame
    exact Command.concat_injective (follows_of_history hfresh' h' hdevice').isComplete_entries
      hcomplete hsame

/-- The first of three commands is overwritten and a fourth one is begun.  The dump is read back in two
pieces, and a device with room for one command keeps the last one. -/
theorem dump_decodes_two :
    ∃ fresh rack answers device, ofCapacities [2] = .ok fresh ∧
      fresh.stepAll [.write 0 [97, 10, 98], .write 0 [98, 10, 10, 99]] = some (rack, answers) ∧
      rack.devices[0]? = some device ∧ device.contents = [98, 98, 10, 10] ∧
      LineBuffer.empty.makeAll [.feed [98], .next, .feed [98, 10, 10], .drain] =
        ([⟨[98, 98, 10]⟩, ⟨[10]⟩], LineBuffer.empty) ∧
      ∃ blank, Device.ofCapacity 1 = .ok blank ∧
        ([[98, 98], [10, 10]].foldl Device.write blank).entries = [⟨[10]⟩] := by
  obtain ⟨fresh, rack, answers, device, hfresh, hrack, hdevice, hentries⟩ :
      ∃ fresh rack answers device, ofCapacities [2] = .ok fresh ∧
        fresh.stepAll [.write 0 [97, 10, 98], .write 0 [98, 10, 10, 99]] = some (rack, answers) ∧
        rack.devices[0]? = some device ∧ device.entries = [⟨[98, 98, 10]⟩, ⟨[10]⟩] :=
    ⟨_, _, _, _, rfl, rfl, rfl, by decide +kernel⟩
  have hcontents : device.contents = [98, 98, 10, 10] := congrArg Command.concat hentries
  obtain ⟨hread, hcopied, -⟩ := dump_decodes hfresh hrack hdevice
  rw [hcontents, hentries] at hread hcopied
  obtain ⟨blank, hblank, hcopy⟩ := hcopied 1 (by decide)
  exact ⟨fresh, rack, answers, device, hfresh, hrack, hdevice, hcontents,
    hread _ rfl ⟨[.feed [98], .next, .feed [98, 10, 10]], .inl rfl⟩, blank, hblank,
    (hcopy [[98, 98], [10, 10]] rfl).1⟩

end Rack

end CommandLog
