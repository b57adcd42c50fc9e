import CommandLog.Device.Rack
import CommandLog.Proofs.Device.Chronicle

/-!
# Histories of a rack

What a history does to one device and to one cursor, whichever references and other cursors it uses
on the way.  `Rack.written?` picks out of an action the bytes that it writes to a device, and
`Rack.recordAll` keeps the device's chronicle through a whole history.

The two step lemmas say all that an action can change: the devices change by writes only
(`device_of_step`), and a cursor stays on its device and moves by reads and seeks on it only
(`cursor_of_step`).  `follows_of_history` is the run lemma for the first: in every history that begins
with new devices, each device follows its chronicle.
-/

namespace CommandLog

namespace Rack

/-- The cursor that an action reads through. -/
def Action.read? : Action → Option Nat
  | .read cursor _ | .readToEnd cursor => some cursor
  | _ => none

/-- The cursor that an action seeks with. -/
def Action.seek? : Action → Option Nat
  | .seek cursor _ | .seekTo cursor _ _ => some cursor
  | _ => none

/-- The bytes that an action writes to a device, through whichever reference. -/
def written? (rack : Rack) (number : Nat) : Action → Option Bytes
  | .write reference data => if rack.references[reference]? = some number then some data else none
  | _ => none

/-- The chronicle of a device after an action. -/
def record (rack : Rack) (number : Nat) (chronicle : Chronicle) (action : Action) : Chronicle :=
  match rack.devices[number]?, rack.written? number action with
  | some device, some data => device.record chronicle data
  | _, _ => chronicle

/-- The chronicle of a device after a history. -/
def recordAll (rack : Rack) (number : Nat) (chronicle : Chronicle) : List Action → Chronicle
  | [] => chronicle
  | action :: others =>
    match rack.step action with
    | some (next, _) => next.recordAll number (rack.record number chronicle action) others
    | none => chronicle

variable {rack next : Rack} {action : Action} {answer : Answer} {number c : Nat}

/-! ## What one action changes -/

lemma cursor?_eq_some {device : Device} {at_ : Cursor} (h : rack.cursor? c = some (device, at_)) :
    ∃ number, rack.cursors[c]? = some (number, at_) ∧ rack.devices[number]? = some device := by
  simp only [cursor?, Option.bind_eq_bind, Option.bind_eq_some_iff] at h
  obtain ⟨⟨number, there⟩, hcursor, found, hdevice, hpair⟩ := h
  simp only [Option.pure_def, Option.some.injEq, Prod.mk.injEq] at hpair
  obtain ⟨rfl, rfl⟩ := hpair
  exact ⟨number, hcursor, hdevice⟩

/-- All that an action can do: it writes to the device of a reference, makes a reference or a cursor,
reads with a cursor, or seeks with one. -/
lemma step_cases (h : rack.step action = some (next, answer)) :
    (∃ reference data number, action = .write reference data ∧
      rack.references[reference]? = some number ∧
      next = { rack with devices := rack.devices.modify number (·.write data) }) ∨
    (∃ reference number, action = .refer reference ∧ rack.references[reference]? = some number ∧
      next = { rack with references := rack.references ++ [number] }) ∨
    (∃ reference number, action = .openCursor reference ∧
      rack.references[reference]? = some number ∧
      next = { rack with cursors := rack.cursors ++ [(number, .start)] }) ∨
    (∃ cursor room device at_, action = .read cursor room ∧
      rack.cursor? cursor = some (device, at_) ∧
      next = rack.place cursor (at_.read device room).2 ∧
      answer = .bytes (at_.read device room).1) ∨
    (∃ cursor device at_, action = .readToEnd cursor ∧
      rack.cursor? cursor = some (device, at_) ∧
      next = rack.place cursor (at_.readToEnd device).2 ∧
      answer = .bytes (at_.readToEnd device).1) ∨
    (∃ cursor, action.seek? = some cursor ∧
      (next = rack ∨ ∃ moved, next = rack.place cursor moved)) := by
  cases action with
  | write reference data =>
    left
    simp only [step, Option.bind_eq_bind, Option.bind_eq_some_iff] at h
    obtain ⟨number, hnumber, h⟩ := h
    split at h
    · simp only [Option.pure_def, Option.some.injEq, Prod.mk.injEq] at h
      exact ⟨reference, data, number, rfl, hnumber, h.1.symm⟩
    · simp at h
  | refer reference =>
    right; left
    simp only [step, Option.bind_eq_bind, Option.bind_eq_some_iff] at h
    obtain ⟨number, hnumber, h⟩ := h
    simp only [Option.pure_def, Option.some.injEq, Prod.mk.injEq] at h
    exact ⟨reference, number, rfl, hnumber, h.1.symm⟩
  | openCursor reference =>
    right; right; left
    simp only [step, Option.bind_eq_bind, Option.bind_eq_some_iff] at h
    obtain ⟨number, hnumber, h⟩ := h
    simp only [Option.pure_def, Option.some.injEq, Prod.mk.injEq] at h
    exact ⟨reference, number, rfl, hnumber, h.1.symm⟩
  | read cursor room =>
    right; right; right; left
    simp only [step, Option.bind_eq_bind, Option.bind_eq_some_iff] at h
    obtain ⟨⟨device, at_⟩, hcursor, h⟩ := h
    simp only [Option.pure_def, Option.some.injEq, Prod.mk.injEq] at h
    exact ⟨cursor, room, device, at_, rfl, hcursor, h.1.symm, h.2.symm⟩
  | readToEnd cursor =>
    right; right; right; right; left
    simp only [step, Option.bind_eq_bind, Option.bind_eq_some_iff] at h
    obtain ⟨⟨device, at_⟩, hcursor, h⟩ := h
    simp only [Option.pure_def, Option.some.injEq, Prod.mk.injEq] at h
    exact ⟨cursor, device, at_, rfl, hcursor, h.1.symm, h.2.symm⟩
  | seek cursor whence =>
    right; right; right; right; right
    simp only [step, Option.bind_eq_bind, Option.bind_eq_some_iff] at h
    obtain ⟨⟨device, at_⟩, -, h⟩ := h
    split at h <;> simp only [Option.pure_def, Option.some.injEq, Prod.mk.injEq] at h
    · exact ⟨cursor, rfl, .inr ⟨_, h.1.symm⟩⟩
    · exact ⟨cursor, rfl, .inl h.1.symm⟩
  | seekTo cursor command offset =>
    right; right; right; right; right
    simp only [step, Option.bind_eq_bind, Option.bind_eq_some_iff] at h
    obtain ⟨⟨device, at_⟩, -, h⟩ := h
    split at h <;> simp only [Option.pure_def, Option.some.injEq, Prod.mk.injEq] at h
    · exact ⟨cursor, rfl, .inr ⟨_, h.1.symm⟩⟩
    · exact ⟨cursor, rfl, .inl h.1.symm⟩

lemma written?_of_seek? {cursor : Nat} (h : action.seek? = some cursor) :
    rack.written? number action = none := by
  cases action <;> first | rfl | simp [Action.seek?] at h

/-- An action leaves a device as it is, or writes to it. -/
lemma device_of_step (h : rack.step action = some (next, answer)) (number : Nat) :
    next.devices[number]? =
      (rack.devices[number]?).map fun device =>
        (rack.written? number action).elim device device.write := by
  rcases step_cases h with ⟨reference, data, target, rfl, htarget, rfl⟩ | ⟨_, _, rfl, -, rfl⟩ |
    ⟨_, _, rfl, -, rfl⟩ | ⟨_, _, _, _, rfl, -, rfl, -⟩ | ⟨_, _, _, rfl, -, rfl, -⟩ |
    ⟨cursor, hseek, hnext⟩
  · simp only [written?, htarget, List.getElem?_modify]
    by_cases heq : target = number
    · simp [heq]
    · simp [heq]
  · simp [written?]
  · simp [written?]
  · simp [written?, place]
  · simp [written?, place]
  · rw [written?_of_seek? hseek]
    rcases hnext with rfl | ⟨moved, rfl⟩
    · simp
    · simp [place]

lemma cursors_place (rack : Rack) (cursor c : Nat) (moved : Cursor) :
    (rack.place cursor moved).cursors[c]? =
      (rack.cursors[c]?).map fun (number, at_) => (number, if cursor = c then moved else at_) := by
  rw [place, List.getElem?_modify]
  by_cases heq : cursor = c
  · simp [heq]
  · simp [heq]

lemma cursors_place_self {at_ : Cursor} (hcursor : rack.cursors[c]? = some (number, at_))
    (moved : Cursor) : (rack.place c moved).cursors[c]? = some (number, moved) := by
  rw [cursors_place, hcursor]
  simp

/-- The cursor that an action moves to another place. -/
lemma cursor_of_place {cursor : Nat} {device : Device} {at_ there moved : Cursor}
    (hthere : rack.cursor? cursor = some (device, there)) (hle : there.position ≤ moved.position)
    (hcursor : rack.cursors[c]? = some (number, at_)) :
    ∃ after, (rack.place cursor moved).cursors[c]? = some (number, after) ∧
      at_.position ≤ after.position ∧ (cursor ≠ c → after = at_) := by
  refine ⟨if cursor = c then moved else at_, ?_, ?_, fun hne => if_neg hne⟩
  · rw [cursors_place, hcursor]
    rfl
  · by_cases heq : cursor = c
    · subst heq
      obtain ⟨target, htarget, -⟩ := cursor?_eq_some hthere
      rw [hcursor] at htarget
      cases htarget
      rw [if_pos rfl]
      exact hle
    · rw [if_neg heq]

/-- A cursor stays on its device.  Unless it is sought with, it does not go back, and unless it is
read with either, it does not move at all. -/
lemma cursor_of_step (h : rack.step action = some (next, answer)) (hseek : action.seek? ≠ some c)
    {at_ : Cursor} (hcursor : rack.cursors[c]? = some (number, at_)) :
    ∃ moved, next.cursors[c]? = some (number, moved) ∧ at_.position ≤ moved.position ∧
      (action.read? ≠ some c → moved = at_) := by
  have hstays : at_.position ≤ at_.position ∧ (action.read? ≠ some c → at_ = at_) :=
    ⟨Nat.le_refl _, fun _ => rfl⟩
  rcases step_cases h with ⟨_, _, _, rfl, -, rfl⟩ | ⟨_, _, rfl, -, rfl⟩ | ⟨_, _, rfl, -, rfl⟩ |
    ⟨cursor, room, device, there, rfl, hthere, rfl, -⟩ | ⟨cursor, device, there, rfl, hthere, rfl, -⟩ |
    ⟨cursor, hsought, hnext⟩
  · exact ⟨at_, hcursor, hstays⟩
  · exact ⟨at_, hcursor, hstays⟩
  · refine ⟨at_, ?_, hstays⟩
    have hlt := (List.getElem?_eq_some_iff.1 hcursor).1
    rw [List.getElem?_append_left hlt, hcursor]
  · have hread : there.position ≤ (there.read device room).2.position := by
      rw [Cursor.position_read]
      exact Nat.le_add_right _ _
    obtain ⟨after, hafter, hle, hstill⟩ := cursor_of_place hthere hread hcursor
    exact ⟨after, hafter, hle, fun hne => hstill fun heq => hne (congrArg some heq)⟩
  · obtain ⟨after, hafter, hle, hstill⟩ := cursor_of_place hthere (Nat.le_add_right _ _) hcursor
    exact ⟨after, hafter, hle, fun hne => hstill fun heq => hne (congrArg some heq)⟩
  · -- a seek, but with another cursor
    have hne : cursor ≠ c := fun heq => hseek (heq ▸ hsought)
    rcases hnext with rfl | ⟨moved, rfl⟩
    · exact ⟨at_, hcursor, hstays⟩
    · refine ⟨at_, ?_, hstays⟩
      rw [cursors_place, hcursor]
      simp [hne]

/-- Every reference leads to a device that is there, and every cursor is open on one. -/
structure Linked (rack : Rack) : Prop where
  reference_lt : ∀ number ∈ rack.references, number < rack.devices.length
  cursor_lt : ∀ open_ ∈ rack.cursors, open_.1 < rack.devices.length

lemma Linked.place (h : rack.Linked) (cursor : Nat) (moved : Cursor) :
    (rack.place cursor moved).Linked where
  reference_lt := h.reference_lt
  cursor_lt := by
    intro open_ hopen
    obtain ⟨i, hi⟩ := List.mem_iff_getElem?.1 hopen
    rw [cursors_place] at hi
    obtain ⟨⟨number, at_⟩, hthere, rfl⟩ := Option.map_eq_some_iff.1 hi
    exact h.cursor_lt (number, at_) (List.mem_of_getElem? hthere)

lemma Linked.step (hrack : rack.Linked) (h : rack.step action = some (next, answer)) :
    next.Linked := by
  rcases step_cases h with ⟨_, _, _, -, -, rfl⟩ | ⟨_, number, -, hnumber, rfl⟩ |
    ⟨_, number, -, hnumber, rfl⟩ | ⟨_, _, _, _, -, -, rfl, -⟩ | ⟨_, _, _, -, -, rfl, -⟩ |
    ⟨_, -, rfl | ⟨_, rfl⟩⟩
  · exact ⟨by simpa using hrack.reference_lt, by simpa using hrack.cursor_lt⟩
  · refine ⟨?_, hrack.cursor_lt⟩
    intro other hother
    rcases List.mem_append.1 hother with hother | hother
    · exact hrack.reference_lt other hother
    · rw [List.mem_singleton.1 hother]
      exact hrack.reference_lt number (List.mem_of_getElem? hnumber)
  · refine ⟨hrack.reference_lt, ?_⟩
    intro open_ hopen
    rcases List.mem_append.1 hopen with hopen | hopen
    · exact hrack.cursor_lt open_ hopen
    · rw [List.mem_singleton.1 hopen]
      exact hrack.reference_lt number (List.mem_of_getElem? hnumber)
  · exact hrack.place _ _
  · exact hrack.place _ _
  · exact hrack
  · exact hrack.place _ _

/-! ## What a history changes -/

lemma stepAll_nil {answers : List Answer} (h : rack.stepAll [] = some (next, answers)) :
    next = rack ∧ answers = [] := by
  obtain ⟨hnext, hanswers⟩ := Prod.mk.inj (Option.some.inj h)
  exact ⟨hnext.symm, hanswers.symm⟩

lemma stepAll_cons {others : List Action} {answers : List Answer}
    (h : rack.stepAll (action :: others) = some (next, answers)) :
    ∃ middle answer rest, rack.step action = some (middle, answer) ∧
      middle.stepAll others = some (next, rest) ∧ answers = answer :: rest := by
  simp only [stepAll, Option.bind_eq_bind, Option.bind_eq_some_iff] at h
  obtain ⟨⟨middle, answer⟩, hstep, ⟨last, rest⟩, hrest, h⟩ := h
  simp only [Option.pure_def, Option.some.injEq, Prod.mk.injEq] at h
  obtain ⟨rfl, rfl⟩ := h
  exact ⟨middle, answer, rest, hstep, hrest, rfl⟩

lemma stepAll_append {actions others : List Action} {answers : List Answer}
    (h : rack.stepAll (actions ++ others) = some (next, answers)) :
    ∃ middle first rest, rack.stepAll actions = some (middle, first) ∧
      middle.stepAll others = some (next, rest) ∧ answers = first ++ rest := by
  induction actions generalizing rack answers with
  | nil => exact ⟨rack, [], answers, rfl, h, rfl⟩
  | cons action actions ih =>
    obtain ⟨after, answer, later, hstep, hlater, rfl⟩ := stepAll_cons h
    obtain ⟨middle, first, rest, hfirst, hrest, rfl⟩ := ih hlater
    refine ⟨middle, answer :: first, rest, ?_, hrest, rfl⟩
    rw [stepAll, hstep]
    simp [hfirst]

lemma recordAll_append {actions : List Action} {answers : List Answer}
    (h : rack.stepAll actions = some (next, answers)) (chronicle : Chronicle)
    (others : List Action) :
    rack.recordAll number chronicle (actions ++ others) =
      next.recordAll number (rack.recordAll number chronicle actions) others := by
  induction actions generalizing rack answers chronicle with
  | nil =>
    obtain ⟨rfl, -⟩ := stepAll_nil h
    rfl
  | cons action actions ih =>
    obtain ⟨after, answer, rest, hstep, hrest, -⟩ := stepAll_cons h
    simp only [List.cons_append, recordAll, hstep]
    exact ih hrest _

/-- The device, if it is there, follows the chronicle. -/
def DeviceFollows (rack : Rack) (number : Nat) (chronicle : Chronicle) : Prop :=
  ∀ device, rack.devices[number]? = some device → device.Follows chronicle

lemma DeviceFollows.step {chronicle : Chronicle} (hrack : rack.DeviceFollows number chronicle)
    (h : rack.step action = some (next, answer)) :
    next.DeviceFollows number (rack.record number chronicle action) := by
  intro device hdevice
  rw [device_of_step h number] at hdevice
  obtain ⟨before, hbefore, rfl⟩ := Option.map_eq_some_iff.1 hdevice
  have hfollows := hrack before hbefore
  rw [record, hbefore]
  cases rack.written? number action with
  | none => exact hfollows
  | some data => exact hfollows.write data

lemma DeviceFollows.stepAll {chronicle : Chronicle} {actions : List Action} {answers : List Answer}
    (hrack : rack.DeviceFollows number chronicle)
    (h : rack.stepAll actions = some (next, answers)) :
    next.DeviceFollows number (rack.recordAll number chronicle actions) := by
  induction actions generalizing rack answers chronicle with
  | nil =>
    obtain ⟨rfl, -⟩ := stepAll_nil h
    exact hrack
  | cons action actions ih =>
    obtain ⟨after, answer, rest, hstep, hrest, -⟩ := stepAll_cons h
    simp only [recordAll, hstep]
    exact ih (hrack.step hstep) hrest

lemma recordAll_grows (rack : Rack) (number : Nat) (chronicle : Chronicle) (actions : List Action) :
    chronicle.added <+: (rack.recordAll number chronicle actions).added ∧
      chronicle.gone ≤ (rack.recordAll number chronicle actions).gone := by
  induction actions generalizing rack chronicle with
  | nil => exact ⟨List.prefix_rfl, Nat.le_refl _⟩
  | cons action actions ih =>
    have hrecord : chronicle.added <+: (rack.record number chronicle action).added ∧
        chronicle.gone ≤ (rack.record number chronicle action).gone := by
      unfold record
      split
      · exact Device.record_grows _ chronicle _
      · exact ⟨List.prefix_rfl, Nat.le_refl _⟩
    rw [recordAll]
    split
    · next after answer _ =>
      obtain ⟨hadded, hgone⟩ := ih after (rack.record number chronicle action)
      exact ⟨hrecord.1.trans hadded, hrecord.2.trans hgone⟩
    · exact ⟨List.prefix_rfl, Nat.le_refl _⟩

lemma Linked.stepAll {actions : List Action} {answers : List Answer} (hrack : rack.Linked)
    (h : rack.stepAll actions = some (next, answers)) : next.Linked := by
  induction actions generalizing rack answers with
  | nil =>
    obtain ⟨rfl, -⟩ := stepAll_nil h
    exact hrack
  | cons action actions ih =>
    obtain ⟨after, answer, rest, hstep, hrest, -⟩ := stepAll_cons h
    exact ih (hrack.step hstep) hrest

lemma cursor_of_stepAll {actions : List Action} {answers : List Answer}
    (h : rack.stepAll actions = some (next, answers))
    (hseek : ∀ action ∈ actions, action.seek? ≠ some c) {at_ : Cursor}
    (hcursor : rack.cursors[c]? = some (number, at_)) :
    ∃ moved, next.cursors[c]? = some (number, moved) ∧ at_.position ≤ moved.position ∧
      ((∀ action ∈ actions, action.read? ≠ some c) → moved = at_) := by
  induction actions generalizing rack answers at_ with
  | nil =>
    obtain ⟨rfl, -⟩ := stepAll_nil h
    exact ⟨at_, hcursor, Nat.le_refl _, fun _ => rfl⟩
  | cons action actions ih =>
    obtain ⟨after, answer, rest, hstep, hrest, -⟩ := stepAll_cons h
    obtain ⟨there, hthere, hle, hstill⟩ :=
      cursor_of_step hstep (hseek action List.mem_cons_self) hcursor
    obtain ⟨moved, hmoved, hle', hstill'⟩ :=
      ih hrest (fun other ho => hseek other (List.mem_cons_of_mem _ ho)) hthere
    refine ⟨moved, hmoved, hle.trans hle', ?_⟩
    intro hread
    rw [hstill' fun other ho => hread other (List.mem_cons_of_mem _ ho),
      hstill (hread action List.mem_cons_self)]

/-! ## From new devices on -/

lemma devices_of_ofCapacities {capacities : List Nat} {devices : List Device}
    (h : capacities.mapM Device.ofCapacity = .ok devices) :
    devices = capacities.map Device.empty ∧ ∀ capacity ∈ capacities, 0 < capacity := by
  induction capacities generalizing devices with
  | nil =>
    simp only [List.mapM_nil, pure, Except.pure, Except.ok.injEq] at h
    subst h
    exact ⟨rfl, fun _ hmem => absurd hmem List.not_mem_nil⟩
  | cons capacity others ih =>
    rw [List.mapM_cons] at h
    cases hfirst : Device.ofCapacity capacity with
    | error failure => simp [hfirst, bind, Except.bind] at h
    | ok device =>
      cases hothers : others.mapM Device.ofCapacity with
      | error failure => simp [hfirst, hothers, bind, Except.bind] at h
      | ok rest =>
        simp only [hfirst, hothers, bind, Except.bind, pure, Except.pure, Except.ok.injEq] at h
        obtain ⟨hpos, hdevice⟩ := Device.ofCapacity_eq_ok hfirst
        obtain ⟨hrest, hall⟩ := ih hothers
        subst h
        rw [hdevice, hrest]
        exact ⟨rfl, List.forall_mem_cons.2 ⟨hpos, hall⟩⟩

/-- A new rack holds an empty device for each capacity, which is positive, and nothing else is in
use. -/
lemma ofCapacities_eq_ok {capacities : List Nat} {fresh : Rack}
    (h : ofCapacities capacities = .ok fresh) :
    fresh = ⟨capacities.map Device.empty, List.range capacities.length, []⟩ ∧
      ∀ capacity ∈ capacities, 0 < capacity := by
  unfold ofCapacities at h
  cases hdevices : capacities.mapM Device.ofCapacity with
  | error failure => simp [hdevices, bind, Except.bind] at h
  | ok devices =>
    simp only [hdevices, bind, Except.bind, pure, Except.pure, Except.ok.injEq] at h
    obtain ⟨rfl, hpos⟩ := devices_of_ofCapacities hdevices
    rw [List.length_map] at h
    exact ⟨h.symm, hpos⟩

lemma linked_of_ofCapacities {capacities : List Nat} {fresh : Rack}
    (h : ofCapacities capacities = .ok fresh) : fresh.Linked := by
  obtain ⟨rfl, -⟩ := ofCapacities_eq_ok h
  constructor
  · intro number hnumber
    rw [List.length_map]
    exact List.mem_range.1 hnumber
  · intro open_ hopen
    exact absurd hopen List.not_mem_nil

lemma deviceFollows_of_ofCapacities {capacities : List Nat} {fresh : Rack}
    (h : ofCapacities capacities = .ok fresh) (number : Nat) :
    fresh.DeviceFollows number Chronicle.empty := by
  obtain ⟨rfl, hpos⟩ := ofCapacities_eq_ok h
  intro device hdevice
  obtain ⟨capacity, hmem, rfl⟩ := List.mem_map.1 (List.mem_of_getElem? hdevice)
  exact Device.follows_empty (hpos capacity hmem)

/-- In every history that begins with new devices, each device follows its chronicle. -/
lemma follows_of_history {capacities : List Nat} {fresh : Rack} {actions : List Action}
    {answers : List Answer} (hfresh : ofCapacities capacities = .ok fresh)
    (h : fresh.stepAll actions = some (rack, answers)) {device : Device}
    (hdevice : rack.devices[number]? = some device) :
    device.Follows (fresh.recordAll number Chronicle.empty actions) :=
  (deviceFollows_of_ofCapacities hfresh number).stepAll h device hdevice

end Rack

end CommandLog
