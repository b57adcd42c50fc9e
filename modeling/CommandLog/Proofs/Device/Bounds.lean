import CommandLog.Proofs.Device.Words
import CommandLog.Proofs.Device.Written
import CommandLog.Proofs.Ring.Address

/-!
# Where a cursor can stand

A seek goes to the place that is meant, over the unbounded integers, if the device has it or ends there,
and is refused otherwise (`Rack.GoesWhereMeant`).  Reads and both kinds of seek leave the cursor within
the stored bytes or where it was: `position_of_step` says so of one action, and by induction on the
history a bound for all sizes that the device has had is one for all positions
(`CursorsWithin.stepAll`).

From this the two consequences follow.  As long as the device never gets smaller (`Rack.sizesOf` lists
its sizes) no position is behind the end.  And as long as the sizes are machine words, so are the
positions, and the seek in words is the same (`Cursor.seek_eq_wordSeek`).  The main statement
`seek_goes_where_meant` puts them together, and says what it takes to leave a cursor behind the end.
-/

namespace CommandLog

/-! ## Single moves of a cursor -/

namespace Cursor

variable {device : Device} {cursor moved : Cursor}

lemma position_readToEnd (device : Device) (cursor : Cursor) :
    (cursor.readToEnd device).2.position = max cursor.position device.contents.length := by
  simp only [readToEnd, List.length_drop]
  omega

/-- A read does not go beyond what a reading to the end goes to. -/
lemma position_read_le (device : Device) (room : Nat) (cursor : Cursor) :
    (cursor.read device room).2.position ≤ max cursor.position device.contents.length := by
  have hall := congrArg (fun all => all.2.position) (readToEnd_of_read device room cursor)
  simp only [position_readToEnd] at hall
  omega

/-- A seek is accepted exactly for the places from the beginning of the bytes to their end. -/
lemma seek_of_le {whence : Whence} (h0 : 0 ≤ whence.target cursor.position device.size)
    (hsize : whence.target cursor.position device.size ≤ device.size) :
    cursor.seek device whence = .ok ⟨(whence.target cursor.position device.size).toNat⟩ :=
  if_pos ⟨h0, hsize⟩

lemma seek_of_not_le {whence : Whence}
    (h : ¬ (0 ≤ whence.target cursor.position device.size ∧
      whence.target cursor.position device.size ≤ device.size)) :
    cursor.seek device whence =
      .error (.seekOutside (whence.target cursor.position device.size) device.size) :=
  if_neg h

lemma position_le_of_seek {whence : Whence} (h : cursor.seek device whence = .ok moved) :
    moved.position ≤ device.size := by
  rw [seek] at h
  split at h
  · next hrange =>
    obtain rfl := Except.ok.inj h
    exact Int.toNat_le.2 hrange.2
  · cases h

lemma position_le_of_seekTo {i k : UInt32} (hring : device.log.WellFormed)
    (h : seekTo device i k = .ok moved) : moved.position ≤ device.size := by
  rw [seekTo] at h
  cases hplace : device.log.positionOf i k with
  | error failure =>
    rw [hplace] at h
    cases h
  | ok position =>
    rw [hplace] at h
    obtain rfl := Except.ok.inj h
    exact (hring.found_at_positionOf hplace).1.le

end Cursor

/-- A write makes the device larger by what it adds to the log, and smaller by what it overwrites. -/
lemma Device.size_write {device : Device} (hring : device.log.WellFormed) (data : Bytes) :
    (device.write data).size +
        Command.totalLength (device.log.overwrittenBy (device.completedBy data)) =
      device.size + Command.totalLength (device.completedBy data) := by
  rw [size, log_write]
  exact hring.size_pushAll (device.completedBy data)

namespace Rack

variable {rack next fresh : Rack} {action : Action} {answer : Answer} {history : List Action}
  {answers : List Answer} {number c bound : Nat} {device : Device} {at_ moved : Cursor}

/-! ## The rings of all devices -/

/-- All devices have well-formed rings. -/
def Sound (rack : Rack) : Prop :=
  ∀ (number : Nat) (device : Device), rack.devices[number]? = some device → device.log.WellFormed

lemma Sound.step (hrack : rack.Sound) (h : rack.step action = some (next, answer)) : next.Sound := by
  intro number device hdevice
  rw [device_of_step h number] at hdevice
  obtain ⟨before, hbefore, rfl⟩ := Option.map_eq_some_iff.1 hdevice
  have hring := hrack number before hbefore
  cases rack.written? number action with
  | none => exact hring
  | some data => exact hring.pushAll (before.completedBy data)

lemma Sound.stepAll (hrack : rack.Sound) (h : rack.stepAll history = some (next, answers)) :
    next.Sound := by
  induction history generalizing rack answers with
  | nil =>
    obtain ⟨rfl, -⟩ := stepAll_nil h
    exact hrack
  | cons action history ih =>
    obtain ⟨middle, answer, rest, hstep, hrest, -⟩ := stepAll_cons h
    exact ih (hrack.step hstep) hrest

lemma sound_of_ofCapacities {capacities : List Nat} (hfresh : ofCapacities capacities = .ok fresh) :
    fresh.Sound :=
  fun number _ hdevice => (deviceFollows_of_ofCapacities hfresh number _ hdevice).wellFormed

/-! ## How many bytes a device keeps -/

/-- How many bytes the device keeps; none if it is not there. -/
def sizeAt (rack : Rack) (number : Nat) : Nat := (rack.devices[number]?).elim 0 Device.size

/-- How many bytes the device keeps, before a history and after each of its actions. -/
def sizesOf (rack : Rack) (number : Nat) : List Action → List Nat
  | [] => [rack.sizeAt number]
  | action :: others =>
    rack.sizeAt number ::
      match rack.step action with
      | some (next, _) => next.sizesOf number others
      | none => []

lemma sizeAt_eq (hdevice : rack.devices[number]? = some device) :
    rack.sizeAt number = device.size := by
  rw [sizeAt, hdevice, Option.elim_some]

lemma sizesOf_eq_cons (rack : Rack) (number : Nat) (history : List Action) :
    ∃ others, rack.sizesOf number history = rack.sizeAt number :: others := by
  cases history with
  | nil => exact ⟨[], rfl⟩
  | cons action others => exact ⟨_, rfl⟩

lemma sizesOf_cons (hstep : rack.step action = some (next, answer)) (history : List Action) :
    rack.sizesOf number (action :: history) =
      rack.sizeAt number :: next.sizesOf number history := by
  rw [sizesOf, hstep]

/-- The last size is the one at the end. -/
lemma sizeAt_mem_sizesOf (h : rack.stepAll history = some (next, answers)) :
    next.sizeAt number ∈ rack.sizesOf number history := by
  induction history generalizing rack answers with
  | nil =>
    obtain ⟨rfl, -⟩ := stepAll_nil h
    exact List.mem_singleton_self _
  | cons action history ih =>
    obtain ⟨middle, answer, rest, hstep, hrest, -⟩ := stepAll_cons h
    rw [sizesOf_cons hstep]
    exact List.mem_cons_of_mem _ (ih hrest)

/-- A device that never gets smaller is largest at the end. -/
lemma le_sizeAt_of_isChain (h : rack.stepAll history = some (next, answers))
    (hgrows : (rack.sizesOf number history).IsChain (· ≤ ·)) :
    ∀ size ∈ rack.sizesOf number history, size ≤ next.sizeAt number := by
  induction history generalizing rack answers with
  | nil =>
    obtain ⟨rfl, -⟩ := stepAll_nil h
    intro size hmem
    exact (List.mem_singleton.1 hmem).le
  | cons action history ih =>
    obtain ⟨middle, answer, rest, hstep, hrest, -⟩ := stepAll_cons h
    obtain ⟨others, hothers⟩ := middle.sizesOf_eq_cons number history
    rw [sizesOf_cons hstep, hothers, List.isChain_cons_cons, ← hothers] at hgrows
    have hlater := ih hrest hgrows.2
    rw [sizesOf_cons hstep]
    refine List.forall_mem_cons.2 ⟨hgrows.1.trans (hlater _ ?_), hlater⟩
    rw [hothers]
    exact List.mem_cons_self

/-! ## What one action does to a position -/

/-- A seek that is accepted puts its cursor somewhere within the stored bytes or at their end. -/
lemma place_of_seek {cursor : Nat} (hsound : rack.Sound)
    (h : rack.step action = some (next, answer)) (hseek : action.seek? = some cursor) :
    next = rack ∨ ∃ device there moved, rack.cursor? cursor = some (device, there) ∧
      next = rack.place cursor moved ∧ moved.position ≤ device.size := by
  cases action with
  | seek cursor whence =>
    obtain rfl := Option.some.inj hseek
    simp only [step, Option.bind_eq_bind, Option.bind_eq_some_iff] at h
    obtain ⟨⟨device, there⟩, hthere, h⟩ := h
    split at h <;> simp only [Option.pure_def, Option.some.injEq, Prod.mk.injEq] at h
    · next moved hmoved =>
      exact .inr ⟨device, there, moved, hthere, h.1.symm, Cursor.position_le_of_seek hmoved⟩
    · exact .inl h.1.symm
  | seekTo cursor i k =>
    obtain rfl := Option.some.inj hseek
    simp only [step, Option.bind_eq_bind, Option.bind_eq_some_iff] at h
    obtain ⟨⟨device, there⟩, hthere, h⟩ := h
    split at h <;> simp only [Option.pure_def, Option.some.injEq, Prod.mk.injEq] at h
    · next moved hmoved =>
      obtain ⟨number, -, hdevice⟩ := cursor?_eq_some hthere
      exact .inr ⟨device, there, moved, hthere, h.1.symm,
        Cursor.position_le_of_seekTo (hsound number device hdevice) hmoved⟩
    · exact .inl h.1.symm
  | _ => cases hseek

/-- Of a cursor that is found after another was put somewhere: it was there before, and it stands where
it stood, unless it is the one that was moved. -/
lemma cursor_of_placed {cursor : Nat} {there after : Cursor}
    (hthere : rack.cursor? cursor = some (device, there))
    (hle : after.position ≤ max there.position device.size)
    (hcursor : (rack.place cursor after).cursors[c]? = some (number, moved)) :
    ∃ at_, rack.cursors[c]? = some (number, at_) ∧
      moved.position ≤ max at_.position (rack.sizeAt number) := by
  rw [cursors_place] at hcursor
  obtain ⟨⟨number', at_⟩, hbefore, heq⟩ := Option.map_eq_some_iff.1 hcursor
  obtain ⟨rfl, rfl⟩ := Prod.mk.inj heq
  refine ⟨at_, hbefore, ?_⟩
  by_cases hsame : cursor = c
  · subst hsame
    obtain ⟨number, hfound, hdevice⟩ := cursor?_eq_some hthere
    rw [hbefore] at hfound
    obtain ⟨rfl, rfl⟩ := Prod.mk.inj (Option.some.inj hfound)
    rwa [if_pos rfl, sizeAt_eq hdevice]
  · rw [if_neg hsame]
    exact Nat.le_max_left _ _

/-- Whatever is done, a cursor is a new one at the beginning, or it stands where it stood, or it was moved
and is no further than the end or where it stood.  Who writes moves no cursor. -/
lemma position_of_step (hsound : rack.Sound) (h : rack.step action = some (next, answer))
    (hcursor : next.cursors[c]? = some (number, moved)) :
    moved = .start ∨ ∃ at_, rack.cursors[c]? = some (number, at_) ∧
      (moved = at_ ∨ rack.written? number action = none ∧
        moved.position ≤ max at_.position (rack.sizeAt number)) := by
  have hlength : ∀ {number : Nat} {device : Device}, rack.devices[number]? = some device →
      device.contents.length = device.size :=
    fun hdevice => (hsound _ _ hdevice).length_contents
  rcases step_cases h with ⟨_, _, _, rfl, -, rfl⟩ | ⟨_, _, rfl, -, rfl⟩ | ⟨_, _, rfl, -, rfl⟩ |
    ⟨cursor, room, device, there, rfl, hthere, rfl, -⟩ | ⟨cursor, device, there, rfl, hthere, rfl, -⟩ |
    ⟨cursor, hseek, -⟩
  · exact .inr ⟨moved, hcursor, .inl rfl⟩
  · exact .inr ⟨moved, hcursor, .inl rfl⟩
  · -- the cursors are those of before and a new one behind them
    rw [List.getElem?_append] at hcursor
    split at hcursor
    · exact .inr ⟨moved, hcursor, .inl rfl⟩
    · obtain ⟨-, hnew⟩ := Prod.mk.inj (List.mem_singleton.1 (List.mem_of_getElem? hcursor))
      exact .inl hnew
  · obtain ⟨_, -, hdevice⟩ := cursor?_eq_some hthere
    have hle := there.position_read_le device room
    rw [hlength hdevice] at hle
    obtain ⟨at_, hbefore, hmoved⟩ := cursor_of_placed hthere hle hcursor
    exact .inr ⟨at_, hbefore, .inr ⟨rfl, hmoved⟩⟩
  · obtain ⟨_, -, hdevice⟩ := cursor?_eq_some hthere
    have hle := (there.position_readToEnd device).le
    rw [hlength hdevice] at hle
    obtain ⟨at_, hbefore, hmoved⟩ := cursor_of_placed hthere hle hcursor
    exact .inr ⟨at_, hbefore, .inr ⟨rfl, hmoved⟩⟩
  · rcases place_of_seek hsound h hseek with rfl | ⟨device, there, after, hthere, rfl, hle⟩
    · exact .inr ⟨moved, hcursor, .inl rfl⟩
    · obtain ⟨at_, hbefore, hmoved⟩ :=
        cursor_of_placed hthere (hle.trans (Nat.le_max_right _ _)) hcursor
      exact .inr ⟨at_, hbefore, .inr ⟨written?_of_seek? hseek, hmoved⟩⟩

/-! ## A bound for all positions -/

/-- No cursor on the device stands further than the bound. -/
def CursorsWithin (rack : Rack) (number bound : Nat) : Prop :=
  ∀ (c : Nat) (at_ : Cursor), rack.cursors[c]? = some (number, at_) → at_.position ≤ bound

lemma CursorsWithin.step (hrack : rack.CursorsWithin number bound) (hsound : rack.Sound)
    (hsize : rack.sizeAt number ≤ bound) (h : rack.step action = some (next, answer)) :
    next.CursorsWithin number bound := by
  intro c moved hcursor
  rcases position_of_step hsound h hcursor with rfl | ⟨at_, hbefore, rfl | ⟨-, hle⟩⟩
  · exact Nat.zero_le bound
  · exact hrack c moved hbefore
  · exact hle.trans (max_le (hrack c at_ hbefore) hsize)

/-- What bounds all sizes that the device has had bounds the positions of its cursors. -/
lemma CursorsWithin.stepAll (hrack : rack.CursorsWithin number bound) (hsound : rack.Sound)
    (hsizes : ∀ size ∈ rack.sizesOf number history, size ≤ bound)
    (h : rack.stepAll history = some (next, answers)) : next.CursorsWithin number bound := by
  induction history generalizing rack answers with
  | nil =>
    obtain ⟨rfl, -⟩ := stepAll_nil h
    exact hrack
  | cons action history ih =>
    obtain ⟨middle, answer, rest, hstep, hrest, -⟩ := stepAll_cons h
    rw [sizesOf_cons hstep, List.forall_mem_cons] at hsizes
    exact ih (hrack.step hsound hsizes.1 hstep) (hsound.step hstep) hsizes.2 hrest

lemma cursorsWithin_of_ofCapacities {capacities : List Nat}
    (hfresh : ofCapacities capacities = .ok fresh) (number bound : Nat) :
    fresh.CursorsWithin number bound := by
  obtain ⟨rfl, -⟩ := ofCapacities_eq_ok hfresh
  intro c at_ hcursor
  cases hcursor

/-! ## What it takes to leave a cursor behind the end -/

/-- A cursor that is behind the end after an action was there before, or the action overwrites more bytes
of its device than it adds. -/
lemma behind_end_of_step (hsound : rack.Sound) (h : rack.step action = some (next, answer))
    (hcursor : next.cursors[c]? = some (number, moved)) {after : Device}
    (hafter : next.devices[number]? = some after) (hbehind : after.size < moved.position) :
    ∃ at_ device, rack.cursors[c]? = some (number, at_) ∧ rack.devices[number]? = some device ∧
      (device.size < at_.position ∨
        ∃ data, rack.written? number action = some data ∧ moved = at_ ∧
          Command.totalLength (device.completedBy data) <
            Command.totalLength (device.log.overwrittenBy (device.completedBy data))) := by
  rw [device_of_step h number] at hafter
  obtain ⟨device, hdevice, rfl⟩ := Option.map_eq_some_iff.1 hafter
  rcases position_of_step hsound h hcursor with rfl | ⟨at_, hbefore, hmoved⟩
  · exact absurd hbehind (Nat.not_lt_zero _)
  refine ⟨at_, device, hbefore, hdevice, ?_⟩
  cases hwritten : rack.written? number action with
  | none =>
    left
    rw [hwritten, Option.elim_none] at hbehind
    rcases hmoved with rfl | ⟨-, hle⟩
    · exact hbehind
    · rw [sizeAt_eq hdevice] at hle
      omega
  | some data =>
    rw [hwritten, Option.elim_some] at hbehind
    obtain rfl : moved = at_ := by
      rcases hmoved with hstill | ⟨hnone, -⟩
      · exact hstill
      · rw [hwritten] at hnone
        cases hnone
    have hsize := Device.size_write (hsound number device hdevice) data
    by_cases hbefore : device.size < moved.position
    · exact .inl hbefore
    · exact .inr ⟨data, rfl, rfl, by omega⟩

/-! ## A seek -/

/-- A seek with the cursor goes to the place that is meant if the device has it or ends there; it moves
this cursor and does nothing else.  Otherwise it is refused, and does nothing at all. -/
structure GoesWhereMeant (rack : Rack) (c number : Nat) (at_ : Cursor) (device : Device)
    (whence : Whence) : Prop where
  accepted : 0 ≤ whence.target at_.position device.size →
    whence.target at_.position device.size ≤ device.size →
      ∃ (next : Rack) (place : Nat), rack.step (.seek c whence) = some (next, .position place) ∧
        (place : Int) = whence.target at_.position device.size ∧
        next.cursors[c]? = some (number, ⟨place⟩) ∧
        (∀ other, other ≠ c → next.cursors[other]? = rack.cursors[other]?) ∧
        next.devices = rack.devices ∧ next.references = rack.references
  refused : ¬ (0 ≤ whence.target at_.position device.size ∧
      whence.target at_.position device.size ≤ device.size) →
    ∃ fault, rack.step (.seek c whence) = some (rack, .fault fault) ∧ fault.kind = "InvalidInput"

lemma step_seek (hcursor : rack.cursors[c]? = some (number, at_))
    (hdevice : rack.devices[number]? = some device) (whence : Whence) :
    rack.step (.seek c whence) =
      match at_.seek device whence with
      | .ok moved => some (rack.place c moved, .position moved.position)
      | .error fault => some (rack, .fault fault) := by
  cases hmoved : at_.seek device whence with
  | ok moved => simp [step, cursor?, hcursor, hdevice, hmoved]
  | error fault => simp [step, cursor?, hcursor, hdevice, hmoved]

lemma goesWhereMeant (hcursor : rack.cursors[c]? = some (number, at_))
    (hdevice : rack.devices[number]? = some device) (whence : Whence) :
    rack.GoesWhereMeant c number at_ device whence where
  accepted := by
    intro h0 hsize
    have hstep := step_seek hcursor hdevice whence
    rw [Cursor.seek_of_le h0 hsize] at hstep
    refine ⟨_, _, hstep, Int.toNat_of_nonneg h0, cursors_place_self hcursor _, ?_, rfl, rfl⟩
    intro other hne
    rw [cursors_place]
    simp [hne.symm]
  refused := by
    intro hrange
    have hstep := step_seek hcursor hdevice whence
    rw [Cursor.seek_of_not_le hrange] at hstep
    exact ⟨_, hstep, rfl⟩

/-- Where a cursor is put where it stands, nothing changes. -/
lemma place_self (hcursor : rack.cursors[c]? = some (number, at_)) : rack.place c at_ = rack := by
  have hsame : (rack.place c at_).cursors = rack.cursors := by
    apply List.ext_getElem?
    intro i
    by_cases hi : c = i
    · rw [← hi, cursors_place_self hcursor, hcursor]
    · rw [cursors_place]
      simp [hi]
  calc rack.place c at_ = { rack with cursors := (rack.place c at_).cursors } := rfl
    _ = rack := by rw [hsame]

lemma step_seek_here (hcursor : rack.cursors[c]? = some (number, at_))
    (hdevice : rack.devices[number]? = some device) (hle : at_.position ≤ device.size) :
    rack.step (.seek c (.current 0)) = some (rack, .position at_.position) := by
  have htarget : (Whence.current 0).target at_.position device.size = at_.position := by
    simp [Whence.target]
  rw [step_seek hcursor hdevice, Cursor.seek_of_le (by omega) (by omega)]
  simp only [htarget, Int.toNat_natCast]
  rw [place_self hcursor]

/-- Whatever was done with devices before, a seek goes to the place that is meant over the unbounded
integers, or is refused and changes nothing.  As long as the sizes of the device have been machine words,
position and size are words and the seek in words is the same.  As long as the device has never become
smaller, the cursor is not behind its end, and a seek to where it stands is accepted.

And a cursor comes to stand behind the end only where a write to its device overwrites more bytes than it
adds. -/
theorem seek_goes_where_meant {capacities : List Nat} (hfresh : ofCapacities capacities = .ok fresh)
    (h : fresh.stepAll history = some (rack, answers)) :
    (∀ (c number : Nat) (at_ : Cursor), rack.cursors[c]? = some (number, at_) →
      ∃ device, rack.devices[number]? = some device ∧
        (∀ whence, rack.GoesWhereMeant c number at_ device whence) ∧
        ((∀ size ∈ fresh.sizesOf number history, size < UInt64.size) →
          at_.position < UInt64.size ∧ device.size < UInt64.size ∧
          ∀ whence : Whence, (at_.seek device whence).toOption.map Cursor.position =
            (whence.wordSeek (.ofNat at_.position) (.ofNat device.size)).map UInt64.toNat) ∧
        ((fresh.sizesOf number history).IsChain (· ≤ ·) →
          at_.position ≤ device.size ∧
          rack.step (.seek c (.current 0)) = some (rack, .position at_.position))) ∧
    (∀ (action : Action) (next : Rack) (answer : Answer) (c number : Nat) (moved : Cursor)
      (after : Device), rack.step action = some (next, answer) →
      next.cursors[c]? = some (number, moved) → next.devices[number]? = some after →
      after.size < moved.position →
      ∃ at_ device, rack.cursors[c]? = some (number, at_) ∧ rack.devices[number]? = some device ∧
        (device.size < at_.position ∨
          ∃ data, rack.written? number action = some data ∧ moved = at_ ∧
            Command.totalLength (device.completedBy data) <
              Command.totalLength (device.log.overwrittenBy (device.completedBy data)))) := by
  have hsound := sound_of_ofCapacities hfresh
  refine ⟨?_, ?_⟩
  · intro c number at_ hcursor
    have hlt := ((linked_of_ofCapacities hfresh).stepAll h).cursor_lt _ (List.mem_of_getElem? hcursor)
    have hdevice := List.getElem?_eq_getElem hlt
    have hsize := sizeAt_eq hdevice
    have hwithin {bound : Nat} (hsizes : ∀ size ∈ fresh.sizesOf number history, size ≤ bound) :
        at_.position ≤ bound :=
      (cursorsWithin_of_ofCapacities hfresh number bound).stepAll hsound hsizes h c at_ hcursor
    refine ⟨_, hdevice, goesWhereMeant hcursor hdevice, ?_, ?_⟩
    · intro hwords
      have hposition : at_.position < UInt64.size :=
        Nat.lt_of_le_pred (by decide) (hwithin fun size hmem => Nat.le_pred_of_lt (hwords size hmem))
      have hword := hwords _ (sizeAt_mem_sizesOf h)
      rw [hsize] at hword
      exact ⟨hposition, hword, Cursor.seek_eq_wordSeek hposition hword⟩
    · intro hgrows
      have hle := hwithin (le_sizeAt_of_isChain h hgrows)
      rw [hsize] at hle
      exact ⟨hle, step_seek_here hcursor hdevice hle⟩
  · intro action next answer c number moved after hstep hcursor hafter hbehind
    exact behind_end_of_step (hsound.stepAll h) hstep hcursor hafter hbehind

/-- A cursor at the end of the only command that there is room for.  It can be moved back by all of it,
and it can be moved to where it stands; a shorter command then leaves it behind the end. -/
theorem seek_goes_where_meant_one :
    ∃ fresh rack answers next answer, ofCapacities [1] = .ok fresh ∧
      fresh.stepAll [.write 0 [97, 97, 97, 10], .openCursor 0, .seek 0 (.finish 0)] =
        some (rack, answers) ∧
      rack.cursors[0]? = some (0, ⟨4⟩) ∧
      (∃ moved, rack.step (.seek 0 (.current (-4))) = some (moved, .position 0)) ∧
      (∃ fault, rack.step (.seek 0 (.current 1)) = some (rack, .fault fault) ∧
        fault.kind = "InvalidInput") ∧
      rack.step (.seek 0 (.current 0)) = some (rack, .position 4) ∧
      rack.step (.write 0 [98, 10]) = some (next, answer) ∧
      next.cursors[0]? = some (0, ⟨4⟩) ∧ next.sizeAt 0 = 2 := by
  obtain ⟨fresh, rack, answers, next, answer, hfresh, hrack, hcursor, hdevice, hgrows, hstep, hnext,
      hsize⟩ :
      ∃ fresh rack answers next answer, ofCapacities [1] = .ok fresh ∧
        fresh.stepAll [.write 0 [97, 97, 97, 10], .openCursor 0, .seek 0 (.finish 0)] =
          some (rack, answers) ∧
        rack.cursors[0]? = some (0, ⟨4⟩) ∧ rack.devices[0]?.map Device.size = some 4 ∧
        (fresh.sizesOf 0 [.write 0 [97, 97, 97, 10], .openCursor 0, .seek 0 (.finish 0)]).IsChain
          (· ≤ ·) ∧
        rack.step (.write 0 [98, 10]) = some (next, answer) ∧
        next.cursors[0]? = some (0, ⟨4⟩) ∧ next.sizeAt 0 = 2 :=
    ⟨_, _, _, _, _, rfl, rfl, by decide +kernel, by decide +kernel, by decide +kernel, rfl,
      by decide +kernel, by decide +kernel⟩
  obtain ⟨device, hfound, hgoes, -, hstays⟩ := (seek_goes_where_meant hfresh hrack).1 0 0 _ hcursor
  have hfour : device.size = 4 := by
    rw [hfound, Option.map_some] at hdevice
    exact Option.some.inj hdevice
  have hback := (hgoes (.current (-4))).accepted (by rw [hfour]; decide) (by rw [hfour]; decide)
  have hbeyond := (hgoes (.current 1)).refused (by rw [hfour]; decide)
  obtain ⟨moved, place, hmoved, hplace, -⟩ := hback
  obtain rfl : place = 0 := Int.ofNat.inj hplace
  exact ⟨fresh, rack, answers, next, answer, hfresh, hrack, hcursor, ⟨moved, hmoved⟩, hbeyond,
    (hstays hgrows).2, hstep, hnext, hsize⟩

end Rack

end CommandLog
