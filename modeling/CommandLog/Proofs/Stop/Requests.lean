import CommandLog.Stop.Interleaving
import Mathlib.Tactic.Common

/-!
# No request to stop is lost

A call that triggers a token sets the flag before it takes the lock, and the watcher of the socket
looks at the flag while it holds the lock.  So a call that sets the flag too late for the watcher to
see it takes the lock only after the socket was entered, and shuts it down; every other call that
sets the flag is seen.  That is the invariant `Heard`, and it rests on two others: the clones of a
token share one flag, which is set as soon as a call has reached it (`Flagged`), and whoever is in a
section of the lock holds it (`Guarded`).

`Takes` lists what a step can do; a step keeps each of the three invariants, and so a history does,
`sound_of_stepAll?`.  `no_request_lost` reads the promises of the token off them, and
`exists_shutDown` adds that the socket is shut down without the help of anybody but the call that set
the flag.
-/

namespace CommandLog

namespace Tokens

/-! ## Clones share their flag -/

/-- There is one flag, and it is set or not. -/
structure Shares (tokens : Tokens) (triggered : Bool) : Prop where
  flags_eq : tokens.flags = [triggered]
  flag_eq_zero : ∀ flag ∈ tokens.tokens, flag = 0

variable {tokens next : Tokens} {triggered answer : Bool} {token number : Nat}

lemma shares_make : empty.make.1.Shares false := ⟨rfl, by decide⟩

lemma Shares.isTriggered (h : tokens.Shares triggered) (htoken : token < tokens.tokens.length) :
    tokens.isTriggered token = some triggered := by
  have hflag := h.flag_eq_zero _ (List.getElem_mem htoken)
  simp [Tokens.isTriggered, List.getElem?_eq_getElem htoken, hflag, h.flags_eq]

lemma Shares.eq_of_isTriggered (h : tokens.Shares triggered)
    (hanswer : tokens.isTriggered token = some answer) : answer = triggered := by
  obtain ⟨flag, hflag, -⟩ := Option.bind_eq_some_iff.1 hanswer
  obtain ⟨htoken, -⟩ := List.getElem?_eq_some_iff.1 hflag
  exact Option.some.inj (hanswer.symm.trans (h.isTriggered htoken))

lemma Shares.clone (h : tokens.Shares triggered)
    (hclone : tokens.clone token = some (next, number)) : next.Shares triggered := by
  obtain ⟨flag, hflag, hnext⟩ := Option.bind_eq_some_iff.1 hclone
  cases hnext
  refine ⟨h.flags_eq, fun other hother => ?_⟩
  rcases List.mem_append.1 hother with hold | hnew
  · exact h.flag_eq_zero other hold
  · rw [List.mem_singleton.1 hnew]
    exact h.flag_eq_zero flag (List.mem_of_getElem? hflag)

lemma Shares.trigger (h : tokens.Shares triggered) (htrigger : tokens.trigger token = some next) :
    next.Shares true := by
  obtain ⟨flag, hflag, hnext⟩ := Option.bind_eq_some_iff.1 htrigger
  cases hnext
  have hzero := h.flag_eq_zero flag (List.mem_of_getElem? hflag)
  exact ⟨by simp [h.flags_eq, hzero], h.flag_eq_zero⟩

end Tokens

/-- Is the watcher in its section of the lock? -/
def WatchStage.InSection : WatchStage → Prop
  | .entered | .looked _ => True
  | _ => False

/-- Is the socket entered behind the lock? -/
def WatchStage.Enters : WatchStage → Prop
  | .idle | .gone => False
  | _ => True

namespace StopProtocol

/-! ## What a step can do -/

/-- The steps with the conditions under which they are taken. -/
inductive Takes (state : StopProtocol) : Step → StopProtocol → Prop where
  | clone {token number : Nat} {tokens : Tokens}
    (h : state.tokens.clone token = some (tokens, number)) :
    Takes state (.clone token) { state with tokens }
  | swap {token : Nat} {wasSet : Bool} {tokens : Tokens}
    (hset : state.tokens.isTriggered token = some wasSet)
    (h : state.tokens.trigger token = some tokens) :
    Takes state (.swap token)
      { state with tokens, calls := state.calls ++ [if wasSet then .late else .swapped] }
  | lock {call : Nat} (hcall : state.calls[call]? = some .swapped) (hfree : state.holder = none) :
    Takes state (.lock call)
      { state.setCall call .locked with holder := some (.trigger call) }
  | act {call : Nat} (hcall : state.calls[call]? = some .locked) :
    Takes state (.act call)
      { state.setCall call .returned with
        holder := none, shutDowns := state.shutDowns ++ state.entry.toList }
  | enter (hwatcher : state.watcher = .idle) (hfree : state.holder = none) :
    Takes state .enter
      { state with
        holder := some .watcher, entry := some state.listener, watcher := .entered }
  | look {triggered : Bool} (hwatcher : state.watcher = .entered)
    (h : state.tokens.isTriggered 0 = some triggered) :
    Takes state .look { state with watcher := .looked triggered }
  | settle {triggered : Bool} (hwatcher : state.watcher = .looked triggered) :
    Takes state .settle
      { state with
        holder := none, watcher := .watching
        shutDowns := state.shutDowns ++ if triggered then [state.listener] else [] }
  | leave (hwatcher : state.watcher = .watching) :
    Takes state .leave { state with watcher := .leaving }
  | clear (hwatcher : state.watcher = .leaving) (hfree : state.holder = none) :
    Takes state .clear { state with entry := none, watcher := .gone }

variable {state next : StopProtocol} {taken : Step} {steps : List Step} {listener : Nat}

lemma takes_of_step? (h : state.step? taken = some next) : state.Takes taken next := by
  cases taken with
  | clone token =>
    obtain ⟨⟨tokens, number⟩, hclone, hnext⟩ := Option.bind_eq_some_iff.1 h
    obtain rfl := Option.some.inj hnext
    exact .clone hclone
  | swap token =>
    obtain ⟨wasSet, hset, h⟩ := Option.bind_eq_some_iff.1 h
    obtain ⟨tokens, htrigger, hnext⟩ := Option.bind_eq_some_iff.1 h
    obtain rfl := Option.some.inj hnext
    exact .swap hset htrigger
  | lock call =>
    obtain ⟨⟨hcall, hfree⟩, hnext⟩ := Option.ite_none_right_eq_some.1 h
    obtain rfl := Option.some.inj hnext
    exact .lock hcall hfree
  | act call =>
    obtain ⟨hcall, hnext⟩ := Option.ite_none_right_eq_some.1 h
    obtain rfl := Option.some.inj hnext
    exact .act hcall
  | enter =>
    obtain ⟨⟨hwatcher, hfree⟩, hnext⟩ := Option.ite_none_right_eq_some.1 h
    obtain rfl := Option.some.inj hnext
    exact .enter hwatcher hfree
  | look =>
    obtain ⟨hwatcher, h⟩ := Option.ite_none_right_eq_some.1 h
    obtain ⟨triggered, hlook, hnext⟩ := Option.bind_eq_some_iff.1 h
    obtain rfl := Option.some.inj hnext
    exact .look hwatcher hlook
  | settle =>
    cases hwatcher : state.watcher with
    | looked triggered =>
      simp only [step?, hwatcher, Option.some.injEq] at h
      obtain rfl := h
      exact .settle hwatcher
    | _ => simp [step?, hwatcher] at h
  | leave =>
    obtain ⟨hwatcher, hnext⟩ := Option.ite_none_right_eq_some.1 h
    obtain rfl := Option.some.inj hnext
    exact .leave hwatcher
  | clear =>
    obtain ⟨⟨hwatcher, hfree⟩, hnext⟩ := Option.ite_none_right_eq_some.1 h
    obtain rfl := Option.some.inj hnext
    exact .clear hwatcher hfree

/-- What every step keeps, every history keeps. -/
lemma invariant_of_stepAll? {P : StopProtocol → Prop}
    (hkeep : ∀ {before taken after}, P before → Takes before taken after → P after)
    (hstart : P state) (h : state.stepAll? steps = some next) : P next := by
  induction steps generalizing state with
  | nil =>
    cases h
    exact hstart
  | cons step others ih =>
    obtain ⟨middle, hstep, hrest⟩ := Option.bind_eq_some_iff.1 h
    exact ih (hkeep hstart (takes_of_step? hstep)) hrest

/-! ## One flag -/

/-- The flag is set exactly if a call has reached it, and only the first call found it unset. -/
structure Flagged (state : StopProtocol) : Prop where
  shares : state.tokens.Shares (decide (state.calls ≠ []))
  late_iff : ∀ {call stage}, state.calls[call]? = some stage → (stage = .late ↔ call ≠ 0)

lemma flagged_initial : (initial listener).Flagged :=
  ⟨Tokens.shares_make, fun h => by cases h⟩

lemma Flagged.eq_zero (h : state.Flagged) {call : Nat} {stage : TriggerStage}
    (hcall : state.calls[call]? = some stage) (hstage : stage ≠ .late) : call = 0 :=
  not_not.1 (mt (h.late_iff hcall).2 hstage)

lemma Flagged.calls_ne_nil (h : state.Flagged) {token : Nat}
    (htriggered : state.tokens.isTriggered token = some true) : state.calls ≠ [] :=
  of_decide_eq_true (h.shares.eq_of_isTriggered htriggered).symm

/-- The call that set the flag comes further. -/
lemma Flagged.setCall (h : state.Flagged) {call : Nat} {stage further : TriggerStage}
    (hcall : state.calls[call]? = some stage) (hstage : stage ≠ .late) (hfurther : further ≠ .late) :
    (state.setCall call further).Flagged where
  shares := by
    simp only [StopProtocol.setCall, ne_eq, List.set_eq_nil_iff]
    exact h.shares
  late_iff := by
    intro other found hfound
    rcases eq_or_ne call other with rfl | hne
    · obtain ⟨hlt, -⟩ := List.getElem?_eq_some_iff.1 hcall
      obtain rfl := Option.some.inj ((List.getElem?_set_self hlt).symm.trans hfound)
      exact iff_of_false hfurther (not_not.2 (h.eq_zero hcall hstage))
    · exact h.late_iff ((List.getElem?_set_ne hne).symm.trans hfound)

/-- A further call reaches the flag. -/
lemma Flagged.swap (h : state.Flagged) {token : Nat} {wasSet : Bool} {tokens : Tokens}
    (hset : state.tokens.isTriggered token = some wasSet)
    (htrigger : state.tokens.trigger token = some tokens) :
    Flagged { state with
      tokens, calls := state.calls ++ [if wasSet then .late else .swapped] } where
  shares := by simpa using h.shares.trigger htrigger
  late_iff := by
    intro call stage hcall
    obtain rfl := h.shares.eq_of_isTriggered hset
    rw [List.getElem?_append, List.getElem?_singleton] at hcall
    split at hcall
    · exact h.late_iff hcall
    · -- The new call is the first one exactly if no call came before.
      rename_i hlength
      obtain ⟨hzero, hstage⟩ := Option.ite_none_right_eq_some.1 hcall
      obtain rfl := Option.some.inj hstage
      have hlast : call = state.calls.length := by omega
      rw [hlast]
      cases state.calls <;> simp

lemma Flagged.step (h : state.Flagged) (htakes : state.Takes taken next) : next.Flagged := by
  cases htakes with
  | clone hclone => exact ⟨h.shares.clone hclone, h.late_iff⟩
  | swap hset htrigger => exact h.swap hset htrigger
  | @lock call hcall hfree =>
    have hset : (state.setCall call .locked).Flagged := h.setCall hcall (by decide) (by decide)
    exact ⟨hset.shares, hset.late_iff⟩
  | @act call hcall =>
    have hset : (state.setCall call .returned).Flagged := h.setCall hcall (by decide) (by decide)
    exact ⟨hset.shares, hset.late_iff⟩
  | enter | look | settle | leave | clear => exact ⟨h.shares, h.late_iff⟩

/-! ## One lock -/

/-- Whoever is in a section of the lock holds it, and the entry is the socket that is watched. -/
structure Guarded (state : StopProtocol) : Prop where
  trigger_iff : ∀ call, state.holder = some (.trigger call) ↔ state.calls[call]? = some .locked
  watcher_iff : state.holder = some .watcher ↔ state.watcher.InSection
  entry_iff : ∀ descriptor,
    state.entry = some descriptor ↔ state.watcher.Enters ∧ descriptor = state.listener

lemma guarded_initial : (initial listener).Guarded where
  trigger_iff := fun call => by simp [initial]
  watcher_iff := by simp [initial, WatchStage.InSection]
  entry_iff := by simp [initial, WatchStage.Enters]

lemma Guarded.not_locked_of_free (h : state.Guarded) (hfree : state.holder = none) (call : Nat) :
    state.calls[call]? ≠ some .locked := fun hlocked => by
  cases hfree.symm.trans ((h.trigger_iff call).2 hlocked)

lemma Guarded.not_inSection_of_free (h : state.Guarded) (hfree : state.holder = none) :
    ¬ state.watcher.InSection := fun hsection => by
  cases hfree.symm.trans (h.watcher_iff.2 hsection)

/-- A call and the watcher are not in their sections at once. -/
lemma Guarded.not_locked_of_inSection (h : state.Guarded) (hsection : state.watcher.InSection)
    (call : Nat) : state.calls[call]? ≠ some .locked := fun hlocked => by
  cases (h.watcher_iff.2 hsection).symm.trans ((h.trigger_iff call).2 hlocked)

/-- Two calls are not in their sections at once. -/
lemma Guarded.eq_of_locked (h : state.Guarded) {call other : Nat}
    (hcall : state.calls[call]? = some .locked) (hother : state.calls[other]? = some .locked) :
    call = other := by
  cases ((h.trigger_iff call).2 hcall).symm.trans ((h.trigger_iff other).2 hother)
  rfl

lemma Guarded.lock (h : state.Guarded) {call : Nat} (hcall : state.calls[call]? = some .swapped)
    (hfree : state.holder = none) :
    Guarded { state.setCall call .locked with holder := some (.trigger call) } where
  trigger_iff := by
    intro other
    rcases eq_or_ne call other with rfl | hne
    · obtain ⟨hlt, -⟩ := List.getElem?_eq_some_iff.1 hcall
      exact iff_of_true rfl (List.getElem?_set_self hlt)
    · refine iff_of_false (by simp [hne]) ?_
      simp only [setCall, List.getElem?_set_ne hne]
      exact h.not_locked_of_free hfree other
  watcher_iff := iff_of_false (by simp) (h.not_inSection_of_free hfree)
  entry_iff := h.entry_iff

lemma Guarded.act (h : state.Guarded) {call : Nat} (hcall : state.calls[call]? = some .locked)
    (shutDowns : List Nat) :
    Guarded { state.setCall call .returned with holder := none, shutDowns } where
  trigger_iff := by
    refine fun other => iff_of_false (by simp) fun hlocked => ?_
    rcases eq_or_ne call other with rfl | hne
    · obtain ⟨hlt, -⟩ := List.getElem?_eq_some_iff.1 hcall
      cases (List.getElem?_set_self hlt).symm.trans hlocked
    · exact hne (h.eq_of_locked hcall ((List.getElem?_set_ne hne).symm.trans hlocked))
  watcher_iff := iff_of_false (by simp) fun hsection => h.not_locked_of_inSection hsection call hcall
  entry_iff := h.entry_iff

/-- The watcher goes on, in or out of its section and with the socket entered or not as before. -/
lemma Guarded.goOn (h : state.Guarded) {stage : WatchStage}
    (hsection : state.watcher.InSection ↔ stage.InSection)
    (henters : state.watcher.Enters ↔ stage.Enters) :
    Guarded { state with watcher := stage } where
  trigger_iff := h.trigger_iff
  watcher_iff := h.watcher_iff.trans hsection
  entry_iff := fun descriptor => (h.entry_iff descriptor).trans (and_congr_left' henters)

lemma Guarded.step (h : state.Guarded) (htakes : state.Takes taken next) : next.Guarded := by
  cases htakes with
  | clone hclone => exact ⟨h.trigger_iff, h.watcher_iff, h.entry_iff⟩
  | @swap token wasSet tokens hset htrigger =>
    refine ⟨fun call => (h.trigger_iff call).trans ?_, h.watcher_iff, h.entry_iff⟩
    rw [List.getElem?_append]
    split
    · rfl
    · rename_i hlength
      have hnone : state.calls[call]? = none := List.getElem?_eq_none (by omega)
      cases wasSet <;> simp [hnone, List.getElem?_singleton]
  | lock hcall hfree => exact h.lock hcall hfree
  | act hcall => exact h.act hcall _
  | enter hwatcher hfree =>
    exact ⟨fun call => iff_of_false (by simp) (h.not_locked_of_free hfree call),
      iff_of_true rfl trivial, fun descriptor => by simp [WatchStage.Enters, eq_comm]⟩
  | look hwatcher hlook => exact h.goOn (by rw [hwatcher]; rfl) (by rw [hwatcher]; rfl)
  | settle hwatcher =>
    have hsection : state.watcher.InSection := hwatcher ▸ trivial
    have henters : state.watcher.Enters ↔ WatchStage.Enters .watching := by rw [hwatcher]; rfl
    exact ⟨fun call => iff_of_false (by simp) (h.not_locked_of_inSection hsection call),
      iff_of_false (by simp) id,
      fun descriptor => (h.entry_iff descriptor).trans (and_congr_left' henters)⟩
  | leave hwatcher => exact h.goOn (by rw [hwatcher]; rfl) (by rw [hwatcher]; rfl)
  | clear hwatcher hfree =>
    have houtside : state.watcher.InSection ↔ WatchStage.InSection .gone := by rw [hwatcher]; rfl
    exact ⟨h.trigger_iff, h.watcher_iff.trans houtside,
      fun descriptor => by simp [WatchStage.Enters]⟩

/-! ## Every request is heard -/

/-- A call that set the flag before the watcher looked was seen, and any other one acts on the
entry. -/
structure Heard (state : StopProtocol) : Prop where
  /-- While the watcher holds the lock and has not seen the flag set, no call has had the lock. -/
  unseen : state.watcher = .looked false →
    TriggerStage.locked ∉ state.calls ∧ TriggerStage.returned ∉ state.calls
  shutDown : state.watcher = .watching ∨ state.watcher = .leaving →
    TriggerStage.returned ∈ state.calls → state.listener ∈ state.shutDowns
  listener_eq : ∀ descriptor ∈ state.shutDowns, descriptor = state.listener

lemma heard_initial : (initial listener).Heard where
  unseen := by simp [initial]
  shutDown := by simp [initial]
  listener_eq := by simp [initial]

lemma Heard.swap (h : state.Heard) (tokens : Tokens) (wasSet : Bool) :
    Heard { state with
      tokens, calls := state.calls ++ [if wasSet then .late else .swapped] } where
  unseen := fun hwatcher => by
    obtain ⟨hlocked, hreturned⟩ := h.unseen hwatcher
    cases wasSet <;> simp [hlocked, hreturned]
  shutDown := fun hwatcher hcalls =>
    h.shutDown hwatcher (by cases wasSet <;> simpa using hcalls)
  listener_eq := h.listener_eq

/-- A call takes the lock while the watcher is out of its section, and so not between its look at
the flag and its return. -/
lemma Heard.lock (h : state.Heard) (houtside : ¬ state.watcher.InSection) (call : Nat)
    (holder : Option Holder) : Heard { state.setCall call .locked with holder } where
  unseen := fun hwatcher => absurd (hwatcher ▸ trivial) houtside
  shutDown := fun hwatcher hcalls =>
    h.shutDown hwatcher ((List.mem_or_eq_of_mem_set hcalls).resolve_right (by simp))
  listener_eq := h.listener_eq

lemma Heard.act (h : state.Heard) (hguarded : state.Guarded) {call : Nat}
    (hcall : state.calls[call]? = some .locked) :
    Heard { state.setCall call .returned with
      holder := none, shutDowns := state.shutDowns ++ state.entry.toList } where
  unseen := fun hwatcher =>
    absurd hcall (hguarded.not_locked_of_inSection (hwatcher ▸ trivial) call)
  shutDown := fun hwatcher _ => by
    have henters : state.watcher.Enters := by
      rcases hwatcher with hwatcher | hwatcher <;> exact hwatcher ▸ trivial
    have hentry := (hguarded.entry_iff state.listener).2 ⟨henters, rfl⟩
    simp [hentry, setCall]
  listener_eq := fun descriptor hmem => by
    rcases List.mem_append.1 hmem with hold | hnew
    · exact h.listener_eq descriptor hold
    · exact ((hguarded.entry_iff descriptor).1 (Option.mem_toList.1 hnew)).2

/-- The watcher lets the lock go: it has shut the socket down if it saw the flag set, and otherwise
no call has had the lock. -/
lemma Heard.settle (h : state.Heard) {triggered : Bool}
    (hwatcher : state.watcher = .looked triggered) :
    Heard { state with
      holder := none, watcher := .watching
      shutDowns := state.shutDowns ++ if triggered then [state.listener] else [] } where
  unseen := by simp
  shutDown := fun _ hcalls => by
    cases triggered with
    | true => simp
    | false => exact absurd hcalls (h.unseen hwatcher).2
  listener_eq := fun descriptor hmem => by
    rcases List.mem_append.1 hmem with hold | hnew
    · exact h.listener_eq descriptor hold
    · cases triggered with
      | true => exact List.mem_singleton.1 hnew
      | false => cases hnew

lemma Heard.step (h : state.Heard) (hflagged : state.Flagged) (hguarded : state.Guarded)
    (htakes : state.Takes taken next) : next.Heard := by
  cases htakes with
  | clone hclone => exact ⟨h.unseen, h.shutDown, h.listener_eq⟩
  | swap hset htrigger => exact h.swap _ _
  | lock hcall hfree => exact h.lock (hguarded.not_inSection_of_free hfree) _ _
  | act hcall => exact h.act hguarded hcall
  | enter | clear => exact ⟨by simp, by simp, h.listener_eq⟩
  | look hwatcher hlook =>
    refine ⟨fun hseen => ?_, by simp, h.listener_eq⟩
    obtain rfl := WatchStage.looked.inj hseen
    have hcalls : state.calls = [] := by simpa using hflagged.shares.eq_of_isTriggered hlook
    simp [hcalls]
  | settle hwatcher => exact h.settle hwatcher
  | leave hwatcher =>
    exact ⟨by simp, fun _ => h.shutDown (.inl hwatcher), h.listener_eq⟩

/-! ## Along a history -/

/-- The three invariants, and the socket that a history is about. -/
structure Sound (listener : Nat) (state : StopProtocol) : Prop where
  flagged : state.Flagged
  guarded : state.Guarded
  heard : state.Heard
  listener_eq : state.listener = listener

lemma Sound.step (h : state.Sound listener) (htakes : state.Takes taken next) :
    next.Sound listener where
  flagged := h.flagged.step htakes
  guarded := h.guarded.step htakes
  heard := h.heard.step h.flagged h.guarded htakes
  listener_eq := by cases htakes <;> exact h.listener_eq

lemma sound_of_stepAll? (h : (initial listener).stepAll? steps = some state) :
    state.Sound listener :=
  invariant_of_stepAll? Sound.step ⟨flagged_initial, guarded_initial, heard_initial, rfl⟩ h

/-- A call that reached the flag is not taken back. -/
lemma calls_ne_nil_of_stepAll? (hcalls : state.calls ≠ []) (h : state.stepAll? steps = some next) :
    next.calls ≠ [] := by
  refine invariant_of_stepAll? (P := fun state => state.calls ≠ []) ?_ hcalls h
  intro before taken after hbefore htakes
  cases htakes with
  | swap => simp
  | lock | act => simpa [setCall] using hbefore
  | _ => exact hbefore

/-- Once the watcher is gone, nothing is entered and nothing is shut down any more. -/
lemma shutDowns_of_gone (hguarded : state.Guarded) (hgone : state.watcher = .gone)
    (h : state.stepAll? steps = some next) :
    next.watcher = .gone ∧ next.shutDowns = state.shutDowns := by
  have hentry : state.entry = none :=
    Option.eq_none_iff_forall_ne_some.2 fun descriptor hentry => by
      have henters := ((hguarded.entry_iff descriptor).1 hentry).1
      rwa [hgone] at henters
  suffices hall : next.watcher = .gone ∧ next.entry = none ∧
      next.shutDowns = state.shutDowns from ⟨hall.1, hall.2.2⟩
  refine invariant_of_stepAll? (P := fun after => after.watcher = .gone ∧ after.entry = none ∧
    after.shutDowns = state.shutDowns) ?_ ⟨hgone, hentry, rfl⟩ h
  rintro before taken after ⟨hwatcher, hnone, hsame⟩ htakes
  cases htakes with
  | clone | swap | lock => exact ⟨hwatcher, hnone, hsame⟩
  | act hcall => exact ⟨hwatcher, hnone, by simp [hnone, hsame]⟩
  | enter hidle | look hidle | settle hidle | leave hidle | clear hidle =>
    cases hwatcher.symm.trans hidle

/-! ## What a token promises -/

/-- A call that holds the lock can act and return. -/
lemma exists_act {call : Nat} (hcall : state.calls[call]? = some .locked) :
    ∃ next, state.stepAll? [.act call] = some next ∧ next.watcher = state.watcher ∧
      .returned ∈ next.calls := by
  obtain ⟨hlt, -⟩ := List.getElem?_eq_some_iff.1 hcall
  obtain ⟨next, hstep, hkept⟩ : ∃ next, state.step? (.act call) = some next ∧
      next.watcher = state.watcher ∧ .returned ∈ next.calls :=
    ⟨{ state.setCall call .returned with
      holder := none, shutDowns := state.shutDowns ++ state.entry.toList },
      if_pos hcall, rfl, List.mem_set hlt _⟩
  exact ⟨next, by rw [stepAll?, hstep]; rfl, hkept⟩

/-- A call that set the flag can take the free lock, and then act and return. -/
lemma exists_lock_act {call : Nat} (hcall : state.calls[call]? = some .swapped)
    (hfree : state.holder = none) :
    ∃ next, state.stepAll? [.lock call, .act call] = some next ∧ next.watcher = state.watcher ∧
      .returned ∈ next.calls := by
  obtain ⟨hlt, -⟩ := List.getElem?_eq_some_iff.1 hcall
  obtain ⟨middle, hstep, hwatcher, hlocked⟩ : ∃ middle, state.step? (.lock call) = some middle ∧
      middle.watcher = state.watcher ∧ middle.calls[call]? = some .locked :=
    ⟨{ state.setCall call .locked with holder := some (.trigger call) },
      if_pos ⟨hcall, hfree⟩, rfl, List.getElem?_set_self hlt⟩
  obtain ⟨next, hnext, hkept, hreturned⟩ := exists_act hlocked
  exact ⟨next, by rw [stepAll?, hstep]; exact hnext, hkept.trans hwatcher, hreturned⟩

/-- While the watcher is out of its section, nobody is in the way of the first call before it has
the lock. -/
lemma Sound.free_of_swapped (h : state.Sound listener) (houtside : ¬ state.watcher.InSection)
    (hfirst : state.calls[0]? = some .swapped) : state.holder = none := by
  cases hholder : state.holder with
  | none => rfl
  | some holder =>
    cases holder with
    | watcher => exact absurd (h.guarded.watcher_iff.1 hholder) houtside
    | trigger call =>
      have hlocked := (h.guarded.trigger_iff call).1 hholder
      obtain rfl := h.flagged.eq_zero hlocked (by decide)
      cases hfirst.symm.trans hlocked

/-- A request is not only never forgotten: once the token is triggered, the steps that the first
call has left lead to a socket that is shut down, and nobody is needed for them but this call. -/
theorem exists_shutDown (run : (initial listener).stepAll? steps = some state)
    (hwatching : state.watcher = .watching) {token : Nat}
    (htriggered : state.tokens.isTriggered token = some true) :
    ∃ later next, later <:+ [.lock 0, .act 0] ∧ state.stepAll? later = some next ∧
      next.watcher = .watching ∧ listener ∈ next.shutDowns := by
  have hsound := sound_of_stepAll? run
  have hcalls := hsound.flagged.calls_ne_nil htriggered
  suffices hreturns : ∃ later next, later <:+ [.lock 0, .act 0] ∧
      state.stepAll? later = some next ∧ next.watcher = state.watcher ∧
      .returned ∈ next.calls by
    obtain ⟨later, next, hlater, hrun, hkept, hreturned⟩ := hreturns
    have hnext := hkept.trans hwatching
    have hsound' := invariant_of_stepAll? Sound.step hsound hrun
    exact ⟨later, next, hlater, hrun, hnext,
      hsound'.listener_eq ▸ hsound'.heard.shutDown (.inl hnext) hreturned⟩
  obtain ⟨stage, others, hstages⟩ := List.exists_cons_of_ne_nil hcalls
  have hfirst : state.calls[0]? = some stage := by rw [hstages]; rfl
  cases stage with
  | late => exact absurd rfl ((hsound.flagged.late_iff hfirst).1 rfl)
  | returned => exact ⟨[], state, List.nil_suffix, rfl, rfl, List.mem_of_getElem? hfirst⟩
  | locked =>
    obtain ⟨next, hnext⟩ := exists_act hfirst
    exact ⟨[.act 0], next, List.suffix_cons _ _, hnext⟩
  | swapped =>
    have hfree := hsound.free_of_swapped (by rw [hwatching]; exact id) hfirst
    obtain ⟨next, hnext⟩ := exists_lock_act hfirst hfree
    exact ⟨[.lock 0, .act 0], next, List.suffix_rfl, hnext⟩

/-- Whatever calls trigger whichever clones of a token, and however they take turns with the watcher
of the socket: while the socket is watched and the call that set the flag has returned, the socket
has been shut down; the flag is the same for all clones, is set by the first call that reaches it,
and stays set for all of them, later ones included; and once the watcher is gone, nothing is shut
down any more. -/
theorem no_request_lost {history : List Step}
    (run : (initial listener).stepAll? history = some state) :
    (state.watcher = .watching → .returned ∈ state.calls → listener ∈ state.shutDowns) ∧
    (∀ descriptor ∈ state.shutDowns, descriptor = listener) ∧
    (∀ call stage, state.calls[call]? = some stage → (stage = .late ↔ call ≠ 0)) ∧
    (∀ token < state.tokens.tokens.length,
      state.tokens.isTriggered token = some (decide (state.calls ≠ []))) ∧
    ∀ later next, state.stepAll? later = some next →
      (∀ token other, state.tokens.isTriggered token = some true →
        other < next.tokens.tokens.length → next.tokens.isTriggered other = some true) ∧
      (state.watcher = .gone → next.watcher = .gone ∧ next.shutDowns = state.shutDowns) := by
  have hsound := sound_of_stepAll? run
  refine ⟨fun hwatching hreturned => ?_, fun descriptor hmem => ?_,
    fun call stage => hsound.flagged.late_iff,
    fun token htoken => hsound.flagged.shares.isTriggered htoken, fun later next hlater => ⟨?_, ?_⟩⟩
  · exact hsound.listener_eq ▸ hsound.heard.shutDown (.inl hwatching) hreturned
  · exact (hsound.heard.listener_eq descriptor hmem).trans hsound.listener_eq
  · intro token other htriggered hother
    have hcalls := hsound.flagged.calls_ne_nil htriggered
    have hnext : next.Sound listener := invariant_of_stepAll? Sound.step hsound hlater
    rw [hnext.flagged.shares.isTriggered hother,
      decide_eq_true (calls_ne_nil_of_stepAll? hcalls hlater)]
  · exact fun hgone => shutDowns_of_gone hsound.guarded hgone hlater

/-- The flag is set between the look of the watcher and the end of its section, and another call
comes late: the first call shuts the socket down, and a call that comes after the watcher is gone
does not. -/
theorem no_request_lost_behind_look :
    ∃ state gone next,
      (initial 3).stepAll?
        [.clone 0, .enter, .look, .swap 1, .swap 0, .settle, .lock 0, .act 0] = some state ∧
      3 ∈ state.shutDowns ∧
      (initial 3).stepAll? [.enter, .look, .settle, .leave, .clear] = some gone ∧
      gone.stepAll? [.swap 0, .clone 0, .lock 0, .act 0] = some next ∧
      next.tokens.isTriggered 1 = some true ∧ next.shutDowns = gone.shutDowns := by
  have hwatched : (initial 3).stepAll?
      [.clone 0, .enter, .look, .swap 1, .swap 0, .settle, .lock 0, .act 0] =
      some ⟨⟨[true], [0, 0], []⟩, some 3, none, [.returned, .late], .watching, 3, [3]⟩ := rfl
  have hgone : (initial 3).stepAll? [.enter, .look, .settle, .leave, .clear] =
      some ⟨⟨[false], [0], []⟩, none, none, [], .gone, 3, []⟩ := rfl
  have hafter : stepAll? ⟨⟨[false], [0], []⟩, none, none, [], .gone, 3, []⟩
      [.swap 0, .clone 0, .lock 0, .act 0] =
      some ⟨⟨[true], [0, 0], []⟩, none, none, [.returned], .gone, 3, []⟩ := rfl
  have hlater := (no_request_lost hgone).2.2.2.2 _ _ hafter
  exact ⟨_, _, _, hwatched, (no_request_lost hwatched).1 rfl (by decide), hgone, hafter, rfl,
    (hlater.2 rfl).2⟩

end StopProtocol

end CommandLog
