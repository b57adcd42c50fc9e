import CommandLog.Workers
import Mathlib.Data.List.Nodup
import Mathlib.Tactic.Common

/-!
# The register accounts for every worker

Workers come to their end at any time and in any order, by returning or by a panic, and nothing but
the flag that a worker leaves says so.  A history of a register is a list of `Event`s, `Reaches`: a
worker is started, or cannot be; one comes to its end; those that have ended are joined, or all that
are left.  The register may join in any order, so that an event lists its workers in any.

`Accounts` is what every event keeps: the numbers handed out are the first ones, each of them is
that of a worker joined or of one still entered, and the flag of an entered worker is set if it has
ended.  `register_accounts_for_workers` reads off it what the register promises.
-/

namespace CommandLog

namespace Workers

/-! ## Histories -/

/-- What can happen to a register. -/
inductive Event where
  | started (number : Nat)
  /-- A worker could not be started, and was not entered. -/
  | declined
  | ended (number : Nat) (ending : Ending)
  | reaped (joined : List Worker)
  | drained (joined : List Worker)

namespace Event

/-- The numbers that are handed out. -/
def started? : Event → Option Nat
  | .started number => some number
  | _ => none

/-- The workers that are joined. -/
def joined : Event → List Worker
  | .reaped joined | .drained joined => joined
  | _ => []

/-- The numbers handed out in a history, in this order. -/
def startedAll (events : List Event) : List Nat := events.filterMap started?

/-- The numbers of the workers joined in a history. -/
def joinedAll (events : List Event) : List Nat :=
  events.flatMap fun event => event.joined.map Worker.number

/-- How many workers were joined according to the counts that the register has given. -/
def countAll : List Event → Nat
  | [] => 0
  | event :: others => event.joined.length + countAll others

end Event

/-- What an event does to the register.  A worker that ends while the register looks for those that
have ended may be found or not: it counts as having ended before or after. -/
inductive Step : Workers → Event → Workers → Prop where
  | start (workers : Workers) (ending : Ending) :
    Step workers (.started (workers.start true ending).2) (workers.start true ending).1
  | decline (workers : Workers) : Step workers .declined workers
  | finish {workers : Workers} {number : Nat} {ending : Ending}
    (h : ⟨number, true, ending⟩ ∈ workers.tracked) :
    Step workers (.ended number ending) (workers.finish number)
  | reap {workers : Workers} {joined : List Worker} (h : joined.Perm workers.reap.2) :
    Step workers (.reaped joined) workers.reap.1
  | drain {workers : Workers} {joined : List Worker} (h : joined.Perm workers.drain.2) :
    Step workers (.drained joined) workers.drain.1

/-- A history leads from an empty register to this one. -/
inductive Reaches : List Event → Workers → Prop where
  | empty : Reaches [] empty
  | step {events : List Event} {event : Event} {workers next : Workers} :
    Reaches events workers → Step workers event next → Reaches (events ++ [event]) next

variable {events : List Event} {event : Event} {workers next : Workers}

lemma countAll_eq (events : List Event) :
    Event.countAll events = (Event.joinedAll events).length := by
  induction events with
  | nil => rfl
  | cons event others ih =>
    have hcons : Event.joinedAll (event :: others) =
        event.joined.map Worker.number ++ Event.joinedAll others := rfl
    rw [Event.countAll, ih, hcons, List.length_append, List.length_map]

lemma startedAll_append (events : List Event) (event : Event) :
    Event.startedAll (events ++ [event]) = Event.startedAll events ++ event.started?.toList := by
  rw [Event.startedAll, List.filterMap_append]
  cases h : event.started? <;> simp [Event.startedAll, h]

lemma joinedAll_append (events : List Event) (event : Event) :
    Event.joinedAll (events ++ [event]) =
      Event.joinedAll events ++ event.joined.map Worker.number := by
  rw [Event.joinedAll, List.flatMap_append, List.flatMap_singleton]
  rfl

/-! ## What the operations do -/

lemma numbers_finish (workers : Workers) (number : Nat) :
    (workers.finish number).tracked.map Worker.number = workers.tracked.map Worker.number := by
  rw [finish, List.map_map]
  refine List.map_congr_left fun worker _ => ?_
  show (if worker.number = number then { worker with running := false } else worker).number = _
  split <;> rfl

lemma numbers_finishAll (workers : Workers) :
    workers.finishAll.tracked.map Worker.number = workers.tracked.map Worker.number := by
  rw [finishAll, List.map_map]
  rfl

/-- The workers that a reap joins and those that it leaves are together those that were entered. -/
lemma reap_perm (workers : Workers) :
    (workers.reap.2 ++ workers.reap.1.tracked).Perm workers.tracked := by
  have hsplit := List.filter_append_perm (fun worker : Worker => !worker.running) workers.tracked
  simpa [reap] using hsplit

lemma mem_reap {joined : List Worker} (h : joined.Perm workers.reap.2) (worker : Worker) :
    worker ∈ joined ↔ worker ∈ workers.tracked ∧ worker.running = false := by
  rw [h.mem_iff]
  simp [reap]

/-! ## The account -/

/-- The register accounts for all that has happened to it. -/
structure Accounts (events : List Event) (workers : Workers) : Prop where
  started_eq : Event.startedAll events = List.range workers.next
  /-- Each number handed out is that of a worker joined or of one still entered, and of one only. -/
  perm : (Event.joinedAll events ++ workers.tracked.map Worker.number).Perm
    (List.range workers.next)
  /-- The flag of an entered worker is set exactly if the worker has ended. -/
  flag : ∀ worker ∈ workers.tracked,
    worker.running = false ↔ .ended worker.number worker.ending ∈ events
  /-- Only workers that were started have ended. -/
  ended_lt : ∀ number ending, .ended number ending ∈ events → number < workers.next

lemma accounts_empty : Accounts [] empty where
  started_eq := rfl
  perm := List.Perm.refl _
  flag := fun _ hmem => absurd hmem List.not_mem_nil
  ended_lt := fun _ _ hmem => absurd hmem List.not_mem_nil

lemma Accounts.nodup (h : Accounts events workers) :
    (Event.joinedAll events ++ workers.tracked.map Worker.number).Nodup :=
  h.perm.nodup_iff.2 List.nodup_range

/-- No two workers that are entered have the same number. -/
lemma Accounts.eq_of_number_eq (h : Accounts events workers) {worker other : Worker}
    (hworker : worker ∈ workers.tracked) (hother : other ∈ workers.tracked)
    (hnumber : worker.number = other.number) : worker = other :=
  List.inj_on_of_nodup_map (List.nodup_append.1 h.nodup).2.1 hworker hother hnumber

lemma Accounts.number_lt (h : Accounts events workers) {worker : Worker}
    (hworker : worker ∈ workers.tracked) : worker.number < workers.next := by
  have hmem : worker.number ∈ Event.joinedAll events ++ workers.tracked.map Worker.number :=
    List.mem_append_right _ (List.mem_map_of_mem hworker)
  exact List.mem_range.1 (h.perm.mem_iff.1 hmem)

lemma Accounts.start (h : Accounts events workers) (ending : Ending) :
    Accounts (events ++ [.started workers.next]) (workers.start true ending).1 where
  started_eq := by
    rw [startedAll_append, h.started_eq]
    exact List.range_succ.symm
  perm := by
    have hjoined := joinedAll_append events (.started workers.next)
    rw [show (Event.started workers.next).joined = [] from rfl, List.map_nil,
      List.append_nil] at hjoined
    have hnumbers : (workers.start true ending).1.tracked.map Worker.number =
        workers.tracked.map Worker.number ++ [workers.next] := List.map_append
    have hrange : List.range (workers.start true ending).1.next =
        List.range workers.next ++ [workers.next] := List.range_succ
    rw [hjoined, hnumbers, hrange, ← List.append_assoc]
    exact h.perm.append_right _
  flag := by
    intro worker hworker
    rcases List.mem_append.1 hworker with hworker | hnew
    · rw [h.flag worker hworker]
      simp
    · -- the new worker has a number that none of those that have ended had
      rw [List.mem_singleton.1 hnew]
      have hfresh : Event.ended workers.next ending ∉ events :=
        fun hmem => Nat.lt_irrefl _ (h.ended_lt _ _ hmem)
      simp [hfresh]
  ended_lt := by
    intro number ending' hmem
    have hold : .ended number ending' ∈ events := by simpa using hmem
    exact Nat.lt_succ_of_lt (h.ended_lt number ending' hold)

lemma Accounts.finish (h : Accounts events workers) {number : Nat} {ending : Ending}
    (hrunning : ⟨number, true, ending⟩ ∈ workers.tracked) :
    Accounts (events ++ [.ended number ending]) (workers.finish number) where
  started_eq := by
    rw [startedAll_append, h.started_eq]
    exact List.append_nil _
  perm := by
    rw [joinedAll_append, numbers_finish]
    show (_ ++ [] ++ _).Perm (List.range workers.next)
    rw [List.append_nil]
    exact h.perm
  flag := by
    intro after hafter
    obtain ⟨worker, hworker, rfl⟩ := List.mem_map.1 hafter
    by_cases hnumber : worker.number = number
    · have hsame : worker = ⟨number, true, ending⟩ :=
        h.eq_of_number_eq hworker hrunning hnumber
      simp [hsame]
    · simp only [if_neg hnumber]
      rw [h.flag worker hworker]
      simp [hnumber]
  ended_lt := by
    intro other ending' hmem
    rcases List.mem_append.1 hmem with hold | hnew
    · exact h.ended_lt other ending' hold
    · cases List.mem_singleton.1 hnew
      exact h.number_lt hrunning

lemma Accounts.reap (h : Accounts events workers) {joined : List Worker}
    (hjoined : joined.Perm workers.reap.2) :
    Accounts (events ++ [.reaped joined]) workers.reap.1 where
  started_eq := by
    rw [startedAll_append, h.started_eq]
    exact List.append_nil _
  perm := by
    have hsplit := (reap_perm workers).map Worker.number
    rw [List.map_append] at hsplit
    rw [joinedAll_append, List.append_assoc]
    have hsame := (hjoined.map Worker.number).append_right
      (workers.reap.1.tracked.map Worker.number)
    exact ((hsame.trans hsplit).append_left _).trans h.perm
  flag := by
    intro worker hworker
    have hold : worker ∈ workers.tracked := (List.mem_filter.1 hworker).1
    rw [h.flag worker hold]
    simp
  ended_lt := by
    intro number ending hmem
    exact h.ended_lt number ending (by simpa using hmem)

lemma Accounts.drain (h : Accounts events workers) {joined : List Worker}
    (hjoined : joined.Perm workers.drain.2) :
    Accounts (events ++ [.drained joined]) workers.drain.1 where
  started_eq := by
    rw [startedAll_append, h.started_eq]
    exact List.append_nil _
  perm := by
    have hsame := hjoined.map Worker.number
    rw [show workers.drain.2 = workers.finishAll.tracked from rfl, numbers_finishAll] at hsame
    rw [joinedAll_append, show workers.drain.1.tracked = [] from rfl, List.map_nil, List.append_nil]
    exact (hsame.append_left _).trans h.perm
  flag := fun _ hmem => absurd hmem List.not_mem_nil
  ended_lt := by
    intro number ending hmem
    exact h.ended_lt number ending (by simpa using hmem)

lemma Accounts.decline (h : Accounts events workers) :
    Accounts (events ++ [.declined]) workers where
  started_eq := by
    rw [startedAll_append, h.started_eq]
    exact List.append_nil _
  perm := by
    rw [joinedAll_append, show Event.declined.joined = [] from rfl, List.map_nil, List.append_nil]
    exact h.perm
  flag := by
    intro worker hworker
    rw [h.flag worker hworker]
    simp
  ended_lt := by
    intro number ending hmem
    exact h.ended_lt number ending (by simpa using hmem)

/-- One event keeps the account. -/
lemma Accounts.step (h : Accounts events workers) (hstep : Step workers event next) :
    Accounts (events ++ [event]) next := by
  cases hstep with
  | start ending => exact h.start ending
  | decline => exact h.decline
  | finish hrunning => exact h.finish hrunning
  | reap hjoined => exact h.reap hjoined
  | drain hjoined => exact h.drain hjoined

lemma Reaches.accounts (h : Reaches events workers) : Accounts events workers := by
  induction h with
  | empty => exact accounts_empty
  | step _ hstep ih => exact ih.step hstep

/-! ## What the register promises -/

/-- A number handed out is that of a joined worker or of an entered one, and never of both. -/
lemma Accounts.joined_iff (h : Accounts events workers) {number : Nat}
    (hnumber : number ∈ Event.startedAll events) :
    number ∈ Event.joinedAll events ↔ number ∉ workers.tracked.map Worker.number := by
  have hmem : number ∈ Event.joinedAll events ++ workers.tracked.map Worker.number := by
    rw [h.perm.mem_iff, ← h.started_eq]
    exact hnumber
  constructor
  · intro hjoined htracked
    exact (List.nodup_append.1 h.nodup).2.2 number hjoined number htracked rfl
  · intro hgone
    exact (List.mem_append.1 hmem).resolve_right hgone

lemma Accounts.count (h : Accounts events workers) :
    Event.countAll events + workers.count = (Event.startedAll events).length := by
  have hlength := h.perm.length_eq
  rw [List.length_append, List.length_map] at hlength
  rw [countAll_eq, h.started_eq]
  exact hlength

/-- Only entered workers are joined. -/
lemma Step.tracked_of_joined (hstep : Step workers event next) {number : Nat}
    (hnumber : number ∈ event.joined.map Worker.number) :
    number ∈ workers.tracked.map Worker.number := by
  cases hstep with
  | start | decline | finish => exact absurd hnumber List.not_mem_nil
  | reap hjoined =>
    obtain ⟨worker, hworker, rfl⟩ := List.mem_map.1 hnumber
    exact List.mem_map_of_mem ((mem_reap hjoined worker).1 hworker).1
  | drain hjoined =>
    rw [← numbers_finishAll]
    exact (hjoined.map Worker.number).mem_iff.1 hnumber

/-- An event strikes off the workers that it joins, and no other. -/
lemma Accounts.struck_iff (h : Accounts events workers) (hstep : Step workers event next)
    (number : Nat) :
    number ∈ event.joined.map Worker.number ↔
      number ∈ workers.tracked.map Worker.number ∧ number ∉ next.tracked.map Worker.number := by
  have hafter := (h.step hstep).nodup
  rw [joinedAll_append] at hafter
  constructor
  · intro hjoined
    refine ⟨hstep.tracked_of_joined hjoined, fun hstays => ?_⟩
    exact (List.nodup_append.1 hafter).2.2 number (List.mem_append_right _ hjoined) number hstays
      rfl
  · rintro ⟨htracked, hgone⟩
    obtain ⟨worker, hworker, rfl⟩ := List.mem_map.1 htracked
    have hstarted : worker.number ∈ Event.startedAll events := by
      rw [h.started_eq]
      exact List.mem_range.2 (h.number_lt hworker)
    have hlater : worker.number ∈ Event.startedAll (events ++ [event]) := by
      rw [startedAll_append]
      exact List.mem_append_left _ hstarted
    have hjoined := ((h.step hstep).joined_iff hlater).2 hgone
    rw [joinedAll_append] at hjoined
    refine (List.mem_append.1 hjoined).resolve_left fun hbefore => ?_
    exact (h.joined_iff hstarted).1 hbefore htracked

/-- Whatever has happened to a register: the numbers it handed out are 0, 1, 2 and so on, each
once.  No worker was joined twice, one that was started is joined or still entered, the flag of an
entered one is set exactly if it has ended, by returning or by a panic, and all counts given so far
and the workers still entered make up the workers started.

Whatever happens next: a worker is struck off exactly if it is joined then.  A reap joins those of
the entered workers that have ended, so that it waits for none, and counts them.  A drain joins all
entered workers, each of which has ended by then, and counts them, and nothing is left. -/
theorem register_accounts_for_workers (h : Reaches events workers) :
    Event.startedAll events = List.range workers.next ∧
    (Event.joinedAll events).Nodup ∧
    (∀ number ∈ Event.startedAll events,
      number ∈ Event.joinedAll events ↔ number ∉ workers.tracked.map Worker.number) ∧
    (∀ worker ∈ workers.tracked,
      worker.running = false ↔ .ended worker.number worker.ending ∈ events) ∧
    Event.countAll events + workers.count = (Event.startedAll events).length ∧
    (∀ event next, Step workers event next → ∀ number,
      number ∈ event.joined.map Worker.number ↔
        number ∈ workers.tracked.map Worker.number ∧
          number ∉ next.tracked.map Worker.number) ∧
    (∀ joined next, Step workers (.reaped joined) next →
      (∀ worker, worker ∈ joined ↔
        worker ∈ workers.tracked ∧ .ended worker.number worker.ending ∈ events) ∧
      next.tracked = workers.tracked.filter Worker.running ∧ next.next = workers.next) ∧
    ∀ joined next, Step workers (.drained joined) next →
      (joined.map Worker.number).Perm (workers.tracked.map Worker.number) ∧
      (∀ worker ∈ joined, worker.running = false) ∧
      joined.length = workers.count ∧
      next.tracked = [] ∧ next.next = workers.next := by
  have account := h.accounts
  refine ⟨account.started_eq, (List.nodup_append.1 account.nodup).1, fun _ => account.joined_iff,
    account.flag, account.count, fun _ _ hstep => account.struck_iff hstep, ?_, ?_⟩
  · intro joined next hstep
    cases hstep with
    | reap hjoined =>
      refine ⟨fun worker => ?_, rfl, rfl⟩
      rw [mem_reap hjoined worker]
      exact and_congr_right fun hworker => account.flag worker hworker
  · intro joined next hstep
    cases hstep with
    | drain hjoined =>
      have hnumbers := hjoined.map Worker.number
      rw [show workers.drain.2 = workers.finishAll.tracked from rfl, numbers_finishAll] at hnumbers
      refine ⟨hnumbers, fun worker hworker => ?_, ?_, rfl, rfl⟩
      · obtain ⟨_, _, rfl⟩ := List.mem_map.1 (hjoined.mem_iff.1 hworker)
        rfl
      · simpa [count] using hnumbers.length_eq

/-- A worker panics and is joined, two more are joined at once and in another order than they were
started in, one could not be started, and a last one is started after that. -/
def busyHistory : List Event :=
  [.started 0, .started 1, .declined, .ended 1 .panicked, .reaped [⟨1, false, .panicked⟩],
    .started 2, .ended 2 .returned, .drained [⟨2, false, .returned⟩, ⟨0, false, .panicked⟩],
    .started 3]

lemma reaches_busyHistory : Reaches busyHistory ⟨[⟨3, true, .returned⟩], 4⟩ := by
  have h₁ := Reaches.empty.step (Step.start _ .panicked)
  have h₂ := h₁.step (Step.start _ .panicked)
  have h₃ := h₂.step (Step.decline _)
  have h₄ := h₃.step (Step.finish (show (⟨1, true, .panicked⟩ : Worker) ∈ _ by decide))
  have h₅ := h₄.step (Step.reap (List.Perm.refl _))
  have h₆ := h₅.step (Step.start _ .returned)
  have h₇ := h₆.step (Step.finish (show (⟨2, true, .returned⟩ : Worker) ∈ _ by decide))
  have horder : [⟨2, false, .returned⟩, ⟨0, false, .panicked⟩].Perm
      [(⟨0, false, .panicked⟩ : Worker), ⟨2, false, .returned⟩] := List.Perm.swap _ _ []
  have h₈ := h₇.step (Step.drain horder)
  exact h₈.step (Step.start _ .returned)

theorem register_accounts_for_workers_busyHistory :
    Reaches busyHistory ⟨[⟨3, true, .returned⟩], 4⟩ ∧
      Event.startedAll busyHistory = [0, 1, 2, 3] ∧ Event.joinedAll busyHistory = [1, 2, 0] ∧
      Event.countAll busyHistory + 1 = 4 :=
  have account := register_accounts_for_workers reaches_busyHistory
  ⟨reaches_busyHistory, account.1, rfl, account.2.2.2.2.1⟩

end Workers

end CommandLog
