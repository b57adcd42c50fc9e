import CommandLog.Proofs.Server.Beside
import CommandLog.Proofs.Server.Closing

/-!
# After a panic

An append that panics leaves the lock on the storage poisoned.  From then on every lock section is
refused before it touches the storage, so that the storage stays as the panic has left it until it is
closed: `Run.Poisoned` is the invariant, which the panicking step establishes
(`poisoned_of_step`) and every step keeps (`Poisoned.step`).

The main statement `panic_stops_service` puts it together with what the workers do then: whoever has
a command to carry out is closed without an answer, whoever has none goes on, and the way to the end
of the run is what it would be without the panic.
-/

namespace CommandLog

namespace Shared

variable {σ ρ : Type} [Storage σ ρ] {shared : Shared σ}

lemma append_of_poisoned (h : shared.poisoned = true) (data : Bytes) :
    (shared.append data).1 = shared := by
  rw [append, if_pos h]

lemma executeAll_of_poisoned (h : shared.poisoned = true) (commands : List Command) :
    shared.executeAll commands = shared := by
  induction commands with
  | nil => rfl
  | cons command others ih =>
    show ((shared.execute command).1).executeAll others = shared
    rw [(execute_of_poisoned h command).1, ih]

/-- The lock is poisoned by an append that panics and by nothing else. -/
lemma append_panics {data : Bytes} (h : shared.poisoned = false)
    (hpanic : (shared.append data).1.poisoned = true) :
    Storage.append shared.storage data = ((shared.append data).1.storage, .panicked) := by
  obtain ⟨storage, poisoned⟩ := shared
  simp only at h
  subst h
  unfold append at hpanic ⊢
  simp only [Bool.false_eq_true, if_false] at hpanic ⊢
  rcases happend : Storage.append storage data with ⟨after, _ | failure | _⟩
  · rw [happend] at hpanic
    exact absurd hpanic Bool.false_ne_true
  · rw [happend] at hpanic
    exact absurd hpanic Bool.false_ne_true
  · rfl

lemma execute_panics {command : Command} (h : shared.poisoned = false)
    (hpanic : (shared.execute command).1.poisoned = true) :
    ∃ data, Storage.append shared.storage data =
      ((shared.execute command).1.storage, .panicked) := by
  cases hstores : Request.stores command with
  | false =>
    rw [execute_of_not_stores hstores, h] at hpanic
    exact absurd hpanic Bool.false_ne_true
  | true =>
    have hstore : (shared.execute command).1 = (shared.append command.bytes).1 := by
      rw [execute_of_stores hstores, store]
      rcases shared.append command.bytes with ⟨after, stop | ⟨⟩⟩
      · rfl
      · rfl
    rw [hstore] at hpanic ⊢
    exact ⟨command.bytes, append_panics h hpanic⟩

end Shared

namespace Run

variable {σ ρ : Type} [Storage σ ρ] {run next : Run σ ρ} {taken : Step} {storage : σ}

/-- The lock is poisoned, and the storage is as it was when that happened, or as the closing has left
it since. -/
structure Poisoned (storage : σ) (run : Run σ ρ) : Prop where
  orderly : run.Orderly
  served : run.stage.isEarly = false
  standing : run.stage.hasReturned = false → run.shared = ⟨storage, true⟩
  returned : ∀ result, run.stage = .returned result →
    run.shared = ⟨(Storage.close storage).1, true⟩ ∧
      result = resultOf true run.outcome (Storage.close storage).2

lemma Poisoned.poisoned_eq (h : run.Poisoned storage) : run.shared.poisoned = true := by
  cases hstage : run.stage with
  | returned result => rw [(h.returned result hstage).1]
  | _ => rw [h.standing (by rw [hstage]; rfl)]

/-- Nothing changes while the main thread stays where it is. -/
lemma Poisoned.stay (h : run.Poisoned storage) (horderly : next.Orderly)
    (hstage : next.stage = run.stage) (hshared : next.shared = run.shared)
    (houtcome : next.outcome = run.outcome) : next.Poisoned storage where
  orderly := horderly
  served := by rw [hstage, h.served]
  standing := by
    rw [hstage, hshared]
    exact h.standing
  returned := by
    rw [hstage, hshared, houtcome]
    exact h.returned

/-- Nothing changes while the main thread is on its way to the closing. -/
lemma Poisoned.go (h : run.Poisoned storage) (horderly : next.Orderly)
    (hbefore : run.stage.hasReturned = false) (hserved : next.stage.isEarly = false)
    (hafter : next.stage.hasReturned = false) (hshared : next.shared = run.shared) :
    next.Poisoned storage where
  orderly := horderly
  served := hserved
  standing := fun _ => hshared.trans (h.standing hbefore)
  returned := by
    intro result hstage
    rw [hstage] at hafter
    exact absurd hafter.symm Bool.false_ne_true

lemma Poisoned.turn (h : run.Poisoned storage) (horderly : next.Orderly)
    (hturns : run.Turns taken next) : next.Poisoned storage := by
  have hserved := h.served
  cases hturns with
  | trigger => exact h.stay horderly rfl rfl rfl
  | bind hstage | bindFails fault hstage | setUp stamping hstage | setUpPoisoned hstage
  | setUpFails failure hstage =>
    rw [hstage] at hserved
    exact absurd hserved.symm Bool.false_ne_true
  | look hstage =>
    refine h.go horderly (by rw [hstage]; rfl) ?_ ?_ rfl
    · cases run.exiting <;> rfl
    · cases run.exiting <;> rfl
  | acceptFails fault hstage | registerFails fault hstage | interrupted hstage
  | stopTimestamps hstage => exact h.go horderly (by rw [hstage]; rfl) rfl rfl rfl

/-- Nothing behind a poisoned lock changes, except that the storage is closed. -/
lemma Poisoned.step (h : run.Poisoned storage) (hstep : run.step? taken = some next) :
    next.Poisoned storage := by
  have horderly := h.orderly.step hstep
  rcases step_cases hstep with hturns | ⟨-, hstage, rfl⟩ | ⟨-, hstage, rfl⟩ |
    ⟨served, -, hstage, rfl⟩ | ⟨entry, stamping, -, -, rfl⟩ | ⟨_, _, _, -, -, -, rfl⟩
  · exact h.turn horderly hturns
  · exact h.go horderly (by rw [hstage]; rfl) rfl rfl rfl
  · exact h.go horderly (by rw [hstage]; rfl) rfl rfl rfl
  · -- the storage is closed for a run that was served
    have hshared := h.standing (by rw [hstage]; rfl)
    have hserved := h.served
    rw [hstage] at hserved
    cases served with
    | false => exact absurd hserved.symm Bool.false_ne_true
    | true =>
      refine ⟨horderly, rfl, fun hopen => absurd hopen.symm Bool.false_ne_true, ?_⟩
      intro result hreturned
      cases hreturned
      rw [hshared]
      exact ⟨rfl, rfl⟩
  · exact h.stay horderly rfl (Shared.append_of_poisoned h.poisoned_eq _) rfl
  · exact h.stay horderly rfl (Shared.executeAll_of_poisoned h.poisoned_eq _) rfl

lemma Poisoned.stepAll {steps : List Step} {last : Run σ ρ} (h : run.Poisoned storage)
    (hsteps : run.stepAll? steps = some last) : last.Poisoned storage :=
  invariant_of_stepAll? (P := Run.Poisoned storage) Poisoned.step h hsteps

/-- The step that poisons the lock is an append, and it comes while the server is serving. -/
lemma poisoned_of_step (h : run.Orderly) (hstep : run.step? taken = some next)
    (hbefore : run.shared.poisoned = false) (hpanic : next.shared.poisoned = true) :
    (∃ data, Storage.append run.shared.storage data = (next.shared.storage, .panicked)) ∧
      next.Poisoned next.shared.storage := by
  have horderly := h.step hstep
  have hsame : next.shared ≠ run.shared := by
    intro heq
    rw [heq, hbefore] at hpanic
    exact absurd hpanic Bool.false_ne_true
  -- it comes neither before the serving nor behind it
  suffices hsuffices :
      (∃ data, Storage.append run.shared.storage data = (next.shared.storage, .panicked)) ∧
        next.stage.isEarly = false ∧ next.stage.isLate = false by
    obtain ⟨happend, hearly, hlate⟩ := hsuffices
    have hreturned : ∀ result, next.stage ≠ .returned result := by
      intro result hstage
      rw [hstage] at hlate
      exact absurd hlate.symm Bool.false_ne_true
    refine ⟨happend, horderly, hearly, ?_, fun result hstage => absurd hstage (hreturned result)⟩
    intro _
    rw [← hpanic]
  rcases step_cases hstep with hturns | ⟨-, -, rfl⟩ | ⟨-, -, rfl⟩ | ⟨served, -, -, rfl⟩ |
    ⟨entry, stamping, -, hstamping, rfl⟩ | ⟨_, _, _, -, -, -, rfl⟩
  · obtain ⟨-, _, _, _, _, -, rfl⟩ := hturns.frame
    exact absurd rfl hsame
  · exact absurd rfl hsame
  · exact absurd rfl hsame
  · exact absurd (hbefore.symm.trans hpanic) Bool.false_ne_true
  · exact ⟨⟨entry.bytes, Shared.append_panics hbefore hpanic⟩, h.serving_of_stamping hstamping⟩
  · rcases run.executed_cases taken with hnone | ⟨worker, there, command, waiting, -, hthere, hphase,
      hexecuted⟩
    · rw [hnone] at hsame
      exact absurd rfl hsame
    · rw [hexecuted] at hpanic ⊢
      refine ⟨Shared.execute_panics hbefore hpanic, h.serving_of_open hthere ?_⟩
      rw [Connection.hasEnded, hphase]

/-! ## The workers after a panic -/

variable {number : Nat} {connection : Connection ρ}

/-- A worker that has a command to carry out can do nothing else, and gives its connection up. -/
lemma Poisoned.step?_execute (h : run.Poisoned storage) {command : Command}
    {waiting : List Command} (hconnection : run.connections[number]? = some connection)
    (hphase : connection.phase = .executing command waiting) :
    ∃ failure, run.step? (.execute number) =
      some (run.setConnection number (connection.stopWith (some (.failed failure)))) := by
  obtain ⟨hsame, failure, hfailed⟩ := Shared.execute_of_poisoned h.poisoned_eq command
  exact ⟨failure, step?_of_refused hconnection hphase (Prod.ext hsame hfailed)⟩

/-- A worker that has no command to carry out does not look at the lock.  If it sends a reply, it
reads the storage; if it waits for bytes, not even that. -/
lemma step?_of_not_executing (hconnection : run.connections[number]? = some connection)
    (hphase : ∀ command waiting, connection.phase ≠ .executing command waiting)
    (hown : taken.connection? = some number) {shared : Shared σ}
    (hread : connection.phase = .receiving ∨ shared.storage = run.shared.storage) :
    ({ run with shared } : Run σ ρ).step? taken =
      (run.step? taken).map fun after => { after with shared } := by
  cases taken with
  | join n =>
    cases hown
    simp only [step?, hconnection, Option.bind_eq_bind, Option.bind_some]
    cases hstage : run.stage with
    | joining =>
      simp only [apply_ite (Option.map _), Option.map_some, Option.map_none, setConnection, hstage]
    | _ => rfl
  | send n room =>
    cases hown
    simp only [step?, hconnection, Option.bind_eq_bind, Option.bind_some]
    cases hsending : connection.phase with
    | replying reader waiting =>
      have hstorage : shared.storage = run.shared.storage := by
        refine hread.resolve_left fun hreceiving => ?_
        rw [hsending] at hreceiving
        cases hreceiving
      simp only [apply_ite (Option.map _), sendOn, hstorage]
      rcases Storage.read run.shared.storage reader room with fault | ⟨_ | ⟨byte, piece⟩, moved⟩ <;>
        rfl
    | _ => rfl
  | execute n =>
    cases hown
    simp only [step?, hconnection, Option.bind_eq_bind, Option.bind_some]
    cases hexecuting : connection.phase with
    | executing command waiting => exact absurd hexecuting (hphase command waiting)
    | _ => rfl
  | receive n piece | idle n =>
    cases hown
    simp only [step?, hconnection, Option.bind_eq_bind, Option.bind_some]
    cases connection.phase with
    | receiving =>
      simp only [apply_ite (Option.map _)]
      rfl
    | _ => rfl
  | finish n | abort n =>
    cases hown
    simp only [step?, hconnection, Option.bind_eq_bind, Option.bind_some]
    cases connection.phase <;> rfl
  | _ => cases hown

/-- What others do leaves an open connection as it is. -/
lemma connection_of_other_step (hstep : run.step? taken = some next)
    (hother : taken.connection? ≠ some number)
    (hconnection : run.connections[number]? = some connection)
    (hopen : connection.hasEnded = false) : next.connections[number]? = some connection := by
  have hpass : taken.pass connection = connection := by
    cases taken with
    | reap =>
      show connection.joinEnded = connection
      rw [Connection.joinEnded, hopen]
      rfl
    | _ => rfl
  rw [← hpass]
  exact getElem?_of_step?_setConnection hconnection hstep
    (step?_setConnection hconnection hother fun _ => rfl)

/-- A worker that has a command to carry out sends nothing any more: it waits for its turn, and then
its connection is closed. -/
lemma Poisoned.stepAll?_of_executing (h : run.Poisoned storage) {command : Command}
    {waiting : List Command} (hconnection : run.connections[number]? = some connection)
    (hphase : connection.phase = .executing command waiting) {steps : List Step} {last : Run σ ρ}
    (hsteps : run.stepAll? steps = some last) :
    ∃ there, last.connections[number]? = some there ∧ there.sent = connection.sent ∧
      (there = connection ∨ there.hasEnded = true) := by
  have hopen : connection.hasEnded = false := by rw [Connection.hasEnded, hphase]
  induction steps generalizing run with
  | nil =>
    cases hsteps
    exact ⟨connection, hconnection, rfl, .inl rfl⟩
  | cons taken others ih =>
    obtain ⟨next, hstep, hlast, -⟩ := stepAll?_cons hsteps
    by_cases hown : taken.connection? = some number
    · obtain rfl := eq_execute_of_executing hconnection hphase hown hstep
      obtain ⟨failure, hexecute⟩ := h.step?_execute hconnection hphase
      rw [hexecute, Option.some.injEq] at hstep
      have hclosed : next.connections[number]? =
          some (connection.stopWith (some (.failed failure))) := by
        rw [← hstep]
        exact getElem?_setConnection hconnection _
      obtain ⟨-, -, joined, hthere⟩ := stepAll?_of_hasEnded hlast hclosed rfl
      exact ⟨_, hthere, rfl, .inr rfl⟩
    · exact ih (h.step hstep) (connection_of_other_step hstep hown hconnection hopen) hlast

/-- Whatever the storage, the settings and the history: after an append that panics, the storage stays
as the panic has left it, until it is closed.  Whoever has a command to carry out then, or later, is
closed when its turn comes, and nothing is sent to it any more.  A worker that has none goes on as it
would behind any other lock, whatever the others do; even the storage matters only to one that still
sends a reply.  And when the run has ended, every worker was joined and the storage was closed once,
and if nothing failed before, the result is that of the closing; and it can always come to this. -/
theorem panic_stops_service {settings : Settings} {before later : List Step} {last : Run σ ρ}
    (h : (initial settings storage).stepAll? before = some run)
    (hstep : run.step? taken = some next) (hbefore : run.shared.poisoned = false)
    (hpanic : next.shared.poisoned = true) (hlater : next.stepAll? later = some last) :
    let closed := Storage.close next.shared.storage
    (∃ data, Storage.append run.shared.storage data = (next.shared.storage, .panicked)) ∧
    ((∀ result, last.stage ≠ .returned result) → last.shared = next.shared) ∧
    (∀ number connection command waiting, last.connections[number]? = some connection →
      connection.phase = .executing command waiting →
      (∃ failure, last.step? (.execute number) =
        some (last.setConnection number (connection.stopWith (some (.failed failure))))) ∧
      ∀ more final, last.stepAll? more = some final →
        ∃ there, final.connections[number]? = some there ∧ there.sent = connection.sent ∧
          (there = connection ∨ there.hasEnded = true)) ∧
    (∀ number connection, last.connections[number]? = some connection →
      connection.hasEnded = false →
      (∀ command waiting, connection.phase ≠ .executing command waiting) →
      (∀ taken after, taken.connection? ≠ some number → last.step? taken = some after →
        after.connections[number]? = some connection) ∧
      ∀ taken shared, taken.connection? = some number →
        connection.phase = .receiving ∨ shared.storage = last.shared.storage →
        ({ last with shared } : Run σ ρ).step? taken =
          (last.step? taken).map fun after => { after with shared }) ∧
    (∀ result, last.stage = .returned result →
      (∀ connection ∈ last.connections, connection.joined = true) ∧ last.closings = 1 ∧
      last.shared = ⟨closed.1, true⟩ ∧ (last.outcome = .ok () → result = closed.2)) ∧
    (∃ more final result, last.stepAll? more = some final ∧ final.outcome = last.outcome ∧
      final.stage = .returned result) := by
  have horderly := (orderly_initial settings storage : (initial settings storage : Run σ ρ).Orderly)
  obtain ⟨happend, hpoisoned⟩ := poisoned_of_step (horderly.stepAll h) hstep hbefore hpanic
  have hlast := hpoisoned.stepAll hlater
  intro closed
  refine ⟨happend, ?_, ?_, ?_, ?_, ?_⟩
  · intro hreturned
    have hstanding : last.stage.hasReturned = false := by
      cases hstage : last.stage with
      | returned result => exact absurd hstage (hreturned result)
      | _ => rfl
    rw [hlast.standing hstanding, ← hpanic]
  · intro number connection command waiting hconnection hphase
    exact ⟨hlast.step?_execute hconnection hphase,
      fun more final => hlast.stepAll?_of_executing hconnection hphase⟩
  · intro number connection hconnection hopen hphase
    refine ⟨?_, fun taken shared hown => step?_of_not_executing hconnection hphase hown⟩
    exact fun taken after hother htaken => connection_of_other_step htaken hother hconnection hopen
  · intro result hstage
    obtain ⟨hshared, hresult⟩ := hlast.returned result hstage
    refine ⟨hlast.orderly.late (by rw [hstage]; rfl), ?_, hshared, ?_⟩
    · rw [hlast.orderly.closings_eq, hstage]
      rfl
    · intro houtcome
      rw [hresult, houtcome]
      rfl
  · obtain ⟨final, result, ⟨more, hmore⟩, houtcome, hstage⟩ := exists_returned hlast.served
    exact ⟨more, final, result, hmore, houtcome, hstage⟩

/-- The command of connection 0 makes the append panic; that of connection 1 is complete only then, and
is not answered.  The storage that is closed afterwards refuses, and that is how the run ends. -/
theorem panic_stops_service_memory :
    let storage : MemoryStore := ⟨[], none, some [98, 10], true, false, 0⟩
    ∃ run next last : Run MemoryStore Snapshot,
      (initial ⟨true, 0⟩ storage).stepAll?
        [.bind, .setUp, .look, .accept, .reap, .look, .accept, .receive 0 [98, 10],
          .receive 1 [97]] = some run ∧
      run.step? (.execute 0) = some next ∧ run.shared.poisoned = false ∧
      next.shared.poisoned = true ∧
      next.stepAll? [.receive 1 [10], .execute 1, .reap, .trigger, .look, .stopTimestamps, .close] =
        some last ∧
      last.stage = .returned (.error (.refused "close failed")) ∧
      (∀ connection ∈ last.connections, connection.joined = true) ∧ last.closings = 1 ∧
      last.shared = ⟨{ storage with closings := 1 }, true⟩ := by
  intro storage
  obtain ⟨run, next, last, hrun, hnext, hbefore, hpanic, hlast, hstage, hshared⟩ :
      ∃ run next last : Run MemoryStore Snapshot,
        (initial ⟨true, 0⟩ storage).stepAll?
          [.bind, .setUp, .look, .accept, .reap, .look, .accept, .receive 0 [98, 10],
            .receive 1 [97]] = some run ∧
        run.step? (.execute 0) = some next ∧ run.shared.poisoned = false ∧
        next.shared.poisoned = true ∧
        next.stepAll?
          [.receive 1 [10], .execute 1, .reap, .trigger, .look, .stopTimestamps, .close] =
          some last ∧
        last.stage = .returned (.error (.refused "close failed")) ∧
        next.shared = ⟨storage, true⟩ :=
    ⟨_, _, _, rfl, rfl, rfl, rfl, rfl, rfl, rfl⟩
  obtain ⟨-, -, -, -, hend, -⟩ := panic_stops_service hrun hnext hbefore hpanic hlast
  obtain ⟨hjoined, hclosings, hclosed, -⟩ := hend _ hstage
  rw [hshared] at hclosed
  exact ⟨run, next, last, hrun, hnext, hbefore, hpanic, hlast, hstage, hjoined, hclosings, hclosed⟩

end Run

end CommandLog
