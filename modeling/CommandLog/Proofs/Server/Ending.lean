import CommandLog.Proofs.Server.Closing

/-!
# How a run ends

A run can end in many ways: the address cannot be bound, the server cannot be set up, it is asked to
stop before it serves anybody or while workers wait, work or have panicked, or no connection can be
accepted any more.  Whichever it is, the storage is closed once, and by then every worker is joined
and the timestamps have stopped, so that nothing is appended later: once the run has returned,
`trigger_of_returned` leaves no step but one more request to stop.

How the run ends depends on what went wrong before.  `Run.troubles` reads that off a history, and
`Run.Troubled` is the invariant that ties it to the stage of the main thread: a run meets one trouble at
most, and from there on it is on its way out.  `Ends` are the rules for the result.  The main statement
`closed_once_at_the_end` puts these together.
-/

namespace CommandLog

namespace Run

/-- What goes wrong for the main thread. -/
inductive Trouble where
  /-- The address cannot be bound, or the server cannot be set up. -/
  | starting (failure : Failure)
  /-- No connection can be accepted any more, or an accepted one gets no worker. -/
  | serving (failure : Failure)

/-- How a run ends that met these troubles, from how the closing of the storage ended. -/
inductive Ends : List Trouble → (closed result : Except Failure Unit) → Prop where
  | untroubled (closed : Except Failure Unit) : Ends [] closed closed
  | serving (failure : Failure) (closed : Except Failure Unit) :
    Ends [.serving failure] closed (.error failure)
  | starting (failure : Failure) : Ends [.starting failure] (.ok ()) (.error failure)
  | startingUnclosed (failure closing : Failure) :
    Ends [.starting failure] (.error closing) (.error closing)

section Begins

variable {σ ρ : Type}

/-- The server is about to run, on an address that is to be bound or on one that is bound already.
It may have been asked to stop by now. -/
structure Begins (run : Run σ ρ) : Prop where
  stage : run.stage = .binding ∨ run.stage = .settingUp
  connections_eq : run.connections = []
  stamping_eq : run.stamping = false
  outcome_eq : run.outcome = .ok ()
  closings_eq : run.closings = 0

/-- What goes wrong in a step.  That accepting fails is no trouble once the server is asked to stop. -/
def trouble? (run : Run σ ρ) : Step → Option Trouble
  | .bindFails fault => some (.starting (.io fault))
  | .setUp =>
    if run.settings.interval ≠ 0 ∧ run.shared.poisoned = true then some (.starting .lockPoisoned)
    else none
  | .setUpFails failure => some (.starting failure)
  | .acceptFails fault => if run.exiting then none else some (.serving (.io fault))
  | .registerFails fault => some (.serving (.io fault))
  | _ => none

/-- The step accepts a connection, whose worker is registered. -/
def Step.accepts : Step → Bool
  | .accept => true
  | _ => false

end Begins

variable {σ ρ : Type} [Storage σ ρ] {run next start last : Run σ ρ} {taken : Step}
  {steps : List Step} {met : List Trouble}

/-- All that goes wrong in a history. -/
def troubles (run : Run σ ρ) : List Step → List Trouble
  | [] => []
  | step :: others =>
    match run.step? step with
    | some next => (run.trouble? step).toList ++ next.troubles others
    | none => []

/-! ## Before the closing -/

/-- A run that has not returned has met these troubles so far. -/
inductive Troubled (run : Run σ ρ) : List Trouble → Prop where
  | untroubled (houtcome : run.outcome = .ok ()) (hstage : run.stage ≠ .closing false)
    (hreturned : run.stage.hasReturned = false) : Troubled run []
  | starting (failure : Failure) (houtcome : run.outcome = .error failure)
    (hstage : run.stage = .closing false) : Troubled run [.starting failure]
  | serving (failure : Failure) (houtcome : run.outcome = .error failure)
    (hstage : run.stage = .joining ∨ run.stage = .closing true) : Troubled run [.serving failure]

omit [Storage σ ρ] in
lemma Begins.orderly (h : start.Begins) : start.Orderly where
  early := fun _ => h.connections_eq
  late := by
    intro _ connection hmem
    rw [h.connections_eq] at hmem
    exact absurd hmem List.not_mem_nil
  quiet := fun _ => h.stamping_eq
  ended := by
    intro connection hmem
    rw [h.connections_eq] at hmem
    exact absurd hmem List.not_mem_nil
  closings_eq := by
    rw [h.closings_eq]
    rcases h.stage with hstage | hstage <;> rw [hstage] <;> rfl

omit [Storage σ ρ] in
lemma Begins.troubled (h : start.Begins) : start.Troubled [] := by
  rcases h.stage with hstage | hstage
  · exact .untroubled h.outcome_eq (by simp [hstage]) (by rw [hstage]; rfl)
  · exact .untroubled h.outcome_eq (by simp [hstage]) (by rw [hstage]; rfl)

omit [Storage σ ρ] in
lemma Troubled.standing (h : run.Troubled met) : run.stage.hasReturned = false := by
  cases h with
  | untroubled houtcome hstage hreturned => exact hreturned
  | starting failure houtcome hstage => rw [hstage]; rfl
  | serving failure houtcome hstage => rcases hstage with hstage | hstage <;> rw [hstage] <;> rfl

omit [Storage σ ρ] in
/-- Until the main thread is on its way out, nothing went wrong. -/
lemma Troubled.nothing (h : run.Troubled met) (hjoining : run.stage ≠ .joining)
    (hlate : run.stage.isLate = false) : met = [] ∧ run.outcome = .ok () := by
  cases h with
  | untroubled houtcome hstage hreturned => exact ⟨rfl, houtcome⟩
  | starting failure houtcome hstage =>
    rw [hstage] at hlate
    cases hlate
  | serving failure houtcome hstage =>
    rcases hstage with hstage | hstage
    · exact absurd hstage hjoining
    · rw [hstage] at hlate
      cases hlate

omit [Storage σ ρ] in
/-- Nothing went wrong meanwhile. -/
lemma Troubled.stay (h : run.Troubled met) (hstage : next.stage = run.stage)
    (houtcome : next.outcome = run.outcome) : next.Troubled met := by
  cases h with
  | untroubled ho hs hr =>
    exact .untroubled (houtcome.trans ho) (by rw [hstage]; exact hs) (by rw [hstage]; exact hr)
  | starting failure ho hs => exact .starting failure (houtcome.trans ho) (hstage.trans hs)
  | serving failure ho hs =>
    exact .serving failure (houtcome.trans ho) (hs.imp hstage.trans hstage.trans)

/-- To set the server up works out, unless it would look for timestamps behind a poisoned lock. -/
lemma trouble?_setUp (hstage : run.stage = .settingUp) (hstep : run.step? .setUp = some next) :
    (run.trouble? .setUp = none ∧ next.stage = .looking) ∨
      (run.trouble? .setUp = some (.starting .lockPoisoned) ∧ next.stage = .closing false) := by
  simp only [step?, hstage] at hstep
  unfold trouble?
  split at hstep
  · next hinterval =>
    cases hstep
    exact .inl ⟨if_neg fun hboth => hboth.1 hinterval, rfl⟩
  · next hinterval =>
    split at hstep
    · next hpoisoned =>
      cases hstep
      exact .inr ⟨if_pos ⟨hinterval, hpoisoned⟩, rfl⟩
    · next hpoisoned =>
      cases hstep
      exact .inl ⟨if_neg fun hboth => hpoisoned hboth.2, rfl⟩

/-- What the main thread does on its own adds the trouble that it meets, if it meets any. -/
lemma Troubled.turn (h : run.Troubled met) (hstep : run.step? taken = some next)
    (hturns : run.Turns taken next) : next.Troubled (met ++ (run.trouble? taken).toList) := by
  -- before the way out there was no trouble, so that the one met now is the only one
  have hfirst : ∀ {stage : Stage}, run.stage = stage → stage ≠ .joining → stage.isLate = false →
      met = [] ∧ run.outcome = .ok () := by
    rintro stage rfl hjoining hlate
    exact h.nothing hjoining hlate
  cases hturns with
  | trigger =>
    rw [show run.trouble? .trigger = none from rfl, Option.toList_none, List.append_nil]
    exact h.stay rfl rfl
  | bind hstage =>
    obtain ⟨rfl, houtcome⟩ := hfirst hstage (by simp) rfl
    exact .untroubled houtcome (by simp) rfl
  | bindFails fault hstage =>
    obtain ⟨rfl, -⟩ := hfirst hstage (by simp) rfl
    exact .starting _ rfl rfl
  | setUpFails failure hstage =>
    obtain ⟨rfl, -⟩ := hfirst hstage (by simp) rfl
    exact .starting _ rfl rfl
  | setUp stamping hstage =>
    obtain ⟨rfl, houtcome⟩ := hfirst hstage (by simp) rfl
    rcases trouble?_setUp hstage hstep with ⟨hnone, -⟩ | ⟨-, hclosing⟩
    · rw [hnone]
      exact .untroubled houtcome (by simp) rfl
    · cases hclosing
  | setUpPoisoned hstage hpoisoned =>
    obtain ⟨rfl, -⟩ := hfirst hstage (by simp) rfl
    rcases trouble?_setUp hstage hstep with ⟨-, hlooking⟩ | ⟨hsome, -⟩
    · cases hlooking
    · rw [hsome]
      exact .starting _ rfl rfl
  | look hstage =>
    obtain ⟨rfl, houtcome⟩ := hfirst hstage (by simp) rfl
    cases run.exiting with
    | true => exact .untroubled houtcome (by simp) rfl
    | false => exact .untroubled houtcome (by simp) rfl
  | acceptFails fault hstage =>
    obtain ⟨rfl, houtcome⟩ := hfirst hstage (by simp) rfl
    rw [trouble?]
    cases run.exiting with
    | true => exact .untroubled houtcome (by simp) rfl
    | false => exact .serving _ rfl (.inl rfl)
  | registerFails fault hstage =>
    obtain ⟨rfl, -⟩ := hfirst hstage (by simp) rfl
    exact .serving _ rfl (.inl rfl)
  | interrupted hstage hexiting =>
    obtain ⟨rfl, houtcome⟩ := hfirst hstage (by simp) rfl
    exact .untroubled houtcome (by simp) rfl
  | stopTimestamps hstage hjoined =>
    rw [show run.trouble? .stopTimestamps = none from rfl, Option.toList_none, List.append_nil]
    cases h with
    | untroubled houtcome => exact .untroubled houtcome (by simp) rfl
    | starting failure houtcome hclosing =>
      rw [hstage] at hclosing
      cases hclosing
    | serving failure houtcome => exact .serving failure houtcome (.inr rfl)

omit [Storage σ ρ] in
/-- The workers meet no trouble of the main thread, and accept nothing. -/
lemma quiet_of_connection? (run : Run σ ρ) {number : Nat} (h : taken.connection? = some number) :
    run.trouble? taken = none ∧ taken.accepts = false := by
  cases taken <;> first | exact ⟨rfl, rfl⟩ | cases h

/-- Every step but the closing keeps the record of troubles. -/
lemma Troubled.step (h : run.Troubled met) (hstep : run.step? taken = some next)
    (hclose : taken ≠ .close) : next.Troubled (met ++ (run.trouble? taken).toList) := by
  have hquiet : run.trouble? taken = none → next.Troubled met →
      next.Troubled (met ++ (run.trouble? taken).toList) := by
    intro hnone hnext
    rw [hnone, Option.toList_none, List.append_nil]
    exact hnext
  rcases step_cases hstep with hturns | ⟨rfl, hstage, rfl⟩ | ⟨rfl, hstage, rfl⟩ | ⟨_, rfl, -, -⟩ |
    ⟨_, _, rfl, -, rfl⟩ | ⟨_, _, _, hworker, -, -, rfl⟩
  · exact h.turn hstep hturns
  · obtain ⟨rfl, houtcome⟩ := h.nothing (by simp [hstage]) (by rw [hstage]; rfl)
    exact .untroubled houtcome (by simp) rfl
  · obtain ⟨rfl, houtcome⟩ := h.nothing (by simp [hstage]) (by rw [hstage]; rfl)
    exact .untroubled houtcome (by simp) rfl
  · exact absurd rfl hclose
  · exact hquiet rfl (h.stay rfl rfl)
  · exact hquiet (quiet_of_connection? run hworker).1 (h.stay rfl rfl)

lemma Troubled.stepAll (h : run.Troubled met) (hsteps : run.stepAll? steps = some last)
    (hclose : .close ∉ steps) : last.Troubled (met ++ run.troubles steps) := by
  induction steps generalizing run met with
  | nil =>
    cases hsteps
    rw [troubles, List.append_nil]
    exact h
  | cons step others ih =>
    obtain ⟨next, hstep, hlast, -⟩ := stepAll?_cons hsteps
    rw [List.mem_cons, not_or] at hclose
    have hnext := ih (h.step hstep (Ne.symm hclose.1)) hlast hclose.2
    rw [List.append_assoc] at hnext
    rw [troubles, hstep]
    exact hnext

/-! ## The closing and after -/

omit [Storage σ ρ] in
lemma Troubled.ends {served : Bool} (h : run.Troubled met) (hstage : run.stage = .closing served)
    (closed : Except Failure Unit) : Ends met closed (resultOf served run.outcome closed) := by
  cases h with
  | untroubled houtcome =>
    rw [houtcome]
    exact .untroubled closed
  | starting failure houtcome hclosing =>
    rw [houtcome]
    rw [hstage] at hclosing
    cases hclosing
    rcases closed with closing | ⟨⟩
    · exact .startingUnclosed failure closing
    · exact .starting failure
  | serving failure houtcome hclosing =>
    rw [houtcome]
    rw [hstage] at hclosing
    rcases hclosing with hclosing | hclosing
    · cases hclosing
    · cases hclosing
      rcases closed with closing | ⟨⟩
      · exact .serving failure (.error closing)
      · exact .serving failure (.ok ())

/-- A worker that has ended can only be joined, and only while the main thread waits for it. -/
lemma stage_of_hasEnded {number : Nat} {connection : Connection ρ}
    (hconnection : run.connections[number]? = some connection)
    (hended : connection.hasEnded = true) (hown : taken.connection? = some number)
    (hstep : run.step? taken = some next) : run.stage = .joining := by
  obtain ⟨stop, hphase⟩ := Connection.exists_stop_of_hasEnded hended
  cases taken with
  | join n =>
    simp only [step?] at hstep
    split at hstep
    · next hstage => exact hstage
    · cases hstep
  | receive n piece | execute n | send n room | finish n | abort n | idle n =>
    cases hown
    simp only [step?, hconnection, Option.bind_eq_bind, Option.bind_some, hphase] at hstep
    cases hstep
  | _ => cases hown

/-- When the run has returned, nobody does anything any more; the server can still be asked to stop. -/
lemma trigger_of_returned (h : run.Orderly) (hreturned : run.stage.hasReturned = true)
    (hstep : run.step? taken = some next) :
    taken = .trigger ∧ next = { run with exiting := true } := by
  have hlate : run.stage.isLate = true := by
    cases hstage : run.stage with
    | returned result => rfl
    | _ =>
      rw [hstage] at hreturned
      cases hreturned
  rcases step_cases hstep with hturns | ⟨-, hstage, -⟩ | ⟨-, hstage, -⟩ | ⟨_, -, hstage, -⟩ |
    ⟨_, _, -, hstamping, -⟩ | ⟨number, before, _, hworker, hbefore, -, -⟩
  · cases hturns with
    | trigger => exact ⟨rfl, rfl⟩
    | bind hstage | bindFails fault hstage | setUp stamping hstage | setUpPoisoned hstage
    | setUpFails failure hstage | look hstage | acceptFails fault hstage
    | registerFails fault hstage | interrupted hstage | stopTimestamps hstage =>
      rw [hstage] at hreturned
      cases hreturned
  · rw [hstage] at hreturned
    cases hreturned
  · rw [hstage] at hreturned
    cases hreturned
  · rw [hstage] at hreturned
    cases hreturned
  · rw [h.quiet (.inr hlate)] at hstamping
    cases hstamping
  · have hmem := List.mem_of_getElem? hbefore
    have hjoining := stage_of_hasEnded hbefore (h.ended before hmem (h.late hlate before hmem))
      hworker hstep
    rw [hjoining] at hreturned
    cases hreturned

/-- So everything stays as the closing has left it. -/
lemma triggers_of_returned (h : run.Orderly) (hreturned : run.stage.hasReturned = true)
    (hsteps : run.stepAll? steps = some last) :
    (∀ step ∈ steps, step = .trigger) ∧ ∃ exiting, last = { run with exiting } := by
  induction steps generalizing run with
  | nil =>
    cases hsteps
    exact ⟨fun _ hmem => absurd hmem List.not_mem_nil, _, rfl⟩
  | cons step others ih =>
    obtain ⟨next, hstep, hlast, -⟩ := stepAll?_cons hsteps
    obtain ⟨rfl, rfl⟩ := trigger_of_returned h hreturned hstep
    obtain ⟨hothers, exiting, rfl⟩ := ih (h.step hstep) hreturned hlast
    exact ⟨List.forall_mem_cons.2 ⟨rfl, hothers⟩, exiting, rfl⟩

/-! ## Whole runs -/

/-- Every connection that was accepted is still accounted for. -/
lemma length_connections_of_stepAll? (hsteps : run.stepAll? steps = some last) :
    last.connections.length = run.connections.length + steps.countP Step.accepts := by
  induction steps generalizing run with
  | nil =>
    cases hsteps
    rfl
  | cons step others ih =>
    obtain ⟨next, hstep, hlast, -⟩ := stepAll?_cons hsteps
    suffices hlength : next.connections.length =
        run.connections.length + if step.accepts = true then 1 else 0 by
      rw [ih hlast, hlength, List.countP_cons, Nat.add_assoc, Nat.add_comm (ite _ _ _)]
    rcases step_cases hstep with hturns | ⟨rfl, -, rfl⟩ | ⟨rfl, -, rfl⟩ | ⟨_, rfl, -, rfl⟩ |
      ⟨_, _, rfl, -, rfl⟩ | ⟨_, _, _, hworker, -, -, rfl⟩
    · cases hturns <;> rfl
    · exact List.length_append
    · exact List.length_map _
    · rfl
    · rfl
    · rw [(quiet_of_connection? run hworker).2]
      exact List.length_set

/-- What a closing leaves behind. -/
def closed (run : Run σ ρ) (served : Bool) : Run σ ρ :=
  { run with
    shared := { run.shared with storage := (Storage.close run.shared.storage).1 }
    closings := run.closings + 1
    stage := .returned (resultOf served run.outcome (Storage.close run.shared.storage).2) }

lemma step?_close {served : Bool} (hstage : run.stage = .closing served) :
    run.step? .close = some (run.closed served) := by
  simp only [step?, hstage, closed]

/-- Every run can come to its end, also one that nobody was served in. -/
lemma exists_end (run : Run σ ρ) :
    ∃ last result, run.LeadsTo last ∧ last.stage = .returned result := by
  have hserved : ∀ {between : Run σ ρ}, between.stage.isEarly = false →
      ∃ last result, between.LeadsTo last ∧ last.stage = .returned result := by
    intro between hearly
    obtain ⟨last, result, hleads, -, hreturned⟩ := exists_returned hearly
    exact ⟨last, result, hleads, hreturned⟩
  have hclosing : ∀ {between : Run σ ρ}, between.stage = .closing false →
      ∃ last result, between.LeadsTo last ∧ last.stage = .returned result :=
    fun hstage => ⟨_, _, .step (step?_close hstage) (.refl _), rfl⟩
  have hsetUp : ∀ {between : Run σ ρ}, between.stage = .settingUp →
      ∃ last result, between.LeadsTo last ∧ last.stage = .returned result := by
    intro between hstage
    obtain ⟨next, hstep⟩ : ∃ next, between.step? .setUp = some next := by
      simp only [step?, hstage]
      split
      · exact ⟨_, rfl⟩
      · split <;> exact ⟨_, rfl⟩
    rcases trouble?_setUp hstage hstep with ⟨-, hnext⟩ | ⟨-, hnext⟩
    · obtain ⟨last, result, hleads, hreturned⟩ := hserved (by rw [hnext]; rfl)
      exact ⟨last, result, .step hstep hleads, hreturned⟩
    · obtain ⟨last, result, hleads, hreturned⟩ := hclosing hnext
      exact ⟨last, result, .step hstep hleads, hreturned⟩
  cases hstage : run.stage with
  | binding =>
    have hbind : run.step? .bind = some { run with stage := .settingUp } := by
      simp only [step?, hstage]
    obtain ⟨last, result, hleads, hreturned⟩ :=
      hsetUp (show ({ run with stage := .settingUp } : Run σ ρ).stage = .settingUp from rfl)
    exact ⟨last, result, .step hbind hleads, hreturned⟩
  | settingUp => exact hsetUp hstage
  | closing served =>
    cases served with
    | false => exact hclosing hstage
    | true => exact hserved (by rw [hstage]; rfl)
  | _ => exact hserved (by rw [hstage]; rfl)

/-- A history in which the storage is closed can be parted at the closing.  Behind it come only
requests to stop. -/
lemma exists_closing (hstart : start.Begins) (h : start.stepAll? steps = some last)
    (hmem : .close ∈ steps) :
    ∃ before after closing served exiting, steps = before ++ .close :: after ∧ .close ∉ before ∧
      start.stepAll? before = some closing ∧ closing.stage = .closing served ∧
      (∀ step ∈ after, step = .trigger) ∧ last = { closing.closed served with exiting } := by
  obtain ⟨before, after, rfl, hbefore⟩ := List.eq_append_cons_of_mem hmem
  rw [stepAll?_append] at h
  obtain ⟨closing, hclosing, h⟩ := Option.bind_eq_some_iff.1 h
  obtain ⟨next, hstep, hlast, -⟩ := stepAll?_cons h
  obtain ⟨served, hstage⟩ : ∃ served, closing.stage = .closing served := by
    simp only [step?] at hstep
    split at hstep
    · next served hstage => exact ⟨served, hstage⟩
    · cases hstep
  have hnext : next = closing.closed served := by
    rw [step?_close hstage] at hstep
    exact (Option.some.inj hstep).symm
  have horderly : next.Orderly := (hstart.orderly.stepAll hclosing).step hstep
  obtain ⟨hafter, exiting, hlast⟩ :=
    triggers_of_returned horderly (by rw [hnext]; rfl) hlast
  refine ⟨before, after, closing, served, exiting, rfl, hbefore, hclosing, hstage, hafter, ?_⟩
  rw [hlast, hnext]

/-- Whatever the storage and however a run goes, the storage is not closed as long as the run has not
returned, and once when it has.  At the closing, every worker that was ever registered has ended and is
joined, and no timestamps are written; behind it nothing happens but that the server is asked to stop
again, so that the storage and the connections stay as they are.  If nothing went wrong, the result is
that of the closing.  If accepting failed, it is that failure; if binding or setting up failed, it is
that failure as well, unless the closing fails, too.  And every run can come to its end. -/
theorem closed_once_at_the_end (hstart : start.Begins) (h : start.stepAll? steps = some last) :
    ((∀ result, last.stage ≠ .returned result) → .close ∉ steps ∧ last.closings = 0) ∧
    (∀ result, last.stage = .returned result →
      last.closings = 1 ∧
      ∃ before after closing, steps = before ++ .close :: after ∧ .close ∉ before ∧
        start.stepAll? before = some closing ∧
        closing.connections.length = steps.countP Step.accepts ∧
        (∀ connection ∈ closing.connections,
          connection.hasEnded = true ∧ connection.joined = true) ∧
        closing.stamping = false ∧ (∀ step ∈ after, step = .trigger) ∧
        last.connections = closing.connections ∧
        last.shared =
          { closing.shared with storage := (Storage.close closing.shared.storage).1 } ∧
        Ends (start.troubles before) (Storage.close closing.shared.storage).2 result) ∧
    (∃ more final result, last.stepAll? more = some final ∧ final.stage = .returned result) := by
  refine ⟨?_, ?_, ?_⟩
  · intro hreturned
    have hnever : .close ∉ steps := by
      intro hmem
      obtain ⟨_, _, _, _, _, -, -, -, -, -, rfl⟩ := exists_closing hstart h hmem
      exact hreturned _ rfl
    refine ⟨hnever, ?_⟩
    rw [(hstart.orderly.stepAll h).closings_eq, (hstart.troubled.stepAll h hnever).standing]
    rfl
  · intro result hresult
    have hmem : .close ∈ steps := by
      by_contra hnever
      have hstanding := (hstart.troubled.stepAll h hnever).standing
      rw [hresult] at hstanding
      cases hstanding
    obtain ⟨before, after, closing, served, exiting, rfl, hbefore, hclosing, hstage, hafter, rfl⟩ :=
      exists_closing hstart h hmem
    have horderly := hstart.orderly.stepAll hclosing
    have hlate : closing.stage.isLate = true := by
      rw [hstage]
      rfl
    have hlength : (closing.closed served).connections.length =
        (before ++ .close :: after).countP Step.accepts := by
      have hcount := length_connections_of_stepAll? h
      rw [hstart.connections_eq, List.length_nil, Nat.zero_add] at hcount
      exact hcount
    have hends := (hstart.troubled.stepAll hclosing hbefore).ends hstage
      (Storage.close closing.shared.storage).2
    cases hresult
    refine ⟨?_, before, after, closing, rfl, hbefore, hclosing, hlength, ?_,
      horderly.quiet (.inr hlate), hafter, rfl, rfl, hends⟩
    · exact (hstart.orderly.stepAll h).closings_eq
    · intro connection hmem
      have hjoined := horderly.late hlate connection hmem
      exact ⟨horderly.ended connection hmem hjoined, hjoined⟩
  · obtain ⟨final, result, ⟨more, hmore⟩, hreturned⟩ := exists_end last
    exact ⟨more, final, result, hmore, hreturned⟩

/-- A server that was asked to stop before it was bound, cannot be bound, and cannot close its storage
either; and one whose worker 0 has panicked and whose worker 1 waits for bytes when accepting fails. -/
theorem closed_once_at_the_end_memory :
    let start : Run MemoryStore Snapshot :=
      initial ⟨true, 0⟩ ⟨[], none, some [98, 10], true, false, 0⟩
    let failed : List Step := [.trigger, .bindFails .addressInUse, .close]
    let served : List Step :=
      [.bind, .setUp, .look, .accept, .reap, .look, .accept, .receive 0 [98, 10], .execute 0, .reap,
        .look, .acceptFails .connectionReset, .finish 1, .join 1, .stopTimestamps, .close, .trigger]
    start.Begins ∧
      (∃ last, start.stepAll? failed = some last ∧
        last.stage = .returned (.error (.refused "close failed")) ∧ last.closings = 1) ∧
      ∃ last, start.stepAll? served = some last ∧
        last.stage = .returned (.error (.io .connectionReset)) ∧ last.closings = 1 ∧
        ∃ before after closing, served = before ++ .close :: after ∧
          start.stepAll? before = some closing ∧ closing.connections.length = 2 ∧
          (∀ connection ∈ closing.connections,
            connection.hasEnded = true ∧ connection.joined = true) ∧
          ∀ step ∈ after, step = .trigger := by
  intro start failed served
  have hstart : start.Begins := ⟨.inl rfl, rfl, rfl, rfl, rfl⟩
  obtain ⟨last, hlast, hstage⟩ : ∃ last, start.stepAll? failed = some last ∧
      last.stage = .returned (.error (.refused "close failed")) := ⟨_, rfl, rfl⟩
  obtain ⟨last', hlast', hstage'⟩ : ∃ last, start.stepAll? served = some last ∧
      last.stage = .returned (.error (.io .connectionReset)) := ⟨_, rfl, rfl⟩
  obtain ⟨-, hreturned, -⟩ := closed_once_at_the_end hstart hlast
  obtain ⟨-, hreturned', -⟩ := closed_once_at_the_end hstart hlast'
  obtain ⟨hclosings, before, after, closing, hsplit, -, hbefore, hlength, hjoined, -, hafter, -⟩ :=
    hreturned' _ hstage'
  exact ⟨hstart, ⟨last, hlast, hstage, (hreturned _ hstage).1⟩, last', hlast', hstage', hclosings,
    before, after, closing, hsplit, hbefore, hlength, hjoined, hafter⟩

end Run

end CommandLog
