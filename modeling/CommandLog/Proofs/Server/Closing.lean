import CommandLog.Proofs.Server.Steps

/-!
# The way to the end of a run

Whatever happens in a run, the main thread does things in a fixed order: it serves nobody before it is
set up, and it closes the storage when every worker is joined and the timestamps have stopped, and
never again.  `Run.Orderly` is the invariant that says so, in terms of the stage that the main thread
is at; every step keeps it (`Run.Orderly.step`).
-/

namespace CommandLog

namespace Stage

/-- Nothing was served yet, and if the run is about to end, nothing will be. -/
def isEarly : Stage → Bool
  | .binding | .settingUp | .closing false => true
  | _ => false

/-- Nothing is left to be waited for. -/
def isLate : Stage → Bool
  | .closing _ | .returned _ => true
  | _ => false

def hasReturned : Stage → Bool
  | .returned _ => true
  | _ => false

lemma hasReturned_of_isLate {stage : Stage} (h : stage.isLate = false) :
    stage.hasReturned = false := by
  cases stage with
  | returned result => cases h
  | _ => rfl

end Stage

namespace Connection

variable {ρ : Type} {connection after : Connection ρ}

/-- A worker that was joined stays so, and only one that has ended is joined. -/
lemma Moves.joined {keepAlive : Bool} {commands : List Command} {piece : Bytes}
    {read : Option Bytes} (h : connection.Moves keepAlive commands piece read after) :
    (connection.joined = true → after.joined = true) ∧
      ((connection.joined = true → connection.hasEnded = true) →
        after.joined = true → after.hasEnded = true) := by
  cases h with
  | stay => exact ⟨id, id⟩
  | join hended => exact ⟨fun _ => rfl, fun _ _ => hended⟩
  | refuse | hangUp | giveUp => exact ⟨id, fun _ _ => rfl⟩
  | receive piece hphase | execute reader hphase | send moved hpiece hphase | finishReply hphase =>
    refine ⟨id, fun hbefore hjoined => ?_⟩
    have hended := hbefore hjoined
    rw [hasEnded, hphase] at hended
    exact absurd hended Bool.false_ne_true

end Connection

namespace Run

variable {σ ρ : Type} [Storage σ ρ] {run next : Run σ ρ} {taken : Step}

/-- The main thread has done things in their order so far. -/
structure Orderly (run : Run σ ρ) : Prop where
  early : run.stage.isEarly = true → run.connections = []
  late : run.stage.isLate = true → ∀ connection ∈ run.connections, connection.joined = true
  quiet : run.stage.isEarly = true ∨ run.stage.isLate = true → run.stamping = false
  /-- Only workers that have ended were joined. -/
  ended : ∀ connection ∈ run.connections, connection.joined = true → connection.hasEnded = true
  closings_eq : run.closings = if run.stage.hasReturned then 1 else 0

omit [Storage σ ρ] in
lemma orderly_initial (settings : Settings) (storage : σ) :
    (initial settings storage : Run σ ρ).Orderly where
  early := fun _ => rfl
  late := fun _ _ hmem => absurd hmem List.not_mem_nil
  quiet := fun _ => rfl
  ended := fun _ hmem => absurd hmem List.not_mem_nil
  closings_eq := rfl

omit [Storage σ ρ] in
/-- The main thread goes to a stage for which things are in order. -/
lemma Orderly.withStage (h : run.Orderly) {stage : Stage} {stamping : Bool}
    (hearly : stage.isEarly = true → run.connections = [])
    (hlate : stage.isLate = true → ∀ connection ∈ run.connections, connection.joined = true)
    (hquiet : stage.isEarly = true ∨ stage.isLate = true → stamping = false)
    (hreturned : stage.hasReturned = run.stage.hasReturned) (exiting : Bool)
    (outcome : Except Failure Unit) :
    ({ run with stage, exiting, stamping, outcome } : Run σ ρ).Orderly where
  early := hearly
  late := hlate
  quiet := hquiet
  ended := h.ended
  closings_eq := by rw [hreturned, ← h.closings_eq]

lemma Orderly.turn (h : run.Orderly) (hturns : run.Turns taken next) : next.Orderly := by
  -- a stage on the way between the early and the late ones asks for nothing
  have hmidway : ∀ {stage : Stage} {stamping : Bool} (exiting : Bool)
      (outcome : Except Failure Unit), stage.isEarly = false → stage.isLate = false →
      stage.hasReturned = run.stage.hasReturned →
      ({ run with stage, exiting, stamping, outcome } : Run σ ρ).Orderly := by
    intro stage stamping exiting outcome hearly hlate hreturned
    refine h.withStage ?_ ?_ ?_ hreturned exiting outcome
    · exact fun htrue => absurd htrue (Bool.eq_false_iff.1 hearly)
    · exact fun htrue => absurd htrue (Bool.eq_false_iff.1 hlate)
    · rintro (htrue | htrue)
      · exact absurd htrue (Bool.eq_false_iff.1 hearly)
      · exact absurd htrue (Bool.eq_false_iff.1 hlate)
  cases hturns with
  | trigger => exact h.withStage h.early h.late h.quiet rfl _ _
  | bind hstage | bindFails fault hstage | setUpFails failure hstage | setUpPoisoned hstage =>
    have hearly : run.stage.isEarly = true := by
      rw [hstage]
      rfl
    refine h.withStage (fun _ => h.early hearly) ?_ (fun _ => h.quiet (.inl hearly)) ?_ _ _
    · intro _
      rw [h.early hearly]
      exact fun _ hmem => absurd hmem List.not_mem_nil
    · rw [hstage]
      rfl
  | setUp stamping hstage | acceptFails fault hstage | registerFails fault hstage
  | interrupted hstage => exact hmidway _ _ rfl rfl (by rw [hstage]; rfl)
  | look hstage =>
    cases run.exiting with
    | true => exact hmidway _ _ rfl rfl (by rw [hstage]; rfl)
    | false => exact hmidway _ _ rfl rfl (by rw [hstage]; rfl)
  | stopTimestamps hstage hjoined =>
    refine h.withStage ?_ (fun _ => hjoined) (fun _ => rfl) (by rw [hstage]; rfl) _ _
    exact fun hearly => absurd hearly Bool.false_ne_true

lemma Orderly.works (h : run.Orderly) (hworks : run.Works taken next) : next.Orderly := by
  obtain ⟨number, before, after, -, hbefore, hmoves, rfl⟩ := hworks
  have hmem : before ∈ run.connections := List.mem_of_getElem? hbefore
  obtain ⟨hjoined, hended⟩ := hmoves.joined
  have hset : ∀ {P : Connection ρ → Prop}, (∀ connection ∈ run.connections, P connection) →
      P after → ∀ connection ∈ run.connections.set number after, P connection := by
    intro P hall hafter connection hconnection
    rcases List.mem_or_eq_of_mem_set hconnection with hold | rfl
    · exact hall connection hold
    · exact hafter
  refine ⟨?_, ?_, h.quiet, hset h.ended (hended (h.ended before hmem)), h.closings_eq⟩
  · intro hearly
    rw [h.early hearly] at hmem
    exact absurd hmem List.not_mem_nil
  · exact fun hlate => hset (h.late hlate) (hjoined (h.late hlate before hmem))

/-- Every step keeps the order. -/
lemma Orderly.step (h : run.Orderly) (hstep : run.step? taken = some next) : next.Orderly := by
  rcases step_cases hstep with hturns | ⟨-, hstage, rfl⟩ | ⟨-, hstage, rfl⟩ |
    ⟨served, -, hstage, rfl⟩ | ⟨entry, stamping, -, hstamping, rfl⟩ | hworks
  · exact h.turn hturns
  · have hclosings := h.closings_eq
    rw [hstage] at hclosings
    refine ⟨by simp [Stage.isEarly], by simp [Stage.isLate], by simp [Stage.isEarly, Stage.isLate],
      ?_, hclosings⟩
    intro connection hconnection hjoined
    rcases List.mem_append.1 hconnection with hold | hnew
    · exact h.ended connection hold hjoined
    · rw [List.mem_singleton.1 hnew] at hjoined
      exact absurd hjoined Bool.false_ne_true
  · have hclosings := h.closings_eq
    rw [hstage] at hclosings
    refine ⟨by simp [Stage.isEarly], by simp [Stage.isLate], by simp [Stage.isEarly, Stage.isLate],
      ?_, hclosings⟩
    intro connection hconnection hjoined
    obtain ⟨before, hbefore, rfl⟩ := List.mem_map.1 hconnection
    rw [before.hasEnded_joinEnded]
    rw [before.joined_joinEnded, Bool.or_eq_true] at hjoined
    exact hjoined.elim id (h.ended before hbefore)
  · have hlate : run.stage.isLate = true := by
      rw [hstage]
      rfl
    have hclosings := h.closings_eq
    rw [hstage] at hclosings
    refine ⟨by simp [Stage.isEarly], fun _ => h.late hlate, fun _ => h.quiet (.inr hlate), h.ended,
      ?_⟩
    show run.closings + 1 = 1
    rw [hclosings]
    rfl
  · refine ⟨h.early, h.late, ?_, h.ended, h.closings_eq⟩
    intro hstage
    exact absurd (h.quiet hstage) (by rw [hstamping]; decide)
  · exact h.works hworks

lemma Orderly.stepAll {steps : List Step} {last : Run σ ρ} (h : run.Orderly)
    (hsteps : run.stepAll? steps = some last) : last.Orderly :=
  invariant_of_stepAll? (P := Run.Orderly) Orderly.step h hsteps

omit [Storage σ ρ] in
/-- While timestamps are written, the server is serving. -/
lemma Orderly.serving_of_stamping (h : run.Orderly) (hstamping : run.stamping = true) :
    run.stage.isEarly = false ∧ run.stage.isLate = false := by
  constructor
  · by_contra hearly
    rw [Bool.not_eq_false] at hearly
    rw [h.quiet (.inl hearly)] at hstamping
    exact absurd hstamping Bool.false_ne_true
  · by_contra hlate
    rw [Bool.not_eq_false] at hlate
    rw [h.quiet (.inr hlate)] at hstamping
    exact absurd hstamping Bool.false_ne_true

omit [Storage σ ρ] in
/-- While a worker has not ended, the server is serving. -/
lemma Orderly.serving_of_open (h : run.Orderly) {number : Nat} {connection : Connection ρ}
    (hconnection : run.connections[number]? = some connection)
    (hopen : connection.hasEnded = false) :
    run.stage.isEarly = false ∧ run.stage.isLate = false := by
  have hmem : connection ∈ run.connections := List.mem_of_getElem? hconnection
  constructor
  · by_contra hearly
    rw [Bool.not_eq_false] at hearly
    rw [h.early hearly] at hmem
    exact absurd hmem List.not_mem_nil
  · by_contra hlate
    rw [Bool.not_eq_false] at hlate
    have hjoined := h.late hlate connection hmem
    rw [h.ended connection hmem hjoined] at hopen
    exact absurd hopen.symm Bool.false_ne_true

/-! ## Every run can come to its end -/

/-- Some history leads from the one state to the other. -/
def LeadsTo (run last : Run σ ρ) : Prop := ∃ steps, run.stepAll? steps = some last

lemma LeadsTo.refl (run : Run σ ρ) : run.LeadsTo run := ⟨[], rfl⟩

lemma LeadsTo.step {last : Run σ ρ} (h : run.step? taken = some next) (hlast : next.LeadsTo last) :
    run.LeadsTo last := by
  obtain ⟨steps, hsteps⟩ := hlast
  refine ⟨taken :: steps, ?_⟩
  rw [stepAll?, h]
  exact hsteps

lemma LeadsTo.trans {last : Run σ ρ} (h : run.LeadsTo next) (hlast : next.LeadsTo last) :
    run.LeadsTo last := by
  obtain ⟨steps, hsteps⟩ := h
  induction steps generalizing run with
  | nil =>
    cases hsteps
    exact hlast
  | cons taken others ih =>
    obtain ⟨after, hstep, hafter, -⟩ := stepAll?_cons hsteps
    exact .step hstep (ih hafter)

/-- Between the two states, the main thread has not moved and nobody was accepted. -/
structure Waits (run next : Run σ ρ) : Prop where
  leads : run.LeadsTo next
  stage_eq : next.stage = run.stage
  exiting_eq : next.exiting = run.exiting
  outcome_eq : next.outcome = run.outcome
  length_eq : next.connections.length = run.connections.length

lemma Waits.refl (run : Run σ ρ) : run.Waits run := ⟨.refl run, rfl, rfl, rfl, rfl⟩

lemma Waits.trans {last : Run σ ρ} (h : run.Waits next) (hlast : next.Waits last) :
    run.Waits last where
  leads := h.leads.trans hlast.leads
  stage_eq := hlast.stage_eq.trans h.stage_eq
  exiting_eq := hlast.exiting_eq.trans h.exiting_eq
  outcome_eq := hlast.outcome_eq.trans h.outcome_eq
  length_eq := hlast.length_eq.trans h.length_eq

variable {number : Nat} {connection : Connection ρ}

lemma waits_of_step {shared : Shared σ} {after : Connection ρ}
    (h : run.step? taken = some ({ run with shared }.setConnection number after)) :
    run.Waits ({ run with shared }.setConnection number after) :=
  ⟨.step h (.refl _), rfl, rfl, rfl, List.length_set⟩

/-- A worker that sends a reply can be cut off. -/
lemma step?_abort_of_replying {reader : ρ} {waiting : List Command}
    (hconnection : run.connections[number]? = some connection)
    (hphase : connection.phase = .replying reader waiting) :
    run.step? (.abort number) =
      some (run.setConnection number
        (connection.stopWith (some (.failed (.io .connectionReset))))) := by
  simp only [step?, hconnection, Option.bind_eq_bind, Option.bind_some, hphase]

/-- A worker that has not ended can end: one that waits for bytes sees that the server is asked to
stop, one that is to carry a command out does so, and one that sends a reply can be cut off. -/
lemma exists_ended (hexiting : run.exiting = true)
    (hconnection : run.connections[number]? = some connection)
    (hopen : connection.hasEnded = false) :
    ∃ next after, run.Waits next ∧ next.connections = run.connections.set number after ∧
      after.hasEnded = true ∧ after.joined = connection.joined := by
  cases hphase : connection.phase with
  | receiving =>
    have hidle : run.step? (.idle number) =
        some (run.setConnection number (connection.stopWith none)) := by
      simp only [step?, hconnection, Option.bind_eq_bind, Option.bind_some, hphase, hexiting,
        if_true]
    exact ⟨_, _, waits_of_step hidle, rfl, rfl, rfl⟩
  | executing command waiting =>
    have hexecute := step?_of_executing hconnection hphase
    unfold executeOn at hexecute
    rcases hresult : run.shared.execute command with ⟨shared, stop | reader⟩
    · rw [hresult] at hexecute
      exact ⟨_, _, waits_of_step hexecute, rfl, rfl, rfl⟩
    · rw [hresult] at hexecute
      have hbetween : ({ run with shared } : Run σ ρ).connections[number]? = some connection :=
        hconnection
      have hthere := getElem?_setConnection hbetween
        { connection with phase := .replying reader waiting }
      refine ⟨_, _, (waits_of_step hexecute).trans
        (waits_of_step (step?_abort_of_replying hthere rfl)), List.set_set .., rfl, rfl⟩
  | replying reader waiting =>
    exact ⟨_, _, waits_of_step (step?_abort_of_replying hconnection hphase), rfl, rfl, rfl⟩
  | ended stop =>
    rw [Connection.hasEnded, hphase] at hopen
    exact absurd hopen.symm Bool.false_ne_true

/-- While the main thread waits for the workers, it can come to join each of them. -/
lemma exists_joined (hstage : run.stage = .joining) (hexiting : run.exiting = true)
    (hconnection : run.connections[number]? = some connection) :
    ∃ next after, run.Waits next ∧ next.connections = run.connections.set number after ∧
      after.joined = true := by
  have hjoin : ∀ {between : Run σ ρ} {there : Connection ρ}, between.stage = .joining →
      between.connections[number]? = some there → there.hasEnded = true → there.joined = false →
      between.step? (.join number) =
        some (between.setConnection number { there with joined := true }) := by
    intro between there hstage hthere hended hjoined
    simp only [step?, hstage, hthere, Option.bind_eq_bind, Option.bind_some, hended, hjoined]
    rfl
  by_cases hjoined : connection.joined = true
  · refine ⟨run, connection, .refl run, ?_, hjoined⟩
    exact (congrArg Run.connections (setConnection_self hconnection)).symm
  · rw [Bool.not_eq_true] at hjoined
    by_cases hended : connection.hasEnded = true
    · exact ⟨_, { connection with joined := true },
        waits_of_step (hjoin hstage hconnection hended hjoined), rfl, rfl⟩
    · rw [Bool.not_eq_true] at hended
      obtain ⟨between, there, hwaits, hconnections, hthere, hsame⟩ :=
        exists_ended hexiting hconnection hended
      have hget : between.connections[number]? = some there := by
        rw [hconnections]
        exact getElem?_setConnection hconnection there
      have hstep := hjoin (hwaits.stage_eq.trans hstage) hget hthere (hsame.trans hjoined)
      refine ⟨_, { there with joined := true }, hwaits.trans (waits_of_step hstep), ?_, rfl⟩
      show between.connections.set number _ = _
      rw [hconnections, List.set_set]

/-- It can come to join all of them, one after the other. -/
lemma exists_allJoined (hstage : run.stage = .joining) (hexiting : run.exiting = true) (count : Nat) :
    ∃ next, run.Waits next ∧
      ∀ number < count, ∀ connection, next.connections[number]? = some connection →
        connection.joined = true := by
  induction count with
  | zero => exact ⟨run, .refl run, fun _ hlt => absurd hlt (Nat.not_lt_zero _)⟩
  | succ count ih =>
    obtain ⟨between, hwaits, hjoined⟩ := ih
    cases hconnection : between.connections[count]? with
    | none =>
      refine ⟨between, hwaits, ?_⟩
      intro number hlt connection hget
      rcases Nat.lt_succ_iff_lt_or_eq.1 hlt with hlt | rfl
      · exact hjoined number hlt connection hget
      · rw [hconnection] at hget
        cases hget
    | some connection =>
      obtain ⟨next, after, hwaits', hconnections, hafter⟩ :=
        exists_joined (hwaits.stage_eq.trans hstage) (hwaits.exiting_eq.trans hexiting) hconnection
      refine ⟨next, hwaits.trans hwaits', ?_⟩
      intro number hlt there hget
      rw [hconnections] at hget
      rcases Nat.lt_succ_iff_lt_or_eq.1 hlt with hlt | rfl
      · rw [List.getElem?_set_ne (Nat.ne_of_gt hlt)] at hget
        exact hjoined number hlt there hget
      · have hthere := getElem?_setConnection hconnection after
        rw [setConnection, hget] at hthere
        cases hthere
        exact hafter

/-- Asked to stop, the main thread comes to wait for the workers. -/
lemma exists_joining (hearly : run.stage.isEarly = false) (hlate : run.stage.isLate = false) :
    ∃ next, run.LeadsTo next ∧ next.stage = .joining ∧ next.exiting = true ∧
      next.outcome = run.outcome := by
  have htrigger : run.step? .trigger = some { run with exiting := true } := rfl
  have hlook : ∀ {between : Run σ ρ}, between.stage = .looking → between.exiting = true →
      between.step? .look = some { between with stage := .joining } := by
    intro between hstage hexiting
    simp only [step?, hstage, hexiting, if_true]
  cases hstage : run.stage with
  | looking =>
    have hlooking : ({ run with exiting := true } : Run σ ρ).stage = .looking := hstage
    exact ⟨_, .step htrigger (.step (hlook hlooking rfl) (.refl _)), rfl, rfl, rfl⟩
  | accepting =>
    have hfails : ({ run with exiting := true } : Run σ ρ).step? (.acceptFails .invalidArgument) =
        some { run with exiting := true, stage := .joining } := by
      simp only [step?, hstage, if_true]
    exact ⟨_, .step htrigger (.step hfails (.refl _)), rfl, rfl, rfl⟩
  | reaping =>
    have hreap : ({ run with exiting := true } : Run σ ρ).step? .reap =
        some { run with
          exiting := true, stage := .looking
          connections := run.connections.map Connection.joinEnded } := by
      simp only [step?, hstage]
      rfl
    exact ⟨_, .step htrigger (.step hreap (.step (hlook rfl rfl) (.refl _))), rfl, rfl, rfl⟩
  | joining => exact ⟨_, .step htrigger (.refl _), hstage, rfl, rfl⟩
  | binding | settingUp =>
    rw [hstage] at hearly
    cases hearly
  | closing served | returned result =>
    rw [hstage] at hlate
    cases hlate

/-- Once it is served, every run can come to its end. -/
lemma exists_returned (hearly : run.stage.isEarly = false) :
    ∃ last result, run.LeadsTo last ∧ last.outcome = run.outcome ∧
      last.stage = .returned result := by
  have hclose : ∀ {between : Run σ ρ} {served : Bool}, between.stage = .closing served →
      ∃ last result, between.LeadsTo last ∧ last.outcome = between.outcome ∧
        last.stage = .returned result := by
    intro between served hstage
    have hstep : between.step? .close = some { between with
        shared := { between.shared with storage := (Storage.close between.shared.storage).1 }
        closings := between.closings + 1
        stage := .returned
          (resultOf served between.outcome (Storage.close between.shared.storage).2) } := by
      simp only [step?, hstage]
    exact ⟨_, _, .step hstep (.refl _), rfl, rfl⟩
  by_cases hlate : run.stage.isLate = true
  · cases hstage : run.stage with
    | closing served => exact hclose hstage
    | returned result => exact ⟨run, result, .refl run, rfl, hstage⟩
    | _ =>
      rw [hstage] at hlate
      cases hlate
  · obtain ⟨between, hleads, hstage, hexiting, houtcome⟩ :=
      exists_joining hearly (Bool.eq_false_iff.2 hlate)
    obtain ⟨next, hwaits, hjoined⟩ :=
      exists_allJoined hstage hexiting between.connections.length
    have hall : next.connections.all (·.joined) = true := by
      rw [List.all_eq_true]
      intro connection hmem
      obtain ⟨number, hget⟩ := List.mem_iff_getElem?.1 hmem
      have hlt := (List.getElem?_eq_some_iff.1 hget).1
      rw [hwaits.length_eq] at hlt
      exact hjoined number hlt connection hget
    have hstop : next.step? .stopTimestamps =
        some { next with stage := .closing true, stamping := false } := by
      simp only [step?, hwaits.stage_eq.trans hstage, hall, if_true]
    obtain ⟨last, result, hlast, hsame, hreturned⟩ :=
      hclose (show ({ next with stage := .closing true, stamping := false } : Run σ ρ).stage =
        .closing true from rfl)
    exact ⟨last, result, hleads.trans (hwaits.leads.trans (.step hstop hlast)),
      hsame.trans (hwaits.outcome_eq.trans houtcome), hreturned⟩

end Run

end CommandLog
