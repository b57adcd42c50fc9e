import CommandLog.Proofs.Server.Annotated

/-!
# A server that writes timestamps beside one that does not

`Run.Annotated` says that two servers are at the same point, of which only the first writes
timestamps: their main threads are at the same stage, and the connections and the log of the first
are those of the second but for the timestamps.

Every step keeps this.  Some more of a reply can be sent by either server alone (`Run.Annotated.send`,
`Run.Annotated.plain_send`), and a timestamp is written by the first alone (`Run.Annotated.stamp`).  A
reply comes to its end on both (`Run.Annotated.endReply`), and any other step of the second server can
be taken by the first as well (`Run.Annotated.exists_step`).
-/

namespace CommandLog

section Runs

variable {σ ρ : Type} [Storage σ ρ] [GrowingLog σ] {old inserted : List Bytes}

/-- The same place among the connections of both: it is free, and nobody was ever replied to there, or
it is taken by connections at the same point. -/
inductive Connection.PlacesAnnotated (old : List Bytes) (storage plain : σ) :
    Option (Connection ρ) → Replies → Option (Connection ρ) → Replies → Prop where
  | free : PlacesAnnotated old storage plain none .empty none .empty
  | taken {connection other : Connection ρ} {replies replies' : Replies}
    (h : connection.Annotated old storage plain replies other replies') :
    PlacesAnnotated old storage plain (some connection) replies (some other) replies'

lemma Connection.PlacesAnnotated.grow {storage plain after after' : σ}
    {place place' : Option (Connection ρ)} {reply reply' : Replies}
    (h : PlacesAnnotated old storage plain place reply place' reply')
    (hgrow : GrowingLog.Grow old storage plain after after') :
    PlacesAnnotated old after after' place reply place' reply' := by
  cases h with
  | free => exact .free
  | taken h => exact .taken (h.grow hgrow)

lemma Connection.PlacesAnnotated.joinEnded {storage plain : σ}
    {place place' : Option (Connection ρ)} {reply reply' : Replies}
    (h : PlacesAnnotated old storage plain place reply place' reply') :
    PlacesAnnotated old storage plain (place.map Connection.joinEnded) reply
      (place'.map Connection.joinEnded) reply' := by
  cases h with
  | free => exact .free
  | taken h => exact .taken h.joinEnded

/-- Once all workers have ended, the storages have no part in it any more. -/
lemma Connection.PlacesAnnotated.of_hasEnded {storage plain : σ}
    {place place' : Option (Connection ρ)} {reply reply' : Replies}
    (h : PlacesAnnotated old storage plain place reply place' reply')
    (hended : ∀ connection, place' = some connection → connection.hasEnded = true)
    (after after' : σ) : PlacesAnnotated old after after' place reply place' reply' := by
  cases h with
  | free => exact .free
  | taken h => exact .taken (h.of_hasEnded (hended _ rfl) after after')

/-- What is seen of two connections at the same point is the same, up to timestamps. -/
lemma Connection.PlacesAnnotated.seen {storage plain : σ} {place place' : Option (Connection ρ)}
    {reply reply' : Replies} (h : PlacesAnnotated old storage plain place reply place' reply') :
    place.map Connection.hasEnded = place'.map Connection.hasEnded ∧
      reply.begun.map Prod.fst = reply'.begun.map Prod.fst ∧
      List.Forall₂ (Timestamp.SameReply old) reply.whole reply'.whole := by
  cases h with
  | free => exact ⟨rfl, rfl, .nil⟩
  | taken h => exact ⟨congrArg some h.hasEnded_eq, h.phases.begun_eq, h.whole⟩

/-- Both logs are gone, or the first is the second with timestamps added. -/
inductive Timestamp.LogsAnnotated (old inserted : List Bytes) : Option Bytes → Option Bytes → Prop
  where
  | gone : LogsAnnotated old inserted none none
  | kept {log other : Bytes} (h : Timestamp.Annotated old log other)
    (hstamps : Timestamp.stamps log = old ++ inserted) :
    LogsAnnotated old inserted (some log) (some other)

namespace Timestamp

variable {log other : Option Bytes}

lemma LogsAnnotated.withoutStamps_eq (h : LogsAnnotated old inserted log other) :
    log.map withoutStamps = other.map withoutStamps := by
  cases h with
  | gone => rfl
  | kept h hstamps => exact congrArg some h.withoutStamps_eq

lemma LogsAnnotated.withoutStamps_eq_plain (h : LogsAnnotated old inserted log other)
    (hold : old = []) : log.map withoutStamps = other := by
  cases h with
  | gone => rfl
  | kept h hstamps => exact congrArg some (h.withoutStamps_eq_plain hold)

/-- The old timestamps of the log are followed by those that were written since. -/
lemma LogsAnnotated.stamps_eq (h : LogsAnnotated old inserted log other) {kept : Bytes}
    (hkept : log = some kept) : stamps kept = old ++ inserted := by
  cases h with
  | gone => cases hkept
  | kept h hstamps =>
    cases hkept
    exact hstamps

end Timestamp

/-- The two servers are at the same point, and only the first writes timestamps. -/
structure Run.Annotated (old inserted : List Bytes) (run plain : Run σ ρ)
    (replies replies' : Nat → Replies) : Prop where
  keepAlive_eq : run.settings.keepAlive = plain.settings.keepAlive
  interval_ne : run.settings.interval ≠ 0
  plain_interval_eq : plain.settings.interval = 0
  stage_eq : run.stage = plain.stage
  exiting_eq : run.exiting = plain.exiting
  outcome_eq : run.outcome = plain.outcome
  plain_stamping_eq : plain.stamping = false
  serving : plain.stage.hasReturned = false →
    Shared.Annotated old inserted run.shared plain.shared
  returned : plain.stage.hasReturned = true →
    Timestamp.LogsAnnotated old inserted (Storage.contents? run.shared.storage)
      (Storage.contents? plain.shared.storage)
  connections : ∀ number,
    Connection.PlacesAnnotated old run.shared.storage plain.shared.storage run.connections[number]?
      (replies number) plain.connections[number]? (replies' number)

namespace Run

variable {run next plain plain' : Run σ ρ} {replies replies' recorded recorded' : Nat → Replies}
  {step : Step} {number room room' : Nat} {connection other after after' : Connection ρ}

lemma Annotated.exists_connection (h : Annotated old inserted run plain replies replies')
    (hother : plain.connections[number]? = some other) :
    ∃ connection, run.connections[number]? = some connection ∧
      connection.Annotated old run.shared.storage plain.shared.storage (replies number) other
        (replies' number) := by
  have hplace := h.connections number
  rw [hother] at hplace
  generalize run.connections[number]? = place, replies number = reply, replies' number = reply'
    at hplace ⊢
  cases hplace with
  | taken h => exact ⟨_, rfl, h⟩

lemma Annotated.exists_plain_connection (h : Annotated old inserted run plain replies replies')
    (hconnection : run.connections[number]? = some connection) :
    ∃ other, plain.connections[number]? = some other ∧
      connection.Annotated old run.shared.storage plain.shared.storage (replies number) other
        (replies' number) := by
  have hplace := h.connections number
  rw [hconnection] at hplace
  generalize plain.connections[number]? = place, replies number = reply, replies' number = reply'
    at hplace ⊢
  cases hplace with
  | taken h => exact ⟨_, rfl, h⟩

/-- As many connections were accepted. -/
lemma Annotated.length_eq (h : Annotated old inserted run plain replies replies') :
    run.connections.length = plain.connections.length := by
  have hfree : ∀ number : Nat,
      run.connections[number]? = none ↔ plain.connections[number]? = none := by
    intro number
    have hplace := h.connections number
    generalize run.connections[number]? = place, plain.connections[number]? = place',
      replies number = reply, replies' number = reply' at hplace ⊢
    cases hplace <;> simp
  apply Nat.le_antisymm
  · exact List.getElem?_eq_none_iff.1 ((hfree _).2 (List.getElem?_eq_none_iff.2 (Nat.le_refl _)))
  · exact List.getElem?_eq_none_iff.1 ((hfree _).1 (List.getElem?_eq_none_iff.2 (Nat.le_refl _)))

lemma Annotated.withConnections (h : Annotated old inserted run plain replies replies')
    {connections connections' : List (Connection ρ)}
    (hplaces : ∀ number, Connection.PlacesAnnotated old run.shared.storage plain.shared.storage
      connections[number]? (recorded number) connections'[number]? (recorded' number)) :
    Annotated old inserted { run with connections } { plain with connections := connections' }
      recorded recorded' :=
  { h with connections := hplaces }

/-- One connection changes on both servers. -/
lemma Annotated.set (h : Annotated old inserted run plain replies replies')
    (hconnection : run.connections[number]? = some connection)
    (hother : plain.connections[number]? = some other)
    (hafter : after.Annotated old run.shared.storage plain.shared.storage (recorded number) after'
      (recorded' number))
    (hothers : ∀ n ≠ number, recorded n = replies n)
    (hothers' : ∀ n ≠ number, recorded' n = replies' n) :
    Annotated old inserted (run.setConnection number after) (plain.setConnection number after')
      recorded recorded' := by
  refine h.withConnections fun n => ?_
  by_cases hn : n = number
  · subst hn
    have hthere := getElem?_setConnection hconnection after
    have hthere' := getElem?_setConnection hother after'
    rw [setConnection] at hthere hthere'
    rw [hthere, hthere']
    exact .taken hafter
  · rw [List.getElem?_set_ne (Ne.symm hn), List.getElem?_set_ne (Ne.symm hn), hothers n hn,
      hothers' n hn]
    exact h.connections n

/-- The storages change, and all replies with them. -/
lemma Annotated.grow (h : Annotated old inserted run plain replies replies')
    {shared shared' : Shared σ} {more : List Bytes} (hserving : plain.stage.hasReturned = false)
    (hshared : Shared.Annotated old more shared shared')
    (hgrow : GrowingLog.Grow old run.shared.storage plain.shared.storage shared.storage
      shared'.storage) :
    Annotated old more { run with shared } { plain with shared := shared' } replies replies' :=
  { h with
    serving := fun _ => hshared
    returned := fun hreturned => absurd hreturned (Bool.eq_false_iff.1 hserving)
    connections := fun n => (h.connections n).grow hgrow }

/-- The main thread goes to another stage. -/
lemma Annotated.withStage (h : Annotated old inserted run plain replies replies')
    {stage stage' : Stage} {exiting exiting' : Bool} {outcome outcome' : Except Failure Unit}
    (hreturned : stage'.hasReturned = plain.stage.hasReturned) (hstage : stage = stage')
    (hexiting : exiting = exiting') (houtcome : outcome = outcome') (stamping : Bool) :
    Annotated old inserted { run with stage, exiting, outcome, stamping }
      { plain with stage := stage', exiting := exiting', outcome := outcome' } replies replies' :=
  { h with
    stage_eq := hstage
    exiting_eq := hexiting
    outcome_eq := houtcome
    serving := fun hserving => h.serving (hreturned.symm.trans hserving)
    returned := fun hthere => h.returned (hreturned.symm.trans hthere) }

/-! ## Steps of the main thread -/

/-- The first begins to write timestamps. -/
lemma Annotated.setUp (h : Annotated old inserted run plain replies replies')
    (hstep : plain.step? .setUp = some plain') :
    ∃ next, run.step? .setUp = some next ∧ Annotated old inserted next plain' replies replies' := by
  simp only [step?] at hstep
  split at hstep
  · next hstage =>
    rw [if_pos h.plain_interval_eq] at hstep
    cases hstep
    have hserving : plain.stage.hasReturned = false := by
      rw [hstage]
      rfl
    refine ⟨{ run with
      stage := .looking, stamping := Storage.wantsTimestamps run.shared.storage }, ?_, ?_⟩
    · simp only [step?, h.stage_eq, hstage, if_neg h.interval_ne, (h.serving hserving).poisoned_eq,
        Bool.false_eq_true, if_false]
    · exact h.withStage (by rw [hserving]; rfl) rfl h.exiting_eq h.outcome_eq _
  · cases hstep

lemma Annotated.turn (h : Annotated old inserted run plain replies replies')
    (hturns : plain.Turns step plain') (hsetUp : step ≠ .setUp) :
    ∃ next, run.step? step = some next ∧ Annotated old inserted next plain' replies replies' := by
  cases hturns with
  | trigger => exact ⟨_, rfl, h.withStage rfl h.stage_eq rfl h.outcome_eq run.stamping⟩
  | bind hstage =>
    refine ⟨{ run with stage := .settingUp }, ?_, ?_⟩
    · simp only [step?, h.stage_eq, hstage]
    · exact h.withStage (by rw [hstage]; rfl) rfl h.exiting_eq h.outcome_eq run.stamping
  | bindFails fault hstage =>
    refine ⟨{ run with stage := .closing false, outcome := .error (.io fault) }, ?_, ?_⟩
    · simp only [step?, h.stage_eq, hstage]
    · exact h.withStage (by rw [hstage]; rfl) rfl h.exiting_eq rfl run.stamping
  | setUp | setUpPoisoned => exact absurd rfl hsetUp
  | setUpFails failure hstage =>
    refine ⟨{ run with stage := .closing false, outcome := .error failure }, ?_, ?_⟩
    · simp only [step?, h.stage_eq, hstage]
    · exact h.withStage (by rw [hstage]; rfl) rfl h.exiting_eq rfl run.stamping
  | look hstage =>
    refine ⟨{ run with stage := if run.exiting then .joining else .accepting }, ?_, ?_⟩
    · simp only [step?, h.stage_eq, hstage]
    · refine h.withStage ?_ (by rw [h.exiting_eq]) h.exiting_eq h.outcome_eq run.stamping
      rw [hstage]
      cases plain.exiting <;> rfl
  | acceptFails fault hstage =>
    refine ⟨{ run with
      stage := .joining
      outcome := if run.exiting then run.outcome else .error (.io fault) }, ?_, ?_⟩
    · simp only [step?, h.stage_eq, hstage]
      cases run.exiting <;> rfl
    · refine h.withStage (by rw [hstage]; rfl) rfl h.exiting_eq ?_ run.stamping
      rw [h.exiting_eq, h.outcome_eq]
  | registerFails fault hstage =>
    refine ⟨{ run with stage := .joining, outcome := .error (.io fault) }, ?_, ?_⟩
    · simp only [step?, h.stage_eq, hstage]
    · exact h.withStage (by rw [hstage]; rfl) rfl h.exiting_eq rfl run.stamping
  | interrupted hstage hexiting =>
    refine ⟨{ run with stage := .looking }, ?_, ?_⟩
    · simp only [step?, h.stage_eq, hstage, h.exiting_eq, hexiting, Bool.false_eq_true, if_false]
    · exact h.withStage (by rw [hstage]; rfl) rfl h.exiting_eq h.outcome_eq run.stamping
  | stopTimestamps hstage hjoined =>
    have hall : run.connections.all (·.joined) = true := by
      apply List.all_eq_true.2
      intro connection hconnection
      obtain ⟨number, hnumber⟩ := List.getElem?_of_mem hconnection
      obtain ⟨other, hother, hsame⟩ := h.exists_plain_connection hnumber
      rw [hsame.joined_eq]
      exact hjoined other (List.mem_of_getElem? hother)
    have hquiet : ({ plain with stage := .closing true, stamping := false } : Run σ ρ) =
        { plain with stage := .closing true } := by
      rw [← h.plain_stamping_eq]
    refine ⟨{ run with stage := .closing true, stamping := false }, ?_, ?_⟩
    · simp only [step?, h.stage_eq, hstage, hall, if_true]
    · rw [hquiet]
      exact h.withStage (by rw [hstage]; rfl) rfl h.exiting_eq h.outcome_eq false

lemma Annotated.accept (h : Annotated old inserted run plain replies replies')
    (hstage : plain.stage = .accepting) :
    Annotated old inserted
      { run with stage := .reaping, connections := run.connections ++ [.accepted] }
      { plain with stage := .reaping, connections := plain.connections ++ [.accepted] } replies
      replies' := by
  have hreaping : Annotated old inserted { run with stage := .reaping }
      { plain with stage := .reaping } replies replies' :=
    h.withStage (by rw [hstage]; rfl) rfl h.exiting_eq h.outcome_eq run.stamping
  refine hreaping.withConnections fun n => ?_
  have hplace := h.connections n
  rw [List.getElem?_append, List.getElem?_append, h.length_eq]
  split
  · exact hplace
  · next hn =>
    have hfree : run.connections[n]? = none := by
      rw [List.getElem?_eq_none_iff, h.length_eq]
      exact Nat.le_of_not_lt hn
    rw [hfree] at hplace
    generalize plain.connections[n]? = place', replies n = reply, replies' n = reply' at hplace ⊢
    cases hplace with
    | free =>
      cases n - plain.connections.length with
      | zero => exact .taken (Connection.annotated_accepted old _ _)
      | succ later => exact .free

lemma Annotated.reap (h : Annotated old inserted run plain replies replies')
    (hstage : plain.stage = .reaping) :
    Annotated old inserted
      { run with stage := .looking, connections := run.connections.map Connection.joinEnded }
      { plain with stage := .looking, connections := plain.connections.map Connection.joinEnded }
      replies replies' := by
  have hlooking : Annotated old inserted { run with stage := .looking }
      { plain with stage := .looking } replies replies' :=
    h.withStage (by rw [hstage]; rfl) rfl h.exiting_eq h.outcome_eq run.stamping
  refine hlooking.withConnections fun n => ?_
  rw [List.getElem?_map, List.getElem?_map]
  exact (h.connections n).joinEnded

/-- Both give their storages up. -/
lemma Annotated.close (h : Annotated old inserted run plain replies replies')
    (horderly : plain.Orderly) {served : Bool} (hstage : plain.stage = .closing served) :
    Annotated old inserted
      { run with
        shared := { run.shared with storage := (Storage.close run.shared.storage).1 }
        closings := run.closings + 1
        stage := .returned (resultOf served run.outcome (Storage.close run.shared.storage).2) }
      { plain with
        shared := { plain.shared with storage := (Storage.close plain.shared.storage).1 }
        closings := plain.closings + 1
        stage := .returned (resultOf served plain.outcome (Storage.close plain.shared.storage).2) }
      replies replies' := by
  have hshared := h.serving (by rw [hstage]; rfl)
  obtain ⟨log, other, hholds, hholds', hlogs, hstamps⟩ := hshared.logs
  obtain ⟨hclosed, hcontents⟩ := GrowingLog.close hholds
  obtain ⟨hclosed', hcontents'⟩ := GrowingLog.close hholds'
  have hlate : plain.stage.isLate = true := by
    rw [hstage]
    rfl
  have hended : ∀ {n : Nat} (connection : Connection ρ), plain.connections[n]? = some connection →
      connection.hasEnded = true := by
    intro n connection hconnection
    have hmem := List.mem_of_getElem? hconnection
    exact horderly.ended connection hmem (horderly.late hlate connection hmem)
  have hlast : Timestamp.LogsAnnotated old inserted
      (Storage.contents? (Storage.close run.shared.storage).1)
      (Storage.contents? (Storage.close plain.shared.storage).1) := by
    rw [hcontents, hcontents', hshared.manner_eq]
    split
    · exact .kept hlogs hstamps
    · exact .gone
  exact { h with
    stage_eq := by rw [hclosed, hclosed', hshared.manner_eq, h.outcome_eq]
    serving := fun hserving => absurd hserving.symm Bool.false_ne_true
    returned := fun _ => hlast
    connections := fun n => (h.connections n).of_hasEnded hended _ _ }

/-! ## Steps of the workers -/

lemma Annotated.join (h : Annotated old inserted run plain replies replies')
    (hstep : plain.step? (.join number) = some plain') :
    ∃ next, run.step? (.join number) = some next ∧
      Annotated old inserted next plain' replies replies' := by
  simp only [step?] at hstep
  split at hstep
  · next hstage =>
    obtain ⟨other, hother, hstep⟩ := Option.bind_eq_some_iff.1 hstep
    split at hstep
    · next hended =>
      cases hstep
      obtain ⟨connection, hconnection, hsame⟩ := h.exists_connection hother
      refine ⟨run.setConnection number { connection with joined := true }, ?_, ?_⟩
      · simp only [step?, h.stage_eq, hstage, hconnection, Option.bind_eq_bind, Option.bind_some,
          hsame.hasEnded_eq, hsame.joined_eq, hended, if_true]
      · exact h.set hconnection hother (hsame.withJoined true) (fun _ _ => rfl) fun _ _ => rfl
    · cases hstep
  · cases hstep

lemma Annotated.receive (h : Annotated old inserted run plain replies replies') {piece : Bytes}
    (hstep : plain.step? (.receive number piece) = some plain') :
    ∃ next, run.step? (.receive number piece) = some next ∧
      Annotated old inserted next plain' replies replies' := by
  obtain ⟨other, hother, hstep⟩ := Option.bind_eq_some_iff.1 hstep
  split at hstep
  · next hphase =>
    split at hstep
    · cases hstep
    · next hpiece =>
      cases hstep
      obtain ⟨connection, hconnection, hsame⟩ := h.exists_connection hother
      refine ⟨run.setConnection number (connection.receive piece), ?_, ?_⟩
      · simp only [step?, hconnection, Option.bind_eq_bind, Option.bind_some,
          hsame.phase_of_receiving hphase, if_neg hpiece]
      · exact h.set hconnection hother (hsame.receive hphase piece) (fun _ _ => rfl) fun _ _ => rfl
  · cases hstep

/-- Both clients close their sending sides, or both workers see that the server is asked to stop. -/
lemma Annotated.hangUp (h : Annotated old inserted run plain replies replies')
    (hstop : step = .finish number ∨ step = .idle number)
    (hstep : plain.step? step = some plain') :
    ∃ next, run.step? step = some next ∧
      Annotated old inserted next plain' replies replies' := by
  obtain ⟨other, hother, hphase, hexiting, rfl⟩ : ∃ other,
      plain.connections[number]? = some other ∧ other.phase = .receiving ∧
        (step = .idle number → plain.exiting = true) ∧
        plain' = plain.setConnection number (other.stopWith none) := by
    rcases hstop with rfl | rfl
    · obtain ⟨other, hother, hstep⟩ := Option.bind_eq_some_iff.1 hstep
      split at hstep
      · next hphase => exact ⟨other, hother, hphase, nofun, (Option.some.inj hstep).symm⟩
      · cases hstep
    · obtain ⟨other, hother, hstep⟩ := Option.bind_eq_some_iff.1 hstep
      split at hstep
      · next hphase =>
        split at hstep
        · next hexiting =>
          exact ⟨other, hother, hphase, fun _ => hexiting, (Option.some.inj hstep).symm⟩
        · cases hstep
      · cases hstep
  obtain ⟨connection, hconnection, hsame⟩ := h.exists_connection hother
  refine ⟨run.setConnection number (connection.stopWith none), ?_, ?_⟩
  · rcases hstop with rfl | rfl
    · simp only [step?, hconnection, Option.bind_eq_bind, Option.bind_some,
        hsame.phase_of_receiving hphase]
    · simp only [step?, hconnection, Option.bind_eq_bind, Option.bind_some,
        hsame.phase_of_receiving hphase, h.exiting_eq, hexiting rfl, if_true]
  · exact h.set hconnection hother (hsame.stopWith none) (fun _ _ => rfl) fun _ _ => rfl

lemma Annotated.abort (h : Annotated old inserted run plain replies replies')
    (hstep : plain.step? (.abort number) = some plain') :
    ∃ next, run.step? (.abort number) = some next ∧
      Annotated old inserted next plain' replies replies' := by
  obtain ⟨other, hother, hstep⟩ := Option.bind_eq_some_iff.1 hstep
  obtain ⟨connection, hconnection, hsame⟩ := h.exists_connection hother
  have hafter := h.set hconnection hother
    (hsame.stopWith (some (.failed (.io .connectionReset)))) (fun _ _ => rfl) fun _ _ => rfl
  split at hstep
  · next hphase =>
    cases hstep
    refine ⟨_, ?_, hafter⟩
    simp only [step?, hconnection, Option.bind_eq_bind, Option.bind_some,
      hsame.phase_of_receiving hphase]
  · next hphase =>
    cases hstep
    obtain ⟨_, hthis, -⟩ := hsame.phase_of_replying hphase
    exact ⟨_, step?_abort_of_replying hconnection hthis, hafter⟩
  · cases hstep

omit [GrowingLog σ] in
lemma record_execute {command : Command} {waiting : List Command}
    (hconnection : run.connections[number]? = some connection)
    (hphase : connection.phase = .executing command waiting) (replies : Nat → Replies) :
    run.record (.execute number) replies number = (replies number).record [command] none := by
  simp only [record, executed, hconnection, hphase, commandsOf_self, readFor]

/-- A command is carried out by both. -/
lemma Annotated.execute (h : Annotated old inserted run plain replies replies')
    (horderly : plain.Orderly) (hstep : plain.step? (.execute number) = some plain')
    (hcommands : ∀ entry ∈ plain.executed (.execute number),
      Timestamp.isStamp entry.2.bytes = false) :
    ∃ next, run.step? (.execute number) = some next ∧
      Annotated old inserted next plain' (run.record (.execute number) replies)
        (plain.record (.execute number) replies') := by
  obtain ⟨other, hother, hthere⟩ := Option.bind_eq_some_iff.1 hstep
  split at hthere
  · next command waiting hphase' =>
    cases hthere
    obtain ⟨connection, hconnection, hsame⟩ := h.exists_connection hother
    obtain ⟨hphase, hcomplete⟩ := hsame.phase_of_executing hphase'
    have hstamp : Timestamp.isStamp command.bytes = false := by
      apply hcommands (number, command)
      simp only [executed, hother, hphase', List.mem_singleton]
    have hserving : plain.stage.hasReturned = false := by
      have hopen : other.hasEnded = false := by
        rw [Connection.hasEnded, hphase']
      exact Stage.hasReturned_of_isLate (horderly.serving_of_open hother hopen).2
    have hothers : ∀ n ≠ number, run.record (.execute number) replies n = replies n :=
      fun n hn => record_of_ne run rfl replies hn
    have hothers' : ∀ n ≠ number, plain.record (.execute number) replies' n = replies' n :=
      fun n hn => record_of_ne plain rfl replies' hn
    refine ⟨_, step?_of_executing hconnection hphase, ?_⟩
    unfold executeOn
    rcases (h.serving hserving).execute (hcomplete command List.mem_cons_self) hstamp with
      ⟨stop, hfails, hfails'⟩ | ⟨after, after', reader, reader', log, log', hopens, hopens', hafter,
        hgrow, hreads, hreads', hlogs⟩
    · rw [hfails, hfails']
      refine h.set hconnection hother ?_ hothers hothers'
      rw [record_execute hconnection hphase, record_execute hother hphase']
      exact hsame.refuse command none none (some stop)
    · rw [hopens, hopens']
      have hgrown := h.grow hserving hafter hgrow
      have hconnection' : ({ run with shared := .ofStorage after } : Run σ ρ).connections[number]? =
          some connection := hconnection
      refine hgrown.set hconnection' hother ?_ hothers hothers'
      rw [record_execute hconnection hphase, record_execute hother hphase']
      exact (hsame.grow hgrow).reply (fun next hnext => hcomplete next (List.mem_cons_of_mem _ hnext))
        hreads hreads' hlogs command none none
  · cases hthere

/-- Every step of the second server, other than to go on with a reply, can be taken by the first as
well, if no command that is carried out begins like a timestamp. -/
lemma Annotated.exists_step (h : Annotated old inserted run plain replies replies')
    (horderly : plain.Orderly) (hstep : plain.step? step = some plain')
    (hsend : ∀ number room, step ≠ .send number room)
    (hcommands : ∀ entry ∈ plain.executed step, Timestamp.isStamp entry.2.bytes = false) :
    ∃ next, run.step? step = some next ∧
      Annotated old inserted next plain' (run.record step replies)
        (plain.record step replies') := by
  by_cases hsetUp : step = .setUp
  · subst hsetUp
    exact h.setUp hstep
  rcases step_cases hstep with hturns | ⟨rfl, hstage, rfl⟩ | ⟨rfl, hstage, rfl⟩ |
    ⟨served, rfl, hstage, rfl⟩ | ⟨entry, stamping, -, hstamping, -⟩ |
    ⟨number, _, _, hnumber, -, -, -⟩
  · have hquiet : ∀ (of : Run σ ρ) (replies : Nat → Replies), of.record step replies = replies := by
      intro of replies
      cases hturns <;> rfl
    rw [hquiet, hquiet]
    exact h.turn hturns hsetUp
  · refine ⟨_, ?_, h.accept hstage⟩
    simp only [step?, h.stage_eq, hstage]
  · refine ⟨_, ?_, h.reap hstage⟩
    simp only [step?, h.stage_eq, hstage]
    rfl
  · refine ⟨_, ?_, h.close horderly hstage⟩
    simp only [step?, h.stage_eq, hstage]
  · -- the second server writes no timestamps
    exact absurd (hstamping.symm.trans h.plain_stamping_eq) (by decide)
  · cases step with
    | join number => exact h.join hstep
    | receive number piece => exact h.receive hstep
    | execute number => exact h.execute horderly hstep hcommands
    | send number room => exact absurd rfl (hsend number room)
    | finish number => exact h.hangUp (.inl rfl) hstep
    | abort number => exact h.abort hstep
    | idle number => exact h.hangUp (.inr rfl) hstep
    | _ => cases hnumber

/-! ## Replies and timestamps -/

omit [GrowingLog σ] in
lemma record_send {read : Option Bytes} (hread : run.readFor number (.send number room) = read)
    (replies : Nat → Replies) :
    run.record (.send number room) replies number = (replies number).record [] read := by
  rw [record, hread]
  rfl

/-- The first server sends some more of a reply. -/
lemma Annotated.send (h : Annotated old inserted run plain replies replies')
    (hstep : run.step? (.send number room) = some next)
    (hheard : run.heard (.send number room) = []) :
    Annotated old inserted next plain (run.record (.send number room) replies) replies' := by
  obtain ⟨connection, reader, waiting, hconnection, hphase, hroom, hcases⟩ := step?_send_cases hstep
  obtain ⟨other, hother, hsame⟩ := h.exists_plain_connection hconnection
  obtain ⟨reader', -, hreply, -⟩ := hsame.plain_phase_of_replying hphase
  rcases hcases with ⟨fault, hfault⟩ | ⟨moved, -, hend, -⟩ | ⟨byte, piece, moved, hread, hpiece, rfl⟩
  · obtain ⟨⟨_, _, hread⟩, -⟩ := hreply.exists_read room room
    rw [hfault] at hread
    cases hread
  · rw [heard_of_readFor_eq_nil hend] at hheard
    cases hheard
  · have hothers : ∀ n ≠ number, run.record (.send number room) replies n = replies n :=
      fun n hn => record_of_ne run rfl replies hn
    have hafter := hsame.send hphase hread (connection.sent ++ byte :: piece)
    rw [← record_send hpiece] at hafter
    have hset := h.set hconnection hother hafter hothers fun _ _ => rfl
    rw [setConnection_self hother] at hset
    exact hset

/-- The second server sends some more of a reply. -/
lemma Annotated.plain_send (h : Annotated old inserted run plain replies replies')
    (hstep : plain.step? (.send number room) = some plain')
    (hheard : plain.heard (.send number room) = []) :
    Annotated old inserted run plain' replies (plain.record (.send number room) replies') := by
  obtain ⟨other, reader', waiting, hother, hphase', hroom, hcases⟩ := step?_send_cases hstep
  obtain ⟨connection, hconnection, hsame⟩ := h.exists_connection hother
  obtain ⟨reader, -, hreply, -⟩ := hsame.phase_of_replying hphase'
  rcases hcases with ⟨fault, hfault⟩ | ⟨moved, -, hend, -⟩ | ⟨byte, piece, moved, hread, hpiece, rfl⟩
  · obtain ⟨-, _, _, hread⟩ := hreply.exists_read room room
    rw [hfault] at hread
    cases hread
  · rw [heard_of_readFor_eq_nil hend] at hheard
    cases hheard
  · have hothers : ∀ n ≠ number, plain.record (.send number room) replies' n = replies' n :=
      fun n hn => record_of_ne plain rfl replies' hn
    have hafter := hsame.plain_send hphase' hread (other.sent ++ byte :: piece)
    rw [← record_send hpiece] at hafter
    have hset := h.set hconnection hother hafter (fun _ _ => rfl) hothers
    rw [setConnection_self hconnection] at hset
    exact hset

/-- A reply comes to its end on both servers. -/
lemma Annotated.endReply (h : Annotated old inserted run plain replies replies')
    (hstep : run.step? (.send number room) = some next)
    (hheard : run.heard (.send number room) ≠ [])
    (hstep' : plain.step? (.send number room') = some plain')
    (hheard' : plain.heard (.send number room') ≠ []) :
    Annotated old inserted next plain' (run.record (.send number room) replies)
      (plain.record (.send number room') replies') := by
  obtain ⟨connection, reader, waiting, hconnection, hphase, hroom, hcases⟩ := step?_send_cases hstep
  obtain ⟨other, reader', waiting', hother, hphase', hroom', hcases'⟩ := step?_send_cases hstep'
  obtain ⟨there, hthere, hsame⟩ := h.exists_connection hother
  rw [hconnection] at hthere
  cases hthere
  obtain ⟨_, hthis, hreply, -⟩ := hsame.phase_of_replying hphase'
  rw [hphase] at hthis
  cases hthis
  obtain ⟨⟨_, _, hreads⟩, _, _, hreads'⟩ := hreply.exists_read room room'
  rcases hcases with ⟨fault, hfault⟩ | ⟨moved, hread, hend, rfl⟩ | ⟨byte, piece, moved, -, hpiece, -⟩
  · rw [hfault] at hreads
    cases hreads
  · rcases hcases' with ⟨fault, hfault⟩ | ⟨moved', hread', hend', rfl⟩ |
      ⟨byte, piece, moved', -, hpiece, -⟩
    · rw [hfault] at hreads'
      cases hreads'
    · have hafter := hsame.finishReply hphase hroom hread hphase' hroom' hread'
        plain.settings.keepAlive
      rw [← record_send hend, ← record_send hend'] at hafter
      rw [h.keepAlive_eq]
      exact h.set hconnection hother hafter (fun n hn => record_of_ne run rfl replies hn)
        fun n hn => record_of_ne plain rfl replies' hn
    · exact absurd (heard_of_readFor hpiece) hheard'
  · exact absurd (heard_of_readFor hpiece) hheard

/-! ## Timestamps -/

/-- While the first server writes timestamps, it can write one more. -/
lemma Annotated.stamp (h : Annotated old inserted run plain replies replies')
    (horderly : run.Orderly) (hstamping : run.stamping = true) {entry : Command}
    (hentry : Timestamp.IsEntry entry) :
    ∃ shared, run.step? (.stamp entry) = some { run with shared } ∧
      Annotated old (inserted ++ [entry.bytes]) { run with shared } plain replies replies' := by
  have hserving : plain.stage.hasReturned = false := by
    rw [← h.stage_eq]
    exact Stage.hasReturned_of_isLate (horderly.serving_of_stamping hstamping).2
  obtain ⟨after, happend, hshared, hgrow⟩ :=
    (h.serving hserving).stamp hentry.isComplete hentry.isStamp_eq
  refine ⟨.ofStorage after, ?_, h.grow hserving hshared hgrow⟩
  simp only [step?, hstamping, if_true, happend]

omit [GrowingLog σ] in
lemma stamping_of_stamp {entry : Command} (hstep : run.step? (.stamp entry) = some next) :
    run.stamping = true := by
  simp only [step?] at hstep
  split at hstep
  · next hstamping => exact hstamping
  · cases hstep

/-- The first server begins to write timestamps when it is set up, and stops on its way out. -/
lemma Annotated.stamping_eq (h : Annotated old inserted run plain replies replies')
    (hstep : run.step? step = some next) (hstamp : step.isStamp = false) :
    next.stamping = step.stampingAfter run.stamping := by
  by_cases hsetUp : step = .setUp
  · subst hsetUp
    simp only [step?] at hstep
    split at hstep
    · next hstage =>
      have hshared := h.serving (by rw [← h.stage_eq, hstage]; rfl)
      simp only [if_neg h.interval_ne, hshared.poisoned_eq, Bool.false_eq_true, if_false] at hstep
      cases hstep
      exact (GrowingLog.wantsTimestamps_eq _).trans hshared.wantsTimestamps_eq
    · cases hstep
  rcases step_cases hstep with hturns | ⟨rfl, -, rfl⟩ | ⟨rfl, -, rfl⟩ | ⟨served, rfl, -, rfl⟩ |
    ⟨entry, stamping, rfl, -, -⟩ | ⟨number, before, after, hnumber, -, -, rfl⟩
  · cases hturns with
    | setUp | setUpPoisoned => exact absurd rfl hsetUp
    | _ => rfl
  · rfl
  · rfl
  · rfl
  · cases hstamp
  · cases step <;> first | rfl | cases hnumber

/-! ## What the first server can do to keep up -/

/-- Where all of a reply was sent by the first server, it can bring it to its end with the second. -/
lemma Annotated.exists_endReply_of_sent (h : Annotated old inserted run plain replies replies')
    {reader : ρ} {waiting : List Command}
    (hconnection : run.connections[number]? = some connection)
    (hphase : connection.phase = .replying reader waiting)
    (hreads : GrowingLog.Reads run.shared.storage reader [])
    (hstep : plain.step? (.send number room) = some plain')
    (hheard : plain.heard (.send number room) ≠ []) :
    ∃ next, run.step? (.send number 1) = some next ∧
      run.heard (.send number 1) = [.send number 1] ∧
      Annotated old inserted next plain' (run.record (.send number 1) replies)
        (plain.record (.send number room) replies') := by
  obtain ⟨moved, hread, -⟩ := GrowingLog.read hreads 1
  have hend : run.readFor number (.send number 1) = some [] := by
    simp only [readFor, hconnection, hphase, hread, if_true, List.take_nil]
  have hnext := step?_send hconnection hphase Nat.one_ne_zero
  have hlast := heard_of_readFor_eq_nil hend
  have hloud : run.heard (.send number 1) ≠ [] := by
    rw [hlast]
    exact List.cons_ne_nil _ _
  exact ⟨_, hnext, hlast, h.endReply hnext hloud hstep hheard⟩

/-- A reply that comes to its end on the second server can be brought to its end by the first as well,
once what is left of it was sent. -/
lemma Annotated.exists_endReply (h : Annotated old inserted run plain replies replies')
    (hstep : plain.step? (.send number room) = some plain')
    (hheard : plain.heard (.send number room) ≠ []) :
    ∃ steps last recorded, run.stepAll? steps = some last ∧ run.outline steps = [.send number 1] ∧
      last.stamping = run.stamping ∧
      Annotated old inserted last plain' recorded (plain.record (.send number room) replies') := by
  obtain ⟨other, reader', waiting, hother, hphase', -, -⟩ := step?_send_cases hstep
  obtain ⟨connection, hconnection, hsame⟩ := h.exists_connection hother
  obtain ⟨reader, hphase, hreply, -⟩ := hsame.phase_of_replying hphase'
  obtain ⟨rest, hreads⟩ := hreply.exists_reads
  cases rest with
  | nil =>
    obtain ⟨last, hlast, hheard', hafter⟩ :=
      h.exists_endReply_of_sent hconnection hphase hreads hstep hheard
    refine ⟨[.send number 1], last, _, ?_, ?_, h.stamping_eq hlast rfl, hafter⟩
    · rw [stepAll?, hlast]
      rfl
    · rw [outline_cons hlast, hheard', outline, List.append_nil]
  | cons byte piece =>
    obtain ⟨moved, hread, hmoved⟩ := GrowingLog.read hreads (byte :: piece).length
    rw [List.take_length] at hread
    rw [List.drop_length] at hmoved
    have hroom : (byte :: piece).length ≠ 0 := Nat.succ_ne_zero _
    have hnext : run.step? (.send number (byte :: piece).length) =
        some (run.setConnection number
          { connection with
            phase := .replying moved waiting, sent := connection.sent ++ byte :: piece }) := by
      rw [step?_send hconnection hphase hroom, sendOn, hread]
    have hpiece : run.readFor number (.send number (byte :: piece).length) =
        some (byte :: piece) := by
      simp only [readFor, hconnection, hphase, hread, if_true]
    have hquiet := heard_of_readFor hpiece
    have hbetween := h.send hnext hquiet
    obtain ⟨last, hlast, hheard', hafter⟩ := hbetween.exists_endReply_of_sent
      (getElem?_setConnection hconnection _) rfl hmoved hstep hheard
    refine ⟨[.send number (byte :: piece).length, .send number 1], last, _, ?_, ?_, ?_, hafter⟩
    · simp only [stepAll?, hnext, hlast, Option.bind_eq_bind, Option.bind_some]
    · rw [outline_cons hnext, hquiet, outline_cons hlast, hheard', outline]
      rfl
    · exact (hbetween.stamping_eq hlast rfl).trans (h.stamping_eq hnext rfl)

end Run

end Runs

end CommandLog
