import CommandLog.Proofs.Server.Steps

/-!
# Another connection in its place

What one connection is does not matter to the others.  This module puts another connection in the
place of one, whatever it has received and been sent, and compares the two runs.

A step of anyone else is taken in both runs or in neither, and leads to runs that differ in this
place only: `step?_setConnection`.  The one step that has to look at all connections is that of the
main thread which waits until all workers are joined; for it the two connections have to be joined
or not joined together, and if both have ended this stays so.  From there it is an induction on the
history, once for the histories of the others (`stepAll?_setConnection`), and once for all histories
beside a connection that has ended (`stepAll?_setConnection_of_hasEnded`).
-/

namespace CommandLog

namespace Run

variable {σ ρ : Type} [Storage σ ρ] {run next : Run σ ρ} {number : Nat}
  {connection there : Connection ρ} {taken : Step} {steps : List Step}

/-- The other run is this one with some connection in the place of that with the number. -/
def SameBeside (number : Nat) (run other : Run σ ρ) : Prop :=
  ∃ connection, other = run.setConnection number connection

/-- What becomes of a connection in a step that is not its own: the workers that have ended are
joined together. -/
def Step.pass : Step → Connection ρ → Connection ρ
  | .reap, connection => connection.joinEnded
  | _, connection => connection

lemma Step.hasEnded_pass (taken : Step) (connection : Connection ρ) :
    (taken.pass connection).hasEnded = connection.hasEnded := by
  cases taken with
  | reap => exact connection.hasEnded_joinEnded
  | _ => rfl

lemma Step.joined_pass (taken : Step) (hended : there.hasEnded = connection.hasEnded)
    (hjoined : there.joined = connection.joined) :
    (taken.pass there).joined = (taken.pass connection).joined := by
  cases taken with
  | reap =>
    show there.joinEnded.joined = connection.joinEnded.joined
    rw [Connection.joined_joinEnded, Connection.joined_joinEnded, hended, hjoined]
  | _ => exact hjoined

omit [Storage σ ρ] in
/-- Two connections in two places can be put there in any order. -/
lemma setConnection_comm {other : Nat} (hne : other ≠ number) (run : Run σ ρ)
    (connection there : Connection ρ) :
    (run.setConnection number there).setConnection other connection =
      (run.setConnection other connection).setConnection number there := by
  simp only [setConnection, List.set_comm _ _ hne.symm]

lemma executeOn_setConnection {other : Nat} (hne : other ≠ number) (run : Run σ ρ)
    (connection there : Connection ρ) (command : Command) (waiting : List Command) :
    (run.setConnection number there).executeOn other connection command waiting =
      (run.executeOn other connection command waiting).setConnection number there := by
  have hshared : (run.setConnection number there).shared = run.shared := rfl
  unfold executeOn
  rw [hshared]
  rcases run.shared.execute command with ⟨shared, stop | reader⟩
  · exact setConnection_comm hne { run with shared } _ there
  · exact setConnection_comm hne { run with shared } _ there

lemma sendOn_setConnection {other : Nat} (hne : other ≠ number) (run : Run σ ρ)
    (connection there : Connection ρ) (reader : ρ) (waiting : List Command) (room : Nat) :
    (run.setConnection number there).sendOn other connection reader waiting room =
      (run.sendOn other connection reader waiting room).setConnection number there := by
  have hshared : (run.setConnection number there).shared = run.shared := rfl
  have hsettings : (run.setConnection number there).settings = run.settings := rfl
  unfold sendOn
  rw [hshared, hsettings]
  rcases Storage.read run.shared.storage reader room with fault | ⟨_ | ⟨byte, piece⟩, moved⟩
  · exact setConnection_comm hne run _ there
  · exact setConnection_comm hne run _ there
  · exact setConnection_comm hne run _ there

lemma all_joined_set {connections : List (Connection ρ)}
    (hconnection : connections[number]? = some connection)
    (hjoined : there.joined = connection.joined) :
    (connections.set number there).all (·.joined) = connections.all (·.joined) := by
  induction connections generalizing number with
  | nil => rfl
  | cons first others ih =>
    cases number with
    | zero =>
      cases hconnection
      rw [List.set_cons_zero, List.all_cons, List.all_cons, hjoined]
    | succ number => rw [List.set_cons_succ, List.all_cons, List.all_cons, ih hconnection]

/-- The other workers take their steps alike, whichever connection is in the place. -/
lemma step?_setConnection_of_worker {other : Nat} (hworker : taken.connection? = some other)
    (hne : other ≠ number) :
    (run.setConnection number there).step? taken =
      (run.step? taken).map (·.setConnection number there) := by
  have hget : (run.setConnection number there).connections[other]? = run.connections[other]? :=
    List.getElem?_set_ne hne.symm
  have hstage : (run.setConnection number there).stage = run.stage := rfl
  have hexiting : (run.setConnection number there).exiting = run.exiting := rfl
  cases taken with
  | join n =>
    cases hworker
    simp only [step?, hget, hstage, setConnection_comm hne]
    cases run.stage with
    | joining =>
      cases run.connections[other]? with
      | none => rfl
      | some worker =>
        simp only [Option.bind_eq_bind, Option.bind_some, apply_ite (Option.map _)]
        rfl
    | _ => rfl
  | receive n piece | execute n | send n room | finish n | abort n | idle n =>
    cases hworker
    simp only [step?, hget, hexiting, executeOn_setConnection hne, sendOn_setConnection hne,
      setConnection_comm hne]
    cases run.connections[other]? with
    | none => rfl
    | some worker =>
      rcases worker with ⟨_, _ | _ | _ | _, _⟩ <;>
        simp only [Option.bind_eq_bind, Option.bind_some, apply_ite (Option.map _)] <;> rfl
  | _ => cases hworker

/-- The steps of all others are taken alike, whichever connection is in the place.  To go on when all
workers are joined, it is enough to know which are. -/
lemma step?_setConnection (hconnection : run.connections[number]? = some connection)
    (hother : taken.connection? ≠ some number)
    (hjoined : taken = .stopTimestamps → there.joined = connection.joined) :
    (run.setConnection number there).step? taken =
      (run.step? taken).map (·.setConnection number (taken.pass there)) := by
  cases taken with
  | trigger => rfl
  | bind | bindFails | setUpFails | look | registerFails | close =>
    simp only [step?, setConnection, Step.pass]
    split <;> rfl
  | setUp =>
    obtain ⟨⟨keepAlive, interval⟩, ⟨storage, poisoned⟩, stage, _⟩ := run
    cases stage with
    | settingUp =>
      cases interval with
      | zero => rfl
      | succ interval => cases poisoned <;> rfl
    | _ => rfl
  | acceptFails | interrupted =>
    obtain ⟨settings, shared, stage, exiting, _⟩ := run
    cases stage with
    | accepting => cases exiting <;> rfl
    | _ => rfl
  | accept =>
    have hlt := (List.getElem?_eq_some_iff.1 hconnection).1
    simp only [step?, setConnection, Step.pass]
    split
    · simp only [Option.map_some, List.set_append_left _ _ hlt]
    · rfl
  | reap =>
    simp only [step?, setConnection, Step.pass]
    split
    · simp only [Option.map_some, List.map_set]
      rfl
    · rfl
  | stopTimestamps =>
    simp only [step?, setConnection, Step.pass, all_joined_set hconnection (hjoined rfl)]
    split
    · split <;> rfl
    · rfl
  | stamp entry =>
    obtain ⟨settings, shared, stage, exiting, connections, stamping, _⟩ := run
    cases stamping with
    | false => rfl
    | true =>
      simp only [step?, setConnection, Step.pass, if_true]
      rcases shared.append entry.bytes with ⟨shared, ⟨_ | _⟩ | _⟩ <;> rfl
  | join other | receive other piece | execute other | send other room | finish other | abort other
  | idle other =>
    refine step?_setConnection_of_worker rfl ?_
    exact fun heq => hother (congrArg some heq)

/-- A step that is taken alike with the same connection in the place shows what it leaves there. -/
lemma getElem?_of_step?_setConnection {after : Connection ρ}
    (hconnection : run.connections[number]? = some connection) (h : run.step? taken = some next)
    (hstep : (run.setConnection number connection).step? taken =
      (run.step? taken).map (·.setConnection number after)) :
    next.connections[number]? = some after := by
  obtain ⟨there, hthere, -⟩ := connection_of_step h hconnection
  rw [setConnection_self hconnection, h, Option.map_some, Option.some.injEq] at hstep
  rw [hstep]
  exact getElem?_setConnection hthere after

/-- Of two workers that have both ended, either can be joined if the other can, and neither can take
another step. -/
lemma step?_setConnection_of_hasEnded (hconnection : run.connections[number]? = some connection)
    (hown : taken.connection? = some number) (hended : connection.hasEnded = true)
    (hended' : there.hasEnded = true) (hjoined : there.joined = connection.joined) :
    (run.setConnection number there).step? taken =
      (run.step? taken).map (·.setConnection number { there with joined := true }) := by
  have hget := getElem?_setConnection hconnection there
  have hstage : (run.setConnection number there).stage = run.stage := rfl
  obtain ⟨stop, hphase⟩ := Connection.exists_stop_of_hasEnded hended
  obtain ⟨stop', hphase'⟩ := Connection.exists_stop_of_hasEnded hended'
  cases taken with
  | join n =>
    cases hown
    simp only [step?, hget, hconnection, hstage, Option.bind_eq_bind, Option.bind_some, hended,
      hended', hjoined]
    cases run.stage with
    | joining =>
      simp only [apply_ite (Option.map _), Option.map_some, setConnection_setConnection]
      rfl
    | _ => rfl
  | receive n piece | execute n | send n room | finish n | abort n | idle n =>
    cases hown
    simp only [step?, hget, hconnection, Option.bind_eq_bind, Option.bind_some, hphase, hphase']
    rfl
  | _ => cases hown

/-- A worker that is to carry a command out can do nothing else. -/
lemma eq_execute_of_executing {command : Command} {waiting : List Command}
    (hconnection : run.connections[number]? = some connection)
    (hphase : connection.phase = .executing command waiting)
    (hown : taken.connection? = some number) (h : run.step? taken = some next) :
    taken = .execute number := by
  cases taken with
  | execute n =>
    cases hown
    rfl
  | join n =>
    cases hown
    simp only [step?, hconnection, Option.bind_eq_bind, Option.bind_some, Connection.hasEnded,
      hphase, Bool.false_and, Bool.false_eq_true, if_false] at h
    split at h <;> cases h
  | receive n piece | send n room | finish n | abort n | idle n =>
    cases hown
    simp only [step?, hconnection, Option.bind_eq_bind, Option.bind_some, hphase] at h
    cases h
  | _ => cases hown

/-! ## Histories of the others -/

/-- Whoever else goes on, goes on alike, as long as not all workers are to be joined. -/
lemma stepAll?_setConnection (hconnection : run.connections[number]? = some connection)
    (hothers : ∀ taken ∈ steps, taken.connection? ≠ some number ∧ taken ≠ .stopTimestamps) :
    Option.Rel (SameBeside number) (run.stepAll? steps)
      ((run.setConnection number there).stepAll? steps) := by
  induction steps generalizing run connection there with
  | nil => exact .some ⟨there, rfl⟩
  | cons taken others ih =>
    obtain ⟨hother, hnot⟩ := hothers taken List.mem_cons_self
    simp only [stepAll?, Option.bind_eq_bind]
    rw [step?_setConnection hconnection hother (absurd · hnot)]
    cases htaken : run.step? taken with
    | none => exact .none
    | some next =>
      refine ih (getElem?_of_step?_setConnection hconnection htaken
        (step?_setConnection hconnection hother fun _ => rfl)) ?_
      exact fun later hlater => hothers later (List.mem_cons_of_mem _ hlater)

/-- Everybody goes on alike beside a worker that has ended. -/
lemma stepAll?_setConnection_of_hasEnded
    (hconnection : run.connections[number]? = some connection)
    (hended : connection.hasEnded = true) (hended' : there.hasEnded = true)
    (hjoined : there.joined = connection.joined) (steps : List Step) :
    Option.Rel (SameBeside number) (run.stepAll? steps)
      ((run.setConnection number there).stepAll? steps) := by
  induction steps generalizing run connection there with
  | nil => exact .some ⟨there, rfl⟩
  | cons taken others ih =>
    simp only [stepAll?, Option.bind_eq_bind]
    by_cases hown : taken.connection? = some number
    · rw [step?_setConnection_of_hasEnded hconnection hown hended hended' hjoined]
      cases htaken : run.step? taken with
      | none => exact .none
      | some next =>
        have hnext := getElem?_of_step?_setConnection hconnection htaken
          (step?_setConnection_of_hasEnded hconnection hown hended hended rfl)
        exact ih hnext hended hended' rfl
    · rw [step?_setConnection hconnection hown fun _ => hjoined]
      cases htaken : run.step? taken with
      | none => exact .none
      | some next =>
        have hnext := getElem?_of_step?_setConnection hconnection htaken
          (step?_setConnection hconnection hown fun _ => rfl)
        refine ih hnext ?_ ?_ (taken.joined_pass (hended'.trans hended.symm) hjoined)
        · rw [taken.hasEnded_pass, hended]
        · rw [taken.hasEnded_pass, hended']

end Run

end CommandLog
