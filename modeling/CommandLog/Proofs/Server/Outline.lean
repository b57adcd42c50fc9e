import CommandLog.Proofs.Server.Replies

/-!
# The outline of a history

A worker sends a reply in pieces, as many as it likes.  Two histories that differ in this alone have
the same outline: `Run.outline` keeps the steps of a history and, of those that send a reply, only
where the reply comes to its end.  This is how a history with timestamps can be compared with one
without them, in which there is less to send.

`Step.StampsInTime` says of an outline that timestamps are appended only while the thread is running
that writes them.
-/

namespace CommandLog

namespace Run

deriving instance DecidableEq for Step

/-! ## Timestamps in a history -/

/-- The timestamp that is appended in a step, if any. -/
def Step.stamp? : Step → Option Command
  | .stamp entry => some entry
  | _ => none

/-- Is a timestamp appended in this step? -/
def Step.isStamp (step : Step) : Bool := step.stamp?.isSome

/-- The timestamps that are appended in a history. -/
def Step.stamps (steps : List Step) : List Command := steps.filterMap Step.stamp?

/-- The steps that append no timestamp. -/
def Step.withoutStamps (steps : List Step) : List Step := steps.filter (!·.isStamp)

/-- Are timestamps written after a step, if they were or were not before it? -/
def Step.stampingAfter (stamping : Bool) : Step → Bool
  | .setUp => true
  | .stopTimestamps => false
  | _ => stamping

/-- Timestamps are appended only when they are written. -/
def Step.StampsInTime : (stamping : Bool) → List Step → Prop
  | _, [] => True
  | stamping, step :: others =>
    (step.isStamp = true → stamping = true) ∧ StampsInTime (step.stampingAfter stamping) others

lemma Step.eq_of_stamp? {step : Step} {entry : Command} (h : step.stamp? = some entry) :
    step = .stamp entry := by
  cases step with
  | stamp other =>
    cases h
    rfl
  | _ => cases h

lemma Step.stamps_append (steps others : List Step) :
    stamps (steps ++ others) = stamps steps ++ stamps others :=
  List.filterMap_append

lemma Step.withoutStamps_cons_of_isStamp {step : Step} (h : step.isStamp = true)
    (others : List Step) : withoutStamps (step :: others) = withoutStamps others :=
  List.filter_cons_of_neg (by rw [h]; decide)

lemma Step.withoutStamps_cons_of_not_isStamp {step : Step} (h : step.isStamp = false)
    (others : List Step) : withoutStamps (step :: others) = step :: withoutStamps others :=
  List.filter_cons_of_pos (by rw [h]; decide)

/-- Where nothing is left without the timestamps, there are only timestamps. -/
lemma Step.isStamp_of_withoutStamps_eq_nil {steps : List Step} (h : withoutStamps steps = []) :
    ∀ step ∈ steps, step.isStamp = true := by
  intro step hstep
  have hleft := List.filter_eq_nil_iff.1 h step hstep
  rw [Bool.not_eq_true', Bool.not_eq_false] at hleft
  exact hleft

/-- The first step that is no timestamp has only timestamps before it. -/
lemma Step.exists_of_withoutStamps_eq_cons {steps others : List Step} {step : Step}
    (h : withoutStamps steps = step :: others) :
    ∃ stamps rest, steps = stamps ++ step :: rest ∧ (∀ stamp ∈ stamps, stamp.isStamp = true) ∧
      step.isStamp = false ∧ withoutStamps rest = others := by
  obtain ⟨stamps, rest, hsteps, hstamps, hstep, hothers⟩ := List.filter_eq_cons_iff.1 h
  refine ⟨stamps, rest, hsteps, ?_, ?_, hothers⟩
  · exact isStamp_of_withoutStamps_eq_nil (List.filter_eq_nil_iff.2 hstamps)
  · rw [Bool.not_eq_true'] at hstep
    exact hstep

/-! ## Outlines -/

section

variable {σ ρ : Type} [Storage σ ρ]

/-- The place of a step in an outline: none, while some more of a reply is sent.  For how many bytes
there was room when the reply was at its end does not matter. -/
def heard (run : Run σ ρ) : Step → List Step
  | .send number room =>
    match run.readFor number (.send number room) with
    | some (_ :: _) => []
    | _ => [.send number 1]
  | step => [step]

/-- The outline of a history. -/
def outline (run : Run σ ρ) : List Step → List Step
  | [] => []
  | step :: others =>
    match run.step? step with
    | some next => run.heard step ++ next.outline others
    | none => []

/-- The replies to all connections after a step. -/
def record (run : Run σ ρ) (step : Step) (replies : Nat → Replies) (number : Nat) : Replies :=
  (replies number).record (commandsOf number (run.executed step)) (run.readFor number step)

variable {run next : Run σ ρ} {step : Step}

lemma outline_cons (h : run.step? step = some next) (others : List Step) :
    run.outline (step :: others) = run.heard step ++ next.outline others := by
  rw [outline, h]

lemma outline_append {steps : List Step} (h : run.stepAll? steps = some next)
    (others : List Step) :
    run.outline (steps ++ others) = run.outline steps ++ next.outline others := by
  induction steps generalizing run with
  | nil =>
    cases h
    rfl
  | cons step steps ih =>
    obtain ⟨after, hstep, hlast, -⟩ := stepAll?_cons h
    rw [List.cons_append, outline_cons hstep, outline_cons hstep, ih hlast, List.append_assoc]

lemma repliesFrom_cons (h : run.step? step = some next) (replies : Nat → Replies) (number : Nat)
    (others : List Step) :
    run.repliesFrom number (replies number) (step :: others) =
      next.repliesFrom number (run.record step replies number) others := by
  rw [repliesFrom, h, record]

/-- A step that belongs to a connection says nothing about the replies to others. -/
lemma record_of_ne (run : Run σ ρ) {number other : Nat} (hnumber : step.connection? = some number)
    (replies : Nat → Replies) (hne : other ≠ number) :
    run.record step replies other = replies other := by
  have hother : step.connection? ≠ some other := by
    rw [hnumber]
    exact fun heq => hne (Option.some.inj heq).symm
  obtain ⟨hexecuted, -, hread⟩ := run.nothing_of_connection?_ne hother
  rw [record, hexecuted, hread, Replies.record]

lemma heard_of_readFor {number room : Nat} {byte : UInt8} {piece : Bytes}
    (h : run.readFor number (.send number room) = some (byte :: piece)) :
    run.heard (.send number room) = [] := by
  rw [heard, h]

lemma heard_of_readFor_eq_nil {number room : Nat}
    (h : run.readFor number (.send number room) = some []) :
    run.heard (.send number room) = [.send number 1] := by
  rw [heard, h]

lemma heard_of_not_send (run : Run σ ρ) (h : ∀ number room, step ≠ .send number room) :
    run.heard step = [step] := by
  cases step with
  | send number room => exact absurd rfl (h number room)
  | _ => rfl

/-- Only a worker that goes on with a reply can go unheard, and every step has at most one place. -/
lemma heard_cases (run : Run σ ρ) (step : Step) :
    (run.heard step = [] ∧ ∃ number room, step = .send number room) ∨
      ∃ place, run.heard step = [place] := by
  cases step with
  | send number room =>
    rw [heard]
    split
    · exact .inl ⟨rfl, number, room, rfl⟩
    · exact .inr ⟨_, rfl⟩
  | _ => exact .inr ⟨_, rfl⟩

/-- A step is its own place, unless a reply comes to its end in it. -/
lemma step_of_heard {place : Step} (h : run.heard step = [place]) :
    (step = place ∧ ∀ number room, place ≠ .send number room) ∨
      ∃ number room, step = .send number room ∧ place = .send number 1 := by
  by_cases hsend : ∃ number room, step = .send number room
  · obtain ⟨number, room, rfl⟩ := hsend
    refine .inr ⟨number, room, rfl, ?_⟩
    rw [heard] at h
    split at h
    · cases h
    · exact (List.head_eq_of_cons_eq h).symm
  · have hother : ∀ number room, step ≠ .send number room :=
      fun number room heq => hsend ⟨number, room, heq⟩
    rw [run.heard_of_not_send hother] at h
    obtain rfl := List.head_eq_of_cons_eq h
    exact .inl ⟨rfl, hother⟩

lemma isStamp_of_heard {place : Step} (h : run.heard step = [place]) :
    place.isStamp = step.isStamp := by
  rcases step_of_heard h with ⟨rfl, -⟩ | ⟨number, room, rfl, rfl⟩
  · rfl
  · rfl

/-- Two steps with the same place are the same, or both go on with a reply of the same connection. -/
lemma eq_or_sends_of_heard {run other : Run σ ρ} {step taken place : Step}
    (h : run.heard step = [place]) (h' : other.heard taken = [place]) :
    (∃ number room room', step = .send number room ∧ taken = .send number room') ∨
      step = taken ∧ ∀ number room, taken ≠ .send number room := by
  rcases step_of_heard h with ⟨rfl, hother⟩ | ⟨number, room, rfl, hplace⟩
  · rcases step_of_heard h' with ⟨rfl, -⟩ | ⟨number, room, rfl, hplace⟩
    · exact .inr ⟨rfl, hother⟩
    · exact absurd hplace (hother number 1)
  · rcases step_of_heard h' with ⟨rfl, hother⟩ | ⟨number', room', rfl, hplace'⟩
    · exact absurd hplace (hother number 1)
    · cases hplace.symm.trans hplace'
      exact .inl ⟨number, room, room', rfl, rfl⟩

/-- A history and its outline have the same timestamps. -/
lemma stamps_outline {steps : List Step} {last : Run σ ρ} (h : run.stepAll? steps = some last) :
    Step.stamps (run.outline steps) = Step.stamps steps := by
  induction steps generalizing run with
  | nil => rfl
  | cons step steps ih =>
    obtain ⟨next, hstep, hlast, -⟩ := stepAll?_cons h
    have hheard : Step.stamps (run.heard step) = Step.stamps [step] := by
      cases step with
      | send number room =>
        rw [heard]
        split
        · rfl
        · rfl
      | _ => rfl
    rw [outline_cons hstep, Step.stamps_append, ih hlast, hheard, ← Step.stamps_append,
      List.singleton_append]

/-- What a worker does when it goes on with a reply: it cannot read on and gives the connection up, or
it finds the reply at its end, or it sends some more of it. -/
lemma step?_send_cases {number room : Nat} (h : run.step? (.send number room) = some next) :
    ∃ connection reader waiting, run.connections[number]? = some connection ∧
      connection.phase = .replying reader waiting ∧ room ≠ 0 ∧
      ((∃ fault, Storage.read run.shared.storage reader room = .error fault) ∨
        (∃ moved, Storage.read run.shared.storage reader room = .ok ([], moved) ∧
          run.readFor number (.send number room) = some [] ∧
          next = run.setConnection number
            (connection.finishReply run.settings.keepAlive waiting)) ∨
        ∃ byte piece moved,
          Storage.read run.shared.storage reader room = .ok (byte :: piece, moved) ∧
          run.readFor number (.send number room) = some (byte :: piece) ∧
          next = run.setConnection number
            { connection with
              phase := .replying moved waiting, sent := connection.sent ++ byte :: piece }) := by
  obtain ⟨connection, hconnection, h⟩ := Option.bind_eq_some_iff.1 h
  split at h
  · next reader waiting hphase =>
    split at h
    · cases h
    · next hroom =>
      refine ⟨connection, reader, waiting, hconnection, hphase, hroom, ?_⟩
      rw [Option.some.injEq, sendOn] at h
      rcases hread : Storage.read run.shared.storage reader room with
        fault | ⟨_ | ⟨byte, piece⟩, moved⟩
      · exact .inl ⟨fault, rfl⟩
      · rw [hread] at h
        refine .inr (.inl ⟨moved, rfl, ?_, h.symm⟩)
        simp only [readFor, hconnection, hphase, hread, if_true]
      · rw [hread] at h
        refine .inr (.inr ⟨byte, piece, moved, rfl, ?_, h.symm⟩)
        simp only [readFor, hconnection, hphase, hread, if_true]
  · cases h

lemma step?_send {number room : Nat} {connection : Connection ρ} {reader : ρ}
    {waiting : List Command} (hconnection : run.connections[number]? = some connection)
    (hphase : connection.phase = .replying reader waiting) (hroom : room ≠ 0) :
    run.step? (.send number room) = some (run.sendOn number connection reader waiting room) := by
  simp only [step?, hconnection, Option.bind_eq_bind, Option.bind_some, hphase, if_neg hroom]

end

end Run

end CommandLog
