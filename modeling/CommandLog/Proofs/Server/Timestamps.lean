import CommandLog.Proofs.Server.AnnotatedRun

/-!
# Timestamps leave everything else as it is

Histories of two servers are compared by their outlines.  If the outlines are the same but for the
timestamps, the servers stay at the same point (`Run.Annotated.follow`); and for every way to put
timestamps into the outline of a history without them there is a history with this outline
(`Run.Annotated.exists_history`).

Together, `Run.timestamps_disturb_nothing`: wherever timestamps are appended while a server is
serving, each is a line of its own, and without the lines that begin like a timestamp the log and the
replies are what they would have been.  The lines to be left out need not be timestamps of this server:
a log that has such lines from before keeps them.
-/

namespace CommandLog

namespace Run

section Histories

variable {σ ρ : Type} [Storage σ ρ] [GrowingLog σ] {old inserted : List Bytes}
  {run next plain plain' last plainLast : Run σ ρ} {replies replies' : Nat → Replies}
  {step step' place : Step} {steps others rest : List Step}

/-- The second server goes on unheard. -/
lemma Annotated.plain_sendAll (h : Annotated old inserted run plain replies replies')
    (hplain : plain.stepAll? others = some plainLast) (houtline : plain.outline others = []) :
    Annotated old inserted run plainLast replies
      fun number => plain.repliesFrom number (replies' number) others := by
  induction others generalizing plain replies' with
  | nil =>
    cases hplain
    exact h
  | cons step others ih =>
    obtain ⟨next, hstep, hlast, -⟩ := stepAll?_cons hplain
    rw [outline_cons hstep] at houtline
    obtain ⟨hquiet, hlater⟩ := List.append_eq_nil_iff.1 houtline
    rcases plain.heard_cases step with ⟨-, number, room, rfl⟩ | ⟨place, hheard⟩
    · have hafter := ih (h.plain_send hstep hquiet) hlast hlater
      simp only [repliesFrom_cons hstep]
      exact hafter
    · rw [hheard] at hquiet
      cases hquiet

/-- The second server goes on unheard to its next step that has a place in the outline. -/
lemma Annotated.exists_heard (h : Annotated old inserted run plain replies replies')
    (horderly : plain.Orderly) (hplain : plain.stepAll? others = some plainLast)
    (houtline : plain.outline others = place :: rest) :
    ∃ between recorded step after later,
      Annotated old inserted run between replies recorded ∧ between.Orderly ∧
      between.step? step = some after ∧ between.heard step = [place] ∧
      after.stepAll? later = some plainLast ∧ after.outline later = rest ∧
      plain.executedAll others = between.executed step ++ after.executedAll later ∧
      ∀ number, plain.repliesFrom number (replies' number) others =
        after.repliesFrom number (between.record step recorded number) later := by
  induction others generalizing plain replies' with
  | nil => cases houtline
  | cons step others ih =>
    obtain ⟨next, hstep, hlast, hexecuted⟩ := stepAll?_cons hplain
    rw [outline_cons hstep] at houtline
    rcases plain.heard_cases step with ⟨hquiet, number, room, rfl⟩ | ⟨first, hheard⟩
    · rw [hquiet] at houtline
      obtain ⟨between, recorded, taken, after, later, hbetween, hinorder, htaken, hplace, hlater,
        hrest, hcarried, hreplies⟩ :=
          ih (h.plain_send hstep hquiet) (horderly.step hstep) hlast houtline
      refine ⟨between, recorded, taken, after, later, hbetween, hinorder, htaken, hplace, hlater,
        hrest, hexecuted.trans hcarried, ?_⟩
      intro number
      rw [repliesFrom_cons hstep, hreplies number]
    · rw [hheard] at houtline
      cases houtline
      exact ⟨plain, replies', step, next, others, h, horderly, hstep, hheard, hlast, rfl, hexecuted,
        fun number => repliesFrom_cons hstep replies' number others⟩

/-- Both servers take the steps at the same place of their outlines. -/
lemma Annotated.both (h : Annotated old inserted run plain replies replies')
    (horderly : plain.Orderly) (hstep : run.step? step = some next)
    (hstep' : plain.step? step' = some plain') (hheard : run.heard step = [place])
    (hheard' : plain.heard step' = [place])
    (hcommands : ∀ entry ∈ plain.executed step', Timestamp.isStamp entry.2.bytes = false) :
    Annotated old inserted next plain' (run.record step replies) (plain.record step' replies') := by
  rcases eq_or_sends_of_heard hheard hheard' with ⟨number, room, room', rfl, rfl⟩ | ⟨rfl, hsend⟩
  · refine h.endReply hstep ?_ hstep' ?_
    · rw [hheard]
      exact List.cons_ne_nil _ _
    · rw [hheard']
      exact List.cons_ne_nil _ _
  · obtain ⟨there, hthere, hafter⟩ := h.exists_step horderly hstep' hsend hcommands
    rw [hstep] at hthere
    cases hthere
    exact hafter

/-- Two histories with the same outlines but for the timestamps lead to the same point. -/
lemma Annotated.follow (h : Annotated old inserted run plain replies replies')
    (horderly : run.Orderly) (horderly' : plain.Orderly) (hrun : run.stepAll? steps = some last)
    (hplain : plain.stepAll? others = some plainLast)
    (hentries : ∀ entry ∈ Step.stamps steps, Timestamp.IsEntry entry)
    (houtline : Step.withoutStamps (run.outline steps) = plain.outline others)
    (hcommands : ∀ entry ∈ plain.executedAll others, Timestamp.isStamp entry.2.bytes = false) :
    Annotated old (inserted ++ (Step.stamps steps).map Command.bytes) last plainLast
      (fun number => run.repliesFrom number (replies number) steps)
      fun number => plain.repliesFrom number (replies' number) others := by
  induction steps generalizing run plain others replies replies' inserted with
  | nil =>
    cases hrun
    have hsent := h.plain_sendAll hplain houtline.symm
    rw [Step.stamps, List.filterMap_nil, List.map_nil, List.append_nil]
    exact hsent
  | cons step steps ih =>
    obtain ⟨next, hstep, hlast, -⟩ := stepAll?_cons hrun
    have hnext := horderly.step hstep
    simp only [repliesFrom_cons hstep]
    rw [outline_cons hstep] at houtline
    cases hstamp : step.stamp? with
    | some entry =>
      obtain rfl : step = .stamp entry := Step.eq_of_stamp? hstamp
      have hstamps : Step.stamps (.stamp entry :: steps) = entry :: Step.stamps steps :=
        List.filterMap_cons_some hstamp
      rw [hstamps] at hentries ⊢
      obtain ⟨shared, hthere, hafter⟩ :=
        h.stamp horderly (stamping_of_stamp hstep) (hentries entry List.mem_cons_self)
      rw [hstep] at hthere
      cases hthere
      have hlater := ih hafter hnext horderly' hlast hplain
        (fun other hother => hentries other (List.mem_cons_of_mem _ hother))
        (by rw [← houtline]; exact (Step.withoutStamps_cons_of_isStamp rfl _).symm) hcommands
      rw [List.append_assoc] at hlater
      exact hlater
    | none =>
      have hstamps : Step.stamps (step :: steps) = Step.stamps steps :=
        List.filterMap_cons_none hstamp
      rw [hstamps] at hentries ⊢
      rcases run.heard_cases step with ⟨hquiet, number, room, rfl⟩ | ⟨place, hheard⟩
      · rw [hquiet] at houtline
        exact ih (h.send hstep hquiet) hnext horderly' hlast hplain hentries houtline hcommands
      · have hplace : place.isStamp = false := by
          rw [isStamp_of_heard hheard, Step.isStamp, hstamp, Option.isSome_none]
        rw [hheard, List.singleton_append, Step.withoutStamps_cons_of_not_isStamp hplace] at houtline
        obtain ⟨between, recorded, taken, after, later, hbetween, hinorder, htaken, hsame, hlater,
          hrest, hexecuted, hreplies⟩ := h.exists_heard horderly' hplain houtline.symm
        rw [hexecuted] at hcommands
        have hafter := hbetween.both hinorder hstep htaken hheard hsame
          fun entry hentry => hcommands entry (List.mem_append_left _ hentry)
        simp only [hreplies]
        exact ih hafter hnext (hinorder.step htaken) hlast hlater hentries hrest.symm
          fun entry hentry => hcommands entry (List.mem_append_right _ hentry)

/-! ## Timestamps at any place -/

/-- While the first server writes timestamps, it can write any number of them. -/
lemma Annotated.stampAll {stamps : List Step} (h : Annotated old inserted run plain replies replies')
    (horderly : run.Orderly) (hstamps : ∀ step ∈ stamps, step.isStamp = true)
    (hentries : ∀ entry ∈ Step.stamps stamps, Timestamp.IsEntry entry)
    (htime : Step.StampsInTime run.stamping (stamps ++ rest)) :
    ∃ next written, run.stepAll? stamps = some next ∧ run.outline stamps = stamps ∧
      Annotated old written next plain replies replies' ∧ next.Orderly ∧
      Step.StampsInTime next.stamping rest := by
  induction stamps generalizing run inserted with
  | nil => exact ⟨run, inserted, rfl, rfl, h, horderly, htime⟩
  | cons step stamps ih =>
    have hthis := hstamps step List.mem_cons_self
    obtain ⟨entry, hentry⟩ := Option.isSome_iff_exists.1 hthis
    obtain rfl := Step.eq_of_stamp? hentry
    rw [List.cons_append] at htime
    obtain ⟨hstamping, hlater⟩ := htime
    have hentry : Timestamp.IsEntry entry := hentries entry List.mem_cons_self
    obtain ⟨shared, hstep, hafter⟩ := h.stamp horderly (hstamping rfl) hentry
    obtain ⟨next, written, hnext, houtline, hsame, hinorder, hrest⟩ :=
      ih hafter (horderly.step hstep) (fun other hother => hstamps other (List.mem_cons_of_mem _ hother))
        (fun other hother => hentries other (List.mem_cons_of_mem _ hother)) hlater
    refine ⟨next, written, ?_, ?_, hsame, hinorder, hrest⟩
    · rw [stepAll?, hstep]
      exact hnext
    · rw [outline_cons hstep, houtline]
      rfl

/-- What the second server does at a place of its outline, the first can do as well. -/
lemma Annotated.exists_place (h : Annotated old inserted run plain replies replies')
    (horderly : plain.Orderly) (hstep : plain.step? step = some plain')
    (hheard : plain.heard step = [place])
    (hcommands : ∀ entry ∈ plain.executed step, Timestamp.isStamp entry.2.bytes = false)
    (hplace : place.isStamp = false) :
    ∃ steps next recorded, run.stepAll? steps = some next ∧ run.outline steps = [place] ∧
      next.stamping = place.stampingAfter run.stamping ∧
      Annotated old inserted next plain' recorded (plain.record step replies') := by
  rcases step_of_heard hheard with ⟨rfl, hother⟩ | ⟨number, room, rfl, rfl⟩
  · obtain ⟨next, hnext, hafter⟩ := h.exists_step horderly hstep hother hcommands
    refine ⟨[step], next, _, ?_, ?_, h.stamping_eq hnext hplace, hafter⟩
    · rw [stepAll?, hnext]
      rfl
    · rw [outline_cons hnext, run.heard_of_not_send hother]
      rfl
  · refine h.exists_endReply hstep ?_
    rw [hheard]
    exact List.cons_ne_nil _ _

/-- However timestamps are put into the outline of a history of the second server, the first has a
history with this outline. -/
lemma Annotated.exists_history {mixed : List Step}
    (h : Annotated old inserted run plain replies replies') (horderly : run.Orderly)
    (horderly' : plain.Orderly) (hplain : plain.stepAll? others = some plainLast)
    (hcommands : ∀ entry ∈ plain.executedAll others, Timestamp.isStamp entry.2.bytes = false)
    (hmixed : Step.withoutStamps mixed = plain.outline others)
    (htime : Step.StampsInTime run.stamping mixed)
    (hentries : ∀ entry ∈ Step.stamps mixed, Timestamp.IsEntry entry) :
    ∃ steps last, run.stepAll? steps = some last ∧ run.outline steps = mixed := by
  induction others generalizing run plain inserted replies replies' mixed with
  | nil =>
    have hall := Step.isStamp_of_withoutStamps_eq_nil hmixed
    rw [← List.append_nil mixed] at htime
    obtain ⟨next, -, hnext, houtline, -⟩ := h.stampAll horderly hall hentries htime
    exact ⟨mixed, next, hnext, houtline⟩
  | cons step others ih =>
    obtain ⟨plain', hstep, hlast, hexecuted⟩ := stepAll?_cons hplain
    have hnext := horderly'.step hstep
    rw [hexecuted] at hcommands
    have hlater : ∀ entry ∈ plain'.executedAll others, Timestamp.isStamp entry.2.bytes = false :=
      fun entry hentry => hcommands entry (List.mem_append_right _ hentry)
    rw [outline_cons hstep] at hmixed
    rcases plain.heard_cases step with ⟨hquiet, number, room, rfl⟩ | ⟨place, hheard⟩
    · rw [hquiet] at hmixed
      exact ih (h.plain_send hstep hquiet) horderly hnext hlast hlater hmixed htime hentries
    · rw [hheard, List.singleton_append] at hmixed
      obtain ⟨stamps, rest, rfl, hstamps, hplace, hrest⟩ :=
        Step.exists_of_withoutStamps_eq_cons hmixed
      rw [Step.stamps_append] at hentries
      obtain ⟨between, written, hbetween, hbefore, hsame, hinorder, -, htime⟩ :=
        h.stampAll horderly hstamps
          (fun entry hentry => hentries entry (List.mem_append_left _ hentry)) htime
      obtain ⟨steps, after, recorded, hafter, hthere, hstamping, hsame⟩ :=
        hsame.exists_place horderly' hstep hheard
          (fun entry hentry => hcommands entry (List.mem_append_left _ hentry)) hplace
      rw [← hstamping] at htime
      have hmore : ∀ entry ∈ Step.stamps rest, Timestamp.IsEntry entry := by
        intro entry hentry
        apply hentries entry
        apply List.mem_append_right
        rw [Step.stamps, List.filterMap_cons]
        split
        · exact hentry
        · exact List.mem_cons_of_mem _ hentry
      obtain ⟨more, last, hlast, houtline⟩ :=
        ih hsame (hinorder.stepAll hafter) hnext hlast hlater hrest htime hmore
      refine ⟨stamps ++ (steps ++ more), last, ?_, ?_⟩
      · rw [stepAll?_append, hbetween, Option.bind_some, stepAll?_append, hafter, Option.bind_some,
          hlast]
      · rw [outline_append hbetween, outline_append hafter, hbefore, hthere, houtline]
        rfl

end Histories

/-! ## What is seen of a server -/

section Seen

/-- What others see of a server: how far its run has come, its log, and of each connection whether it
is closed, the replies that were sent in full, the command that is not answered in full yet and, if
there is none, all that was sent. -/
@[ext]
structure Seen where
  stage : Stage
  log : Option Bytes
  closed : Nat → Option Bool
  replies : Nat → List (Command × Bytes)
  begun : Nat → Option Command
  sent : Nat → Option Bytes

/-- The same, but for all lines that begin like a timestamp. -/
def Seen.withoutStamps (seen : Seen) : Seen :=
  { seen with
    log := seen.log.map Timestamp.withoutStamps
    replies := fun number => (seen.replies number).map Timestamp.withoutStampsIn
    sent := fun number => (seen.sent number).map Timestamp.withoutStamps }

variable {σ ρ : Type} [Storage σ ρ]

/-- What is seen of a server after a history. -/
def seen (start : Run σ ρ) (steps : List Step) (run : Run σ ρ) : Seen where
  stage := run.stage
  log := Storage.contents? run.shared.storage
  closed number := run.connections[number]?.map Connection.hasEnded
  replies number := (start.repliesTo number steps).whole
  begun number := (start.repliesTo number steps).begun.map Prod.fst
  sent number :=
    if (start.repliesTo number steps).begun.isNone then run.connections[number]?.map Connection.sent
    else none

variable [GrowingLog σ] {old inserted : List Bytes} {run plain : Run σ ρ}
  {steps others : List Step} {settings settings' : Settings} {storage : σ}

/-- What was sent to a connection are the replies, unless one of them is not at its end. -/
def Seen.SendsReplies (seen : Seen) : Prop :=
  ∀ number, seen.sent number =
    if seen.begun number = none then
      (seen.closed number).map fun _ => (seen.replies number).flatMap Prod.snd
    else none

namespace Seen

variable {seen other : Seen}

lemma SendsReplies.ext (h : seen.SendsReplies) (h' : other.SendsReplies)
    (hstage : seen.stage = other.stage) (hlog : seen.log = other.log)
    (hclosed : ∀ number, seen.closed number = other.closed number)
    (hreplies : ∀ number, seen.replies number = other.replies number)
    (hbegun : ∀ number, seen.begun number = other.begun number) : seen = other := by
  apply Seen.ext hstage hlog (funext hclosed) (funext hreplies) (funext hbegun)
  funext number
  rw [h number, h' number, hbegun, hclosed, hreplies]

lemma SendsReplies.withoutStamps (h : seen.SendsReplies)
    (hcomplete : ∀ number, ∀ reply ∈ seen.replies number, reply.2.unfinished = []) :
    seen.withoutStamps.SendsReplies := by
  intro number
  show (seen.sent number).map Timestamp.withoutStamps =
    if seen.begun number = none then
      (seen.closed number).map fun _ =>
        ((seen.replies number).map Timestamp.withoutStampsIn).flatMap Prod.snd
    else none
  rw [h number, ← Timestamp.withoutStamps_flatMap (hcomplete number)]
  split
  · exact Option.map_map ..
  · rfl

end Seen

omit [GrowingLog σ] in
lemma seen_sendsReplies (h : (initial settings storage).stepAll? steps = some run) :
    ((initial settings storage).seen steps run).SendsReplies := by
  intro number
  simp only [seen, Option.map_eq_none_iff, Option.isNone_iff_eq_none]
  split
  · next hbegun =>
    cases hconnection : run.connections[number]? with
    | none => rfl
    | some connection =>
      have hsent := (exchanged_of_stepAll? h hconnection).sent_eq
      rw [Replies.bytes, hbegun, Option.toList_none, List.append_nil] at hsent
      exact congrArg some hsent
  · rfl

/-- The log of the first server is that of the second with timestamps added, or both are gone. -/
lemma Annotated.logs {replies replies' : Nat → Replies}
    (h : Annotated old inserted run plain replies replies') :
    Timestamp.LogsAnnotated old inserted (Storage.contents? run.shared.storage)
      (Storage.contents? plain.shared.storage) := by
  cases hreturned : plain.stage.hasReturned with
  | true => exact h.returned hreturned
  | false =>
    obtain ⟨log, other, hholds, hholds', hlogs, hstamps⟩ := (h.serving hreturned).logs
    rw [GrowingLog.contents?_eq hholds, GrowingLog.contents?_eq hholds']
    exact .kept hlogs hstamps

/-- Two servers that were started with the same log, of which only the first writes timestamps. -/
lemma annotated_initial {keepAlive : Bool} {interval : Nat} {start : Bytes}
    (hholds : GrowingLog.Holds storage start) (hcomplete : start.unfinished = [])
    (hwants : Storage.wantsTimestamps storage = true) (hinterval : interval ≠ 0) :
    Annotated (Timestamp.stamps start) [] (initial ⟨keepAlive, interval⟩ storage : Run σ ρ)
      (initial ⟨keepAlive, 0⟩ storage) (fun _ => .empty) fun _ => .empty where
  keepAlive_eq := rfl
  interval_ne := hinterval
  plain_interval_eq := rfl
  stage_eq := rfl
  exiting_eq := rfl
  outcome_eq := rfl
  plain_stamping_eq := rfl
  serving _ := {
    poisoned_eq := rfl
    plain_poisoned_eq := rfl
    manner_eq := rfl
    wantsTimestamps_eq := (GrowingLog.wantsTimestamps_eq storage).symm.trans hwants
    logs := ⟨start, start, hholds, hholds, Timestamp.annotated_self hcomplete,
      (List.append_nil _).symm⟩ }
  returned hreturned := absurd hreturned Bool.false_ne_true
  connections _ := .free

/-- Without the lines that begin like a timestamp, the same is seen of both servers.  Of the second,
nothing need be left out if its log had no such lines to begin with. -/
lemma Annotated.seen_eq
    (h : Annotated old inserted run plain
      (fun number => (initial settings storage : Run σ ρ).repliesTo number steps)
      fun number => (initial settings' storage : Run σ ρ).repliesTo number others)
    (hrun : (initial settings storage).stepAll? steps = some run)
    (hplain : (initial settings' storage).stepAll? others = some plain) :
    ((initial settings storage).seen steps run).withoutStamps =
        ((initial settings' storage).seen others plain).withoutStamps ∧
      (old = [] → ((initial settings storage).seen steps run).withoutStamps =
        (initial settings' storage).seen others plain) := by
  have hplaces := fun number => (h.connections number).seen
  have hsends := (seen_sendsReplies hrun).withoutStamps fun number =>
    (Timestamp.unfinished_of_sameReply (hplaces number).2.2).1
  have hsends' := seen_sendsReplies hplain
  refine ⟨?_, fun hold => ?_⟩
  · apply hsends.ext (hsends'.withoutStamps fun number =>
      (Timestamp.unfinished_of_sameReply (hplaces number).2.2).2) h.stage_eq
    · exact h.logs.withoutStamps_eq
    · exact fun number => (hplaces number).1
    · exact fun number => Timestamp.withoutStampsIn_of_sameReply (hplaces number).2.2
    · exact fun number => (hplaces number).2.1
  · apply hsends.ext hsends' h.stage_eq
    · exact h.logs.withoutStamps_eq_plain hold
    · exact fun number => (hplaces number).1
    · exact fun number => Timestamp.withoutStampsIn_eq_of_sameReply (hplaces number).2.2 hold
    · exact fun number => (hplaces number).2.1

/-- Take a history of a server whose storage wants timestamps, without any, in which no command begins
like one, and put timestamps into its outline, wherever they are written.  Then the server that writes
timestamps has a history with this outline; and after each such history, the lines that begin like a
timestamp aside, the same is seen of both servers.  If there are none of these in the log to begin
with, nothing need be left out of what is seen without timestamps.  Each timestamp is one complete line
of the log, in the order in which they were written. -/
theorem timestamps_disturb_nothing {keepAlive : Bool} {interval : Nat} {start : Bytes}
    {mixed : List Step} (hholds : GrowingLog.Holds storage start)
    (hcomplete : start.unfinished = []) (hwants : Storage.wantsTimestamps storage = true)
    (hinterval : interval ≠ 0)
    (hplain : (initial ⟨keepAlive, 0⟩ storage).stepAll? others = some plain)
    (hcommands : ∀ entry ∈ (initial ⟨keepAlive, 0⟩ storage : Run σ ρ).executedAll others,
      Timestamp.isStamp entry.2.bytes = false)
    (hmixed : Step.withoutStamps mixed =
      (initial ⟨keepAlive, 0⟩ storage : Run σ ρ).outline others)
    (htime : Step.StampsInTime false mixed)
    (hentries : ∀ entry ∈ Step.stamps mixed, Timestamp.IsEntry entry) :
    let quiet : Run σ ρ := initial ⟨keepAlive, 0⟩ storage
    let stamped : Run σ ρ := initial ⟨keepAlive, interval⟩ storage
    (∃ steps run, stamped.stepAll? steps = some run ∧ stamped.outline steps = mixed) ∧
      (∀ entry ∈ Step.stamps mixed, entry.IsComplete ∧ Timestamp.isStamp entry.bytes = true) ∧
      ∀ steps run, stamped.stepAll? steps = some run → stamped.outline steps = mixed →
        (stamped.seen steps run).withoutStamps = (quiet.seen others plain).withoutStamps ∧
        (Timestamp.stamps start = [] →
          (stamped.seen steps run).withoutStamps = quiet.seen others plain) ∧
        ∀ log, Storage.contents? run.shared.storage = some log →
          Timestamp.stamps log =
            Timestamp.stamps start ++ (Step.stamps mixed).map Command.bytes := by
  intro quiet stamped
  have hstart : Annotated (Timestamp.stamps start) [] stamped quiet (fun _ => .empty)
      fun _ => .empty := annotated_initial hholds hcomplete hwants hinterval
  have horderly : stamped.Orderly := orderly_initial _ _
  have horderly' : quiet.Orderly := orderly_initial _ _
  refine ⟨?_, ?_, ?_⟩
  · exact hstart.exists_history horderly horderly' hplain hcommands hmixed htime hentries
  · intro entry hentry
    have hstamp := hentries entry hentry
    exact ⟨hstamp.isComplete, hstamp.isStamp_eq⟩
  · rintro steps run hrun rfl
    rw [stamps_outline hrun] at hentries ⊢
    have hlast := hstart.follow horderly horderly' hrun hplain hentries hmixed hcommands
    obtain ⟨hsame, hliteral⟩ := hlast.seen_eq hrun hplain
    refine ⟨hsame, hliteral, ?_⟩
    intro log hlog
    exact hlast.logs.stamps_eq hlog

/-- A timestamp is written while the data file replies to a command. -/
theorem timestamps_disturb_nothing_within_reply :
    ∃ entry, Timestamp.entry 0 0 0 = .ok entry ∧
      let storage : HostedFile :=
        ⟨⟨[(["tmp"], .directory), (["tmp", "log"], .file 0)], [.empty], []⟩,
          ⟨.ofString "/tmp/log", 0, 0, true, [], []⟩⟩
      let quiet : Run HostedFile FileCursor := initial ⟨true, 0⟩ storage
      let stamped : Run HostedFile FileCursor := initial ⟨true, 60000⟩ storage
      let before : List Step :=
        [.bind, .setUp, .look, .accept, .receive 0 [97, 10], .execute 0]
      let others : List Step := before ++ [.send 0 512, .send 0 512]
      ∃ plain steps run, quiet.stepAll? others = some plain ∧ stamped.stepAll? steps = some run ∧
        stamped.outline steps = before ++ [.stamp entry, .send 0 1] ∧
        (stamped.seen steps run).withoutStamps = quiet.seen others plain ∧
        ∀ log, Storage.contents? run.shared.storage = some log →
          Timestamp.stamps log = [entry.bytes] := by
  obtain ⟨entry, hentry⟩ : ∃ entry, Timestamp.entry 0 0 0 = .ok entry := ⟨_, rfl⟩
  refine ⟨entry, hentry, ?_⟩
  intro storage quiet stamped before others
  have hholds : storage.Holds [] := ⟨by decide +kernel, Nat.one_pos, by decide +kernel, ⟨rfl, rfl⟩⟩
  obtain ⟨plain, hplain⟩ : ∃ plain, quiet.stepAll? others = some plain :=
    Option.isSome_iff_exists.1 (by decide +kernel)
  have hcommands : ∀ command ∈ quiet.executedAll others,
      Timestamp.isStamp command.2.bytes = false := by decide +kernel
  have houtline : quiet.outline others = before ++ [.send 0 1] := by decide +kernel
  have hmixed : Step.withoutStamps (before ++ [.stamp entry, .send 0 1]) =
      quiet.outline others := by
    rw [houtline]
    rfl
  have htime : Step.StampsInTime false (before ++ [.stamp entry, .send 0 1]) := by
    simp [before, Step.StampsInTime, Step.stampingAfter, Step.isStamp, Step.stamp?]
  have hentries : ∀ other ∈ Step.stamps (before ++ [.stamp entry, .send 0 1]),
      Timestamp.IsEntry other := by
    intro other hother
    obtain rfl := List.mem_singleton.1 hother
    exact ⟨0, 0, 0, hentry⟩
  obtain ⟨⟨steps, run, hrun, hthere⟩, -, hsame⟩ :=
    timestamps_disturb_nothing hholds rfl rfl (by decide : 60000 ≠ 0) hplain hcommands hmixed htime
      hentries
  obtain ⟨-, hliteral, hstamps⟩ := hsame steps run hrun hthere
  exact ⟨plain, steps, run, hplain, hrun, hthere, hliteral rfl, hstamps⟩

/-- Something must be left out of what is seen without timestamps: a line of the log that begins like
one may have been there before. -/
theorem not_seen_eq_of_old_timestamps :
    ¬ ∀ (storage : HostedFile) (start : Bytes) (keepAlive : Bool) (interval : Nat)
        (others steps : List Step) (plain run : Run HostedFile FileCursor),
      let quiet : Run HostedFile FileCursor := initial ⟨keepAlive, 0⟩ storage
      let stamped : Run HostedFile FileCursor := initial ⟨keepAlive, interval⟩ storage
      storage.Holds start → start.unfinished = [] → Storage.wantsTimestamps storage = true →
      interval ≠ 0 → quiet.stepAll? others = some plain →
      (∀ entry ∈ quiet.executedAll others, Timestamp.isStamp entry.2.bytes = false) →
      stamped.stepAll? steps = some run →
      Step.withoutStamps (stamped.outline steps) = quiet.outline others →
      (∀ entry ∈ Step.stamps steps, Timestamp.IsEntry entry) →
      (stamped.seen steps run).withoutStamps = quiet.seen others plain := by
  intro h
  let start : Bytes := Utf8.encode "timestamp:x\n"
  let storage : HostedFile :=
    ⟨⟨[(["tmp"], .directory), (["tmp", "log"], .file 0)], [.ofBytes start], []⟩,
      ⟨.ofString "/tmp/log", 0, start.length, true, [], []⟩⟩
  have hholds : storage.Holds start :=
    ⟨by decide +kernel, Nat.one_pos, Packed.toBytes_ofBytes start, ⟨rfl, rfl⟩⟩
  have hsame := h storage start true 60000 [] [] _ _ hholds (by decide +kernel) rfl (by decide) rfl
    (fun _ hentry => nomatch hentry) rfl rfl fun _ hentry => nomatch hentry
  have hlog : (some start).map Timestamp.withoutStamps = some start := by
    rw [← hholds.contents?_eq]
    exact congrArg Seen.log hsame
  exact absurd hlog (by decide +kernel)

end Seen

end Run

end CommandLog
