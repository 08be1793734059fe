import AssessmentChat.Proofs.InteractionSteps
import AssessmentChat.Proofs.StopsOnlyWhenTold

namespace AssessmentChat

/-!
# The phase after an utterance

Which phase follows an utterance is decided by what the workspace, the service
and the store answered.  A plan that cannot be begun, a vital request that
failed and a watch that was given up lead to an apology; an assessment that came
to another end than its completion leads back to the start; a plan that was
kept is discussed.  A discussion goes where the service says that it should.
-/

/-- A completed plan has been downloaded and kept. -/
def DeliversPlan (deeds : List Deed) : Prop :=
  ∃ engagementId kept,
    kept ∈ keptPlans deeds ∧
      .answered
          (.service (.downloadPlan engagementId kept.plan.assessmentId))
          (.ok kept.plan.content) ∈ deeds

/-- Nothing can be planned: there are no files, or there is nothing to revise. -/
def Unplannable (before : Conversation) (deeds : List Deed) : Prop :=
  before.phase = .awaitingRequirements ∧
      .answered .workspaceIsEmpty true ∈ deeds ∨
    before.phase = .awaitingRevision ∧
      ¬ before.context.NamesAssessment

/-- The watch of an assessment was begun, and left before it came to an end. -/
structure WatchCutShort
    (policy : PollPolicy)
    (before : Conversation)
    (deeds : List Deed) : Prop where
  reached :
    ∃ engagementId assessmentId context,
      WatchReached before deeds engagementId assessmentId context
  leftOff :
    LeftOff policy deeds

/-- The phase after an utterance about a plan. -/
structure PhaseAfterPlan
    (policy : PollPolicy)
    (unplannable cutShort : Prop)
    (deeds : List Deed)
    (phase : Phase) : Prop where
  phases :
    phase ∈ [Phase.errored, .awaitingGoal, .discussingPlan]
  errored :
    phase = .errored ↔
      unplannable ∨ VitalFailure deeds ∨ GivesUp policy deeds
  awaitingGoal :
    phase = .awaitingGoal ↔
      .ok .failed ∈ jobAnswers deeds ∨
        .ok .cancelled ∈ jobAnswers deeds ∨
        cutShort
  discussingPlan :
    phase = .discussingPlan ↔
      .ok .completed ∈ jobAnswers deeds ∧ DeliversPlan deeds

/-- The context after an utterance about a plan. -/
structure ContextAfterPlan
    (before : Conversation)
    (deeds : List Deed)
    (context : Context) : Prop where
  watched :
    ∀ engagementId assessmentId named,
      WatchReached before deeds engagementId assessmentId named →
      context = named
  notWatched :
    (∀ engagementId assessmentId named,
      ¬ WatchReached before deeds engagementId assessmentId named) →
    .answered .workspaceIsEmpty true ∉ deeds →
    context = before.context
  noFiles :
    .answered .workspaceIsEmpty true ∈ deeds →
    context = before.context.withApology Wording.emptyWorkspace

/-- The phase after an utterance that discusses a plan. -/
structure PhaseAfterDiscussion
    (policy : PollPolicy)
    (context : Context)
    (deeds : List Deed)
    (phase : Phase) : Prop where
  phases :
    phase ∈
      [Phase.errored, .awaitingRevision, .awaitingRequirements,
        .discussingPlan]
  errored :
    phase = .errored ↔
      context.engagementId = none ∨
        VitalFailure deeds ∨
        GivesUp policy deeds
  awaitingRevision :
    phase = .awaitingRevision ↔ .revision ∈ intents deeds
  awaitingRequirements :
    phase = .awaitingRequirements ↔ .newAnalysis ∈ intents deeds
  discussingPlan :
    phase = .discussingPlan ↔
      .unclear ∈ intents deeds ∨
        .question ∈ intents deeds ∧
          ¬ VitalFailure deeds ∧
          ¬ GivesUp policy deeds

/-! ## Deliveries and preparations -/

/-- Nothing is delivered if nothing is kept. -/
theorem not_deliversPlan
    {deeds : List Deed}
    (nothingKept : keptPlans deeds = []) :
    ¬ DeliversPlan deeds := by
  rintro ⟨engagementId, kept, member, -⟩
  rw [nothingKept] at member
  cases member

/-- A plan is delivered whatever was done before. -/
theorem DeliversPlan.after
    {deeds : List Deed}
    (delivers : DeliversPlan deeds)
    (earlier : List Deed) :
    DeliversPlan (earlier ++ deeds) := by
  obtain ⟨engagementId, kept, member, downloaded⟩ := delivers
  refine ⟨engagementId, kept, ?_, List.mem_append_right _ downloaded⟩
  rw [keptPlans_append]
  exact List.mem_append_right _ member

namespace Preparation

variable {deeds : List Deed}

/-- A preparation delivers no plan, and no part of one. -/
theorem deliversPlan_iff
    {later : List Deed}
    (preparation : Preparation deeds) :
    DeliversPlan (deeds ++ later) ↔ DeliversPlan later := by
  constructor
  · rintro ⟨engagementId, kept, member, downloaded⟩
    rw [keptPlans_append, preparation.keptPlans_eq_nil,
      List.nil_append] at member
    refine ⟨engagementId, kept, member,
      (List.mem_append.mp downloaded).resolve_left fun early => ?_⟩
    cases preparation _ (List.mem_filterMap.mpr ⟨_, early, rfl⟩)
  · exact fun delivers => delivers.after deeds

end Preparation

namespace PhaseAfterPlan

variable
  {policy : PollPolicy}
  {unplannable cutShort : Prop}
  {deeds : List Deed}

/-! ## Endings -/

/-- A failure leads to the errored phase. -/
theorem of_failure
    (failure : unplannable ∨ VitalFailure deeds ∨ GivesUp policy deeds)
    (notFailed : .ok .failed ∉ jobAnswers deeds)
    (notCancelled : .ok .cancelled ∉ jobAnswers deeds)
    (notCutShort : ¬ cutShort)
    (nothingKept : keptPlans deeds = []) :
    PhaseAfterPlan policy unplannable cutShort deeds .errored where
  phases := by simp
  errored := by simp [failure]
  awaitingGoal := by simp [notFailed, notCancelled, notCutShort]
  discussingPlan := by simp [not_deliversPlan nothingKept]

/-- A watch that is given up leads to the errored phase. -/
theorem of_givenUp
    (givenUp : InProgress deeds ∧ GivesUp policy deeds)
    (nothingKept : keptPlans deeds = []) :
    PhaseAfterPlan policy unplannable (LeftOff policy deeds) deeds
      .errored := by
  obtain ⟨inProgress, givesUp⟩ := givenUp
  refine .of_failure (.inr (.inr givesUp)) ?_ ?_ ?_ nothingKept
  · exact fun member => nomatch inProgress _ member
  · exact fun member => nomatch inProgress _ member
  · exact fun leftOff => leftOff.notGivenUp givesUp

/-- A watch that is left off leads back to the goal. -/
theorem of_leftOff
    (noFailure : ¬ VitalFailure deeds)
    (leftOff : LeftOff policy deeds)
    (nothingKept : keptPlans deeds = []) :
    PhaseAfterPlan policy False (LeftOff policy deeds) deeds
      .awaitingGoal where
  phases := by simp
  errored := by simp [noFailure, leftOff.notGivenUp]
  awaitingGoal := by simp [leftOff]
  discussingPlan := by simp [not_deliversPlan nothingKept]

/-- A job that was seen to its end was not left off. -/
theorem not_leftOff
    {status : JobStatus}
    (seen : SeenToEnd policy deeds status)
    (terminal : status ≠ .inProgress) :
    ¬ LeftOff policy deeds := by
  intro leftOff
  have member := (seen.ends status terminal).mpr rfl
  exact terminal (leftOff.inProgress status member)

/-- A job that has failed or was cancelled leads back to the goal. -/
theorem of_notCompleted
    {status : JobStatus}
    (noFailure : ¬ VitalFailure deeds)
    (seen : SeenToEnd policy deeds status)
    (notCompleted : status = .failed ∨ status = .cancelled)
    (nothingKept : keptPlans deeds = []) :
    PhaseAfterPlan policy False (LeftOff policy deeds) deeds
      .awaitingGoal where
  phases := by simp
  errored := by simp [noFailure, seen.notGivenUp]
  awaitingGoal := by
    simp [seen.ends, eq_comm, ← or_assoc, notCompleted]
  discussingPlan := by simp [not_deliversPlan nothingKept]

/-- A job that is completed leads to its plan, unless that cannot be delivered. -/
theorem of_completed
    {phase : Phase}
    (seen : SeenToEnd policy deeds .completed)
    (delivers :
      phase = .errored ∧ VitalFailure deeds ∧ keptPlans deeds = [] ∨
        phase = .discussingPlan ∧
          ¬ VitalFailure deeds ∧
          DeliversPlan deeds) :
    PhaseAfterPlan policy False (LeftOff policy deeds) deeds phase := by
  have notLeftOff := not_leftOff seen (by simp)
  rcases delivers with
    ⟨rfl, failure, nothingKept⟩ | ⟨rfl, noFailure, delivers⟩
  · refine .of_failure (.inr (.inl failure)) ?_ ?_ notLeftOff nothingKept
    · simp [seen.ends]
    · simp [seen.ends]
  · exact
      { phases := by simp
        errored := by simp [noFailure, seen.notGivenUp]
        awaitingGoal := by simp [seen.ends, notLeftOff]
        discussingPlan := by simp [seen.ends, delivers] }

/-! ## Beginnings -/

/-- What fails before an assessment is watched leads to an apology. -/
theorem of_preparation
    (failure : unplannable ∨ VitalFailure deeds)
    (preparation : Preparation deeds)
    (notCutShort : ¬ cutShort) :
    PhaseAfterPlan policy unplannable cutShort deeds .errored := by
  have noAnswers := preparation.jobAnswers_eq_nil
  refine .of_failure (failure.imp_right .inl) ?_ ?_ notCutShort
    preparation.keptPlans_eq_nil
  · simp [noAnswers]
  · simp [noAnswers]

/-- A preparation that succeeds leaves the phase to what comes after it. -/
theorem after_preparation
    {earlier : List Deed}
    {phase : Phase}
    (table :
      PhaseAfterPlan policy False (LeftOff policy deeds) deeds phase)
    (preparation : Preparation earlier)
    (noFailure : ¬ VitalFailure earlier)
    (plannable : ¬ unplannable)
    (cutShort_iff : cutShort ↔ LeftOff policy (earlier ++ deeds)) :
    PhaseAfterPlan policy unplannable cutShort (earlier ++ deeds)
      phase := by
  have answers : jobAnswers (earlier ++ deeds) = jobAnswers deeds := by
    rw [jobAnswers_append, preparation.jobAnswers_eq_nil, List.nil_append]
  refine ⟨table.phases, ?_, ?_, ?_⟩
  · simp [table.errored, plannable, noFailure, givesUp_congr answers]
  · rw [table.awaitingGoal, answers, cutShort_iff, leftOff_congr answers]
  · rw [table.discussingPlan, answers, preparation.deliversPlan_iff]

end PhaseAfterPlan

/-- The context after an utterance that discusses a plan. -/
structure ContextAfterDiscussion
    (utterance : String)
    (before : Context)
    (deeds : List Deed)
    (context : Context) : Prop where
  takenUp :
    ∀ engagementId input started,
      .answered (.service (.startInteraction engagementId input))
          (.ok started) ∈ deeds →
      context = before.withInteraction started.interactionId
  newAnalysis :
    .newAnalysis ∈ intents deeds →
    context = before.withGoal (trim utterance)
  otherwise :
    (∀ engagementId input started,
      .answered (.service (.startInteraction engagementId input))
          (.ok started) ∉ deeds) →
    .newAnalysis ∉ intents deeds →
    context = before

namespace Conversation

variable
  {policy : PollPolicy}
  {utterance streamId : String}
  {deeds : List Deed}
  {context : Context}
  {engagementId : EngagementId}
  {assessmentId : AssessmentId}
  {next : Conversation}

/-! ## Ending a plan -/

/-- A watch does not come to vital requests and keeps nothing. -/
theorem AssessmentGoesOn.quiet
    {watched : List Deed}
    {failures : Nat}
    (goesOn :
      AssessmentGoesOn policy streamId engagementId assessmentId
        watched failures) :
    ¬ VitalFailure watched ∧ keptPlans watched = [] := by
  have watches := WatchesJob.assessment engagementId assessmentId
  refine ⟨watches.not_vitalFailure goesOn, ?_⟩
  rw [keptPlans, goesOn.storings_eq_nil]
  rfl

/-- A delivery ends in the errored phase with a failure, or with the plan. -/
theorem Delivery.delivers
    (delivery : Delivery context engagementId assessmentId deeds next) :
    next.phase = .errored ∧ VitalFailure deeds ∧ keptPlans deeds = [] ∨
      next.phase = .discussingPlan ∧
        ¬ VitalFailure deeds ∧
        DeliversPlan deeds := by
  cases delivery with
  | notDownloaded fault =>
      exact .inl ⟨rfl, by simp [Request.isVital], rfl⟩
  | notStored content fault =>
      exact .inl ⟨rfl, by simp [Request.isVital, Request.Fails], rfl⟩
  | delivered content locator =>
      refine .inr ⟨rfl, by simp [Request.Fails], ?_⟩
      exact ⟨engagementId, ⟨⟨context.sessionId, assessmentId, content⟩,
        locator⟩, List.mem_singleton.mpr rfl, by simp⟩

/-- What an assessment came to decides the phase, once it is watched. -/
theorem PlanEnding.phaseAfterPlan
    (ending :
      PlanEnding policy context streamId engagementId assessmentId
        deeds next) :
    PhaseAfterPlan policy False (LeftOff policy deeds) deeds next.phase := by
  have watches := WatchesJob.assessment engagementId assessmentId
  cases ending with
  | exhausted fault goesOn enough =>
      obtain ⟨-, nothingKept⟩ := goesOn.quiet
      refine .of_givenUp (goesOn.givesUp watches fault enough ?_) ?_
      · simp [Except.map]
      · simpa [keptPlans] using nothingKept
  | stopped answer goesOn =>
      obtain ⟨noFailure, nothingKept⟩ := goesOn.quiet
      refine .of_leftOff ?_ (goesOn.leftOff watches ?_) ?_
      · simp [noFailure, Request.isVital]
      · simp
      · simpa [keptPlans] using nothingKept
  | @notCompleted _ _ report _ goesOn ended =>
      obtain ⟨noFailure, nothingKept⟩ := goesOn.quiet
      refine .of_notCompleted ?_ (goesOn.seenToEnd watches ?_)
        (ended.imp And.left And.left) ?_
      · simp [noFailure]
      · simp [Except.map]
      · simpa [keptPlans] using nothingKept
  | @completed _ delivery _ report _ goesOn status delivered =>
      obtain ⟨noFailure, nothingKept⟩ := goesOn.quiet
      have noAnswers : jobAnswers delivery = [] := by
        cases delivered <;> simp
      refine .of_completed (goesOn.seenToEnd watches ?_) ?_
      · simp [Except.map, noAnswers, status]
      · rcases delivered.delivers with
          ⟨errored, failure, notKept⟩ | ⟨discussing, succeeds, delivers⟩
        · refine .inl ⟨errored, by simp [failure], ?_⟩
          simpa [keptPlans, goesOn.storings_eq_nil] using notKept
        · refine .inr ⟨discussing, by simp [noFailure, succeeds], ?_⟩
          exact delivers.after (_ :: _)

/-! ## Beginning a plan -/

/-- An assessment is started unless a request for it fails. -/
theorem AssessmentStart.vitalFailure_iff
    {outcome : Except Fault Context}
    (start : AssessmentStart utterance context deeds outcome) :
    VitalFailure deeds ↔ ∃ fault, outcome = .error fault := by
  have ensures
      {ensuring : List Deed}
      {ensured : Except Fault EngagementId}
      (ensure : EngagementEnsured context ensuring ensured) :
      VitalFailure ensuring ↔ ∃ fault, ensured = .error fault := by
    cases ensure <;> simp [Request.isVital]
  cases start with
  | noEngagement ensure | notUploaded _ ensure | notStarted _ ensure
  | started _ ensure =>
      simp [ensures ensure, Request.isVital]

/-- No workspace is found empty while an assessment is started. -/
theorem AssessmentStart.nothing_empty
    {outcome : Except Fault Context}
    (start : AssessmentStart utterance context deeds outcome) :
    .answered .workspaceIsEmpty true ∉ deeds := by
  have ensures
      {ensuring : List Deed}
      {ensured : Except Fault EngagementId}
      (ensure : EngagementEnsured context ensuring ensured) :
      .answered .workspaceIsEmpty true ∉ ensuring := by
    cases ensure <;> simp
  cases start with
  | noEngagement ensure | notUploaded _ ensure | notStarted _ ensure
  | started _ ensure =>
      simp [ensures ensure]

/-- Who comes to the watch of a new assessment has started it. -/
theorem AssessmentStart.reached
    {started : Context}
    {later earlier : List Deed}
    (start : AssessmentStart utterance context deeds (.ok started)) :
    ∃ engagementId assessmentId,
      WatchReached ⟨.awaitingRequirements, context⟩
        (earlier ++ deeds ++ later) engagementId assessmentId started := by
  cases start with
  | @started ensuring engagementId began ensure =>
      have member :
          .answered
              (.service
                (.startAssessment engagementId
                  (context.assessmentInput utterance)))
              (.ok began) ∈
            earlier ++
              (ensuring ++
                ServiceCall.exchange (.uploadWorkspace engagementId)
                  (.ok ()) ++
                ServiceCall.exchange
                  (.startAssessment engagementId
                    (context.assessmentInput utterance))
                  (.ok began)) ++
              later := by
        simp
      exact ⟨_, _, .created rfl member⟩

/-- A plan whose assessment has started was not begun in an empty workspace. -/
theorem AssessmentStart.plannable
    {started : Context}
    {ending : List Deed}
    (start : AssessmentStart utterance context deeds (.ok started))
    (planEnding :
      PlanEnding policy started streamId engagementId assessmentId
        ending next) :
    .answered .workspaceIsEmpty true ∉
      Request.exchange .workspaceIsEmpty false ++
        planAnnouncement streamId ++ deeds ++ ending := by
  have notInEnding : .answered .workspaceIsEmpty true ∉ ending :=
    planEnding.notMem_of_preparation rfl _
  simp [planAnnouncement, start.nothing_empty, notInEnding]

/-- The creation of a plan leads to the phase of the table. -/
theorem PlanCreation.phaseAfterPlan
    (created : PlanCreation policy utterance context deeds next) :
    PhaseAfterPlan policy
      (Unplannable ⟨.awaitingRequirements, context⟩ deeds)
      (WatchCutShort policy ⟨.awaitingRequirements, context⟩ deeds)
      deeds next.phase := by
  cases created with
  | emptyWorkspace =>
      refine .of_preparation (.inl (.inl ⟨rfl, by simp⟩)) ?_ ?_
      · simp [Request.isPreparation]
      · rintro ⟨⟨_, _, _, ⟨_, member⟩ | ⟨revises, -⟩⟩, -⟩
        · simp at member
        · cases revises
  | @notStarted starting fault streamId start =>
      refine .of_preparation (.inr ?_) ?_ ?_
      · simp [planAnnouncement, start.vitalFailure_iff]
      · simp [planAnnouncement, Request.isPreparation, start.preparation]
      · rintro ⟨⟨_, _, _, ⟨_, member⟩ | ⟨revises, -⟩⟩, -⟩
        · simp [planAnnouncement] at member
          cases start.started_mem member
        · cases revises
  | @started starting ending _ _ _ _ streamId start ids planEnding =>
      refine planEnding.phaseAfterPlan.after_preparation ?_ ?_ ?_ ?_
      · simp [planAnnouncement, Request.isPreparation, start.preparation]
      · simp [planAnnouncement, start.vitalFailure_iff, Request.Fails]
      · rintro (⟨-, member⟩ | ⟨revises, -⟩)
        · exact start.plannable planEnding member
        · cases revises
      · obtain ⟨_, _, reached⟩ := start.reached
        exact ⟨WatchCutShort.leftOff, fun leftOff =>
          ⟨⟨_, _, _, reached⟩, leftOff⟩⟩

/-- A context names an assessment exactly if both of its names are known. -/
theorem namesAssessment_iff
    (context : Context) :
    context.NamesAssessment ↔
      ∃ engagementId assessmentId,
        remoteIds context = .ok (engagementId, assessmentId) := by
  constructor
  · exact remoteIds_of_names
  · rintro ⟨engagementId, assessmentId, ids⟩
    have engagement := engagementId_of_remoteIds ids
    have assessment := assessmentId_of_remoteIds ids
    exact ⟨by simp [engagement], by simp [assessment]⟩

/-- Who comes to the watch of a revision has been told that it is taken up. -/
theorem watchReached_of_updated
    {earlier later : List Deed}
    {input : String}
    {status : JobStatus} :
    WatchReached ⟨.awaitingRevision, context⟩
      (earlier ++
        ServiceCall.exchange
          (.updateAssessment engagementId assessmentId input)
          (.ok status) ++
        later)
      engagementId assessmentId context := by
  have member :
      .answered
          (.service (.updateAssessment engagementId assessmentId input))
          (.ok status) ∈
        earlier ++
          ServiceCall.exchange
            (.updateAssessment engagementId assessmentId input)
            (.ok status) ++
          later := by
    simp
  exact .revised rfl member

/-- The revision of a plan leads to the phase of the table. -/
theorem PlanRevision.phaseAfterPlan
    (revised : PlanRevision policy utterance context deeds next) :
    PhaseAfterPlan policy
      (Unplannable ⟨.awaitingRevision, context⟩ deeds)
      (WatchCutShort policy ⟨.awaitingRevision, context⟩ deeds)
      deeds next.phase := by
  have plannable
      {engagementId : EngagementId}
      {assessmentId : AssessmentId}
      (ids : remoteIds context = .ok (engagementId, assessmentId)) :
      ¬ Unplannable ⟨.awaitingRevision, context⟩ deeds := by
    rintro (⟨creates, -⟩ | ⟨-, nothing⟩)
    · cases creates
    · exact nothing ((namesAssessment_iff context).mpr ⟨_, _, ids⟩)
  cases revised with
  | nothingToRevise streamId nothing =>
      refine .of_preparation (.inl (.inr ⟨rfl, ?_⟩)) ?_ ?_
      · rw [namesAssessment_iff, nothing]
        simp
      · simp [revisionAnnouncement]
      · rintro ⟨⟨_, _, _, ⟨creates, -⟩ | ⟨_, member⟩⟩, -⟩
        · cases creates
        · simp [revisionAnnouncement] at member
  | notUpdated streamId fault ids =>
      refine .of_preparation (.inr ?_) ?_ ?_
      · simp [revisionAnnouncement, Request.isVital]
      · simp [revisionAnnouncement, Request.isPreparation]
      · rintro ⟨⟨_, _, _, ⟨creates, -⟩ | ⟨_, member⟩⟩, -⟩
        · cases creates
        · simp [revisionAnnouncement] at member
  | updated streamId status ids planEnding =>
      refine planEnding.phaseAfterPlan.after_preparation ?_ ?_
        (plannable ids) ?_
      · simp [revisionAnnouncement, Request.isPreparation]
      · simp [revisionAnnouncement]
      · exact ⟨WatchCutShort.leftOff, fun leftOff =>
          ⟨⟨_, _, _, watchReached_of_updated⟩, leftOff⟩⟩

/-! ## The context after a plan -/

/-- The creation of a plan leaves the context of the table. -/
theorem PlanCreation.contextAfterPlan
    (created : PlanCreation policy utterance context deeds next) :
    ContextAfterPlan ⟨.awaitingRequirements, context⟩ deeds
      next.context := by
  refine ⟨?_, ?_, ?_⟩
  · rintro _ _ _ (⟨-, member⟩ | ⟨revises, -⟩)
    · obtain ⟨_, _, _, -, -, planEnding⟩ := created.reached member
      exact planEnding.context_eq
    · cases revises
  · intro notWatched notEmpty
    cases created with
    | emptyWorkspace =>
        simp at notEmpty
    | notStarted =>
        rfl
    | started streamId start =>
        obtain ⟨_, _, reached⟩ := start.reached
        exact absurd reached (notWatched _ _ _)
  · intro empty
    cases created with
    | emptyWorkspace =>
        rfl
    | notStarted streamId start =>
        simp [planAnnouncement, start.nothing_empty] at empty
    | started streamId start ids planEnding =>
        exact absurd empty (start.plannable planEnding)

/-- The revision of a plan leaves the context of the table. -/
theorem PlanRevision.contextAfterPlan
    (revised : PlanRevision policy utterance context deeds next) :
    ContextAfterPlan ⟨.awaitingRevision, context⟩ deeds
      next.context := by
  have same : next.context = context := by
    cases revised with
    | nothingToRevise | notUpdated =>
        rfl
    | updated _ _ _ planEnding =>
        exact planEnding.context_eq
  refine ⟨?_, fun _ _ => same, ?_⟩
  · rintro _ _ _ (⟨creates, -⟩ | ⟨-, -⟩)
    · cases creates
    · exact same
  · intro empty
    cases revised with
    | nothingToRevise | notUpdated =>
        simp [revisionAnnouncement] at empty
    | @updated _ _ ending _ streamId _ _ planEnding =>
        have notInEnding : .answered .workspaceIsEmpty true ∉ ending :=
          planEnding.notMem_of_preparation rfl _
        simp [revisionAnnouncement, notInEnding] at empty

/-! ## Discussing a plan -/

theorem not_known_of_followUp
    {fault : Fault}
    (unknown : followUpEngagement context = .error fault) :
    context.engagementId = none := by
  unfold followUpEngagement at unknown
  split at unknown
  · cases unknown
  · assumption

/-- The answer to a question is watched without vital requests and intents. -/
theorem ResponseEnding.quiet
    {interactionId : InteractionId}
    (ending :
      ResponseEnding policy context streamId engagementId interactionId
        deeds next) :
    ¬ VitalFailure deeds ∧ intents deeds = [] := by
  have only := ending.request_eq
  constructor
  · refine not_vitalFailure fun request member => ?_
    rw [only request member]
    rfl
  · refine intents_eq_nil fun request member => ?_
    rw [only request member]
    nofun

/-- A question that was taken up fails when its watch is given up. -/
theorem ResponseEnding.phase_eq
    {interactionId : InteractionId}
    (ending :
      ResponseEnding policy context streamId engagementId interactionId
        deeds next) :
    next.phase = .errored ∧ GivesUp policy deeds ∨
      next.phase = .discussingPlan ∧ ¬ GivesUp policy deeds := by
  have watches := WatchesJob.interaction engagementId interactionId
  cases ending with
  | exhausted fault goesOn enough =>
      refine .inl ⟨rfl, (goesOn.givesUp watches fault enough ?_).2⟩
      simp [Except.map]
  | stopped goesOn =>
      exact .inr ⟨rfl, (goesOn.leftOff watches (by simp)).notGivenUp⟩
  | @answered _ _ report goesOn =>
      have seen {deeds : List Deed} :
          jobAnswers deeds = _ ++ [.ok report.status] →
          SeenToEnd policy deeds report.status :=
        goesOn.seenToEnd watches
      exact .inr ⟨rfl, (seen (by simp [Except.map])).notGivenUp⟩

/-- The discussion of a plan leads to the phase of the table. -/
theorem Discussion.phaseAfterDiscussion
    (discussed : Discussion policy utterance context deeds next) :
    PhaseAfterDiscussion policy context deeds next.phase := by
  have known
      {engagementId : EngagementId}
      (known : followUpEngagement context = .ok engagementId) :
      context.engagementId ≠ none := by
    simp [engagementId_of_followUpEngagement known]
  cases discussed with
  | nothingToDiscuss unknown =>
      have nothing := not_known_of_followUp unknown
      constructor <;> simp [nothing]
  | notUnderstood | notTakenUp =>
      constructor <;> simp [Request.isVital, Except.toOption]
  | revision followUp | newAnalysis followUp | unclear followUp =>
      constructor <;> simp [known followUp, Except.toOption]
  | takenUp streamId started followUp ending =>
      obtain ⟨noFailure, noIntents⟩ := ending.quiet
      rcases ending.phase_eq with ⟨phase, givesUp⟩ | ⟨phase, notGivenUp⟩
      · constructor <;>
          simp [phase, givesUp, noIntents, Except.toOption]
      · constructor <;>
          simp [phase, notGivenUp, noFailure, noIntents, known followUp,
            Except.toOption]

/-- The discussion of a plan leaves the context of the table. -/
theorem Discussion.contextAfterDiscussion
    (discussed : Discussion policy utterance context deeds next) :
    ContextAfterDiscussion utterance context deeds next.context := by
  cases discussed with
  | nothingToDiscuss | notUnderstood | notTakenUp | revision
  | newAnalysis | unclear =>
      constructor <;> simp [Except.toOption]
  | @takenUp engagementId ending _ streamId started followUp responds =>
      have nothingTaken :
          ∀ engagementId input started,
            .answered (.service (.startInteraction engagementId input))
              (.ok started) ∉ ending := by
        intro engagementId input started member
        cases responds.request_eq _
          (List.mem_filterMap.mpr ⟨_, member, rfl⟩)
      obtain ⟨-, noIntents⟩ := responds.quiet
      rw [responds.context_eq]
      constructor
      · rintro _ _ other member
        simp [nothingTaken] at member
        obtain ⟨-, rfl⟩ := member
        rfl
      · simp [noIntents, Except.toOption]
      · intro notTaken
        exact absurd (by simp) (notTaken engagementId (trim utterance) started)

end Conversation

/-! ## Every phase -/

/-- The watch of an assessment was left because the interaction was told to stop. -/
structure CutShort
    (policy : PollPolicy)
    (before : Conversation)
    (interaction : Interaction α) : Prop extends
    WatchCutShort policy before interaction.deeds where
  toldToStop :
    interaction.toldToStop = true

/-- What an utterance makes of a conversation, phase by phase. -/
def Conversation.LeadsTo
    (policy : PollPolicy)
    (before : Conversation)
    (utterance : String)
    (now : Timestamp)
    (interaction : Interaction α)
    (next : Conversation) : Prop :=
  match before.phase with
  | .awaitingGoal =>
      next =
        ⟨.awaitingRequirements, before.context.withGoal (trim utterance)⟩
  | .awaitingRequirements | .awaitingRevision =>
      PhaseAfterPlan policy (Unplannable before interaction.deeds)
          (CutShort policy before interaction) interaction.deeds
          next.phase ∧
        ContextAfterPlan before interaction.deeds next.context
  | .discussingPlan =>
      PhaseAfterDiscussion policy before.context interaction.deeds
          next.phase ∧
        ContextAfterDiscussion utterance before.context interaction.deeds
          next.context
  | .errored =>
      next = ⟨.awaitingGoal, before.context.restarted now⟩
  | .notStarted => False

namespace Conversation

variable
  {policy : PollPolicy}
  {before next : Conversation}
  {utterance : String}
  {opening : Opening}
  {occurrences : List Occurrence}
  {interaction : Interaction (Except Fault Conversation)}

/-- The watch of an assessment is only left by an interaction that was told. -/
theorem cutShort_iff
    (plans :
      before.phase = .awaitingRequirements ∨
        before.phase = .awaitingRevision)
    (handled :
      before.handling? policy (.utterance utterance) opening occurrences =
        some interaction)
    (handling :
      Handling policy utterance opening.now before interaction.deeds
        (.ok next))
    (table :
      PhaseAfterPlan policy (Unplannable before interaction.deeds)
        (WatchCutShort policy before interaction.deeds) interaction.deeds
        next.phase) :
    WatchCutShort policy before interaction.deeds ↔
      CutShort policy before interaction := by
  refine ⟨fun cutShort => ⟨cutShort, ?_⟩, CutShort.toWatchCutShort⟩
  obtain ⟨engagementId, assessmentId, context, reached⟩ :=
    cutShort.reached
  rcases handling.leavesRunning_or_stops reached
      (fun _ => cutShort.leftOff.inProgress.unfinished) with
    ⟨-, leaves⟩ | ⟨-, stops⟩
  · have restarts := table.awaitingGoal.mpr (.inr (.inr cutShort))
    rw [Except.ok.inj leaves.errored] at restarts
    cases restarts
  · have asked :
        .service (.stopAssessment engagementId assessmentId) ∈
          requests interaction.deeds := by
      rw [← List.count_pos_iff, stops.stoppedOnce]
      exact Nat.zero_lt_one
    exact told_of_stop plans handled asked rfl

/-- An interaction that has ended leads where the table of phases says. -/
theorem leadsTo_of_finished
    {outcome : Except Fault Conversation}
    (started : before.phase ≠ .notStarted)
    (handled :
      before.handling? policy (.utterance utterance) opening occurrences =
        some interaction)
    (finished : interaction.activity = .finished outcome) :
    ∃ next,
      outcome = .ok next ∧
        before.LeadsTo policy utterance opening.now interaction next := by
  obtain ⟨deeds, activity, toldToStop⟩ := interaction
  cases finished
  have handling := interact_yields (handling?_reaches handled)
  have plan
      (plans :
        before.phase = .awaitingRequirements ∨
          before.phase = .awaitingRevision)
      {next : Conversation}
      (ended : outcome = .ok next)
      (table :
        PhaseAfterPlan policy (Unplannable before deeds)
          (WatchCutShort policy before deeds) deeds next.phase) :
      PhaseAfterPlan policy (Unplannable before deeds)
        (CutShort policy before
          ⟨deeds, .finished outcome, toldToStop⟩) deeds next.phase := by
    cases ended
    rwa [← cutShort_iff plans handled handling table]
  cases handling with
  | goalTaken context =>
      exact ⟨_, rfl, rfl⟩
  | planCreated created =>
      exact ⟨_, rfl, plan (.inl rfl) rfl created.phaseAfterPlan,
        created.contextAfterPlan⟩
  | planRevised revised =>
      exact ⟨_, rfl, plan (.inr rfl) rfl revised.phaseAfterPlan,
        revised.contextAfterPlan⟩
  | discussed discussed =>
      exact ⟨_, rfl, discussed.phaseAfterDiscussion,
        discussed.contextAfterDiscussion⟩
  | apologised context =>
      exact ⟨_, rfl, rfl⟩
  | refused context =>
      exact absurd rfl started

end Conversation

/--
Every utterance to a conversation that was started is answered as the table of
phases says, whatever the context, the answers and the moment of a cancellation.
Its interaction can go on until it has ended, in two steps at most for every
answer about a job and eight besides, and it never ends in a fault.  With any
script of replies it does end.
-/
theorem utterance_answered_by_phase_table
    {policy : PollPolicy}
    {before : Conversation}
    (utterance : String)
    (started : before.phase ≠ .notStarted) :
    (∀ opening occurrences interaction,
      before.handling? policy (.utterance utterance) opening occurrences =
        some interaction →
      (interaction.activity.outcome? = none →
        ∃ occurrence next,
          occurrence ≠ .toldToStop ∧
            interaction.meet? policy occurrence = some next) ∧
      steps occurrences ≤
        8 + 2 * (jobAnswers interaction.deeds).length ∧
      ∀ outcome,
        interaction.activity.outcome? = some outcome →
        ∃ next,
          outcome = .ok next ∧
            before.LeadsTo policy utterance opening.now interaction
              next) ∧
    ∀ now sessionId performance, ∃ opening occurrences interaction next,
      (Rehearsal.Performance.perform Rehearsal.Script.surroundings policy
          sessionId (before.interact utterance now) performance).1 =
        some (.ok next) ∧
      opening.now = now ∧
      before.handling? policy (.utterance utterance) opening occurrences =
        some interaction ∧
      interaction.activity = .finished (.ok next) ∧
      before.LeadsTo policy utterance now interaction next := by
  constructor
  · intro opening occurrences interaction handled
    refine ⟨Interaction.exists_meet? policy, ?_, ?_⟩
    · have bounded :=
        before.interact_waitsAtMost utterance opening.now
      have enough := Interaction.steps_le bounded handled
      omega
    · intro outcome ended
      exact before.leadsTo_of_finished started handled
        (Activity.outcome?_eq_some.mp ended)
  · intro now sessionId performance
    have bounded :=
      (before.interact_waitsAtMost utterance now).mono (by omega : 7 ≤ 8)
    obtain ⟨outcome, performed⟩ :=
      Rehearsal.Performance.perform_finishes policy sessionId bounded
        performance
    obtain ⟨occurrences, interaction, met, finished⟩ :=
      Rehearsal.Performance.perform_meets performed
    let opening : Opening :=
      ⟨⟨Rehearsal.streamName performance.names, now⟩,
        performance.cancelled⟩
    have handled :
        before.handling? policy (.utterance utterance) opening
            occurrences =
          some interaction := met
    obtain ⟨next, rfl, leads⟩ :=
      before.leadsTo_of_finished started handled finished
    exact ⟨opening, occurrences, interaction, next, performed, rfl,
      handled, finished, leads⟩

/-- A conversation about a plan of which another version is wanted. -/
def awaitingOtherVersion : Conversation :=
  ⟨.awaitingRevision,
    ((Context.start "S1" ⟨0, 0⟩).withEngagement "E1").withAssessment "A1"⟩

/-- The other version. -/
def otherVersion : PlanArtifact :=
  ⟨"S1", "A1", "# Plan"⟩

/-- What happens to the revision if it completes at once. -/
def revisionOccurrences : List Occurrence :=
  [.answered "M1"
      (.service (.updateAssessment "E1" "A1" (trim "shorter")))
      (.ok .inProgress),
    .woken "M1",
    .answered "M1" (.service (.assessmentStatus "E1" "A1"))
      (.ok ⟨.completed, ""⟩),
    .answered "M1" (.service (.downloadPlan "E1" "A1"))
      (.ok otherVersion.content),
    .answered "M1" (.storePlan otherVersion) (.ok ⟨"plans/A1"⟩)]

/-- What is done by then. -/
def revisionDeeds : List Deed :=
  Conversation.revisionAnnouncement "M1" ++
    (ServiceCall.updateAssessment "E1" "A1" (trim "shorter")).exchange
      (.ok .inProgress) ++
    .said (.placeholder Wording.generatingPlanPlaceholder) ::
    (ServiceCall.assessmentStatus "E1" "A1").exchange
      (.ok ⟨.completed, ""⟩) ++
    (ServiceCall.downloadPlan "E1" "A1").exchange
      (.ok otherVersion.content) ++
    (Request.storePlan otherVersion).exchange (.ok ⟨"plans/A1"⟩) ++
    [.said (.votableAnswer otherVersion.content),
      .said (.suggestion (Wording.planReady ⟨"plans/A1"⟩)
        Wording.planFollowUps),
      .said .clearedPlaceholder]

theorem revision_handled :
    awaitingOtherVersion.handling? ⟨0, 1⟩ (.utterance "shorter")
        ⟨⟨"M1", ⟨0, 0⟩⟩, false⟩ revisionOccurrences =
      some ⟨revisionDeeds,
        .finished (.ok ⟨.discussingPlan, awaitingOtherVersion.context⟩),
        false⟩ :=
  rfl

/-- A revision that completes at once leads to a discussion. -/
theorem utterance_answered_by_phase_table_revision :
    ∃ interaction next,
      awaitingOtherVersion.phase ≠ .notStarted ∧
      awaitingOtherVersion.handling? ⟨0, 1⟩ (.utterance "shorter")
          ⟨⟨"M1", ⟨0, 0⟩⟩, false⟩ revisionOccurrences =
        some interaction ∧
      interaction.activity.outcome? = some (.ok next) ∧
      next.phase = .discussingPlan := by
  have started : awaitingOtherVersion.phase ≠ .notStarted := nofun
  obtain ⟨-, -, leads⟩ :=
    (utterance_answered_by_phase_table "shorter" started).1 _ _ _
      revision_handled
  obtain ⟨next, ended, table, -⟩ := leads _ rfl
  have delivers : DeliversPlan revisionDeeds :=
    ⟨"E1", ⟨otherVersion, ⟨"plans/A1"⟩⟩, List.mem_singleton.mpr rfl,
      List.mem_iff_getElem?.mpr ⟨8, rfl⟩⟩
  refine ⟨_, next, started, revision_handled, ?_, ?_⟩
  · rw [← ended]
    rfl
  · exact table.discussingPlan.mpr ⟨List.mem_singleton.mpr rfl, delivers⟩

end AssessmentChat
