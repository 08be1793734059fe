import AssessmentChat.Conversation.Interact
import AssessmentChat.Proofs.ProcedureCourse

namespace AssessmentChat.Conversation

open Procedure

/-!
# Courses of an utterance

Every way in which the handling of an utterance can come to its end, one case
for each exit: what has been done by then and the conversation that follows.
The cases are shared by everything that is said about interactions: which phase
comes next, which calls are made, what the user is shown.
-/

variable
  {policy : PollPolicy}
  {deeds : List Deed}
  {next : Conversation}
  {context : Context}
  {utterance streamId : String}
  {engagementId : EngagementId}
  {assessmentId : AssessmentId}

/-! ## Steps that every phase shares -/

/-- A failure takes the placeholder away and leads to the errored phase. -/
theorem routeToErrored_yields
    (yields : (routeToErrored context).Yields policy deeds next) :
    deeds = [.said .clearedPlaceholder] ∧ next = ⟨.errored, context⟩ := by
  obtain ⟨rest, finished, rfl⟩ := yields.of_say_bind
  obtain ⟨rfl, rfl⟩ := finished.of_pure
  exact ⟨rfl, rfl⟩

/-- A first goal is kept, and the user is asked for requirements. -/
theorem clarify_yields
    (yields : (clarify utterance context).Yields policy deeds next) :
    deeds =
        [.said (.suggestion Wording.clarifyingPrompt
          Wording.clarifyingFollowUps)] ∧
      next = ⟨.awaitingRequirements, context.withGoal (trim utterance)⟩ := by
  obtain ⟨rest, finished, rfl⟩ := yields.of_say_bind
  obtain ⟨rfl, rfl⟩ := finished.of_pure
  exact ⟨rfl, rfl⟩

/-- An apology is given once, and the conversation starts anew. -/
theorem apologise_yields
    {now : Timestamp}
    (yields : (apologise context now).Yields policy deeds next) :
    deeds =
        [.said (.plainAnswer
          (context.apology.getD Wording.genericApology))] ∧
      next = ⟨.awaitingGoal, context.restarted now⟩ := by
  obtain ⟨rest, finished, rfl⟩ := yields.of_say_bind
  obtain ⟨rfl, rfl⟩ := finished.of_pure
  exact ⟨rfl, rfl⟩

/-! ## Plans -/

/-- A plan is concluded with one answer, and the placeholder is taken away. -/
theorem concludePlan_yields
    {message : String}
    (yields : (concludePlan message context).Yields policy deeds next) :
    deeds = [.said (.plainAnswer message), .said .clearedPlaceholder] ∧
      next = ⟨.awaitingGoal, context⟩ := by
  obtain ⟨_, cleared, rfl⟩ := yields.of_say_bind
  obtain ⟨_, finished, rfl⟩ := cleared.of_say_bind
  obtain ⟨rfl, rfl⟩ := finished.of_pure
  exact ⟨rfl, rfl⟩

/-- How the delivery of a completed plan comes out. -/
inductive Delivery
    (context : Context)
    (engagementId : EngagementId)
    (assessmentId : AssessmentId) : List Deed → Conversation → Prop where
  | notDownloaded
      (fault : Fault) :
      Delivery context engagementId assessmentId
        (ServiceCall.exchange (.downloadPlan engagementId assessmentId)
            (.error fault) ++
          [.said .clearedPlaceholder])
        ⟨.errored, context⟩
  | notStored
      (content : String)
      (fault : Fault) :
      Delivery context engagementId assessmentId
        (ServiceCall.exchange (.downloadPlan engagementId assessmentId)
            (.ok content) ++
          Request.exchange
            (.storePlan ⟨context.sessionId, assessmentId, content⟩)
            (.error fault) ++
          [.said .clearedPlaceholder])
        ⟨.errored, context⟩
  | delivered
      (content : String)
      (locator : ArtifactLocator) :
      Delivery context engagementId assessmentId
        (ServiceCall.exchange (.downloadPlan engagementId assessmentId)
            (.ok content) ++
          Request.exchange
            (.storePlan ⟨context.sessionId, assessmentId, content⟩)
            (.ok locator) ++
          [.said (.votableAnswer content),
            .said (.suggestion (Wording.planReady locator)
              Wording.planFollowUps),
            .said .clearedPlaceholder])
        ⟨.discussingPlan, context⟩

/-- A plan that is delivered has been fetched and stored, or this has failed. -/
theorem deliverPlan_yields
    (yields :
      (deliverPlan context engagementId assessmentId).Yields
        policy deeds next) :
    Delivery context engagementId assessmentId deeds next := by
  obtain ⟨downloaded, _, storing, rfl⟩ := yields.of_call_bind
  cases downloaded with
  | error fault =>
      obtain ⟨rfl, rfl⟩ := routeToErrored_yields storing
      exact .notDownloaded fault
  | ok content =>
      obtain ⟨stored, _, showing, rfl⟩ := storing.of_request_bind
      rw [← List.append_assoc]
      cases stored with
      | error fault =>
          obtain ⟨rfl, rfl⟩ := routeToErrored_yields showing
          exact .notStored content fault
      | ok locator =>
          obtain ⟨_, announcing, rfl⟩ := showing.of_say_bind
          obtain ⟨_, clearing, rfl⟩ := announcing.of_say_bind
          obtain ⟨_, finished, rfl⟩ := clearing.of_say_bind
          obtain ⟨rfl, rfl⟩ := finished.of_pure
          exact .delivered content locator

/-- How far the watch of an assessment can get while it goes on. -/
abbrev AssessmentGoesOn
    (policy : PollPolicy)
    (streamId : String)
    (engagementId : EngagementId)
    (assessmentId : AssessmentId) : List Deed → Nat → Prop :=
  WatchGoesOn policy (.assessmentStatus engagementId assessmentId)
    AssessmentReport.isTerminal (assessmentProgress streamId)

/-- How an assessment that is being watched comes out. -/
inductive PlanEnding
    (policy : PollPolicy)
    (context : Context)
    (streamId : String)
    (engagementId : EngagementId)
    (assessmentId : AssessmentId) : List Deed → Conversation → Prop where
  | exhausted
      {watched : List Deed}
      {failures : Nat}
      (fault : Fault) :
      AssessmentGoesOn policy streamId engagementId assessmentId
        watched failures →
      policy.maxConsecutiveErrors ≤ failures + 1 →
      PlanEnding policy context streamId engagementId assessmentId
        (.said (.placeholder Wording.generatingPlanPlaceholder) ::
          (watched ++
            ServiceCall.exchange
              (.assessmentStatus engagementId assessmentId)
              (.error fault) ++
            [.said .clearedPlaceholder]))
        ⟨.errored, context⟩
  | stopped
      {watched : List Deed}
      {failures : Nat}
      (answer : Except Fault JobStatus) :
      AssessmentGoesOn policy streamId engagementId assessmentId
        watched failures →
      PlanEnding policy context streamId engagementId assessmentId
        (.said (.placeholder Wording.generatingPlanPlaceholder) ::
          (watched ++
            .said (.answerStream streamId Wording.cancellingPlan) ::
              (ServiceCall.exchange
                  (.stopAssessment engagementId assessmentId) answer ++
                [.said (.plainAnswer Wording.planCancelled),
                  .said .clearedPlaceholder])))
        ⟨.awaitingGoal, context⟩
  | notCompleted
      {watched : List Deed}
      {failures : Nat}
      {report : AssessmentReport}
      {message : String} :
      AssessmentGoesOn policy streamId engagementId assessmentId
        watched failures →
      report.status = .failed ∧ message = Wording.planFailed ∨
        report.status = .cancelled ∧ message = Wording.planCancelled →
      PlanEnding policy context streamId engagementId assessmentId
        (.said (.placeholder Wording.generatingPlanPlaceholder) ::
          (watched ++
            ServiceCall.exchange
              (.assessmentStatus engagementId assessmentId)
              (.ok report) ++
            (assessmentProgress streamId report).map .said ++
            [.said (.plainAnswer message), .said .clearedPlaceholder]))
        ⟨.awaitingGoal, context⟩
  | completed
      {watched delivery : List Deed}
      {failures : Nat}
      {report : AssessmentReport}
      {next : Conversation} :
      AssessmentGoesOn policy streamId engagementId assessmentId
        watched failures →
      report.status = .completed →
      Delivery context engagementId assessmentId delivery next →
      PlanEnding policy context streamId engagementId assessmentId
        (.said (.placeholder Wording.generatingPlanPlaceholder) ::
          (watched ++
            ServiceCall.exchange
              (.assessmentStatus engagementId assessmentId)
              (.ok report) ++
            (assessmentProgress streamId report).map .said ++
            delivery))
        next

/-- A plan is stopped by one request, however it is answered. -/
theorem stopPlan_yields
    (yields :
      (stopPlan context streamId engagementId assessmentId).Yields
        policy deeds next) :
    ∃ answer,
      deeds =
          .said (.answerStream streamId Wording.cancellingPlan) ::
            (ServiceCall.exchange
                (.stopAssessment engagementId assessmentId) answer ++
              [.said (.plainAnswer Wording.planCancelled),
                .said .clearedPlaceholder]) ∧
        next = ⟨.awaitingGoal, context⟩ := by
  obtain ⟨_, stopping, rfl⟩ := yields.of_say_bind
  obtain ⟨answer, _, concluding, rfl⟩ := stopping.of_call_bind
  obtain ⟨rfl, rfl⟩ := concludePlan_yields concluding
  exact ⟨answer, rfl, rfl⟩

/-- A watched assessment comes out in one of the ways of `PlanEnding`. -/
theorem executePlan_yields
    (ids : remoteIds context = .ok (engagementId, assessmentId))
    (yields :
      (executePlan context streamId).Yields policy deeds next) :
    PlanEnding policy context streamId engagementId assessmentId
      deeds next := by
  unfold executePlan at yields
  rw [ids] at yields
  obtain ⟨_, watching, rfl⟩ := yields.of_say_bind
  obtain ⟨_, outcome, _, ends, ending, rfl⟩ := watching.of_watchJob_bind
  cases ends with
  | exhausted goesOn enough =>
      obtain ⟨rfl, rfl⟩ := routeToErrored_yields ending
      exact .exhausted _ goesOn enough
  | cancelled goesOn =>
      obtain ⟨answer, rfl, rfl⟩ := stopPlan_yields ending
      exact .stopped answer goesOn
  | @terminal _ _ report goesOn seen =>
      obtain ⟨_, finishing, rfl⟩ := ending.of_sayAll_bind
      rw [← List.append_assoc]
      cases status : report.status with
      | inProgress =>
          simp [AssessmentReport.isTerminal, JobStatus.isTerminal,
            status] at seen
      | completed =>
          rw [status] at finishing
          exact .completed goesOn status (deliverPlan_yields finishing)
      | failed =>
          rw [status] at finishing
          obtain ⟨rfl, rfl⟩ := concludePlan_yields finishing
          exact .notCompleted goesOn (.inl ⟨status, rfl⟩)
      | cancelled =>
          rw [status] at finishing
          obtain ⟨rfl, rfl⟩ := concludePlan_yields finishing
          exact .notCompleted goesOn (.inr ⟨status, rfl⟩)

/-- How the engagement of a first plan comes out. -/
inductive EngagementEnsured
    (context : Context) : List Deed → Except Fault EngagementId → Prop where
  | known
      {engagementId : EngagementId} :
      context.engagementId = some engagementId →
      EngagementEnsured context [] (.ok engagementId)
  | created
      (engagement : Engagement) :
      context.engagementId = none →
      EngagementEnsured context
        (ServiceCall.exchange .createEngagement (.ok engagement))
        (.ok engagement.engagementId)
  | notCreated
      (fault : Fault) :
      context.engagementId = none →
      EngagementEnsured context
        (ServiceCall.exchange .createEngagement (.error fault))
        (.error fault)

/-- There is an engagement already, or one is created and the workspace sent. -/
theorem ensureEngagement_yields
    {ensured : Except Fault EngagementId}
    (yields :
      (ensureEngagement context).run.Yields policy deeds ensured) :
    EngagementEnsured context deeds ensured := by
  unfold ensureEngagement at yields
  cases known : context.engagementId with
  | some engagementId =>
      rw [known] at yields
      cases yields
      exact .known known
  | none =>
      rw [known] at yields
      obtain ⟨fault, rfl, rfl⟩ | ⟨engagement, rest, finished, rfl⟩ :=
        yields.of_call_except_bind
      · exact .notCreated fault known
      · cases finished
        exact .created engagement known

/-- How the start of a first plan comes out. -/
inductive AssessmentStart
    (utterance : String)
    (context : Context) : List Deed → Except Fault Context → Prop where
  | noEngagement
      {ensuring : List Deed}
      {fault : Fault} :
      EngagementEnsured context ensuring (.error fault) →
      AssessmentStart utterance context ensuring (.error fault)
  | notUploaded
      {ensuring : List Deed}
      {engagementId : EngagementId}
      (fault : Fault) :
      EngagementEnsured context ensuring (.ok engagementId) →
      AssessmentStart utterance context
        (ensuring ++
          ServiceCall.exchange (.uploadWorkspace engagementId)
            (.error fault))
        (.error fault)
  | notStarted
      {ensuring : List Deed}
      {engagementId : EngagementId}
      (fault : Fault) :
      EngagementEnsured context ensuring (.ok engagementId) →
      AssessmentStart utterance context
        (ensuring ++
          ServiceCall.exchange (.uploadWorkspace engagementId) (.ok ()) ++
          ServiceCall.exchange
            (.startAssessment engagementId
              (context.assessmentInput utterance))
            (.error fault))
        (.error fault)
  | started
      {ensuring : List Deed}
      {engagementId : EngagementId}
      (started : StartedAssessment) :
      EngagementEnsured context ensuring (.ok engagementId) →
      AssessmentStart utterance context
        (ensuring ++
          ServiceCall.exchange (.uploadWorkspace engagementId) (.ok ()) ++
          ServiceCall.exchange
            (.startAssessment engagementId
              (context.assessmentInput utterance))
            (.ok started))
        (.ok ((context.withEngagement engagementId).withAssessment
          started.assessmentId))

/-- An assessment is started in the engagement, or this has failed. -/
theorem startAssessment_yields
    {outcome : Except Fault Context}
    (yields :
      (startAssessment utterance context).run.Yields
        policy deeds outcome) :
    AssessmentStart utterance context deeds outcome := by
  obtain ⟨fault, ensuring, rfl⟩ |
      ⟨engagementId, _, _, ensuring, uploading, rfl⟩ :=
    yields.of_except_bind
  · exact .noEngagement (ensureEngagement_yields ensuring)
  · have ensured := ensureEngagement_yields ensuring
    obtain ⟨fault, rfl, rfl⟩ | ⟨_, _, starting, rfl⟩ :=
      uploading.of_call_except_bind
    · exact .notUploaded fault ensured
    · rw [← List.append_assoc]
      obtain ⟨fault, rfl, rfl⟩ | ⟨started, _, finished, rfl⟩ :=
        starting.of_call_except_bind
      · exact .notStarted fault ensured
      · cases finished
        rw [List.append_nil]
        exact .started started ensured

/-- What is said before the workspace of a first plan is uploaded. -/
def planAnnouncement (streamId : String) : List Deed :=
  [.said (.plainAnswer Wording.creatingPlan),
    .said (.answerStream streamId Wording.uploadingWorkspace)]

/-- How a first plan comes out. -/
inductive PlanCreation
    (policy : PollPolicy)
    (utterance : String)
    (context : Context) : List Deed → Conversation → Prop where
  | emptyWorkspace :
      PlanCreation policy utterance context
        (Request.exchange .workspaceIsEmpty true)
        ⟨.errored, context.withApology Wording.emptyWorkspace⟩
  | notStarted
      {starting : List Deed}
      {fault : Fault}
      (streamId : String) :
      AssessmentStart utterance context starting (.error fault) →
      PlanCreation policy utterance context
        (Request.exchange .workspaceIsEmpty false ++
          planAnnouncement streamId ++ starting ++
          [.said .clearedPlaceholder])
        ⟨.errored, context⟩
  | started
      {starting ending : List Deed}
      {started : Context}
      {engagementId : EngagementId}
      {assessmentId : AssessmentId}
      {next : Conversation}
      (streamId : String) :
      AssessmentStart utterance context starting (.ok started) →
      remoteIds started = .ok (engagementId, assessmentId) →
      PlanEnding policy started streamId engagementId assessmentId
        ending next →
      PlanCreation policy utterance context
        (Request.exchange .workspaceIsEmpty false ++
          planAnnouncement streamId ++ starting ++ ending)
        next

/-- A context in which an assessment was started names it. -/
theorem AssessmentStart.remoteIds
    {started : Context}
    (start : AssessmentStart utterance context deeds (.ok started)) :
    ∃ engagementId assessmentId,
      remoteIds started = .ok (engagementId, assessmentId) := by
  cases start with
  | started =>
      exact ⟨_, _, rfl⟩

/-- How the creation of a plan goes on and ends. -/
theorem createPlan_yields
    (yields :
      (createPlan utterance context).Yields policy deeds next) :
    PlanCreation policy utterance context deeds next := by
  obtain ⟨isEmpty, _, looking, rfl⟩ := yields.of_request_bind
  cases isEmpty with
  | true =>
      obtain ⟨rfl, rfl⟩ := looking.of_pure
      exact .emptyWorkspace
  | false =>
      obtain ⟨_, naming, rfl⟩ := looking.of_say_bind
      obtain ⟨streamId, announcing⟩ := naming.of_streamName_bind
      obtain ⟨_, preparing, rfl⟩ := announcing.of_say_bind
      obtain ⟨outcome, _, _, starting, executing, rfl⟩ :=
        preparing.of_bind
      have start := startAssessment_yields starting
      cases outcome with
      | error fault =>
          obtain ⟨rfl, rfl⟩ := routeToErrored_yields executing
          simpa [planAnnouncement] using
            PlanCreation.notStarted streamId start
      | ok started =>
          obtain ⟨engagementId, assessmentId, ids⟩ := start.remoteIds
          simpa [planAnnouncement] using
            PlanCreation.started streamId start ids
              (executePlan_yields ids executing)

/-- What is said before another version of a plan is asked for. -/
def revisionAnnouncement (streamId : String) : List Deed :=
  [.said (.plainAnswer Wording.revisingPlan),
    .said (.answerStream streamId Wording.startingRevision)]

/-- How another version of a plan comes out. -/
inductive PlanRevision
    (policy : PollPolicy)
    (utterance : String)
    (context : Context) : List Deed → Conversation → Prop where
  | nothingToRevise
      {fault : Fault}
      (streamId : String) :
      remoteIds context = .error fault →
      PlanRevision policy utterance context
        (revisionAnnouncement streamId ++ [.said .clearedPlaceholder])
        ⟨.errored, context⟩
  | notUpdated
      {engagementId : EngagementId}
      {assessmentId : AssessmentId}
      (streamId : String)
      (fault : Fault) :
      remoteIds context = .ok (engagementId, assessmentId) →
      PlanRevision policy utterance context
        (revisionAnnouncement streamId ++
          ServiceCall.exchange
            (.updateAssessment engagementId assessmentId (trim utterance))
            (.error fault) ++
          [.said .clearedPlaceholder])
        ⟨.errored, context⟩
  | updated
      {engagementId : EngagementId}
      {assessmentId : AssessmentId}
      {ending : List Deed}
      {next : Conversation}
      (streamId : String)
      (status : JobStatus) :
      remoteIds context = .ok (engagementId, assessmentId) →
      PlanEnding policy context streamId engagementId assessmentId
        ending next →
      PlanRevision policy utterance context
        (revisionAnnouncement streamId ++
          ServiceCall.exchange
            (.updateAssessment engagementId assessmentId (trim utterance))
            (.ok status) ++
          ending)
        next

/-- How the revision of a plan goes on and ends. -/
theorem revisePlan_yields
    (yields :
      (revisePlan utterance context).Yields policy deeds next) :
    PlanRevision policy utterance context deeds next := by
  obtain ⟨_, naming, rfl⟩ := yields.of_say_bind
  obtain ⟨streamId, announcing⟩ := naming.of_streamName_bind
  obtain ⟨_, updating, rfl⟩ := announcing.of_say_bind
  cases ids : remoteIds context with
  | error fault =>
      rw [ids] at updating
      obtain ⟨rfl, rfl⟩ := routeToErrored_yields updating
      exact .nothingToRevise streamId ids
  | ok pair =>
      obtain ⟨engagementId, assessmentId⟩ := pair
      rw [ids] at updating
      obtain ⟨updated, _, executing, rfl⟩ := updating.of_call_bind
      cases updated with
      | error fault =>
          obtain ⟨rfl, rfl⟩ := routeToErrored_yields executing
          exact .notUpdated streamId fault ids
      | ok status =>
          exact .updated streamId status ids
            (executePlan_yields ids executing)

/-! ## Discussions -/

/-- What shows how the answer to a question came out. -/
def responseNotices (report : InteractionReport) : List Notice :=
  match report.status with
  | .completed | .inProgress =>
      [.votableAnswer report.response,
        .suggestion Wording.anotherFollowUp Wording.planFollowUps]
  | .failed => [.plainAnswer Wording.responseFailed]
  | .cancelled => [.plainAnswer Wording.responseCancelled]

theorem presentResponse_eq
    (report : InteractionReport) :
    presentResponse report = sayAll (responseNotices report) := by
  unfold presentResponse responseNotices
  cases report.status <;> rfl

/-- How a question that the service took up comes out. -/
inductive ResponseEnding
    (policy : PollPolicy)
    (context : Context)
    (streamId : String)
    (engagementId : EngagementId)
    (interactionId : InteractionId) :
    List Deed → Conversation → Prop where
  | exhausted
      {watched : List Deed}
      {failures : Nat}
      (fault : Fault) :
      WatchGoesOn policy (.interactionStatus engagementId interactionId)
        InteractionReport.isTerminal (interactionProgress streamId)
        watched failures →
      policy.maxConsecutiveErrors ≤ failures + 1 →
      ResponseEnding policy context streamId engagementId interactionId
        (watched ++
          ServiceCall.exchange
            (.interactionStatus engagementId interactionId)
            (.error fault) ++
          [.said .clearedPlaceholder])
        ⟨.errored, context⟩
  | stopped
      {watched : List Deed}
      {failures : Nat} :
      WatchGoesOn policy (.interactionStatus engagementId interactionId)
        InteractionReport.isTerminal (interactionProgress streamId)
        watched failures →
      ResponseEnding policy context streamId engagementId interactionId
        (watched ++
          [.said (.answerStream streamId Wording.responseCancelled),
            .said .clearedPlaceholder])
        ⟨.discussingPlan, context⟩
  | answered
      {watched : List Deed}
      {failures : Nat}
      {report : InteractionReport} :
      WatchGoesOn policy (.interactionStatus engagementId interactionId)
        InteractionReport.isTerminal (interactionProgress streamId)
        watched failures →
      report.isTerminal = true →
      ResponseEnding policy context streamId engagementId interactionId
        (watched ++
          ServiceCall.exchange
            (.interactionStatus engagementId interactionId)
            (.ok report) ++
          (responseNotices report).map .said ++
          [.said .clearedPlaceholder])
        ⟨.discussingPlan, context⟩

/-- How the watch for a response goes on and ends. -/
theorem awaitResponse_yields
    {interactionId : InteractionId}
    (yields :
      (awaitResponse context streamId engagementId interactionId).Yields
        policy deeds next) :
    ResponseEnding policy context streamId engagementId interactionId
      deeds next := by
  obtain ⟨_, outcome, _, ends, ending, rfl⟩ := yields.of_watchJob_bind
  cases ends with
  | exhausted goesOn enough =>
      obtain ⟨rfl, rfl⟩ := routeToErrored_yields ending
      exact .exhausted _ goesOn enough
  | cancelled goesOn =>
      obtain ⟨_, clearing, rfl⟩ := ending.of_say_bind
      obtain ⟨_, finished, rfl⟩ := clearing.of_say_bind
      obtain ⟨rfl, rfl⟩ := finished.of_pure
      exact .stopped goesOn
  | @terminal _ _ report goesOn seen =>
      simp only [presentResponse_eq] at ending
      obtain ⟨_, clearing, rfl⟩ := ending.of_sayAll_bind
      obtain ⟨_, finished, rfl⟩ := clearing.of_say_bind
      obtain ⟨rfl, rfl⟩ := finished.of_pure
      rw [← List.append_assoc]
      exact .answered goesOn seen

/-- How an utterance about a plan comes out. -/
inductive Discussion
    (policy : PollPolicy)
    (utterance : String)
    (context : Context) : List Deed → Conversation → Prop where
  | nothingToDiscuss
      {fault : Fault} :
      followUpEngagement context = .error fault →
      Discussion policy utterance context
        [.said .clearedPlaceholder]
        ⟨.errored, context⟩
  | notUnderstood
      {engagementId : EngagementId}
      (fault : Fault) :
      followUpEngagement context = .ok engagementId →
      Discussion policy utterance context
        (ServiceCall.exchange
            (.deriveIntent engagementId (trim utterance))
            (.error fault) ++
          [.said .clearedPlaceholder])
        ⟨.errored, context⟩
  | notTakenUp
      {engagementId : EngagementId}
      (streamId : String)
      (fault : Fault) :
      followUpEngagement context = .ok engagementId →
      Discussion policy utterance context
        (ServiceCall.exchange
            (.deriveIntent engagementId (trim utterance))
            (.ok .question) ++
          [.said (.answerStream streamId Wording.generatingResponse),
            .said (.placeholder Wording.generatingResponsePlaceholder)] ++
          ServiceCall.exchange
            (.startInteraction engagementId (trim utterance))
            (.error fault) ++
          [.said .clearedPlaceholder])
        ⟨.errored, context⟩
  | takenUp
      {engagementId : EngagementId}
      {ending : List Deed}
      {next : Conversation}
      (streamId : String)
      (started : StartedInteraction) :
      followUpEngagement context = .ok engagementId →
      ResponseEnding policy
        (context.withInteraction started.interactionId) streamId
        engagementId started.interactionId ending next →
      Discussion policy utterance context
        (ServiceCall.exchange
            (.deriveIntent engagementId (trim utterance))
            (.ok .question) ++
          [.said (.answerStream streamId Wording.generatingResponse),
            .said (.placeholder Wording.generatingResponsePlaceholder)] ++
          ServiceCall.exchange
            (.startInteraction engagementId (trim utterance))
            (.ok started) ++
          ending)
        next
  | revision
      {engagementId : EngagementId} :
      followUpEngagement context = .ok engagementId →
      Discussion policy utterance context
        (ServiceCall.exchange
            (.deriveIntent engagementId (trim utterance))
            (.ok .revision) ++
          [.said (.suggestion Wording.revisionPrompt
            Wording.revisionFollowUps)])
        ⟨.awaitingRevision, context⟩
  | newAnalysis
      {engagementId : EngagementId} :
      followUpEngagement context = .ok engagementId →
      Discussion policy utterance context
        (ServiceCall.exchange
            (.deriveIntent engagementId (trim utterance))
            (.ok .newAnalysis) ++
          [.said (.suggestion Wording.clarifyingPrompt
            Wording.clarifyingFollowUps)])
        ⟨.awaitingRequirements, context.withGoal (trim utterance)⟩
  | unclear
      {engagementId : EngagementId} :
      followUpEngagement context = .ok engagementId →
      Discussion policy utterance context
        (ServiceCall.exchange
            (.deriveIntent engagementId (trim utterance))
            (.ok .unclear) ++
          [.said (.suggestion Wording.didNotUnderstand
            Wording.planFollowUps)])
        ⟨.discussingPlan, context⟩

/-- How the discussion of a plan goes on and ends. -/
theorem discuss_yields
    (yields : (discuss utterance context).Yields policy deeds next) :
    Discussion policy utterance context deeds next := by
  unfold discuss at yields
  cases known : followUpEngagement context with
  | error fault =>
      rw [known] at yields
      obtain ⟨rfl, rfl⟩ := routeToErrored_yields yields
      exact .nothingToDiscuss known
  | ok engagementId =>
      rw [known] at yields
      obtain ⟨derived, _, handling, rfl⟩ := yields.of_call_bind
      cases derived with
      | error fault =>
          obtain ⟨rfl, rfl⟩ := routeToErrored_yields handling
          exact .notUnderstood fault known
      | ok intent =>
          cases intent with
          | question =>
              obtain ⟨streamId, announcing⟩ :=
                handling.of_streamName_bind
              obtain ⟨_, placing, rfl⟩ := announcing.of_say_bind
              obtain ⟨_, starting, rfl⟩ := placing.of_say_bind
              obtain ⟨taken, _, awaiting, rfl⟩ := starting.of_call_bind
              cases taken with
              | error fault =>
                  obtain ⟨rfl, rfl⟩ := routeToErrored_yields awaiting
                  simpa using .notTakenUp streamId fault known
              | ok started =>
                  simpa using
                    Discussion.takenUp streamId started known
                      (awaitResponse_yields awaiting)
          | revision =>
              obtain ⟨_, finished, rfl⟩ := handling.of_say_bind
              obtain ⟨rfl, rfl⟩ := finished.of_pure
              exact .revision known
          | newAnalysis =>
              obtain ⟨rfl, rfl⟩ := clarify_yields handling
              exact .newAnalysis known
          | unclear =>
              obtain ⟨_, finished, rfl⟩ := handling.of_say_bind
              obtain ⟨rfl, rfl⟩ := finished.of_pure
              exact .unclear known

/-! ## Every phase -/

/-- How an utterance comes out, phase by phase. -/
inductive Handling
    (policy : PollPolicy)
    (utterance : String)
    (now : Timestamp) :
    Conversation → List Deed → Except Fault Conversation → Prop where
  | goalTaken
      (context : Context) :
      Handling policy utterance now ⟨.awaitingGoal, context⟩
        [.said (.suggestion Wording.clarifyingPrompt
          Wording.clarifyingFollowUps)]
        (.ok ⟨.awaitingRequirements, context.withGoal (trim utterance)⟩)
  | planCreated
      {context : Context}
      {deeds : List Deed}
      {next : Conversation} :
      PlanCreation policy utterance context deeds next →
      Handling policy utterance now ⟨.awaitingRequirements, context⟩
        deeds (.ok next)
  | planRevised
      {context : Context}
      {deeds : List Deed}
      {next : Conversation} :
      PlanRevision policy utterance context deeds next →
      Handling policy utterance now ⟨.awaitingRevision, context⟩
        deeds (.ok next)
  | discussed
      {context : Context}
      {deeds : List Deed}
      {next : Conversation} :
      Discussion policy utterance context deeds next →
      Handling policy utterance now ⟨.discussingPlan, context⟩
        deeds (.ok next)
  | apologised
      (context : Context) :
      Handling policy utterance now ⟨.errored, context⟩
        [.said (.plainAnswer
          (context.apology.getD Wording.genericApology))]
        (.ok ⟨.awaitingGoal, context.restarted now⟩)
  | refused
      (context : Context) :
      Handling policy utterance now ⟨.notStarted, context⟩
        [] (.error (refusal ⟨.notStarted, context⟩))

/-- Every course of an utterance is one of the ways of `Handling`. -/
theorem interact_yields
    {conversation : Conversation}
    {now : Timestamp}
    {outcome : Except Fault Conversation}
    (yields :
      (conversation.interact utterance now).Yields policy deeds outcome) :
    Handling policy utterance now conversation deeds outcome := by
  obtain ⟨phase, context⟩ := conversation
  cases phase with
  | awaitingGoal =>
      obtain ⟨next, taken, rfl⟩ := yields.of_map
      obtain ⟨rfl, rfl⟩ := clarify_yields taken
      exact .goalTaken context
  | awaitingRequirements =>
      obtain ⟨next, created, rfl⟩ := yields.of_map
      exact .planCreated (createPlan_yields created)
  | awaitingRevision =>
      obtain ⟨next, revised, rfl⟩ := yields.of_map
      exact .planRevised (revisePlan_yields revised)
  | discussingPlan =>
      obtain ⟨next, discussed, rfl⟩ := yields.of_map
      exact .discussed (discuss_yields discussed)
  | errored =>
      obtain ⟨next, apologised, rfl⟩ := yields.of_map
      obtain ⟨rfl, rfl⟩ := apologise_yields apologised
      exact .apologised context
  | notStarted =>
      obtain ⟨rfl, rfl⟩ := yields.of_pure
      exact .refused context

end AssessmentChat.Conversation
