import AssessmentChat.Proofs.ConversationCourse
import AssessmentChat.Proofs.SequentialHandling
import AssessmentChat.Proofs.StopAnswers

namespace AssessmentChat

/-!
# Cancelling plans

A plan that is told to stop asks the service to stop its assessment, unless the
watch of the assessment gives up first.  A status request that is in flight is
never cut short, so the watch can give up after it has been told to stop: when
that request is the last one of too many that failed in a row.  The assessment
is then left running.
-/

/-- The request that a deed makes. -/
def Deed.asked? : Deed → Option Request
  | .asked request => some request
  | _ => none

/-- The requests that are made. -/
def requests (deeds : List Deed) : List Request :=
  deeds.filterMap Deed.asked?

/-- The answer to a status request about an assessment. -/
def Deed.statusAnswer? : Deed → Option (Except Fault AssessmentReport)
  | .answered (.service (.assessmentStatus _ _)) answer => some answer
  | _ => none

/-- The answers to the status requests about an assessment. -/
def statusAnswers
    (deeds : List Deed) : List (Except Fault AssessmentReport) :=
  deeds.filterMap Deed.statusAnswer?

/-- Whether an answer reports a failure. -/
def reportsFailure : Except Fault α → Bool
  | .error _ => true
  | .ok _ => false

/-- How many of the last answers report a failure in a row. -/
def trailingFailures (answers : List (Except Fault α)) : Nat :=
  (answers.reverse.takeWhile reportsFailure).length

/-- Too many status requests have failed in a row. -/
def Exhausts (policy : PollPolicy) (deeds : List Deed) : Prop :=
  max 1 policy.maxConsecutiveErrors ≤
    trailingFailures (statusAnswers deeds)

/--
An utterance about a plan has come to the watch of its assessment: the service
has started the assessment, or has taken up a revision of it.
-/
inductive WatchReached
    (before : Conversation)
    (deeds : List Deed) :
    EngagementId → AssessmentId → Context → Prop where
  | created
      {engagementId : EngagementId}
      {input : String}
      {started : StartedAssessment} :
      before.phase = .awaitingRequirements →
      .answered (.service (.startAssessment engagementId input))
          (.ok started) ∈ deeds →
      WatchReached before deeds engagementId started.assessmentId
        ((before.context.withEngagement engagementId).withAssessment
          started.assessmentId)
  | revised
      {engagementId : EngagementId}
      {assessmentId : AssessmentId}
      {input : String}
      {status : JobStatus} :
      before.phase = .awaitingRevision →
      .answered
          (.service (.updateAssessment engagementId assessmentId input))
          (.ok status) ∈ deeds →
      WatchReached before deeds engagementId assessmentId before.context

/-- The assessment is stopped once, and the conversation can start over. -/
structure StopsAssessment
    (engagementId : EngagementId)
    (assessmentId : AssessmentId)
    (context : Context)
    (deeds : List Deed)
    (outcome : Except Fault Conversation) : Prop where
  stoppedOnce :
    (requests deeds).count
      (.service (.stopAssessment engagementId assessmentId)) = 1
  notDownloaded :
    ∀ engagement assessment,
      .service (.downloadPlan engagement assessment) ∉ requests deeds
  notStored :
    ∀ plan, .storePlan plan ∉ requests deeds
  restartable :
    outcome = .ok ⟨.awaitingGoal, context⟩

/-- The assessment is left running, and the conversation has failed. -/
structure LeavesRunning
    (context : Context)
    (deeds : List Deed)
    (outcome : Except Fault Conversation) : Prop where
  notStopped :
    ∀ engagement assessment,
      .service (.stopAssessment engagement assessment) ∉ requests deeds
  errored :
    outcome = .ok ⟨.errored, context⟩

/-! ## Watching an assessment -/

/-- One more failure at the end is one more in a row. -/
theorem trailingFailures_snoc_error
    (answers : List (Except Fault α))
    (fault : Fault) :
    trailingFailures (answers ++ [.error fault]) =
      trailingFailures answers + 1 := by
  simp [trailingFailures, List.takeWhile_cons, reportsFailure]

/-- A success at the end leaves no failure in a row. -/
theorem trailingFailures_snoc_ok
    (answers : List (Except Fault α))
    (value : α) :
    trailingFailures (answers ++ [.ok value]) = 0 := by
  simp [trailingFailures, reportsFailure]

/-- The requests of two ways together are those of each. -/
@[simp] theorem requests_append
    (earlier later : List Deed) :
    requests (earlier ++ later) = requests earlier ++ requests later :=
  List.filterMap_append ..

/-- The answers about the status on two ways together are those on each. -/
@[simp] theorem statusAnswers_append
    (earlier later : List Deed) :
    statusAnswers (earlier ++ later) =
      statusAnswers earlier ++ statusAnswers later :=
  List.filterMap_append ..

@[simp] theorem requests_said
    (notices : List Notice) :
    requests (notices.map .said) = [] := by
  simp [requests, Deed.asked?]

@[simp] theorem statusAnswers_said
    (notices : List Notice) :
    statusAnswers (notices.map .said) = [] := by
  simp [statusAnswers, Deed.statusAnswer?]

@[simp] theorem requests_cons_said
    (notice : Notice)
    (deeds : List Deed) :
    requests (.said notice :: deeds) = requests deeds :=
  rfl

@[simp] theorem statusAnswers_cons_said
    (notice : Notice)
    (deeds : List Deed) :
    statusAnswers (.said notice :: deeds) = statusAnswers deeds :=
  rfl

/-- An operation makes one request. -/
@[simp] theorem requests_exchange
    (call : ServiceCall)
    (answer : Except Fault call.Reply) :
    requests (call.exchange answer) = [.service call] :=
  rfl

@[simp] theorem statusAnswers_exchange_status
    (engagementId : EngagementId)
    (assessmentId : AssessmentId)
    (answer : Except Fault AssessmentReport) :
    statusAnswers
        (ServiceCall.exchange
          (.assessmentStatus engagementId assessmentId) answer) =
      [answer] :=
  rfl

@[simp] theorem statusAnswers_exchange_stop
    (engagementId : EngagementId)
    (assessmentId : AssessmentId)
    (answer : Except Fault JobStatus) :
    statusAnswers
        (ServiceCall.exchange
          (.stopAssessment engagementId assessmentId) answer) = [] :=
  rfl

@[simp] theorem requests_nil :
    requests [] = [] :=
  rfl

@[simp] theorem statusAnswers_nil :
    statusAnswers [] = [] :=
  rfl

/-- The request that a deed makes or answers. -/
def Deed.request? : Deed → Option Request
  | .said _ => none
  | .asked request => some request
  | .answered request _ => some request

/-- Whether a request can come before an assessment is watched. -/
def Request.isPreparation : Request → Bool
  | .workspaceIsEmpty => true
  | .service .createEngagement => true
  | .service (.uploadWorkspace _) => true
  | .service (.startAssessment ..) => true
  | .service (.updateAssessment ..) => true
  | _ => false

/-- What is done before an assessment is watched. -/
def Preparation (deeds : List Deed) : Prop :=
  ∀ request ∈ deeds.filterMap Deed.request?,
    request.isPreparation = true

/-- What is among the requests was asked. -/
theorem mem_request_of_mem_requests
    {deeds : List Deed}
    {request : Request}
    (member : request ∈ requests deeds) :
    request ∈ deeds.filterMap Deed.request? := by
  obtain ⟨deed, inDeeds, asked⟩ := List.mem_filterMap.mp member
  refine List.mem_filterMap.mpr ⟨deed, inDeeds, ?_⟩
  cases deed with
  | asked request =>
      exact asked
  | said | answered =>
      cases asked

/-- No status is told while an assessment is prepared. -/
theorem Preparation.statusAnswers
    {deeds : List Deed}
    (preparation : Preparation deeds) :
    statusAnswers deeds = [] := by
  refine List.filterMap_eq_nil_iff.mpr ?_
  intro deed member
  cases answered : deed.statusAnswer? with
  | none =>
      rfl
  | some answer =>
      unfold Deed.statusAnswer? at answered
      split at answered
      · have prepares :=
          preparation _ (List.mem_filterMap.mpr ⟨_, member, rfl⟩)
        cases prepares
      · cases answered

/-- Only what prepares is asked while an assessment is prepared. -/
theorem Preparation.notMem_requests
    {deeds : List Deed}
    {request : Request}
    (preparation : Preparation deeds)
    (notPreparation : request.isPreparation = false) :
    request ∉ requests deeds := by
  intro member
  rw [preparation request (mem_request_of_mem_requests member)]
    at notPreparation
  cases notPreparation

/-- A watch is about nothing but the status. -/
theorem WatchGoesOn.request_eq
    {policy : PollPolicy}
    {call : ServiceCall}
    {isTerminal : call.Reply → Bool}
    {report : call.Reply → List Notice}
    {deeds : List Deed}
    {failures : Nat}
    (goesOn : WatchGoesOn policy call isTerminal report deeds failures) :
    ∀ request ∈ deeds.filterMap Deed.request?,
      request = .service call := by
  induction goesOn with
  | begun =>
      simp
  | progressed _ _ inductionHypothesis =>
      simpa [ServiceCall.exchange, Request.exchange, Deed.request?,
        or_imp, forall_and] using inductionHypothesis
  | failed _ _ _ inductionHypothesis =>
      simpa [ServiceCall.exchange, Request.exchange, Deed.request?,
        or_imp, forall_and] using inductionHypothesis

namespace Conversation

variable
  {policy : PollPolicy}
  {utterance streamId : String}
  {deeds : List Deed}
  {context : Context}
  {engagementId : EngagementId}
  {assessmentId : AssessmentId}
  {next : Conversation}
  {failures : Nat}

/-- A watch that goes on has not seen too many failures in a row. -/
theorem AssessmentGoesOn.trailingFailures_lt
    (goesOn :
      AssessmentGoesOn policy streamId engagementId assessmentId
        deeds failures) :
    trailingFailures (statusAnswers deeds) = failures ∧
      failures < max 1 policy.maxConsecutiveErrors := by
  induction goesOn with
  | begun =>
      refine ⟨rfl, ?_⟩
      omega
  | progressed _ _ inductionHypothesis =>
      refine ⟨?_, by omega⟩
      rw [statusAnswers_append, statusAnswers_said, List.append_nil,
        statusAnswers_append]
      exact trailingFailures_snoc_ok _ _
  | failed fault _ few inductionHypothesis =>
      refine ⟨?_, by omega⟩
      rw [statusAnswers_append, ← inductionHypothesis.1]
      exact trailingFailures_snoc_error _ fault

/-- The requests of a watch are status requests. -/
theorem AssessmentGoesOn.requests_eq
    (goesOn :
      AssessmentGoesOn policy streamId engagementId assessmentId
        deeds failures) :
    ∀ request ∈ requests deeds,
      request = .service (.assessmentStatus engagementId assessmentId) :=
  fun request member =>
    goesOn.request_eq request (mem_request_of_mem_requests member)

/-! ## Ending a plan -/

/-- Nothing is prepared while a plan is delivered. -/
theorem Delivery.notPreparation
    (delivery : Delivery context engagementId assessmentId deeds next) :
    ∀ request ∈ deeds.filterMap Deed.request?,
      request.isPreparation = false := by
  cases delivery <;>
    simp [ServiceCall.exchange, Request.exchange, Deed.request?,
      Request.isPreparation]

/-- Nothing is prepared once an assessment is watched. -/
theorem PlanEnding.notPreparation
    (ending :
      PlanEnding policy context streamId engagementId assessmentId
        deeds next) :
    ∀ request ∈ deeds.filterMap Deed.request?,
      request.isPreparation = false := by
  have watches
      {watched : List Deed}
      {failures : Nat}
      (goesOn :
        AssessmentGoesOn policy streamId engagementId assessmentId
          watched failures) :
      ∀ request ∈ watched.filterMap Deed.request?,
        request.isPreparation = false := by
    intro request member
    rw [goesOn.request_eq request member]
    rfl
  cases ending with
  | exhausted fault goesOn | stopped answer goesOn
  | notCompleted goesOn =>
      simpa [ServiceCall.exchange, Request.exchange, Deed.request?,
        Request.isPreparation, or_imp, forall_and] using watches goesOn
  | completed goesOn _ delivery =>
      simpa [ServiceCall.exchange, Request.exchange, Deed.request?,
        Request.isPreparation, or_imp, forall_and] using
        And.intro (watches goesOn) delivery.notPreparation

/-- Nothing is prepared while a plan ends. -/
theorem PlanEnding.notMem_of_preparation
    (ending :
      PlanEnding policy context streamId engagementId assessmentId
        deeds next)
    {request : Request}
    (prepares : request.isPreparation = true)
    (answer : request.Answer) :
    .answered request answer ∉ deeds := by
  intro member
  have notPreparation :=
    ending.notPreparation request
      (List.mem_filterMap.mpr ⟨_, member, rfl⟩)
  rw [prepares] at notPreparation
  cases notPreparation

/-- A plan whose assessment is not seen to end fails or stops it. -/
theorem PlanEnding.of_unfinished
    (ending :
      PlanEnding policy context streamId engagementId assessmentId
        deeds next)
    (unfinished :
      ∀ report,
        .ok report ∈ statusAnswers deeds → report.isTerminal = false) :
    (next = ⟨.errored, context⟩ ∧
        Exhausts policy deeds ∧
        ∀ request ∈ requests deeds,
          request =
            .service (.assessmentStatus engagementId assessmentId)) ∨
      (next = ⟨.awaitingGoal, context⟩ ∧
        ¬ Exhausts policy deeds ∧
        ∃ checks,
          requests deeds =
              checks ++
                [.service (.stopAssessment engagementId assessmentId)] ∧
            ∀ request ∈ checks,
              request =
                .service
                  (.assessmentStatus engagementId assessmentId)) := by
  cases ending with
  | exhausted fault goesOn enough =>
      obtain ⟨counted, -⟩ := goesOn.trailingFailures_lt
      refine .inl ⟨rfl, ?_, ?_⟩
      · simp only [Exhausts, statusAnswers_cons_said,
          statusAnswers_append, statusAnswers_exchange_status,
          statusAnswers_nil, List.append_nil,
          trailingFailures_snoc_error, counted]
        omega
      · simpa [or_imp, forall_and] using goesOn.requests_eq
  | stopped answer goesOn =>
      obtain ⟨counted, few⟩ := goesOn.trailingFailures_lt
      refine .inr ⟨rfl, ?_, _, ?_, goesOn.requests_eq⟩
      · simp only [Exhausts, statusAnswers_cons_said,
          statusAnswers_append, statusAnswers_exchange_stop,
          statusAnswers_nil, List.append_nil, counted]
        omega
      · simp
  | @notCompleted _ _ report _ goesOn ended =>
      have notTerminal := unfinished report (by simp)
      rcases ended with ⟨status, -⟩ | ⟨status, -⟩ <;>
        simp [AssessmentReport.isTerminal, JobStatus.isTerminal, status]
          at notTerminal
  | @completed _ _ _ report _ goesOn status delivery =>
      have notTerminal := unfinished report (by simp)
      simp [AssessmentReport.isTerminal, JobStatus.isTerminal, status]
        at notTerminal

/-! ## Beginning a plan -/

/-- The start of an assessment is a preparation. -/
theorem AssessmentStart.preparation
    {outcome : Except Fault Context}
    (start : AssessmentStart utterance context deeds outcome) :
    Preparation deeds := by
  have ensures
      {ensuring : List Deed}
      {ensured : Except Fault EngagementId}
      (ensure : EngagementEnsured context ensuring ensured) :
      Preparation ensuring := by
    cases ensure <;>
      simp [Preparation, ServiceCall.exchange, Request.exchange,
        Deed.request?, Request.isPreparation]
  cases start with
  | noEngagement ensure =>
      exact ensures ensure
  | notUploaded _ ensure | notStarted _ ensure | started _ ensure =>
      simpa [Preparation, ServiceCall.exchange, Request.exchange,
        Deed.request?, Request.isPreparation, or_imp, forall_and] using
        ensures ensure

/-- No assessment is started while an engagement is ensured. -/
theorem EngagementEnsured.not_started
    {ensured : Except Fault EngagementId}
    (ensure : EngagementEnsured context deeds ensured)
    (input : String)
    (answer : Except Fault StartedAssessment) :
    .answered (.service (.startAssessment engagementId input)) answer ∉
      deeds := by
  cases ensure <;> simp [ServiceCall.exchange, Request.exchange]

/-- The context names the assessment that the service has started. -/
theorem AssessmentStart.started_mem
    {outcome : Except Fault Context}
    {input : String}
    {started : StartedAssessment}
    (start : AssessmentStart utterance context deeds outcome)
    (member :
      .answered (.service (.startAssessment engagementId input))
        (.ok started) ∈ deeds) :
    outcome =
      .ok ((context.withEngagement engagementId).withAssessment
        started.assessmentId) := by
  cases start with
  | noEngagement ensure =>
      exact absurd member (ensure.not_started input _)
  | notUploaded fault ensure =>
      simp [ServiceCall.exchange, Request.exchange,
        ensure.not_started] at member
  | notStarted fault ensure =>
      simp [ServiceCall.exchange, Request.exchange,
        ensure.not_started] at member
  | started began ensure =>
      simp [ServiceCall.exchange, Request.exchange,
        ensure.not_started] at member
      obtain ⟨⟨rfl, -⟩, rfl⟩ := member
      rfl

/-- What is done before a plan whose assessment has started is watched. -/
theorem PlanCreation.reached
    {input : String}
    {started : StartedAssessment}
    (created : PlanCreation policy utterance context deeds next)
    (member :
      .answered (.service (.startAssessment engagementId input))
        (.ok started) ∈ deeds) :
    ∃ preparation ending streamId,
      deeds = preparation ++ ending ∧
        Preparation preparation ∧
        PlanEnding policy
          ((context.withEngagement engagementId).withAssessment
            started.assessmentId)
          streamId engagementId started.assessmentId ending next := by
  cases created with
  | emptyWorkspace =>
      simp [Request.exchange] at member
  | @notStarted starting _ streamId start =>
      have inStart :
          .answered (.service (.startAssessment engagementId input))
            (.ok started) ∈ starting := by
        simpa [Request.exchange, planAnnouncement] using member
      cases start.started_mem inStart
  | @started starting ending _ _ _ _ streamId start ids planEnding =>
      have notInEnding :
          .answered (.service (.startAssessment engagementId input))
            (.ok started) ∉ ending :=
        planEnding.notMem_of_preparation rfl _
      have inStart :
          .answered (.service (.startAssessment engagementId input))
            (.ok started) ∈ starting := by
        simpa [Request.exchange, planAnnouncement, notInEnding] using
          member
      cases start.started_mem inStart
      cases ids
      refine ⟨_, ending, streamId, rfl, ?_, planEnding⟩
      simpa [Preparation, Request.exchange, planAnnouncement,
        Deed.request?, Request.isPreparation] using start.preparation

/-- What is done before a plan that is being revised is watched. -/
theorem PlanRevision.reached
    {input : String}
    {status : JobStatus}
    (revised : PlanRevision policy utterance context deeds next)
    (member :
      .answered
          (.service (.updateAssessment engagementId assessmentId input))
          (.ok status) ∈ deeds) :
    ∃ preparation ending streamId,
      deeds = preparation ++ ending ∧
        Preparation preparation ∧
        PlanEnding policy context streamId engagementId assessmentId
          ending next := by
  cases revised with
  | nothingToRevise =>
      simp [revisionAnnouncement] at member
  | notUpdated =>
      simp [revisionAnnouncement, ServiceCall.exchange,
        Request.exchange] at member
  | @updated _ _ ending _ streamId began ids planEnding =>
      have notInEnding :
          .answered
              (.service (.updateAssessment engagementId assessmentId input))
              (.ok status) ∉ ending :=
        planEnding.notMem_of_preparation rfl _
      simp [revisionAnnouncement, ServiceCall.exchange, Request.exchange,
        notInEnding] at member
      obtain ⟨⟨rfl, rfl, -⟩, -⟩ := member
      refine ⟨_, ending, streamId, rfl, ?_, planEnding⟩
      simp [Preparation, revisionAnnouncement, ServiceCall.exchange,
        Request.exchange, Deed.request?, Request.isPreparation]

/-- An utterance that comes to the watch of an assessment ends as the plan ends. -/
theorem Handling.reached
    {now : Timestamp}
    {conversation : Conversation}
    {outcome : Except Fault Conversation}
    (handling :
      Handling policy utterance now conversation deeds outcome)
    (reached :
      WatchReached conversation deeds engagementId assessmentId context) :
    ∃ preparation ending streamId next,
      deeds = preparation ++ ending ∧
        Preparation preparation ∧
        PlanEnding policy context streamId engagementId assessmentId
          ending next ∧
        outcome = .ok next := by
  cases reached with
  | created phase member =>
      cases handling with
      | planCreated created =>
          obtain ⟨preparation, ending, streamId, split, prepares, ends⟩ :=
            created.reached member
          exact ⟨preparation, ending, streamId, _, split, prepares, ends,
            rfl⟩
      | goalTaken | planRevised | discussed | apologised | refused =>
          cases phase
  | revised phase member =>
      cases handling with
      | planRevised revised =>
          obtain ⟨preparation, ending, streamId, split, prepares, ends⟩ :=
            revised.reached member
          exact ⟨preparation, ending, streamId, _, split, prepares, ends,
            rfl⟩
      | goalTaken | planCreated | discussed | apologised | refused =>
          cases phase

/-- A plan whose assessment is not seen to end leaves it running or stops it. -/
theorem Handling.leavesRunning_or_stops
    {now : Timestamp}
    {conversation : Conversation}
    {outcome : Except Fault Conversation}
    (handling :
      Handling policy utterance now conversation deeds outcome)
    (reached :
      WatchReached conversation deeds engagementId assessmentId context)
    (unfinished :
      ∀ report,
        .ok report ∈ statusAnswers deeds → report.isTerminal = false) :
    (Exhausts policy deeds ∧ LeavesRunning context deeds outcome) ∨
      (¬ Exhausts policy deeds ∧
        StopsAssessment engagementId assessmentId context deeds
          outcome) := by
  obtain ⟨preparation, ending, streamId, next, rfl, prepares, ends, rfl⟩ :=
    handling.reached reached
  have answers :
      statusAnswers (preparation ++ ending) = statusAnswers ending := by
    rw [statusAnswers_append, prepares.statusAnswers, List.nil_append]
  rw [answers] at unfinished
  rw [Exhausts, answers]
  rcases ends.of_unfinished unfinished with
    ⟨rfl, exhausts, checks⟩ | ⟨rfl, notExhausts, checks, asked, only⟩
  · refine .inl ⟨exhausts, ?_, rfl⟩
    intro engagement assessment member
    rw [requests_append] at member
    rcases List.mem_append.mp member with before | after
    · exact prepares.notMem_requests rfl before
    · cases checks _ after
  · have absent
        (request : Request)
        (notPreparation : request.isPreparation = false)
        (notCheck :
          request ≠
            .service (.assessmentStatus engagementId assessmentId)) :
        request ∉ requests preparation ++ checks := by
      intro member
      rcases List.mem_append.mp member with before | after
      · exact prepares.notMem_requests notPreparation before
      · exact notCheck (only request after)
    have all :
        requests (preparation ++ ending) =
          requests preparation ++ checks ++
            [.service (.stopAssessment engagementId assessmentId)] := by
      rw [requests_append, asked, List.append_assoc]
    refine .inr ⟨notExhausts, ?_, ?_, ?_, rfl⟩
    · have notBefore :=
        absent (.service (.stopAssessment engagementId assessmentId)) rfl
          nofun
      rw [all, List.count_append, List.count_eq_zero.mpr notBefore]
      simp
    · intro engagement assessment
      simpa [all] using
        absent (.service (.downloadPlan engagement assessment)) rfl nofun
    · intro plan
      simpa [all] using absent (.storePlan plan) rfl nofun

end Conversation

/-! ## Being told to stop -/

namespace Interaction

/-- An interaction that was told to stop stays told. -/
theorem meet?_told
    {policy : PollPolicy}
    {interaction next : Interaction α}
    {occurrence : Occurrence}
    (met : interaction.meet? policy occurrence = some next)
    (told :
      interaction.toldToStop = true ∨ occurrence = .toldToStop) :
    next.toldToStop = true := by
  cases occurrence with
  | toldToStop =>
      cases met
      rfl
  | woken | answered =>
      obtain ⟨stretch, -, rfl⟩ := Option.map_eq_some_iff.mp met
      simpa [goOn] using told

/-- An interaction has been told to stop from then on. -/
theorem meetAll?_told
    {policy : PollPolicy}
    {interaction last : Interaction α}
    {occurrences : List Occurrence}
    (met : interaction.meetAll? policy occurrences = some last)
    (told :
      interaction.toldToStop = true ∨ .toldToStop ∈ occurrences) :
    last.toldToStop = true := by
  induction occurrences generalizing interaction with
  | nil =>
      cases met
      simpa using told
  | cons occurrence rest inductionHypothesis =>
      obtain ⟨next, met, restMet⟩ := Option.bind_eq_some_iff.mp met
      refine inductionHypothesis restMet ?_
      rcases told with already | member
      · exact .inl (meet?_told met (.inl already))
      · rcases List.mem_cons.mp member with now | later
        · exact .inl (meet?_told met (.inr now.symm))
        · exact .inr later

end Interaction

/-- A turn whose token is cancelled, by `cancel` or by `dispose`. -/
def Turn.Cancelled (earlier : List Move) (turn : Turn) : Prop :=
  .signal .dispose ∈ earlier ++ turn.lead ++ turn.during ∨
    .signal .cancel ∈ turn.during

/-- Cancelling a turn about a plan tells its interaction to stop. -/
theorem Turn.Holds.toldToStop
    {policy : PollPolicy}
    {earlier : List Move}
    {turn : Turn}
    (holds : turn.Holds policy earlier)
    (cancellable : turn.before.phase.isCancellable = true)
    (cancelled : turn.Cancelled earlier) :
    turn.interaction.toldToStop = true := by
  refine Interaction.meetAll?_told holds.handled ?_
  rcases cancelled with disposed | cancelled
  · rcases List.mem_append.mp disposed with before | during
    · exact .inl (holds.told.mpr before)
    · exact .inr (List.mem_filterMap.mpr ⟨_, during, rfl⟩)
  · refine .inr (List.mem_filterMap.mpr ⟨_, cancelled, ?_⟩)
    simp [Move.occurrence?, cancellable]

/--
A plan that is cancelled comes to its end.  When it has come to the watch of its
assessment and no status has been terminal, the assessment is stopped once,
nothing is downloaded or stored and the conversation can start over with its
names kept, exactly unless the last status requests have failed too often in a
row; then the assessment is left running and the conversation has failed.  What
is answered to the stop request changes nothing that is seen.
-/
theorem cancelled_plan_stops_assessment_iff
    {policy : PollPolicy}
    {earlier : List Move}
    {turn : Turn}
    {text : String}
    (holds : turn.Holds policy earlier)
    (utterance : turn.queued.job = .utterance text)
    (plans :
      turn.before.phase = .awaitingRequirements ∨
        turn.before.phase = .awaitingRevision)
    (cancelled : turn.Cancelled earlier) :
    turn.interaction.BoundToFinish policy ∧
      ∀ outcome engagementId assessmentId context,
        turn.outcome? = some outcome →
        WatchReached turn.before turn.interaction.deeds engagementId
          assessmentId context →
        (∀ report,
          .ok report ∈ statusAnswers turn.interaction.deeds →
          report.isTerminal = false) →
        (StopsAssessment engagementId assessmentId context
            turn.interaction.deeds outcome ↔
          ¬ Exhausts policy turn.interaction.deeds) ∧
        (Exhausts policy turn.interaction.deeds →
          LeavesRunning context turn.interaction.deeds outcome) ∧
        ∀ answer, ∃ other,
          turn.before.handling? policy turn.queued.job turn.opening
              (turn.occurrences.map
                (Occurrence.withStopAnswer answer)) =
            some other ∧
          turn.interaction.SeenAlike other := by
  have cancellable : turn.before.phase.isCancellable = true := by
    rcases plans with phase | phase <;> rw [phase] <;> rfl
  refine ⟨.of_told (holds.toldToStop cancellable cancelled), ?_⟩
  intro outcome engagementId assessmentId context ended reached unfinished
  have handled := holds.handled
  have reaches := Conversation.handling?_reaches handled
  rw [Activity.outcome?_eq_some.mp ended] at reaches
  rw [utterance] at handled reaches ⊢
  have handling := Conversation.interact_yields reaches
  refine ⟨?_, ?_, fun answer =>
    Conversation.handling?_withStopAnswer plans handled answer⟩
  · rcases handling.leavesRunning_or_stops reached unfinished with
      ⟨exhausts, leaves⟩ | ⟨notExhausts, stops⟩
    · constructor
      · intro stops
        have same := stops.restartable.symm.trans leaves.errored
        cases same
      · exact fun notExhausts => absurd exhausts notExhausts
    · exact ⟨fun _ => notExhausts, fun _ => stops⟩
  · intro exhausts
    rcases handling.leavesRunning_or_stops reached unfinished with
      ⟨-, leaves⟩ | ⟨notExhausts, -⟩
    · exact leaves
    · exact absurd exhausts notExhausts

/-- A turn that begins at once, under a token that is not cancelled. -/
theorem Turn.Holds.atOnce
    {policy : PollPolicy}
    {conversation : Conversation}
    {moment : Moment}
    {during : List Move}
    {interaction : Interaction (Except Fault Conversation)}
    (queued : QueuedJob)
    (handled :
      conversation.handling? policy queued.job ⟨moment, false⟩
          (during.filterMap
            (Move.occurrence? conversation.phase)) =
        some interaction) :
    Turn.Holds policy []
      ⟨queued, conversation, [], ⟨moment, false⟩, false, during,
        interaction⟩ where
  told := by simp
  handled := handled

/-- A conversation in which a plan can be revised. -/
private def revising : Conversation :=
  ⟨.awaitingRevision,
    ((Context.start "S1" ⟨0, 0⟩).withEngagement "E1").withAssessment "A1"⟩

/-- A revision that is cancelled in a delay stops its assessment. -/
theorem cancelled_plan_stops_assessment_in_delay :
    ∃ (turn : Turn) (outcome : Except Fault Conversation),
      turn.Holds ⟨0, 3⟩ [] ∧
      turn.before.phase = .awaitingRevision ∧
      turn.Cancelled [] ∧
      turn.outcome? = some outcome ∧
      StopsAssessment "E1" "A1" turn.before.context
        turn.interaction.deeds outcome := by
  let moment : Moment := ⟨"M1", ⟨0, 0⟩⟩
  let during : List Move :=
    [.receive moment
        (.service (.updateAssessment "E1" "A1" (trim "shorter")))
        (.ok .inProgress),
      .signal .cancel,
      .proceed moment false,
      .receive moment (.service (.stopAssessment "E1" "A1"))
        (.error (.remoteCall "StopRefactoringAssessment" "HTTP 503"))]
  let deeds : List Deed :=
    .said (.plainAnswer Wording.revisingPlan) ::
      .said (.answerStream "M1" Wording.startingRevision) ::
      (ServiceCall.updateAssessment "E1" "A1" (trim "shorter")).exchange
        (.ok .inProgress) ++
      .said (.placeholder Wording.generatingPlanPlaceholder) ::
      .said (.answerStream "M1" Wording.cancellingPlan) ::
      (ServiceCall.stopAssessment "E1" "A1").exchange
        (.error (.remoteCall "StopRefactoringAssessment" "HTTP 503")) ++
      [.said (.plainAnswer Wording.planCancelled),
        .said .clearedPlaceholder]
  have handled :
      revising.handling? ⟨0, 3⟩ (.utterance "shorter") ⟨moment, false⟩
          (during.filterMap (Move.occurrence? revising.phase)) =
        some ⟨deeds,
          .finished (.ok ⟨.awaitingGoal, revising.context⟩), true⟩ :=
    rfl
  have holds := Turn.Holds.atOnce ⟨0, .utterance "shorter"⟩ handled
  have cancelled : .signal .cancel ∈ during := by simp [during]
  obtain ⟨stops, -, -⟩ :=
    (cancelled_plan_stops_assessment_iff holds rfl (.inr rfl)
      (.inr cancelled)).2 _ "E1" "A1" revising.context rfl
        (.revised rfl (List.mem_iff_getElem?.mpr ⟨3, rfl⟩))
        (by intro report answered; cases answered)
  refine ⟨_, _, holds, rfl, .inr cancelled, rfl, stops.mpr ?_⟩
  exact (by decide : ¬ 3 ≤ 0)

/--
A cancelled plan does not always stop its assessment: when it is cancelled during
the last status request that may fail, the watch gives up.
-/
theorem cancelled_plan_not_always_stops_assessment :
    ∃ (turn : Turn) (outcome : Except Fault Conversation),
      turn.Holds ⟨0, 1⟩ [] ∧
      turn.queued.job = .utterance "shorter" ∧
      turn.before.phase = .awaitingRevision ∧
      turn.Cancelled [] ∧
      turn.outcome? = some outcome ∧
      WatchReached turn.before turn.interaction.deeds "E1" "A1"
        turn.before.context ∧
      (∀ report,
        .ok report ∈ statusAnswers turn.interaction.deeds →
        report.isTerminal = false) ∧
      ¬ StopsAssessment "E1" "A1" turn.before.context
        turn.interaction.deeds outcome := by
  let moment : Moment := ⟨"M1", ⟨0, 0⟩⟩
  let fault : Fault :=
    .remoteCall "GetRefactoringAssessmentStatus" "HTTP 503"
  let during : List Move :=
    [.receive moment
        (.service (.updateAssessment "E1" "A1" (trim "shorter")))
        (.ok .inProgress),
      .elapse moment,
      .signal .cancel,
      .receive moment (.service (.assessmentStatus "E1" "A1"))
        (.error fault)]
  let deeds : List Deed :=
    .said (.plainAnswer Wording.revisingPlan) ::
      .said (.answerStream "M1" Wording.startingRevision) ::
      (ServiceCall.updateAssessment "E1" "A1" (trim "shorter")).exchange
        (.ok .inProgress) ++
      .said (.placeholder Wording.generatingPlanPlaceholder) ::
      (ServiceCall.assessmentStatus "E1" "A1").exchange (.error fault) ++
      [.said .clearedPlaceholder]
  have handled :
      revising.handling? ⟨0, 1⟩ (.utterance "shorter") ⟨moment, false⟩
          (during.filterMap (Move.occurrence? revising.phase)) =
        some ⟨deeds, .finished (.ok ⟨.errored, revising.context⟩),
          true⟩ :=
    rfl
  have holds := Turn.Holds.atOnce ⟨0, .utterance "shorter"⟩ handled
  have cancelled : .signal .cancel ∈ during := by simp [during]
  refine ⟨_, .ok ⟨.errored, revising.context⟩, holds, rfl, rfl,
    .inr cancelled, rfl, ?reached, ?unfinished, ?unstopped⟩
  case reached =>
    exact .revised rfl (List.mem_iff_getElem?.mpr ⟨3, rfl⟩)
  case unfinished =>
    intro report answered
    cases List.mem_singleton.mp answered
  case unstopped =>
    intro stops
    cases stops.restartable

end AssessmentChat
