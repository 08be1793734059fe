import AssessmentChat.Proofs.PhaseTable
import AssessmentChat.Proofs.RequestOrder
import AssessmentChat.Proofs.ShownInOrder

namespace AssessmentChat

/-!
# The calls of a plan

An utterance about a plan makes its requests in one order: what has to be ready,
the status of the assessment any number of times, and then the download and the
storing of the plan or the stop of the assessment.  Every request names the
engagement and the assessment that are known by then, and what is stored is what
was downloaded.  After a request that failed there is nothing but a further
status request, or the stop of an assessment whose status could not be had.
-/

/-! ## The order of the requests -/

/-- What has to be asked before an assessment can be started. -/
def startOpening
    (context : Context)
    (engagementId : EngagementId)
    (input : String) : List Request :=
  (if context.engagementId = none then [.service .createEngagement]
    else []) ++
    [.service (.uploadWorkspace engagementId),
      .service (.startAssessment engagementId input)]

/-- What has to be asked before an assessment is watched. -/
def planOpening
    (before : Conversation)
    (utterance : String)
    (engagementId : EngagementId)
    (assessmentId : AssessmentId) : List Request :=
  if before.phase = .awaitingRevision then
    [.service
      (.updateAssessment engagementId assessmentId (trim utterance))]
  else
    .workspaceIsEmpty ::
      startOpening before.context engagementId
        (before.context.assessmentInput utterance)

/-- What can be asked after an assessment was watched. -/
inductive PlanClosing
    (sessionId : String)
    (engagementId : EngagementId)
    (assessmentId : AssessmentId) : List Request → Prop where
  | nothing :
      PlanClosing sessionId engagementId assessmentId []
  | stop :
      PlanClosing sessionId engagementId assessmentId
        [.service (.stopAssessment engagementId assessmentId)]
  | delivery
      (content : String) :
      PlanClosing sessionId engagementId assessmentId
        [.service (.downloadPlan engagementId assessmentId),
          .storePlan ⟨sessionId, assessmentId, content⟩]

/-- Requests for a status, any number of times, and what can come after them. -/
def WatchesAndCloses
    (sessionId : String)
    (engagementId : EngagementId)
    (assessmentId : AssessmentId)
    (opening asked : List Request) : Prop :=
  ∃ checks closing,
    PlanClosing sessionId engagementId assessmentId closing ∧
      asked <+:
        opening ++
          List.replicate checks
            (.service (.assessmentStatus engagementId assessmentId)) ++
          closing

/-! ## What a request relies on -/

/-- The engagement that a request names. -/
def Request.engagement? : Request → Option EngagementId
  | .service call => call.engagement?
  | _ => none

/-- The assessment that a request names. -/
def Request.assessment? : Request → Option AssessmentId
  | .service call => call.assessment?
  | .storePlan plan => some plan.assessmentId
  | _ => none

/-- The engagement of a context, or the one created because there is none. -/
def KnowsEngagement
    (context : Context)
    (earlier : List Deed)
    (engagementId : EngagementId) : Prop :=
  context.engagementId = some engagementId ∨
    context.engagementId = none ∧
      ∃ engagement,
        .answered (.service .createEngagement) (.ok engagement) ∈ earlier ∧
          engagement.engagementId = engagementId

/-- The assessment to be revised, or the one that was started. -/
inductive KnowsAssessment
    (before : Conversation)
    (earlier : List Deed) : AssessmentId → Prop where
  | revised
      {assessmentId : AssessmentId} :
      before.phase = .awaitingRevision →
      before.context.assessmentId = some assessmentId →
      KnowsAssessment before earlier assessmentId
  | started
      {engagementId : EngagementId}
      {input : String}
      {started : StartedAssessment} :
      before.phase = .awaitingRequirements →
      .answered (.service (.startAssessment engagementId input))
          (.ok started) ∈ earlier →
      KnowsAssessment before earlier started.assessmentId

/-- A request that names what is known by then, and nothing else. -/
structure NamesKnown
    (before : Conversation)
    (earlier : List Deed)
    (request : Request) : Prop where
  engagement :
    ∀ engagementId,
      request.engagement? = some engagementId →
      KnowsEngagement before.context earlier engagementId
  assessment :
    ∀ assessmentId,
      request.assessment? = some assessmentId →
      KnowsAssessment before earlier assessmentId

/-- A plan that is handed over is the one that was downloaded. -/
def StoresDownload
    (sessionId : String)
    (earlier : List Deed)
    (request : Request) : Prop :=
  ∀ plan,
    request = .storePlan plan →
    plan.sessionId = sessionId ∧
      ∃ engagementId,
        .answered
            (.service (.downloadPlan engagementId plan.assessmentId))
            (.ok plan.content) ∈ earlier

/-- A request that names nothing can be made at any time. -/
theorem NamesKnown.of_naming_nothing
    {before : Conversation}
    {request : Request}
    (engagement : request.engagement? = none)
    (assessment : request.assessment? = none)
    (earlier : List Deed) :
    NamesKnown before earlier request := by
  constructor
  · intro engagementId names
    cases engagement.symm.trans names
  · intro assessmentId names
    cases assessment.symm.trans names

/-- A call that names no more than an engagement that is known. -/
theorem NamesKnown.of_engagement
    {before : Conversation}
    {earlier : List Deed}
    {call : ServiceCall}
    {engagementId : EngagementId}
    (knows : KnowsEngagement before.context earlier engagementId)
    (engagement : call.engagement? = some engagementId)
    (assessment : call.assessment? = none) :
    NamesKnown before earlier (.service call) := by
  constructor
  · intro other names
    cases engagement.symm.trans names
    exact knows
  · intro assessmentId names
    cases assessment.symm.trans names

/-- An engagement that is known stays so. -/
theorem KnowsEngagement.mono
    {context : Context}
    {earlier more : List Deed}
    {engagementId : EngagementId}
    (knows : KnowsEngagement context earlier engagementId)
    (subset : earlier ⊆ more) :
    KnowsEngagement context more engagementId := by
  refine knows.imp_right ?_
  rintro ⟨unknown, engagement, created, same⟩
  exact ⟨unknown, engagement, subset created, same⟩

/-- An assessment that is known stays so. -/
theorem KnowsAssessment.mono
    {before : Conversation}
    {earlier more : List Deed}
    {assessmentId : AssessmentId}
    (knows : KnowsAssessment before earlier assessmentId)
    (subset : earlier ⊆ more) :
    KnowsAssessment before more assessmentId := by
  cases knows with
  | revised phase known =>
      exact .revised phase known
  | started phase began =>
      exact .started phase (subset began)

/-- What names something known does so whatever was done before. -/
theorem NamesKnown.mono
    {conversation : Conversation}
    (before between : List Deed)
    (request : Request)
    (named : NamesKnown conversation between request) :
    NamesKnown conversation (before ++ between) request := by
  have subset := List.subset_append_right before between
  constructor
  · intro engagementId names
    exact (named.engagement engagementId names).mono subset
  · intro assessmentId names
    exact (named.assessment assessmentId names).mono subset

/-- What stores a plan that was fetched does so whatever was done before. -/
theorem StoresDownload.mono
    {sessionId : String}
    (before between : List Deed)
    (request : Request)
    (stores : StoresDownload sessionId between request) :
    StoresDownload sessionId (before ++ between) request := by
  intro plan isStoring
  obtain ⟨own, engagementId, downloaded⟩ := stores plan isStoring
  exact ⟨own, engagementId, List.mem_append_right _ downloaded⟩

/-- The requests that an utterance about a plan has made. -/
structure PlanCalls
    (before : Conversation)
    (utterance : String)
    (deeds : List Deed) : Prop where
  inOrder :
    ∃ engagementId assessmentId,
      WatchesAndCloses before.context.sessionId engagementId assessmentId
        (planOpening before utterance engagementId assessmentId)
        (requests deeds)
  named :
    EachAsked (NamesKnown before) deeds
  stored :
    EachAsked (StoresDownload before.context.sessionId) deeds
  afterFailure :
    EachFailure MayFollow deeds

/-- Requests made by any moment are the beginning of those made at the end. -/
theorem PlanCalls.of_append
    {before : Conversation}
    {utterance : String}
    {earlier later : List Deed}
    (calls : PlanCalls before utterance (earlier ++ later)) :
    PlanCalls before utterance earlier := by
  obtain ⟨engagementId, assessmentId, checks, closing, closes, asked⟩ :=
    calls.inOrder
  refine ⟨⟨engagementId, assessmentId, checks, closing, closes, ?_⟩,
    calls.named.of_append, calls.stored.of_append, ?_⟩
  · rw [requests_append] at asked
    exact (List.prefix_append _ _).trans asked
  · exact (eachFailure_append.mp calls.afterFailure).1.mono
      fun _ _ => MayFollow.of_prefix

/-! ## Watches and what comes after them -/

namespace WatchesAndCloses

variable
  {sessionId : String}
  {engagementId : EngagementId}
  {assessmentId : AssessmentId}
  {opening asked : List Request}

/-- A watch with its closing may have an opening. -/
theorem after
    (watches : WatchesAndCloses sessionId engagementId assessmentId [] asked)
    (opening : List Request) :
    WatchesAndCloses sessionId engagementId assessmentId opening
      (opening ++ asked) := by
  obtain ⟨checks, closing, closes, inOrder⟩ := watches
  refine ⟨checks, closing, closes, ?_⟩
  rw [List.append_assoc, List.prefix_append_right_inj]
  exact inOrder

/-- What is asked from the watch on is about one assessment. -/
theorem isAbout
    (watches : WatchesAndCloses sessionId engagementId assessmentId [] asked) :
    ∀ request ∈ asked,
      (∀ other, request.engagement? = some other → other = engagementId) ∧
        ∀ other, request.assessment? = some other → other = assessmentId := by
  obtain ⟨checks, closing, closes, inOrder⟩ := watches
  intro request member
  rcases List.mem_append.mp (inOrder.subset member) with checked | closed
  · obtain rfl := List.eq_of_mem_replicate checked
    exact ⟨by rintro _ ⟨⟩; rfl, by rintro _ ⟨⟩; rfl⟩
  · cases closes with
    | nothing =>
        cases closed
    | stop =>
        obtain rfl := List.mem_singleton.mp closed
        exact ⟨by rintro _ ⟨⟩; rfl, by rintro _ ⟨⟩; rfl⟩
    | delivery content =>
        rcases List.mem_pair.mp closed with rfl | rfl
        · exact ⟨by rintro _ ⟨⟩; rfl, by rintro _ ⟨⟩; rfl⟩
        · exact ⟨nofun, by rintro _ ⟨⟩; rfl⟩

/-- Nothing is watched before everything has been asked that has to be ready. -/
theorem of_opening
    (begins : asked <+: opening) :
    WatchesAndCloses sessionId engagementId assessmentId opening asked := by
  refine ⟨0, [], .nothing, ?_⟩
  simpa using begins

end WatchesAndCloses

namespace Conversation

variable
  {policy : PollPolicy}
  {utterance streamId : String}
  {deeds : List Deed}
  {context : Context}
  {engagementId : EngagementId}
  {assessmentId : AssessmentId}
  {next : Conversation}

/-- While an assessment goes on, only its status is asked for. -/
theorem AssessmentGoesOn.exists_replicate
    {watched : List Deed}
    {failures : Nat}
    (goesOn :
      AssessmentGoesOn policy streamId engagementId assessmentId
        watched failures) :
    ∃ checks,
      requests watched =
        List.replicate checks
          (.service (.assessmentStatus engagementId assessmentId)) :=
  ⟨_, List.eq_replicate_of_mem goesOn.requests_eq⟩

/-- The end of a plan is a watch with its closing. -/
theorem PlanEnding.watchesAndCloses
    (ending :
      PlanEnding policy context streamId engagementId assessmentId
        deeds next) :
    WatchesAndCloses context.sessionId engagementId assessmentId []
      (requests deeds) := by
  cases ending with
  | exhausted fault goesOn =>
      obtain ⟨checks, watched⟩ := goesOn.exists_replicate
      refine ⟨checks + 1, [], .nothing, ?_⟩
      simp [watched, List.replicate_succ']
  | stopped answer goesOn =>
      obtain ⟨checks, watched⟩ := goesOn.exists_replicate
      refine ⟨checks, _, .stop, ?_⟩
      simp [watched]
  | notCompleted goesOn =>
      obtain ⟨checks, watched⟩ := goesOn.exists_replicate
      refine ⟨checks + 1, [], .nothing, ?_⟩
      simp [watched, List.replicate_succ']
  | completed goesOn _ delivered =>
      obtain ⟨checks, watched⟩ := goesOn.exists_replicate
      cases delivered with
      | notDownloaded fault =>
          refine ⟨checks + 1, _, .delivery "", ?_⟩
          simp [watched, List.replicate_succ']
      | notStored content | delivered content =>
          refine ⟨checks + 1, _, .delivery content, ?_⟩
          simp [watched, List.replicate_succ']

/-- A delivery does what may follow its failures. -/
theorem Delivery.mayFollow
    (delivery : Delivery context engagementId assessmentId deeds next) :
    EachFailure MayFollow deeds := by
  cases delivery <;> simp

/-- After a failed status request the watch goes on, or it is stopped. -/
theorem PlanEnding.mayFollow
    (ending :
      PlanEnding policy context streamId engagementId assessmentId
        deeds next) :
    EachFailure MayFollow deeds := by
  have followed
      {watched : List Deed}
      {failures : Nat}
      (goesOn :
        AssessmentGoesOn policy streamId engagementId assessmentId
          watched failures)
      (next : Request)
      (allowed : next.isStatus = true ∨ next.isStop = true)
      (more : List Request) :
      EachFailure
        (fun failed between => MayFollow failed (between ++ next :: more))
        watched := by
    refine goesOn.mayFollow rfl ?_
    rintro _ ⟨⟩
    exact allowed
  cases ending with
  | exhausted fault goesOn =>
      simpa using followed goesOn _ (.inl rfl) []
  | stopped answer goesOn =>
      simpa using followed goesOn _ (.inr rfl) []
  | notCompleted goesOn =>
      simpa using followed goesOn _ (.inl rfl) []
  | completed goesOn _ delivered =>
      simpa using ⟨followed goesOn _ (.inl rfl) _, delivered.mayFollow⟩

/-- A delivery stores the plan that it has fetched. -/
theorem Delivery.stored
    (delivery : Delivery context engagementId assessmentId deeds next) :
    EachAsked (StoresDownload context.sessionId) deeds := by
  have stores
      {content : String}
      {answer : Except Fault ArtifactLocator} :
      EachAsked (StoresDownload context.sessionId)
        (ServiceCall.exchange (.downloadPlan engagementId assessmentId)
            (.ok content) ++
          Request.exchange
            (.storePlan ⟨context.sessionId, assessmentId, content⟩)
            answer) := by
    refine .append (.of_forall (by simp [StoresDownload])) (.exchange ?_ _)
    rintro _ ⟨⟩
    exact ⟨rfl, engagementId, by simp⟩
  cases delivery with
  | notDownloaded fault =>
      exact .of_forall (by simp [StoresDownload])
  | notStored content fault | delivered content locator =>
      exact .append_of_mono StoresDownload.mono stores
        (.of_forall (by simp))

/-- The end of a plan stores the plan that it has fetched. -/
theorem PlanEnding.stored
    (ending :
      PlanEnding policy context streamId engagementId assessmentId
        deeds next) :
    EachAsked (StoresDownload context.sessionId) deeds := by
  have watches
      {watched : List Deed}
      {failures : Nat}
      (goesOn :
        AssessmentGoesOn policy streamId engagementId assessmentId
          watched failures)
      (request : Request)
      (member : request ∈ requests watched)
      (earlier : List Deed) :
      StoresDownload context.sessionId earlier request := by
    rw [goesOn.requests_eq request member]
    nofun
  cases ending with
  | exhausted fault goesOn | stopped answer goesOn
  | notCompleted goesOn =>
      refine .of_forall ?_
      simpa [StoresDownload, or_imp, forall_and] using watches goesOn
  | @completed watched _ _ report _ goesOn _ delivered =>
      have checks :
          EachAsked (StoresDownload context.sessionId)
            (.said (.placeholder Wording.generatingPlanPlaceholder) ::
              (watched ++
                ServiceCall.exchange
                  (.assessmentStatus engagementId assessmentId)
                  (.ok report) ++
                (assessmentProgress streamId report).map .said)) := by
        refine .of_forall ?_
        simpa [StoresDownload, or_imp, forall_and] using watches goesOn
      exact .append_of_mono StoresDownload.mono checks delivered.stored

/-- Once an assessment is watched, its requests are about it. -/
theorem PlanEnding.named
    {before : Conversation}
    {earlier : List Deed}
    (ending :
      PlanEnding policy context streamId engagementId assessmentId
        deeds next)
    (engagement : KnowsEngagement before.context earlier engagementId)
    (assessment : KnowsAssessment before earlier assessmentId) :
    EachAsked (fun between => NamesKnown before (earlier ++ between))
      deeds := by
  refine .of_forall fun request member between => ?_
  have about := ending.watchesAndCloses.isAbout request member
  constructor
  · intro other names
    rw [about.1 other names]
    exact engagement.mono (List.subset_append_left _ _)
  · intro other names
    rw [about.2 other names]
    exact assessment.mono (List.subset_append_left _ _)

/-! ## What comes before a watch -/

/-- An engagement is created exactly if there is none. -/
theorem EngagementEnsured.requests_eq
    {ensured : Except Fault EngagementId}
    (ensuring : EngagementEnsured context deeds ensured) :
    requests deeds =
      if context.engagementId = none then [.service .createEngagement]
      else [] := by
  cases ensuring with
  | known known | created _ known | notCreated _ known =>
      simp [known]

/-- The engagement that is ensured is known. -/
theorem EngagementEnsured.knows
    (ensured : EngagementEnsured context deeds (.ok engagementId)) :
    KnowsEngagement context deeds engagementId := by
  cases ensured with
  | known known =>
      exact .inl known
  | created engagement unknown =>
      exact .inr ⟨unknown, engagement, by simp, rfl⟩

/-- A start that fails stops in the middle of its requests. -/
theorem AssessmentStart.requests_prefix
    {fault : Fault}
    (start : AssessmentStart utterance context deeds (.error fault)) :
    ∃ engagementId,
      requests deeds <+:
        startOpening context engagementId
          (context.assessmentInput utterance) := by
  cases start with
  | noEngagement ensuring =>
      refine ⟨"", ?_⟩
      rw [ensuring.requests_eq]
      exact List.prefix_append _ _
  | @notUploaded _ engagementId _ ensured =>
      refine ⟨engagementId, ?_⟩
      simp [startOpening, ensured.requests_eq]
  | @notStarted _ engagementId _ ensured =>
      refine ⟨engagementId, ?_⟩
      simp [startOpening, ensured.requests_eq]

/-- What is known once an assessment has been started. -/
structure Started
    (utterance : String)
    (context : Context)
    (deeds : List Deed)
    (engagementId : EngagementId)
    (assessmentId : AssessmentId) : Prop where
  asked :
    requests deeds =
      startOpening context engagementId (context.assessmentInput utterance)
  engagement :
    KnowsEngagement context deeds engagementId
  assessment :
    KnowsAssessment ⟨.awaitingRequirements, context⟩ deeds assessmentId

/-- An assessment that has started did so in the engagement that is known. -/
theorem AssessmentStart.started_of_ok
    {started : Context}
    (start : AssessmentStart utterance context deeds (.ok started))
    (ids :
      Conversation.remoteIds started = .ok (engagementId, assessmentId)) :
    Started utterance context deeds engagementId assessmentId ∧
      started.sessionId = context.sessionId := by
  cases start with
  | @started ensuring _ began ensured =>
      cases ids
      have given :
          .answered
              (.service
                (.startAssessment engagementId
                  (context.assessmentInput utterance)))
              (.ok began) ∈
            ensuring ++
              ServiceCall.exchange (.uploadWorkspace engagementId)
                (.ok ()) ++
              ServiceCall.exchange
                (.startAssessment engagementId
                  (context.assessmentInput utterance))
                (.ok began) := by
        simp
      refine ⟨⟨?_, ?_, .started rfl given⟩, rfl⟩
      · simp [startOpening, ensured.requests_eq]
      · refine ensured.knows.mono ?_
        rw [List.append_assoc]
        exact List.subset_append_left _ _

/-- Ensuring an engagement names known ones only. -/
theorem EngagementEnsured.named
    {ensured : Except Fault EngagementId}
    (ensuring : EngagementEnsured context deeds ensured) :
    EachAsked (NamesKnown ⟨.awaitingRequirements, context⟩) deeds := by
  refine .of_forall fun request member earlier => ?_
  rw [ensuring.requests_eq] at member
  split at member
  · obtain rfl := List.mem_singleton.mp member
    exact .of_naming_nothing rfl rfl earlier
  · cases member

/-- The workspace is uploaded to the engagement that is there by then. -/
theorem EngagementEnsured.upload_named
    (ensured : EngagementEnsured context deeds (.ok engagementId))
    (answer : Except Fault Unit) :
    EachAsked (NamesKnown ⟨.awaitingRequirements, context⟩)
      (deeds ++
        ServiceCall.exchange (.uploadWorkspace engagementId) answer) := by
  refine ensured.named.append (.exchange (.of_engagement ?_ rfl rfl) _)
  exact ensured.knows.mono (List.subset_append_left _ _)

/-- The requests of a start name the engagement that is there by then. -/
theorem AssessmentStart.named
    {outcome : Except Fault Context}
    (start : AssessmentStart utterance context deeds outcome) :
    EachAsked (NamesKnown ⟨.awaitingRequirements, context⟩) deeds := by
  cases start with
  | noEngagement ensuring =>
      exact ensuring.named
  | notUploaded fault ensured =>
      exact ensured.upload_named _
  | notStarted _ ensured | started _ ensured =>
      refine (ensured.upload_named _).append
        (.exchange (.of_engagement ?_ rfl rfl) _)
      exact ensured.knows.mono (by simp)

/-- A start fails with its last request, or not at all. -/
theorem AssessmentStart.mayFollow
    {outcome : Except Fault Context}
    {rest : List Request}
    (start : AssessmentStart utterance context deeds outcome)
    (ends : ∀ fault, outcome = .error fault → rest = []) :
    EachFailure (fun failed between => MayFollow failed (between ++ rest))
      deeds := by
  have succeeds
      {ensuring : List Deed}
      {engagementId : EngagementId}
      {holds : Request → List Request → Prop}
      (ensured : EngagementEnsured context ensuring (.ok engagementId)) :
      EachFailure holds ensuring := by
    cases ensured <;> simp
  cases start with
  | noEngagement ensuring =>
      obtain rfl := ends _ rfl
      cases ensuring
      simp
  | notUploaded fault ensured | notStarted fault ensured =>
      obtain rfl := ends _ rfl
      simp [succeeds ensured]
  | started started ensured =>
      simp [succeeds ensured]

/-- Nothing is stored before an assessment is watched. -/
theorem stored_of_preparation
    (preparation : Preparation deeds)
    (sessionId : String) :
    EachAsked (StoresDownload sessionId) deeds := by
  refine .of_forall fun request member earlier => ?_
  rintro _ rfl
  cases preparation _ (mem_request_of_mem_requests member)

/-! ## Plans -/

/-- The creation of a plan makes the calls of one. -/
theorem PlanCreation.planCalls
    (created : PlanCreation policy utterance context deeds next) :
    PlanCalls ⟨.awaitingRequirements, context⟩ utterance deeds := by
  have announced
      (streamId : String) :
      EachAsked (NamesKnown ⟨.awaitingRequirements, context⟩)
        (Request.exchange .workspaceIsEmpty false ++
          planAnnouncement streamId) := by
    refine .of_forall ?_
    simp only [requests_append, requests_request, planAnnouncement,
      requests_cons_said, requests_nil, List.append_nil,
      List.forall_mem_singleton]
    exact NamesKnown.of_naming_nothing rfl rfl
  cases created with
  | emptyWorkspace =>
      refine ⟨⟨"", "", .of_opening ?_⟩,
        .exchange (.of_naming_nothing rfl rfl []) _,
        stored_of_preparation ?_ _, ?_⟩
      · exact List.prefix_append [Request.workspaceIsEmpty] _
      · simp [Request.isPreparation]
      · simp
  | notStarted streamId start =>
      obtain ⟨engagementId, asked⟩ := start.requests_prefix
      refine ⟨⟨engagementId, "", .of_opening ?_⟩, ?_, ?_, ?_⟩
      · simpa [planAnnouncement, planOpening] using asked
      · refine .append_of_mono NamesKnown.mono
          (.append_of_mono NamesKnown.mono (announced streamId)
            start.named)
          (.of_forall (by simp))
      · refine stored_of_preparation ?_ _
        simpa using start.prepares streamId
      · simpa [planAnnouncement, Request.Fails] using
          start.mayFollow fun _ _ => rfl
  | @started starting ending started engagementId assessmentId _ streamId
      start ids planEnding =>
      obtain ⟨begun, own⟩ := start.started_of_ok ids
      refine ⟨⟨engagementId, assessmentId, ?_⟩, ?_, ?_, ?_⟩
      · have watches := planEnding.watchesAndCloses.after
          (.workspaceIsEmpty :: requests starting)
        rw [begun.asked, own] at watches
        simpa [planAnnouncement, planOpening, begun.asked] using watches
      · refine (announced streamId).append_of_mono NamesKnown.mono
          start.named |>.append ?_
        refine planEnding.named ?_ ?_
        · exact begun.engagement.mono (List.subset_append_right _ _)
        · exact begun.assessment.mono (List.subset_append_right _ _)
      · have stored := planEnding.stored
        rw [own] at stored
        exact .append_of_mono StoresDownload.mono
          (stored_of_preparation (start.prepares streamId) _) stored
      · refine eachFailure_append.mpr ⟨?_, planEnding.mayFollow⟩
        simpa [planAnnouncement, Request.Fails] using
          start.mayFollow fun _ failed => by cases failed

/-- A context that names an assessment knows what is to be revised. -/
theorem known_of_remoteIds
    (ids : remoteIds context = .ok (engagementId, assessmentId))
    (earlier : List Deed) :
    KnowsEngagement context earlier engagementId ∧
      KnowsAssessment ⟨.awaitingRevision, context⟩ earlier
        assessmentId :=
  ⟨.inl (engagementId_of_remoteIds ids),
    .revised rfl (assessmentId_of_remoteIds ids)⟩

/-- A revision is asked of the assessment that is known. -/
theorem update_named
    (ids : remoteIds context = .ok (engagementId, assessmentId))
    (answer : Except Fault JobStatus) :
    EachAsked (NamesKnown ⟨.awaitingRevision, context⟩)
      (revisionAnnouncement streamId ++
        ServiceCall.exchange
          (.updateAssessment engagementId assessmentId (trim utterance))
          answer) := by
  obtain ⟨engagement, assessment⟩ := known_of_remoteIds ids []
  refine .append_of_mono NamesKnown.mono
    (.of_forall (by simp [revisionAnnouncement])) (.exchange ⟨?_, ?_⟩ _)
  · rintro _ ⟨⟩
    exact engagement
  · rintro _ ⟨⟩
    exact assessment

/-- The revision of a plan makes the calls of one. -/
theorem PlanRevision.planCalls
    (revised : PlanRevision policy utterance context deeds next) :
    PlanCalls ⟨.awaitingRevision, context⟩ utterance deeds := by
  cases revised with
  | nothingToRevise streamId unknown =>
      refine ⟨⟨"", "", .of_opening List.nil_prefix⟩,
        .of_forall ?_, .of_forall ?_, ?_⟩ <;>
      simp [revisionAnnouncement]
  | notUpdated streamId fault ids =>
      refine ⟨⟨_, _, .of_opening (List.prefix_refl _)⟩, ?_, ?_, ?_⟩
      · exact .append_of_mono NamesKnown.mono (update_named ids _)
          (.of_forall (by simp))
      · refine stored_of_preparation ?_ _
        simp [revisionAnnouncement, Request.isPreparation]
      · simp [revisionAnnouncement]
  | @updated engagementId assessmentId _ _ streamId status ids ending =>
      refine ⟨⟨engagementId, assessmentId, ?_⟩, ?_, ?_, ?_⟩
      · exact ending.watchesAndCloses.after [_]
      · obtain ⟨engagement, assessment⟩ := known_of_remoteIds ids _
        exact (update_named ids _).append
          (ending.named engagement assessment)
      · refine .append_of_mono StoresDownload.mono
          (stored_of_preparation ?_ _) ending.stored
        simp [revisionAnnouncement, Request.isPreparation]
      · simpa [revisionAnnouncement] using ending.mayFollow

/-! ## What comes of it -/

/-- The responses to questions come from requests for their status. -/
theorem responses_eq_nil_of_noQuestion
    (noQuestion :
      ∀ request ∈ deeds.filterMap Deed.request?,
        request.isInteractionStatus = false) :
    responses deeds = [] := by
  refine List.filterMap_eq_nil_iff.mpr fun deed member => ?_
  unfold Deed.response?
  split
  · cases noQuestion _ (List.mem_filterMap.mpr ⟨_, member, rfl⟩)
  · rfl

/-- The end of a plan gives no response to a question. -/
theorem PlanEnding.responses_eq_nil
    (ending :
      PlanEnding policy context streamId engagementId assessmentId
        deeds next) :
    responses deeds = [] := by
  refine responses_eq_nil_of_noQuestion fun request member => ?_
  have about := ending.isAbout request member
  unfold Request.isInteractionStatus
  split
  · cases about.2
  · rfl

theorem responses_of_preparation
    (preparation : Preparation deeds) :
    responses deeds = [] := by
  refine responses_eq_nil_of_noQuestion fun request member => ?_
  have prepares := preparation request member
  unfold Request.isInteractionStatus
  split
  · cases prepares
  · rfl

/-- The creation of a plan gives no response to a question. -/
theorem PlanCreation.responses_eq_nil
    (created : PlanCreation policy utterance context deeds next) :
    responses deeds = [] := by
  cases created with
  | emptyWorkspace =>
      rfl
  | notStarted streamId start =>
      rw [responses_append,
        responses_of_preparation (start.prepares streamId)]
      rfl
  | started streamId start ids ending =>
      rw [responses_append, ending.responses_eq_nil,
        responses_of_preparation (start.prepares streamId)]
      rfl

/-- The revision of a plan gives no response to a question. -/
theorem PlanRevision.responses_eq_nil
    (revised : PlanRevision policy utterance context deeds next) :
    responses deeds = [] := by
  cases revised with
  | nothingToRevise | notUpdated =>
      rfl
  | updated streamId status ids ending =>
      rw [responses_append, ending.responses_eq_nil]
      rfl

/-- An utterance about a plan asks no question. -/
theorem Handling.responses_eq_nil
    {now : Timestamp}
    {before : Conversation}
    {outcome : Except Fault Conversation}
    (handling : Handling policy utterance now before deeds outcome)
    (plans :
      before.phase = .awaitingRequirements ∨
        before.phase = .awaitingRevision) :
    responses deeds = [] := by
  cases handling with
  | goalTaken | discussed | apologised | refused =>
      rcases plans with plans | plans <;> cases plans
  | planCreated created =>
      exact created.responses_eq_nil
  | planRevised revised =>
      exact revised.responses_eq_nil

/-- An utterance in a phase that plans makes the calls of a plan. -/
theorem Handling.planCalls
    {now : Timestamp}
    {before : Conversation}
    {outcome : Except Fault Conversation}
    (handling : Handling policy utterance now before deeds outcome)
    (plans :
      before.phase = .awaitingRequirements ∨
        before.phase = .awaitingRevision) :
    PlanCalls before utterance deeds := by
  cases handling with
  | goalTaken | discussed | apologised | refused =>
      rcases plans with plans | plans <;> cases plans
  | planCreated created =>
      exact created.planCalls
  | planRevised revised =>
      exact revised.planCalls

theorem Handling.succeeds
    {now : Timestamp}
    {before : Conversation}
    {outcome : Except Fault Conversation}
    (handling : Handling policy utterance now before deeds outcome)
    (plans :
      before.phase = .awaitingRequirements ∨
        before.phase = .awaitingRevision) :
    ∃ next, outcome = .ok next := by
  cases handling with
  | refused =>
      rcases plans with plans | plans <;> cases plans
  | goalTaken | planCreated | planRevised | discussed | apologised =>
      exact ⟨_, rfl⟩

end Conversation

/-- A plan is kept exactly if a request to store it was answered so. -/
theorem mem_keptPlans
    {deeds : List Deed}
    {plan : PlanArtifact}
    {locator : ArtifactLocator} :
    ⟨plan, locator⟩ ∈ keptPlans deeds ↔
      .answered (.storePlan plan) (.ok locator) ∈ deeds := by
  constructor
  · intro member
    obtain ⟨⟨other, answer⟩, handed, kept⟩ := List.mem_filterMap.mp member
    obtain ⟨deed, inDeeds, isStoring⟩ := List.mem_filterMap.mp handed
    unfold Deed.storing? at isStoring
    split at isStoring
    · cases isStoring
      unfold Storing.kept? at kept
      cases answer with
      | error fault =>
          cases kept
      | ok located =>
          cases kept
          exact inDeeds
    · cases isStoring
  · intro member
    exact List.mem_filterMap.mpr
      ⟨⟨plan, .ok locator⟩, List.mem_filterMap.mpr ⟨_, member, rfl⟩, rfl⟩

/-- Whether an utterance about a plan came to one, and what was to be rated. -/
structure PlanOutcome
    (deeds : List Deed)
    (phase : Phase) : Prop where
  discussing :
    phase = .discussingPlan ↔
      ∃ plan locator, .answered (.storePlan plan) (.ok locator) ∈ deeds
  rated :
    ∀ plan locator,
      .answered (.storePlan plan) (.ok locator) ∈ deeds →
      votableAnswers deeds = [plan.content]
  notRated :
    phase ≠ .discussingPlan → votableAnswers deeds = []

theorem PlanOutcome.of_keeping
    {before next : Conversation}
    {deeds : List Deed}
    (plans :
      before.phase = .awaitingRequirements ∨
        before.phase = .awaitingRevision)
    (keeping : Conversation.Keeping before (keptPlans deeds) next)
    (votes :
      votableAnswers deeds =
        (keptPlans deeds).map fun kept => kept.plan.content) :
    PlanOutcome deeds next.phase := by
  generalize all : keptPlans deeds = kept at keeping votes
  cases keeping with
  | nothing discussedBefore =>
      have elsewhere : next.phase ≠ .discussingPlan := by
        intro discussing
        have before := (discussedBefore (.inl discussing)).1
        rcases plans with plans | plans <;>
          rw [plans] at before <;> cases before
      have nothing plan locator :
          .answered (.storePlan plan) (.ok locator) ∉ deeds := by
        rw [← mem_keptPlans, all]
        exact List.not_mem_nil
      exact ⟨by simp [elsewhere, nothing], by simp [nothing],
        fun _ => votes⟩
  | kept plan locator =>
      have only other located :
          .answered (.storePlan other) (.ok located) ∈ deeds ↔
            other = plan ∧ located = locator := by
        rw [← mem_keptPlans, all]
        simp
      exact ⟨by simp [only], by simp [only, votes],
        fun elsewhere => absurd rfl elsewhere⟩

/-- Whether a request hands a plan over. -/
def Request.isStoring : Request → Bool
  | .storePlan _ => true
  | _ => false

/-- A plan is handed over once at most. -/
theorem PlanCalls.storedOnce
    {before : Conversation}
    {utterance : String}
    {deeds : List Deed}
    (calls : PlanCalls before utterance deeds) :
    (requests deeds).countP Request.isStoring ≤ 1 := by
  obtain ⟨engagementId, assessmentId, checks, closing, closes, inOrder⟩ :=
    calls.inOrder
  refine (inOrder.sublist.countP_le).trans ?_
  have opens :
      (planOpening before utterance engagementId assessmentId).countP
          Request.isStoring = 0 := by
    unfold planOpening startOpening
    split
    · rfl
    · split <;> rfl
  have checked :
      (List.replicate checks
            (Request.service
              (.assessmentStatus engagementId assessmentId))).countP
          Request.isStoring = 0 := by
    simp [List.countP_replicate, Request.isStoring]
  rw [List.countP_append, List.countP_append, opens, checked]
  cases closes <;> simp [Request.isStoring]

/--
An utterance about a plan makes its requests in order, whatever the context, the
answers and the moment of a cancellation, and by any moment a beginning of them.
Only an interaction that was told to stop stops an assessment.  Who comes to
discuss the plan has had it stored, and it is the one answer that can be rated.
-/
theorem plan_calls_in_order
    {policy : PollPolicy}
    {before : Conversation}
    {utterance : String}
    {opening : Opening}
    {occurrences : List Occurrence}
    {interaction : Interaction (Except Fault Conversation)}
    (plans :
      before.phase = .awaitingRequirements ∨
        before.phase = .awaitingRevision)
    (handled :
      before.handling? policy (.utterance utterance) opening occurrences =
        some interaction) :
    PlanCalls before utterance interaction.deeds ∧
      (requests interaction.deeds).countP Request.isStoring ≤ 1 ∧
      (∀ request ∈ requests interaction.deeds,
        request.isStop = true → interaction.toldToStop = true) ∧
      ∀ outcome,
        interaction.activity.outcome? = some outcome →
        ∃ next,
          outcome = .ok next ∧ PlanOutcome interaction.deeds next.phase := by
  have reaches := Conversation.handling?_reaches handled
  have calls : PlanCalls before utterance interaction.deeds := by
    obtain ⟨rest, outcome, yields⟩ := reaches.exists_yields
    exact (Conversation.interact_yields yields).planCalls plans |>.of_append
  refine ⟨calls, calls.storedOnce, ?_, ?_⟩
  · intro request asked stop
    exact Conversation.told_of_stop plans handled asked stop
  · intro outcome ended
    rw [Activity.outcome?_eq_some.mp ended] at reaches
    have handling := Conversation.interact_yields reaches
    obtain ⟨next, rfl⟩ := handling.succeeds plans
    refine ⟨next, rfl, .of_keeping plans handling.keeping ?_⟩
    rw [handling.shownInOrder.votes, handling.responses_eq_nil plans,
      List.append_nil]

/-- A revision that completes at once is downloaded, stored and rated. -/
theorem plan_calls_in_order_revision :
    ∃ interaction,
      awaitingOtherVersion.phase = .awaitingRevision ∧
      awaitingOtherVersion.handling? ⟨0, 1⟩ (.utterance "shorter")
          ⟨⟨"M1", ⟨0, 0⟩⟩, false⟩ revisionOccurrences =
        some interaction ∧
      PlanCalls awaitingOtherVersion "shorter" interaction.deeds ∧
      .storePlan otherVersion ∈ requests interaction.deeds ∧
      votableAnswers interaction.deeds = [otherVersion.content] := by
  obtain ⟨calls, -, -, comes⟩ :=
    plan_calls_in_order (.inr rfl) revision_handled
  obtain ⟨next, -, outcome⟩ := comes _ rfl
  have stored :
      .answered (.storePlan otherVersion) (.ok ⟨"plans/A1"⟩) ∈
        revisionDeeds := by
    simp [revisionDeeds]
  refine ⟨_, rfl, revision_handled, calls, ?_, outcome.rated _ _ stored⟩
  simp [revisionDeeds]

/-- A status request that failed can be followed by the stop of the assessment. -/
theorem failed_check_followed_by_stop :
    ∃ occurrences interaction,
      awaitingOtherVersion.handling? ⟨0, 3⟩ (.utterance "shorter")
          ⟨⟨"M1", ⟨0, 0⟩⟩, false⟩ occurrences =
        some interaction ∧
      ¬ EachFailure (fun _ rest => ∀ next ∈ rest.head?, next.isStatus = true)
        interaction.deeds := by
  let status : Request := .service (.assessmentStatus "E1" "A1")
  let stop : Request := .service (.stopAssessment "E1" "A1")
  let occurrences : List Occurrence :=
    [.answered "M1"
        (.service (.updateAssessment "E1" "A1" (trim "shorter")))
        (.ok .inProgress),
      .woken "M1",
      .toldToStop,
      .answered "M1" status (.error (.internal "HTTP 503")),
      .woken "M1",
      .answered "M1" stop (.ok .cancelled)]
  let deeds : List Deed :=
    Conversation.revisionAnnouncement "M1" ++
      (ServiceCall.updateAssessment "E1" "A1" (trim "shorter")).exchange
        (.ok .inProgress) ++
      .said (.placeholder Wording.generatingPlanPlaceholder) ::
      status.exchange (.error (.internal "HTTP 503")) ++
      .said (.answerStream "M1" Wording.cancellingPlan) ::
      stop.exchange (.ok .cancelled) ++
      [.said (.plainAnswer Wording.planCancelled),
        .said .clearedPlaceholder]
  have handled :
      awaitingOtherVersion.handling? ⟨0, 3⟩ (.utterance "shorter")
          ⟨⟨"M1", ⟨0, 0⟩⟩, false⟩ occurrences =
        some ⟨deeds,
          .finished (.ok ⟨.awaitingGoal, awaitingOtherVersion.context⟩),
          true⟩ :=
    rfl
  refine ⟨occurrences, _, handled, ?_⟩
  simp [deeds, Conversation.revisionAnnouncement, status, stop,
    Request.Fails, Request.isStatus, Request.isAssessmentStatus,
    Request.isInteractionStatus]

end AssessmentChat
