import AssessmentChat.Proofs.Apology
import AssessmentChat.Proofs.KeptPlans
import AssessmentChat.Proofs.PlanCancellation
import Mathlib.Data.List.DropRight

namespace AssessmentChat

/-!
# Names that a session recalls

The service gives names to engagements, assessments and interactions, and most
calls pass such a name back.  A session passes back the name of a kind that it
was given last, and it forgets all of them when its conversation starts over.

What a context recalls is said of the names given so far, not of the calls that
gave them.  Every exit of an utterance is looked at once: what it gives, what it
passes back, and what the context that it leaves recalls.
-/

/-- A name that the service gives. -/
inductive RemoteName
  | engagement (engagementId : EngagementId)
  /-- An assessment, with the engagement in which it was started. -/
  | assessment (engagementId : EngagementId) (assessmentId : AssessmentId)
  | interaction (interactionId : InteractionId)
deriving Repr, DecidableEq

namespace RemoteName

@[simp] def engagement? : RemoteName → Option EngagementId
  | .engagement engagementId => some engagementId
  | _ => none

@[simp] def assessment? : RemoteName → Option (EngagementId × AssessmentId)
  | .assessment engagementId assessmentId =>
      some (engagementId, assessmentId)
  | _ => none

@[simp] def interaction? : RemoteName → Option InteractionId
  | .interaction interactionId => some interactionId
  | _ => none

end RemoteName

/-- The name that a deed gives: only a call that succeeds gives one. -/
def Deed.name? : Deed → Option RemoteName
  | .answered (.service .createEngagement) (.ok engagement) =>
      some (.engagement engagement.engagementId)
  | .answered (.service (.startAssessment engagementId _))
      (.ok started) =>
      some (.assessment engagementId started.assessmentId)
  | .answered (.service (.startInteraction _ _)) (.ok started) =>
      some (.interaction started.interactionId)
  | _ => none

/-- The names that the service gives. -/
def namesGiven (deeds : List Deed) : List RemoteName :=
  deeds.filterMap Deed.name?

/-- The name of a kind that was given last. -/
def lastGiven
    (kind : RemoteName → Option α)
    (names : List RemoteName) : Option α :=
  (names.filterMap kind).getLast?

/-- The names that were given since the last assessment was started. -/
def sinceAssessment (names : List RemoteName) : List RemoteName :=
  names.rtakeWhile fun name => name.assessment?.isNone

/--
A context that recalls the last assessment, the engagement in which it was
started and the last interaction since then.
-/
structure Context.Recalls
    (context : Context)
    (names : List RemoteName) : Prop where
  assessment :
    context.assessmentId =
      (lastGiven RemoteName.assessment? names).map Prod.snd
  engagement :
    context.engagementId =
      (lastGiven RemoteName.assessment? names).map Prod.fst
  interaction :
    context.interactionId =
      lastGiven RemoteName.interaction? (sinceAssessment names)
  /-- An engagement that is recalled is the last one. -/
  created :
    ∀ engagementId,
      context.engagementId = some engagementId →
      lastGiven RemoteName.engagement? names = some engagementId

namespace ServiceCall

/-- The engagement that a call names. -/
def engagement? : ServiceCall → Option EngagementId
  | .createEngagement => none
  | .uploadWorkspace engagementId => some engagementId
  | .startAssessment engagementId _ => some engagementId
  | .updateAssessment engagementId _ _ => some engagementId
  | .stopAssessment engagementId _ => some engagementId
  | .assessmentStatus engagementId _ => some engagementId
  | .downloadPlan engagementId _ => some engagementId
  | .startInteraction engagementId _ => some engagementId
  | .interactionStatus engagementId _ => some engagementId
  | .deriveIntent engagementId _ => some engagementId

/-- The assessment that a call names. -/
def assessment? : ServiceCall → Option AssessmentId
  | .updateAssessment _ assessmentId _ => some assessmentId
  | .stopAssessment _ assessmentId => some assessmentId
  | .assessmentStatus _ assessmentId => some assessmentId
  | .downloadPlan _ assessmentId => some assessmentId
  | _ => none

/-- The interaction that a call names. -/
def interaction? : ServiceCall → Option InteractionId
  | .interactionStatus _ interactionId => some interactionId
  | _ => none

/-- A call that names nothing but what was given last. -/
structure NamesLast
    (call : ServiceCall)
    (names : List RemoteName) : Prop where
  engagement :
    ∀ engagementId,
      call.engagement? = some engagementId →
      lastGiven RemoteName.engagement? names = some engagementId
  assessment :
    ∀ assessmentId,
      call.assessment? = some assessmentId →
      (lastGiven RemoteName.assessment? names).map Prod.snd =
        some assessmentId
  interaction :
    ∀ interactionId,
      call.interaction? = some interactionId →
      lastGiven RemoteName.interaction? names = some interactionId

end ServiceCall

/-- Every call names what was given last by the time it is made. -/
def CallsNameLast
    (names : List RemoteName)
    (deeds : List Deed) : Prop :=
  ∀ earlier call later,
    deeds = earlier ++ .asked (.service call) :: later →
    call.NamesLast (names ++ namesGiven earlier)

/-! ## Names given one after another -/

/-- The last name of a kind is the newest one, or else the last one before. -/
@[simp] theorem lastGiven_snoc
    (kind : RemoteName → Option α)
    (names : List RemoteName)
    (name : RemoteName) :
    lastGiven kind (names ++ [name]) =
      (kind name).or (lastGiven kind names) := by
  cases given : kind name <;> simp [lastGiven, given]

/-- The names since an assessment start anew with each assessment. -/
@[simp] theorem sinceAssessment_snoc
    (names : List RemoteName)
    (name : RemoteName) :
    sinceAssessment (names ++ [name]) =
      if name.assessment?.isNone = true then sinceAssessment names ++ [name]
      else [] :=
  List.rtakeWhile_concat ..

/-- The names that are given on two ways are those given on each. -/
@[simp] theorem namesGiven_append
    (earlier later : List Deed) :
    namesGiven (earlier ++ later) =
      namesGiven earlier ++ namesGiven later :=
  List.filterMap_append

/-- Whether the answer to a request can give a name. -/
def Request.givesName : Request → Bool
  | .service .createEngagement => true
  | .service (.startAssessment ..) => true
  | .service (.startInteraction ..) => true
  | _ => false

/-- A deed that asks for no name is given none. -/
theorem Deed.name?_eq_none
    {deed : Deed}
    (quiet :
      ∀ request ∈ deed.request?, request.givesName = false) :
    deed.name? = none := by
  unfold Deed.name?
  split
  · cases quiet _ rfl
  · cases quiet _ rfl
  · cases quiet _ rfl
  · rfl

/-- No name is given without a request for one. -/
theorem namesGiven_eq_nil
    {deeds : List Deed}
    (quiet :
      ∀ request ∈ deeds.filterMap Deed.request?,
        request.givesName = false) :
    namesGiven deeds = [] := by
  refine List.filterMap_eq_nil_iff.mpr ?_
  intro deed member
  refine Deed.name?_eq_none ?_
  intro request isRequest
  exact quiet request (List.mem_filterMap.mpr ⟨deed, member, isRequest⟩)

@[simp] theorem Deed.request?_said
    (notice : Notice) :
    (Deed.said notice).request? = none :=
  rfl

@[simp] theorem Deed.request?_asked
    (request : Request) :
    (Deed.asked request).request? = some request :=
  rfl

@[simp] theorem Deed.request?_answered
    (request : Request)
    (answer : request.Answer) :
    (Deed.answered request answer).request? = some request :=
  rfl

@[simp] theorem mem_requestExchange
    {deed : Deed}
    {request : Request}
    {answer : request.Answer} :
    deed ∈ request.exchange answer ↔
      deed = .asked request ∨ deed = .answered request answer := by
  simp [Request.exchange]

@[simp] theorem mem_callExchange
    {deed : Deed}
    {call : ServiceCall}
    {answer : Except Fault call.Reply} :
    deed ∈ call.exchange answer ↔
      deed = .asked (.service call) ∨
        deed = .answered (.service call) answer :=
  mem_requestExchange

/-- What was asked is among the requests. -/
theorem mem_request_of_asked
    {deeds : List Deed}
    {request : Request}
    (member : .asked request ∈ deeds) :
    request ∈ deeds.filterMap Deed.request? :=
  List.mem_filterMap.mpr ⟨_, member, rfl⟩

/-! ## Calls one after another -/

namespace CallsNameLast

variable
  {names : List RemoteName}
  {earlier later deeds : List Deed}

/-- Operations that name what was last given do so on two ways together. -/
theorem append
    (first : CallsNameLast names earlier)
    (second : CallsNameLast (names ++ namesGiven earlier) later) :
    CallsNameLast names (earlier ++ later) := by
  intro before call after shape
  rcases List.append_eq_append_iff.mp shape with
    ⟨between, rfl, inLater⟩ | ⟨between, inEarlier, rest⟩
  · have named := second between call after inLater
    simpa using named
  · cases between with
    | nil =>
        rw [List.append_nil] at inEarlier
        subst inEarlier
        simpa [namesGiven] using second [] call after rest.symm
    | cons deed between =>
        obtain ⟨rfl, -⟩ := List.cons.inj rest
        exact first before call between inEarlier

/-- What holds of calls holds of the calls made by any moment. -/
theorem of_append
    (calls : CallsNameLast names (earlier ++ later)) :
    CallsNameLast names earlier := by
  intro before call after shape
  refine calls before call (after ++ later) ?_
  rw [shape, List.append_assoc, List.cons_append]

/-- Operations name what was last given if no name is given meanwhile. -/
theorem of_forall
    (given : namesGiven deeds = [])
    (named :
      ∀ call, .asked (.service call) ∈ deeds → call.NamesLast names) :
    CallsNameLast names deeds := by
  intro before call after shape
  have nothing : namesGiven before = [] := by
    rw [shape, namesGiven_append] at given
    exact (List.append_eq_nil_iff.mp given).1
  rw [nothing, List.append_nil]
  exact named call (by simp [shape])

end CallsNameLast

/-- Calls that name what was given last, and a context that recalls it then. -/
structure Recollects
    (names : List RemoteName)
    (deeds : List Deed)
    (context : Context) : Prop where
  calls :
    CallsNameLast names deeds
  recalls :
    context.Recalls (names ++ namesGiven deeds)

namespace Recollects

variable
  {names : List RemoteName}
  {earlier later deeds : List Deed}
  {context : Context}
  {engagementId : EngagementId}

/-- What is recollected at the end is so with the names given before. -/
theorem after
    (recollects : Recollects (names ++ namesGiven earlier) later context)
    (calls : CallsNameLast names earlier) :
    Recollects names (earlier ++ later) context := by
  refine ⟨calls.append recollects.calls, ?_⟩
  rw [namesGiven_append, ← List.append_assoc]
  exact recollects.recalls

/-- Deeds that give no name leave what is recalled. -/
theorem of_quiet
    (recalls : context.Recalls names)
    (quiet :
      ∀ request ∈ deeds.filterMap Deed.request?,
        request.givesName = false)
    (named :
      ∀ call, .service call ∈ deeds.filterMap Deed.request? →
        call.NamesLast names) :
    Recollects names deeds context := by
  have given := namesGiven_eq_nil quiet
  refine ⟨.of_forall given ?_, ?_⟩
  · intro call asked
    exact named call (mem_request_of_asked asked)
  · rwa [given, List.append_nil]

/-- One piece of work after another. -/
theorem followedBy
    {next : Context}
    (first : Recollects names earlier context)
    (second :
      ∀ {names},
        context.Recalls names →
        Recollects names later next) :
    Recollects names (earlier ++ later) next :=
  (second first.recalls).after first.calls

/-- What is asked of nobody but the workspace leaves what is recalled. -/
theorem of_silent
    (recalls : context.Recalls names)
    (silent :
      ∀ call, .service call ∉ deeds.filterMap Deed.request?) :
    Recollects names deeds context := by
  refine .of_quiet recalls ?_ ?_
  · intro request member
    cases request with
    | service call =>
        exact absurd member (silent call)
    | workspaceIsEmpty | storePlan | exportPlan =>
        rfl
  · intro call member
    exact absurd member (silent call)

end Recollects

/-- One operation names what was last given before it. -/
theorem CallsNameLast.exchange
    {names : List RemoteName}
    {call : ServiceCall}
    (named : call.NamesLast names)
    (answer : Except Fault call.Reply) :
    CallsNameLast names (call.exchange answer) := by
  intro before asked after shape
  cases before with
  | nil =>
      cases shape
      simpa [namesGiven] using named
  | cons deed rest =>
      obtain ⟨-, answered⟩ := List.cons.inj shape
      cases rest with
      | nil =>
          cases answered
      | cons next others =>
          obtain ⟨-, nothing⟩ := List.cons.inj answered
          simp at nothing

/-- An operation that fails gives no name. -/
@[simp] theorem namesGiven_failed
    (call : ServiceCall)
    (fault : Fault) :
    namesGiven (call.exchange (.error fault)) = [] := by
  cases call <;> rfl

/-- A call that fails leaves what is recalled. -/
theorem Recollects.failed
    {names : List RemoteName}
    {context : Context}
    {call : ServiceCall}
    (recalls : context.Recalls names)
    (named : call.NamesLast names)
    (fault : Fault) :
    Recollects names (call.exchange (.error fault)) context := by
  refine ⟨.exchange named _, ?_⟩
  rwa [namesGiven_failed, List.append_nil]

/-- An engagement that is created gives its name. -/
@[simp] theorem namesGiven_engagement
    (engagement : Engagement) :
    namesGiven (ServiceCall.exchange .createEngagement (.ok engagement)) =
      [.engagement engagement.engagementId] :=
  rfl

/-- An assessment that is started gives its name. -/
@[simp] theorem namesGiven_assessment
    (engagementId : EngagementId)
    (input : String)
    (started : StartedAssessment) :
    namesGiven
        (ServiceCall.exchange (.startAssessment engagementId input)
          (.ok started)) =
      [.assessment engagementId started.assessmentId] :=
  rfl

namespace Context.Recalls

variable
  {context : Context}
  {names : List RemoteName}

/-- A new session recalls nothing. -/
theorem nothing
    {context : Context}
    (engagement : context.engagementId = none)
    (assessment : context.assessmentId = none)
    (interaction : context.interactionId = none) :
    context.Recalls [] := by
  refine ⟨assessment, engagement, interaction, ?_⟩
  rw [engagement]
  nofun

/-- What is recalled does not depend on the goal or on the apology. -/
theorem congr
    {other : Context}
    (recalls : context.Recalls names)
    (engagement : other.engagementId = context.engagementId)
    (assessment : other.assessmentId = context.assessmentId)
    (interaction : other.interactionId = context.interactionId) :
    other.Recalls names := by
  refine ⟨assessment.trans recalls.assessment,
    engagement.trans recalls.engagement,
    interaction.trans recalls.interaction, ?_⟩
  rw [engagement]
  exact recalls.created

/-- A context with the engagement that was given recalls it. -/
theorem withEngagementGiven
    (recalls : context.Recalls names)
    (unknown : context.engagementId = none)
    (engagementId : EngagementId) :
    context.Recalls (names ++ [.engagement engagementId]) := by
  refine ⟨?_, ?_, ?_, ?_⟩
  · simpa using recalls.assessment
  · simpa using recalls.engagement
  · simpa using recalls.interaction
  · rw [unknown]
    nofun

/-- A context with the assessment that was given recalls it. -/
theorem withAssessmentGiven
    {engagementId : EngagementId}
    (created :
      lastGiven RemoteName.engagement? names = some engagementId)
    (assessmentId : AssessmentId) :
    ((context.withEngagement engagementId).withAssessment
      assessmentId).Recalls
      (names ++ [.assessment engagementId assessmentId]) := by
  refine ⟨?_, ?_, ?_, ?_⟩
  · simp [withAssessment]
  · simp [withAssessment, withEngagement]
  · simp [withAssessment, lastGiven]
  · rintro _ ⟨⟩
    simpa using created

/-- A context with the interaction that was given recalls it. -/
theorem withInteractionGiven
    (recalls : context.Recalls names)
    (interactionId : InteractionId) :
    (context.withInteraction interactionId).Recalls
      (names ++ [.interaction interactionId]) := by
  refine ⟨?_, ?_, ?_, ?_⟩
  · simpa [withInteraction] using recalls.assessment
  · simpa [withInteraction] using recalls.engagement
  · simp [withInteraction]
  · simpa [withInteraction] using recalls.created

/-- An interaction that is recalled is the last one. -/
theorem lastInteraction
    {interactionId : InteractionId}
    (recalls : context.Recalls names)
    (recalled : context.interactionId = some interactionId) :
    lastGiven RemoteName.interaction? names = some interactionId := by
  obtain ⟨earlier, shape⟩ :
      sinceAssessment names <:+ names :=
    List.rtakeWhile_suffix ..
  have since := recalls.interaction.symm.trans recalled
  unfold lastGiven at since ⊢
  rw [← shape, List.filterMap_append, List.getLast?_append, since]
  rfl

/-- A call that names what is recalled names what was given last. -/
theorem namesLast
    {call : ServiceCall}
    (recalls : context.Recalls names)
    (engagement : call.engagement? = context.engagementId)
    (assessment :
      ∀ assessmentId,
        call.assessment? = some assessmentId →
        context.assessmentId = some assessmentId)
    (interaction : call.interaction? = none) :
    call.NamesLast names := by
  refine ⟨?_, ?_, ?_⟩
  · intro engagementId named
    exact recalls.created engagementId (engagement.symm.trans named)
  · intro assessmentId named
    rw [← recalls.assessment]
    exact assessment assessmentId named
  · rw [interaction]
    nofun

end Context.Recalls

/-- A call about nothing but an engagement. -/
theorem ServiceCall.NamesLast.of_engagement
    {call : ServiceCall}
    {names : List RemoteName}
    {engagementId : EngagementId}
    (created :
      lastGiven RemoteName.engagement? names = some engagementId)
    (engagement : call.engagement? = some engagementId)
    (assessment : call.assessment? = none)
    (interaction : call.interaction? = none) :
    call.NamesLast names := by
  refine ⟨?_, ?_, ?_⟩
  · rw [engagement]
    rintro _ ⟨⟩
    exact created
  · rw [assessment]
    nofun
  · rw [interaction]
    nofun

/-- A request to the service that names an engagement and an assessment in it. -/
def Request.IsAbout
    (engagementId : EngagementId)
    (assessmentId : AssessmentId) : Request → Prop
  | .service call =>
      call.engagement? = some engagementId ∧
        call.assessment? = some assessmentId
  | _ => True

theorem engagementId_of_remoteIds
    {context : Context}
    {engagementId : EngagementId}
    {assessmentId : AssessmentId}
    (ids :
      Conversation.remoteIds context = .ok (engagementId, assessmentId)) :
    context.engagementId = some engagementId := by
  unfold Conversation.remoteIds at ids
  split at ids
  next named _ =>
    cases ids
    exact named
  next =>
    cases ids

/-- Deeds about the assessment that is recalled give no name. -/
theorem Recollects.of_about
    {names : List RemoteName}
    {deeds : List Deed}
    {context : Context}
    {engagementId : EngagementId}
    {assessmentId : AssessmentId}
    (recalls : context.Recalls names)
    (ids :
      Conversation.remoteIds context = .ok (engagementId, assessmentId))
    (about :
      ∀ request ∈ deeds.filterMap Deed.request?,
        request.IsAbout engagementId assessmentId) :
    Recollects names deeds context := by
  refine .of_quiet recalls ?_ ?_
  · intro request member
    have isAbout := about request member
    unfold Request.givesName
    split
    · cases isAbout.1
    · cases isAbout.2
    · cases isAbout.2
    · rfl
  · intro call member
    obtain ⟨engagement, assessment⟩ := about (.service call) member
    refine recalls.namesLast ?_ ?_ ?_
    · rw [engagement, engagementId_of_remoteIds ids]
    · intro other named
      rw [Conversation.assessmentId_of_remoteIds ids, ← assessment, named]
    · cases call with
      | interactionStatus =>
          cases assessment
      | _ =>
          rfl

/-! ## What each exit passes back and leaves -/

namespace Conversation

variable
  {policy : PollPolicy}
  {utterance streamId : String}
  {now : Timestamp}
  {names : List RemoteName}
  {deeds : List Deed}
  {context : Context}
  {engagementId : EngagementId}
  {assessmentId : AssessmentId}
  {next : Conversation}

/-- The engagement that is ensured is the last one given. -/
theorem EngagementEnsured.recollects
    {ensured : Except Fault EngagementId}
    (ensuring : EngagementEnsured context deeds ensured)
    (recalls : context.Recalls names) :
    Recollects names deeds context ∧
      ∀ engagementId,
        ensured = .ok engagementId →
        lastGiven RemoteName.engagement? (names ++ namesGiven deeds) =
          some engagementId := by
  have creates : ServiceCall.createEngagement.NamesLast names :=
    ⟨nofun, nofun, nofun⟩
  cases ensuring with
  | @known engagementId known =>
      refine ⟨.of_quiet recalls (by simp) (by simp), ?_⟩
      rintro _ ⟨⟩
      simpa [namesGiven] using recalls.created engagementId known
  | created engagement unknown =>
      refine ⟨⟨.exchange creates _, ?_⟩, ?_⟩
      · rw [namesGiven_engagement]
        exact recalls.withEngagementGiven unknown _
      · rintro _ ⟨⟩
        rw [namesGiven_engagement, lastGiven_snoc]
        rfl
  | notCreated fault unknown =>
      refine ⟨⟨.exchange creates _, ?_⟩, nofun⟩
      rwa [namesGiven_failed, List.append_nil]

/-- By the upload of the workspace the engagement is the last one given. -/
theorem EngagementEnsured.uploads
    (ensured : EngagementEnsured context deeds (.ok engagementId))
    (recalls : context.Recalls names) :
    let uploaded :=
      deeds ++ ServiceCall.exchange (.uploadWorkspace engagementId) (.ok ())
    Recollects names uploaded context ∧
      lastGiven RemoteName.engagement? (names ++ namesGiven uploaded) =
        some engagementId := by
  obtain ⟨recollects, created⟩ := ensured.recollects recalls
  have last := created engagementId rfl
  have named :
      (ServiceCall.uploadWorkspace engagementId).NamesLast
        (names ++ namesGiven deeds) :=
    .of_engagement last rfl rfl rfl
  have given :
      namesGiven
          (ServiceCall.exchange (.uploadWorkspace engagementId)
            (.ok ())) = [] :=
    rfl
  constructor
  · refine .after ⟨.exchange named _, ?_⟩ recollects.calls
    rw [given, List.append_nil]
    exact recollects.recalls
  · rw [namesGiven_append, given, List.append_nil]
    exact last

/-- A start recalls what it was given, or leaves what was recalled before. -/
theorem AssessmentStart.recollects
    {outcome : Except Fault Context}
    (start : AssessmentStart utterance context deeds outcome)
    (recalls : context.Recalls names) :
    Recollects names deeds (outcome.toOption.getD context) := by
  cases start with
  | noEngagement ensuring =>
      exact (ensuring.recollects recalls).1
  | notUploaded fault ensured =>
      obtain ⟨recollects, created⟩ := ensured.recollects recalls
      have last := created _ rfl
      exact .after
        (.failed recollects.recalls (.of_engagement last rfl rfl rfl) fault)
        recollects.calls
  | notStarted fault ensured =>
      obtain ⟨recollects, last⟩ := ensured.uploads recalls
      exact .after
        (.failed recollects.recalls (.of_engagement last rfl rfl rfl) fault)
        recollects.calls
  | started started ensured =>
      obtain ⟨recollects, last⟩ := ensured.uploads recalls
      refine .after ⟨.exchange (.of_engagement last rfl rfl rfl) _, ?_⟩
        recollects.calls
      rw [namesGiven_assessment]
      exact .withAssessmentGiven last _

/-- The delivery of a plan is about its engagement and assessment only. -/
theorem Delivery.isAbout
    (delivery : Delivery context engagementId assessmentId deeds next) :
    ∀ request ∈ deeds.filterMap Deed.request?,
      request.IsAbout engagementId assessmentId := by
  cases delivery <;>
    simp [Request.IsAbout, ServiceCall.engagement?,
      ServiceCall.assessment?, or_imp, forall_and]

/-- An assessment that is watched, and what follows it, is about one assessment. -/
theorem PlanEnding.isAbout
    (ending :
      PlanEnding policy context streamId engagementId assessmentId
        deeds next) :
    ∀ request ∈ deeds.filterMap Deed.request?,
      request.IsAbout engagementId assessmentId := by
  have watches
      {watched : List Deed}
      {failures : Nat}
      (goesOn :
        AssessmentGoesOn policy streamId engagementId assessmentId
          watched failures) :
      ∀ request ∈ watched.filterMap Deed.request?,
        request.IsAbout engagementId assessmentId := by
    intro request member
    rw [goesOn.request_eq request member]
    exact ⟨rfl, rfl⟩
  cases ending with
  | exhausted fault goesOn | stopped answer goesOn
  | notCompleted goesOn =>
      simpa [Request.IsAbout, ServiceCall.engagement?,
        ServiceCall.assessment?, or_imp, forall_and] using watches goesOn
  | completed goesOn _ delivery =>
      simpa [Request.IsAbout, ServiceCall.engagement?,
        ServiceCall.assessment?, or_imp, forall_and] using
        And.intro (watches goesOn) delivery.isAbout

/-- The end of a plan leaves the names as they are. -/
theorem PlanEnding.context_eq
    (ending :
      PlanEnding policy context streamId engagementId assessmentId
        deeds next) :
    next.context = context := by
  cases ending with
  | exhausted | stopped | notCompleted =>
      rfl
  | completed _ _ delivery =>
      cases delivery <;> rfl

/-- The end of a plan recollects what was given. -/
theorem PlanEnding.recollects
    (ending :
      PlanEnding policy context streamId engagementId assessmentId
        deeds next)
    (ids : remoteIds context = .ok (engagementId, assessmentId))
    (recalls : context.Recalls names) :
    Recollects names deeds next.context := by
  rw [ending.context_eq]
  exact .of_about recalls ids ending.isAbout

/-- The creation of a plan recollects what was given. -/
theorem PlanCreation.recollects
    (created : PlanCreation policy utterance context deeds next)
    (recalls : context.Recalls names) :
    Recollects names deeds next.context := by
  have announced (streamId : String) :
      Recollects names
        (Request.exchange .workspaceIsEmpty false ++
          planAnnouncement streamId)
        context :=
    .of_silent recalls (by simp [planAnnouncement])
  cases created with
  | emptyWorkspace =>
      exact .of_silent (recalls.congr rfl rfl rfl) (by simp)
  | notStarted streamId start =>
      have started :=
        (announced streamId).followedBy fun recalls =>
          start.recollects recalls
      exact started.followedBy fun recalls =>
        .of_silent recalls (by simp)
  | started streamId start ids ending =>
      have started :=
        (announced streamId).followedBy fun recalls =>
          start.recollects recalls
      exact started.followedBy fun recalls =>
        ending.recollects ids recalls

/-- The revision of a plan recollects what was given. -/
theorem PlanRevision.recollects
    (revised : PlanRevision policy utterance context deeds next)
    (recalls : context.Recalls names) :
    Recollects names deeds next.context := by
  have announced (streamId : String) :
      Recollects names (revisionAnnouncement streamId) context :=
    .of_silent recalls (by simp [revisionAnnouncement])
  have updates
      {engagementId : EngagementId}
      {assessmentId : AssessmentId}
      {names : List RemoteName}
      (ids : remoteIds context = .ok (engagementId, assessmentId))
      (recalls : context.Recalls names)
      (answer : Except Fault JobStatus) :
      Recollects names
        (ServiceCall.exchange
          (.updateAssessment engagementId assessmentId (trim utterance))
          answer)
        context := by
    refine .of_about recalls ids ?_
    simp [Request.IsAbout, ServiceCall.engagement?, ServiceCall.assessment?]
  cases revised with
  | nothingToRevise streamId unnamed =>
      exact (announced streamId).followedBy fun recalls =>
        .of_silent recalls (by simp)
  | notUpdated streamId fault ids =>
      have updated :=
        (announced streamId).followedBy fun recalls =>
          updates ids recalls (.error fault)
      exact updated.followedBy fun recalls =>
        .of_silent recalls (by simp)
  | updated streamId status ids ending =>
      have updated :=
        (announced streamId).followedBy fun recalls =>
          updates ids recalls (.ok status)
      exact updated.followedBy fun recalls =>
        ending.recollects ids recalls

/-- The end of a response asks for the status of its interaction only. -/
theorem ResponseEnding.request_eq
    {interactionId : InteractionId}
    (ending :
      ResponseEnding policy context streamId engagementId interactionId
        deeds next) :
    ∀ request ∈ deeds.filterMap Deed.request?,
      request =
        .service (.interactionStatus engagementId interactionId) := by
  cases ending with
  | exhausted _ goesOn | stopped goesOn | answered goesOn =>
      simpa [or_imp, forall_and] using goesOn.request_eq

/-- The end of a response leaves the names as they are. -/
theorem ResponseEnding.context_eq
    {interactionId : InteractionId}
    (ending :
      ResponseEnding policy context streamId engagementId interactionId
        deeds next) :
    next.context = context := by
  cases ending <;> rfl

/-- The end of a response recollects what was given. -/
theorem ResponseEnding.recollects
    {interactionId : InteractionId}
    (ending :
      ResponseEnding policy context streamId engagementId interactionId
        deeds next)
    (engagement : context.engagementId = some engagementId)
    (interaction : context.interactionId = some interactionId)
    (recalls : context.Recalls names) :
    Recollects names deeds next.context := by
  rw [ending.context_eq]
  refine .of_quiet recalls ?_ ?_
  · intro request member
    rw [ending.request_eq request member]
    rfl
  · intro call member
    cases ending.request_eq (.service call) member
    refine ⟨?_, nofun, ?_⟩
    · rintro _ ⟨⟩
      exact recalls.created engagementId engagement
    · rintro _ ⟨⟩
      exact recalls.lastInteraction interaction

theorem engagementId_of_followUpEngagement
    (known : followUpEngagement context = .ok engagementId) :
    context.engagementId = some engagementId := by
  unfold followUpEngagement at known
  split at known
  next named =>
    cases known
    exact named
  next =>
    cases known

/-- The discussion of a plan recollects what was given. -/
theorem Discussion.recollects
    (discussed : Discussion policy utterance context deeds next)
    (recalls : context.Recalls names) :
    Recollects names deeds next.context := by
  have derives
      {engagementId : EngagementId}
      (known : followUpEngagement context = .ok engagementId)
      (answer : Except Fault Intent) :
      Recollects names
        (ServiceCall.exchange
          (.deriveIntent engagementId (trim utterance)) answer)
        context := by
    have engagement := engagementId_of_followUpEngagement known
    refine .of_quiet recalls ?_ ?_
    · simp [Request.givesName]
    · intro call member
      have same : call = .deriveIntent engagementId (trim utterance) := by
        simpa [eq_comm] using member
      subst same
      exact recalls.namesLast engagement.symm nofun rfl
  have announces
      {engagementId : EngagementId}
      (known : followUpEngagement context = .ok engagementId)
      (streamId : String) :
      Recollects names
        (ServiceCall.exchange
            (.deriveIntent engagementId (trim utterance))
            (.ok .question) ++
          [.said (.answerStream streamId Wording.generatingResponse),
            .said (.placeholder Wording.generatingResponsePlaceholder)])
        context :=
    (derives known _).followedBy fun recalls =>
      .of_silent recalls (by simp)
  have names_last
      {engagementId : EngagementId}
      {names : List RemoteName}
      (known : followUpEngagement context = .ok engagementId)
      (recalls : context.Recalls names) :
      (ServiceCall.startInteraction engagementId (trim utterance)).NamesLast
        names :=
    recalls.namesLast (engagementId_of_followUpEngagement known).symm
      nofun rfl
  cases discussed with
  | nothingToDiscuss =>
      exact .of_silent recalls (by simp)
  | notUnderstood fault known =>
      exact (derives known _).followedBy fun recalls =>
        .of_silent recalls (by simp)
  | revision known | unclear known =>
      exact (derives known _).followedBy fun recalls =>
        .of_silent recalls (by simp)
  | newAnalysis known =>
      exact (derives known _).followedBy fun recalls =>
        .of_silent (recalls.congr rfl rfl rfl) (by simp)
  | notTakenUp streamId fault known =>
      have refused :=
        (announces known streamId).followedBy fun recalls =>
          .failed recalls (names_last known recalls) fault
      exact refused.followedBy fun recalls =>
        .of_silent recalls (by simp)
  | takenUp streamId started known ending =>
      have taken :=
        (announces known streamId).followedBy fun recalls =>
          ⟨.exchange (names_last known recalls) (.ok started),
            recalls.withInteractionGiven started.interactionId⟩
      exact taken.followedBy fun recalls =>
        ending.recollects (engagementId_of_followUpEngagement known) rfl
          recalls

/-- An utterance that does not start over passes back what was given last. -/
theorem Handling.recollects
    {conversation : Conversation}
    (handling :
      Handling policy utterance now conversation deeds (.ok next))
    (goesOn : conversation.phase ≠ .errored)
    (recalls : conversation.context.Recalls names) :
    Recollects names deeds next.context := by
  cases handling with
  | goalTaken context =>
      exact .of_silent (recalls.congr rfl rfl rfl) (by simp)
  | planCreated created =>
      exact created.recollects recalls
  | planRevised revised =>
      exact revised.recollects recalls
  | discussed discussed =>
      exact discussed.recollects recalls
  | apologised =>
      exact absurd rfl goesOn

/-! ## Engagements and starts -/

/-- The end of a plan creates no engagement. -/
theorem PlanEnding.creates_nothing
    (ending :
      PlanEnding policy context streamId engagementId assessmentId
        deeds next) :
    .service .createEngagement ∉ deeds.filterMap Deed.request? := by
  intro member
  obtain ⟨unnamed, -⟩ := ending.isAbout _ member
  cases unnamed

/-- The end of a response creates no engagement. -/
theorem ResponseEnding.creates_nothing
    {interactionId : InteractionId}
    (ending :
      ResponseEnding policy context streamId engagementId interactionId
        deeds next) :
    .service .createEngagement ∉ deeds.filterMap Deed.request? := by
  intro member
  cases ending.request_eq _ member

/-- An assessment in a known engagement creates none. -/
theorem AssessmentStart.creates_nothing
    {outcome : Except Fault Context}
    (start : AssessmentStart utterance context deeds outcome)
    (known : context.engagementId.isSome = true) :
    .service .createEngagement ∉ deeds.filterMap Deed.request? := by
  have ensured
      {ensuring : List Deed}
      {outcome : Except Fault EngagementId}
      (ensured : EngagementEnsured context ensuring outcome) :
      ensuring = [] := by
    cases ensured with
    | known =>
        rfl
    | created _ unknown | notCreated _ unknown =>
        rw [unknown] at known
        cases known
  cases start with
  | noEngagement ensuring =>
      simp [ensured ensuring]
  | notUploaded _ ensuring | notStarted _ ensuring
  | started _ ensuring =>
      simp [ensured ensuring]

/-- An engagement that is known is not created again. -/
theorem Handling.creates_nothing
    {conversation : Conversation}
    {outcome : Except Fault Conversation}
    (handling :
      Handling policy utterance now conversation deeds outcome)
    (known : conversation.context.engagementId.isSome = true) :
    .service .createEngagement ∉ deeds.filterMap Deed.request? := by
  cases handling with
  | goalTaken | apologised | refused =>
      simp
  | planCreated created =>
      cases created with
      | emptyWorkspace =>
          simp
      | notStarted streamId start =>
          have nothing := start.creates_nothing known
          simpa [planAnnouncement] using nothing
      | started streamId start _ ending =>
          have nothing := start.creates_nothing known
          simpa [planAnnouncement, or_imp, forall_and] using
            And.intro nothing ending.creates_nothing
  | planRevised revised =>
      cases revised with
      | nothingToRevise | notUpdated =>
          simp [revisionAnnouncement]
      | updated streamId status _ ending =>
          simpa [revisionAnnouncement, or_imp, forall_and] using
            ending.creates_nothing
  | discussed discussed =>
      cases discussed with
      | takenUp streamId started _ ending =>
          simpa [or_imp, forall_and] using ending.creates_nothing
      | nothingToDiscuss | notUnderstood | notTakenUp | revision
      | newAnalysis | unclear =>
          simp

/-- Only an apology counts as a start. -/
theorem Handling.traceId_eq
    {conversation : Conversation}
    (handling :
      Handling policy utterance now conversation deeds (.ok next))
    (goesOn : conversation.phase ≠ .errored) :
    next.context.traceId = conversation.context.traceId := by
  cases handling with
  | goalTaken =>
      rfl
  | apologised =>
      exact absurd rfl goesOn
  | planCreated created =>
      cases created with
      | emptyWorkspace | notStarted =>
          rfl
      | started _ start _ ending =>
          rw [ending.context_eq]
          cases start
          rfl
  | planRevised revised =>
      cases revised with
      | nothingToRevise | notUpdated =>
          rfl
      | updated _ _ _ ending =>
          rw [ending.context_eq]
  | discussed discussed =>
      cases discussed with
      | takenUp _ _ _ ending =>
          rw [ending.context_eq]
          rfl
      | nothingToDiscuss | notUnderstood | notTakenUp | revision
      | newAnalysis | unclear =>
          rfl

end Conversation

end AssessmentChat
