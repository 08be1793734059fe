import AssessmentChat.Controller
import AssessmentChat.Proofs.ProcedureCourse

namespace AssessmentChat

/-!
# Blindness to faults

Two procedures are alike when they go the same way as long as their requests are
answered alike, that is, by the same values or by whatever faults.  A procedure
that is alike to itself takes no notice of what a fault says: it publishes and
asks the same whichever faults it meets.

The handling of an utterance is blind in this way, and so is the saving of a plan
but for the fault that it gives back.
-/

/-- Two outcomes that are one value, or two faults. -/
inductive SameButFault : Except Fault α → Except Fault α → Prop where
  | ok
      (value : α) :
      SameButFault (.ok value) (.ok value)
  | error
      (fault other : Fault) :
      SameButFault (.error fault) (.error other)

/-- An outcome is the same as itself. -/
theorem SameButFault.refl
    (outcome : Except Fault α) :
    SameButFault outcome outcome := by
  cases outcome with
  | ok value =>
      exact .ok value
  | error fault =>
      exact .error fault fault

/-- What is made of a value leaves outcomes the same but for the fault. -/
theorem SameButFault.map
    {outcome other : Except Fault α}
    (same : SameButFault outcome other)
    (change : α → β) :
    SameButFault (outcome.map change) (other.map change) := by
  cases same with
  | ok value =>
      exact .ok (change value)
  | error fault fault' =>
      exact .error fault fault'

/-- Two answers to a request that differ at most in the fault that they report. -/
def Request.AnsweredAlike :
    (request : Request) → request.Answer → request.Answer → Prop
  | .service _, answer, other => SameButFault answer other
  | .storePlan _, answer, other => SameButFault answer other
  | .exportPlan .., answer, other => SameButFault answer other
  | .workspaceIsEmpty, answer, other => answer = other

/-- An answer is like itself. -/
theorem Request.AnsweredAlike.refl
    (request : Request)
    (answer : request.Answer) :
    request.AnsweredAlike answer answer := by
  cases request with
  | service | storePlan | exportPlan =>
      exact SameButFault.refl answer
  | workspaceIsEmpty =>
      exact rfl

/-- Two procedures that go the same way and come to results that `same` relates. -/
inductive Procedure.Alike (same : α → α → Prop) :
    Procedure α → Procedure α → Prop where
  | finish
      {result other : α} :
      same result other →
      Alike same (.finish result) (.finish other)
  | publish
      (notice : Notice)
      {next other : Procedure α} :
      Alike same next other →
      Alike same (.publish notice next) (.publish notice other)
  | nameStream
      {next other : String → Procedure α} :
      (∀ name, Alike same (next name) (other name)) →
      Alike same (.nameStream next) (.nameStream other)
  | ask
      {request : Request}
      {next other : request.Answer → Procedure α} :
      (∀ answer answer',
        request.AnsweredAlike answer answer' →
        Alike same (next answer) (other answer')) →
      Alike same (.ask request next) (.ask request other)
  | watch
      {call : ServiceCall}
      {isTerminal : call.Reply → Bool}
      {report : call.Reply → List Notice}
      {next other :
        Except Fault (PollOutcome call.Reply) → Procedure α} :
      (∀ outcome outcome',
        SameButFault outcome outcome' →
        Alike same (next outcome) (other outcome')) →
      Alike same (.watch call isTerminal report next)
        (.watch call isTerminal report other)

/-- Two activities that stand at the same point and go on alike. -/
inductive Activity.Alike (same : α → α → Prop) :
    Activity α → Activity α → Prop where
  | finished
      {result other : α} :
      same result other →
      Alike same (.finished result) (.finished other)
  | asking
      {request : Request}
      {next other : request.Answer → Procedure α} :
      (∀ answer answer',
        request.AnsweredAlike answer answer' →
        (next answer).Alike same (other answer')) →
      Alike same (.asking request next) (.asking request other)
  | pausing
      {call : ServiceCall}
      {isTerminal : call.Reply → Bool}
      {report : call.Reply → List Notice}
      (failures : Nat)
      {next other :
        Except Fault (PollOutcome call.Reply) → Procedure α} :
      (∀ outcome outcome',
        SameButFault outcome outcome' →
        (next outcome).Alike same (other outcome')) →
      Alike same (.pausing ⟨call, isTerminal, report, failures, next⟩)
        (.pausing ⟨call, isTerminal, report, failures, other⟩)
  | checking
      {call : ServiceCall}
      {isTerminal : call.Reply → Bool}
      {report : call.Reply → List Notice}
      (failures : Nat)
      {next other :
        Except Fault (PollOutcome call.Reply) → Procedure α} :
      (∀ outcome outcome',
        SameButFault outcome outcome' →
        (next outcome).Alike same (other outcome')) →
      Alike same (.checking ⟨call, isTerminal, report, failures, next⟩)
        (.checking ⟨call, isTerminal, report, failures, other⟩)

/-- Two stretches of which the same is seen. -/
structure Stretch.Alike
    (same : α → α → Prop)
    (stretch other : Stretch α) : Prop where
  notices :
    stretch.notices = other.notices
  namedStream :
    stretch.namedStream = other.namedStream
  reached :
    stretch.reached.Alike same other.reached

namespace Procedure

variable
  {same : α → α → Prop}
  {sameNext : β → β → Prop}

/-- A procedure that is alike to itself, with one and the same result. -/
abbrev FaultBlind (procedure : Procedure α) : Prop :=
  procedure.Alike Eq procedure

namespace Alike

/-- Procedures that are alike are so when they go on alike. -/
theorem bind
    {procedure other : Procedure α}
    {next next' : α → Procedure β}
    (alike : procedure.Alike same other)
    (nextAlike :
      ∀ result result',
        same result result' →
        (next result).Alike sameNext (next' result')) :
    (procedure >>= next).Alike sameNext (other >>= next') := by
  induction alike with
  | finish results =>
      exact nextAlike _ _ results
  | publish notice _ inductionHypothesis =>
      exact .publish notice inductionHypothesis
  | nameStream _ inductionHypothesis =>
      exact .nameStream inductionHypothesis
  | ask _ inductionHypothesis =>
      exact .ask inductionHypothesis
  | watch _ inductionHypothesis =>
      exact .watch inductionHypothesis

/-- Alike procedures with one result are one procedure. -/
theorem eq
    {procedure other : Procedure α}
    (alike : procedure.Alike Eq other) :
    procedure = other := by
  induction alike with
  | finish results =>
      rw [results]
  | publish notice _ inductionHypothesis =>
      rw [inductionHypothesis]
  | nameStream _ inductionHypothesis =>
      rw [funext inductionHypothesis]
  | ask _ inductionHypothesis =>
      rw [funext fun answer =>
        inductionHypothesis answer answer (.refl _ answer)]
  | watch _ inductionHypothesis =>
      rw [funext fun outcome =>
        inductionHypothesis outcome outcome (.refl outcome)]

/-- Alike procedures run alike to where they have to wait. -/
theorem advance
    {procedure other : Procedure α}
    (alike : procedure.Alike same other)
    (freshName : String) :
    (procedure.advance freshName).Alike same
      (other.advance freshName) := by
  induction alike with
  | finish results =>
      exact ⟨rfl, rfl, .finished results⟩
  | publish notice _ inductionHypothesis =>
      obtain ⟨notices, named, reached⟩ := inductionHypothesis
      exact ⟨congrArg (notice :: ·) notices, named, reached⟩
  | nameStream _ inductionHypothesis =>
      obtain ⟨notices, -, reached⟩ := inductionHypothesis freshName
      exact ⟨notices, rfl, reached⟩
  | ask alike =>
      exact ⟨rfl, rfl, .asking alike⟩
  | watch alike =>
      exact ⟨rfl, rfl, .pausing 0 alike⟩

/-- A step that can fail may fail with whatever faults. -/
theorem exceptBind
    {first first' : ExceptT Fault Procedure α}
    {next next' : α → ExceptT Fault Procedure β}
    (alike : first.run.Alike SameButFault first'.run)
    (nextAlike :
      ∀ result, (next result).run.Alike SameButFault (next' result).run) :
    (first >>= next).run.Alike SameButFault (first' >>= next').run := by
  refine alike.bind ?_
  intro outcome outcome' outcomes
  cases outcomes with
  | ok result =>
      exact nextAlike result
  | error fault other =>
      exact .finish (.error fault other)

/-- An operation may fail with any fault; only what follows a reply has to be alike. -/
theorem exceptCall
    {asked : ServiceCall}
    {next next' : asked.Reply → ExceptT Fault Procedure β}
    (nextAlike :
      ∀ reply, (next reply).run.Alike SameButFault (next' reply).run) :
    (ExceptT.mk (call asked) >>= next).run.Alike SameButFault
      (ExceptT.mk (call asked) >>= next').run := by
  have alike :
      (ExceptT.mk (call asked)).run.Alike SameButFault
        (ExceptT.mk (call asked)).run :=
    .ask fun _ _ answers => .finish answers
  exact alike.exceptBind nextAlike

end Alike

namespace FaultBlind

theorem bind
    {procedure : Procedure α}
    {next : α → Procedure β}
    (blind : procedure.FaultBlind)
    (nextBlind : ∀ result, (next result).FaultBlind) :
    (procedure >>= next).FaultBlind := by
  refine Alike.bind blind ?_
  rintro result _ rfl
  exact nextBlind result

theorem map
    {procedure : Procedure α}
    (blind : procedure.FaultBlind)
    (change : α → β) :
    (change <$> procedure).FaultBlind :=
  blind.bind fun _ => .finish rfl

theorem say
    (notice : Notice) :
    (say notice).FaultBlind :=
  .publish notice (.finish rfl)

theorem sayAll
    (notices : List Notice) :
    (sayAll notices).FaultBlind := by
  induction notices with
  | nil =>
      exact .finish rfl
  | cons notice rest inductionHypothesis =>
      exact .publish notice inductionHypothesis

/-- What comes after a call must not depend on the fault that it meets. -/
theorem call
    {asked : ServiceCall}
    {next : Except Fault asked.Reply → Procedure α}
    (answered : ∀ reply, (next (.ok reply)).FaultBlind)
    (failed :
      ∀ fault other, (next (.error fault)).Alike Eq (next (.error other))) :
    (call asked >>= next).FaultBlind := by
  refine .ask ?_
  intro answer answer' answers
  cases answers with
  | ok reply =>
      exact answered reply
  | error fault other =>
      exact failed fault other

/-- What comes after a watch must not depend on the fault that ended it. -/
theorem watchJob
    {asked : ServiceCall}
    {isTerminal : asked.Reply → Bool}
    {report : asked.Reply → List Notice}
    {next : Except Fault (PollOutcome asked.Reply) → Procedure α}
    (ended : ∀ outcome, (next (.ok outcome)).FaultBlind)
    (givenUp :
      ∀ fault other, (next (.error fault)).Alike Eq (next (.error other))) :
    (watchJob asked isTerminal report >>= next).FaultBlind := by
  refine .watch ?_
  intro outcome outcome' outcomes
  cases outcomes with
  | ok outcome =>
      exact ended outcome
  | error fault other =>
      exact givenUp fault other

end FaultBlind

end Procedure

namespace Activity.Alike

variable
  {same : α → α → Prop}
  {policy : PollPolicy}
  {freshName : String}
  {activity other : Activity α}
  {stretch : Stretch α}

/-- Activities that are alike with equal results are one. -/
theorem eq
    {activity other : Activity α}
    (alike : activity.Alike Eq other) :
    activity = other := by
  cases alike with
  | finished results =>
      rw [results]
  | asking alike =>
      rw [funext fun answer => (alike answer answer (.refl _ answer)).eq]
  | pausing failures alike | checking failures alike =>
      rw [funext fun outcome => (alike outcome outcome (.refl outcome)).eq]

/-- Activities that are alike have the same request under way. -/
theorem inFlight?_eq
    (alike : activity.Alike same other) :
    activity.inFlight? = other.inFlight? := by
  cases alike <;> rfl

/-- A delay leads alike activities alike ways. -/
theorem wake
    {cancelled : Bool}
    (alike : activity.Alike same other)
    (woken : activity.wake? freshName cancelled = some stretch) :
    ∃ stretch',
      other.wake? freshName cancelled = some stretch' ∧
        stretch.Alike same stretch' := by
  cases alike with
  | finished | asking | checking =>
      cases woken
  | pausing failures alike =>
      cases cancelled with
      | true =>
          cases woken
          have ended :=
            alike (.ok .cancelled) (.ok .cancelled) (.refl _)
          exact ⟨_, rfl, ended.advance freshName⟩
      | false =>
          cases woken
          exact ⟨_, rfl, rfl, rfl, .checking failures alike⟩

/-- A status request that fails goes on alike, or the watch is given up alike. -/
theorem receive_watched
    {call : ServiceCall}
    {isTerminal : call.Reply → Bool}
    {report : call.Reply → List Notice}
    {failures : Nat}
    {next next' : Except Fault (PollOutcome call.Reply) → Procedure α}
    {answer answer' : Except Fault call.Reply}
    (alike :
      ∀ outcome outcome',
        SameButFault outcome outcome' →
        (next outcome).Alike same (next' outcome'))
    (answers : SameButFault answer answer') :
    (Watch.receive policy freshName
        ⟨call, isTerminal, report, failures, next⟩ answer).Alike same
      (Watch.receive policy freshName
        ⟨call, isTerminal, report, failures, next'⟩ answer') := by
  cases answers with
  | ok value =>
      cases seen : isTerminal value with
      | true =>
          simp only [Watch.receive, PollPolicy.judge, seen]
          exact (alike _ _ (.refl (.ok (.terminal value)))).advance freshName
      | false =>
          simp only [Watch.receive, PollPolicy.judge, seen]
          exact ⟨rfl, rfl, .pausing 0 alike⟩
  | error fault fault' =>
      by_cases enough : policy.maxConsecutiveErrors ≤ failures + 1
      · simp only [Watch.receive, PollPolicy.judge, enough, ↓reduceIte]
        exact (alike _ _ (.error _ _)).advance freshName
      · simp only [Watch.receive, PollPolicy.judge, enough, ↓reduceIte]
        exact ⟨rfl, rfl, .pausing (failures + 1) alike⟩

/-- Alike answers lead alike activities alike ways. -/
theorem receive
    {request : Request}
    {answer answer' : request.Answer}
    (alike : activity.Alike same other)
    (answers : request.AnsweredAlike answer answer')
    (received :
      activity.receive? policy freshName request answer = some stretch) :
    ∃ stretch',
      other.receive? policy freshName request answer' = some stretch' ∧
        stretch.Alike same stretch' := by
  cases alike with
  | finished | pausing =>
      cases received
  | asking alike =>
      obtain ⟨rfl, rfl⟩ := receive?_asking_eq_some.mp received
      exact ⟨_, receive?_asking_eq_some.mpr ⟨rfl, rfl⟩,
        (alike _ _ answers).advance freshName⟩
  | checking failures alike =>
      obtain ⟨rfl, rfl⟩ := receive?_checking_eq_some.mp received
      exact ⟨_, receive?_checking_eq_some.mpr ⟨rfl, rfl⟩,
        receive_watched alike answers⟩

end Activity.Alike

/-- Stretches that reach one activity alike are one stretch. -/
theorem Stretch.Alike.eq
    {stretch other : Stretch α}
    (alike : stretch.Alike Eq other) :
    stretch = other := by
  obtain ⟨notices, named, reached⟩ := alike
  cases stretch
  cases other
  cases notices
  cases named
  cases reached.eq
  rfl

/-! ## The procedures of a conversation -/

namespace Conversation

open Procedure (FaultBlind)

theorem routeToErrored_faultBlind
    (context : Context) :
    (routeToErrored context).FaultBlind :=
  (FaultBlind.say _).bind fun _ => .finish rfl

/-- A first goal is taken up without a look at any fault. -/
theorem clarify_faultBlind
    (utterance : String)
    (context : Context) :
    (clarify utterance context).FaultBlind :=
  (FaultBlind.say _).bind fun _ => .finish rfl

/-- An apology is given without a look at the fault. -/
theorem apologise_faultBlind
    (context : Context)
    (now : Timestamp) :
    (apologise context now).FaultBlind :=
  (FaultBlind.say _).bind fun _ => .finish rfl

theorem concludePlan_faultBlind
    (message : String)
    (context : Context) :
    (concludePlan message context).FaultBlind :=
  (FaultBlind.say _).bind fun _ =>
    (FaultBlind.say _).bind fun _ => .finish rfl

/-- A plan is delivered without a look at the fault, if it fails. -/
theorem deliverPlan_faultBlind
    (context : Context)
    (engagementId : EngagementId)
    (assessmentId : AssessmentId) :
    (deliverPlan context engagementId assessmentId).FaultBlind := by
  refine .call ?downloaded fun _ _ => routeToErrored_faultBlind context
  case downloaded =>
    intro content
    refine .ask ?_
    intro stored stored' answers
    cases answers with
    | ok locator =>
        exact (FaultBlind.say _).bind fun _ =>
          (FaultBlind.say _).bind fun _ =>
            (FaultBlind.say _).bind fun _ => .finish rfl
    | error fault other =>
        exact routeToErrored_faultBlind context

/-- A plan is stopped without a look at the fault, if that fails. -/
theorem stopPlan_faultBlind
    (context : Context)
    (streamId : String)
    (engagementId : EngagementId)
    (assessmentId : AssessmentId) :
    (stopPlan context streamId engagementId assessmentId).FaultBlind :=
  (FaultBlind.say _).bind fun _ =>
    .ask fun _ _ _ => concludePlan_faultBlind _ context

/-- A plan is finished without a look at the fault, if it fails. -/
theorem finishPlan_faultBlind
    (context : Context)
    (streamId : String)
    (engagementId : EngagementId)
    (assessmentId : AssessmentId)
    (report : AssessmentReport) :
    (finishPlan context streamId engagementId assessmentId
      report).FaultBlind := by
  refine (FaultBlind.sayAll _).bind ?_
  intro _
  cases report.status with
  | failed | cancelled =>
      exact concludePlan_faultBlind _ context
  | completed | inProgress =>
      exact deliverPlan_faultBlind context engagementId assessmentId

/-- A plan is carried out without a look at the fault, if it fails. -/
theorem executePlan_faultBlind
    (context : Context)
    (streamId : String) :
    (executePlan context streamId).FaultBlind := by
  unfold executePlan
  split
  · exact routeToErrored_faultBlind context
  · refine (FaultBlind.say _).bind fun _ =>
      .watchJob ?ended fun _ _ => routeToErrored_faultBlind context
    case ended =>
      intro outcome
      cases outcome with
      | cancelled =>
          exact stopPlan_faultBlind context streamId _ _
      | terminal report =>
          exact finishPlan_faultBlind context streamId _ _ report

/-- An assessment that is not started reports whatever fault it met. -/
theorem startAssessment_alike
    (utterance : String)
    (context : Context) :
    (startAssessment utterance context).run.Alike SameButFault
      (startAssessment utterance context).run := by
  have ensures :
      (ensureEngagement context).run.Alike SameButFault
        (ensureEngagement context).run := by
    unfold ensureEngagement
    split
    · exact .finish (.ok _)
    · exact .exceptCall fun _ => .finish (.ok _)
  exact ensures.exceptBind fun _ =>
    .exceptCall fun _ =>
      .exceptCall fun _ => .finish (.ok _)

/-- A plan is created without a look at the fault, if it fails. -/
theorem createPlan_faultBlind
    (utterance : String)
    (context : Context) :
    (createPlan utterance context).FaultBlind := by
  refine .ask ?_
  rintro isEmpty _ rfl
  cases isEmpty with
  | true =>
      exact .finish rfl
  | false =>
      refine (FaultBlind.say _).bind fun _ =>
        .nameStream fun streamId =>
          (FaultBlind.say _).bind fun _ =>
            (startAssessment_alike utterance context).bind ?_
      intro outcome outcome' outcomes
      cases outcomes with
      | ok started =>
          exact executePlan_faultBlind started streamId
      | error fault other =>
          exact routeToErrored_faultBlind context

/-- A plan is revised without a look at the fault, if it fails. -/
theorem revisePlan_faultBlind
    (utterance : String)
    (context : Context) :
    (revisePlan utterance context).FaultBlind := by
  refine (FaultBlind.say _).bind fun _ =>
    .nameStream fun streamId =>
      (FaultBlind.say _).bind ?_
  intro _
  cases ids : remoteIds context with
  | error fault =>
      exact routeToErrored_faultBlind context
  | ok pair =>
      exact .call (fun _ => executePlan_faultBlind context streamId)
        fun _ _ => routeToErrored_faultBlind context

theorem presentResponse_faultBlind
    (report : InteractionReport) :
    (presentResponse report).FaultBlind := by
  unfold presentResponse
  split
  · exact (FaultBlind.say _).bind fun _ => .say _
  · exact (FaultBlind.say _).bind fun _ => .say _
  · exact .say _
  · exact .say _

/-- A response is awaited without a look at the fault, if it fails. -/
theorem awaitResponse_faultBlind
    (context : Context)
    (streamId : String)
    (engagementId : EngagementId)
    (interactionId : InteractionId) :
    (awaitResponse context streamId engagementId
      interactionId).FaultBlind := by
  refine .watchJob ?ended fun _ _ => routeToErrored_faultBlind context
  case ended =>
    intro outcome
    cases outcome with
    | cancelled =>
        exact (FaultBlind.say _).bind fun _ =>
          (FaultBlind.say _).bind fun _ => .finish rfl
    | terminal report =>
        exact (presentResponse_faultBlind report).bind fun _ =>
          (FaultBlind.say _).bind fun _ => .finish rfl

/-- A question is answered without a look at the fault, if it fails. -/
theorem answerQuestion_faultBlind
    (utterance : String)
    (engagementId : EngagementId)
    (context : Context) :
    (answerQuestion utterance engagementId context).FaultBlind := by
  refine .nameStream fun streamId =>
    (FaultBlind.say _).bind fun _ =>
      (FaultBlind.say _).bind fun _ =>
        .call ?started fun _ _ => routeToErrored_faultBlind context
  case started =>
    exact fun _ => awaitResponse_faultBlind _ streamId engagementId _

/-- A plan is discussed without a look at the fault, if it fails. -/
theorem discuss_faultBlind
    (utterance : String)
    (context : Context) :
    (discuss utterance context).FaultBlind := by
  unfold discuss
  split
  · exact routeToErrored_faultBlind context
  next engagementId _ =>
    refine .call ?derived fun _ _ => routeToErrored_faultBlind context
    case derived =>
      intro intent
      cases intent with
      | question =>
          exact answerQuestion_faultBlind utterance engagementId context
      | revision | unclear =>
          exact (FaultBlind.say _).bind fun _ => .finish rfl
      | newAnalysis =>
          exact clarify_faultBlind utterance context

/-- An utterance is handled without a look at what faults say. -/
theorem interact_faultBlind
    (conversation : Conversation)
    (utterance : String)
    (now : Timestamp) :
    (conversation.interact utterance now).FaultBlind := by
  unfold interact
  cases conversation.phase with
  | awaitingGoal =>
      exact (clarify_faultBlind utterance _).map Except.ok
  | awaitingRequirements =>
      exact (createPlan_faultBlind utterance _).map Except.ok
  | awaitingRevision =>
      exact (revisePlan_faultBlind utterance _).map Except.ok
  | discussingPlan =>
      exact (discuss_faultBlind utterance _).map Except.ok
  | errored =>
      exact (apologise_faultBlind _ now).map Except.ok
  | notStarted =>
      exact .finish rfl

end Conversation

/-! ## Saving a plan -/

namespace Chat

/-- A plan is saved alike, whatever the fault, but fails with the fault itself. -/
theorem savePlan_alike
    (engagementId : EngagementId)
    (assessmentId : AssessmentId)
    (destination : String) :
    (savePlan engagementId assessmentId destination).Alike SameButFault
      (savePlan engagementId assessmentId destination) := by
  refine .ask ?_
  intro downloaded downloaded' answers
  cases answers with
  | ok content =>
      exact .ask fun _ _ exported => .finish exported
  | error fault other =>
      exact .finish (.error fault other)

/-- A plan is saved without a look at what faults say, but the fault is given back. -/
theorem saveCurrentPlan_alike
    (snapshot : SessionSnapshot)
    (destination : Option String) :
    (saveCurrentPlan snapshot destination).Alike SameButFault
      (saveCurrentPlan snapshot destination) := by
  unfold saveCurrentPlan
  split
  · refine (savePlan_alike _ _ _).bind ?_
    intro saved saved' outcomes
    cases outcomes with
    | ok locator =>
        exact .publish _ (.finish (.ok ()))
    | error fault other =>
        exact .publish _ (.finish (.error fault other))
  · exact .publish _ (.finish (.ok ()))

end Chat

end AssessmentChat
