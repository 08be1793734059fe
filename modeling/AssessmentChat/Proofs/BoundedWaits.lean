import AssessmentChat.Conversation.Interact
import AssessmentChat.Rehearsal.Performance
import AssessmentChat.Rehearsal.Script

namespace AssessmentChat

/-!
# Performances that come to an end

Apart from the requests for a status, an utterance makes a few requests and
watches one job at most.  `Procedure.WaitsAtMost` counts both; the status of a job
is asked for by watching it and in no other way.

A script gives every watch its end: once its replies are used up, the job has
completed.  So a performance with a script always comes to a result, within the
stretches that it is given.
-/

/-- The watches of jobs: what is asked for, and when the job has come to its end. -/
inductive WatchesJob :
    (call : ServiceCall) → (call.Reply → Bool) → Prop where
  | assessment
      (engagementId : EngagementId)
      (assessmentId : AssessmentId) :
      WatchesJob (.assessmentStatus engagementId assessmentId)
        AssessmentReport.isTerminal
  | interaction
      (engagementId : EngagementId)
      (interactionId : InteractionId) :
      WatchesJob (.interactionStatus engagementId interactionId)
        InteractionReport.isTerminal

/-- Whether a request is for the status of an assessment. -/
def Request.isAssessmentStatus : Request → Bool
  | .service (.assessmentStatus ..) => true
  | _ => false

/-- Whether a request is for the status of an interaction. -/
def Request.isInteractionStatus : Request → Bool
  | .service (.interactionStatus ..) => true
  | _ => false

/-- Whether a request is for the status of a job. -/
def Request.isStatus (request : Request) : Bool :=
  request.isAssessmentStatus || request.isInteractionStatus

/--
A procedure that makes at most so many requests and watches, and asks for the
status of a job by watching it only.
-/
inductive Procedure.WaitsAtMost : Nat → Procedure α → Prop where
  | finish
      {waits : Nat}
      (result : α) :
      WaitsAtMost waits (.finish result)
  | publish
      {waits : Nat}
      {notice : Notice}
      {next : Procedure α} :
      next.WaitsAtMost waits →
      WaitsAtMost waits (.publish notice next)
  | nameStream
      {waits : Nat}
      {next : String → Procedure α} :
      (∀ name, (next name).WaitsAtMost waits) →
      WaitsAtMost waits (.nameStream next)
  | ask
      {waits : Nat}
      {request : Request}
      {next : request.Answer → Procedure α} :
      request.isStatus = false →
      (∀ answer, (next answer).WaitsAtMost waits) →
      WaitsAtMost (waits + 1) (.ask request next)
  | watch
      {waits : Nat}
      {call : ServiceCall}
      {isTerminal : call.Reply → Bool}
      {report : call.Reply → List Notice}
      {next : Except Fault (PollOutcome call.Reply) → Procedure α} :
      WatchesJob call isTerminal →
      (∀ outcome, (next outcome).WaitsAtMost waits) →
      WaitsAtMost (waits + 1) (.watch call isTerminal report next)

/-- An activity that makes at most so many requests and watches, this one included. -/
inductive Activity.WaitsAtMost : Nat → Activity α → Prop where
  | finished
      {waits : Nat}
      (result : α) :
      WaitsAtMost waits (.finished result)
  | asking
      {waits : Nat}
      {request : Request}
      {next : request.Answer → Procedure α} :
      request.isStatus = false →
      (∀ answer, (next answer).WaitsAtMost waits) →
      WaitsAtMost (waits + 1) (.asking request next)
  | pausing
      {waits : Nat}
      {watch : Watch α} :
      WatchesJob watch.call watch.isTerminal →
      (∀ outcome, (watch.next outcome).WaitsAtMost waits) →
      WaitsAtMost (waits + 1) (.pausing watch)
  | checking
      {waits : Nat}
      {watch : Watch α} :
      WatchesJob watch.call watch.isTerminal →
      (∀ outcome, (watch.next outcome).WaitsAtMost waits) →
      WaitsAtMost (waits + 1) (.checking watch)

namespace Procedure.WaitsAtMost

/-! ## Procedures put together -/

/-- A procedure with few waits has no more than a greater number. -/
theorem mono
    {procedure : Procedure α}
    {waits more : Nat}
    (bounded : procedure.WaitsAtMost waits)
    (enough : waits ≤ more) :
    procedure.WaitsAtMost more := by
  induction bounded generalizing more with
  | finish result =>
      exact .finish result
  | publish _ inductionHypothesis =>
      exact .publish (inductionHypothesis enough)
  | nameStream _ inductionHypothesis =>
      exact .nameStream fun name => inductionHypothesis name enough
  | ask notStatus _ inductionHypothesis =>
      obtain ⟨spare, rfl⟩ := Nat.exists_eq_add_of_le enough
      rw [Nat.add_right_comm]
      exact .ask notStatus fun answer =>
        inductionHypothesis answer (Nat.le_add_right ..)
  | watch watches _ inductionHypothesis =>
      obtain ⟨spare, rfl⟩ := Nat.exists_eq_add_of_le enough
      rw [Nat.add_right_comm]
      exact .watch watches fun outcome =>
        inductionHypothesis outcome (Nat.le_add_right ..)

/-- The waits of two procedures in turn add up. -/
theorem bind
    {first : Procedure α}
    {next : α → Procedure β}
    {waits more : Nat}
    (bounded : first.WaitsAtMost waits)
    (nextBounded : ∀ result, (next result).WaitsAtMost more) :
    (first >>= next).WaitsAtMost (waits + more) := by
  induction bounded with
  | finish result =>
      exact (nextBounded result).mono (Nat.le_add_left ..)
  | publish _ inductionHypothesis =>
      exact .publish inductionHypothesis
  | nameStream _ inductionHypothesis =>
      exact .nameStream inductionHypothesis
  | ask notStatus _ inductionHypothesis =>
      rw [Nat.add_right_comm]
      exact .ask notStatus inductionHypothesis
  | watch watches _ inductionHypothesis =>
      rw [Nat.add_right_comm]
      exact .watch watches inductionHypothesis

/-- What is made of a result adds no wait. -/
theorem map
    {procedure : Procedure α}
    {waits : Nat}
    (bounded : procedure.WaitsAtMost waits)
    (change : α → β) :
    (change <$> procedure).WaitsAtMost waits :=
  bounded.bind (fun result => .finish (change result) : ∀ _, WaitsAtMost 0 _)

/-- What is done without waiting adds nothing. -/
theorem bindAtOnce
    {first : Procedure α}
    {next : α → Procedure β}
    {waits : Nat}
    (atOnce : first.WaitsAtMost 0)
    (nextBounded : ∀ result, (next result).WaitsAtMost waits) :
    (first >>= next).WaitsAtMost waits := by
  rw [← Nat.zero_add waits]
  exact atOnce.bind nextBounded

/-- Notices do not wait. -/
theorem sayAll
    (notices : List Notice) :
    (sayAll notices).WaitsAtMost 0 := by
  induction notices with
  | nil =>
      exact .finish ()
  | cons notice rest inductionHypothesis =>
      exact .publish inductionHypothesis

/-- The waits of two procedures that may fail add up. -/
theorem exceptBind
    {first : ExceptT Fault Procedure α}
    {next : α → ExceptT Fault Procedure β}
    {waits more : Nat}
    (bounded : first.run.WaitsAtMost waits)
    (nextBounded : ∀ result, (next result).run.WaitsAtMost more) :
    (first >>= next).run.WaitsAtMost (waits + more) := by
  refine bounded.bind ?_
  intro outcome
  cases outcome with
  | ok result =>
      exact nextBounded result
  | error fault =>
      exact .finish (Except.error fault)

/-- A request that is no watch waits once. -/
theorem exceptCall
    {asked : ServiceCall}
    {next : asked.Reply → ExceptT Fault Procedure β}
    {waits : Nat}
    (notStatus : (Request.service asked).isStatus = false)
    (nextBounded : ∀ reply, (next reply).run.WaitsAtMost waits) :
    (ExceptT.mk (call asked) >>= next).run.WaitsAtMost (waits + 1) := by
  have bounded : (ExceptT.mk (call asked)).run.WaitsAtMost 1 :=
    .ask notStatus .finish
  rw [Nat.add_comm]
  exact bounded.exceptBind nextBounded

/-- A procedure waits no more often from where it first has to wait. -/
theorem advance
    {procedure : Procedure α}
    {waits : Nat}
    (bounded : procedure.WaitsAtMost waits)
    (freshName : String) :
    (procedure.advance freshName).reached.WaitsAtMost waits := by
  induction bounded with
  | finish result =>
      exact .finished result
  | publish _ inductionHypothesis =>
      exact inductionHypothesis
  | nameStream _ inductionHypothesis =>
      exact inductionHypothesis freshName
  | ask notStatus bounded =>
      exact .asking notStatus bounded
  | watch watches bounded =>
      exact .pausing watches bounded

end Procedure.WaitsAtMost

/-! ## The procedures of a conversation -/

namespace Conversation

open Procedure (WaitsAtMost)

/-- A failure is routed without a wait. -/
theorem routeToErrored_waitsAtMost
    (context : Context) :
    (routeToErrored context).WaitsAtMost 0 :=
  .publish (.finish _)

theorem concludePlan_waitsAtMost
    (message : String)
    (context : Context) :
    (concludePlan message context).WaitsAtMost 0 :=
  .publish (.publish (.finish _))

/-- A plan is delivered in two requests. -/
theorem deliverPlan_waitsAtMost
    (context : Context)
    (engagementId : EngagementId)
    (assessmentId : AssessmentId) :
    (deliverPlan context engagementId assessmentId).WaitsAtMost 2 := by
  refine .ask rfl fun downloaded => ?_
  cases downloaded with
  | error fault =>
      exact (routeToErrored_waitsAtMost context).mono (Nat.zero_le 1)
  | ok content =>
      refine .ask rfl fun stored => ?_
      cases stored with
      | error fault =>
          exact routeToErrored_waitsAtMost context
      | ok locator =>
          exact .publish (.publish (.publish (.finish _)))

/-- A plan is stopped in one request. -/
theorem stopPlan_waitsAtMost
    (context : Context)
    (streamId : String)
    (engagementId : EngagementId)
    (assessmentId : AssessmentId) :
    (stopPlan context streamId engagementId assessmentId).WaitsAtMost 1 :=
  .publish (.ask rfl fun _ => concludePlan_waitsAtMost _ context)

/-- A plan is finished in two requests. -/
theorem finishPlan_waitsAtMost
    (context : Context)
    (streamId : String)
    (engagementId : EngagementId)
    (assessmentId : AssessmentId)
    (report : AssessmentReport) :
    (finishPlan context streamId engagementId assessmentId
      report).WaitsAtMost 2 := by
  have concluded
      (message : String) :
      (concludePlan message context).WaitsAtMost 2 :=
    (concludePlan_waitsAtMost message context).mono (Nat.zero_le 2)
  refine (WaitsAtMost.sayAll _).bindAtOnce fun _ => ?_
  cases report.status with
  | failed | cancelled =>
      exact concluded _
  | completed | inProgress =>
      exact deliverPlan_waitsAtMost context engagementId assessmentId

/-- A plan is carried out in one watch and two requests. -/
theorem executePlan_waitsAtMost
    (context : Context)
    (streamId : String) :
    (executePlan context streamId).WaitsAtMost 3 := by
  have gaveUp (waits : Nat) :
      (routeToErrored context).WaitsAtMost waits :=
    (routeToErrored_waitsAtMost context).mono (Nat.zero_le waits)
  unfold executePlan
  split
  · exact gaveUp 3
  · refine .publish (.watch (.assessment _ _) fun outcome => ?_)
    match outcome with
    | .error fault =>
        exact gaveUp 2
    | .ok .cancelled =>
        exact (stopPlan_waitsAtMost context streamId _ _).mono
          (Nat.le_succ 1)
    | .ok (.terminal report) =>
        exact finishPlan_waitsAtMost context streamId _ _ report

/-- An assessment is started in three requests. -/
theorem startAssessment_waitsAtMost
    (utterance : String)
    (context : Context) :
    (startAssessment utterance context).run.WaitsAtMost 3 := by
  have ensures : (ensureEngagement context).run.WaitsAtMost 1 := by
    unfold ensureEngagement
    split
    · exact .finish _
    · exact .exceptCall rfl fun _ => .finish _
  change WaitsAtMost (1 + 2) _
  refine ensures.exceptBind fun engagementId => ?_
  exact .exceptCall rfl fun _ =>
    .exceptCall rfl fun _ => .finish _

/-- A plan is created in seven waits. -/
theorem createPlan_waitsAtMost
    (utterance : String)
    (context : Context) :
    (createPlan utterance context).WaitsAtMost 7 := by
  refine .ask rfl fun isEmpty => ?_
  cases isEmpty with
  | true =>
      exact .finish _
  | false =>
      refine .publish (.nameStream fun streamId => .publish ?_)
      change WaitsAtMost (3 + 3) (_ >>= _)
      refine (startAssessment_waitsAtMost utterance context).bind
        fun outcome => ?_
      cases outcome with
      | ok started =>
          exact executePlan_waitsAtMost started streamId
      | error fault =>
          exact (routeToErrored_waitsAtMost context).mono (Nat.zero_le 3)

/-- A plan is revised in four waits. -/
theorem revisePlan_waitsAtMost
    (utterance : String)
    (context : Context) :
    (revisePlan utterance context).WaitsAtMost 4 := by
  have gaveUp (waits : Nat) :
      (routeToErrored context).WaitsAtMost waits :=
    (routeToErrored_waitsAtMost context).mono (Nat.zero_le waits)
  refine .publish (.nameStream fun streamId => .publish ?_)
  unfold Procedure.andThen
  split
  · exact gaveUp 4
  · refine .ask rfl fun updated => ?_
    cases updated with
    | ok status =>
        exact executePlan_waitsAtMost context streamId
    | error fault =>
        exact gaveUp 3

/-- A response is awaited in one watch. -/
theorem awaitResponse_waitsAtMost
    (context : Context)
    (streamId : String)
    (engagementId : EngagementId)
    (interactionId : InteractionId) :
    (awaitResponse context streamId engagementId
      interactionId).WaitsAtMost 1 := by
  refine .watch (.interaction _ _) fun outcome => ?_
  match outcome with
  | .error fault =>
      exact routeToErrored_waitsAtMost context
  | .ok .cancelled =>
      exact .publish (.publish (.finish _))
  | .ok (.terminal report) =>
      have presented : (presentResponse report).WaitsAtMost 0 := by
        unfold presentResponse
        cases report.status with
        | completed | inProgress =>
            exact .publish (.publish (.finish ()))
        | failed | cancelled =>
            exact .publish (.finish ())
      exact presented.bindAtOnce fun _ => .publish (.finish _)

/-- A question is answered in two waits. -/
theorem answerQuestion_waitsAtMost
    (utterance : String)
    (engagementId : EngagementId)
    (context : Context) :
    (answerQuestion utterance engagementId context).WaitsAtMost 2 := by
  refine .nameStream fun streamId =>
    .publish (.publish (.ask rfl fun started => ?_))
  cases started with
  | error fault =>
      exact (routeToErrored_waitsAtMost context).mono (Nat.zero_le 1)
  | ok started =>
      exact awaitResponse_waitsAtMost _ streamId engagementId _

theorem clarify_waitsAtMost
    (utterance : String)
    (context : Context) :
    (clarify utterance context).WaitsAtMost 0 :=
  .publish (.finish _)

/-- A plan is discussed in three waits. -/
theorem discuss_waitsAtMost
    (utterance : String)
    (context : Context) :
    (discuss utterance context).WaitsAtMost 3 := by
  have gaveUp (waits : Nat) :
      (routeToErrored context).WaitsAtMost waits :=
    (routeToErrored_waitsAtMost context).mono (Nat.zero_le waits)
  unfold discuss
  split
  · exact gaveUp 3
  · refine .ask rfl fun intent => ?_
    match intent with
    | .error fault =>
        exact gaveUp 2
    | .ok .question =>
        exact answerQuestion_waitsAtMost utterance _ context
    | .ok .revision =>
        exact .publish (.finish _)
    | .ok .newAnalysis =>
        exact (clarify_waitsAtMost utterance context).mono (Nat.zero_le 2)
    | .ok .unclear =>
        exact .publish (.finish _)

/-- However an utterance goes, it makes few requests and watches. -/
theorem interact_waitsAtMost
    (conversation : Conversation)
    (utterance : String)
    (now : Timestamp) :
    (conversation.interact utterance now).WaitsAtMost 7 := by
  unfold interact
  cases conversation.phase with
  | awaitingGoal =>
      exact ((clarify_waitsAtMost utterance _).map _).mono (Nat.zero_le 7)
  | awaitingRequirements =>
      exact (createPlan_waitsAtMost utterance _).map _
  | awaitingRevision =>
      exact ((revisePlan_waitsAtMost utterance _).map _).mono (by decide)
  | discussingPlan =>
      exact ((discuss_waitsAtMost utterance _).map _).mono (by decide)
  | errored =>
      exact .publish (.finish _)
  | notStarted =>
      exact .finish _

end Conversation

/-! ## The answer to a status request -/

namespace Watch

variable
  {policy : PollPolicy}
  {freshName : String}
  {watch : Watch α}

/-- A watch that sees the end of its job goes on with it. -/
theorem receive_of_terminal
    {value : watch.call.Reply}
    (terminal : watch.isTerminal value = true) :
    watch.receive policy freshName (.ok value) =
      (watch.next (.ok (.terminal value))).advance freshName := by
  simp [receive, PollPolicy.judge, terminal, Except.map]

/-- A watch that sees its job in progress reports it and counts no failure. -/
theorem receive_of_progress
    {value : watch.call.Reply}
    (goesOn : watch.isTerminal value = false) :
    watch.receive policy freshName (.ok value) =
      ⟨watch.report value, false, .pausing { watch with failures := 0 }⟩ := by
  simp [receive, PollPolicy.judge, goesOn]

/-- A watch that fails counts the failure as long as there are few in a row. -/
theorem receive_of_failure
    (fault : Fault)
    (few : watch.failures + 1 < max 1 policy.maxConsecutiveErrors) :
    watch.receive policy freshName (.error fault) =
      ⟨[], false,
        .pausing { watch with failures := watch.failures + 1 }⟩ := by
  have notEnough : ¬ policy.maxConsecutiveErrors ≤ watch.failures + 1 := by
    omega
  simp [receive, PollPolicy.judge, notEnough]

/-- A watch with too many failures in a row gives up. -/
theorem receive_of_exhaustion
    (fault : Fault)
    (enough : max 1 policy.maxConsecutiveErrors ≤ watch.failures + 1) :
    watch.receive policy freshName (.error fault) =
      (watch.next
          (.error
            (.pollExhausted (watch.failures + 1) fault.message))).advance
        freshName := by
  have tooMany : policy.maxConsecutiveErrors ≤ watch.failures + 1 := by
    omega
  simp [receive, PollPolicy.judge, tooMany, Except.map]

/-- A status request ends its watch or leads to the next delay. -/
theorem receive_cases
    (policy : PollPolicy)
    (freshName : String)
    (watch : Watch α)
    (answer : Except Fault watch.call.Reply) :
    (∃ outcome,
        watch.receive policy freshName answer =
          (watch.next outcome).advance freshName) ∨
      (∀ value, answer = .ok value → watch.isTerminal value = false) ∧
        ∃ notices failures,
          watch.receive policy freshName answer =
            ⟨notices, false, .pausing { watch with failures }⟩ := by
  cases answer with
  | ok value =>
      cases terminal : watch.isTerminal value with
      | true =>
          exact .inl ⟨_, receive_of_terminal terminal⟩
      | false =>
          refine .inr ⟨?_, _, 0, receive_of_progress terminal⟩
          intro other same
          cases same
          exact terminal
  | error fault =>
      by_cases few : watch.failures + 1 < max 1 policy.maxConsecutiveErrors
      · exact .inr ⟨nofun, _, _, receive_of_failure fault few⟩
      · exact .inl ⟨_, receive_of_exhaustion fault (Nat.le_of_not_lt few)⟩

/-- Whatever the answer is, no more watches follow than there were. -/
theorem receive_waitsAtMost
    {waits : Nat}
    (watches : WatchesJob watch.call watch.isTerminal)
    (bounded : ∀ outcome, (watch.next outcome).WaitsAtMost waits)
    (answer : Except Fault watch.call.Reply) :
    (watch.receive policy freshName answer).reached.WaitsAtMost
      (waits + 1) := by
  rcases receive_cases policy freshName watch answer with
    ⟨outcome, ends⟩ | ⟨_, notices, failures, goes⟩
  · rw [ends]
    exact ((bounded outcome).mono (Nat.le_succ waits)).advance freshName
  · rw [goes]
    exact .pausing watches bounded

end Watch

namespace Rehearsal

/-! ## Performances with a script -/

namespace Script

theorem surroundings_answer
    (request : Request)
    (script : Script) :
    surroundings.answer request script = script.answer request :=
  rfl

/-- An answer is taken from the script, and none is added to it. -/
theorem remaining_answer_le
    (request : Request)
    (script : Script) :
    surroundings.remaining (script.answer request).2 ≤
      surroundings.remaining script := by
  match request with
  | .service call =>
      cases call <;>
        simp [surroundings, answer, answerService, List.length_tail]
  | .workspaceIsEmpty | .storePlan _ | .exportPlan .. =>
      exact Nat.le_refl _

/-- A status request uses a reply up, unless it is told that the job has completed. -/
theorem remaining_answer_status
    {call : ServiceCall}
    {isTerminal : call.Reply → Bool}
    (watches : WatchesJob call isTerminal)
    (script : Script) :
    surroundings.remaining (script.answer (.service call)).2 <
        surroundings.remaining script ∨
      ∃ value,
        (script.answer (.service call)).1.answer = .ok value ∧
          isTerminal value = true := by
  cases watches with
  | assessment engagementId assessmentId =>
      cases left : script.assessmentStatus with
      | nil =>
          refine .inr ⟨⟨.completed, ""⟩, ?_, rfl⟩
          simp [answer, answerService, left, Reply.next, Reply.outcomeOr]
      | cons reply replies =>
          refine .inl ?_
          simp [surroundings, answer, answerService, left]
  | interaction engagementId interactionId =>
      cases left : script.interactionStatus with
      | nil =>
          refine .inr ⟨⟨.completed, "Answer"⟩, ?_, rfl⟩
          simp [answer, answerService, left, Reply.next, Reply.outcomeOr]
      | cons reply replies =>
          refine .inl ?_
          simp [surroundings, answer, answerService, left]

end Script

namespace Performance

/-- The entries of a stretch: its events. -/
def said (sessionId : String) (stretch : Stretch α) : List Entry :=
  stretch.notices.map fun notice => .event ⟨sessionId, notice⟩

/-- What a stretch adds to a performance: its events and perhaps a name. -/
theorem absorb_eq
    (sessionId : String)
    (stretch : Stretch α)
    (performance : Performance σ) :
    performance.absorb sessionId stretch =
      { performance with
        names :=
          if stretch.namedStream then performance.names + 1
          else performance.names
        entries :=
          (said sessionId stretch).reverse ++ performance.entries } := by
  obtain ⟨notices, namedStream, reached⟩ := stretch
  have noted :
      notices.foldl
          (fun (noted : Performance σ) notice =>
            noted.note (.event ⟨sessionId, notice⟩)) performance =
        { performance with
          entries :=
            (notices.map fun notice =>
              Entry.event ⟨sessionId, notice⟩).reverse ++
                performance.entries } := by
    induction notices generalizing performance with
    | nil =>
        rfl
    | cons notice rest inductionHypothesis =>
        rw [List.foldl_cons, inductionHypothesis]
        simp [note]
  simp [absorb, noted, said]

/-- A performance whose request has been answered. -/
def answered
    (surroundings : Surroundings σ)
    (request : Request)
    (performance : Performance σ) : Performance σ :=
  let (response, after) := surroundings.answer request performance.surroundings
  { performance with
    surroundings := after
    clock := performance.clock + response.delay
    cancelled := performance.cancelled || response.cancels
    entries := .call request :: performance.entries }

/-- Goes on with a stretch. -/
def follow
    (surroundings : Surroundings σ)
    (policy : PollPolicy)
    (sessionId : String)
    (fuel : Nat)
    (stretch : Stretch α)
    (performance : Performance σ) : Option α × Performance σ :=
  resume surroundings policy sessionId fuel stretch.reached
    (performance.absorb sessionId stretch)

section

variable
  (surroundings : Surroundings σ)
  (policy : PollPolicy)
  (sessionId : String)
  (fuel : Nat)
  (performance : Performance σ)

/-- A request is answered from the surroundings. -/
theorem resume_asking
    (request : Request)
    (next : request.Answer → Procedure α) :
    resume surroundings policy sessionId (fuel + 1) (.asking request next)
        performance =
      follow surroundings policy sessionId fuel
        ((next
            (surroundings.answer request
              performance.surroundings).1.answer).advance
          (streamName performance.names))
        (performance.answered surroundings request) :=
  rfl

/-- A pause is over, or is cut short by the wish to stop. -/
theorem resume_pausing
    (watch : Watch α) :
    resume surroundings policy sessionId (fuel + 1) (.pausing watch)
        performance =
      if performance.cancelled then
        follow surroundings policy sessionId fuel
          (watch.cancel (streamName performance.names)) performance
      else
        follow surroundings policy sessionId fuel watch.elapse
          { performance with clock := performance.clock + policy.interval } :=
  rfl

/-- A watch asks the surroundings for the status of its job. -/
theorem resume_checking
    (watch : Watch α) :
    resume surroundings policy sessionId (fuel + 1) (.checking watch)
        performance =
      follow surroundings policy sessionId fuel
        (watch.receive policy (streamName performance.names)
          (surroundings.answer (.service watch.call)
            performance.surroundings).1.answer)
        (performance.answered surroundings (.service watch.call)) :=
  rfl

end

/-- How many stretches the request in flight has been through already. -/
def halfway : Activity α → Nat
  | .checking _ => 1
  | _ => 0

/--
A performance comes to a result in two stretches for each request, each watch and
each reply to a status request.
-/
theorem resume_finishes
    (policy : PollPolicy)
    (sessionId : String)
    {activity : Activity α}
    {waits fuel : Nat}
    {performance : Performance Script}
    (bounded : activity.WaitsAtMost waits)
    (enough :
      2 * (waits + Script.surroundings.remaining performance.surroundings) <
        fuel + halfway activity) :
    ∃ result,
      (resume Script.surroundings policy sessionId fuel activity
        performance).1 = some result := by
  induction fuel generalizing activity waits performance with
  | zero =>
      cases bounded <;> simp only [halfway] at enough <;> omega
  | succ fuel inductionHypothesis =>
      have goesOn
          {waits : Nat}
          {stretch : Stretch α}
          {performance : Performance Script}
          (bounded : stretch.reached.WaitsAtMost waits)
          (enough :
            2 * (waits +
                Script.surroundings.remaining performance.surroundings) <
              fuel + halfway stretch.reached) :
          ∃ result,
            (follow Script.surroundings policy sessionId fuel stretch
              performance).1 = some result := by
        refine inductionHypothesis bounded ?_
        rw [absorb_eq]
        exact enough
      have answered
          (request : Request) :
          (performance.answered Script.surroundings request).surroundings =
            (Script.answer request performance.surroundings).2 :=
        rfl
      cases bounded with
      | finished result =>
          exact ⟨result, rfl⟩
      | @asking waits request next notStatus bounded =>
          have fewer :=
            Script.remaining_answer_le request performance.surroundings
          rw [resume_asking]
          simp only [halfway] at enough
          refine goesOn ((bounded _).advance _) ?_
          rw [answered]
          omega
      | @pausing waits watch watches bounded =>
          rw [resume_pausing]
          simp only [halfway] at enough
          split
          · refine goesOn ((bounded _).advance _) ?_
            omega
          · refine goesOn (.checking watches bounded) ?_
            simp only [Watch.elapse, halfway]
            omega
      | @checking waits watch watches bounded =>
          have fewer :=
            Script.remaining_answer_le (.service watch.call)
              performance.surroundings
          have used :=
            Script.remaining_answer_status watches performance.surroundings
          rw [resume_checking]
          simp only [halfway] at enough
          rcases Watch.receive_cases policy (streamName performance.names)
              watch
              (Script.surroundings.answer (.service watch.call)
                performance.surroundings).1.answer with
            ⟨outcome, ends⟩ | ⟨notTerminal, notices, failures, goes⟩
          · rw [ends]
            refine goesOn ((bounded outcome).advance _) ?_
            rw [answered]
            omega
          · have usedUp := used.resolve_right fun ⟨value, found, terminal⟩ => by
              rw [notTerminal value found] at terminal
              cases terminal
            rw [goes]
            refine goesOn (.pausing watches bounded) ?_
            rw [answered]
            omega

/-- A procedure that waits a few times comes to a result. -/
theorem perform_finishes
    (policy : PollPolicy)
    (sessionId : String)
    {procedure : Procedure α}
    (bounded : procedure.WaitsAtMost 8)
    (performance : Performance Script) :
    ∃ result,
      (perform Script.surroundings policy sessionId procedure
        performance).1 = some result := by
  refine resume_finishes policy sessionId (bounded.advance _) ?_
  rw [absorb_eq]
  simp only [waitsPerUtterance]
  omega

end Performance

end Rehearsal

end AssessmentChat
