import AssessmentChat.Proofs.PlanCancellation

namespace AssessmentChat

/-!
# Stopping only when told

A procedure asks the service to stop an assessment only after a watch of it has
been cancelled, and a watch is only cancelled in an interaction that has been
told to stop.  `Procedure.StopsWhenCancelled` says the first of every point of a
procedure; that an interaction was told follows from one stretch to the next.
-/

/-- A procedure that asks for no stop unless a watch of it is cancelled. -/
inductive Procedure.StopsWhenCancelled : Procedure α → Prop where
  | finish
      (result : α) :
      StopsWhenCancelled (.finish result)
  | publish
      {notice : Notice}
      {next : Procedure α} :
      next.StopsWhenCancelled →
      StopsWhenCancelled (.publish notice next)
  | nameStream
      {next : String → Procedure α} :
      (∀ name, (next name).StopsWhenCancelled) →
      StopsWhenCancelled (.nameStream next)
  | ask
      {request : Request}
      {next : request.Answer → Procedure α} :
      request.isStop = false →
      (∀ answer, (next answer).StopsWhenCancelled) →
      StopsWhenCancelled (.ask request next)
  | watch
      {call : ServiceCall}
      {isTerminal : call.Reply → Bool}
      {report : call.Reply → List Notice}
      {next : Except Fault (PollOutcome call.Reply) → Procedure α} :
      (Request.service call).isStop = false →
      (∀ outcome, outcome ≠ .ok .cancelled →
        (next outcome).StopsWhenCancelled) →
      StopsWhenCancelled (.watch call isTerminal report next)

/-- An activity that asks for no stop unless a watch of it is cancelled. -/
inductive Activity.StopsWhenCancelled : Activity α → Prop where
  | finished
      (result : α) :
      StopsWhenCancelled (.finished result)
  | asking
      {request : Request}
      {next : request.Answer → Procedure α} :
      request.isStop = false →
      (∀ answer, (next answer).StopsWhenCancelled) →
      StopsWhenCancelled (.asking request next)
  | pausing
      {watch : Watch α} :
      (Request.service watch.call).isStop = false →
      (∀ outcome, outcome ≠ .ok .cancelled →
        (watch.next outcome).StopsWhenCancelled) →
      StopsWhenCancelled (.pausing watch)
  | checking
      {watch : Watch α} :
      (Request.service watch.call).isStop = false →
      (∀ outcome, outcome ≠ .ok .cancelled →
        (watch.next outcome).StopsWhenCancelled) →
      StopsWhenCancelled (.checking watch)

/-- Nothing that has been done asks the service to stop an assessment. -/
def AsksNoStop (deeds : List Deed) : Prop :=
  ∀ request ∈ requests deeds, request.isStop = false

/-! ## Procedures put together -/

namespace Procedure.StopsWhenCancelled

/-- Two procedures in turn stop only when told if both do. -/
theorem bind
    {first : Procedure α}
    {next : α → Procedure β}
    (stops : first.StopsWhenCancelled)
    (nextStops : ∀ result, (next result).StopsWhenCancelled) :
    (first >>= next).StopsWhenCancelled := by
  induction stops with
  | finish result =>
      exact nextStops result
  | publish _ inductionHypothesis =>
      exact .publish inductionHypothesis
  | nameStream _ inductionHypothesis =>
      exact .nameStream inductionHypothesis
  | ask notStop _ inductionHypothesis =>
      exact .ask notStop inductionHypothesis
  | watch notStop _ inductionHypothesis =>
      exact .watch notStop inductionHypothesis

/-- What is made of a result stops nothing. -/
theorem map
    {procedure : Procedure α}
    (stops : procedure.StopsWhenCancelled)
    (change : α → β) :
    (change <$> procedure).StopsWhenCancelled :=
  stops.bind fun result => .finish (change result)

theorem sayAll
    (notices : List Notice) :
    (sayAll notices).StopsWhenCancelled := by
  induction notices with
  | nil =>
      exact .finish ()
  | cons notice rest inductionHypothesis =>
      exact .publish inductionHypothesis

/-- Two procedures in turn that may fail stop only when told if both do. -/
theorem exceptBind
    {first : ExceptT Fault Procedure α}
    {next : α → ExceptT Fault Procedure β}
    (stops : first.run.StopsWhenCancelled)
    (nextStops : ∀ result, (next result).run.StopsWhenCancelled) :
    (first >>= next).run.StopsWhenCancelled := by
  refine stops.bind fun outcome => ?_
  cases outcome with
  | ok result =>
      exact nextStops result
  | error fault =>
      exact .finish (Except.error fault)

/-- An operation that is no stop stops nothing. -/
theorem exceptCall
    {asked : ServiceCall}
    {next : asked.Reply → ExceptT Fault Procedure β}
    (notStop : (Request.service asked).isStop = false)
    (nextStops : ∀ reply, (next reply).run.StopsWhenCancelled) :
    (ExceptT.mk (call asked) >>= next).run.StopsWhenCancelled := by
  have stops : (ExceptT.mk (call asked)).run.StopsWhenCancelled :=
    .ask notStop .finish
  exact stops.exceptBind nextStops

/-- A procedure that stops only when told comes to an activity that does so. -/
theorem advance
    {procedure : Procedure α}
    (stops : procedure.StopsWhenCancelled)
    (freshName : String) :
    (procedure.advance freshName).reached.StopsWhenCancelled := by
  induction stops with
  | finish result =>
      exact .finished result
  | publish _ inductionHypothesis =>
      exact inductionHypothesis
  | nameStream _ inductionHypothesis =>
      exact inductionHypothesis freshName
  | ask notStop stops =>
      exact .asking notStop stops
  | watch notStop stops =>
      exact .pausing notStop stops

end Procedure.StopsWhenCancelled

/-! ## Interactions that have not been told to stop -/

/-- The requests of a stretch: the one that it ends with. -/
theorem Stretch.requests_deeds
    (stretch : Stretch α) :
    requests stretch.deeds = stretch.reached.inFlight?.toList := by
  cases inFlight : stretch.reached.inFlight? with
  | none =>
      simp [Stretch.deeds, inFlight]
  | some request =>
      simp [Stretch.deeds, inFlight, requests, Deed.asked?]

namespace Activity.StopsWhenCancelled

variable
  {policy : PollPolicy}
  {freshName : String}
  {activity : Activity α}
  {stretch : Stretch α}

/-- The request under way is no stop unless the activity was told. -/
theorem inFlight
    (stops : activity.StopsWhenCancelled) :
    ∀ request ∈ activity.inFlight?, request.isStop = false := by
  cases stops with
  | finished | pausing =>
      nofun
  | asking notStop | checking notStop =>
      rintro _ ⟨⟩
      exact notStop

/-- A stretch to such an activity asks for no stop. -/
theorem asksNoStop
    (stops : stretch.reached.StopsWhenCancelled) :
    AsksNoStop stretch.deeds := by
  intro request member
  rw [stretch.requests_deeds, Option.mem_toList] at member
  exact stops.inFlight request member

/-- A delay that is not cut short leads to a status request. -/
theorem wake
    (stops : activity.StopsWhenCancelled)
    (woken : activity.wake? freshName false = some stretch) :
    stretch.reached.StopsWhenCancelled := by
  cases stops with
  | finished | asking | checking =>
      cases woken
  | pausing notStop stops =>
      cases woken
      exact .checking notStop stops

/-- No answer cancels a watch. -/
theorem receive
    {request : Request}
    {answer : request.Answer}
    (stops : activity.StopsWhenCancelled)
    (received :
      activity.receive? policy freshName request answer = some stretch) :
    stretch.reached.StopsWhenCancelled := by
  cases stops with
  | finished | pausing =>
      cases received
  | asking notStop stops =>
      obtain ⟨rfl, rfl⟩ := receive?_asking_eq_some.mp received
      exact (stops _).advance freshName
  | checking notStop stops =>
      obtain ⟨rfl, rfl⟩ := receive?_checking_eq_some.mp received
      unfold Watch.receive
      split
      next result _ =>
        have notCancelled :
            result.map PollOutcome.terminal ≠ .ok .cancelled := by
          cases result <;> nofun
        exact (stops _ notCancelled).advance freshName
      next =>
        exact .pausing notStop stops

end Activity.StopsWhenCancelled

namespace Interaction

variable {policy : PollPolicy}

/-- One occurrence does not lead to a stop if nothing was told. -/
theorem meet?_asksNoStop
    {interaction next : Interaction α}
    {occurrence : Occurrence}
    (stops : interaction.activity.StopsWhenCancelled)
    (asksNoStop : AsksNoStop interaction.deeds)
    (untold : interaction.toldToStop = false)
    (met : interaction.meet? policy occurrence = some next) :
    next.activity.StopsWhenCancelled ∧ AsksNoStop next.deeds := by
  have onward
      {answered : List Deed}
      {stretch : Stretch α}
      (asksNothing : requests answered = [])
      (stops : stretch.reached.StopsWhenCancelled) :
      (interaction.goOn answered stretch).activity.StopsWhenCancelled ∧
        AsksNoStop (interaction.goOn answered stretch).deeds := by
    refine ⟨stops, ?_⟩
    intro request member
    rw [goOn, requests_append, requests_append, asksNothing,
      List.append_nil] at member
    rcases List.mem_append.mp member with earlier | later
    · exact asksNoStop request earlier
    · exact stops.asksNoStop request later
  cases occurrence with
  | toldToStop =>
      cases met
      exact ⟨stops, asksNoStop⟩
  | woken freshName =>
      obtain ⟨stretch, woken, rfl⟩ := Option.map_eq_some_iff.mp met
      rw [untold] at woken
      exact onward rfl (stops.wake woken)
  | answered freshName request answer =>
      obtain ⟨stretch, received, rfl⟩ := Option.map_eq_some_iff.mp met
      exact onward rfl (stops.receive received)

/-- An interaction that has not been told to stop asks for no stop. -/
theorem meetAll?_asksNoStop
    {interaction last : Interaction α}
    {occurrences : List Occurrence}
    (stops : interaction.activity.StopsWhenCancelled)
    (asksNoStop : AsksNoStop interaction.deeds)
    (met : interaction.meetAll? policy occurrences = some last)
    (untold : last.toldToStop = false) :
    AsksNoStop last.deeds := by
  induction occurrences generalizing interaction with
  | nil =>
      cases met
      exact asksNoStop
  | cons occurrence rest inductionHypothesis =>
      have untoldBefore : interaction.toldToStop = false := by
        rw [Bool.eq_false_iff]
        intro told
        rw [meetAll?_told met (.inl told)] at untold
        cases untold
      obtain ⟨next, met, restMet⟩ := Option.bind_eq_some_iff.mp met
      obtain ⟨nextStops, nextAsks⟩ :=
        meet?_asksNoStop stops asksNoStop untoldBefore met
      exact inductionHypothesis nextStops nextAsks restMet

end Interaction

/-! ## The procedures of a conversation -/

namespace Conversation

open Procedure (StopsWhenCancelled)

theorem routeToErrored_stopsWhenCancelled
    (context : Context) :
    (routeToErrored context).StopsWhenCancelled :=
  .publish (.finish _)

theorem concludePlan_stopsWhenCancelled
    (message : String)
    (context : Context) :
    (concludePlan message context).StopsWhenCancelled :=
  .publish (.publish (.finish _))

/-- The delivery of a plan stops nothing. -/
theorem deliverPlan_stopsWhenCancelled
    (context : Context)
    (engagementId : EngagementId)
    (assessmentId : AssessmentId) :
    (deliverPlan context engagementId
      assessmentId).StopsWhenCancelled := by
  refine .ask rfl fun downloaded => ?_
  cases downloaded with
  | error fault =>
      exact routeToErrored_stopsWhenCancelled context
  | ok content =>
      refine .ask rfl fun stored => ?_
      cases stored with
      | error fault =>
          exact routeToErrored_stopsWhenCancelled context
      | ok locator =>
          exact .publish (.publish (.publish (.finish _)))

/-- A plan is finished without a stop. -/
theorem finishPlan_stopsWhenCancelled
    (context : Context)
    (streamId : String)
    (engagementId : EngagementId)
    (assessmentId : AssessmentId)
    (report : AssessmentReport) :
    (finishPlan context streamId engagementId assessmentId
      report).StopsWhenCancelled := by
  refine (StopsWhenCancelled.sayAll _).bind fun _ => ?_
  cases report.status with
  | failed | cancelled =>
      exact concludePlan_stopsWhenCancelled _ context
  | completed | inProgress =>
      exact deliverPlan_stopsWhenCancelled context engagementId
        assessmentId

/-- A plan that is carried out is stopped only when told. -/
theorem executePlan_stopsWhenCancelled
    (context : Context)
    (streamId : String) :
    (executePlan context streamId).StopsWhenCancelled := by
  unfold executePlan
  split
  · exact routeToErrored_stopsWhenCancelled context
  · refine .publish (.watch rfl fun outcome notCancelled => ?_)
    match outcome with
    | .error fault =>
        exact routeToErrored_stopsWhenCancelled context
    | .ok .cancelled =>
        exact absurd rfl notCancelled
    | .ok (.terminal report) =>
        exact finishPlan_stopsWhenCancelled context streamId _ _ report

/-- The start of an assessment stops nothing. -/
theorem startAssessment_stopsWhenCancelled
    (utterance : String)
    (context : Context) :
    (startAssessment utterance context).run.StopsWhenCancelled := by
  have ensures : (ensureEngagement context).run.StopsWhenCancelled := by
    unfold ensureEngagement
    split
    · exact .finish _
    · exact .exceptCall rfl fun _ => .finish _
  exact ensures.exceptBind fun _ =>
    .exceptCall rfl fun _ =>
      .exceptCall rfl fun _ => .finish _

/-- The creation of a plan is stopped only when told. -/
theorem createPlan_stopsWhenCancelled
    (utterance : String)
    (context : Context) :
    (createPlan utterance context).StopsWhenCancelled := by
  refine .ask rfl fun isEmpty => ?_
  cases isEmpty with
  | true =>
      exact .finish _
  | false =>
      refine .publish (.nameStream fun streamId => .publish ?_)
      refine (startAssessment_stopsWhenCancelled utterance context).bind
        fun outcome => ?_
      cases outcome with
      | ok started =>
          exact executePlan_stopsWhenCancelled started streamId
      | error fault =>
          exact routeToErrored_stopsWhenCancelled context

/-- The revision of a plan is stopped only when told. -/
theorem revisePlan_stopsWhenCancelled
    (utterance : String)
    (context : Context) :
    (revisePlan utterance context).StopsWhenCancelled := by
  refine .publish (.nameStream fun streamId => .publish ?_)
  unfold Procedure.andThen
  split
  · exact routeToErrored_stopsWhenCancelled context
  · refine .ask rfl fun updated => ?_
    cases updated with
    | ok status =>
        exact executePlan_stopsWhenCancelled context streamId
    | error fault =>
        exact routeToErrored_stopsWhenCancelled context

/-- A plan is only stopped by an interaction that was told to stop. -/
theorem told_of_stop
    {policy : PollPolicy}
    {conversation : Conversation}
    {utterance : String}
    {opening : Opening}
    {occurrences : List Occurrence}
    {interaction : Interaction (Except Fault Conversation)}
    {request : Request}
    (plans :
      conversation.phase = .awaitingRequirements ∨
        conversation.phase = .awaitingRevision)
    (handled :
      conversation.handling? policy (.utterance utterance) opening
          occurrences =
        some interaction)
    (asked : request ∈ requests interaction.deeds)
    (stop : request.isStop = true) :
    interaction.toldToStop = true := by
  have stops :
      (conversation.carryOut opening.now
        (.utterance utterance)).StopsWhenCancelled := by
    unfold carryOut interact
    rcases plans with phase | phase <;> rw [phase]
    · exact (createPlan_stopsWhenCancelled utterance _).map _
    · exact (revisePlan_stopsWhenCancelled utterance _).map _
  have reached := stops.advance opening.freshName
  cases untold : interaction.toldToStop with
  | true =>
      rfl
  | false =>
      have asksNoStop :=
        Interaction.meetAll?_asksNoStop reached reached.asksNoStop handled
          untold
      rw [asksNoStop request asked] at stop
      cases stop

end Conversation

end AssessmentChat
