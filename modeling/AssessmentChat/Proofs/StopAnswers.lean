import AssessmentChat.Proofs.SessionRun

namespace AssessmentChat

/-!
# Answers to stop requests

A procedure that asks the service to stop an assessment goes on in the same way
whatever the service answers.  `Procedure.IgnoresStop` says so of every point of
a procedure; the procedures of plans are put together from ones of which it
holds.  An interaction of such a procedure, met with another answer to its stop
requests, is seen to do the same.
-/

/-- Whether a request asks the service to stop an assessment. -/
def Request.isStop : Request → Bool
  | .service (.stopAssessment ..) => true
  | _ => false

/-- A procedure that does not look at the answers to its stop requests. -/
inductive Procedure.IgnoresStop : Procedure α → Prop where
  | finish
      (result : α) :
      IgnoresStop (.finish result)
  | publish
      {notice : Notice}
      {next : Procedure α} :
      next.IgnoresStop →
      IgnoresStop (.publish notice next)
  | nameStream
      {next : String → Procedure α} :
      (∀ name, (next name).IgnoresStop) →
      IgnoresStop (.nameStream next)
  | ask
      {request : Request}
      {next : request.Answer → Procedure α} :
      (∀ answer, (next answer).IgnoresStop) →
      (request.isStop = true →
        ∀ answer other, next answer = next other) →
      IgnoresStop (.ask request next)
  | watch
      {call : ServiceCall}
      {isTerminal : call.Reply → Bool}
      {report : call.Reply → List Notice}
      {next : Except Fault (PollOutcome call.Reply) → Procedure α} :
      (Request.service call).isStop = false →
      (∀ outcome, (next outcome).IgnoresStop) →
      IgnoresStop (.watch call isTerminal report next)

/-- An activity that does not look at the answers to its stop requests. -/
inductive Activity.IgnoresStop : Activity α → Prop where
  | finished
      (result : α) :
      IgnoresStop (.finished result)
  | asking
      {request : Request}
      {next : request.Answer → Procedure α} :
      (∀ answer, (next answer).IgnoresStop) →
      (request.isStop = true →
        ∀ answer other, next answer = next other) →
      IgnoresStop (.asking request next)
  | pausing
      {watch : Watch α} :
      (Request.service watch.call).isStop = false →
      (∀ outcome, (watch.next outcome).IgnoresStop) →
      IgnoresStop (.pausing watch)
  | checking
      {watch : Watch α} :
      (Request.service watch.call).isStop = false →
      (∀ outcome, (watch.next outcome).IgnoresStop) →
      IgnoresStop (.checking watch)

namespace Procedure.IgnoresStop

/-! ## Procedures put together -/

/-- Two procedures in turn ignore the answer to a stop if both do. -/
theorem bind
    {first : Procedure α}
    {next : α → Procedure β}
    (ignores : first.IgnoresStop)
    (nextIgnores : ∀ result, (next result).IgnoresStop) :
    (first >>= next).IgnoresStop := by
  induction ignores with
  | finish result =>
      exact nextIgnores result
  | publish _ inductionHypothesis =>
      exact .publish inductionHypothesis
  | nameStream _ inductionHypothesis =>
      exact .nameStream inductionHypothesis
  | ask _ same inductionHypothesis =>
      refine .ask inductionHypothesis ?_
      intro stops answer other
      rw [same stops answer other]
  | watch notStop _ inductionHypothesis =>
      exact .watch notStop inductionHypothesis

/-- What is made of a result ignores the answer to a stop. -/
theorem map
    {procedure : Procedure α}
    (ignores : procedure.IgnoresStop)
    (change : α → β) :
    (change <$> procedure).IgnoresStop :=
  ignores.bind fun result => .finish (change result)

theorem say
    (notice : Notice) :
    (say notice).IgnoresStop :=
  .publish (.finish ())

theorem sayAll
    (notices : List Notice) :
    (sayAll notices).IgnoresStop := by
  induction notices with
  | nil =>
      exact .finish ()
  | cons notice rest inductionHypothesis =>
      exact .publish inductionHypothesis

/-- A request that is no stop ignores the answer to one. -/
theorem request
    {asked : Request}
    (notStop : asked.isStop = false) :
    (request asked).IgnoresStop := by
  refine .ask (fun answer => .finish answer) ?_
  intro stops
  rw [notStop] at stops
  cases stops

/-- Two procedures in turn that may fail ignore the answer to a stop if both do. -/
theorem exceptBind
    {first : ExceptT Fault Procedure α}
    {next : α → ExceptT Fault Procedure β}
    (ignores : first.run.IgnoresStop)
    (nextIgnores : ∀ result, (next result).run.IgnoresStop) :
    (first >>= next).run.IgnoresStop := by
  refine ignores.bind ?_
  intro outcome
  cases outcome with
  | ok result =>
      exact nextIgnores result
  | error fault =>
      exact .finish (Except.error fault)

/-- An operation that is no stop ignores the answer to one. -/
theorem exceptCall
    {asked : ServiceCall}
    {next : asked.Reply → ExceptT Fault Procedure β}
    (notStop : (Request.service asked).isStop = false)
    (nextIgnores : ∀ reply, (next reply).run.IgnoresStop) :
    (ExceptT.mk (call asked) >>= next).run.IgnoresStop := by
  have ignores : (ExceptT.mk (call asked)).run.IgnoresStop :=
    request notStop
  exact ignores.exceptBind nextIgnores

/-- A procedure is still blind to the answers when it has to wait. -/
theorem advance
    {procedure : Procedure α}
    (ignores : procedure.IgnoresStop)
    (freshName : String) :
    (procedure.advance freshName).reached.IgnoresStop := by
  induction ignores with
  | finish result =>
      exact .finished result
  | publish _ inductionHypothesis =>
      exact inductionHypothesis
  | nameStream _ inductionHypothesis =>
      exact inductionHypothesis freshName
  | ask ignores same =>
      exact .asking ignores same
  | watch notStop ignores =>
      exact .pausing notStop ignores

end Procedure.IgnoresStop

namespace Activity.IgnoresStop

variable
  {policy : PollPolicy}
  {freshName : String}
  {activity : Activity α}
  {stretch : Stretch α}

/-- A delay leads to an activity that is still blind to the answers. -/
theorem wake
    {cancelled : Bool}
    (ignores : activity.IgnoresStop)
    (woken : activity.wake? freshName cancelled = some stretch) :
    stretch.reached.IgnoresStop := by
  cases ignores with
  | finished | asking | checking =>
      cases woken
  | pausing notStop ignores =>
      cases cancelled with
      | true =>
          cases woken
          exact (ignores _).advance freshName
      | false =>
          cases woken
          exact .checking notStop ignores

/-- Another answer to a stop request leads to the same stretch. -/
theorem receive
    {request : Request}
    {given other : request.Answer}
    (ignores : activity.IgnoresStop)
    (received :
      activity.receive? policy freshName request given = some stretch)
    (same : request.isStop = false → other = given) :
    stretch.reached.IgnoresStop ∧
      activity.receive? policy freshName request other =
        some stretch := by
  cases ignores with
  | finished | pausing =>
      cases received
  | @asking asked next ignores alike =>
      obtain ⟨rfl, rfl⟩ := receive?_asking_eq_some.mp received
      refine ⟨(ignores _).advance freshName,
        receive?_asking_eq_some.mpr ⟨rfl, ?_⟩⟩
      cases stops : request.isStop with
      | true =>
          rw [alike stops]
      | false =>
          rw [same stops]
  | checking notStop ignores =>
      obtain ⟨rfl, rfl⟩ := receive?_checking_eq_some.mp received
      refine ⟨?_, receive?_checking_eq_some.mpr
        ⟨rfl, by rw [same notStop]⟩⟩
      unfold Watch.receive
      split
      · exact (ignores _).advance freshName
      · exact .pausing notStop ignores

end Activity.IgnoresStop

/-! ## Procedures of plans -/

namespace Conversation

open Procedure (IgnoresStop)

theorem routeToErrored_ignoresStop
    (context : Context) :
    (routeToErrored context).IgnoresStop :=
  (IgnoresStop.say _).bind fun _ => .finish _

theorem concludePlan_ignoresStop
    (message : String)
    (context : Context) :
    (concludePlan message context).IgnoresStop :=
  (IgnoresStop.say _).bind fun _ =>
    (IgnoresStop.say _).bind fun _ => .finish _

theorem deliverPlan_ignoresStop
    (context : Context)
    (engagementId : EngagementId)
    (assessmentId : AssessmentId) :
    (deliverPlan context engagementId assessmentId).IgnoresStop := by
  refine (IgnoresStop.request rfl).bind ?_
  intro downloaded
  cases downloaded with
  | error fault =>
      exact routeToErrored_ignoresStop context
  | ok content =>
      refine (IgnoresStop.request rfl).bind ?_
      intro stored
      cases stored with
      | error fault =>
          exact routeToErrored_ignoresStop context
      | ok locator =>
          exact (IgnoresStop.say _).bind fun _ =>
            (IgnoresStop.say _).bind fun _ =>
              (IgnoresStop.say _).bind fun _ => .finish _

/-- A plan is stopped alike, however the service answers. -/
theorem stopPlan_ignoresStop
    (context : Context)
    (streamId : String)
    (engagementId : EngagementId)
    (assessmentId : AssessmentId) :
    (stopPlan context streamId engagementId assessmentId).IgnoresStop :=
  (IgnoresStop.say _).bind fun _ =>
    .ask (fun _ => concludePlan_ignoresStop _ context)
      (fun _ _ _ => rfl)

/-- A plan is finished alike, however a stop was answered. -/
theorem finishPlan_ignoresStop
    (context : Context)
    (streamId : String)
    (engagementId : EngagementId)
    (assessmentId : AssessmentId)
    (report : AssessmentReport) :
    (finishPlan context streamId engagementId assessmentId
      report).IgnoresStop := by
  refine (IgnoresStop.sayAll _).bind ?_
  intro _
  cases report.status with
  | failed | cancelled =>
      exact concludePlan_ignoresStop _ context
  | completed | inProgress =>
      exact deliverPlan_ignoresStop context engagementId assessmentId

/-- A plan is carried out alike, however a stop is answered. -/
theorem executePlan_ignoresStop
    (context : Context)
    (streamId : String) :
    (executePlan context streamId).IgnoresStop := by
  unfold executePlan
  split
  · exact routeToErrored_ignoresStop context
  · refine (IgnoresStop.say _).bind fun _ =>
      .watch rfl ?_
    intro outcome
    match outcome with
    | .error fault =>
        exact routeToErrored_ignoresStop context
    | .ok .cancelled =>
        exact stopPlan_ignoresStop context streamId _ _
    | .ok (.terminal report) =>
        exact finishPlan_ignoresStop context streamId _ _ report

theorem startAssessment_ignoresStop
    (utterance : String)
    (context : Context) :
    (startAssessment utterance context).run.IgnoresStop := by
  have ensures : (ensureEngagement context).run.IgnoresStop := by
    unfold ensureEngagement
    split
    · exact .finish _
    · exact .exceptCall rfl fun _ => .finish _
  exact ensures.exceptBind fun _ =>
    .exceptCall rfl fun _ =>
      .exceptCall rfl fun _ => .finish _

/-- A plan is created alike, however a stop is answered. -/
theorem createPlan_ignoresStop
    (utterance : String)
    (context : Context) :
    (createPlan utterance context).IgnoresStop := by
  refine (IgnoresStop.request rfl).bind ?_
  intro isEmpty
  cases isEmpty with
  | true =>
      exact .finish _
  | false =>
      refine (IgnoresStop.say _).bind fun _ =>
        .nameStream fun streamId =>
          (IgnoresStop.say _).bind fun _ =>
            (startAssessment_ignoresStop utterance context).bind ?_
      intro outcome
      cases outcome with
      | ok started =>
          exact executePlan_ignoresStop started streamId
      | error fault =>
          exact routeToErrored_ignoresStop context

/-- A plan is revised alike, however a stop is answered. -/
theorem revisePlan_ignoresStop
    (utterance : String)
    (context : Context) :
    (revisePlan utterance context).IgnoresStop := by
  refine (IgnoresStop.say _).bind fun _ =>
    .nameStream fun streamId =>
      (IgnoresStop.say _).bind ?_
  intro _
  cases ids : remoteIds context with
  | error fault =>
      exact routeToErrored_ignoresStop context
  | ok pair =>
      refine (IgnoresStop.request rfl).bind ?_
      intro updated
      cases updated with
      | ok status =>
          exact executePlan_ignoresStop context streamId
      | error fault =>
          exact routeToErrored_ignoresStop context

end Conversation

/-! ## Interactions met with other answers -/

/-- An occurrence with another answer to a stop request. -/
def Occurrence.withStopAnswer
    (answer : Except Fault JobStatus) : Occurrence → Occurrence
  | .answered freshName (.service (.stopAssessment engagement assessment)) _ =>
      .answered freshName (.service (.stopAssessment engagement assessment))
        answer
  | occurrence => occurrence

/-- Another answer to stops changes no answer to another request. -/
theorem Occurrence.withStopAnswer_answered
    (freshName : String)
    (request : Request)
    (answer : request.Answer)
    (stopAnswer : Except Fault JobStatus) :
    ∃ other,
      (Occurrence.answered freshName request answer).withStopAnswer
          stopAnswer =
        .answered freshName request other ∧
      (request.isStop = false → other = answer) := by
  match request, answer with
  | .service (.stopAssessment _ _), _ =>
      exact ⟨stopAnswer, rfl, nofun⟩
  | .service .createEngagement, answer
  | .service (.uploadWorkspace _), answer
  | .service (.startAssessment _ _), answer
  | .service (.updateAssessment _ _ _), answer
  | .service (.assessmentStatus _ _), answer
  | .service (.downloadPlan _ _), answer
  | .service (.startInteraction _ _), answer
  | .service (.interactionStatus _ _), answer
  | .service (.deriveIntent _ _), answer
  | .workspaceIsEmpty, answer
  | .storePlan _, answer
  | .exportPlan _ _, answer =>
      exact ⟨answer, rfl, fun _ => rfl⟩

namespace Interaction

/-- Two interactions that stand at the same point and were seen to do the same. -/
structure SeenAlike (first second : Interaction α) : Prop where
  seen :
    ∀ sessionId,
      second.deeds.filterMap (Deed.output? sessionId) =
        first.deeds.filterMap (Deed.output? sessionId)
  activity :
    second.activity = first.activity
  toldToStop :
    second.toldToStop = first.toldToStop

/-- Interactions that are seen alike are so after one more answer each. -/
theorem SeenAlike.goOn
    {first second : Interaction α}
    (alike : first.SeenAlike second)
    (request : Request)
    (answer other : request.Answer)
    (stretch : Stretch α) :
    (first.goOn [.answered request answer] stretch).SeenAlike
      (second.goOn [.answered request other] stretch) := by
  refine ⟨?_, rfl, alike.toldToStop⟩
  intro sessionId
  simp [Interaction.goOn, alike.seen, List.filterMap_cons, Deed.output?]

/-- One occurrence leads to the same with another answer to a stop request. -/
theorem meet?_withStopAnswer
    {policy : PollPolicy}
    {first second next : Interaction α}
    {occurrence : Occurrence}
    (alike : first.SeenAlike second)
    (ignores : first.activity.IgnoresStop)
    (met : first.meet? policy occurrence = some next)
    (answer : Except Fault JobStatus) :
    next.activity.IgnoresStop ∧
      ∃ other,
        second.meet? policy (occurrence.withStopAnswer answer) =
            some other ∧
          next.SeenAlike other := by
  obtain ⟨seen, activity, told⟩ := alike
  cases occurrence with
  | toldToStop =>
      cases met
      exact ⟨ignores, _, rfl, seen, activity, rfl⟩
  | woken freshName =>
      obtain ⟨stretch, woken, rfl⟩ := Option.map_eq_some_iff.mp met
      refine ⟨ignores.wake woken, second.goOn [] stretch, ?_, ?_, rfl,
        told⟩
      · rw [← activity, ← told] at woken
        exact Option.map_eq_some_iff.mpr ⟨stretch, woken, rfl⟩
      · intro sessionId
        simp [goOn, seen]
  | answered freshName request given =>
      obtain ⟨stretch, received, rfl⟩ := Option.map_eq_some_iff.mp met
      obtain ⟨other, changed, same⟩ :=
        Occurrence.withStopAnswer_answered freshName request given answer
      obtain ⟨stillIgnores, receivedToo⟩ := ignores.receive received same
      rw [← activity] at receivedToo
      refine ⟨stillIgnores,
        second.goOn [.answered request other] stretch, ?_,
        SeenAlike.goOn ⟨seen, activity, told⟩ request given other
          stretch⟩
      rw [changed]
      exact Option.map_eq_some_iff.mpr ⟨stretch, receivedToo, rfl⟩

/-- Whatever happens leads to the same with another answer to stop requests. -/
theorem meetAll?_withStopAnswer
    {policy : PollPolicy}
    {first second last : Interaction α}
    {occurrences : List Occurrence}
    (alike : first.SeenAlike second)
    (ignores : first.activity.IgnoresStop)
    (met : first.meetAll? policy occurrences = some last)
    (answer : Except Fault JobStatus) :
    ∃ other,
      second.meetAll? policy
          (occurrences.map (Occurrence.withStopAnswer answer)) =
        some other ∧
      last.SeenAlike other := by
  induction occurrences generalizing first second with
  | nil =>
      cases met
      exact ⟨second, rfl, alike⟩
  | cons occurrence rest inductionHypothesis =>
      obtain ⟨next, met, restMet⟩ := Option.bind_eq_some_iff.mp met
      obtain ⟨stillIgnores, nextToo, metToo, stillAlike⟩ :=
        meet?_withStopAnswer alike ignores met answer
      obtain ⟨other, restMetToo, alikeAtLast⟩ :=
        inductionHypothesis stillAlike stillIgnores restMet
      exact ⟨other,
        Option.bind_eq_some_iff.mpr ⟨nextToo, metToo, restMetToo⟩,
        alikeAtLast⟩

end Interaction

/-- An utterance about a plan is handled alike whatever stop requests get. -/
theorem Conversation.handling?_withStopAnswer
    {policy : PollPolicy}
    {conversation : Conversation}
    {text : String}
    {opening : Opening}
    {occurrences : List Occurrence}
    {interaction : Interaction (Except Fault Conversation)}
    (plans :
      conversation.phase = .awaitingRequirements ∨
        conversation.phase = .awaitingRevision)
    (handled :
      conversation.handling? policy (.utterance text) opening
          occurrences =
        some interaction)
    (answer : Except Fault JobStatus) :
    ∃ other,
      conversation.handling? policy (.utterance text) opening
          (occurrences.map (Occurrence.withStopAnswer answer)) =
        some other ∧
      interaction.SeenAlike other := by
  have ignores :
      (conversation.interact text opening.now).IgnoresStop := by
    unfold interact
    rcases plans with creates | revises
    · rw [creates]
      exact (createPlan_ignoresStop text conversation.context).map Except.ok
    · rw [revises]
      exact (revisePlan_ignoresStop text conversation.context).map Except.ok
  exact Interaction.meetAll?_withStopAnswer ⟨fun _ => rfl, rfl, rfl⟩
    (ignores.advance opening.freshName) handled answer

end AssessmentChat
