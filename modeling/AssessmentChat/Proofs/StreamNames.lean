import AssessmentChat.Proofs.ShownNotices

namespace AssessmentChat

/-!
# Names of streams

A stream has a name that was supplied while its interaction was under way.  So
interactions that are supplied with different names write to different streams.
`Procedure.WritesTo` says of every point of a procedure that it writes to no
other streams than those of given names, as long as it is supplied with these.
-/

/-- A notice that writes to no stream but those of the given names. -/
def Notice.WritesTo (names : List String) (notice : Notice) : Prop :=
  ∀ written ∈ notice.streamed?, written.1 ∈ names

/-- A procedure that writes to no stream but those of the given names. -/
def Procedure.WritesTo (names : List String) : Procedure α → Prop
  | .finish _ => True
  | .publish notice next => notice.WritesTo names ∧ next.WritesTo names
  | .nameStream next => ∀ name ∈ names, (next name).WritesTo names
  | .ask _ next => ∀ answer, (next answer).WritesTo names
  | .watch _ _ report next =>
      (∀ value, ∀ notice ∈ report value, notice.WritesTo names) ∧
        ∀ outcome, (next outcome).WritesTo names

/-- A watch that writes to no stream but those of the given names. -/
structure Watch.WritesTo
    (names : List String)
    (watch : Watch α) : Prop where
  reports :
    ∀ value, ∀ notice ∈ watch.report value, notice.WritesTo names
  onward :
    ∀ outcome, (watch.next outcome).WritesTo names

/-- An activity that writes to no stream but those of the given names. -/
def Activity.WritesTo (names : List String) : Activity α → Prop
  | .finished _ => True
  | .asking _ next => ∀ answer, (next answer).WritesTo names
  | .pausing watch => watch.WritesTo names
  | .checking watch => watch.WritesTo names

/-- A stretch that writes to no stream but those of the given names. -/
structure Stretch.WritesTo
    (names : List String)
    (stretch : Stretch α) : Prop where
  notices :
    ∀ notice ∈ stretch.notices, notice.WritesTo names
  onward :
    stretch.reached.WritesTo names

/-- The name that is supplied with an occurrence. -/
def Occurrence.freshName? : Occurrence → Option String
  | .toldToStop => none
  | .woken freshName => some freshName
  | .answered freshName _ _ => some freshName

/-- The names that are supplied while an interaction is under way. -/
def suppliedNames
    (opening : Opening)
    (occurrences : List Occurrence) : List String :=
  opening.freshName :: occurrences.filterMap Occurrence.freshName?

variable {names : List String}

namespace Notice

@[simp] theorem plainAnswer_writesTo
    (message : String) :
    (plainAnswer message).WritesTo names :=
  nofun

@[simp] theorem suggestion_writesTo
    (message : String)
    (followUp : FollowUp) :
    (suggestion message followUp).WritesTo names :=
  nofun

@[simp] theorem votableAnswer_writesTo
    (message : String) :
    (votableAnswer message).WritesTo names :=
  nofun

@[simp] theorem placeholder_writesTo
    (text : String) :
    (placeholder text).WritesTo names :=
  nofun

/-- A piece of a stream writes to that stream. -/
@[simp] theorem answerStream_writesTo
    {streamId text : String} :
    (answerStream streamId text).WritesTo names ↔ streamId ∈ names := by
  simp [WritesTo, streamed?]

end Notice

/-! ## Procedures put together -/

namespace Procedure.WritesTo

/-- What follows a procedure writes to the given streams if both parts do. -/
theorem bind
    {first : Procedure α}
    {next : α → Procedure β}
    (writes : first.WritesTo names)
    (nextWrites : ∀ result, (next result).WritesTo names) :
    (first >>= next).WritesTo names := by
  induction first with
  | finish result =>
      exact nextWrites result
  | publish notice rest inductionHypothesis =>
      exact ⟨writes.1, inductionHypothesis writes.2⟩
  | nameStream rest inductionHypothesis =>
      exact fun name member =>
        inductionHypothesis name (writes name member)
  | ask request rest inductionHypothesis =>
      exact fun answer => inductionHypothesis answer (writes answer)
  | watch call isTerminal report rest inductionHypothesis =>
      exact ⟨writes.1, fun outcome =>
        inductionHypothesis outcome (writes.2 outcome)⟩

/-- What is made of the result of a procedure writes to no further stream. -/
theorem map
    {procedure : Procedure α}
    (writes : procedure.WritesTo names)
    (change : α → β) :
    (change <$> procedure).WritesTo names :=
  writes.bind fun _ => trivial

/-- A series of notices writes to the streams that they write to. -/
theorem sayAll
    {notices : List Notice}
    (writes : ∀ notice ∈ notices, notice.WritesTo names) :
    (sayAll notices).WritesTo names := by
  induction notices with
  | nil =>
      trivial
  | cons notice rest inductionHypothesis =>
      rw [List.forall_mem_cons] at writes
      exact ⟨writes.1, inductionHypothesis writes.2⟩

/-- A procedure that may fail writes to the given streams if both of its parts do. -/
theorem exceptBind
    {first : ExceptT Fault Procedure α}
    {next : α → ExceptT Fault Procedure β}
    (writes : first.run.WritesTo names)
    (nextWrites : ∀ result, (next result).run.WritesTo names) :
    (first >>= next).run.WritesTo names := by
  refine writes.bind fun outcome => ?_
  cases outcome with
  | ok result =>
      exact nextWrites result
  | error fault =>
      trivial

/-- A request writes to no stream; what follows it may. -/
theorem exceptCall
    {asked : ServiceCall}
    {next : asked.Reply → ExceptT Fault Procedure β}
    (nextWrites : ∀ reply, (next reply).run.WritesTo names) :
    (ExceptT.mk (call asked) >>= next).run.WritesTo names := by
  have writes : (ExceptT.mk (call asked)).run.WritesTo names :=
    fun _ => trivial
  exact writes.exceptBind nextWrites

/-- A stretch writes to the streams that its procedure writes to. -/
theorem advance
    {procedure : Procedure α}
    {freshName : String}
    (writes : procedure.WritesTo names)
    (supplied : freshName ∈ names) :
    (procedure.advance freshName).WritesTo names := by
  induction procedure with
  | finish result =>
      exact ⟨nofun, trivial⟩
  | publish notice next inductionHypothesis =>
      obtain ⟨notices, onward⟩ := inductionHypothesis writes.2
      exact ⟨List.forall_mem_cons.mpr ⟨writes.1, notices⟩, onward⟩
  | nameStream next inductionHypothesis =>
      obtain ⟨notices, onward⟩ :=
        inductionHypothesis freshName (writes freshName supplied)
      exact ⟨notices, onward⟩
  | ask request next =>
      exact ⟨nofun, writes⟩
  | watch call isTerminal report next =>
      exact ⟨nofun, writes.1, writes.2⟩

end Procedure.WritesTo

/-! ## Interactions -/

namespace Activity.WritesTo

variable
  {freshName : String}
  {activity : Activity α}
  {stretch : Stretch α}

/-- An activity that wakes writes to the streams that it was given, and to a fresh one. -/
theorem wake
    {cancelled : Bool}
    (writes : activity.WritesTo names)
    (supplied : freshName ∈ names)
    (woken : activity.wake? freshName cancelled = some stretch) :
    stretch.WritesTo names := by
  cases activity with
  | finished | asking | checking =>
      cases woken
  | pausing watch =>
      cases cancelled with
      | true =>
          cases woken
          exact (writes.onward _).advance supplied
      | false =>
          cases woken
          exact ⟨nofun, writes⟩

/-- An activity that is answered writes to its streams, and to a fresh one. -/
theorem receive
    {policy : PollPolicy}
    {request : Request}
    {answer : request.Answer}
    (writes : activity.WritesTo names)
    (supplied : freshName ∈ names)
    (received :
      activity.receive? policy freshName request answer = some stretch) :
    stretch.WritesTo names := by
  cases activity with
  | finished | pausing =>
      cases received
  | asking asked next =>
      obtain ⟨rfl, rfl⟩ := receive?_asking_eq_some.mp received
      exact (writes _).advance supplied
  | checking watch =>
      obtain ⟨rfl, rfl⟩ := receive?_checking_eq_some.mp received
      unfold Watch.receive
      split
      next result _ =>
        exact (writes.onward _).advance supplied
      next failures progress _ =>
        refine ⟨?_, writes.reports, writes.onward⟩
        cases progress with
        | none =>
            nofun
        | some value =>
            exact writes.reports value

end Activity.WritesTo

/-- What a stretch writes is what its notices write. -/
theorem Stretch.WritesTo.streamed
    {stretch : Stretch α}
    (writes : stretch.WritesTo names) :
    ∀ written ∈ streamed stretch.deeds, written.1 ∈ names := by
  intro written member
  have same : shown stretch.deeds = stretch.notices := by
    rw [Stretch.deeds, shown_append, shown_map_said]
    cases stretch.reached.inFlight? with
    | none | some =>
        exact List.append_nil _
  rw [AssessmentChat.streamed, same] at member
  obtain ⟨notice, inNotices, isWritten⟩ := List.mem_filterMap.mp member
  exact writes.notices notice inNotices written isWritten

namespace Interaction

variable {policy : PollPolicy}

/-- An interaction that has written, and writes, to streams of given names. -/
structure WritesTo
    (names : List String)
    (interaction : Interaction α) : Prop where
  streamed :
    ∀ written ∈ streamed interaction.deeds, written.1 ∈ names
  onward :
    interaction.activity.WritesTo names

/-- One occurrence leads an interaction to no other stream than the supplied ones. -/
theorem WritesTo.meet
    {interaction next : Interaction α}
    {occurrence : Occurrence}
    (writes : interaction.WritesTo names)
    (supplied : ∀ name ∈ occurrence.freshName?, name ∈ names)
    (met : interaction.meet? policy occurrence = some next) :
    next.WritesTo names := by
  have onward
      {answered : List Deed}
      {stretch : Stretch α}
      (saysNothing : AssessmentChat.streamed answered = [])
      (stretchWrites : stretch.WritesTo names) :
      (interaction.goOn answered stretch).WritesTo names := by
    refine ⟨?_, stretchWrites.onward⟩
    intro written member
    rw [goOn, streamed_append, streamed_append, saysNothing,
      List.append_nil] at member
    rcases List.mem_append.mp member with earlier | later
    · exact writes.streamed written earlier
    · exact stretchWrites.streamed written later
  cases occurrence with
  | toldToStop =>
      cases met
      exact ⟨writes.streamed, writes.onward⟩
  | woken freshName =>
      obtain ⟨stretch, woken, rfl⟩ := Option.map_eq_some_iff.mp met
      exact onward rfl (writes.onward.wake (supplied freshName rfl) woken)
  | answered freshName request answer =>
      obtain ⟨stretch, received, rfl⟩ := Option.map_eq_some_iff.mp met
      exact onward rfl
        (writes.onward.receive (supplied freshName rfl) received)

/-- A series of occurrences leads it to no other stream than the supplied ones. -/
theorem WritesTo.meetAll
    {interaction last : Interaction α}
    {occurrences : List Occurrence}
    (writes : interaction.WritesTo names)
    (supplied :
      ∀ name ∈ occurrences.filterMap Occurrence.freshName?, name ∈ names)
    (met : interaction.meetAll? policy occurrences = some last) :
    last.WritesTo names := by
  induction occurrences generalizing interaction with
  | nil =>
      cases met
      exact writes
  | cons occurrence rest inductionHypothesis =>
      obtain ⟨next, met, restMet⟩ := Option.bind_eq_some_iff.mp met
      refine inductionHypothesis (writes.meet ?_ met) ?_ restMet
      · exact fun name isFresh => supplied name
          (List.mem_filterMap.mpr ⟨_, List.mem_cons_self, isFresh⟩)
      · intro name member
        obtain ⟨later, inRest, isFresh⟩ := List.mem_filterMap.mp member
        exact supplied name (List.mem_filterMap.mpr
          ⟨later, List.mem_cons_of_mem _ inRest, isFresh⟩)

end Interaction

/-! ## The procedures of a conversation -/

namespace Conversation

variable {streamId : String}

/-- A failure is routed without any stream. -/
theorem routeToErrored_writesTo
    (context : Context) :
    (routeToErrored context).WritesTo names :=
  ⟨Notice.placeholder_writesTo "", trivial⟩

/-- A first goal is taken up without any stream. -/
theorem clarify_writesTo
    (utterance : String)
    (context : Context) :
    (clarify utterance context).WritesTo names :=
  ⟨Notice.suggestion_writesTo _ _, trivial⟩

/-- A plan is concluded without any stream. -/
theorem concludePlan_writesTo
    (message : String)
    (context : Context) :
    (concludePlan message context).WritesTo names :=
  ⟨Notice.plainAnswer_writesTo message,
    Notice.placeholder_writesTo "", trivial⟩

/-- A plan is delivered without any stream. -/
theorem deliverPlan_writesTo
    (context : Context)
    (engagementId : EngagementId)
    (assessmentId : AssessmentId) :
    (deliverPlan context engagementId assessmentId).WritesTo names := by
  intro downloaded
  cases downloaded with
  | error fault =>
      exact routeToErrored_writesTo context
  | ok content =>
      intro stored
      cases stored with
      | error fault =>
          exact routeToErrored_writesTo context
      | ok locator =>
          exact ⟨Notice.votableAnswer_writesTo content,
            Notice.suggestion_writesTo _ _,
            Notice.placeholder_writesTo "", trivial⟩

/-- The progress of an assessment is written to its stream. -/
theorem assessmentProgress_writesTo
    (supplied : streamId ∈ names)
    (report : AssessmentReport) :
    ∀ notice ∈ assessmentProgress streamId report,
      notice.WritesTo names := by
  unfold assessmentProgress
  split <;> simp [supplied]

/-- A plan is finished on the stream that it was begun on. -/
theorem finishPlan_writesTo
    (context : Context)
    (supplied : streamId ∈ names)
    (engagementId : EngagementId)
    (assessmentId : AssessmentId)
    (report : AssessmentReport) :
    (finishPlan context streamId engagementId assessmentId
      report).WritesTo names := by
  have progresses := assessmentProgress_writesTo supplied report
  refine (Procedure.WritesTo.sayAll progresses).bind fun _ => ?_
  cases report.status with
  | failed | cancelled =>
      exact concludePlan_writesTo _ context
  | completed | inProgress =>
      exact deliverPlan_writesTo context engagementId assessmentId

/-- A plan is carried out on one stream. -/
theorem executePlan_writesTo
    (context : Context)
    (supplied : streamId ∈ names) :
    (executePlan context streamId).WritesTo names := by
  unfold executePlan
  split
  · exact routeToErrored_writesTo context
  · refine ⟨Notice.placeholder_writesTo _,
      assessmentProgress_writesTo supplied, fun outcome => ?_⟩
    match outcome with
    | .error fault =>
        exact routeToErrored_writesTo context
    | .ok .cancelled =>
        exact ⟨Notice.answerStream_writesTo.mpr supplied,
          fun _ => concludePlan_writesTo _ context⟩
    | .ok (.terminal report) =>
        exact finishPlan_writesTo context supplied _ _ report

/-- An assessment is started without any stream. -/
theorem startAssessment_writesTo
    (utterance : String)
    (context : Context) :
    (startAssessment utterance context).run.WritesTo names := by
  have ensures : (ensureEngagement context).run.WritesTo names := by
    unfold ensureEngagement
    split
    · trivial
    · exact .exceptCall fun _ => trivial
  exact ensures.exceptBind fun _ =>
    .exceptCall fun _ => .exceptCall fun _ => trivial

/-- A plan is created on streams with fresh names only. -/
theorem createPlan_writesTo
    (utterance : String)
    (context : Context) :
    (createPlan utterance context).WritesTo names := by
  intro isEmpty
  cases isEmpty with
  | true =>
      trivial
  | false =>
      refine ⟨Notice.plainAnswer_writesTo _, fun streamId supplied =>
        ⟨Notice.answerStream_writesTo.mpr supplied, ?_⟩⟩
      refine (startAssessment_writesTo utterance context).bind
        fun outcome => ?_
      cases outcome with
      | ok started =>
          exact executePlan_writesTo started supplied
      | error fault =>
          exact routeToErrored_writesTo context

/-- A plan is revised on streams with fresh names only. -/
theorem revisePlan_writesTo
    (utterance : String)
    (context : Context) :
    (revisePlan utterance context).WritesTo names := by
  refine ⟨Notice.plainAnswer_writesTo _, fun streamId supplied =>
    ⟨Notice.answerStream_writesTo.mpr supplied, ?_⟩⟩
  unfold Procedure.andThen
  split
  · exact routeToErrored_writesTo context
  · intro updated
    cases updated with
    | ok status =>
        exact executePlan_writesTo context supplied
    | error fault =>
        exact routeToErrored_writesTo context

/-- The response to a question is awaited on its stream. -/
theorem awaitResponse_writesTo
    (context : Context)
    (supplied : streamId ∈ names)
    (engagementId : EngagementId)
    (interactionId : InteractionId) :
    (awaitResponse context streamId engagementId
      interactionId).WritesTo names := by
  refine ⟨?_, fun outcome => ?_⟩
  · simp [interactionProgress, supplied]
  · rcases outcome with fault | report | _
    · exact routeToErrored_writesTo context
    · have presents : (presentResponse report).WritesTo names := by
        rw [presentResponse_eq]
        refine .sayAll ?_
        unfold responseNotices
        split <;> simp
      exact presents.bind fun _ =>
        ⟨Notice.placeholder_writesTo "", trivial⟩
    · exact ⟨Notice.answerStream_writesTo.mpr supplied,
        Notice.placeholder_writesTo "", trivial⟩

/-- A plan is discussed on streams with fresh names only. -/
theorem discuss_writesTo
    (utterance : String)
    (context : Context) :
    (discuss utterance context).WritesTo names := by
  unfold discuss
  split
  · exact routeToErrored_writesTo context
  · intro derived
    match derived with
    | .error fault =>
        exact routeToErrored_writesTo context
    | .ok .question =>
        refine fun streamId supplied =>
          ⟨Notice.answerStream_writesTo.mpr supplied,
            Notice.placeholder_writesTo _, fun taken => ?_⟩
        cases taken with
        | error fault =>
            exact routeToErrored_writesTo context
        | ok started =>
            exact awaitResponse_writesTo _ supplied _ _
    | .ok .revision | .ok .unclear =>
        exact ⟨Notice.suggestion_writesTo _ _, trivial⟩
    | .ok .newAnalysis =>
        exact clarify_writesTo utterance context

/-- Every job writes to streams with fresh names only. -/
theorem carryOut_writesTo
    (conversation : Conversation)
    (now : Timestamp)
    (job : Job) :
    (conversation.carryOut now job).WritesTo names := by
  cases job with
  | help =>
      exact ⟨Notice.suggestion_writesTo _ _, trivial⟩
  | utterance text =>
      unfold carryOut interact
      cases conversation.phase with
      | awaitingGoal =>
          exact (clarify_writesTo text _).map _
      | awaitingRequirements =>
          exact (createPlan_writesTo text _).map _
      | awaitingRevision =>
          exact (revisePlan_writesTo text _).map _
      | discussingPlan =>
          exact (discuss_writesTo text _).map _
      | errored =>
          exact ⟨Notice.plainAnswer_writesTo _, trivial⟩
      | notStarted =>
          trivial

/-- A job writes to streams whose names were supplied for it. -/
theorem handling?_writesTo
    {policy : PollPolicy}
    {conversation : Conversation}
    {job : Job}
    {opening : Opening}
    {occurrences : List Occurrence}
    {interaction : Interaction (Except Fault Conversation)}
    (handled :
      conversation.handling? policy job opening occurrences =
        some interaction) :
    interaction.WritesTo (suppliedNames opening occurrences) := by
  let names := suppliedNames opening occurrences
  have supplied : opening.freshName ∈ names := List.mem_cons_self
  have writes : (conversation.carryOut opening.now job).WritesTo names :=
    carryOut_writesTo conversation opening.now job
  have begun := writes.advance supplied
  refine Interaction.WritesTo.meetAll ⟨begun.streamed, begun.onward⟩ ?_
    handled
  exact fun name member => List.mem_cons_of_mem _ member

end Conversation

end AssessmentChat
