import AssessmentChat.Proofs.ConversationCourse
import AssessmentChat.Proofs.SequentialHandling

namespace AssessmentChat

/-!
# Well-formed conversations

A phase is only a tag, and what it needs is in the context.  A conversation is
well-formed when its context has what its phase needs and names nothing out of
turn.  Every turn of a session keeps its conversation well-formed, so the checks
that a name is there never fail, and a step only fails when the workspace is
empty or an answer reports a failure.
-/

/-- A context that names nothing without naming what it belongs to. -/
structure Context.Consistent (context : Context) : Prop where
  assessment :
    context.assessmentId.isSome = true →
    context.engagementId.isSome = true
  interaction :
    context.interactionId.isSome = true →
    context.assessmentId.isSome = true

/-- A context that names an engagement and an assessment. -/
structure Context.NamesAssessment (context : Context) : Prop where
  engagement :
    context.engagementId.isSome = true
  assessment :
    context.assessmentId.isSome = true

/-- A conversation whose context has what its phase needs. -/
structure Conversation.WellFormed (conversation : Conversation) : Prop where
  started :
    conversation.phase ≠ .notStarted
  consistent :
    conversation.context.Consistent
  goalKnown :
    conversation.phase = .awaitingRequirements →
    conversation.context.goal.isSome = true
  revisionNamed :
    conversation.phase = .awaitingRevision →
    conversation.context.NamesAssessment
  discussionNamed :
    conversation.phase = .discussingPlan →
    conversation.context.NamesAssessment

namespace Context

/-- A context that starts anew is consistent. -/
theorem consistent_restarted
    (context : Context)
    (now : Timestamp) :
    (context.restarted now).Consistent :=
  ⟨nofun, nofun⟩

theorem namesAssessment_withAssessment
    (context : Context)
    (engagementId : EngagementId)
    (assessmentId : AssessmentId) :
    ((context.withEngagement engagementId).withAssessment
      assessmentId).NamesAssessment :=
  ⟨rfl, rfl⟩

/-- A context with an engagement and an assessment is consistent. -/
theorem consistent_withAssessment
    (context : Context)
    (engagementId : EngagementId)
    (assessmentId : AssessmentId) :
    ((context.withEngagement engagementId).withAssessment
      assessmentId).Consistent :=
  ⟨fun _ => rfl, nofun⟩

/-- An interaction on an assessment keeps a context consistent. -/
theorem Consistent.withInteraction
    {context : Context}
    (consistent : context.Consistent)
    (names : context.NamesAssessment)
    (interactionId : InteractionId) :
    (context.withInteraction interactionId).Consistent :=
  ⟨consistent.assessment, fun _ => names.assessment⟩

end Context

namespace Conversation

variable
  {policy : PollPolicy}
  {utterance streamId : String}
  {now : Timestamp}
  {deeds : List Deed}
  {context : Context}
  {engagementId : EngagementId}
  {assessmentId : AssessmentId}
  {next : Conversation}

/-! ## What each exit leaves -/

namespace WellFormed

/-- A conversation that awaits a goal is well-formed. -/
theorem awaitingGoal
    (consistent : context.Consistent) :
    (⟨.awaitingGoal, context⟩ : Conversation).WellFormed :=
  ⟨nofun, consistent, nofun, nofun, nofun⟩

/-- A conversation that has failed is well-formed. -/
theorem errored
    (consistent : context.Consistent) :
    (⟨.errored, context⟩ : Conversation).WellFormed :=
  ⟨nofun, consistent, nofun, nofun, nofun⟩

/-- A conversation that awaits requirements is well-formed with a goal. -/
theorem awaitingRequirements
    (consistent : context.Consistent)
    (goal : String) :
    (⟨.awaitingRequirements, context.withGoal goal⟩ :
      Conversation).WellFormed :=
  ⟨nofun, ⟨consistent.assessment, consistent.interaction⟩,
    fun _ => rfl, nofun, nofun⟩

/-- A conversation that awaits a revision is well-formed with an assessment. -/
theorem awaitingRevision
    (consistent : context.Consistent)
    (names : context.NamesAssessment) :
    (⟨.awaitingRevision, context⟩ : Conversation).WellFormed :=
  ⟨nofun, consistent, nofun, fun _ => names, nofun⟩

/-- A conversation about a plan is well-formed with an assessment. -/
theorem discussingPlan
    (consistent : context.Consistent)
    (names : context.NamesAssessment) :
    (⟨.discussingPlan, context⟩ : Conversation).WellFormed :=
  ⟨nofun, consistent, nofun, nofun, fun _ => names⟩

/-- The conversation of a new session is well-formed. -/
theorem start
    (sessionId : String)
    (now : Timestamp) :
    (Conversation.start sessionId now).WellFormed :=
  .awaitingGoal ⟨nofun, nofun⟩

theorem afterHelp
    (consistent : context.Consistent) :
    (afterHelp context).WellFormed :=
  .awaitingGoal ⟨consistent.assessment, consistent.interaction⟩

/-- The end of a plan leaves a well-formed conversation. -/
theorem of_planEnding
    (consistent : context.Consistent)
    (names : context.NamesAssessment)
    (ending :
      PlanEnding policy context streamId engagementId assessmentId
        deeds next) :
    next.WellFormed := by
  cases ending with
  | exhausted =>
      exact .errored consistent
  | stopped | notCompleted =>
      exact .awaitingGoal consistent
  | completed _ _ delivery =>
      cases delivery with
      | notDownloaded | notStored =>
          exact .errored consistent
      | delivered =>
          exact .discussingPlan consistent names

/-- The creation of a plan leaves a well-formed conversation. -/
theorem of_planCreation
    (consistent : context.Consistent)
    (created : PlanCreation policy utterance context deeds next) :
    next.WellFormed := by
  cases created with
  | emptyWorkspace =>
      exact .errored ⟨consistent.assessment, consistent.interaction⟩
  | notStarted =>
      exact .errored consistent
  | started _ start _ ending =>
      cases start with
      | started =>
          exact of_planEnding (context.consistent_withAssessment _ _)
            (context.namesAssessment_withAssessment _ _) ending

/-- The revision of a plan leaves a well-formed conversation. -/
theorem of_planRevision
    (consistent : context.Consistent)
    (names : context.NamesAssessment)
    (revised : PlanRevision policy utterance context deeds next) :
    next.WellFormed := by
  cases revised with
  | nothingToRevise | notUpdated =>
      exact .errored consistent
  | updated _ _ _ ending =>
      exact of_planEnding consistent names ending

/-- The discussion of a plan leaves a well-formed conversation. -/
theorem of_discussion
    (consistent : context.Consistent)
    (names : context.NamesAssessment)
    (discussed : Discussion policy utterance context deeds next) :
    next.WellFormed := by
  cases discussed with
  | nothingToDiscuss | notUnderstood | notTakenUp =>
      exact .errored consistent
  | revision =>
      exact .awaitingRevision consistent names
  | newAnalysis =>
      exact .awaitingRequirements consistent _
  | unclear =>
      exact .discussingPlan consistent names
  | takenUp _ started _ ending =>
      have consistentStill :=
        consistent.withInteraction names started.interactionId
      cases ending with
      | exhausted =>
          exact .errored consistentStill
      | stopped | answered =>
          exact .discussingPlan consistentStill ⟨names.1, names.2⟩

/-- An utterance leaves a well-formed conversation and is never refused. -/
theorem of_handling
    {conversation : Conversation}
    {outcome : Except Fault Conversation}
    (wellFormed : conversation.WellFormed)
    (handling :
      Handling policy utterance now conversation deeds outcome) :
    ∃ next, outcome = .ok next ∧ next.WellFormed := by
  cases handling with
  | goalTaken context =>
      exact ⟨_, rfl, .awaitingRequirements wellFormed.consistent _⟩
  | planCreated created =>
      exact ⟨_, rfl, of_planCreation wellFormed.consistent created⟩
  | planRevised revised =>
      exact ⟨_, rfl, of_planRevision wellFormed.consistent
        (wellFormed.revisionNamed rfl) revised⟩
  | discussed discussed =>
      exact ⟨_, rfl, of_discussion wellFormed.consistent
        (wellFormed.discussionNamed rfl) discussed⟩
  | apologised context =>
      exact ⟨_, rfl, .awaitingGoal (context.consistent_restarted now)⟩
  | refused context =>
      exact absurd rfl wellFormed.started

end WellFormed

/-! ## What makes a step fail -/

/-- A revision knows its engagement and its assessment. -/
theorem remoteIds_of_names
    (names : context.NamesAssessment) :
    ∃ engagementId assessmentId,
      remoteIds context = .ok (engagementId, assessmentId) := by
  obtain ⟨engagementId, engagement⟩ :=
    Option.isSome_iff_exists.mp names.engagement
  obtain ⟨assessmentId, assessment⟩ :=
    Option.isSome_iff_exists.mp names.assessment
  exact ⟨engagementId, assessmentId, by
    rw [remoteIds, engagement, assessment]⟩

/-- A discussion knows its engagement. -/
theorem followUpEngagement_of_names
    (names : context.NamesAssessment) :
    ∃ engagementId,
      followUpEngagement context = .ok engagementId := by
  obtain ⟨engagementId, engagement⟩ :=
    Option.isSome_iff_exists.mp names.engagement
  exact ⟨engagementId, by rw [followUpEngagement, engagement]⟩

end Conversation

/-- Whether an answer reports a failure. -/
def Request.Fails : (request : Request) → request.Answer → Prop
  | .service _, answer => ∃ fault, answer = .error fault
  | .storePlan _, answer => ∃ fault, answer = .error fault
  | .exportPlan .., answer => ∃ fault, answer = .error fault
  | .workspaceIsEmpty, _ => False

/-- What is done when the workspace is found empty. -/
def FoundEmpty (deeds : List Deed) : Prop :=
  deeds = Request.exchange .workspaceIsEmpty true

/-- What is done when the last answer reports a failure. -/
def Failed (deeds : List Deed) : Prop :=
  ∃ earlier request answer,
    Request.Fails request answer ∧
      deeds =
        earlier ++ [.answered request answer, .said .clearedPlaceholder]

namespace Failed

variable {deeds : List Deed}

/-- An operation that fails is a failure. -/
theorem of_call
    (earlier : List Deed)
    (call : ServiceCall)
    (fault : Fault) :
    Failed
      (earlier ++ call.exchange (.error fault) ++
        [.said .clearedPlaceholder]) :=
  ⟨earlier ++ [.asked (.service call)], .service call, .error fault,
    ⟨fault, rfl⟩, by simp [ServiceCall.exchange, Request.exchange]⟩

/-- A plan that cannot be stored is a failure. -/
theorem of_store
    (earlier : List Deed)
    (plan : PlanArtifact)
    (fault : Fault) :
    Failed
      (earlier ++ Request.exchange (.storePlan plan) (.error fault) ++
        [.said .clearedPlaceholder]) :=
  ⟨earlier ++ [.asked (.storePlan plan)], .storePlan plan, .error fault,
    ⟨fault, rfl⟩, by simp [Request.exchange]⟩

/-- A failure is one whatever was done before. -/
theorem after
    (failed : Failed deeds)
    (earlier : List Deed) :
    Failed (earlier ++ deeds) := by
  obtain ⟨before, request, answer, fails, rfl⟩ := failed
  exact ⟨earlier ++ before, request, answer, fails,
    (List.append_assoc ..).symm⟩

end Failed

namespace Conversation

variable
  {policy : PollPolicy}
  {utterance streamId : String}
  {now : Timestamp}
  {deeds : List Deed}
  {context : Context}
  {engagementId : EngagementId}
  {assessmentId : AssessmentId}
  {next : Conversation}

/-- An assessment is not started because a call failed. -/
theorem AssessmentStart.failed
    {fault : Fault}
    (start : AssessmentStart utterance context deeds (.error fault)) :
    Failed (deeds ++ [.said .clearedPlaceholder]) := by
  cases start with
  | noEngagement ensured =>
      cases ensured with
      | notCreated =>
          exact .of_call [] .createEngagement fault
  | notUploaded =>
      exact .of_call _ _ fault
  | notStarted =>
      exact .of_call _ _ fault

/-- A delivery that ends in the errored phase has failed. -/
theorem Delivery.failed
    (delivery : Delivery context engagementId assessmentId deeds next)
    (errored : next.phase = .errored) :
    Failed deeds := by
  cases delivery with
  | notDownloaded fault =>
      exact .of_call [] _ fault
  | notStored content fault =>
      exact .of_store _ _ fault
  | delivered =>
      cases errored

/-- A plan that ends in the errored phase has failed. -/
theorem PlanEnding.failed
    (ending :
      PlanEnding policy context streamId engagementId assessmentId
        deeds next)
    (errored : next.phase = .errored) :
    Failed deeds := by
  cases ending with
  | exhausted fault =>
      exact (Failed.of_call _ _ fault).after [_]
  | stopped | notCompleted =>
      cases errored
  | completed _ _ delivery =>
      exact ((delivery.failed errored).after _).after [_]

/-- A discussion that ends in the errored phase has failed. -/
theorem Discussion.failed
    (names : context.NamesAssessment)
    (discussed : Discussion policy utterance context deeds next)
    (errored : next.phase = .errored) :
    Failed deeds := by
  cases discussed with
  | nothingToDiscuss unnamed =>
      obtain ⟨engagementId, named⟩ := followUpEngagement_of_names names
      rw [named] at unnamed
      cases unnamed
  | notUnderstood fault =>
      exact .of_call [] _ fault
  | notTakenUp streamId fault =>
      exact .of_call _ _ fault
  | takenUp streamId started _ ending =>
      cases ending with
      | exhausted fault =>
          exact (Failed.of_call _ _ fault).after _
      | stopped | answered =>
          cases errored
  | revision | newAnalysis | unclear =>
      cases errored

/-- A step fails because the workspace is empty or an answer reports a failure. -/
theorem Handling.cause
    {conversation : Conversation}
    (wellFormed : conversation.WellFormed)
    (handling :
      Handling policy utterance now conversation deeds (.ok next))
    (errored : next.phase = .errored) :
    FoundEmpty deeds ∨ Failed deeds := by
  cases handling with
  | goalTaken | apologised =>
      cases errored
  | planCreated created =>
      cases created with
      | emptyWorkspace =>
          exact .inl rfl
      | notStarted streamId start =>
          rw [List.append_assoc]
          exact .inr (start.failed.after _)
      | started streamId _ _ ending =>
          exact .inr ((ending.failed errored).after _)
  | planRevised revised =>
      cases revised with
      | nothingToRevise streamId unnamed =>
          obtain ⟨engagementId, assessmentId, named⟩ :=
            remoteIds_of_names (wellFormed.revisionNamed rfl)
          rw [named] at unnamed
          cases unnamed
      | notUpdated streamId fault =>
          exact .inr (.of_call _ _ fault)
      | updated streamId status _ ending =>
          exact .inr ((ending.failed errored).after _)
  | discussed discussed =>
      exact .inr
        (discussed.failed (wellFormed.discussionNamed rfl) errored)

/-- Help says what the assistant can do, and nothing else. -/
theorem carryOut_help_yields
    {conversation : Conversation}
    {outcome : Except Fault Conversation}
    (yields :
      (conversation.carryOut now .help).Yields policy deeds outcome) :
    deeds = [.said helpNotice] ∧
      outcome = .ok (afterHelp conversation.context) := by
  obtain ⟨_, finished, rfl⟩ := yields.of_say_bind
  obtain ⟨rfl, rfl⟩ := finished.of_pure
  exact ⟨rfl, rfl⟩

end Conversation

/-! ## Turns and runs -/

namespace Turn

variable
  {policy : PollPolicy}
  {earlier : List Move}
  {turn : Turn}
  {outcome : Except Fault Conversation}

/-- A turn that has come to its end has taken a course of its job. -/
theorem Holds.yields
    (holds : turn.Holds policy earlier)
    (ended : turn.outcome? = some outcome) :
    (turn.before.carryOut turn.opening.now turn.queued.job).Yields policy
      turn.interaction.deeds outcome := by
  have reaches := Conversation.handling?_reaches holds.handled
  rwa [Activity.outcome?_eq_some.mp ended] at reaches

/-- A turn that finds what it needs and in which no check of a name fails. -/
structure Sound (turn : Turn) : Prop where
  before :
    turn.before.WellFormed
  after :
    turn.after.WellFormed
  revisionNamed :
    turn.before.phase = .awaitingRevision →
    ∃ ids, Conversation.remoteIds turn.before.context = .ok ids
  discussionNamed :
    turn.before.phase = .discussingPlan →
    ∃ engagementId,
      Conversation.followUpEngagement turn.before.context =
        .ok engagementId
  accepted :
    ∀ fault, turn.outcome? ≠ some (.error fault)
  cause :
    ∀ next,
      turn.outcome? = some (.ok next) →
      next.phase = .errored →
      FoundEmpty turn.interaction.deeds ∨ Failed turn.interaction.deeds

/-- A turn on a well-formed conversation is sound. -/
theorem Holds.sound
    (holds : turn.Holds policy earlier)
    (wellFormed : turn.before.WellFormed) :
    turn.Sound := by
  have ends (outcome) (ended : turn.outcome? = some outcome) :
      ∃ next,
        outcome = .ok next ∧ next.WellFormed ∧
          (next.phase = .errored →
            FoundEmpty turn.interaction.deeds ∨
              Failed turn.interaction.deeds) := by
    have yields := holds.yields ended
    cases job : turn.queued.job with
    | help =>
        rw [job] at yields
        obtain ⟨-, rfl⟩ := Conversation.carryOut_help_yields yields
        exact ⟨_, rfl, .afterHelp wellFormed.consistent, nofun⟩
    | utterance text =>
        rw [job] at yields
        have handling := Conversation.interact_yields yields
        obtain ⟨next, rfl, nextWellFormed⟩ := wellFormed.of_handling handling
        exact ⟨next, rfl, nextWellFormed, handling.cause wellFormed⟩
  refine ⟨wellFormed, ?_, ?_, ?_, ?_, ?_⟩
  · cases ended : turn.outcome? with
    | none =>
        rw [after, ended]
        exact wellFormed
    | some outcome =>
        obtain ⟨next, rfl, nextWellFormed, -⟩ := ends outcome ended
        rw [after, ended]
        exact nextWellFormed
  · intro revising
    obtain ⟨engagementId, assessmentId, named⟩ :=
      Conversation.remoteIds_of_names (wellFormed.revisionNamed revising)
    exact ⟨_, named⟩
  · intro discussing
    exact Conversation.followUpEngagement_of_names
      (wellFormed.discussionNamed discussing)
  · intro fault ended
    obtain ⟨next, refused, -⟩ := ends _ ended
    cases refused
  · intro next ended errored
    obtain ⟨_, same, -, cause⟩ := ends _ ended
    cases same
    exact cause errored

end Turn

/-- Turns after a well-formed conversation are sound and leave one. -/
theorem Chronicle.sound
    {policy : PollPolicy}
    {first last : Conversation}
    {moves : List Move}
    {turns : List Turn}
    (chronicle : Chronicle policy first moves turns last)
    (wellFormed : first.WellFormed) :
    last.WellFormed ∧ ∀ turn ∈ turns, turn.Sound := by
  induction chronicle with
  | opened =>
      exact ⟨wellFormed, by simp⟩
  | turned _ holds _ inductionHypothesis =>
      have sound := holds.sound inductionHypothesis.1
      refine ⟨sound.after, ?_⟩
      intro turn member
      rcases List.mem_append.mp member with earlier | newest
      · exact inductionHypothesis.2 turn earlier
      · cases List.mem_singleton.mp newest
        exact sound

/-- The turn under way is sound too. -/
theorem Ledger.sound
    {policy : PollPolicy}
    {first : Conversation}
    {moves : List Move}
    (ledger : Ledger policy first moves)
    (wellFormed : first.WellFormed) :
    ∀ turn ∈ ledger.turns, turn.Sound := by
  obtain ⟨lastWellFormed, sound⟩ := ledger.chronicle.sound wellFormed
  intro turn member
  rcases List.mem_append.mp member with finished | current
  · exact sound turn finished
  · obtain ⟨holds, before, -⟩ :=
      ledger.underWay turn (Option.mem_toList.mp current)
    rw [← before] at lastWellFormed
    exact holds.sound lastWellFormed

/--
A new session keeps its conversation well-formed in every run.  In each of its
turns the names that the phase needs are there, no utterance is refused, and a
step fails only when the workspace is empty or an answer reports a failure.  So
no handle learns of a fault but that its job was dropped.
-/
theorem conversation_wellFormed_throughout
    {policy : PollPolicy}
    {sessionId : String}
    {now : Timestamp}
    {moves : List Move}
    {outputs : List Output}
    {session : Session}
    (run : Run policy (.fresh sessionId now) moves outputs session) :
    session.conversation.WellFormed ∧
      (∀ handle fault,
        .resolved handle (.error fault) ∈ outputs →
        fault = Session.disposalFault) ∧
      ∃ account :
          Account policy (.start sessionId now) moves outputs session,
        ∀ turn ∈ account.ledger.turns, turn.Sound := by
  obtain ⟨account⟩ := run.account
  have first := Conversation.WellFormed.start sessionId now
  have sound := account.ledger.sound first
  refine ⟨?_, ?_, account, sound⟩
  · rw [← account.last_eq]
    exact (account.ledger.chronicle.sound first).1
  · intro handle fault resolved
    have learnt :
        (handle, .error fault) ∈
          outputs.filterMap Output.resolution? :=
      List.mem_filterMap.mpr ⟨_, resolved, rfl⟩
    rw [account.resolutions] at learnt
    rcases List.mem_append.mp learnt with own | dropped
    · obtain ⟨turn, member, resolution⟩ := List.mem_filterMap.mp own
      obtain ⟨outcome, ended, same⟩ :=
        Option.map_eq_some_iff.mp resolution
      have accepted :=
        (sound turn (List.mem_append_left _ member)).accepted
      cases outcome with
      | ok next =>
          cases same
      | error refused =>
          exact absurd ended (accepted refused)
    · unfold Session.droppedResolutions at dropped
      split at dropped
      · obtain ⟨queued, -, same⟩ := List.mem_map.mp dropped
        cases same
        rfl
      · cases dropped

/-- An empty workspace leaves a well-formed conversation with an apology to make. -/
theorem conversation_wellFormed_after_empty_workspace :
    ∃ moves outputs session,
      Run ⟨0, 3⟩ (.fresh "S1" ⟨0, 0⟩) moves outputs session ∧
      session.conversation.phase = .errored ∧
      session.conversation.context.apology =
        some Wording.emptyWorkspace ∧
      session.conversation.WellFormed := by
  let moves : List Move :=
    [.signal (.enqueue ⟨0, .utterance "goal"⟩),
      .signal (.enqueue ⟨1, .utterance "go"⟩),
      .proceed ⟨"A1", ⟨1, 0⟩⟩ false,
      .proceed ⟨"A1", ⟨2, 0⟩⟩ false,
      .receive ⟨"A1", ⟨3, 0⟩⟩ .workspaceIsEmpty true]
  have run : Run ⟨0, 3⟩ (.fresh "S1" ⟨0, 0⟩) moves _ _ :=
    Run.start.moveAll rfl
  exact ⟨moves, _, _, run, rfl, rfl,
    (conversation_wellFormed_throughout run).1⟩

end AssessmentChat
