import AssessmentChat.Proofs.ConversationWellFormed
import AssessmentChat.Proofs.KeptPlans

namespace AssessmentChat

/-!
# Conversations that go well

From now on the workspace has files, every request succeeds, every job that is
watched is completed at its first status, and nothing is told to stop.  However
the conversation went before, it is then a few utterances away from a plan, and
what they say does not matter.

That everything goes well is said of what happens to an interaction, not of its
procedure.  An interaction is bound to succeed when it can go on, and every way
of going on in which all goes well brings it nearer to an end that is wanted.
-/

/-- A reply of the service to a job that is watched says that it is completed. -/
def ServiceCall.Completes : (call : ServiceCall) → call.Reply → Prop
  | .assessmentStatus .., report => report.status = .completed
  | .interactionStatus .., report => report.status = .completed
  | _, _ => True

/-- An answer with which all goes well. -/
def Request.Succeeds : (request : Request) → request.Answer → Prop
  | .workspaceIsEmpty, answer => answer = false
  | .service call, answer => ∃ reply, answer = .ok reply ∧ call.Completes reply
  | .storePlan _, answer => ∃ locator, answer = .ok locator
  | .exportPlan .., answer => ∃ locator, answer = .ok locator

/-- An occurrence with which all goes well. -/
def Occurrence.GoesWell : Occurrence → Prop
  | .toldToStop => False
  | .woken _ => True
  | .answered _ request answer => request.Succeeds answer

namespace Interaction

/--
An interaction that comes to a wanted end when all goes well: it can go on until
it has ended, and every way of going on well brings it nearer.
-/
inductive BoundToSucceed
    (policy : PollPolicy)
    (wanted : List Deed → α → Prop) : Interaction α → Prop where
  | finished
      {interaction : Interaction α}
      {result : α} :
      interaction.activity = .finished result →
      wanted interaction.deeds result →
      BoundToSucceed policy wanted interaction
  | onward
      {interaction : Interaction α} :
      (∃ occurrence next,
        occurrence.GoesWell ∧
          interaction.meet? policy occurrence = some next) →
      (∀ occurrence next,
        occurrence.GoesWell →
        interaction.meet? policy occurrence = some next →
        BoundToSucceed policy wanted next) →
      BoundToSucceed policy wanted interaction

end Interaction

/-! ## Procedures when all goes well -/

namespace Procedure

/--
The end of a procedure is wanted whenever all goes well, given what has been done
before.  A job that is watched has to end its watch with the status that
completes it.
-/
def Succeeds (wanted : List Deed → α → Prop) :
    Procedure α → List Deed → Prop
  | .finish result, deeds => wanted deeds result
  | .publish notice next, deeds =>
      next.Succeeds wanted (deeds ++ [.said notice])
  | .nameStream next, deeds =>
      ∀ name, (next name).Succeeds wanted deeds
  | .ask request next, deeds =>
      ∀ answer,
        request.Succeeds answer →
        (next answer).Succeeds wanted (deeds ++ request.exchange answer)
  | .watch call isTerminal _ next, deeds =>
      ∀ reply,
        call.Completes reply →
        isTerminal reply = true ∧
          (next (.ok (.terminal reply))).Succeeds wanted
            (deeds ++ call.exchange (.ok reply))

/-- A procedure that comes to more than is wanted comes to that. -/
theorem Succeeds.mono
    {wanted wantedToo : List Deed → α → Prop}
    {procedure : Procedure α}
    {deeds : List Deed}
    (succeeds : procedure.Succeeds wanted deeds)
    (weaker : ∀ deeds result, wanted deeds result → wantedToo deeds result) :
    procedure.Succeeds wantedToo deeds := by
  induction procedure generalizing deeds with
  | finish result =>
      exact weaker deeds result succeeds
  | publish notice next inductionHypothesis =>
      exact inductionHypothesis succeeds
  | nameStream next inductionHypothesis =>
      exact fun name => inductionHypothesis name (succeeds name)
  | ask request next inductionHypothesis =>
      exact fun answer well => inductionHypothesis answer (succeeds answer well)
  | watch call isTerminal report next inductionHypothesis =>
      intro reply completes
      obtain ⟨terminal, rest⟩ := succeeds reply completes
      exact ⟨terminal, inductionHypothesis _ rest⟩

/-- A procedure succeeds when its first part leads to where the rest succeeds. -/
theorem Succeeds.bind
    {wanted : List Deed → β → Prop}
    {first : Procedure α}
    {next : α → Procedure β}
    {deeds : List Deed}
    (succeeds :
      first.Succeeds (fun deeds middle => (next middle).Succeeds wanted deeds)
        deeds) :
    (first >>= next).Succeeds wanted deeds := by
  induction first generalizing deeds with
  | finish result =>
      exact succeeds
  | publish notice rest inductionHypothesis =>
      exact inductionHypothesis succeeds
  | nameStream rest inductionHypothesis =>
      exact fun name => inductionHypothesis name (succeeds name)
  | ask request rest inductionHypothesis =>
      exact fun answer well => inductionHypothesis answer (succeeds answer well)
  | watch call isTerminal report rest inductionHypothesis =>
      intro reply completes
      obtain ⟨terminal, restSucceeds⟩ := succeeds reply completes
      exact ⟨terminal, inductionHypothesis _ restSucceeds⟩

end Procedure

/-- Every request can succeed. -/
theorem Request.exists_succeeds
    (request : Request) :
    ∃ answer, request.Succeeds answer := by
  cases request with
  | workspaceIsEmpty =>
      exact ⟨false, rfl⟩
  | storePlan | exportPlan =>
      exact ⟨.ok ⟨""⟩, _, rfl⟩
  | service call =>
      cases call with
      | createEngagement =>
          exact ⟨.ok ⟨""⟩, _, rfl, trivial⟩
      | uploadWorkspace =>
          exact ⟨.ok (), _, rfl, trivial⟩
      | startAssessment | startInteraction =>
          exact ⟨.ok ⟨"", .inProgress⟩, _, rfl, trivial⟩
      | updateAssessment | stopAssessment =>
          exact ⟨.ok .inProgress, _, rfl, trivial⟩
      | assessmentStatus | interactionStatus =>
          exact ⟨.ok ⟨.completed, ""⟩, _, rfl, rfl⟩
      | downloadPlan =>
          exact ⟨.ok "", _, rfl, trivial⟩
      | deriveIntent =>
          exact ⟨.ok .unclear, _, rfl, trivial⟩

namespace Interaction.BoundToSucceed

variable
  {policy : PollPolicy}
  {wanted : List Deed → α → Prop}

/-- A request in flight that leads to a wanted end with every good answer. -/
theorem of_asking
    {request : Request}
    {next : request.Answer → Procedure α}
    {deeds : List Deed}
    (leads :
      ∀ answer freshName,
        request.Succeeds answer →
        BoundToSucceed policy wanted
          (goOn ⟨deeds, .asking request next, false⟩
            [.answered request answer]
            ((next answer).advance freshName))) :
    BoundToSucceed policy wanted ⟨deeds, .asking request next, false⟩ := by
  obtain ⟨answer, well⟩ := request.exists_succeeds
  refine .onward
    ⟨.answered "" request answer, _, well,
      Option.map_eq_some_iff.mpr
        ⟨_, Activity.receive?_asking_eq_some.mpr ⟨rfl, rfl⟩, rfl⟩⟩ ?_
  intro occurrence after goesWell met
  cases occurrence with
  | toldToStop =>
      exact goesWell.elim
  | woken freshName =>
      cases met
  | answered freshName asked answer =>
      obtain ⟨stretch, received, rfl⟩ := Option.map_eq_some_iff.mp met
      obtain ⟨rfl, rfl⟩ := Activity.receive?_asking_eq_some.mp received
      exact leads _ freshName goesWell

/-- A job that is completed at its first status ends its watch. -/
theorem of_pausing
    {watch : Watch α}
    {deeds : List Deed}
    (leads :
      ∀ reply freshName,
        watch.call.Completes reply →
        watch.isTerminal reply = true ∧
          BoundToSucceed policy wanted
            (goOn
              ⟨deeds ++ [.asked (.service watch.call)], .checking watch,
                false⟩
              [.answered (.service watch.call) (.ok reply)]
              ((watch.next (.ok (.terminal reply))).advance freshName))) :
    BoundToSucceed policy wanted ⟨deeds, .pausing watch, false⟩ := by
  refine .onward ⟨.woken "", _, trivial, rfl⟩ ?_
  intro occurrence after goesWell met
  cases occurrence with
  | toldToStop =>
      exact goesWell.elim
  | answered freshName asked answer =>
      cases met
  | woken freshName =>
      cases met
      obtain ⟨answer, well⟩ := (Request.service watch.call).exists_succeeds
      refine .onward
        ⟨.answered "" (.service watch.call) answer, _, well,
          Option.map_eq_some_iff.mpr
            ⟨_, Activity.receive?_checking_eq_some.mpr ⟨rfl, rfl⟩, rfl⟩⟩ ?_
      intro occurrence after goesWell met
      cases occurrence with
      | toldToStop =>
          exact goesWell.elim
      | woken freshName =>
          cases met
      | answered freshName asked answer =>
          obtain ⟨stretch, received, rfl⟩ := Option.map_eq_some_iff.mp met
          obtain ⟨rfl, rfl⟩ :=
            Activity.receive?_checking_eq_some.mp received
          obtain ⟨reply, rfl, completes⟩ := goesWell
          obtain ⟨terminal, further⟩ := leads reply freshName completes
          simpa [Watch.receive, PollPolicy.judge, terminal, goOn,
            Stretch.deeds, Watch.elapse, Activity.inFlight?,
            Except.map] using further

/-- An interaction of a procedure that succeeds is bound to succeed. -/
theorem of_procedure
    {procedure : Procedure α}
    {deeds : List Deed}
    (freshName : String)
    (succeeds : procedure.Succeeds wanted deeds) :
    let stretch := procedure.advance freshName
    BoundToSucceed policy wanted
      ⟨deeds ++ stretch.deeds, stretch.reached, false⟩ := by
  induction procedure generalizing deeds freshName with
  | finish result =>
      have reached : wanted deeds result := succeeds
      exact .finished rfl (by
        simpa [Procedure.advance, Stretch.deeds, Activity.inFlight?]
          using reached)
  | publish notice next inductionHypothesis =>
      have further := inductionHypothesis freshName succeeds
      simpa [Procedure.advance, Stretch.deeds, Stretch.after] using further
  | nameStream next inductionHypothesis =>
      exact inductionHypothesis freshName freshName (succeeds freshName)
  | ask request next inductionHypothesis =>
      refine of_asking ?_
      intro answer freshName well
      have further :=
        inductionHypothesis answer freshName (succeeds answer well)
      simpa [goOn, Procedure.advance, Stretch.deeds, Activity.inFlight?,
        Request.exchange] using further
  | watch call isTerminal report next inductionHypothesis =>
      refine of_pausing ?_
      intro reply freshName completes
      obtain ⟨terminal, rest⟩ := succeeds reply completes
      refine ⟨terminal, ?_⟩
      have further := inductionHypothesis _ freshName rest
      simpa [goOn, Procedure.advance, Stretch.deeds, Activity.inFlight?,
        ServiceCall.exchange, Request.exchange] using further

end Interaction.BoundToSucceed

/-! ## What each phase comes to -/

theorem Procedure.Succeeds.of_sayAll
    {wanted : List Deed → α → Prop}
    {notices : List Notice}
    {next : Unit → Procedure α}
    {deeds : List Deed}
    (succeeds :
      (next ()).Succeeds wanted (deeds ++ notices.map .said)) :
    (sayAll notices >>= next).Succeeds wanted deeds := by
  induction notices generalizing deeds with
  | nil =>
      rwa [List.map_nil, List.append_nil] at succeeds
  | cons notice rest inductionHypothesis =>
      exact inductionHypothesis (by simpa using succeeds)

/-- So many plans have been kept between two moments. -/
def KeepsPlans
    (count : Nat)
    (before after : List Deed) : Prop :=
  (keptPlans after).length = (keptPlans before).length + count

@[simp] theorem storings_service
    (call : ServiceCall)
    (answer : Except Fault call.Reply) :
    storings ((Request.service call).exchange answer) = [] :=
  rfl

namespace Conversation

open Procedure

variable
  {utterance streamId : String}
  {now : Timestamp}
  {before deeds : List Deed}
  {context : Context}
  {engagementId : EngagementId}
  {assessmentId : AssessmentId}

/-- One plan has been kept, and the conversation is about it. -/
def Planned
    (before after : List Deed)
    (next : Conversation) : Prop :=
  next.phase = .discussingPlan ∧ KeepsPlans 1 before after

/-- A delivery that goes well comes to a plan. -/
theorem deliverPlan_succeeds
    (keeps : KeepsPlans 0 before deeds) :
    (deliverPlan context engagementId assessmentId).Succeeds
      (Planned before) deeds := by
  rintro _ ⟨content, rfl, -⟩ _ ⟨locator, rfl⟩
  refine ⟨rfl, ?_⟩
  simpa [KeepsPlans, keptPlans, Storing.kept?, Except.toOption] using keeps

/-- A watched assessment of which all goes well comes to its plan. -/
theorem executePlan_succeeds
    (ids : remoteIds context = .ok (engagementId, assessmentId))
    (keeps : KeepsPlans 0 before deeds) :
    (executePlan context streamId).Succeeds (Planned before) deeds := by
  unfold executePlan
  rw [ids]
  intro report completes
  have completed : report.status = .completed := completes
  constructor
  · simp [AssessmentReport.isTerminal, JobStatus.isTerminal, completed]
  · refine .of_sayAll ?_
    rw [completed]
    refine deliverPlan_succeeds ?_
    simpa [KeepsPlans, keptPlans] using keeps

/-- An engagement is ensured if all goes well. -/
theorem ensureEngagement_succeeds
    (keeps : KeepsPlans 0 before deeds) :
    (ensureEngagement context).run.Succeeds
      (fun after outcome =>
        (∃ engagementId, outcome = .ok engagementId) ∧
          KeepsPlans 0 before after)
      deeds := by
  unfold ensureEngagement
  cases known : context.engagementId with
  | some engagementId =>
      exact ⟨⟨engagementId, rfl⟩, keeps⟩
  | none =>
      rintro _ ⟨engagement, rfl, -⟩
      refine ⟨⟨engagement.engagementId, rfl⟩, ?_⟩
      simpa [KeepsPlans, keptPlans] using keeps

/-- A first assessment is started, and its context names it. -/
theorem startAssessment_succeeds
    (keeps : KeepsPlans 0 before deeds) :
    (startAssessment utterance context).run.Succeeds
      (fun after outcome =>
        (∃ started engagementId assessmentId,
          outcome = .ok started ∧
            remoteIds started = .ok (engagementId, assessmentId)) ∧
          KeepsPlans 0 before after)
      deeds := by
  refine Succeeds.bind ((ensureEngagement_succeeds keeps).mono ?_)
  rintro ensured _ ⟨⟨engagementId, rfl⟩, keeps⟩
  rintro _ ⟨uploaded, rfl, -⟩ _ ⟨started, rfl, -⟩
  refine ⟨⟨_, engagementId, started.assessmentId, rfl, rfl⟩, ?_⟩
  simpa [KeepsPlans, keptPlans] using keeps

/-- A creation that goes well comes to a plan. -/
theorem createPlan_succeeds
    (keeps : KeepsPlans 0 before deeds) :
    (createPlan utterance context).Succeeds (Planned before) deeds := by
  rintro _ rfl streamId
  change Succeeds _ ((startAssessment utterance context).run >>= _) _
  refine
    .bind
      (.mono (@startAssessment_succeeds utterance before _ context ?_) ?_)
  · simpa [KeepsPlans, keptPlans] using keeps
  · rintro after _ ⟨⟨started, engagementId, assessmentId, rfl, ids⟩, keeps⟩
    exact executePlan_succeeds ids keeps

/-- A revision that goes well comes to a plan. -/
theorem revisePlan_succeeds
    (names : context.NamesAssessment)
    (keeps : KeepsPlans 0 before deeds) :
    (revisePlan utterance context).Succeeds (Planned before) deeds := by
  obtain ⟨engagementId, assessmentId, ids⟩ := remoteIds_of_names names
  unfold revisePlan
  rw [ids]
  rintro streamId _ ⟨status, rfl, -⟩
  refine executePlan_succeeds ids ?_
  simpa [KeepsPlans, keptPlans] using keeps

/-! ## Utterances up to the next plan -/

/--
The conversation comes to a plan with so many further utterances, whatever they
say, and not before; each of them is accepted, and by then so many plans have
been kept.
-/
def ComesToPlan
    (policy : PollPolicy) :
    Nat → Nat → Conversation → Prop
  | 0, plans, conversation =>
      conversation.phase = .discussingPlan ∧ plans = 0
  | utterances + 1, plans, conversation =>
      conversation.phase ≠ .discussingPlan ∧
        ∀ (text : String) (moment : Moment),
          (Interaction.start moment.freshName false
            (conversation.interact text moment.now)).BoundToSucceed policy
            fun deeds outcome =>
              ∃ next later,
                outcome = .ok next ∧
                  plans = (keptPlans deeds).length + later ∧
                  next.ComesToPlan policy utterances later

variable {policy : PollPolicy}

/-- What a phase does with an utterance leads on when all goes well. -/
theorem comesToPlan_succ
    {conversation : Conversation}
    {utterances plans : Nat}
    (notYet : conversation.phase ≠ .discussingPlan)
    (handle : String → Timestamp → Procedure Conversation)
    (handles :
      ∀ text now, conversation.interact text now = .ok <$> handle text now)
    (succeeds :
      ∀ text now,
        (handle text now).Succeeds
          (fun deeds next =>
            ∃ later,
              plans = (keptPlans deeds).length + later ∧
                next.ComesToPlan policy utterances later)
          []) :
    conversation.ComesToPlan policy (utterances + 1) plans := by
  refine ⟨notYet, ?_⟩
  intro text moment
  rw [handles]
  refine .of_procedure moment.freshName (.bind ((succeeds _ _).mono ?_))
  rintro deeds next ⟨later, kept, onward⟩
  exact ⟨next, later, rfl, kept, onward⟩

/-- One plan kept and the conversation about it, with no utterance left to say. -/
theorem Planned.comesToPlan
    {deeds : List Deed}
    {next : Conversation}
    (planned : Planned [] deeds next) :
    ∃ later,
      1 = (keptPlans deeds).length + later ∧
        next.ComesToPlan policy 0 later := by
  obtain ⟨discussing, kept⟩ := planned
  refine ⟨0, ?_, discussing, rfl⟩
  simpa [KeepsPlans, keptPlans] using kept.symm

theorem awaitingRequirements_comesToPlan
    (context : Context) :
    ComesToPlan policy 1 1 ⟨.awaitingRequirements, context⟩ := by
  refine comesToPlan_succ nofun (fun text _ => createPlan text context)
    (fun _ _ => rfl) ?_
  intro text now
  exact (createPlan_succeeds rfl).mono fun _ _ planned =>
    planned.comesToPlan

theorem awaitingRevision_comesToPlan
    (names : context.NamesAssessment) :
    ComesToPlan policy 1 1 ⟨.awaitingRevision, context⟩ := by
  refine comesToPlan_succ nofun (fun text _ => revisePlan text context)
    (fun _ _ => rfl) ?_
  intro text now
  exact (revisePlan_succeeds names rfl).mono fun _ _ planned =>
    planned.comesToPlan

theorem awaitingGoal_comesToPlan
    (context : Context) :
    ComesToPlan policy 2 1 ⟨.awaitingGoal, context⟩ := by
  refine comesToPlan_succ nofun (fun text _ => clarify text context)
    (fun _ _ => rfl) ?_
  intro text now
  exact ⟨1, rfl, awaitingRequirements_comesToPlan _⟩

theorem errored_comesToPlan
    (context : Context) :
    ComesToPlan policy 3 1 ⟨.errored, context⟩ := by
  refine comesToPlan_succ nofun (fun _ now => apologise context now)
    (fun _ _ => rfl) ?_
  intro text now
  exact ⟨1, rfl, awaitingGoal_comesToPlan _⟩

end Conversation

/-! ## Conversations that were never started -/

/-- An utterance is refused and changes nothing. -/
theorem Turn.Holds.refused
    {policy : PollPolicy}
    {earlier : List Move}
    {turn : Turn}
    {text : String}
    (holds : turn.Holds policy earlier)
    (notStarted : turn.before.phase = .notStarted)
    (utterance : turn.queued.job = .utterance text) :
    turn.outcome? = some (.error turn.before.refusal) ∧
      turn.after = turn.before := by
  have reaches := Conversation.handling?_reaches holds.handled
  have refuses :
      turn.before.carryOut turn.opening.now turn.queued.job =
        .finish (.error turn.before.refusal) := by
    rw [utterance]
    simp only [Conversation.carryOut, Conversation.interact, notStarted]
    rfl
  rw [refuses] at reaches
  have ended : turn.outcome? = some (.error turn.before.refusal) := by
    unfold Turn.outcome?
    generalize turn.interaction.deeds = deeds at reaches
    generalize turn.interaction.activity = activity at reaches
    cases reaches
    rfl
  refine ⟨ended, ?_⟩
  rw [after, ended]
  rfl

/-- Help leads out of any phase, to the start. -/
theorem Turn.Holds.helped
    {policy : PollPolicy}
    {earlier : List Move}
    {turn : Turn}
    (holds : turn.Holds policy earlier)
    (help : turn.queued.job = .help) :
    turn.after = Conversation.afterHelp turn.before.context := by
  have reaches := Conversation.handling?_reaches holds.handled
  rw [help] at reaches
  unfold after Turn.outcome?
  generalize turn.interaction.deeds = deeds at reaches
  generalize turn.interaction.activity = activity at reaches
  cases reaches with
  | publish finished =>
      cases finished
      rfl

/--
Wherever a new session has come to, a plan is a few utterances away when all goes
well from now on: one after the requirements or the wish for a revision have been
asked for, two at the start, and three after a failure.  Each of them is accepted
whatever it says, and one plan is kept on the way.  The conversation is never one
that was not started.  Such a one refuses every utterance and stays what it is,
and a request for help leads it to the start.
-/
theorem plan_within_reach
    {policy : PollPolicy}
    {sessionId : String}
    {now : Timestamp}
    {moves : List Move}
    {outputs : List Output}
    {session : Session}
    (run : Run policy (.fresh sessionId now) moves outputs session) :
    let conversation := session.conversation
    (conversation.phase = .awaitingRequirements ∨
        conversation.phase = .awaitingRevision →
      conversation.ComesToPlan policy 1 1) ∧
      (conversation.phase = .awaitingGoal →
        conversation.ComesToPlan policy 2 1) ∧
      (conversation.phase = .errored →
        conversation.ComesToPlan policy 3 1) ∧
      conversation.phase ≠ .notStarted ∧
      ∀ (turn : Turn) (earlier : List Move),
        turn.Holds policy earlier →
        turn.before.phase = .notStarted →
        (∀ text,
            turn.queued.job = .utterance text →
            turn.outcome? = some (.error turn.before.refusal) ∧
              turn.after = turn.before) ∧
          (turn.queued.job = .help → turn.after.phase = .awaitingGoal) := by
  intro conversation
  have wellFormed : conversation.WellFormed := by
    obtain ⟨account⟩ := run.account
    have sound :=
      account.ledger.chronicle.sound (.start sessionId now)
    rw [account.last_eq] at sound
    exact sound.1
  generalize conversation = reached at wellFormed
  obtain ⟨phase, context⟩ := reached
  refine ⟨?_, ?_, ?_, wellFormed.started, ?_⟩
  · rintro (rfl | rfl)
    · exact Conversation.awaitingRequirements_comesToPlan context
    · exact Conversation.awaitingRevision_comesToPlan
        (wellFormed.revisionNamed rfl)
  · rintro rfl
    exact Conversation.awaitingGoal_comesToPlan context
  · rintro rfl
    exact Conversation.errored_comesToPlan context
  · intro turn earlier holds notStarted
    refine ⟨fun text => holds.refused notStarted, ?_⟩
    intro help
    rw [holds.helped help]
    rfl

/-- An empty workspace leaves a session three utterances from a plan. -/
theorem plan_within_reach_after_empty_workspace :
    ∃ moves outputs session,
      Run ⟨0, 3⟩ (.fresh "S1" ⟨0, 0⟩) moves outputs session ∧
      session.conversation.phase = .errored ∧
      session.conversation.ComesToPlan ⟨0, 3⟩ 3 1 := by
  let moves : List Move :=
    [.signal (.enqueue ⟨0, .utterance "goal"⟩),
      .signal (.enqueue ⟨1, .utterance "go"⟩),
      .proceed ⟨"A1", ⟨1, 0⟩⟩ false,
      .proceed ⟨"A1", ⟨2, 0⟩⟩ false,
      .receive ⟨"A1", ⟨3, 0⟩⟩ .workspaceIsEmpty true]
  have run : Run ⟨0, 3⟩ (.fresh "S1" ⟨0, 0⟩) moves _ _ :=
    Run.start.moveAll rfl
  exact ⟨moves, _, _, run, rfl, (plan_within_reach run).2.2.1 rfl⟩

/--
Help leads out of a conversation that was never started, although no utterance
does.
-/
theorem notStarted_left_by_help :
    ∃ moves outputs session,
      Run ⟨0, 3⟩ (.spawn ⟨.notStarted, .start "S1" ⟨0, 0⟩⟩ false) moves
        outputs session ∧
      session.conversation.phase = .awaitingGoal := by
  let moves : List Move :=
    [.signal (.enqueue ⟨0, .help⟩), .proceed ⟨"A1", ⟨1, 0⟩⟩ false]
  exact ⟨moves, _, _, Run.start.moveAll rfl, rfl⟩

end AssessmentChat
