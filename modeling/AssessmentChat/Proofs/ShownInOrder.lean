import AssessmentChat.Proofs.NamesSinceRestart
import AssessmentChat.Proofs.StreamNames

namespace AssessmentChat

/-!
# Notices in order

Whatever the phase, the context, the answers and the moment of a cancellation,
an interaction leaves no placeholder behind, keeps to one stream of its own, and
puts to the vote the plan that it kept or the response that it got.
-/

/-- The first text of a stream, and the last one if its watch is left off. -/
structure StreamTexts where
  opening : String
  farewell : String
deriving Repr, DecidableEq

/-- The texts around what is observed in a phase, if that phase has a stream. -/
def Phase.streamTexts? : Phase → Option StreamTexts
  | .awaitingRequirements =>
      some ⟨Wording.uploadingWorkspace, Wording.cancellingPlan⟩
  | .awaitingRevision =>
      some ⟨Wording.startingRevision, Wording.cancellingPlan⟩
  | .discussingPlan =>
      some ⟨Wording.generatingResponse, Wording.responseCancelled⟩
  | .awaitingGoal | .errored | .notStarted => none

/-- The stream of an interaction: its own text, then what was observed. -/
def StreamInOrder
    (policy : PollPolicy)
    (phase : Phase)
    (deeds : List Deed)
    (streamId : String) : Prop :=
  ∃ texts closing,
    phase.streamTexts? = some texts ∧
      Farewell policy deeds texts.farewell closing ∧
      streamed deeds =
        (texts.opening :: observedTexts deeds ++ closing).map (streamId, ·)

/-- What an interaction has shown by its end. -/
structure ShownInOrder
    (policy : PollPolicy)
    (phase : Phase)
    (deeds : List Deed) : Prop where
  cleared :
    ∀ text ∈ (placeholders deeds).getLast?, text = ""
  stream :
    streamed deeds = [] ∧ observedTexts deeds = [] ∨
      ∃ streamId, StreamInOrder policy phase deeds streamId
  votes :
    votableAnswers deeds =
      (keptPlans deeds).map (fun kept => kept.plan.content) ++
        responses deeds
  once :
    (votableAnswers deeds).length ≤ 1
  downloaded :
    ∀ kept ∈ keptPlans deeds,
      ∃ engagementId,
        .answered
            (.service (.downloadPlan engagementId kept.plan.assessmentId))
            (.ok kept.plan.content) ∈ deeds

namespace ShownInOrder

variable
  {policy : PollPolicy}
  {phase : Phase}
  {deeds : List Deed}

theorem of_shows
    {streamId : String}
    {texts : StreamTexts}
    {closing : List String}
    (shows :
      Shows deeds streamId
        (texts.opening :: observedTexts deeds ++ closing))
    (known : phase.streamTexts? = some texts)
    (farewell : Farewell policy deeds texts.farewell closing)
    (downloaded :
      ∀ kept ∈ keptPlans deeds,
        ∃ engagementId,
          .answered
              (.service
                (.downloadPlan engagementId kept.plan.assessmentId))
              (.ok kept.plan.content) ∈ deeds) :
    ShownInOrder policy phase deeds where
  cleared := by simp [shows.cleared]
  stream :=
    .inr ⟨streamId, texts, closing, known, farewell, shows.stream⟩
  votes := shows.votes
  once := shows.once
  downloaded := downloaded

/-- An interaction without a stream puts nothing to the vote. -/
theorem of_noStream
    (cleared : ∀ text ∈ (placeholders deeds).getLast?, text = "")
    (notStreamed : streamed deeds = [])
    (unvoted : votableAnswers deeds = [])
    (unanswered : jobAnswers deeds = [])
    (nothingKept : keptPlans deeds = []) :
    ShownInOrder policy phase deeds where
  cleared := cleared
  stream := .inl ⟨notStreamed, observedTexts_eq_nil unanswered⟩
  votes := by
    rw [unvoted, nothingKept,
      responses_eq_nil (inProgress_of_unanswered unanswered)]
    rfl
  once := by simp [unvoted]
  downloaded := by simp [nothingKept]

end ShownInOrder

namespace Conversation

variable
  {policy : PollPolicy}
  {utterance streamId : String}
  {deeds : List Deed}
  {context : Context}
  {engagementId : EngagementId}
  {assessmentId : AssessmentId}
  {next : Conversation}

/-! ## Plans -/

/-- Nothing is shown while an assessment is being started. -/
theorem AssessmentStart.shown_eq_nil
    {outcome : Except Fault Context}
    (start : AssessmentStart utterance context deeds outcome) :
    shown deeds = [] := by
  have ensures
      {ensuring : List Deed}
      {ensured : Except Fault EngagementId}
      (ensure : EngagementEnsured context ensuring ensured) :
      shown ensuring = [] := by
    cases ensure <;> rfl
  cases start with
  | noEngagement ensure | notUploaded _ ensure | notStarted _ ensure
  | started _ ensure =>
      simp [ensures ensure]

/-- A plan that is kept is the one that was downloaded. -/
theorem PlanEnding.downloaded
    (ending :
      PlanEnding policy context streamId engagementId assessmentId
        deeds next) :
    ∀ kept ∈ keptPlans deeds,
      ∃ engagementId,
        .answered
            (.service (.downloadPlan engagementId kept.plan.assessmentId))
            (.ok kept.plan.content) ∈ deeds := by
  intro kept member
  cases ending with
  | exhausted _ goesOn | stopped _ goesOn | notCompleted goesOn =>
      simp [keptPlans, goesOn.storings_eq_nil] at member
  | completed goesOn _ delivered =>
      cases delivered with
      | notDownloaded | notStored =>
          simp [keptPlans, goesOn.storings_eq_nil, Storing.kept?,
            Except.toOption] at member
      | delivered content locator =>
          simp [keptPlans, goesOn.storings_eq_nil, Storing.kept?,
            Except.toOption] at member
          subst member
          exact ⟨engagementId, by simp⟩

/-- What is announced before a watch opens the stream, and that is all. -/
theorem shows_of_announced
    {earlier later : List Deed}
    {message opening : String}
    {texts : List String}
    (shows : Shows later streamId texts)
    (preparation : Preparation earlier)
    (announced :
      shown earlier = [.plainAnswer message, .answerStream streamId opening]) :
    observedTexts earlier = [] ∧
      Shows (earlier ++ later) streamId (opening :: texts) := by
  have unanswered := preparation.jobAnswers_eq_nil
  have noResponses :=
    responses_eq_nil (inProgress_of_unanswered unanswered)
  refine ⟨observedTexts_eq_nil unanswered,
    shows.after ?_ ?_ preparation.keptPlans_eq_nil noResponses⟩
  · rw [streamed, announced]
    rfl
  · rw [votableAnswers, announced]
    rfl

/-- A stream opens before the assessment is watched, and then goes on. -/
theorem PlanEnding.shownInOrder
    {phase : Phase}
    {earlier : List Deed}
    {message : String}
    {texts : StreamTexts}
    (ending :
      PlanEnding policy context streamId engagementId assessmentId
        deeds next)
    (known : phase.streamTexts? = some texts)
    (farewell : texts.farewell = Wording.cancellingPlan)
    (preparation : Preparation earlier)
    (announced :
      shown earlier =
        [.plainAnswer message, .answerStream streamId texts.opening]) :
    ShownInOrder policy phase (earlier ++ deeds) := by
  obtain ⟨closing, closes, shows⟩ := ending.shows
  obtain ⟨nothingObserved, opened⟩ :=
    shows_of_announced shows preparation announced
  rw [← List.nil_append (observedTexts deeds), ← nothingObserved,
    ← observedTexts_append, ← List.cons_append] at opened
  refine .of_shows opened known ?_ ?_
  · rw [farewell]
    refine closes.congr ?_
    rw [jobAnswers_append, preparation.jobAnswers_eq_nil, List.nil_append]
  · intro kept member
    rw [keptPlans_append, preparation.keptPlans_eq_nil,
      List.nil_append] at member
    obtain ⟨engagementId, downloaded⟩ := ending.downloaded kept member
    exact ⟨engagementId, List.mem_append_right _ downloaded⟩

/-- A plan that is not begun leaves a stream with its opening text. -/
theorem shownInOrder_of_preparation
    {phase : Phase}
    {message : String}
    {texts : StreamTexts}
    (announced :
      shown deeds =
        [.plainAnswer message, .answerStream streamId texts.opening])
    (known : phase.streamTexts? = some texts)
    (preparation : Preparation deeds) :
    ShownInOrder policy phase (deeds ++ [.said .clearedPlaceholder]) := by
  obtain ⟨nothingObserved, opened⟩ :=
    shows_of_announced Shows.cleared_only preparation announced
  have nothingKept :
      keptPlans (deeds ++ [.said .clearedPlaceholder]) = [] := by
    rw [keptPlans_append, preparation.keptPlans_eq_nil]
    rfl
  have stillNothing :
      observedTexts (deeds ++ [.said .clearedPlaceholder]) ++ [] = [] := by
    rw [observedTexts_append, nothingObserved]
    rfl
  rw [← stillNothing, ← List.cons_append] at opened
  refine .of_shows opened known (.inl rfl) ?_
  rw [nothingKept]
  nofun

/-- The start of an assessment adds nothing to what is announced. -/
theorem AssessmentStart.announced
    {outcome : Except Fault Context}
    (start : AssessmentStart utterance context deeds outcome)
    (streamId : String) :
    shown
        (Request.exchange .workspaceIsEmpty false ++
          planAnnouncement streamId ++ deeds) =
      [.plainAnswer Wording.creatingPlan,
        .answerStream streamId Wording.uploadingWorkspace] := by
  rw [shown_append, start.shown_eq_nil]
  rfl

theorem AssessmentStart.prepares
    {outcome : Except Fault Context}
    (start : AssessmentStart utterance context deeds outcome)
    (streamId : String) :
    Preparation
      (Request.exchange .workspaceIsEmpty false ++
        planAnnouncement streamId ++ deeds) := by
  simp [planAnnouncement, Request.isPreparation, start.preparation]

/-- The creation of a plan is shown in order. -/
theorem PlanCreation.shownInOrder
    (created : PlanCreation policy utterance context deeds next) :
    ShownInOrder policy .awaitingRequirements deeds := by
  cases created with
  | emptyWorkspace =>
      exact .of_noStream nofun rfl rfl rfl rfl
  | notStarted streamId start =>
      exact shownInOrder_of_preparation (start.announced streamId) rfl
        (start.prepares streamId)
  | started streamId start ids ending =>
      exact ending.shownInOrder rfl rfl (start.prepares streamId)
        (start.announced streamId)

/-- A revision is announced before anything else is shown. -/
theorem revision_announced
    {asked : List Deed}
    (streamId : String)
    (quiet : shown asked = []) :
    shown (revisionAnnouncement streamId ++ asked) =
      [.plainAnswer Wording.revisingPlan,
        .answerStream streamId Wording.startingRevision] := by
  rw [shown_append, quiet]
  rfl

/-- The revision of a plan is shown in order. -/
theorem PlanRevision.shownInOrder
    (revised : PlanRevision policy utterance context deeds next) :
    ShownInOrder policy .awaitingRevision deeds := by
  cases revised with
  | nothingToRevise streamId unknown =>
      rw [← List.append_nil (revisionAnnouncement streamId)]
      refine shownInOrder_of_preparation
        (revision_announced streamId shown_nil) rfl ?_
      simp [revisionAnnouncement]
  | notUpdated streamId fault ids =>
      refine shownInOrder_of_preparation
        (revision_announced streamId (shown_call _ _)) rfl ?_
      simp [revisionAnnouncement, Request.isPreparation]
  | updated streamId status ids ending =>
      refine ending.shownInOrder rfl rfl ?_
        (revision_announced streamId (shown_call _ _))
      simp [revisionAnnouncement, Request.isPreparation]

/-! ## Discussions -/

theorem ResponseEnding.keptPlans_eq_nil
    {interactionId : InteractionId}
    (ending :
      ResponseEnding policy context streamId engagementId interactionId
        deeds next) :
    keptPlans deeds = [] := by
  cases ending with
  | exhausted _ goesOn | stopped goesOn | answered goesOn =>
      simp [keptPlans, goesOn.storings_eq_nil]

/-- What is done before a question is watched opens its stream. -/
theorem shows_of_question
    {later : List Deed}
    {texts : List String}
    {answer : Except Fault StartedInteraction}
    (shows : Shows later streamId texts) :
    Shows
      (ServiceCall.exchange
          (.deriveIntent engagementId (trim utterance)) (.ok .question) ++
        [.said (.answerStream streamId Wording.generatingResponse),
          .said (.placeholder Wording.generatingResponsePlaceholder)] ++
        ServiceCall.exchange
          (.startInteraction engagementId (trim utterance)) answer ++
        later)
      streamId (Wording.generatingResponse :: texts) :=
  shows.after rfl rfl rfl rfl

/-- The discussion of a plan is shown in order. -/
theorem Discussion.shownInOrder
    (discussed : Discussion policy utterance context deeds next) :
    ShownInOrder policy .discussingPlan deeds := by
  cases discussed with
  | nothingToDiscuss | notUnderstood =>
      exact .of_noStream (by rintro _ ⟨⟩; rfl) rfl rfl rfl rfl
  | revision | newAnalysis | unclear =>
      exact .of_noStream nofun rfl rfl rfl rfl
  | notTakenUp streamId fault =>
      exact .of_shows (shows_of_question Shows.cleared_only) rfl (.inl rfl) nofun
  | takenUp streamId started followUp ending =>
      obtain ⟨closing, closes, shows⟩ := ending.shows
      refine .of_shows (shows_of_question shows) rfl ?_ ?_
      · exact closes.congr (by simp)
      · intro kept member
        rw [keptPlans_append, ending.keptPlans_eq_nil] at member
        cases member

/-! ## Every phase -/

/-- Whatever an utterance does is shown in order. -/
theorem Handling.shownInOrder
    {now : Timestamp}
    {before : Conversation}
    {outcome : Except Fault Conversation}
    (handling : Handling policy utterance now before deeds outcome) :
    ShownInOrder policy before.phase deeds := by
  cases handling with
  | goalTaken | apologised | refused =>
      exact .of_noStream nofun rfl rfl rfl rfl
  | planCreated created =>
      exact created.shownInOrder
  | planRevised revised =>
      exact revised.shownInOrder
  | discussed discussed =>
      exact discussed.shownInOrder

end Conversation

/--
At every moment an interaction has shown the beginning of what is in order, and
once it has ended it has shown all of it.  Interactions that are supplied with
different names write to different streams.
-/
theorem notices_in_order
    {policy : PollPolicy}
    {before : Conversation}
    {utterance : String}
    {opening : Opening}
    {occurrences : List Occurrence}
    {interaction : Interaction (Except Fault Conversation)}
    (handled :
      before.handling? policy (.utterance utterance) opening occurrences =
        some interaction) :
    (∃ rest,
      ShownInOrder policy before.phase (interaction.deeds ++ rest) ∧
        (interaction.activity.outcome? ≠ none → rest = [])) ∧
    ∀ otherPolicy otherBefore job otherOpening otherOccurrences other,
      Conversation.handling? otherPolicy otherBefore job otherOpening
          otherOccurrences =
        some other →
      List.Disjoint (suppliedNames opening occurrences)
        (suppliedNames otherOpening otherOccurrences) →
      ∀ written ∈ streamed interaction.deeds,
        ∀ foreign ∈ streamed other.deeds, written.1 ≠ foreign.1 := by
  have reaches := Conversation.handling?_reaches handled
  constructor
  · cases ended : interaction.activity.outcome? with
    | none =>
        obtain ⟨rest, outcome, yields⟩ := reaches.exists_yields
        exact ⟨rest, (Conversation.interact_yields yields).shownInOrder,
          nofun⟩
    | some outcome =>
        rw [Activity.outcome?_eq_some.mp ended] at reaches
        refine ⟨[], ?_, fun _ => rfl⟩
        rw [List.append_nil]
        exact (Conversation.interact_yields reaches).shownInOrder
  · intro _ _ _ _ _ other otherHandled disjoint written member foreign
      otherMember same
    have supplied :=
      (Conversation.handling?_writesTo handled).streamed written member
    rw [same] at supplied
    exact disjoint supplied
      ((Conversation.handling?_writesTo otherHandled).streamed foreign
        otherMember)

/-- Two questions that are answered each have a stream and an answer. -/
theorem notices_in_order_questions :
    ∃ (before : Conversation) (occurrences : String → List Occurrence)
      (interaction : String → Interaction (Except Fault Conversation)),
      (∀ name,
        before.handling? ⟨0, 1⟩ (.utterance "why") ⟨⟨name, ⟨0, 0⟩⟩, false⟩
            (occurrences name) =
          some (interaction name)) ∧
      List.Disjoint
        (suppliedNames ⟨⟨"M1", ⟨0, 0⟩⟩, false⟩ (occurrences "M1"))
        (suppliedNames ⟨⟨"M2", ⟨0, 0⟩⟩, false⟩ (occurrences "M2")) ∧
      streamed (interaction "M1").deeds =
        [("M1", Wording.generatingResponse)] ∧
      votableAnswers (interaction "M1").deeds = ["Because."] ∧
      ShownInOrder ⟨0, 1⟩ .discussingPlan (interaction "M1").deeds ∧
      ∀ written ∈ streamed (interaction "M1").deeds,
        ∀ foreign ∈ streamed (interaction "M2").deeds,
          written.1 ≠ foreign.1 := by
  let before : Conversation :=
    ⟨.discussingPlan, (Context.start "S1" ⟨0, 0⟩).withEngagement "E1"⟩
  let status : ServiceCall := .interactionStatus "E1" "I1"
  let occurrences (name : String) : List Occurrence :=
    [.answered name (.service (.deriveIntent "E1" (trim "why")))
        (.ok .question),
      .answered name (.service (.startInteraction "E1" (trim "why")))
        (.ok ⟨"I1", .inProgress⟩),
      .woken name,
      .answered name (.service status) (.ok ⟨.completed, "Because."⟩)]
  let deeds (name : String) : List Deed :=
    (ServiceCall.deriveIntent "E1" (trim "why")).exchange (.ok .question) ++
      [.said (.answerStream name Wording.generatingResponse),
        .said (.placeholder Wording.generatingResponsePlaceholder)] ++
      (ServiceCall.startInteraction "E1" (trim "why")).exchange
        (.ok ⟨"I1", .inProgress⟩) ++
      status.exchange (.ok ⟨.completed, "Because."⟩) ++
      [.said (.votableAnswer "Because."),
        .said (.suggestion Wording.anotherFollowUp Wording.planFollowUps),
        .said .clearedPlaceholder]
  let interaction (name : String) :
      Interaction (Except Fault Conversation) :=
    ⟨deeds name,
      .finished
        (.ok ⟨.discussingPlan, before.context.withInteraction "I1"⟩),
      false⟩
  have handled (name : String) :
      before.handling? ⟨0, 1⟩ (.utterance "why") ⟨⟨name, ⟨0, 0⟩⟩, false⟩
          (occurrences name) =
        some (interaction name) :=
    rfl
  have disjoint :
      List.Disjoint
        (suppliedNames ⟨⟨"M1", ⟨0, 0⟩⟩, false⟩ (occurrences "M1"))
        (suppliedNames ⟨⟨"M2", ⟨0, 0⟩⟩, false⟩ (occurrences "M2")) := by
    simp [suppliedNames, occurrences, Occurrence.freshName?]
  obtain ⟨⟨rest, shows, ended⟩, apart⟩ := notices_in_order (handled "M1")
  obtain rfl := ended nofun
  rw [List.append_nil] at shows
  exact ⟨before, occurrences, interaction, handled, disjoint, rfl, rfl,
    shows, apart _ _ _ _ _ _ (handled "M2") disjoint⟩

end AssessmentChat
