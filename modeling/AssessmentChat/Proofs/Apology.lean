import AssessmentChat.Proofs.ConversationWellFormed

namespace AssessmentChat

/-!
# Apologies

What the next apology says is kept in the context.  An empty workspace writes it
there, and only the apology itself takes it away again: help leaves it where it
is.  So an empty workspace that was never apologised for is still named after a
later failure of another kind, and the apology describes its cause exactly when
no such leftover is there.
-/

/-- A turn in which the conversation starts over with an apology. -/
def Turn.Restarts (turn : Turn) : Prop :=
  turn.before.phase = .errored ∧ turn.queued.job ≠ .help

/-- The workspace was found empty since the conversation last started over. -/
inductive EmptySinceRestart : List Turn → Prop where
  | found
      {turns : List Turn}
      {turn : Turn} :
      FoundEmpty turn.interaction.deeds →
      EmptySinceRestart (turns ++ [turn])
  | kept
      {turns : List Turn}
      {turn : Turn} :
      EmptySinceRestart turns →
      ¬ turn.Restarts →
      EmptySinceRestart (turns ++ [turn])

/-- Whether an apology describes what went wrong. -/
structure Describes (message : String) (deeds : List Deed) : Prop where
  empty :
    FoundEmpty deeds → message = Wording.emptyWorkspace
  failed :
    Failed deeds → message = Wording.genericApology

theorem not_emptySinceRestart_nil :
    ¬ EmptySinceRestart [] := by
  intro since
  generalize nothing : ([] : List Turn) = turns at since
  cases since <;> simp at nothing

theorem emptySinceRestart_snoc
    (turns : List Turn)
    (turn : Turn) :
    EmptySinceRestart (turns ++ [turn]) ↔
      FoundEmpty turn.interaction.deeds ∨
        EmptySinceRestart turns ∧ ¬ turn.Restarts := by
  constructor
  · intro since
    generalize shape : turns ++ [turn] = all at since
    cases since with
    | found foundEmpty =>
        obtain ⟨rfl, same⟩ := List.append_inj' shape rfl
        cases same
        exact .inl foundEmpty
    | kept earlier goesOn =>
        obtain ⟨rfl, same⟩ := List.append_inj' shape rfl
        cases same
        exact .inr ⟨earlier, goesOn⟩
  · rintro (foundEmpty | ⟨earlier, goesOn⟩)
    · exact .found foundEmpty
    · exact .kept earlier goesOn

theorem FoundEmpty.not_failed
    {deeds : List Deed}
    (foundEmpty : FoundEmpty deeds) :
    ¬ Failed deeds := by
  rintro ⟨earlier, request, answer, -, rfl⟩
  have last := congrArg List.getLast? foundEmpty
  simp [Request.exchange] at last

/-! ## What a turn does to the apology that is due -/

namespace Conversation

variable
  {policy : PollPolicy}
  {utterance streamId : String}
  {now : Timestamp}
  {deeds : List Deed}
  {context : Context}
  {engagementId : EngagementId}
  {assessmentId : AssessmentId}
  {next : Conversation}

theorem PlanEnding.apology
    (ending :
      PlanEnding policy context streamId engagementId assessmentId
        deeds next) :
    next.context.apology = context.apology := by
  cases ending with
  | exhausted | stopped | notCompleted =>
      rfl
  | completed _ _ delivery =>
      cases delivery <;> rfl

theorem Discussion.apology
    (discussed : Discussion policy utterance context deeds next) :
    next.context.apology = context.apology := by
  cases discussed with
  | takenUp _ _ _ ending =>
      cases ending <;> rfl
  | nothingToDiscuss | notUnderstood | notTakenUp | revision
  | newAnalysis | unclear =>
      rfl

/-- Only the check of the workspace and the apology change what is due. -/
theorem Handling.apology
    {conversation : Conversation}
    (handling :
      Handling policy utterance now conversation deeds (.ok next)) :
    FoundEmpty deeds ∧ conversation.phase ≠ .errored ∧
        next.context.apology = some Wording.emptyWorkspace ∨
      ¬ FoundEmpty deeds ∧ conversation.phase = .errored ∧
        next.context.apology = none ∨
      ¬ FoundEmpty deeds ∧ conversation.phase ≠ .errored ∧
        next.context.apology = conversation.context.apology := by
  cases handling with
  | goalTaken context =>
      exact .inr (.inr ⟨nofun, nofun, rfl⟩)
  | apologised context =>
      exact .inr (.inl ⟨nofun, rfl, rfl⟩)
  | planRevised revised =>
      refine .inr (.inr ⟨?_, nofun, ?_⟩)
      · cases revised <;> nofun
      · cases revised with
        | nothingToRevise | notUpdated =>
            rfl
        | updated _ _ _ ending =>
            exact ending.apology
  | discussed discussed =>
      refine .inr (.inr ⟨?_, nofun, discussed.apology⟩)
      cases discussed <;> nofun
  | planCreated created =>
      cases created with
      | emptyWorkspace =>
          exact .inl ⟨rfl, nofun, rfl⟩
      | notStarted =>
          exact .inr (.inr ⟨nofun, nofun, rfl⟩)
      | started _ start _ ending =>
          refine .inr (.inr ⟨nofun, nofun, ?_⟩)
          cases start
          exact ending.apology

/-- An utterance after a failure gets the apology that is due. -/
theorem Handling.apologises
    {conversation : Conversation}
    {outcome : Except Fault Conversation}
    (handling :
      Handling policy utterance now conversation deeds outcome)
    (errored : conversation.phase = .errored) :
    deeds =
        [.said (.plainAnswer
          (conversation.context.apology.getD
            Wording.genericApology))] ∧
      outcome =
        .ok ⟨.awaitingGoal, conversation.context.restarted now⟩ := by
  cases handling with
  | apologised =>
      exact ⟨rfl, rfl⟩
  | goalTaken | planCreated | planRevised | discussed | refused =>
      cases errored

end Conversation

namespace Turn

variable
  {policy : PollPolicy}
  {earlier : List Move}
  {turn : Turn}

/-- How a turn changes the apology that is due. -/
theorem Holds.apology
    (holds : turn.Holds policy earlier)
    (wellFormed : turn.before.WellFormed)
    (finished : turn.outcome?.isSome = true) :
    FoundEmpty turn.interaction.deeds ∧ ¬ turn.Restarts ∧
        turn.after.context.apology = some Wording.emptyWorkspace ∨
      ¬ FoundEmpty turn.interaction.deeds ∧ turn.Restarts ∧
        turn.after.context.apology = none ∨
      ¬ FoundEmpty turn.interaction.deeds ∧ ¬ turn.Restarts ∧
        turn.after.context.apology = turn.before.context.apology := by
  obtain ⟨outcome, ended⟩ := Option.isSome_iff_exists.mp finished
  have yields := holds.yields ended
  rw [after, ended]
  cases job : turn.queued.job with
  | help =>
      rw [job] at yields
      obtain ⟨deeds, rfl⟩ := Conversation.carryOut_help_yields yields
      refine .inr (.inr ⟨?_, ?_, rfl⟩)
      · rw [deeds]
        intro foundEmpty
        cases foundEmpty
      · exact fun restarts => restarts.2 job
  | utterance text =>
      rw [job] at yields
      have handling := Conversation.interact_yields yields
      obtain ⟨next, rfl, -⟩ := wellFormed.of_handling handling
      rcases handling.apology with
        ⟨empty, phase, due⟩ | ⟨notEmpty, phase, due⟩ |
          ⟨notEmpty, phase, due⟩
      · exact .inl ⟨empty, fun restarts => phase restarts.1, due⟩
      · exact .inr (.inl ⟨notEmpty, ⟨phase, by simp [job]⟩, due⟩)
      · exact .inr (.inr
          ⟨notEmpty, fun restarts => phase restarts.1, due⟩)

end Turn

/-- The apology that is due is the one for an empty workspace or the general one. -/
theorem Chronicle.apology
    {policy : PollPolicy}
    {sessionId : String}
    {now : Timestamp}
    {moves : List Move}
    {turns : List Turn}
    {last : Conversation}
    (chronicle :
      Chronicle policy (.start sessionId now) moves turns last) :
    EmptySinceRestart turns ∧
        last.context.apology = some Wording.emptyWorkspace ∨
      ¬ EmptySinceRestart turns ∧ last.context.apology = none := by
  have first := Conversation.WellFormed.start sessionId now
  induction chronicle with
  | opened =>
      exact .inr ⟨not_emptySinceRestart_nil, rfl⟩
  | @turned earlier turns turn chronicle holds finished
      inductionHypothesis =>
      have wellFormed := (chronicle.sound first).1
      rw [emptySinceRestart_snoc]
      rcases holds.apology wellFormed finished with
        ⟨empty, -, due⟩ | ⟨notEmpty, restarts, due⟩ |
          ⟨notEmpty, goesOn, due⟩
      · exact .inl ⟨.inl empty, due⟩
      · exact .inr ⟨by simp [notEmpty, restarts], due⟩
      · rw [due]
        simpa [notEmpty, goesOn] using inductionHypothesis

/-- A chronicle that stands in a failure has just come to it. -/
theorem Chronicle.entersErrored
    {policy : PollPolicy}
    {sessionId : String}
    {now : Timestamp}
    {moves : List Move}
    {turns : List Turn}
    {last : Conversation}
    (chronicle :
      Chronicle policy (.start sessionId now) moves turns last)
    (errored : last.phase = .errored) :
    ∃ earlier cause,
      turns = earlier ++ [cause] ∧
        cause.before.phase ≠ .errored ∧
        (FoundEmpty cause.interaction.deeds ∨
          Failed cause.interaction.deeds) := by
  have first := Conversation.WellFormed.start sessionId now
  cases chronicle with
  | opened =>
      cases errored
  | @turned earlier turns cause chronicle holds finished =>
      have wellFormed := (chronicle.sound first).1
      obtain ⟨outcome, ended⟩ := Option.isSome_iff_exists.mp finished
      have yields := holds.yields ended
      rw [Turn.after, ended] at errored
      cases job : cause.queued.job with
      | help =>
          rw [job] at yields
          obtain ⟨-, rfl⟩ := Conversation.carryOut_help_yields yields
          cases errored
      | utterance text =>
          rw [job] at yields
          have handling := Conversation.interact_yields yields
          obtain ⟨next, rfl, -⟩ := wellFormed.of_handling handling
          refine ⟨turns, cause, rfl, ?_, handling.cause wellFormed errored⟩
          intro erroredBefore
          obtain ⟨-, restarted⟩ := handling.apologises erroredBefore
          cases restarted
          cases errored

/--
The apology of a session names an empty workspace exactly when one was found since
the conversation last started over, whatever the failure that it follows.  So it
describes its cause unless an empty workspace is left over from before.
-/
theorem apology_describes_cause_iff
    {policy : PollPolicy}
    {sessionId text : String}
    {now : Timestamp}
    {moves : List Move}
    {turns later : List Turn}
    {turn : Turn}
    {last : Conversation}
    (chronicle :
      Chronicle policy (.start sessionId now) moves
        (turns ++ turn :: later) last)
    (errored : turn.before.phase = .errored)
    (utterance : turn.queued.job = .utterance text) :
    ∃ earlier cause message,
      turns = earlier ++ [cause] ∧
        cause.before.phase ≠ .errored ∧
        (FoundEmpty cause.interaction.deeds ∨
          Failed cause.interaction.deeds) ∧
        turn.interaction.deeds = [.said (.plainAnswer message)] ∧
        (EmptySinceRestart turns ∧ message = Wording.emptyWorkspace ∨
          ¬ EmptySinceRestart turns ∧
            message = Wording.genericApology) ∧
        (Describes message cause.interaction.deeds ↔
          FoundEmpty cause.interaction.deeds ∨
            ¬ EmptySinceRestart turns) := by
  obtain ⟨before, chronicle, holds, finished⟩ := chronicle.split
  obtain ⟨earlier, cause, rfl, phase, caused⟩ :=
    chronicle.entersErrored errored
  obtain ⟨outcome, ended⟩ := Option.isSome_iff_exists.mp finished
  have yields := holds.yields ended
  rw [utterance] at yields
  obtain ⟨deeds, -⟩ :=
    (Conversation.interact_yields yields).apologises errored
  refine ⟨earlier, cause, _, rfl, phase, caused, deeds, ?_⟩
  rcases chronicle.apology with ⟨since, due⟩ | ⟨notSince, due⟩
  · rw [due]
    refine ⟨.inl ⟨since, rfl⟩, ?_⟩
    constructor
    · intro describes
      rcases caused with foundEmpty | failed
      · exact .inl foundEmpty
      · exact absurd (describes.failed failed) (by decide)
    · rintro (foundEmpty | notSince)
      · exact ⟨fun _ => rfl, fun failed =>
          absurd failed foundEmpty.not_failed⟩
      · exact absurd since notSince
  · rw [due]
    refine ⟨.inr ⟨notSince, rfl⟩, ?_⟩
    constructor
    · exact fun _ => .inr notSince
    · exact fun _ => ⟨fun foundEmpty =>
        absurd (.found foundEmpty) notSince, fun _ => rfl⟩

/-- An empty workspace that caused the failure is named. -/
theorem apology_describes_empty_workspace :
    ∃ moves turns turn last,
      Chronicle ⟨0, 3⟩ (.start "S1" ⟨0, 0⟩) moves (turns ++ [turn]) last ∧
      turn.before.phase = .errored ∧
      turn.queued.job = .utterance "again" ∧
      EmptySinceRestart turns ∧
      turn.interaction.deeds =
        [.said (.plainAnswer Wording.emptyWorkspace)] := by
  let moment : Moment := ⟨"A1", ⟨0, 0⟩⟩
  have start :
      Chronicle ⟨0, 3⟩ (.start "S1" ⟨0, 0⟩) [] [] (.start "S1" ⟨0, 0⟩) :=
    .opened
  have goalTaken :=
    start.handle ⟨0, .utterance "goal"⟩ moment [] rfl (by simp) rfl
  have foundEmpty :=
    goalTaken.handle ⟨1, .utterance "go"⟩ moment
      [.receive moment .workspaceIsEmpty true] rfl
      (by simp [Turn.moves]) rfl
  have apologised :=
    foundEmpty.handle ⟨2, .utterance "again"⟩ moment [] rfl
      (by simp [Turn.moves]) rfl
  refine ⟨_, _, _, _, apologised, rfl, rfl, .found rfl, ?_⟩
  obtain ⟨earlier, cause, message, -, -, -, deeds, named, -⟩ :=
    apology_describes_cause_iff apologised rfl rfl
  rcases named with ⟨-, rfl⟩ | ⟨notSince, -⟩
  · exact deeds
  · exact absurd (.found rfl) notSince

/--
The apology does not always describe its cause: help leaves the one for an empty
workspace where it is, and a call that fails later is answered with it.
-/
theorem apology_not_always_describes_cause :
    ∃ moves earlier cause turn last message,
      Chronicle ⟨0, 3⟩ (.start "S1" ⟨0, 0⟩) moves
        (earlier ++ [cause] ++ [turn]) last ∧
      turn.before.phase = .errored ∧
      turn.queued.job = .utterance "again" ∧
      turn.interaction.deeds = [.said (.plainAnswer message)] ∧
      ¬ Describes message cause.interaction.deeds := by
  let moment : Moment := ⟨"A1", ⟨0, 0⟩⟩
  have start :
      Chronicle ⟨0, 3⟩ (.start "S1" ⟨0, 0⟩) [] [] (.start "S1" ⟨0, 0⟩) :=
    .opened
  have goalTaken :=
    start.handle ⟨0, .utterance "goal"⟩ moment [] rfl (by simp) rfl
  have foundEmpty :=
    goalTaken.handle ⟨1, .utterance "go"⟩ moment
      [.receive moment .workspaceIsEmpty true] rfl
      (by simp [Turn.moves]) rfl
  have helped :=
    foundEmpty.handle ⟨2, .help⟩ moment [] rfl
      (by simp [Turn.moves]) rfl
  have goalTakenAgain :=
    helped.handle ⟨3, .utterance "goal"⟩ moment [] rfl
      (by simp [Turn.moves]) rfl
  have failed :=
    goalTakenAgain.handle ⟨4, .utterance "go"⟩ moment
      [.receive moment .workspaceIsEmpty false,
        .receive moment (.service .createEngagement)
          (.error (.remoteCall "CreateEngagement" "HTTP 503"))]
      rfl (by simp [Turn.moves]) rfl
  have apologised :=
    failed.handle ⟨5, .utterance "again"⟩ moment [] rfl
      (by simp [Turn.moves]) rfl
  refine ⟨_, _, _, _, _, Wording.emptyWorkspace, apologised, rfl, rfl,
    rfl, ?_⟩
  intro describes
  have cause :=
    Failed.of_call
      (Request.exchange .workspaceIsEmpty false ++
        Conversation.planAnnouncement "A1")
      .createEngagement (.remoteCall "CreateEngagement" "HTTP 503")
  exact absurd (describes.failed cause) (by decide)

end AssessmentChat
