import AssessmentChat.Proofs.NamesSinceRestart
import AssessmentChat.Proofs.PlanCalls
import AssessmentChat.Proofs.SessionIsolation
import AssessmentChat.Proofs.Trimming

namespace AssessmentChat

/-!
# What the user said is what the service gets

A call passes on what is being said, without the white space around it.  A call
that starts an assessment passes on the goal as well, and the goal is what was
said in the turn just before: no other turn leaves a conversation that awaits
requirements.  So neither help nor a plan that failed can let an old goal get
into a new assessment.

A chat trims what is typed and refuses what is blank.  What its sessions pass on
is therefore never blank and has no white space around it.
-/

/-! ## What is passed on -/

/-- What a call passes on of what the user said. -/
def ServiceCall.input? : ServiceCall → Option String
  | .startAssessment _ input => some input
  | .updateAssessment _ _ input => some input
  | .startInteraction _ input => some input
  | .deriveIntent _ input => some input
  | _ => none

/-- Whether a call starts an assessment. -/
def ServiceCall.isStart : ServiceCall → Bool
  | .startAssessment .. => true
  | _ => false

/-- A goal and what is said after it, in one text. -/
def goalAndMore (goal utterance : String) : String :=
  if (trim goal).isEmpty then trim utterance
  else trim goal ++ " " ++ trim utterance

/-- A turn that takes what is said for the goal of an assessment. -/
structure Turn.TakesGoal (turn : Turn) (goal : String) : Prop where
  said :
    turn.queued.job = .utterance goal
  taken :
    turn.before.phase = .awaitingGoal ∨
      turn.before.phase = .discussingPlan ∧
        .newAnalysis ∈ intents turn.interaction.deeds

/--
A turn that passes on what is said in it, and to a new assessment the goal that
was said in the turn before it.
-/
structure Turn.PassesOn (earlier : List Turn) (turn : Turn) : Prop where
  start :
    ∀ engagementId input,
      .asked (.service (.startAssessment engagementId input)) ∈
        turn.interaction.deeds →
      ∃ before previous goal utterance,
        earlier = before ++ [previous] ∧
          previous.TakesGoal goal ∧
          turn.queued.job = .utterance utterance ∧
          input = goalAndMore goal utterance
  others :
    ∀ call input,
      .asked (.service call) ∈ turn.interaction.deeds →
      call.isStart = false →
      call.input? = some input →
      ∃ utterance,
        turn.queued.job = .utterance utterance ∧
          input = trim utterance

/-! ## Goals -/

theorem Context.assessmentInput_eq
    {context : Context}
    {goal : String}
    (taken : context.goal = some (trim goal))
    (utterance : String) :
    context.assessmentInput utterance = goalAndMore goal utterance := by
  unfold assessmentInput goalAndMore
  rw [taken, Option.map_some, trim_trim]

/-- No plan leads to requirements, however it comes out. -/
theorem PhaseAfterPlan.not_awaitingRequirements
    {policy : PollPolicy}
    {unplannable cutShort : Prop}
    {deeds : List Deed}
    {phase : Phase}
    (table : PhaseAfterPlan policy unplannable cutShort deeds phase) :
    phase ≠ .awaitingRequirements := by
  rintro rfl
  simpa using table.phases

namespace Conversation

variable
  {policy : PollPolicy}
  {utterance : String}
  {now : Timestamp}
  {before : Conversation}
  {deeds : List Deed}
  {outcome : Except Fault Conversation}

/-- Only an utterance that is taken for a goal leads to requirements. -/
theorem Handling.goal_taken
    (handling : Handling policy utterance now before deeds outcome)
    (ready :
      (outcome.toOption.getD before).phase = .awaitingRequirements) :
    (before.phase = .awaitingGoal ∨
        before.phase = .discussingPlan ∧ .newAnalysis ∈ intents deeds) ∧
      (outcome.toOption.getD before).context.goal =
        some (trim utterance) := by
  cases handling with
  | goalTaken context =>
      exact ⟨.inl rfl, rfl⟩
  | planCreated created =>
      exact absurd ready created.phaseAfterPlan.not_awaitingRequirements
  | planRevised revised =>
      exact absurd ready revised.phaseAfterPlan.not_awaitingRequirements
  | discussed discussed =>
      have wished :=
        discussed.phaseAfterDiscussion.awaitingRequirements.mp ready
      have context_eq :=
        discussed.contextAfterDiscussion.newAnalysis wished
      exact ⟨.inr ⟨rfl, wished⟩, congrArg Context.goal context_eq⟩
  | apologised context | refused context =>
      cases ready

end Conversation

/-! ## Calls -/

/-- A request that passes on what is said, and to a new assessment the goal too. -/
def Request.Repeats
    (before : Conversation)
    (utterance : String) : Request → Prop
  | .service (.startAssessment _ input) =>
      before.phase = .awaitingRequirements ∧
        input = before.context.assessmentInput utterance
  | .service (.updateAssessment _ _ input) => input = trim utterance
  | .service (.startInteraction _ input) => input = trim utterance
  | .service (.deriveIntent _ input) => input = trim utterance
  | _ => True

/-- A plan is asked for with what is said and, if it is new, with the goal. -/
theorem repeats_of_mem_planOpening
    {before : Conversation}
    {utterance : String}
    {engagementId : EngagementId}
    {assessmentId : AssessmentId}
    (plans :
      before.phase = .awaitingRequirements ∨
        before.phase = .awaitingRevision) :
    ∀ request ∈ planOpening before utterance engagementId assessmentId,
      request.Repeats before utterance := by
  unfold planOpening startOpening
  split
  · simp [Request.Repeats]
  next notRevising =>
    have ready := plans.resolve_right notRevising
    split <;> simp [Request.Repeats, ready]

theorem PlanClosing.repeats
    {before : Conversation}
    {utterance sessionId : String}
    {engagementId : EngagementId}
    {assessmentId : AssessmentId}
    {closing : List Request}
    (closes : PlanClosing sessionId engagementId assessmentId closing) :
    ∀ request ∈ closing, request.Repeats before utterance := by
  cases closes <;> simp [Request.Repeats]

/-- The watch of an assessment and what comes after it pass nothing on. -/
theorem WatchesAndCloses.repeats
    {before : Conversation}
    {utterance sessionId : String}
    {engagementId : EngagementId}
    {assessmentId : AssessmentId}
    {opening asked : List Request}
    (watches :
      WatchesAndCloses sessionId engagementId assessmentId opening asked)
    (opens : ∀ request ∈ opening, request.Repeats before utterance) :
    ∀ request ∈ asked, request.Repeats before utterance := by
  obtain ⟨checks, closing, closes, inOrder⟩ := watches
  intro request member
  rcases List.mem_append.mp (inOrder.subset member) with watched | closed
  · rcases List.mem_append.mp watched with opened | checked
    · exact opens request opened
    · rw [List.eq_of_mem_replicate checked]
      trivial
  · exact closes.repeats request closed

theorem PlanCalls.repeats
    {before : Conversation}
    {utterance : String}
    {deeds : List Deed}
    (calls : PlanCalls before utterance deeds)
    (plans :
      before.phase = .awaitingRequirements ∨
        before.phase = .awaitingRevision) :
    ∀ request ∈ requests deeds, request.Repeats before utterance := by
  obtain ⟨engagementId, assessmentId, watches⟩ := calls.inOrder
  exact WatchesAndCloses.repeats watches (repeats_of_mem_planOpening plans)

namespace Conversation

variable
  {policy : PollPolicy}
  {utterance : String}
  {now : Timestamp}
  {before : Conversation}
  {deeds : List Deed}
  {outcome : Except Fault Conversation}

/-- A follow-up is passed on as it is said. -/
theorem Discussion.repeats
    {context : Context}
    {next : Conversation}
    (discussed : Discussion policy utterance context deeds next) :
    ∀ request ∈ requests deeds,
      request.Repeats ⟨.discussingPlan, context⟩ utterance := by
  cases discussed with
  | nothingToDiscuss | notUnderstood | notTakenUp | revision
  | newAnalysis | unclear =>
      simp [Request.Repeats]
  | @takenUp _ ending _ streamId started followUp responds =>
      have quiet :
          ∀ request ∈ requests ending,
            request.Repeats ⟨.discussingPlan, context⟩ utterance := by
        intro request asked
        rw [responds.request_eq _ (mem_request_of_mem_requests asked)]
        trivial
      simpa [Request.Repeats, or_imp, forall_and] using quiet

/-- Whatever comes of an utterance, its requests pass on what is said. -/
theorem Handling.repeats
    (handling : Handling policy utterance now before deeds outcome) :
    ∀ request ∈ requests deeds, request.Repeats before utterance := by
  cases handling with
  | goalTaken | apologised | refused =>
      simp
  | planCreated created =>
      exact created.planCalls.repeats (.inl rfl)
  | planRevised revised =>
      exact revised.planCalls.repeats (.inr rfl)
  | discussed discussed =>
      exact discussed.repeats

end Conversation

theorem mem_requests
    {deeds : List Deed}
    {request : Request} :
    request ∈ requests deeds ↔ .asked request ∈ deeds := by
  constructor
  · intro member
    obtain ⟨deed, inDeeds, asks⟩ := List.mem_filterMap.mp member
    cases deed with
    | asked other =>
        cases asks
        exact inDeeds
    | said | answered =>
        cases asks
  · intro asked
    exact List.mem_filterMap.mpr ⟨_, asked, rfl⟩

/-! ## Turns -/

namespace Turn.Holds

variable
  {policy : PollPolicy}
  {past : List Move}
  {turn : Turn}

/-- Only a turn that takes a goal leaves a conversation that waits for more. -/
theorem takesGoal
    (holds : turn.Holds policy past)
    (ended : turn.outcome?.isSome = true)
    (ready : turn.after.phase = .awaitingRequirements) :
    ∃ goal,
      turn.TakesGoal goal ∧
        turn.after.context.goal = some (trim goal) := by
  obtain ⟨outcome, outcome?⟩ := Option.isSome_iff_exists.mp ended
  have yields := holds.yields outcome?
  rw [turn.after_eq outcome?] at ready ⊢
  cases job : turn.queued.job with
  | help =>
      rw [job] at yields
      obtain ⟨-, rfl⟩ := Conversation.carryOut_help_yields yields
      cases ready
  | utterance goal =>
      rw [job] at yields
      obtain ⟨taken, goal_eq⟩ :=
        (Conversation.interact_yields yields).goal_taken ready
      exact ⟨goal, ⟨job, taken⟩, goal_eq⟩

/-- A turn passes on what is said in it, also while it is under way. -/
theorem repeats
    (holds : turn.Holds policy past) :
    ∀ request ∈ requests turn.interaction.deeds,
      ∃ utterance,
        turn.queued.job = .utterance utterance ∧
          request.Repeats turn.before utterance := by
  obtain ⟨rest, outcome, yields⟩ :=
    (Conversation.handling?_reaches holds.handled).exists_yields
  intro request asked
  have askedByTheEnd :
      request ∈ requests (turn.interaction.deeds ++ rest) := by
    simp [asked]
  cases job : turn.queued.job with
  | help =>
      rw [job] at yields
      obtain ⟨silent, -⟩ := Conversation.carryOut_help_yields yields
      rw [silent] at askedByTheEnd
      cases askedByTheEnd
  | utterance utterance =>
      rw [job] at yields
      have handling := Conversation.interact_yields yields
      exact ⟨utterance, rfl, handling.repeats request askedByTheEnd⟩

end Turn.Holds

/-- The goal of a conversation that waits for more was said in the last turn. -/
theorem Chronicle.goal_taken
    {policy : PollPolicy}
    {sessionId : String}
    {now : Timestamp}
    {moves : List Move}
    {turns : List Turn}
    {last : Conversation}
    (chronicle :
      Chronicle policy (.start sessionId now) moves turns last)
    (ready : last.phase = .awaitingRequirements) :
    ∃ before previous goal,
      turns = before ++ [previous] ∧
        previous.TakesGoal goal ∧
        last.context.goal = some (trim goal) := by
  cases chronicle with
  | opened =>
      cases ready
  | @turned _ before previous _ holds ended =>
      obtain ⟨goal, takes, goal_eq⟩ := holds.takesGoal ended ready
      exact ⟨before, previous, goal, rfl, takes, goal_eq⟩

/-- Every turn of a new session passes on what was said. -/
theorem Ledger.passesOn
    {policy : PollPolicy}
    {sessionId : String}
    {now : Timestamp}
    {moves : List Move}
    {earlier later : List Turn}
    {turn : Turn}
    (ledger : Ledger policy (.start sessionId now) moves)
    (shape : ledger.turns = earlier ++ turn :: later) :
    turn.PassesOn earlier := by
  obtain ⟨past, chronicle, holds⟩ := ledger.split shape
  constructor
  · intro engagementId input asked
    obtain ⟨utterance, said, ready, rfl⟩ :=
      holds.repeats _ (mem_requests.mpr asked)
    obtain ⟨before, previous, goal, rfl, takes, goal_eq⟩ :=
      chronicle.goal_taken ready
    exact ⟨before, previous, goal, utterance, rfl, takes, said,
      Context.assessmentInput_eq goal_eq utterance⟩
  · intro call input asked notStart passes
    obtain ⟨utterance, said, repeats⟩ :=
      holds.repeats _ (mem_requests.mpr asked)
    refine ⟨utterance, said, ?_⟩
    cases call <;> cases passes <;> first | exact repeats | cases notStart

/-! ## Tidy texts -/

/-- A job that is not an utterance, or a tidy one. -/
def QueuedJob.IsTidy (queued : QueuedJob) : Prop :=
  ∀ text, queued.job = .utterance text → AssessmentChat.IsTidy text

/-- What an output passes on of what the user said. -/
def Output.input? : Output → Option String
  | .called (.service call) => call.input?
  | _ => none

/-- What is passed on of what the user said is tidy. -/
def PassesOnTidy (outputs : List Output) : Prop :=
  ∀ input ∈ outputs.filterMap Output.input?, IsTidy input

theorem IsTidy.goalAndMore
    {goal utterance : String}
    (tidy : IsTidy goal)
    (tidyToo : IsTidy utterance) :
    IsTidy (goalAndMore goal utterance) := by
  unfold AssessmentChat.goalAndMore
  rw [tidy.trim_eq, tidyToo.trim_eq, tidy.isEmpty_eq_false]
  exact tidy.spaced tidyToo

/-- Of tidy texts tidy ones are passed on. -/
theorem Turn.PassesOn.tidy
    {earlier : List Turn}
    {turn : Turn}
    {call : ServiceCall}
    {input : String}
    (passesOn : turn.PassesOn earlier)
    (each : ∀ among ∈ earlier ++ [turn], among.queued.IsTidy)
    (asked : .asked (.service call) ∈ turn.interaction.deeds)
    (passes : call.input? = some input) :
    IsTidy input := by
  have last : turn.queued.IsTidy := each turn (by simp)
  cases isStart : call.isStart with
  | true =>
      cases call <;> cases isStart
      cases passes
      obtain ⟨before, previous, goal, utterance, rfl, takes, said, rfl⟩ :=
        passesOn.start _ _ asked
      have previousTidy : previous.queued.IsTidy := each previous (by simp)
      exact (previousTidy goal takes.said).goalAndMore
        (last utterance said)
  | false =>
      obtain ⟨utterance, said, rfl⟩ :=
        passesOn.others call input asked isStart passes
      have tidy := last utterance said
      rwa [tidy.trim_eq]

/-! ## Runs -/

section Runs

variable
  {policy : PollPolicy}
  {first : Conversation}
  {moves : List Move}
  {outputs : List Output}
  {session : Session}

/-- The jobs of the turns are the first ones that were queued. -/
theorem Ledger.queued_prefix
    (ledger : Ledger policy first moves) :
    ledger.turns.map Turn.queued <+: moves.filterMap Move.queued? :=
  ⟨ledger.unbegun, ledger.jobs_eq.symm⟩

/-- What is passed on is passed on with a call of a turn. -/
theorem Account.exists_turn
    {input : String}
    (account : Account policy first moves outputs session)
    (passedOn : input ∈ outputs.filterMap Output.input?) :
    ∃ turn ∈ account.ledger.turns, ∃ call,
      .asked (.service call) ∈ turn.interaction.deeds ∧
        call.input? = some input := by
  obtain ⟨output, seen, passes⟩ := List.mem_filterMap.mp passedOn
  rw [account.outputs_eq] at seen
  rcases List.mem_append.mp seen with inTurns | dropped
  · obtain ⟨turn, among, inTurn⟩ := List.mem_flatMap.mp inTurns
    refine ⟨turn, among, ?_⟩
    rcases List.mem_append.mp inTurn with shown | resolved
    · obtain ⟨deed, inDeeds, shows⟩ := List.mem_filterMap.mp shown
      cases deed with
      | asked request =>
          cases shows
          cases request with
          | service call =>
              exact ⟨call, inDeeds, passes⟩
          | workspaceIsEmpty | storePlan | exportPlan =>
              cases passes
      | said | answered =>
          cases shows <;> cases passes
    · obtain ⟨_, -, rfl⟩ :=
        Option.map_eq_some_iff.mp (Option.mem_toList.mp resolved)
      cases passes
  · unfold Session.dropped at dropped
    split at dropped
    · obtain ⟨_, -, rfl⟩ := List.mem_map.mp dropped
      cases passes
    · cases dropped

/-- A session to which tidy texts are said passes on tidy ones. -/
theorem Run.passesOnTidy
    {sessionId : String}
    {now : Timestamp}
    (run : Run policy (.fresh sessionId now) moves outputs session)
    (tidy : ∀ queued ∈ moves.filterMap Move.queued?, queued.IsTidy) :
    PassesOnTidy outputs := by
  obtain ⟨account⟩ := run.account
  have each (among : Turn) (member : among ∈ account.ledger.turns) :
      among.queued.IsTidy :=
    tidy _
      (account.ledger.queued_prefix.subset (List.mem_map_of_mem member))
  intro input passedOn
  obtain ⟨turn, among, call, asked, passes⟩ :=
    account.exists_turn passedOn
  obtain ⟨earlier, later, shape⟩ := List.mem_iff_append.mp among
  refine (account.ledger.passesOn shape).tidy ?_ asked passes
  intro among member
  refine each among ?_
  rw [shape, List.append_cons]
  exact List.mem_append_left _ member

end Runs

/-! ## Chats -/

/-- The job that an act queues. -/
def Act.queued? : Act → Option QueuedJob
  | .moving _ move => move.queued?
  | _ => none

theorem Chat.tidy_of_mem_messageActs
    {number : Nat}
    {text : String}
    {credential : CredentialState}
    {opened : Chat}
    {act : Act}
    {queued : QueuedJob}
    (tidy : IsTidy text)
    (among : act ∈ opened.messageActs number text credential)
    (queues : act.queued? = some queued) :
    queued.IsTidy := by
  have isMessage : queued.job = .utterance text := by
    unfold messageActs at among
    split at among
    · cases List.mem_singleton.mp among
      cases queues
    · split at among
      · rcases List.mem_pair.mp among with rfl | rfl
        · cases queues
        · cases queues
          rfl
      · cases List.mem_singleton.mp among
        cases queues
        rfl
  intro other same
  cases isMessage.symm.trans same
  exact tidy

/-- What a command queues is tidy, for a chat trims what is typed. -/
theorem Chat.tidy_of_mem_actsOf
    {chat : Chat}
    {command : Command}
    {credential : CredentialState}
    {now : Timestamp}
    {act : Act}
    {queued : QueuedJob}
    (among : act ∈ chat.actsOf command credential now)
    (queues : act.queued? = some queued) :
    queued.IsTidy := by
  have message
      {sessionId text : String}
      (among :
        act ∈ chat.actsOf (.chatMessage sessionId text) credential now) :
      queued.IsTidy := by
    simp only [actsOf] at among
    split at among
    next =>
      cases among
    next notBlank =>
      rcases List.mem_cons.mp among with rfl | inMessage
      · cases queues
      · exact tidy_of_mem_messageActs
          (isTidy_trim (by simpa using notBlank)) inMessage queues
  cases command with
  | chatMessage | followUpClicked =>
      exact message among
  | help sessionId =>
      rcases List.mem_pair.mp among with rfl | rfl
      · cases queues
      · cases queues
        rintro text ⟨⟩
  | stopResponse | tabClosed | authChanged =>
      obtain ⟨_, -, rfl⟩ := List.mem_map.mp among
      cases queues
  | downloadPlan | signInClicked =>
      cases among

theorem Act.IsRegular.tidy
    {act : Act}
    {queued : QueuedJob}
    (regular : act.IsRegular)
    (queues : act.queued? = some queued) :
    queued.IsTidy := by
  cases regular with
  | commanded among =>
      exact Chat.tidy_of_mem_actsOf among queues
  | @own _ move isOwn =>
      cases move with
      | signal signal =>
          cases isOwn
      | proceed | elapse | receive =>
          cases queues

/-- What is queued for a session by commands is tidy. -/
theorem tidy_of_mem_movesOf
    {acts : List Act}
    {number : Nat}
    (regular : ∀ act ∈ acts, act.IsRegular) :
    ∀ queued ∈ (movesOf number acts).filterMap Move.queued?,
      queued.IsTidy := by
  intro queued member
  obtain ⟨move, inMoves, queues⟩ := List.mem_filterMap.mp member
  obtain ⟨act, among, moves⟩ := List.mem_filterMap.mp inMoves
  refine (regular act among).tidy ?_
  unfold Act.move? at moves
  split at moves
  · cases moves
  · split at moves
    · cases moves
      exact queues
    · cases moves
  · split at moves
    · cases moves
      cases queues
    · cases moves

/-- The sessions of a chat pass on tidy texts. -/
theorem Course.passesOnTidy
    {policy : PollPolicy}
    {acts : List Act}
    {chat : Chat}
    {number : Nat}
    {session : Session}
    (course : Course policy acts chat)
    (regular : ∀ act ∈ acts, act.IsRegular)
    (found : chat.registry.session? number = some session) :
    ∃ now outputs,
      Run policy (.fresh session.sessionId now) (movesOf number acts)
          outputs session ∧
        PassesOnTidy outputs := by
  obtain ⟨now, outputs, run⟩ := course.known.runs number session found
  exact ⟨now, outputs, run,
    run.passesOnTidy (tidy_of_mem_movesOf regular)⟩

/-- What a session passes on with its next move is tidy. -/
theorem Course.move_passesOnTidy
    {policy : PollPolicy}
    {acts : List Act}
    {chat : Chat}
    {number : Nat}
    {session : Session}
    {move : Move}
    {after : Session × List Output}
    (course : Course policy acts chat)
    (regular : ∀ act ∈ acts, act.IsRegular)
    (found : chat.registry.session? number = some session)
    (isOwn : move.isOwn = true)
    (moved : session.move? policy move = some after) :
    PassesOnTidy after.2 := by
  obtain ⟨now, outputs, run⟩ := course.known.runs number session found
  have regularToo :
      ∀ act ∈ acts ++ [.moving number move], act.IsRegular := by
    simpa [or_imp, forall_and] using ⟨regular, .own isOwn⟩
  have tidy := @tidy_of_mem_movesOf _ number regularToo
  rw [movesOf_snoc] at tidy
  intro input passedOn
  refine (run.move moved).passesOnTidy ?_ input ?_
  · simpa [Act.move?] using tidy
  · rw [List.filterMap_append]
    exact List.mem_append_right _ passedOn

/-- What a sight shows to be passed on of what the user said. -/
def Sight.input? : Sight → Option String
  | .shown output => output.input?
  | _ => none

/-- What is said in a chat is passed on tidy. -/
theorem History.passesOnTidy
    {policy : PollPolicy}
    {episodes : List Episode}
    {traffic : Traffic}
    (history : History policy episodes traffic) :
    ∀ episode ∈ episodes, ∀ number move,
      episode.happening = .session number move →
      ∀ input ∈ episode.scene.sights.filterMap Sight.input?,
        IsTidy input := by
  induction history with
  | start =>
      simp
  | goOn history autonomous followed inductionHypothesis =>
      intro episode among
      rcases List.mem_append.mp among with earlier | last
      · exact inductionHypothesis episode earlier
      · cases List.mem_singleton.mp last
        rintro number move rfl
        obtain ⟨acts, regular, course⟩ := history.regular_course
        obtain ⟨session, found, goesOn⟩ :=
          Option.bind_eq_some_iff.mp followed
        obtain ⟨after, moved, rfl⟩ := Option.map_eq_some_iff.mp goesOn
        rw [List.filterMap_map]
        exact course.move_passesOnTidy regular found autonomous moved

/--
What the user said is what the service gets.  In every run of a new session the
turns follow the queue, and each passes on what is said in it; a new assessment
gets the goal too, which was said in the turn before.  What the sessions of a chat
pass on is not blank and has no white space around it, also while commands
overlap.
-/
theorem words_passed_on
    {policy : PollPolicy} :
    (∀ sessionId now moves outputs session,
        Run policy (.fresh sessionId now) moves outputs session →
        ∃ account :
            Account policy (.start sessionId now) moves outputs session,
          account.ledger.turns.map Turn.queued <+:
              moves.filterMap Move.queued? ∧
            ∀ earlier turn later,
              account.ledger.turns = earlier ++ turn :: later →
              turn.PassesOn earlier) ∧
      (∀ acts chat number session,
        Course policy acts chat →
        (∀ act ∈ acts, act.IsRegular) →
        chat.registry.session? number = some session →
        ∃ now outputs,
          Run policy (.fresh session.sessionId now) (movesOf number acts)
              outputs session ∧
            PassesOnTidy outputs) ∧
      ∀ episodes traffic,
        History policy episodes traffic →
        ∀ episode ∈ episodes, ∀ number move,
          episode.happening = .session number move →
          ∀ input ∈ episode.scene.sights.filterMap Sight.input?,
            IsTidy input := by
  refine ⟨?_, ?_, fun _ _ history => history.passesOnTidy⟩
  · intro sessionId now moves outputs session run
    obtain ⟨account⟩ := run.account
    exact ⟨account, account.ledger.queued_prefix,
      fun _ _ _ shape => account.ledger.passesOn shape⟩
  · intro acts chat number session course regular found
    exact course.passesOnTidy regular found

/-- A goal is said, and what is needed for it, in one tab. -/
def splitting : List Happening :=
  let moment : Moment := ⟨"M1", ⟨0, 0⟩⟩
  [.command (.chatMessage "left" " split the shop") .connected moment,
    .session 0 (.proceed moment false),
    .command (.chatMessage "left" "by team\n") .connected moment,
    .session 0 (.proceed moment false),
    .session 0 (.receive moment .workspaceIsEmpty false),
    .session 0
      (.receive moment (.service .createEngagement) (.ok ⟨"E1"⟩))]

/-- The goal and what is needed for it are passed on in one tidy text. -/
theorem words_passed_on_splitting :
    ∃ episodes traffic session now moves outputs,
      History ⟨0, 3⟩ episodes traffic ∧
        (∃ episode ∈ episodes,
          "split the shop by team" ∈
            episode.scene.sights.filterMap Sight.input?) ∧
        IsTidy "split the shop by team" ∧
        traffic.chat.registry.session? 0 = some session ∧
        Run ⟨0, 3⟩ (.fresh session.sessionId now) moves outputs session ∧
        PassesOnTidy outputs ∧
        ∃ account :
            Account ⟨0, 3⟩ (.start session.sessionId now) moves outputs
              session,
          ∀ earlier turn later,
            account.ledger.turns = earlier ++ turn :: later →
            turn.PassesOn earlier := by
  let uploaded : Happening :=
    .session 0
      (.receive ⟨"M1", ⟨0, 0⟩⟩ (.service (.uploadWorkspace "E1")) (.ok ()))
  have starts :
      ((Traffic.replay? ⟨0, 3⟩ ⟨.empty, []⟩ splitting).bind fun last =>
        (last.2.follow? ⟨0, 3⟩ uploaded).map fun scene =>
          (scene.sights.filterMap Sight.input?,
            (scene.traffic.chat.registry.session? 0).isSome)) =
        some (["split the shop by team"], true) := by
    decide +kernel
  obtain ⟨⟨episodes, traffic⟩, replayed, goesOn⟩ :=
    Option.bind_eq_some_iff.mp starts
  obtain ⟨scene, followed, seen⟩ := Option.map_eq_some_iff.mp goesOn
  obtain ⟨inputs, opened⟩ := Prod.mk.inj seen
  obtain ⟨session, found⟩ := Option.isSome_iff_exists.mp opened
  have history :=
    (History.replay .start rfl replayed).goOn rfl followed
  have passedOn :
      "split the shop by team" ∈
        scene.sights.filterMap Sight.input? := by
    simp [inputs]
  obtain ⟨runs, courses, histories⟩ := @words_passed_on ⟨0, 3⟩
  obtain ⟨acts, regular, course⟩ := history.regular_course
  obtain ⟨now, outputs, run, tidy⟩ :=
    courses acts _ 0 session course regular found
  obtain ⟨account, -, passesOn⟩ := runs _ _ _ _ _ run
  have among :
      ⟨traffic, uploaded, scene⟩ ∈
        episodes ++ [⟨traffic, uploaded, scene⟩] :=
    List.mem_append_right _ (List.mem_singleton_self _)
  exact ⟨_, _, session, now, _, outputs, history, ⟨_, among, passedOn⟩,
    histories _ _ history _ among 0 _ rfl _ passedOn, found, run, tidy,
    account, passesOn⟩

end AssessmentChat
