import AssessmentChat.Proofs.Recollection

namespace AssessmentChat

/-!
# Names since the last restart

Every call of a session passes back the names that the service gave last since
the conversation last started over, and the context recalls them from one turn
to the next.  This holds of the turn under way too, at every moment: what is
done so far can be carried on to an end, and what holds of the calls by the end
holds of those made before.
-/

/-! ## Courses that are under way -/

/-- A watch can end when a status request fails. -/
theorem WatchGoesOn.exists_ends
    {policy : PollPolicy}
    {call : ServiceCall}
    {isTerminal : call.Reply → Bool}
    {report : call.Reply → List Notice}
    {deeds : List Deed}
    {failures : Nat}
    (goesOn : WatchGoesOn policy call isTerminal report deeds failures)
    (fault : Fault) :
    ∃ outcome,
      WatchEnds policy call isTerminal report
        (deeds ++ call.exchange (.error fault)) outcome := by
  by_cases enough : policy.maxConsecutiveErrors ≤ failures + 1
  · exact ⟨_, .exhausted goesOn enough⟩
  · exact ⟨_, .cancelled (goesOn.failed fault (Nat.lt_of_not_le enough))⟩

namespace Procedure

variable {policy : PollPolicy}

/-- Every procedure can be carried out to its end. -/
theorem exists_yields
    (policy : PollPolicy)
    (procedure : Procedure α) :
    ∃ deeds result, procedure.Yields policy deeds result := by
  induction procedure with
  | finish result =>
      exact ⟨_, _, .finish result⟩
  | publish notice next inductionHypothesis =>
      obtain ⟨deeds, result, yields⟩ := inductionHypothesis
      exact ⟨_, result, .publish yields⟩
  | nameStream next inductionHypothesis =>
      obtain ⟨deeds, result, yields⟩ := inductionHypothesis ""
      exact ⟨_, result, .nameStream "" yields⟩
  | ask request next inductionHypothesis =>
      obtain ⟨answer⟩ := Interaction.BoundToFinish.answerable request
      obtain ⟨deeds, result, yields⟩ := inductionHypothesis answer
      exact ⟨_, result, .answered answer yields⟩
  | watch call isTerminal report next inductionHypothesis =>
      obtain ⟨deeds, result, yields⟩ :=
        inductionHypothesis (.ok .cancelled)
      exact ⟨_, result, .ended (.cancelled .begun) yields⟩

/-- A course that is under way can come to its end. -/
theorem Reaches.exists_yields
    {procedure : Procedure α}
    {deeds : List Deed}
    {activity : Activity α}
    (reaches : procedure.Reaches policy deeds activity) :
    ∃ rest result, procedure.Yields policy (deeds ++ rest) result := by
  induction reaches with
  | finish result =>
      exact ⟨[], result, .finish result⟩
  | publish _ inductionHypothesis =>
      obtain ⟨rest, result, yields⟩ := inductionHypothesis
      exact ⟨rest, result, .publish yields⟩
  | nameStream name _ inductionHypothesis =>
      obtain ⟨rest, result, yields⟩ := inductionHypothesis
      exact ⟨rest, result, .nameStream name yields⟩
  | asking request next =>
      obtain ⟨answer⟩ := Interaction.BoundToFinish.answerable request
      obtain ⟨rest, result, yields⟩ :=
        (next answer).exists_yields policy
      exact ⟨.answered request answer :: rest, result,
        .answered answer yields⟩
  | answered answer _ inductionHypothesis =>
      obtain ⟨rest, result, yields⟩ := inductionHypothesis
      refine ⟨rest, result, ?_⟩
      rw [List.append_assoc]
      exact .answered answer yields
  | pausing next goesOn =>
      obtain ⟨rest, result, yields⟩ :=
        (next (.ok .cancelled)).exists_yields policy
      exact ⟨rest, result, .ended (.cancelled goesOn) yields⟩
  | @checking call _ _ _ _ next goesOn =>
      let fault : Fault := .internal ""
      obtain ⟨outcome, ends⟩ := goesOn.exists_ends fault
      obtain ⟨rest, result, yields⟩ := (next outcome).exists_yields policy
      refine ⟨.answered (.service call) (.error fault) :: rest, result, ?_⟩
      simpa [Yields, ServiceCall.exchange, Request.exchange] using
        Reaches.ended ends yields
  | ended ends _ inductionHypothesis =>
      obtain ⟨rest, result, yields⟩ := inductionHypothesis
      refine ⟨rest, result, ?_⟩
      rw [List.append_assoc]
      exact .ended ends yields

end Procedure

/-! ## Turns -/

instance : DecidablePred Turn.Restarts :=
  fun turn =>
    inferInstanceAs
      (Decidable (turn.before.phase = .errored ∧ turn.queued.job ≠ .help))

/-- How often the conversation has started over. -/
def restarts (turns : List Turn) : Nat :=
  turns.countP fun turn => turn.Restarts

/-- The names given since the conversation last started over. -/
def sinceRestart (turns : List Turn) : List RemoteName :=
  namesGiven (deedsOf (turns.rtakeWhile fun turn => ¬ turn.Restarts))

theorem sinceRestart_snoc
    (turns : List Turn)
    (turn : Turn) :
    sinceRestart (turns ++ [turn]) =
      if turn.Restarts then []
      else sinceRestart turns ++ namesGiven turn.interaction.deeds := by
  unfold sinceRestart
  rw [List.rtakeWhile_concat]
  by_cases restarts : turn.Restarts
  · simp [restarts, deedsOf, namesGiven]
  · simp [restarts, deedsOf]

/-- A name that a call passes back was given. -/
structure ServiceCall.NamesGiven
    (call : ServiceCall)
    (names : List RemoteName) : Prop where
  engagement :
    ∀ engagementId,
      call.engagement? = some engagementId →
      .engagement engagementId ∈ names
  assessment :
    ∀ assessmentId,
      call.assessment? = some assessmentId →
      ∃ engagementId, .assessment engagementId assessmentId ∈ names
  interaction :
    ∀ interactionId,
      call.interaction? = some interactionId →
      .interaction interactionId ∈ names

/--
A turn that works with the names given before it and during it, and with no
others.
-/
structure Turn.Recollects
    (names : List RemoteName)
    (turn : Turn) : Prop where
  before :
    turn.before.context.Recalls names
  calls :
    CallsNameLast names turn.interaction.deeds
  given :
    ∀ call,
      .asked (.service call) ∈ turn.interaction.deeds →
      call.NamesGiven (names ++ namesGiven turn.interaction.deeds)
  creates :
    turn.before.context.engagementId.isSome = true →
    .asked (.service .createEngagement) ∉ turn.interaction.deeds

theorem ServiceCall.NamesGiven.mono
    {call : ServiceCall}
    {names more : List RemoteName}
    (given : call.NamesGiven names)
    (subset : names ⊆ more) :
    call.NamesGiven more := by
  refine ⟨?_, ?_, ?_⟩
  · intro engagementId passed
    exact subset (given.engagement engagementId passed)
  · intro assessmentId passed
    obtain ⟨engagementId, member⟩ := given.assessment assessmentId passed
    exact ⟨engagementId, subset member⟩
  · intro interactionId passed
    exact subset (given.interaction interactionId passed)

theorem exists_mem_of_lastGiven
    {kind : RemoteName → Option α}
    {names : List RemoteName}
    {value : α}
    (last : lastGiven kind names = some value) :
    ∃ name ∈ names, kind name = some value :=
  List.mem_filterMap.mp (List.mem_of_getLast? last)

theorem ServiceCall.NamesLast.given
    {call : ServiceCall}
    {names : List RemoteName}
    (named : call.NamesLast names) :
    call.NamesGiven names := by
  refine ⟨?_, ?_, ?_⟩
  · intro engagementId passed
    obtain ⟨name, member, kind⟩ :=
      exists_mem_of_lastGiven (named.engagement engagementId passed)
    cases name <;> cases kind
    exact member
  · intro assessmentId passed
    obtain ⟨⟨engagementId, _⟩, last, rfl⟩ :=
      Option.map_eq_some_iff.mp (named.assessment assessmentId passed)
    obtain ⟨name, member, kind⟩ := exists_mem_of_lastGiven last
    cases name <;> cases kind
    exact ⟨engagementId, member⟩
  · intro interactionId passed
    obtain ⟨name, member, kind⟩ :=
      exists_mem_of_lastGiven (named.interaction interactionId passed)
    cases name <;> cases kind
    exact member

namespace Conversation

variable
  {policy : PollPolicy}
  {conversation : Conversation}
  {job : Job}
  {now : Timestamp}
  {names : List RemoteName}
  {deeds : List Deed}
  {outcome : Except Fault Conversation}

/-- A conversation that starts over passes nothing back and forgets every name. -/
theorem carryOut_restarts
    (errored : conversation.phase = .errored)
    (notHelp : job ≠ .help)
    (yields :
      (conversation.carryOut now job).Yields policy deeds outcome) :
    deeds.filterMap Deed.request? = [] ∧
      outcome = .ok ⟨.awaitingGoal, conversation.context.restarted now⟩ := by
  cases job with
  | help =>
      exact absurd rfl notHelp
  | utterance text =>
      obtain ⟨rfl, rfl⟩ := (interact_yields yields).apologises errored
      exact ⟨rfl, rfl⟩

/-- A job that does not start over passes back what was given last. -/
theorem carryOut_recollects
    (recalls : conversation.context.Recalls names)
    (goesOn : ¬ (conversation.phase = .errored ∧ job ≠ .help))
    (yields :
      (conversation.carryOut now job).Yields policy deeds outcome) :
    Recollects names deeds (outcome.toOption.getD conversation).context ∧
      (outcome.toOption.getD conversation).context.traceId =
        conversation.context.traceId := by
  cases job with
  | help =>
      obtain ⟨rfl, rfl⟩ := carryOut_help_yields yields
      exact ⟨.of_silent (recalls.congr rfl rfl rfl)
        (by simp), rfl⟩
  | utterance text =>
      have notErrored : conversation.phase ≠ .errored :=
        fun errored => goesOn ⟨errored, nofun⟩
      have handling := interact_yields yields
      cases outcome with
      | ok next =>
          exact ⟨handling.recollects notErrored recalls,
            handling.traceId_eq notErrored⟩
      | error fault =>
          cases handling
          exact ⟨.of_silent recalls (by simp), rfl⟩

/-- Whatever comes of a job, it passes back what was given last. -/
theorem carryOut_calls
    (recalls : conversation.context.Recalls names)
    (yields :
      (conversation.carryOut now job).Yields policy deeds outcome) :
    CallsNameLast names deeds := by
  by_cases restarts : conversation.phase = .errored ∧ job ≠ .help
  · obtain ⟨nothing, -⟩ := carryOut_restarts restarts.1 restarts.2 yields
    exact (Recollects.of_silent recalls (by simp [nothing])).calls
  · exact (carryOut_recollects recalls restarts yields).1.calls

/-- A job of a conversation that knows its engagement creates none. -/
theorem carryOut_creates_nothing
    (known : conversation.context.engagementId.isSome = true)
    (yields :
      (conversation.carryOut now job).Yields policy deeds outcome) :
    .service .createEngagement ∉ deeds.filterMap Deed.request? := by
  cases job with
  | help =>
      obtain ⟨rfl, -⟩ := carryOut_help_yields yields
      simp
  | utterance text =>
      exact (interact_yields yields).creates_nothing known

end Conversation

/-- What a turn that has come to its end leaves. -/
theorem Turn.after_eq
    {outcome : Except Fault Conversation}
    (turn : Turn)
    (ended : turn.outcome? = some outcome) :
    turn.after = outcome.toOption.getD turn.before := by
  rw [after, ended]
  rfl

namespace Turn.Holds

variable
  {policy : PollPolicy}
  {earlier : List Move}
  {turn : Turn}
  {names : List RemoteName}

/-- A turn passes back what was given last, also while it is under way. -/
theorem recollects
    (holds : turn.Holds policy earlier)
    (recalls : turn.before.context.Recalls names) :
    turn.Recollects names := by
  obtain ⟨rest, outcome, yields⟩ :=
    (Conversation.handling?_reaches holds.handled).exists_yields
  have calls := (Conversation.carryOut_calls recalls yields).of_append
  refine ⟨recalls, calls, ?_, ?_⟩
  · intro call asked
    obtain ⟨before, after, shape⟩ := List.mem_iff_append.mp asked
    have given := (calls before call after shape).given
    refine given.mono ?_
    rw [shape, namesGiven_append, ← List.append_assoc]
    exact List.subset_append_left ..
  · intro known asked
    exact Conversation.carryOut_creates_nothing known yields
      (mem_request_of_asked (List.mem_append_left rest asked))

/-- What a turn leaves is recalled, unless the conversation starts over. -/
theorem leaves
    (holds : turn.Holds policy earlier)
    (ended : turn.outcome?.isSome = true)
    (recalls : turn.before.context.Recalls names) :
    turn.after.context.Recalls
        (if turn.Restarts then []
        else names ++ namesGiven turn.interaction.deeds) ∧
      turn.after.context.traceId =
        turn.before.context.traceId + if turn.Restarts then 1 else 0 := by
  obtain ⟨outcome, outcome?⟩ := Option.isSome_iff_exists.mp ended
  have yields := holds.yields outcome?
  rw [turn.after_eq outcome?]
  by_cases restarts : turn.Restarts
  · rw [if_pos restarts, if_pos restarts]
    obtain ⟨-, rfl⟩ :=
      Conversation.carryOut_restarts restarts.1 restarts.2 yields
    exact ⟨.nothing rfl rfl rfl, rfl⟩
  · rw [if_neg restarts, if_neg restarts]
    obtain ⟨recollects, traceId⟩ :=
      Conversation.carryOut_recollects recalls restarts yields
    exact ⟨recollects.recalls, by simpa using traceId⟩

end Turn.Holds

/-! ## Runs -/

/-- A session recalls what was given since it last started over. -/
theorem Chronicle.recalls
    {policy : PollPolicy}
    {sessionId : String}
    {now : Timestamp}
    {moves : List Move}
    {turns : List Turn}
    {last : Conversation}
    (chronicle :
      Chronicle policy (.start sessionId now) moves turns last) :
    last.context.Recalls (sinceRestart turns) ∧
      last.context.traceId.toNat = (1 + restarts turns) % UInt64.size := by
  induction chronicle with
  | opened =>
      exact ⟨.nothing rfl rfl rfl, rfl⟩
  | @turned _ turns turn _ holds ended inductionHypothesis =>
      obtain ⟨recalls, counted⟩ := inductionHypothesis
      obtain ⟨recallsAfter, traceId⟩ := holds.leaves ended recalls
      rw [sinceRestart_snoc]
      refine ⟨recallsAfter, ?_⟩
      rw [traceId, UInt64.toNat_add, counted]
      by_cases restarts : turn.Restarts
      · simp [AssessmentChat.restarts, restarts, UInt64.size]
        omega
      · simp [AssessmentChat.restarts, restarts, UInt64.size]

/-- Every turn of a ledger follows the chronicle that led up to it. -/
theorem Ledger.split
    {policy : PollPolicy}
    {first : Conversation}
    {moves : List Move}
    {earlier later : List Turn}
    {turn : Turn}
    (ledger : Ledger policy first moves)
    (shape : ledger.turns = earlier ++ turn :: later) :
    ∃ past,
      Chronicle policy first past earlier turn.before ∧
        turn.Holds policy past := by
  unfold Ledger.turns at shape
  cases current : ledger.current with
  | none =>
      rw [current, Option.toList_none, List.append_nil] at shape
      have chronicle := ledger.chronicle
      rw [shape] at chronicle
      obtain ⟨past, chronicle, holds, -⟩ := chronicle.split
      exact ⟨past, chronicle, holds⟩
  | some underWay =>
      rw [current, Option.toList_some] at shape
      rcases List.eq_nil_or_concat later with rfl | ⟨between, final, rfl⟩
      · obtain ⟨rfl, same⟩ := List.append_inj' shape rfl
        cases same
        obtain ⟨holds, before, -⟩ := ledger.underWay _ current
        exact ⟨ledger.past, before ▸ ledger.chronicle, holds⟩
      · have shape' : ledger.finished ++ [underWay] =
            (earlier ++ turn :: between) ++ [final] := by
          simpa using shape
        have chronicle := ledger.chronicle
        rw [(List.append_inj' shape' rfl).1] at chronicle
        obtain ⟨past, chronicle, holds, -⟩ := chronicle.split
        exact ⟨past, chronicle, holds⟩

theorem sinceRestart_append
    {turns more : List Turn}
    (goOn : ∀ turn ∈ more, ¬ turn.Restarts) :
    sinceRestart (turns ++ more) =
      sinceRestart turns ++ namesGiven (deedsOf more) := by
  have kept :
      (turns ++ more).rtakeWhile (fun turn => ¬ turn.Restarts) =
        turns.rtakeWhile (fun turn => ¬ turn.Restarts) ++ more := by
    unfold List.rtakeWhile
    rw [List.reverse_append, List.takeWhile_append_of_pos]
    · rw [List.reverse_append, List.reverse_reverse]
    · simpa using goOn
  rw [sinceRestart, kept]
  simp [sinceRestart, deedsOf]

/-- An engagement that is known stays known until the conversation starts over. -/
theorem Context.Recalls.stays_known
    {before after : Context}
    {names more : List RemoteName}
    (recallsBefore : before.Recalls names)
    (recallsAfter : after.Recalls (names ++ more))
    (known : before.engagementId.isSome = true) :
    after.engagementId.isSome = true := by
  rw [recallsBefore.engagement, Option.isSome_map] at known
  rw [recallsAfter.engagement, Option.isSome_map]
  unfold lastGiven at known ⊢
  rw [List.filterMap_append, List.getLast?_append, Option.isSome_or, known,
    Bool.or_true]

/--
A new session works with the names that the service gave last since it last
started over, in every turn and at every moment of the turn under way: each call
passes those back and no others, and the conversation recalls the last
assessment, its engagement and its last interaction.  So no name is passed back
that was not given since then.  While an engagement is known none is created, and
the trace counts the starts.
-/
theorem names_since_restart
    {policy : PollPolicy}
    {sessionId : String}
    {now : Timestamp}
    {moves : List Move}
    {outputs : List Output}
    {session : Session}
    (run : Run policy (.fresh sessionId now) moves outputs session) :
    ∃ account :
        Account policy (.start sessionId now) moves outputs session,
      session.conversation.context.Recalls
          (sinceRestart account.ledger.finished) ∧
        session.conversation.context.traceId.toNat =
          (1 + restarts account.ledger.finished) % UInt64.size ∧
        (∀ earlier turn later,
          account.ledger.turns = earlier ++ turn :: later →
          turn.Recollects (sinceRestart earlier)) ∧
        ∀ earlier turn between next later,
          account.ledger.turns =
            earlier ++ turn :: (between ++ next :: later) →
          turn.before.context.engagementId.isSome = true →
          (∀ passed ∈ turn :: between, ¬ passed.Restarts) →
          .asked (.service .createEngagement) ∉
            next.interaction.deeds := by
  obtain ⟨account⟩ := run.account
  have recollects
      (earlier : List Turn)
      (turn : Turn)
      (later : List Turn)
      (shape : account.ledger.turns = earlier ++ turn :: later) :
      turn.Recollects (sinceRestart earlier) := by
    obtain ⟨past, chronicle, holds⟩ := account.ledger.split shape
    exact holds.recollects chronicle.recalls.1
  refine ⟨account, ?_, ?_, recollects, ?_⟩
  · rw [← account.last_eq]
    exact account.ledger.chronicle.recalls.1
  · rw [← account.last_eq]
    exact account.ledger.chronicle.recalls.2
  · intro earlier turn between next later shape known goOn
    have first := recollects earlier turn _ shape
    have second :=
      recollects (earlier ++ turn :: between) next later (by simp [shape])
    rw [sinceRestart_append goOn] at second
    exact second.creates (first.before.stays_known second.before known)

/-- A download fails, and the conversation starts over to a plan and an answer. -/
theorem failed_download_then_answer :
    ∃ moves outputs session,
      Run ⟨0, 3⟩ (.fresh "S1" ⟨0, 0⟩) moves outputs session ∧
      session.conversation.context.traceId = 2 ∧
      session.conversation.context.engagementId = some "E2" ∧
      session.conversation.context.assessmentId = some "A2" ∧
      session.conversation.context.interactionId = some "I2" := by
  let moment : Moment := ⟨"M1", ⟨0, 0⟩⟩
  let clarified : Context :=
    (Context.start "S1" ⟨0, 0⟩).withGoal (trim "goal")
  let answers (call : ServiceCall) (reply : call.Reply) : Move :=
    .receive moment (.service call) (.ok reply)
  let utters (handle : Nat) (text : String) : List Move :=
    [.signal (.enqueue ⟨handle, .utterance text⟩), .proceed moment false]
  let assessed
      (engagementId : EngagementId)
      (assessmentId : AssessmentId) : List Move :=
    [.receive moment .workspaceIsEmpty false,
      answers .createEngagement ⟨engagementId⟩,
      answers (.uploadWorkspace engagementId) (),
      answers
        (.startAssessment engagementId (clarified.assessmentInput "go"))
        ⟨assessmentId, .inProgress⟩,
      .elapse moment,
      answers (.assessmentStatus engagementId assessmentId)
        ⟨.completed, ""⟩]
  let plan : PlanArtifact := ⟨"S1", "A2", "# Plan"⟩
  let moves : List Move :=
    utters 0 "goal" ++ utters 1 "go" ++ assessed "E1" "A1" ++
      [.receive moment (.service (.downloadPlan "E1" "A1"))
        (.error (.remoteCall "CreateDownloadUrl" "HTTP 503"))] ++
      utters 2 "again" ++ utters 3 "goal" ++ utters 4 "go" ++
      assessed "E2" "A2" ++
      [answers (.downloadPlan "E2" "A2") plan.content,
        .receive moment (.storePlan plan) (.ok ⟨"plans"⟩)] ++
      utters 5 "why" ++
      [answers (.deriveIntent "E2" (trim "why")) .question,
        answers (.startInteraction "E2" (trim "why"))
          ⟨"I2", .inProgress⟩,
        .elapse moment,
        answers (.interactionStatus "E2" "I2") ⟨.completed, "Because"⟩]
  let recalled : Context :=
    { clarified with
      traceId := 2
      engagementId := some "E2"
      assessmentId := some "A2"
      interactionId := some "I2" }
  have reached :
      ((Session.fresh "S1" ⟨0, 0⟩).moveAll? ⟨0, 3⟩ moves).map
          (fun last => last.1.conversation.context) =
        some recalled := by
    decide +kernel
  obtain ⟨⟨session, outputs⟩, moved, context⟩ :=
    Option.map_eq_some_iff.mp reached
  refine ⟨moves, outputs, session, Run.start.moveAll moved, ?_⟩
  rw [context]
  exact ⟨rfl, rfl, rfl, rfl⟩

/-- After a download that failed, the session works with names of its own. -/
theorem names_since_restart_after_failed_download :
    ∃ moves outputs session,
      Run ⟨0, 3⟩ (.fresh "S1" ⟨0, 0⟩) moves outputs session ∧
      session.conversation.context.traceId = 2 ∧
      ∃ account :
          Account ⟨0, 3⟩ (.start "S1" ⟨0, 0⟩) moves outputs session,
        lastGiven RemoteName.engagement?
            (sinceRestart account.ledger.finished) =
          some "E2" ∧
        lastGiven RemoteName.interaction?
            (sinceRestart account.ledger.finished) =
          some "I2" ∧
        ∀ earlier turn later,
          account.ledger.turns = earlier ++ turn :: later →
          turn.Recollects (sinceRestart earlier) := by
  obtain ⟨moves, outputs, session, run, traceId, engagement, -,
      interaction⟩ := failed_download_then_answer
  obtain ⟨account, recalls, -, recollects, -⟩ := names_since_restart run
  exact ⟨moves, outputs, session, run, traceId, account,
    recalls.created "E2" engagement, recalls.lastInteraction interaction,
    recollects⟩

end AssessmentChat
