import AssessmentChat.Proofs.Disposal

namespace AssessmentChat

/-!
# What a cancellation reaches

A cancellation that finds nothing to cancel changes nothing.  One that finds an
interaction tells that interaction to stop, and nothing else: the jobs that come
later are handled as in a session that begins anew on the conversation which the
interaction leaves, and to which the jobs that wait are sent again.

So two runs that part at a cancellation are compared job by job.  Each later job
is handled by itself, under a token that nobody has told to stop, and what comes
of it is determined by the conversation that it finds, by its moment and by what
happens while it is handled.
-/

/-- What a turn comes to when nothing has told it to stop at its beginning. -/
def Turn.GoesAlone (policy : PollPolicy) (turn : Turn) : Prop :=
  turn.before.handling? policy turn.queued.job
      ⟨turn.opening.toMoment, false⟩ turn.occurrences =
    some turn.interaction

/-- Jobs that are sent one after another. -/
def sent (jobs : List QueuedJob) : List Move :=
  jobs.map fun queued => .signal (.enqueue queued)

/--
What comes of a session from a moment on at which it handles an interaction.  The
interaction goes on by itself, and when it has ended, the jobs that wait are
handled one after another, each by itself, and none of them is dropped.
-/
inductive Sequel
    (policy : PollPolicy)
    (sessionId : String)
    (handle : Nat)
    (phase : Phase)
    (conversation : Conversation)
    (queue : List QueuedJob)
    (inFlight : Interaction (Except Fault Conversation)) :
    List Move → List Turn → List Output → Session → Prop where
  | underWay
      {during : List Move}
      {reached : Interaction (Except Fault Conversation)}
      {last : Session} :
      inFlight.meetAll? policy
          (during.filterMap (Move.occurrence? phase)) =
        some reached →
      reached.activity.outcome? = none →
      last.worker = .interacting handle reached.activity →
      last.queue = queue ++ during.filterMap Move.queued? →
      Sequel policy sessionId handle phase conversation queue inFlight
        during []
        (reached.deeds.filterMap (Deed.output? sessionId))
        last
  | ended
      {during after : List Move}
      {reached : Interaction (Except Fault Conversation)}
      {result : Except Fault Conversation}
      {jobs : List QueuedJob}
      {outputs : List Output}
      {last : Session}
      (account :
        Account policy (result.toOption.getD conversation)
          (sent jobs ++ after) outputs last) :
      inFlight.meetAll? policy
          (during.filterMap (Move.occurrence? phase)) =
        some reached →
      reached.activity.outcome? = some result →
      jobs = queue ++ during.filterMap Move.queued? →
      jobs ++ after.filterMap Move.queued? =
        account.ledger.turns.map Turn.queued ++ last.awaiting →
      (∀ turn ∈ account.ledger.turns, turn.GoesAlone policy) →
      Sequel policy sessionId handle phase conversation queue inFlight
        (during ++ after) account.ledger.turns
        (reached.deeds.filterMap (Deed.output? sessionId) ++
          .resolved handle (result.map Conversation.phase) :: outputs)
        last

/-! ## Jobs that come after an interaction -/

theorem sent_queued
    (jobs : List QueuedJob) :
    (sent jobs).filterMap Move.queued? = jobs := by
  induction jobs with
  | nil =>
      rfl
  | cons queued rest inductionHypothesis =>
      exact congrArg (queued :: ·) inductionHypothesis

theorem dispose_notMem_sent
    (jobs : List QueuedJob) :
    Move.signal .dispose ∉ sent jobs := by
  simp [sent]

namespace Account

variable
  {policy : PollPolicy}
  {first : Conversation}
  {moves later : List Move}
  {outputs seen : List Output}
  {session last : Session}

/-- An idle session as one to which its jobs have just been sent. -/
def anew
    (policy : PollPolicy)
    (session : Session)
    (idle : session.worker = .idle)
    (nothing : session.running = none)
    (undisposed : session.disposed = false) :
    Account policy session.conversation (sent session.queue) []
      session where
  ledger :=
    { finished := []
      past := []
      last := session.conversation
      current := none
      pending := sent session.queue
      unbegun := session.queue
      chronicle := .opened
      underWay := by simp
      moves_eq := rfl
      jobs_eq := sent_queued session.queue }
  last_eq := rfl
  outputs_eq := by
    simp [Ledger.outputs, Ledger.turns, Session.dropped,
      Session.hasStopped, idle]
  disposed_iff := by
    simp [undisposed, dispose_notMem_sent]
  stands := .idle idle nothing rfl rfl

/-- An account goes on with every move. -/
theorem moveAll
    (account : Account policy first moves outputs session)
    (moved : session.moveAll? policy later = some (last, seen)) :
    Nonempty
      (Account policy first (moves ++ later) (outputs ++ seen) last) := by
  induction later generalizing moves outputs session seen with
  | nil =>
      cases moved
      simpa using ⟨account⟩
  | cons move rest inductionHypothesis =>
      obtain ⟨⟨next, shown⟩, others, firstMoved, restMoved, rfl, -⟩ :=
        Session.moveAll?_cons_eq_some moved
      have stepped :
          Nonempty
            (Account policy first (moves ++ [move]) (outputs ++ shown)
              next) := by
        cases move with
        | signal signal =>
            have heeded : session.heed signal = (next, shown) :=
              Option.some.inj firstMoved
            have accounted := account.heed signal
            rwa [heeded] at accounted
        | proceed | elapse | receive =>
            exact account.work rfl firstMoved
      obtain ⟨accountAfter⟩ := stepped
      have further := inductionHypothesis accountAfter restMoved
      simpa using further

/-- A session that has not been disposed of drops nothing. -/
theorem jobs_eq
    (account : Account policy first moves outputs session)
    (undisposed : session.disposed = false) :
    moves.filterMap Move.queued? =
      account.ledger.turns.map Turn.queued ++ session.awaiting := by
  have jobs_eq := account.ledger.jobs_eq
  unfold Session.awaiting Session.held?
  cases account.stands with
  | idle stands _ _ unbegun | gated _ _ stands _ _ unbegun
  | interacting _ _ stands _ _ _ _ unbegun =>
      rw [unbegun] at jobs_eq
      rw [stands]
      exact jobs_eq
  | stopped _ disposed =>
      rw [undisposed] at disposed
      cases disposed

end Account

/-- Without disposal a turn begins under a token that nobody has told to stop. -/
theorem Turn.Holds.goesAlone
    {policy : PollPolicy}
    {earlier : List Move}
    {turn : Turn}
    (holds : turn.Holds policy earlier)
    (undisposed : Move.signal .dispose ∉ earlier ++ turn.lead) :
    turn.GoesAlone policy := by
  have handled := holds.handled
  have notTold : turn.opening.toldToStop = false := by
    rw [← Bool.not_eq_true, holds.told]
    exact undisposed
  have opening : turn.opening = ⟨turn.opening.toMoment, false⟩ := by
    rw [← notTold]
  rwa [opening] at handled

theorem Chronicle.goAlone
    {policy : PollPolicy}
    {first last : Conversation}
    {moves : List Move}
    {turns : List Turn}
    (chronicle : Chronicle policy first moves turns last)
    (undisposed : Move.signal .dispose ∉ moves) :
    ∀ turn ∈ turns, turn.GoesAlone policy := by
  induction chronicle with
  | opened =>
      simp
  | @turned earlier turns newest _ holds _ inductionHypothesis =>
      simp only [Turn.moves, List.mem_append, not_or] at undisposed
      obtain ⟨notEarlier, notLead, -⟩ := undisposed
      intro turn member
      rcases List.mem_append.mp member with former | now
      · exact inductionHypothesis notEarlier turn former
      · cases List.mem_singleton.mp now
        exact holds.goesAlone (by simp [notEarlier, notLead])

/-- Without disposal every turn goes as its job goes by itself. -/
theorem Ledger.goAlone
    {policy : PollPolicy}
    {first : Conversation}
    {moves : List Move}
    (ledger : Ledger policy first moves)
    (undisposed : Move.signal .dispose ∉ moves) :
    ∀ turn ∈ ledger.turns, turn.GoesAlone policy := by
  rw [ledger.moves_eq] at undisposed
  simp only [List.mem_append, not_or] at undisposed
  obtain ⟨⟨notPast, notCurrent⟩, -⟩ := undisposed
  intro turn member
  rcases List.mem_append.mp member with finished | current
  · exact ledger.chronicle.goAlone notPast turn finished
  · have current := Option.mem_toList.mp current
    obtain ⟨holds, -, -⟩ := ledger.underWay turn current
    refine holds.goesAlone ?_
    rw [current] at notCurrent
    simp [Turn.moves, notPast] at notCurrent ⊢
    exact notCurrent.1

/-! ## The interaction in flight -/

namespace Sequel

variable
  {policy : PollPolicy}
  {sessionId : String}
  {handle : Nat}
  {phase : Phase}
  {conversation : Conversation}
  {queue : List QueuedJob}
  {inFlight next : Interaction (Except Fault Conversation)}
  {move : Move}
  {later : List Move}
  {turns : List Turn}
  {outputs : List Output}
  {last : Session}

/-- A move that the interaction in flight meets comes before the rest. -/
theorem cons
    (sequel :
      Sequel policy sessionId handle phase conversation
        (queue ++ move.queued?.toList) next later turns outputs last)
    (met :
      inFlight.meetAll? policy (move.occurrence? phase).toList =
        some next) :
    Sequel policy sessionId handle phase conversation queue inFlight
      (move :: later) turns outputs last := by
  have meets
      {during : List Move}
      {reached : Interaction (Except Fault Conversation)}
      (metLater :
        next.meetAll? policy (during.filterMap (Move.occurrence? phase)) =
          some reached) :
      inFlight.meetAll? policy
          ((move :: during).filterMap (Move.occurrence? phase)) =
        some reached := by
    have split :
        (move :: during).filterMap (Move.occurrence? phase) =
          (move.occurrence? phase).toList ++
            during.filterMap (Move.occurrence? phase) := by
      rw [List.filterMap_cons]
      cases move.occurrence? phase <;> rfl
    rw [split, Interaction.meetAll?_append]
    exact Option.bind_eq_some_iff.mpr ⟨next, met, metLater⟩
  have queued (during : List Move) :
      queue ++ move.queued?.toList ++ during.filterMap Move.queued? =
        queue ++ (move :: during).filterMap Move.queued? := by
    rw [List.filterMap_cons, List.append_assoc]
    cases move.queued? <;> rfl
  cases sequel with
  | underWay metLater unfinished handles waits =>
      refine .underWay (meets metLater) unfinished handles ?_
      rw [waits, queued]
  | ended account metLater finished jobs begun alone =>
      rw [queued] at jobs
      rw [← List.cons_append]
      exact .ended account (meets metLater) finished jobs begun alone

/-- So does a move of the worker. -/
theorem cons_own
    {occurrence : Occurrence}
    (sequel :
      Sequel policy sessionId handle phase conversation queue next later
        turns outputs last)
    (occurs : move.occurrence? phase = some occurrence)
    (queuesNothing : move.queued? = none)
    (met : inFlight.meet? policy occurrence = some next) :
    Sequel policy sessionId handle phase conversation queue inFlight
      (move :: later) turns outputs last := by
  have sequel :
      Sequel policy sessionId handle phase conversation
        (queue ++ move.queued?.toList) next later turns outputs last := by
    rwa [queuesNothing, Option.toList_none, List.append_nil]
  exact sequel.cons (by simpa [occurs, Interaction.meetAll?] using met)

end Sequel

namespace Session

variable
  {policy : PollPolicy}
  {session last : Session}
  {handle : Nat}
  {phase : Phase}
  {cancelled : Bool}
  {inFlight : Interaction (Except Fault Conversation)}
  {move : Move}
  {later : List Move}
  {seen : List Output}

theorem heed_silent
    {activity : Activity (Except Fault Conversation)}
    (handles : session.worker = .interacting handle activity)
    (signal : Signal) :
    (session.heed signal).2 = [] := by
  cases signal <;> simp [heed, enqueue, handles]

/-- What is seen of a further stretch of the interaction in flight. -/
theorem shown_goOn
    {answered : List Deed}
    (silent : answered.filterMap (Deed.output? session.sessionId) = [])
    (stretch : Stretch (Except Fault Conversation)) :
    inFlight.deeds.filterMap (Deed.output? session.sessionId) ++
        (session.absorb handle stretch).outputs =
      (inFlight.goOn answered stretch).deeds.filterMap
          (Deed.output? session.sessionId) ++
        (stretch.reached.outcome?.map fun result =>
          Output.resolved handle (result.map Conversation.phase)).toList := by
  rw [absorb_outputs, Interaction.goOn]
  simp [silent]

/-- Once the interaction has ended, the jobs that wait are handled anew. -/
theorem sequel_of_ended
    {occurrence : Occurrence}
    {answered : List Deed}
    {stretch : Stretch (Except Fault Conversation)}
    {result : Except Fault Conversation}
    (occurs : move.occurrence? phase = some occurrence)
    (queuesNothing : move.queued? = none)
    (silent : answered.filterMap (Deed.output? session.sessionId) = [])
    (met :
      inFlight.meet? policy occurrence =
        some (inFlight.goOn answered stretch))
    (ended : stretch.reached.outcome? = some result)
    (undisposed : session.disposed = false)
    (noDisposal : Move.signal .dispose ∉ later)
    (moved :
      (session.absorb handle stretch).session.moveAll? policy later =
        some (last, seen)) :
    ∃ turns,
      Sequel policy session.sessionId handle phase session.conversation
        session.queue inFlight (move :: later) turns
        (inFlight.deeds.filterMap (Deed.output? session.sessionId) ++
          (session.absorb handle stretch).outputs ++ seen)
        last := by
  rw [shown_goOn silent, ended]
  rw [absorb_eq, ended] at moved
  let middle : Session := (session.commit result).publish false
  have anew : Account policy middle.conversation (sent session.queue) [] middle :=
    .anew policy middle rfl rfl undisposed
  obtain ⟨account⟩ := anew.moveAll moved
  have noneDisposed : Move.signal .dispose ∉ sent session.queue ++ later := by
    simp [dispose_notMem_sent, noDisposal]
  have undisposedLast : last.disposed = false := by
    rw [← Bool.not_eq_true, account.disposed_iff]
    exact noneDisposed
  have jobs := account.jobs_eq undisposedLast
  rw [List.filterMap_append, sent_queued] at jobs
  have afterwards :=
    @Sequel.ended policy session.sessionId handle phase
      session.conversation session.queue (inFlight.goOn answered stretch)
      [] later _ result session.queue seen last account rfl ended
      (by simp) jobs (account.ledger.goAlone noneDisposed)
  have sequel := afterwards.cons_own occurs queuesNothing met
  exact ⟨_, by simpa using sequel⟩

/-- A session that handles an interaction has a sequel. -/
theorem exists_sequel
    (handles : session.worker = .interacting handle inFlight.activity)
    (running : session.running = some ⟨phase, cancelled⟩)
    (told : inFlight.toldToStop = session.isCancelled)
    (unfinished : inFlight.activity.outcome? = none)
    (undisposed : session.disposed = false)
    (noDisposal : Move.signal .dispose ∉ later)
    (moved : session.moveAll? policy later = some (last, seen)) :
    ∃ turns,
      Sequel policy session.sessionId handle phase session.conversation
        session.queue inFlight later turns
        (inFlight.deeds.filterMap (Deed.output? session.sessionId) ++ seen)
        last := by
  induction later generalizing session inFlight cancelled seen with
  | nil =>
      cases moved
      rw [List.append_nil]
      exact ⟨[], .underWay rfl unfinished handles (by simp)⟩
  | cons move rest inductionHypothesis =>
      obtain ⟨⟨next, shown⟩, others, firstMoved, restMoved, rfl, -⟩ :=
        moveAll?_cons_eq_some moved
      simp only [List.mem_cons, not_or] at noDisposal
      obtain ⟨notDisposal, noDisposal⟩ := noDisposal
      cases move with
      | signal signal =>
          have heeded : session.heed signal = (next, shown) :=
            Option.some.inj firstMoved
          have next_eq : next = (session.heed signal).1 := by
            rw [heeded]
          have nothing : shown = [] := by
            rw [← heed_silent handles signal, heeded]
          subst next_eq nothing
          obtain ⟨cancelledAfter, runningAfter, isCancelled⟩ :=
            heed_running_some running signal
          have notStopped : session.hasStopped = false := by
            simp [hasStopped, handles]
          have undisposedStill :
              (session.heed signal).1.disposed = false := by
            rw [heed_disposed, undisposed]
            simpa [eq_comm] using notDisposal
          obtain ⟨turns, sequel⟩ :=
            @inductionHypothesis (session.heed signal).1 _
              { inFlight with
                toldToStop :=
                  inFlight.toldToStop ||
                    ((Move.signal signal).occurrence? phase).isSome }
              _ (by rw [heed_worker]; exact handles) runningAfter
              (by rw [isCancelled, told]) unfinished undisposedStill
              noDisposal restMoved
          rw [heed_sessionId, heed_conversation, heed_queue notStopped]
            at sequel
          exact ⟨turns,
            sequel.cons (meetAll?_signal policy inFlight phase signal)⟩
      | proceed | elapse | receive =>
          obtain ⟨occurrence, answered, stretch, occurs, -, silent, met,
              reaction⟩ :=
            move?_interacting phase handles told rfl firstMoved
          obtain ⟨rfl, rfl⟩ := Prod.mk.inj reaction
          rw [← List.append_assoc]
          cases ended : stretch.reached.outcome? with
          | some result =>
              exact sequel_of_ended occurs rfl silent met ended undisposed
                noDisposal restMoved
          | none =>
              rw [shown_goOn silent, ended]
              rw [absorb_eq, ended] at restMoved
              obtain ⟨turns, sequel⟩ :=
                @inductionHypothesis
                  { session with
                    worker := .interacting handle stretch.reached }
                  cancelled (inFlight.goOn answered stretch) _ rfl running
                  told ended undisposed noDisposal restMoved
              have onward := sequel.cons_own occurs rfl met
              exact ⟨turns, by simpa using onward⟩

end Session

/-- The jobs after an interaction go as they go by themselves. -/
theorem Sequel.goAlone
    {policy : PollPolicy}
    {sessionId : String}
    {handle : Nat}
    {phase : Phase}
    {conversation : Conversation}
    {queue : List QueuedJob}
    {inFlight : Interaction (Except Fault Conversation)}
    {later : List Move}
    {turns : List Turn}
    {outputs : List Output}
    {last : Session}
    (sequel :
      Sequel policy sessionId handle phase conversation queue inFlight
        later turns outputs last) :
    ∀ turn ∈ turns, turn.GoesAlone policy := by
  cases sequel with
  | underWay =>
      simp
  | ended _ _ _ _ _ alone =>
      exact alone

/-- Nothing else determines what comes of a turn. -/
theorem Turn.GoesAlone.interaction_eq
    {policy : PollPolicy}
    {one other : Turn}
    (oneAlone : one.GoesAlone policy)
    (otherAlone : other.GoesAlone policy)
    (before : one.before = other.before)
    (job : one.queued.job = other.queued.job)
    (moment : one.opening.toMoment = other.opening.toMoment)
    (occurrences : one.occurrences = other.occurrences) :
    one.interaction = other.interaction := by
  unfold Turn.GoesAlone at oneAlone otherAlone
  rw [before, job, moment, occurrences, otherAlone] at oneAlone
  exact (Option.some.inj oneAlone).symm

/-- A session that can cancel something handles an interaction. -/
theorem Account.handles_of_canCancel
    {policy : PollPolicy}
    {first : Conversation}
    {moves : List Move}
    {outputs : List Output}
    {session : Session}
    (account : Account policy first moves outputs session)
    (undisposed : session.disposed = false)
    (cancels : session.canCancel = true) :
    ∃ handle activity phase cancelled,
      session.worker = .interacting handle activity ∧
        session.running = some ⟨phase, cancelled⟩ ∧
        activity.outcome? = none := by
  cases account.stands with
  | interacting turn cancelled handles running _ unfinished =>
      exact ⟨_, _, _, cancelled, handles, running, unfinished⟩
  | idle _ nothing | gated _ _ _ nothing =>
      simp [Session.canCancel, nothing] at cancels
  | stopped _ disposed =>
      rw [undisposed] at disposed
      cases disposed

/-- A cancellation that finds nothing to cancel changes nothing. -/
theorem Session.cancel_eq_self
    {session : Session}
    (nothing : session.canCancel = false) :
    session.cancel = session := by
  simp [cancel, nothing]

/--
A cancellation touches one interaction.  When it finds nothing to cancel, the run
goes on as if it had not come.  Otherwise only the token of the interaction in
flight differs, and two runs that part here, one with the cancellation and one
without it, both finish that interaction under its own token and then handle the
jobs that wait, in order and without dropping any.  Each of these goes by itself,
so it comes to the same in both runs when it finds the same conversation at the
same moment and the same happens while it is handled.
-/
theorem cancellation_touches_one_interaction
    {policy : PollPolicy}
    {first : Conversation}
    {isAuthenticating : Bool}
    {moves : List Move}
    {outputs : List Output}
    {session : Session}
    (run :
      Run policy (.spawn first isAuthenticating) moves outputs session)
    (undisposed : session.disposed = false) :
    (session.canCancel = false →
        session.cancel = session ∧
          ∀ later,
            session.moveAll? policy (.signal .cancel :: later) =
              session.moveAll? policy later) ∧
      (session.canCancel = true →
        ∃ handle phase inFlight,
          session.worker = .interacting handle inFlight.activity ∧
            session.running = some ⟨phase, inFlight.toldToStop⟩ ∧
            inFlight.deeds = [] ∧
            session.cancel =
              { session with running := some ⟨phase, true⟩ } ∧
            ∀ laterWith laterWithout lastWith lastWithout
                seenWith seenWithout,
              .signal .dispose ∉ laterWith →
              .signal .dispose ∉ laterWithout →
              session.moveAll? policy (.signal .cancel :: laterWith) =
                some (lastWith, seenWith) →
              session.moveAll? policy laterWithout =
                some (lastWithout, seenWithout) →
              ∃ turnsWith turnsWithout,
                Sequel policy session.sessionId handle phase
                    session.conversation session.queue
                    { inFlight with toldToStop := true }
                    laterWith turnsWith seenWith lastWith ∧
                  Sequel policy session.sessionId handle phase
                    session.conversation session.queue inFlight
                    laterWithout turnsWithout seenWithout lastWithout ∧
                  ∀ one ∈ turnsWith, ∀ other ∈ turnsWithout,
                    one.before = other.before →
                    one.queued.job = other.queued.job →
                    one.opening.toMoment = other.opening.toMoment →
                    one.occurrences = other.occurrences →
                    one.interaction = other.interaction) := by
  constructor
  · intro nothing
    have same := Session.cancel_eq_self nothing
    refine ⟨same, ?_⟩
    intro later
    simp [Session.moveAll?, Session.move?, Session.heed, same]
  · intro cancels
    obtain ⟨account⟩ := run.account
    obtain ⟨handle, activity, phase, cancelled, handles, running,
        unfinished⟩ := account.handles_of_canCancel undisposed cancels
    let inFlight : Interaction (Except Fault Conversation) :=
      ⟨[], activity, cancelled⟩
    have told : session.isCancelled = cancelled := by
      simp [Session.isCancelled, undisposed, running]
    have cancel_eq :
        session.cancel =
          { session with running := some ⟨phase, true⟩ } := by
      simp [Session.cancel, cancels, running]
    refine ⟨handle, phase, inFlight, handles, running, rfl, cancel_eq, ?_⟩
    intro laterWith laterWithout lastWith lastWithout seenWith seenWithout
      noDisposalWith noDisposalWithout movedWith movedWithout
    have goesOnWith :
        ({ session with running := some ⟨phase, true⟩ } :
          Session).moveAll? policy laterWith =
            some (lastWith, seenWith) := by
      rw [← cancel_eq]
      simpa [Session.moveAll?, Session.move?, Session.heed]
        using movedWith
    obtain ⟨turnsWith, sequelWith⟩ :=
      @Session.exists_sequel policy
        { session with running := some ⟨phase, true⟩ } lastWith handle
        phase true { inFlight with toldToStop := true } laterWith seenWith
        handles rfl (by simp [Session.isCancelled]) unfinished undisposed
        noDisposalWith goesOnWith
    obtain ⟨turnsWithout, sequelWithout⟩ :=
      @Session.exists_sequel policy session lastWithout handle phase
        cancelled inFlight laterWithout seenWithout handles running
        told.symm unfinished undisposed noDisposalWithout movedWithout
    refine ⟨turnsWith, turnsWithout, sequelWith, sequelWithout, ?_⟩
    intro one oneLater other otherLater
    exact (sequelWith.goAlone one oneLater).interaction_eq
      (sequelWithout.goAlone other otherLater)

/--
A question is cancelled, or is answered.  What is shown of it differs, and help
comes after it in both runs.
-/
theorem cancellation_touches_one_question :
    ∃ moves outputs session handle phase inFlight,
      Run ⟨0, 3⟩
          (.spawn
            ⟨.discussingPlan,
              (Context.start "S1" ⟨0, 0⟩).withEngagement "E1"⟩
            false)
          moves outputs session ∧
        session.disposed = false ∧
        session.canCancel = true ∧
        session.queue = [⟨1, .help⟩] ∧
        inFlight.toldToStop = false ∧
        ∃ laterWith laterWithout lastWith lastWithout seenWith seenWithout
            turnsWith turnsWithout,
          Sequel ⟨0, 3⟩ "S1" handle phase session.conversation
              session.queue { inFlight with toldToStop := true }
              laterWith turnsWith seenWith lastWith ∧
            Sequel ⟨0, 3⟩ "S1" handle phase session.conversation
              session.queue inFlight
              laterWithout turnsWithout seenWithout lastWithout ∧
            seenWith ≠ seenWithout ∧
            lastWith.queue = [] ∧
            lastWithout.queue = [] := by
  let moment : Moment := ⟨"M1", ⟨1, 0⟩⟩
  let moves : List Move :=
    [.signal (.enqueue ⟨0, .utterance "why"⟩),
      .proceed moment false,
      .receive moment (.service (.deriveIntent "E1" (trim "why")))
        (.ok .question),
      .receive moment (.service (.startInteraction "E1" (trim "why")))
        (.ok ⟨"I1", .inProgress⟩),
      .signal (.enqueue ⟨1, .help⟩)]
  let laterWith : List Move := [.elapse moment, .proceed moment false]
  let laterWithout : List Move :=
    [.elapse moment,
      .receive moment (.service (.interactionStatus "E1" "I1"))
        (.ok ⟨.completed, "Because"⟩),
      .proceed moment false]
  have run :
      Run ⟨0, 3⟩
        (.spawn
          ⟨.discussingPlan,
            (Context.start "S1" ⟨0, 0⟩).withEngagement "E1"⟩
          false)
        moves _ _ :=
    Run.start.moveAll rfl
  obtain ⟨-, touches⟩ := cancellation_touches_one_interaction run rfl
  obtain ⟨handle, phase, inFlight, handles, running, -, -, sequels⟩ :=
    touches rfl
  obtain ⟨turnsWith, turnsWithout, sequelWith, sequelWithout, -⟩ :=
    sequels laterWith laterWithout _ _ _ _ (by simp [laterWith])
      (by simp [laterWithout]) rfl rfl
  have notTold : inFlight.toldToStop = false :=
    congrArg Running.cancelled (Option.some.inj running.symm)
  exact ⟨moves, _, _, handle, phase, inFlight, run, rfl, rfl, rfl,
    notTold, laterWith, laterWithout, _, _, _, _, turnsWith, turnsWithout,
    sequelWith, sequelWithout, nofun, rfl, rfl⟩

end AssessmentChat
