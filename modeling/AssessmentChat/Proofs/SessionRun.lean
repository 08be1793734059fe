import AssessmentChat.Proofs.Interaction

namespace AssessmentChat

/-!
# Runs of sessions

A run is any order in which signals come from outside and the worker goes on.
The surroundings choose every answer and every moment, so a run stands for one
schedule of one session, and what holds of every run holds of every schedule.

A session that has been disposed of comes to a stop: whatever signals still come,
its worker can go on until it has stopped.
-/

/-- What can come to a session from outside. -/
inductive Signal
  | enqueue (queued : QueuedJob)
  | cancel
  | authChanged (authenticated : Bool)
  | dispose
  /-- Somebody takes the snapshot or subscribes to it. -/
  | look
deriving Repr, DecidableEq

/-- One transition of a session. -/
inductive Move
  | signal (signal : Signal)
  /-- The worker goes on by itself. -/
  | proceed (moment : Moment) (disposalFirst : Bool)
  /-- The delay before a status request is over. -/
  | elapse (moment : Moment)
  | receive (moment : Moment) (request : Request) (answer : request.Answer)

/-- Whether a move is the worker's own. -/
def Move.isOwn : Move → Bool
  | .signal _ => false
  | _ => true

/-- The job that a move queues. -/
def Move.queued? : Move → Option QueuedJob
  | .signal (.enqueue queued) => some queued
  | _ => none

/-- What a move is to an interaction that was begun in a phase. -/
def Move.occurrence? (phase : Phase) : Move → Option Occurrence
  | .signal .cancel => if phase.isCancellable then some .toldToStop else none
  | .signal .dispose => some .toldToStop
  | .signal _ => none
  | .proceed moment _ => some (.woken moment.freshName)
  | .elapse moment => some (.woken moment.freshName)
  | .receive moment request answer =>
      some (.answered moment.freshName request answer)

/-- What a transition under a policy gets from its moment. -/
def Moment.supplies (moment : Moment) (policy : PollPolicy) : Supplies :=
  ⟨policy, moment.freshName, moment.now⟩

/-- What the surroundings see of a deed. -/
def Deed.output? (sessionId : String) : Deed → Option Output
  | .said notice => some (.published ⟨sessionId, notice⟩)
  | .asked request => some (.called request)
  | .answered .. => none

/-- A reaction as what follows and what is seen of it. -/
def Reaction.seen (reaction : Reaction) : Session × List Output :=
  (reaction.session, reaction.outputs)

namespace Session

/-- What a signal does to a session. -/
def heed (session : Session) : Signal → Session × List Output
  | .enqueue queued => session.enqueue queued
  | .cancel => (session.cancel, [])
  | .authChanged authenticated => (session.authChanged authenticated, [])
  | .dispose => (session.dispose, [])
  | .look => (session, [])

/-- What a move does to a session, if it is possible. -/
def move?
    (policy : PollPolicy)
    (session : Session) :
    Move → Option (Session × List Output)
  | .signal signal => some (session.heed signal)
  | .proceed moment disposalFirst =>
      (session.proceed? (moment.supplies policy) disposalFirst).map
        Reaction.seen
  | .elapse moment =>
      (session.elapse? (moment.supplies policy)).map Reaction.seen
  | .receive moment request answer =>
      (session.receive? (moment.supplies policy) request answer).map
        Reaction.seen

end Session

/-- What moves one after another do to a session, if they are possible. -/
def Session.moveAll?
    (policy : PollPolicy)
    (session : Session) :
    List Move → Option (Session × List Output)
  | [] => some (session, [])
  | move :: rest =>
      (session.move? policy move).bind fun after =>
        (after.1.moveAll? policy rest).map fun last =>
          (last.1, after.2 ++ last.2)

/-- A run of a session: the moves made, what was seen, and what they led to. -/
inductive Run
    (policy : PollPolicy)
    (initial : Session) :
    List Move → List Output → Session → Prop where
  | start :
      Run policy initial [] [] initial
  | move
      {moves : List Move}
      {outputs seen : List Output}
      {session next : Session}
      {move : Move} :
      Run policy initial moves outputs session →
      session.move? policy move = some (next, seen) →
      Run policy initial (moves ++ [move]) (outputs ++ seen) next

/-- A run goes on with the moves that its session can make. -/
theorem Run.moveAll
    {policy : PollPolicy}
    {initial session last : Session}
    {moves later : List Move}
    {outputs seen : List Output}
    (run : Run policy initial moves outputs session)
    (moved : session.moveAll? policy later = some (last, seen)) :
    Run policy initial (moves ++ later) (outputs ++ seen) last := by
  induction later generalizing moves outputs session seen with
  | nil =>
      cases moved
      simpa using run
  | cons move rest inductionHypothesis =>
      obtain ⟨⟨next, first⟩, firstMoved, others⟩ :=
        Option.bind_eq_some_iff.mp moved
      obtain ⟨⟨last, afterwards⟩, restMoved, reached⟩ :=
        Option.map_eq_some_iff.mp others
      cases reached
      simpa using inductionHypothesis (run.move firstMoved) restMoved

namespace Session

/-! ## Signals leave the worker where it stands -/

/-- Whether the worker has stopped. -/
def hasStopped (session : Session) : Bool :=
  match session.worker with
  | .stopped => true
  | _ => false

@[simp] theorem heed_worker
    (session : Session)
    (signal : Signal) :
    (session.heed signal).1.worker = session.worker := by
  cases signal with
  | enqueue queued =>
      simp only [heed, enqueue]
      split <;> simp_all
  | cancel =>
      simp only [heed, cancel]
      split <;> rfl
  | authChanged | dispose | look =>
      rfl

@[simp] theorem heed_conversation
    (session : Session)
    (signal : Signal) :
    (session.heed signal).1.conversation = session.conversation := by
  cases signal with
  | enqueue queued =>
      simp only [heed, enqueue]
      split <;> rfl
  | cancel =>
      simp only [heed, cancel]
      split <;> rfl
  | authChanged | dispose | look =>
      rfl

@[simp] theorem heed_sessionId
    (session : Session)
    (signal : Signal) :
    (session.heed signal).1.sessionId = session.sessionId := by
  cases signal with
  | enqueue queued =>
      simp only [heed, enqueue]
      split <;> rfl
  | cancel =>
      simp only [heed, cancel]
      split <;> rfl
  | authChanged | dispose | look =>
      rfl

theorem heed_disposed
    (session : Session)
    (signal : Signal) :
    (session.heed signal).1.disposed =
      (session.disposed || decide (signal = .dispose)) := by
  cases signal with
  | enqueue queued =>
      simp only [heed, enqueue]
      split <;> simp
  | cancel =>
      simp only [heed, cancel]
      split <;> simp
  | authChanged | look =>
      simp [heed, authChanged]
  | dispose =>
      simp [heed, dispose]

theorem heed_queue
    {session : Session}
    (running : session.hasStopped = false)
    (signal : Signal) :
    (session.heed signal).1.queue =
      session.queue ++ (Move.signal signal).queued?.toList := by
  cases signal with
  | enqueue queued =>
      simp only [heed, enqueue]
      split
      next stopped =>
        simp [hasStopped, stopped] at running
      next =>
        rfl
  | cancel =>
      simp only [heed, cancel]
      split <;> simp [Move.queued?]
  | authChanged | dispose | look =>
      simp [heed, authChanged, dispose, Move.queued?]

theorem heed_running_none
    {session : Session}
    (idle : session.running = none)
    (signal : Signal) :
    (session.heed signal).1.running = none := by
  cases signal with
  | enqueue queued =>
      simp only [heed, enqueue]
      split <;> exact idle
  | cancel =>
      simp only [heed, cancel]
      split <;> simp [idle]
  | authChanged | dispose | look =>
      exact idle

/-- What a signal tells the interaction that the worker handles. -/
theorem heed_running_some
    {session : Session}
    {phase : Phase}
    {cancelled : Bool}
    (running : session.running = some ⟨phase, cancelled⟩)
    (signal : Signal) :
    ∃ cancelledAfter,
      (session.heed signal).1.running = some ⟨phase, cancelledAfter⟩ ∧
        (session.heed signal).1.isCancelled =
          (session.isCancelled ||
            ((Move.signal signal).occurrence? phase).isSome) := by
  cases signal with
  | enqueue queued =>
      refine ⟨cancelled, ?_⟩
      simp only [heed, enqueue]
      split <;> simp [running, isCancelled, Move.occurrence?]
  | cancel =>
      refine ⟨cancelled || phase.isCancellable, ?_⟩
      cases cancellable : phase.isCancellable <;>
        simp [heed, cancel, canCancel, running, isCancelled,
          Move.occurrence?, cancellable]
  | authChanged | look =>
      exact ⟨cancelled, running, by
        simp [heed, authChanged, isCancelled, Move.occurrence?]⟩
  | dispose =>
      exact ⟨cancelled, running, by
        simp [heed, dispose, isCancelled, Move.occurrence?]⟩

/-- A signal can do nothing to an interaction but tell it to stop. -/
theorem meetAll?_signal
    (policy : PollPolicy)
    (interaction : Interaction α)
    (phase : Phase)
    (signal : Signal) :
    interaction.meetAll? policy
        ((Move.signal signal).occurrence? phase).toList =
      some
        { interaction with
          toldToStop :=
            interaction.toldToStop ||
              ((Move.signal signal).occurrence? phase).isSome } := by
  cases signal with
  | cancel =>
      cases cancellable : phase.isCancellable <;>
        simp [Move.occurrence?, cancellable, Interaction.meetAll?,
          Interaction.meet?]
  | dispose =>
      simp [Move.occurrence?, Interaction.meetAll?, Interaction.meet?]
  | enqueue | authChanged | look =>
      simp [Move.occurrence?, Interaction.meetAll?]

/-- One signal after another. -/
def heedAll (session : Session) (signals : List Signal) : Session :=
  signals.foldl (fun session signal => (session.heed signal).1) session

theorem heedAll_worker
    (session : Session)
    (signals : List Signal) :
    (session.heedAll signals).worker = session.worker := by
  induction signals generalizing session with
  | nil =>
      rfl
  | cons signal rest inductionHypothesis =>
      exact (inductionHypothesis _).trans (heed_worker session signal)

/-- A cancelled interaction stays cancelled. -/
theorem heedAll_isCancelled
    {session : Session}
    (cancelled : session.isCancelled = true)
    (signals : List Signal) :
    (session.heedAll signals).isCancelled = true := by
  induction signals generalizing session with
  | nil =>
      exact cancelled
  | cons signal rest inductionHypothesis =>
      refine inductionHypothesis ?_
      cases running : session.running with
      | none =>
          simp only [isCancelled, running, Option.any_none,
            Bool.or_false] at cancelled
          simp [isCancelled, heed_disposed, cancelled]
      | some begun =>
          obtain ⟨cancelledAfter, -, isCancelled⟩ :=
            heed_running_some running signal
          rw [isCancelled, cancelled, Bool.true_or]

theorem heedAll_conversation
    (session : Session)
    (signals : List Signal) :
    (session.heedAll signals).conversation = session.conversation := by
  induction signals generalizing session with
  | nil =>
      rfl
  | cons signal rest inductionHypothesis =>
      exact (inductionHypothesis _).trans
        (heed_conversation session signal)

theorem heedAll_disposed
    {session : Session}
    (disposed : session.disposed = true)
    (signals : List Signal) :
    (session.heedAll signals).disposed = true := by
  induction signals generalizing session with
  | nil =>
      exact disposed
  | cons signal rest inductionHypothesis =>
      exact inductionHypothesis (by simp [heed_disposed, disposed])

/-! ## The worker under way -/

theorem proceed?_idle
    {session : Session}
    (stands : session.worker = .idle)
    (supplies : Supplies)
    (disposalFirst : Bool) :
    session.proceed? supplies disposalFirst =
      if session.disposed then some (session.stop [])
      else
        match session.queue with
        | [] => none
        | queued :: rest =>
            some (({ session with queue := rest } : Session).beginJob
              supplies queued) := by
  cases session
  cases stands
  rfl

theorem proceed?_gated
    {session : Session}
    {handle : Nat}
    {utterance : String}
    (stands : session.worker = .gated handle utterance)
    (supplies : Supplies)
    (disposalFirst : Bool) :
    session.proceed? supplies disposalFirst =
      if session.disposed && (disposalFirst || !session.gateOpen) then
        some (session.stop [handle])
      else if session.gateOpen then
        some (session.beginUtterance supplies handle utterance)
      else none := by
  cases session
  cases stands
  rfl

section Moves

variable
  {policy : PollPolicy}
  {session : Session}
  {move : Move}
  {after : Session × List Output}

/-- An idle worker stops or begins the next job. -/
theorem move?_idle
    (stands : session.worker = .idle)
    (own : move.isOwn = true)
    (moved : session.move? policy move = some after) :
    ∃ moment disposalFirst,
      move = .proceed moment disposalFirst ∧
        (session.disposed = true ∧ after = (session.stop []).seen ∨
          session.disposed = false ∧ ∃ queued rest,
            session.queue = queued :: rest ∧
              after =
                (({ session with queue := rest } : Session).beginJob
                  (moment.supplies policy) queued).seen) := by
  cases move with
  | signal signal =>
      cases own
  | elapse | receive =>
      simp [move?, elapse?, receive?, stands] at moved
  | proceed moment disposalFirst =>
      refine ⟨moment, disposalFirst, rfl, ?_⟩
      obtain ⟨reaction, proceeded, rfl⟩ := Option.map_eq_some_iff.mp moved
      rw [proceed?_idle stands] at proceeded
      split at proceeded
      next disposed =>
        cases proceeded
        exact .inl ⟨disposed, rfl⟩
      next notDisposed =>
        split at proceeded
        next =>
          cases proceeded
        next queued rest queue =>
          cases proceeded
          exact .inr ⟨by simpa using notDisposed, queued, rest, queue, rfl⟩

/-- A worker that holds an utterance back stops or begins to handle it. -/
theorem move?_gated
    {handle : Nat}
    {utterance : String}
    (stands : session.worker = .gated handle utterance)
    (own : move.isOwn = true)
    (moved : session.move? policy move = some after) :
    ∃ moment disposalFirst,
      move = .proceed moment disposalFirst ∧
        (session.disposed = true ∧ after = (session.stop [handle]).seen ∨
          after =
            (session.beginUtterance (moment.supplies policy) handle
              utterance).seen) := by
  cases move with
  | signal signal =>
      cases own
  | elapse | receive =>
      simp [move?, elapse?, receive?, stands] at moved
  | proceed moment disposalFirst =>
      refine ⟨moment, disposalFirst, rfl, ?_⟩
      obtain ⟨reaction, proceeded, rfl⟩ := Option.map_eq_some_iff.mp moved
      rw [proceed?_gated stands] at proceeded
      split at proceeded
      next disposed =>
        cases proceeded
        exact .inl ⟨(Bool.and_eq_true_iff.mp disposed).1, rfl⟩
      next =>
        split at proceeded
        · cases proceeded
          exact .inr rfl
        · cases proceeded

/-- A worker that has stopped does nothing more. -/
theorem move?_stopped
    (stands : session.worker = .stopped)
    (own : move.isOwn = true) :
    session.move? policy move = none := by
  cases move with
  | signal signal =>
      cases own
  | proceed | elapse | receive =>
      simp [move?, proceed?, elapse?, receive?, stands]

end Moves

/-- What a session becomes after a stretch, by whether the utterance has ended. -/
theorem absorb_eq
    (session : Session)
    (handle : Nat)
    (stretch : Stretch (Except Fault Conversation)) :
    session.absorb handle stretch =
      { session :=
          match stretch.reached.outcome? with
          | some result => (session.commit result).publish false
          | none =>
              { session with worker := .interacting handle stretch.reached }
        outputs :=
          stretch.deeds.filterMap (Deed.output? session.sessionId) ++
            (stretch.reached.outcome?.map fun result =>
              Output.resolved handle (result.map Conversation.phase)).toList
        namedStream := stretch.namedStream } := by
  have shown :
      (stretch.notices.map Deed.said).filterMap
          (Deed.output? session.sessionId) =
        stretch.notices.map fun notice =>
          Output.published ⟨session.sessionId, notice⟩ := by
    simp [List.filterMap_map, Function.comp_def, Deed.output?]
  unfold absorb
  cases reached : stretch.reached with
  | finished | pausing =>
      simp [Stretch.deeds, reached, Activity.inFlight?,
        Activity.outcome?, shown]
  | asking | checking =>
      simp [Stretch.deeds, reached, Activity.inFlight?,
        Activity.outcome?, shown, Deed.output?]

/-- What is seen of a stretch. -/
theorem absorb_outputs
    (session : Session)
    (handle : Nat)
    (stretch : Stretch (Except Fault Conversation)) :
    (session.absorb handle stretch).outputs =
      stretch.deeds.filterMap (Deed.output? session.sessionId) ++
        (stretch.reached.outcome?.map fun result =>
          Output.resolved handle (result.map Conversation.phase)).toList := by
  rw [absorb_eq]

/-- What the worker does by itself happens to the interaction it handles. -/
theorem move?_interacting
    {policy : PollPolicy}
    {session : Session}
    {handle : Nat}
    {interaction : Interaction (Except Fault Conversation)}
    {move : Move}
    {after : Session × List Output}
    (phase : Phase)
    (handles :
      session.worker = .interacting handle interaction.activity)
    (told : interaction.toldToStop = session.isCancelled)
    (own : move.isOwn = true)
    (moved : session.move? policy move = some after) :
    ∃ occurrence answered stretch,
      move.occurrence? phase = some occurrence ∧
        occurrence ≠ .toldToStop ∧
        answered.filterMap (Deed.output? session.sessionId) = [] ∧
        interaction.meet? policy occurrence =
          some (interaction.goOn answered stretch) ∧
        after = (session.absorb handle stretch).seen := by
  cases move with
  | signal signal =>
      cases own
  | proceed moment disposalFirst =>
      obtain ⟨reaction, proceeded, rfl⟩ :=
        Option.map_eq_some_iff.mp moved
      simp only [proceed?, handles] at proceeded
      split at proceeded
      next cancelled =>
        obtain ⟨stretch, woken, rfl⟩ :=
          Option.map_eq_some_iff.mp proceeded
        refine ⟨.woken moment.freshName, [], stretch, rfl, nofun, rfl,
          ?_, rfl⟩
        rw [← cancelled, ← told] at woken
        exact Option.map_eq_some_iff.mpr ⟨stretch, woken, rfl⟩
      next =>
        cases proceeded
  | elapse moment =>
      obtain ⟨reaction, elapsed, rfl⟩ :=
        Option.map_eq_some_iff.mp moved
      simp only [elapse?, handles] at elapsed
      obtain ⟨stretch, woken, rfl⟩ := Option.map_eq_some_iff.mp elapsed
      refine ⟨.woken moment.freshName, [], stretch, rfl, nofun, rfl,
        ?_, rfl⟩
      rw [← told] at woken
      exact Option.map_eq_some_iff.mpr ⟨stretch, woken, rfl⟩
  | receive moment request answer =>
      obtain ⟨reaction, received, rfl⟩ :=
        Option.map_eq_some_iff.mp moved
      simp only [receive?, handles] at received
      obtain ⟨stretch, answered, rfl⟩ :=
        Option.map_eq_some_iff.mp received
      exact ⟨.answered moment.freshName request answer,
        [.answered request answer], stretch, rfl, nofun, rfl,
        Option.map_eq_some_iff.mpr ⟨stretch, answered, rfl⟩, rfl⟩

/-- What can happen to a cancelled interaction is a move of its worker. -/
theorem move?_of_meet?
    {policy : PollPolicy}
    {session : Session}
    {handle : Nat}
    {interaction next : Interaction (Except Fault Conversation)}
    {occurrence : Occurrence}
    (handles :
      session.worker = .interacting handle interaction.activity)
    (told : interaction.toldToStop = true)
    (cancelled : session.isCancelled = true)
    (notTold : occurrence ≠ .toldToStop)
    (met : interaction.meet? policy occurrence = some next) :
    ∃ move after,
      move.isOwn = true ∧ session.move? policy move = some after := by
  cases occurrence with
  | toldToStop =>
      exact absurd rfl notTold
  | woken freshName =>
      obtain ⟨stretch, woken, rfl⟩ := Option.map_eq_some_iff.mp met
      rw [told] at woken
      refine ⟨.elapse ⟨freshName, ⟨0, 0⟩⟩,
        (session.absorb handle stretch).seen, rfl, ?_⟩
      simp [move?, elapse?, handles, cancelled, Moment.supplies, woken]
  | answered freshName request answer =>
      obtain ⟨stretch, received, rfl⟩ := Option.map_eq_some_iff.mp met
      refine ⟨.receive ⟨freshName, ⟨0, 0⟩⟩ request answer,
        (session.absorb handle stretch).seen, rfl, ?_⟩
      simp [move?, receive?, handles, Moment.supplies, received]

/-- What only signals change of a session. -/
structure SameSettings (before after : Session) : Prop where
  sessionId : after.sessionId = before.sessionId
  gateOpen : after.gateOpen = before.gateOpen
  disposed : after.disposed = before.disposed

theorem absorb_sameSettings
    (session : Session)
    (handle : Nat)
    (stretch : Stretch (Except Fault Conversation)) :
    session.SameSettings (session.absorb handle stretch).session := by
  rw [absorb_eq]
  cases stretch.reached.outcome? <;> exact ⟨rfl, rfl, rfl⟩

theorem beginUtterance_sameSettings
    (session : Session)
    (supplies : Supplies)
    (handle : Nat)
    (utterance : String) :
    session.SameSettings
      (session.beginUtterance supplies handle utterance).session := by
  let begun : Session :=
    { session with running := some ⟨session.conversation.phase, false⟩ }
  obtain ⟨sessionId, gateOpen, disposed⟩ :=
    absorb_sameSettings (begun.publish true) handle
      ((session.conversation.interact utterance supplies.now).advance
        supplies.freshName)
  exact ⟨sessionId, gateOpen, disposed⟩

theorem beginJob_sameSettings
    (session : Session)
    (supplies : Supplies)
    (queued : QueuedJob) :
    session.SameSettings (session.beginJob supplies queued).session := by
  unfold beginJob
  split
  · split
    · exact beginUtterance_sameSettings session supplies queued.handle _
    · exact ⟨rfl, rfl, rfl⟩
  · exact ⟨rfl, rfl, rfl⟩

/-- A worker changes neither the name of its session nor its gate or its disposal. -/
theorem move?_sameSettings
    {policy : PollPolicy}
    {session : Session}
    {move : Move}
    {after : Session × List Output}
    (own : move.isOwn = true)
    (moved : session.move? policy move = some after) :
    session.SameSettings after.1 := by
  cases stands : session.worker with
  | interacting handle activity =>
      let interaction : Interaction (Except Fault Conversation) :=
        ⟨[], activity, session.isCancelled⟩
      have handles :
          session.worker = .interacting handle interaction.activity :=
        stands
      obtain ⟨_, _, stretch, -, -, -, -, rfl⟩ :=
        move?_interacting .awaitingGoal handles rfl own moved
      exact absorb_sameSettings session handle stretch
  | idle =>
      obtain ⟨moment, -, -, ⟨-, rfl⟩ | ⟨-, queued, rest, -, rfl⟩⟩ :=
        move?_idle stands own moved
      · exact ⟨rfl, rfl, rfl⟩
      · obtain ⟨sessionId, gateOpen, disposed⟩ :=
          beginJob_sameSettings { session with queue := rest }
            (moment.supplies policy) queued
        exact ⟨sessionId, gateOpen, disposed⟩
  | gated handle utterance =>
      obtain ⟨moment, -, -, ⟨-, rfl⟩ | rfl⟩ :=
        move?_gated stands own moved
      · exact ⟨rfl, rfl, rfl⟩
      · exact beginUtterance_sameSettings session
          (moment.supplies policy) handle utterance
  | stopped =>
      rw [move?_stopped stands own] at moved
      cases moved

/-! ## Interactions that come to their end -/

/-- A move with which a session takes over a result and reports it. -/
def Commits
    (session : Session)
    (handle : Nat)
    (after : Session × List Output) : Prop :=
  ∃ result : Except Fault Conversation,
    after.1.worker = .idle ∧
      after.1.conversation =
        result.toOption.getD session.conversation ∧
      .resolved handle (result.map Conversation.phase) ∈ after.2

/--
A session that commits the result of the job that it handles: whatever signals
come in between, its worker can go on, and every way of going on commits or
brings it nearer.
-/
inductive BoundToCommit
    (policy : PollPolicy)
    (handle : Nat) : Session → Prop where
  | onward
      {session : Session} :
      (∀ signals, ∃ move after,
        move.isOwn = true ∧
          (session.heedAll signals).move? policy move = some after) →
      (∀ signals move after,
        move.isOwn = true →
        (session.heedAll signals).move? policy move = some after →
        ¬ session.Commits handle after →
        BoundToCommit policy handle after.1) →
      BoundToCommit policy handle session

/-- A cancelled session commits the result of the job that it handles. -/
theorem BoundToCommit.of_finish
    {policy : PollPolicy}
    {session : Session}
    {interaction : Interaction (Except Fault Conversation)}
    {handle : Nat}
    (bound : interaction.BoundToFinish policy)
    (told : interaction.toldToStop = true)
    (underWay : interaction.activity.outcome? = none)
    (handles :
      session.worker = .interacting handle interaction.activity)
    (cancelled : session.isCancelled = true) :
    session.BoundToCommit policy handle := by
  induction bound generalizing session with
  | finished finished =>
      simp [finished, Activity.outcome?] at underWay
  | onward possible _ inductionHypothesis =>
      obtain ⟨occurrence, next, notTold, met⟩ := possible
      have handlesStill (signals : List Signal) :=
        (heedAll_worker session signals).trans handles
      have cancelledStill := heedAll_isCancelled cancelled
      refine .onward ?_ ?_
      · intro signals
        exact move?_of_meet? (handlesStill signals) told
          (cancelledStill signals) notTold met
      · intro signals move after own moved
        obtain ⟨occurrence, answered, stretch, -, notTold, -, met, rfl⟩ :=
          move?_interacting .awaitingGoal (handlesStill signals)
            (told.trans (cancelledStill signals).symm) own moved
        rw [absorb_eq]
        cases outcome : stretch.reached.outcome? with
        | some result =>
            refine fun notCommitted => absurd ?_ notCommitted
            refine ⟨result, rfl, ?_, by simp [Reaction.seen]⟩
            rw [← heedAll_conversation session signals]
            rfl
        | none =>
            exact fun _ =>
              inductionHypothesis occurrence _ notTold met told outcome
                rfl (cancelledStill signals)

/-- A session whose interaction is cancelled commits its result. -/
theorem BoundToCommit.of_cancelled
    {policy : PollPolicy}
    {session : Session}
    {handle : Nat}
    {activity : Activity (Except Fault Conversation)}
    (underWay : activity.outcome? = none)
    (handles : session.worker = .interacting handle activity)
    (cancelled : session.isCancelled = true) :
    session.BoundToCommit policy handle := by
  have bound : Interaction.BoundToFinish policy ⟨[], activity, true⟩ :=
    .of_told rfl
  exact .of_finish bound rfl underWay handles cancelled

/-! ## Sessions that come to a stop -/

/--
A session that comes to a stop: whatever signals come in between, its worker can
go on until it has stopped, and every way of going on brings it nearer.
-/
inductive BoundToStop (policy : PollPolicy) : Session → Prop where
  | stopped
      {session : Session} :
      session.hasStopped = true →
      BoundToStop policy session
  | onward
      {session : Session} :
      (∀ signals, ∃ move after,
        move.isOwn = true ∧
          (session.heedAll signals).move? policy move = some after) →
      (∀ signals move after,
        move.isOwn = true →
        (session.heedAll signals).move? policy move = some after →
        BoundToStop policy after.1) →
      BoundToStop policy session

namespace BoundToStop

variable {policy : PollPolicy} {session : Session}

/-- An idle session that has been disposed of stops at its next move. -/
theorem of_idle
    (idle : session.worker = .idle)
    (disposed : session.disposed = true) :
    session.BoundToStop policy := by
  have idleStill (signals : List Signal) :=
    (heedAll_worker session signals).trans idle
  have disposedStill := heedAll_disposed disposed
  refine .onward ?_ ?_
  · intro signals
    refine ⟨.proceed ⟨"", ⟨0, 0⟩⟩ true,
      ((session.heedAll signals).stop []).seen, rfl, ?_⟩
    simp [move?, proceed?_idle (idleStill signals), disposedStill signals]
  · intro signals move after own moved
    obtain ⟨moment, -, -, ⟨-, rfl⟩ | ⟨notDisposed, -⟩⟩ :=
      move?_idle (idleStill signals) own moved
    · exact .stopped rfl
    · rw [disposedStill signals] at notDisposed
      cases notDisposed

/-- A disposed session stops after the job that it handles. -/
theorem of_commit
    {handle : Nat}
    (bound : session.BoundToCommit policy handle)
    (disposed : session.disposed = true) :
    session.BoundToStop policy := by
  induction bound with
  | @onward session possible _ inductionHypothesis =>
      refine .onward possible ?_
      intro signals move after own moved
      have disposedAfter : after.1.disposed = true :=
        (move?_sameSettings own moved).disposed.trans
          (heedAll_disposed disposed signals)
      by_cases commits : session.Commits handle after
      · obtain ⟨result, idle, -, -⟩ := commits
        exact of_idle idle disposedAfter
      · exact inductionHypothesis signals move after own moved commits
          disposedAfter

/-- A disposed session that has begun to handle an utterance stops. -/
theorem of_absorbed
    (handle : Nat)
    (stretch : Stretch (Except Fault Conversation))
    (disposed : session.disposed = true) :
    (session.absorb handle stretch).session.BoundToStop policy := by
  rw [absorb_eq]
  cases outcome : stretch.reached.outcome? with
  | some result =>
      exact of_idle rfl disposed
  | none =>
      have cancelled : session.isCancelled = true := by
        simp [isCancelled, disposed]
      exact of_commit (.of_cancelled outcome rfl cancelled) disposed

/-- A session that holds an utterance back stops, or handles it first. -/
theorem of_gated
    {handle : Nat}
    {utterance : String}
    (gated : session.worker = .gated handle utterance)
    (disposed : session.disposed = true) :
    session.BoundToStop policy := by
  have gatedStill (signals : List Signal) :=
    (heedAll_worker session signals).trans gated
  refine .onward ?_ ?_
  · intro signals
    refine ⟨.proceed ⟨"", ⟨0, 0⟩⟩ true,
      ((session.heedAll signals).stop [handle]).seen, rfl, ?_⟩
    simp [move?, proceed?_gated (gatedStill signals),
      heedAll_disposed disposed]
  · intro signals move after own moved
    obtain ⟨moment, -, -, ⟨-, rfl⟩ | rfl⟩ :=
      move?_gated (gatedStill signals) own moved
    · exact .stopped rfl
    · exact of_absorbed handle _ (heedAll_disposed disposed signals)

/-- A session that has been disposed of comes to a stop. -/
theorem of_disposed
    (underWay :
      ∀ handle activity,
        session.worker = .interacting handle activity →
        activity.outcome? = none)
    (disposed : session.disposed = true) :
    session.BoundToStop policy := by
  cases stands : session.worker with
  | idle =>
      exact of_idle stands disposed
  | gated handle utterance =>
      exact of_gated stands disposed
  | stopped =>
      exact .stopped (by simp [hasStopped, stands])
  | interacting handle activity =>
      have cancelled : session.isCancelled = true := by
        simp [isCancelled, disposed]
      exact of_commit
        (.of_cancelled (underWay handle activity stands) stands cancelled)
        disposed

end BoundToStop

end Session

end AssessmentChat
