import AssessmentChat.Proofs.SequentialHandling

namespace AssessmentChat

/-!
# Coherent snapshots

A session publishes its view at several places: when an utterance is begun, when
it has ended, when it is held back, on help, and when the gate moves.  Between any
two transitions the view is nevertheless that of one conversation, the one that
the last job left, and its flags say where the worker and the gate stand.

`Session.Coherent` is what every transition keeps.  Together with the account of
the run it says whose conversation the view shows.
-/

/-- The gate that a move opens or closes. -/
def Move.gate? : Move → Option Bool
  | .signal (.authChanged authenticated) => some authenticated
  | _ => none

/-- Whether utterances may be handled after some moves. -/
def gateAfter (isAuthenticating : Bool) (moves : List Move) : Bool :=
  (moves.filterMap Move.gate?).getLast?.getD (!isAuthenticating)

theorem gateAfter_snoc
    (isAuthenticating : Bool)
    (moves : List Move)
    (move : Move) :
    gateAfter isAuthenticating (moves ++ [move]) =
      move.gate?.getD (gateAfter isAuthenticating moves) := by
  unfold gateAfter
  rw [List.filterMap_append, List.filterMap_cons]
  cases move.gate? <;> simp

namespace Session

/-- Whether the worker handles an utterance. -/
def isInteracting (session : Session) : Bool :=
  match session.worker with
  | .interacting .. => true
  | _ => false

/-- A session whose view shows its conversation, its worker and its gate. -/
structure Coherent (session : Session) : Prop where
  view :
    session.snapshot =
      session.conversation.snapshot session.isInteracting
        (!session.gateOpen)
  running :
    session.running.map Running.phase =
      if session.isInteracting then some session.conversation.phase
      else none

/-! ## The gate -/

theorem heed_gateOpen
    (session : Session)
    (signal : Signal) :
    (session.heed signal).1.gateOpen =
      (Move.signal signal).gate?.getD session.gateOpen := by
  cases signal with
  | enqueue queued =>
      simp only [heed, enqueue]
      split <;> rfl
  | cancel =>
      simp only [heed, cancel]
      split <;> rfl
  | authChanged | dispose | look =>
      rfl

/-! ## Transitions keep the view coherent -/

theorem Coherent.spawn
    (first : Conversation)
    (isAuthenticating : Bool) :
    (Session.spawn first isAuthenticating).Coherent :=
  ⟨by simp [Session.spawn, isInteracting], rfl⟩

namespace Coherent

variable {session : Session}

theorem heed
    (coherent : session.Coherent)
    (signal : Signal) :
    (session.heed signal).1.Coherent := by
  obtain ⟨view, running⟩ := coherent
  cases signal with
  | enqueue queued =>
      simp only [Session.heed, enqueue]
      split
      · exact ⟨view, running⟩
      · exact ⟨view, running⟩
  | cancel =>
      simp only [Session.heed, cancel]
      split
      · exact ⟨view, (Option.map_map ..).trans running⟩
      · exact ⟨view, running⟩
  | authChanged authenticated =>
      refine ⟨?_, running⟩
      simp only [Session.heed, authChanged, view]
      rfl
  | dispose | look =>
      exact ⟨view, running⟩

/-- A busy session is coherent after a stretch of the utterance that it handles. -/
theorem of_absorbed
    (view :
      session.snapshot =
        session.conversation.snapshot true (!session.gateOpen))
    (running :
      session.running.map Running.phase = some session.conversation.phase)
    (handle : Nat)
    (stretch : Stretch (Except Fault Conversation)) :
    (session.absorb handle stretch).session.Coherent := by
  rw [absorb_eq]
  cases stretch.reached.outcome? with
  | some result =>
      exact ⟨rfl, rfl⟩
  | none =>
      exact ⟨view, running⟩

theorem beginUtterance
    (session : Session)
    (supplies : Supplies)
    (handle : Nat)
    (utterance : String) :
    (session.beginUtterance supplies handle utterance).session.Coherent :=
  of_absorbed rfl rfl handle _

/-- A job that is begun, or held back, leaves a coherent view. -/
theorem beginJob
    (session : Session)
    (stands : session.worker = .idle)
    (running : session.running = none)
    (supplies : Supplies)
    (queued : QueuedJob) :
    (session.beginJob supplies queued).session.Coherent := by
  unfold Session.beginJob
  split
  · split
    · exact beginUtterance session supplies queued.handle _
    · exact ⟨rfl, by simp [holdBack, publish, isInteracting, running]⟩
  · constructor
    · simp [giveHelp, publish, isInteracting, stands]
    · simp [giveHelp, publish, isInteracting, stands, running]

/-- A worker that handles nothing has no utterance to cancel. -/
theorem running_eq_none
    (coherent : session.Coherent)
    (idle : session.isInteracting = false) :
    session.running = none := by
  have running := coherent.running
  rw [idle] at running
  simpa using running

/-- Every move of the worker leaves a coherent view. -/
theorem work
    {policy : PollPolicy}
    {move : Move}
    {after : Session × List Output}
    (coherent : session.Coherent)
    (own : move.isOwn = true)
    (moved : session.move? policy move = some after) :
    after.1.Coherent := by
  cases stands : session.worker with
  | idle =>
      have notInteracting : session.isInteracting = false := by
        simp [isInteracting, stands]
      have idle := coherent.running_eq_none notInteracting
      obtain ⟨moment, -, -, ⟨-, rfl⟩ | ⟨-, queued, rest, -, rfl⟩⟩ :=
        move?_idle stands own moved
      · refine ⟨?_, by simp [Reaction.seen, stop, isInteracting, idle]⟩
        simpa [Reaction.seen, stop, isInteracting, stands] using
          coherent.view
      · exact beginJob { session with queue := rest } stands idle
          (moment.supplies policy) queued
  | gated handle utterance =>
      have notInteracting : session.isInteracting = false := by
        simp [isInteracting, stands]
      have idle := coherent.running_eq_none notInteracting
      obtain ⟨moment, -, -, ⟨-, rfl⟩ | rfl⟩ :=
        move?_gated stands own moved
      · refine ⟨?_, by simp [Reaction.seen, stop, isInteracting, idle]⟩
        simpa [Reaction.seen, stop, isInteracting, stands] using
          coherent.view
      · exact beginUtterance session (moment.supplies policy) handle
          utterance
  | interacting handle activity =>
      have interacting : session.isInteracting = true := by
        simp [isInteracting, stands]
      let interaction : Interaction (Except Fault Conversation) :=
        ⟨[], activity, session.isCancelled⟩
      have handles :
          session.worker = .interacting handle interaction.activity :=
        stands
      obtain ⟨_, _, stretch, -, -, -, -, rfl⟩ :=
        move?_interacting .awaitingGoal handles rfl own moved
      have view := coherent.view
      have running := coherent.running
      rw [interacting] at view running
      exact of_absorbed view running handle stretch
  | stopped =>
      rw [move?_stopped stands own] at moved
      cases moved

end Coherent

end Session

namespace Run

variable
  {policy : PollPolicy}
  {first : Conversation}
  {isAuthenticating : Bool}
  {moves : List Move}
  {outputs : List Output}
  {session : Session}

/-- The view of a session is coherent in every run. -/
theorem coherent
    (run :
      Run policy (.spawn first isAuthenticating) moves outputs session) :
    session.Coherent := by
  induction run with
  | start =>
      exact .spawn first isAuthenticating
  | @move moves outputs seen session next move _ moved
      inductionHypothesis =>
      cases move with
      | signal signal =>
          have heeded : session.heed signal = (next, seen) :=
            Option.some.inj moved
          have coherent := inductionHypothesis.heed signal
          rwa [heeded] at coherent
      | proceed | elapse | receive =>
          exact inductionHypothesis.work rfl moved

/-- The gate stands as it was moved last. -/
theorem gateOpen_eq
    (run :
      Run policy (.spawn first isAuthenticating) moves outputs session) :
    session.gateOpen = gateAfter isAuthenticating moves := by
  induction run with
  | start =>
      rfl
  | @move moves outputs seen session next move _ moved
      inductionHypothesis =>
      rw [gateAfter_snoc, ← inductionHypothesis]
      cases move with
      | signal signal =>
          have heeded : session.heed signal = (next, seen) :=
            Option.some.inj moved
          have gate := session.heed_gateOpen signal
          rwa [heeded] at gate
      | proceed | elapse | receive =>
          exact (Session.move?_sameSettings rfl moved).gateOpen

end Run

/-! ## Turns under way -/

/-- A turn under way handles an utterance in a phase that can be cancelled. -/
theorem Turn.Holds.cancellable
    {policy : PollPolicy}
    {earlier : List Move}
    {turn : Turn}
    (holds : turn.Holds policy earlier)
    (underWay : turn.outcome? = none) :
    ∃ text,
      turn.queued.job = .utterance text ∧
        turn.before.phase.isCancellable = true := by
  have reaches := Conversation.handling?_reaches holds.handled
  have unfinished (result : Except Fault Conversation) :
      turn.interaction.activity ≠ .finished result := by
    intro finished
    rw [Turn.outcome?, finished] at underWay
    cases underWay
  generalize turn.interaction.activity = activity at reaches unfinished
  generalize turn.interaction.deeds = deeds at reaches
  cases job : turn.queued.job with
  | help =>
      rw [job] at reaches
      cases reaches with
      | publish finished =>
          cases finished
          exact absurd rfl (unfinished _)
  | utterance text =>
      rw [job, Conversation.carryOut, Conversation.interact] at reaches
      refine ⟨text, rfl, ?_⟩
      cases phase : turn.before.phase with
      | awaitingRequirements | awaitingRevision | discussingPlan =>
          rfl
      | awaitingGoal | errored =>
          rw [phase] at reaches
          cases reaches with
          | publish finished =>
              cases finished
              exact absurd rfl (unfinished _)
      | notStarted =>
          rw [phase] at reaches
          cases reaches
          exact absurd rfl (unfinished _)

/-- A chronicle leads to what its last turn left. -/
theorem Chronicle.last_eq
    {policy : PollPolicy}
    {first last : Conversation}
    {moves : List Move}
    {turns : List Turn}
    (chronicle : Chronicle policy first moves turns last) :
    last = (turns.getLast?.map Turn.after).getD first := by
  cases chronicle with
  | opened =>
      rfl
  | turned =>
      simp

namespace Account

variable
  {policy : PollPolicy}
  {first : Conversation}
  {moves : List Move}
  {outputs : List Output}
  {session : Session}

/-- A turn is under way exactly while the worker handles an utterance. -/
theorem isInteracting_eq
    (account : Account policy first moves outputs session) :
    session.isInteracting = account.ledger.current.isSome := by
  cases account.stands with
  | interacting turn cancelled handles running current =>
      simp [Session.isInteracting, handles, current]
  | idle stands _ between | gated _ _ stands _ between
  | stopped stands _ between =>
      simp [Session.isInteracting, stands, between]

/-- The worker handles the utterance of the turn under way. -/
theorem handles_current
    (account : Account policy first moves outputs session)
    {turn : Turn}
    (current : account.ledger.current = some turn) :
    session.worker =
      .interacting turn.queued.handle turn.interaction.activity := by
  cases account.stands with
  | interacting handled cancelled handles _ same =>
      rw [current] at same
      cases same
      exact handles
  | idle _ _ between | gated _ _ _ _ between | stopped _ _ between =>
      rw [current] at between
      cases between

/-- A resolved handle is that of a dropped job or of a turn that has ended. -/
theorem resolved_cases
    (account : Account policy first moves outputs session)
    {handle : Nat}
    {outcome : Except Fault Phase}
    (resolved : .resolved handle outcome ∈ outputs) :
    (outcome = .error Session.disposalFault ∧
        session.hasStopped = true ∧
        ∃ queued ∈ account.ledger.unbegun, queued.handle = handle) ∨
      ∃ turn ∈ account.ledger.finished,
        turn.resolution? = some (handle, outcome) := by
  have learnt :
      (handle, outcome) ∈ outputs.filterMap Output.resolution? :=
    List.mem_filterMap.mpr ⟨_, resolved, rfl⟩
  rw [account.resolutions] at learnt
  rcases List.mem_append.mp learnt with own | dropped
  · exact .inr (List.mem_filterMap.mp own)
  · unfold Session.droppedResolutions at dropped
    split at dropped
    next stopped =>
      obtain ⟨queued, member, same⟩ := List.mem_map.mp dropped
      cases same
      exact .inl ⟨rfl, stopped, queued, member, rfl⟩
    next =>
      cases dropped

/--
What a session shows.  Its view is that of the conversation that one turn has
committed, the last one that has ended; it is busy while the turn of an utterance
is under way; and whoever has learnt of the end of a turn sees what that turn, or
a later one, has left.
-/
structure Shows
    (isAuthenticating : Bool)
    (account : Account policy first moves outputs session) : Prop where
  committed :
    session.snapshot =
      ((account.ledger.finished.getLast?.map Turn.after).getD
          first).snapshot
        account.ledger.current.isSome
        (!gateAfter isAuthenticating moves)
  underWay :
    ∀ turn,
      account.ledger.current = some turn →
      session.worker =
          .interacting turn.queued.handle turn.interaction.activity ∧
        ∃ text, turn.queued.job = .utterance text
  gate :
    session.gateOpen = gateAfter isAuthenticating moves
  cancels :
    session.canCancel =
      (session.snapshot.busy && session.snapshot.phase.isCancellable)
  calling :
    ∀ request,
      session.inFlight? = some request →
      session.canCancel = true
  learnt :
    ∀ handle outcome,
      .resolved handle outcome ∈ outputs →
      (outcome = .error Session.disposalFault ∧
          session.hasStopped = true ∧
          ∃ queued ∈ account.ledger.unbegun, queued.handle = handle) ∨
        ∃ earlier turn later shown,
          account.ledger.finished = earlier ++ turn :: later ∧
            turn.resolution? = some (handle, outcome) ∧
            shown ∈ turn :: later ∧
            session.snapshot =
              shown.after.snapshot session.snapshot.busy
                session.snapshot.isAuthenticating

end Account

/-- What a coherent session can cancel, and that it can while it waits. -/
theorem Session.Coherent.canCancel_eq
    {session : Session}
    (coherent : session.Coherent) :
    session.canCancel =
      (session.snapshot.busy &&
        session.snapshot.phase.isCancellable) := by
  obtain ⟨view, running⟩ := coherent
  rw [view]
  cases interacting : session.isInteracting with
  | false =>
      rw [interacting] at running
      have idle : session.running = none := by simpa using running
      simp [canCancel, idle, Conversation.snapshot]
  | true =>
      rw [interacting] at running
      obtain ⟨begun, isRunning, phase⟩ :=
        Option.map_eq_some_iff.mp running
      simp [canCancel, isRunning, phase, Conversation.snapshot]

/--
The view that a session publishes is coherent at every point of every run: it
shows one committed conversation, says whether an utterance is being handled and
whether the gate is closed, and tells what `cancel` would do.
-/
theorem snapshot_coherent_throughout
    {policy : PollPolicy}
    {first : Conversation}
    {isAuthenticating : Bool}
    {moves : List Move}
    {outputs : List Output}
    {session : Session}
    (run :
      Run policy (.spawn first isAuthenticating) moves outputs session) :
    ∃ account : Account policy first moves outputs session,
      account.Shows isAuthenticating := by
  obtain ⟨account⟩ := run.account
  have coherent := run.coherent
  have gate := run.gateOpen_eq
  have last := account.ledger.chronicle.last_eq
  have committed := coherent.view
  rw [← account.last_eq, account.isInteracting_eq, gate] at committed
  have cancellable (turn : Turn)
      (current : account.ledger.current = some turn) :
      ∃ text,
        turn.queued.job = .utterance text ∧
          turn.before.phase.isCancellable = true :=
    (account.ledger.underWay turn current).1.cancellable
      (account.underWay current)
  refine ⟨account, ?_, ?_, gate, coherent.canCancel_eq, ?_, ?_⟩
  · rw [← last]
    exact committed
  · intro turn current
    obtain ⟨text, utterance, -⟩ := cancellable turn current
    exact ⟨account.handles_current current, text, utterance⟩
  · intro request calling
    rw [coherent.canCancel_eq, committed]
    cases current : account.ledger.current with
    | none =>
        have idle := account.isInteracting_eq
        rw [current] at idle
        unfold Session.inFlight? at calling
        unfold Session.isInteracting at idle
        split at calling
        next stands =>
          simp [stands] at idle
        next =>
          cases calling
    | some turn =>
        obtain ⟨-, before, -⟩ := account.ledger.underWay turn current
        obtain ⟨text, -, cancels⟩ := cancellable turn current
        rw [before] at cancels
        simpa [Conversation.snapshot] using cancels
  · intro handle outcome resolved
    rcases account.resolved_cases resolved with dropped | ended
    · exact .inl dropped
    · obtain ⟨turn, member, resolution⟩ := ended
      obtain ⟨earlier, later, finished⟩ :=
        List.append_of_mem member
      have shownLast :
          account.ledger.finished.getLast? =
            (turn :: later).getLast? := by
        rw [finished, List.getLast?_append]
        simp [List.getLast?_cons]
      refine .inr ⟨earlier, turn, later,
        (turn :: later).getLast (by simp), finished, resolution,
        List.getLast_mem _, ?_⟩
      rw [committed, last, shownLast, List.getLast?_eq_some_getLast]
      rfl

/-- A session that waits for the workspace is seen as busy, and can be cancelled. -/
theorem snapshot_coherent_while_asking :
    ∃ moves outputs session,
      Run ⟨0, 3⟩ (.spawn (.start "S1" ⟨0, 0⟩) false) moves outputs
        session ∧
      outputs.filterMap Output.resolution? =
        [(0, .ok .awaitingRequirements)] ∧
      session.inFlight? = some .workspaceIsEmpty ∧
      session.snapshot.phase = .awaitingRequirements ∧
      session.canCancel = true ∧
      ∃ account :
          Account ⟨0, 3⟩ (.start "S1" ⟨0, 0⟩) moves outputs session,
        account.Shows false := by
  let moves : List Move :=
    [.signal (.enqueue ⟨0, .utterance "goal"⟩),
      .proceed ⟨"A1", ⟨1, 0⟩⟩ false,
      .signal (.authChanged false),
      .signal (.enqueue ⟨1, .utterance "go"⟩),
      .proceed ⟨"A1", ⟨2, 0⟩⟩ false,
      .signal (.authChanged true),
      .proceed ⟨"A1", ⟨3, 0⟩⟩ false]
  have run :
      Run ⟨0, 3⟩ (.spawn (.start "S1" ⟨0, 0⟩) false) moves _ _ :=
    Run.start.moveAll rfl
  have shows := snapshot_coherent_throughout run
  exact ⟨moves, _, _, run, rfl, rfl, rfl, rfl, shows⟩

end AssessmentChat
