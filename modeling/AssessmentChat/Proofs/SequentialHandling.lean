import AssessmentChat.Proofs.SessionRun

namespace AssessmentChat

/-!
# Sessions handle jobs in sequence

A run of a session is accounted for as a sequence of turns.  A turn is one job
handled by itself, on the conversation that the turn before it left; the turns
follow the order of the queue and take up consecutive spans of the run.

A `Ledger` accounts for the jobs and the moves of a run, an `Account` for its
outputs and its session too.  Every move of a session extends its account.
-/

private theorem filterMap_snoc
    (project : α → Option β)
    (items : List α)
    (item : α) :
    (items ++ [item]).filterMap project =
      items.filterMap project ++ (project item).toList := by
  rw [List.filterMap_append, List.filterMap_cons]
  cases project item <;> rfl

private theorem dispose_mem_snoc
    (moves : List Move)
    (move : Move) :
    Move.signal .dispose ∈ moves ++ [move] ↔
      .signal .dispose ∈ moves ∨ move = .signal .dispose := by
  simp [eq_comm]

/-- A job, and how its handling went. -/
structure Turn where
  queued : QueuedJob
  /-- The conversation on which the job is handled. -/
  before : Conversation
  /-- The moves that pass until the job is begun. -/
  lead : List Move
  opening : Opening
  disposalFirst : Bool
  /-- The moves that pass while the job is handled. -/
  during : List Move
  interaction : Interaction (Except Fault Conversation)

namespace Turn

/-- The span of a run that a turn takes up. -/
def moves (turn : Turn) : List Move :=
  turn.lead ++
    .proceed turn.opening.toMoment turn.disposalFirst :: turn.during

/-- What happens to the interaction of a turn. -/
def occurrences (turn : Turn) : List Occurrence :=
  turn.during.filterMap (Move.occurrence? turn.before.phase)

/-- The result of a turn that has come to its end. -/
def outcome? (turn : Turn) : Option (Except Fault Conversation) :=
  turn.interaction.activity.outcome?

/-- The conversation that a turn leaves; a fault leaves it unchanged. -/
def after (turn : Turn) : Conversation :=
  (turn.outcome?.bind Except.toOption).getD turn.before

/-- A turn after a further move. -/
def goOn
    (turn : Turn)
    (move : Move)
    (interaction : Interaction (Except Fault Conversation)) : Turn :=
  { turn with
    during := turn.during ++ [move]
    interaction }

/-- What is seen of a turn: what is done, and its own result at the end. -/
def outputs (sessionId : String) (turn : Turn) : List Output :=
  turn.interaction.deeds.filterMap (Deed.output? sessionId) ++
    (turn.outcome?.map fun outcome =>
      Output.resolved turn.queued.handle
        (outcome.map Conversation.phase)).toList

/--
A turn goes as its job goes by itself, under a token of its own that the turn
begins with when the session has been disposed of.
-/
structure Holds
    (policy : PollPolicy)
    (earlier : List Move)
    (turn : Turn) : Prop where
  told :
    turn.opening.toldToStop = true ↔
      .signal .dispose ∈ earlier ++ turn.lead
  handled :
    turn.before.handling? policy turn.queued.job turn.opening
        turn.occurrences =
      some turn.interaction

end Turn

/--
Turns one after another: each is handled on the conversation that the one before
it left, and begins when that one has come to its end.
-/
inductive Chronicle
    (policy : PollPolicy)
    (first : Conversation) :
    List Move → List Turn → Conversation → Prop where
  | opened :
      Chronicle policy first [] [] first
  | turned
      {earlier : List Move}
      {turns : List Turn}
      {turn : Turn} :
      Chronicle policy first earlier turns turn.before →
      turn.Holds policy earlier →
      turn.outcome?.isSome = true →
      Chronicle policy first (earlier ++ turn.moves) (turns ++ [turn])
        turn.after

/-- Every turn of a chronicle ends the chronicle that led up to it. -/
theorem Chronicle.split
    {policy : PollPolicy}
    {first last : Conversation}
    {moves : List Move}
    {turns later : List Turn}
    {turn : Turn}
    (chronicle :
      Chronicle policy first moves (turns ++ turn :: later) last) :
    ∃ earlier,
      Chronicle policy first earlier turns turn.before ∧
        turn.Holds policy earlier ∧
        turn.outcome?.isSome = true := by
  generalize shape : turns ++ turn :: later = all at chronicle
  induction chronicle generalizing later with
  | opened =>
      simp at shape
  | @turned earlier before newest chronicle holds ended
      inductionHypothesis =>
      rcases List.eq_nil_or_concat later with rfl | ⟨between, final, rfl⟩
      · obtain ⟨rfl, same⟩ := List.append_inj' shape rfl
        cases same
        exact ⟨earlier, chronicle, holds, ended⟩
      · have shape' : turns ++ turn :: between ++ [final] =
            before ++ [newest] := by
          simpa using shape
        exact inductionHypothesis (List.append_inj' shape' rfl).1

/-- A chronicle goes on with a job that is begun at once. -/
theorem Chronicle.handle
    {policy : PollPolicy}
    {first conversation : Conversation}
    {moves : List Move}
    {turns : List Turn}
    (chronicle : Chronicle policy first moves turns conversation)
    (queued : QueuedJob)
    (moment : Moment)
    (during : List Move)
    {interaction : Interaction (Except Fault Conversation)}
    (handled :
      conversation.handling? policy queued.job ⟨moment, false⟩
          (during.filterMap (Move.occurrence? conversation.phase)) =
        some interaction)
    (undisposed : Move.signal .dispose ∉ moves)
    (ended : interaction.activity.outcome?.isSome = true) :
    let turn : Turn :=
      ⟨queued, conversation, [], ⟨moment, false⟩, false, during,
        interaction⟩
    Chronicle policy first (moves ++ turn.moves) (turns ++ [turn])
      turn.after := by
  intro turn
  have holds : turn.Holds policy moves :=
    ⟨by simp [turn, undisposed], handled⟩
  exact .turned chronicle holds ended

/-- The turns, the jobs and the moves of a run. -/
structure Ledger
    (policy : PollPolicy)
    (first : Conversation)
    (moves : List Move) where
  finished : List Turn
  /-- The moves up to the end of the last finished turn. -/
  past : List Move
  /-- The conversation that the last finished turn left. -/
  last : Conversation
  /-- The turn under way. -/
  current : Option Turn
  /-- The moves since then, when no turn is under way. -/
  pending : List Move
  /-- The jobs that have not been begun. -/
  unbegun : List QueuedJob
  chronicle :
    Chronicle policy first past finished last
  underWay :
    ∀ turn,
      current = some turn →
      turn.Holds policy past ∧ turn.before = last ∧ pending = []
  moves_eq :
    moves = past ++ current.toList.flatMap Turn.moves ++ pending
  jobs_eq :
    moves.filterMap Move.queued? =
      (finished ++ current.toList).map Turn.queued ++ unbegun

namespace Ledger

variable
  {policy : PollPolicy}
  {first : Conversation}
  {moves : List Move}

/-- Every turn that has been begun. -/
def turns (ledger : Ledger policy first moves) : List Turn :=
  ledger.finished ++ ledger.current.toList

/-- What is seen of the turns. -/
def outputs
    (sessionId : String)
    (ledger : Ledger policy first moves) : List Output :=
  ledger.turns.flatMap (Turn.outputs sessionId)

/-- The ledger of a run that has not begun. -/
def empty
    (policy : PollPolicy)
    (first : Conversation) : Ledger policy first [] where
  finished := []
  past := []
  last := first
  current := none
  pending := []
  unbegun := []
  chronicle := .opened
  underWay := by simp
  moves_eq := rfl
  jobs_eq := rfl

/-- A move between two turns. -/
def wait
    (ledger : Ledger policy first moves)
    (between : ledger.current = none)
    (move : Move) : Ledger policy first (moves ++ [move]) where
  finished := ledger.finished
  past := ledger.past
  last := ledger.last
  current := none
  pending := ledger.pending ++ [move]
  unbegun := ledger.unbegun ++ move.queued?.toList
  chronicle := ledger.chronicle
  underWay := by simp
  moves_eq := by
    have moves_eq := ledger.moves_eq
    rw [between] at moves_eq
    simp [moves_eq]
  jobs_eq := by
    have jobs_eq := ledger.jobs_eq
    rw [between] at jobs_eq
    rw [filterMap_snoc, jobs_eq, List.append_assoc]

/-- The turn of a job that is begun. -/
def opened
    (ledger : Ledger policy first moves)
    (queued : QueuedJob)
    (opening : Opening)
    (disposalFirst : Bool) : Turn where
  queued := queued
  before := ledger.last
  lead := ledger.pending
  opening := opening
  disposalFirst := disposalFirst
  during := []
  interaction :=
    .start opening.freshName opening.toldToStop
      (ledger.last.carryOut opening.now queued.job)

/-- A move that begins the first job that has not been begun. -/
def begin
    (ledger : Ledger policy first moves)
    (between : ledger.current = none)
    {queued : QueuedJob}
    {rest : List QueuedJob}
    (unbegun : ledger.unbegun = queued :: rest)
    (opening : Opening)
    (disposalFirst : Bool)
    (told :
      opening.toldToStop = true ↔ .signal .dispose ∈ moves) :
    Ledger policy first
      (moves ++ [.proceed opening.toMoment disposalFirst]) where
  finished := ledger.finished
  past := ledger.past
  last := ledger.last
  current := some (ledger.opened queued opening disposalFirst)
  pending := []
  unbegun := rest
  chronicle := ledger.chronicle
  underWay := by
    rintro turn ⟨⟩
    refine ⟨⟨?_, rfl⟩, rfl, rfl⟩
    have moves_eq := ledger.moves_eq
    rw [between] at moves_eq
    simpa [opened, moves_eq] using told
  moves_eq := by
    have moves_eq := ledger.moves_eq
    rw [between] at moves_eq
    simp [moves_eq, opened, Turn.moves]
  jobs_eq := by
    have jobs_eq := ledger.jobs_eq
    rw [between, unbegun] at jobs_eq
    simp [jobs_eq, opened, Move.queued?]

/-- A move while a turn is under way. -/
def goOn
    (ledger : Ledger policy first moves)
    {turn : Turn}
    (current : ledger.current = some turn)
    (move : Move)
    (interaction : Interaction (Except Fault Conversation))
    (met :
      turn.interaction.meetAll? policy
          (move.occurrence? turn.before.phase).toList =
        some interaction) :
    Ledger policy first (moves ++ [move]) where
  finished := ledger.finished
  past := ledger.past
  last := ledger.last
  current := some (turn.goOn move interaction)
  pending := ledger.pending
  unbegun := ledger.unbegun ++ move.queued?.toList
  chronicle := ledger.chronicle
  underWay := by
    rintro turn' ⟨⟩
    obtain ⟨⟨told, handled⟩, before, pending⟩ :=
      ledger.underWay turn current
    refine ⟨⟨told, ?_⟩, before, pending⟩
    simp only [Turn.goOn, Turn.occurrences, filterMap_snoc]
    rw [Conversation.handling?, Interaction.meetAll?_append]
    exact Option.bind_eq_some_iff.mpr ⟨turn.interaction, handled, met⟩
  moves_eq := by
    obtain ⟨-, -, pending⟩ := ledger.underWay turn current
    have moves_eq := ledger.moves_eq
    rw [current] at moves_eq
    simp [moves_eq, pending, Turn.goOn, Turn.moves]
  jobs_eq := by
    have jobs_eq := ledger.jobs_eq
    rw [current] at jobs_eq
    rw [filterMap_snoc, jobs_eq]
    simp [Turn.goOn]

/-- The turn under way has come to its end. -/
def finish
    (ledger : Ledger policy first moves)
    {turn : Turn}
    (current : ledger.current = some turn)
    (ended : turn.outcome?.isSome = true) :
    Ledger policy first moves where
  finished := ledger.finished ++ [turn]
  past := ledger.past ++ turn.moves
  last := turn.after
  current := none
  pending := ledger.pending
  unbegun := ledger.unbegun
  chronicle := by
    obtain ⟨holds, before, -⟩ := ledger.underWay turn current
    have chronicle := ledger.chronicle
    rw [← before] at chronicle
    exact .turned chronicle holds ended
  underWay := by simp
  moves_eq := by
    have moves_eq := ledger.moves_eq
    rw [current] at moves_eq
    simpa using moves_eq
  jobs_eq := by
    have jobs_eq := ledger.jobs_eq
    rw [current] at jobs_eq
    simpa using jobs_eq

theorem outputs_wait
    (ledger : Ledger policy first moves)
    (between : ledger.current = none)
    (move : Move)
    (sessionId : String) :
    (ledger.wait between move).outputs sessionId =
      ledger.outputs sessionId := by
  simp [outputs, turns, wait, between]

theorem outputs_finish
    (ledger : Ledger policy first moves)
    {turn : Turn}
    (current : ledger.current = some turn)
    (ended : turn.outcome?.isSome = true)
    (sessionId : String) :
    (ledger.finish current ended).outputs sessionId =
      ledger.outputs sessionId := by
  simp [outputs, turns, finish, current]

theorem outputs_begin
    (ledger : Ledger policy first moves)
    (between : ledger.current = none)
    {queued : QueuedJob}
    {rest : List QueuedJob}
    (unbegun : ledger.unbegun = queued :: rest)
    (opening : Opening)
    (disposalFirst : Bool)
    (told :
      opening.toldToStop = true ↔ .signal .dispose ∈ moves)
    (sessionId : String) :
    (ledger.begin between unbegun opening disposalFirst told).outputs
        sessionId =
      ledger.outputs sessionId ++
        (ledger.opened queued opening disposalFirst).outputs
          sessionId := by
  simp [outputs, turns, begin, between]

theorem outputs_goOn
    (ledger : Ledger policy first moves)
    {turn : Turn}
    (current : ledger.current = some turn)
    (move : Move)
    (interaction : Interaction (Except Fault Conversation))
    (met :
      turn.interaction.meetAll? policy
          (move.occurrence? turn.before.phase).toList =
        some interaction)
    {sessionId : String}
    {seen : List Output}
    (sees :
      (turn.goOn move interaction).outputs sessionId =
        turn.outputs sessionId ++ seen) :
    (ledger.goOn current move interaction met).outputs sessionId =
      ledger.outputs sessionId ++ seen := by
  simp [outputs, turns, goOn, current, sees]

end Ledger

/-- What is seen of the jobs that a stopped session has dropped. -/
def Session.dropped
    (session : Session)
    (unbegun : List QueuedJob) : List Output :=
  if session.hasStopped then
    unbegun.map fun queued =>
      .resolved queued.handle (.error disposalFault)
  else []

theorem Session.dropped_of_running
    {session : Session}
    (running : session.hasStopped = false)
    (unbegun : List QueuedJob) :
    session.dropped unbegun = [] := by
  simp [dropped, running]

/-- What the worker of a session has to do with its turns. -/
inductive Stands
    (session : Session)
    (current : Option Turn)
    (unbegun : List QueuedJob) : Prop where
  | idle :
      session.worker = .idle →
      session.running = none →
      current = none →
      unbegun = session.queue →
      Stands session current unbegun
  | gated
      (handle : Nat)
      (utterance : String) :
      session.worker = .gated handle utterance →
      session.running = none →
      current = none →
      unbegun = ⟨handle, .utterance utterance⟩ :: session.queue →
      Stands session current unbegun
  | interacting
      (turn : Turn)
      (cancelled : Bool) :
      session.worker =
          .interacting turn.queued.handle turn.interaction.activity →
      session.running = some ⟨turn.before.phase, cancelled⟩ →
      current = some turn →
      turn.outcome? = none →
      turn.interaction.toldToStop = session.isCancelled →
      unbegun = session.queue →
      Stands session current unbegun
  | stopped :
      session.worker = .stopped →
      session.disposed = true →
      current = none →
      Stands session current unbegun

/--
The account of a run.  The turns follow the order of the queue, the conversation
is the one that the last finished turn left, and the outputs are those of the
turns and then, once the worker has stopped, those of the jobs never begun.
-/
structure Account
    (policy : PollPolicy)
    (first : Conversation)
    (moves : List Move)
    (outputs : List Output)
    (session : Session) where
  ledger : Ledger policy first moves
  last_eq :
    ledger.last = session.conversation
  outputs_eq :
    outputs =
      ledger.outputs session.sessionId ++ session.dropped ledger.unbegun
  disposed_iff :
    session.disposed = true ↔ .signal .dispose ∈ moves
  stands :
    Stands session ledger.current ledger.unbegun

namespace Account

variable
  {policy : PollPolicy}
  {first : Conversation}
  {moves : List Move}
  {outputs seen : List Output}
  {session next : Session}
  {move : Move}

/-- The account of a session that has just been spawned. -/
def spawned
    (policy : PollPolicy)
    (first : Conversation)
    (isAuthenticating : Bool) :
    Account policy first [] [] (.spawn first isAuthenticating) where
  ledger := .empty policy first
  last_eq := rfl
  outputs_eq := rfl
  disposed_iff := by simp [Session.spawn]
  stands := .idle rfl rfl rfl rfl

/-- An account goes on with a move between two turns. -/
theorem wait
    (account : Account policy first moves outputs session)
    (between : account.ledger.current = none)
    (conversation : next.conversation = session.conversation)
    (name : next.sessionId = session.sessionId)
    (disposed :
      next.disposed = true ↔
        session.disposed = true ∨ move = .signal .dispose)
    (dropped :
      next.dropped (account.ledger.unbegun ++ move.queued?.toList) =
        session.dropped account.ledger.unbegun ++ seen)
    (stands :
      Stands next none
        (account.ledger.unbegun ++ move.queued?.toList)) :
    Nonempty
      (Account policy first (moves ++ [move]) (outputs ++ seen) next) := by
  refine ⟨⟨account.ledger.wait between move, ?_, ?_, ?_, stands⟩⟩
  · exact account.last_eq.trans conversation.symm
  · calc
      outputs ++ seen =
          account.ledger.outputs session.sessionId ++
            session.dropped account.ledger.unbegun ++ seen :=
        congrArg (· ++ seen) account.outputs_eq
      _ = (account.ledger.wait between move).outputs next.sessionId ++
            next.dropped
              (account.ledger.unbegun ++ move.queued?.toList) := by
        rw [Ledger.outputs_wait, name, dropped, List.append_assoc]
  · rw [disposed, dispose_mem_snoc, account.disposed_iff]

/-- An account goes on after a stretch of the turn under way. -/
theorem of_absorbed
    (ledger : Ledger policy first moves)
    (turn : Turn)
    {stretch : Stretch (Except Fault Conversation)}
    (current : ledger.current = some turn)
    (reached : turn.interaction.activity = stretch.reached)
    (last : ledger.last = session.conversation)
    (cancelled : Bool)
    (running :
      session.running = some ⟨turn.before.phase, cancelled⟩)
    (told : turn.interaction.toldToStop = session.isCancelled)
    (unbegun : ledger.unbegun = session.queue)
    (disposed : session.disposed = true ↔ .signal .dispose ∈ moves)
    (outputs_eq : outputs = ledger.outputs session.sessionId) :
    Nonempty
      (Account policy first moves outputs
        (session.absorb turn.queued.handle stretch).session) := by
  rw [Session.absorb_eq]
  cases outcome : stretch.reached.outcome? with
  | some result =>
      have ended : turn.outcome? = some result := by
        rw [Turn.outcome?, reached, outcome]
      refine ⟨⟨ledger.finish current (by rw [ended]; rfl), ?_, ?_, disposed,
        .idle rfl rfl rfl unbegun⟩⟩
      · obtain ⟨-, before, -⟩ := ledger.underWay turn current
        change turn.after = result.toOption.getD session.conversation
        rw [Turn.after, ended, before, last]
        rfl
      · change outputs = _ ++ []
        rw [Ledger.outputs_finish, List.append_nil]
        exact outputs_eq
  | none =>
      have underWay : turn.outcome? = none := by
        rw [Turn.outcome?, reached, outcome]
      refine ⟨⟨ledger, last, ?_, disposed,
        .interacting turn cancelled ?_ running current underWay told
          unbegun⟩⟩
      · change outputs = _ ++ []
        rw [outputs_eq, List.append_nil]
      · rw [reached]

theorem outputs_eq_of_running
    (account : Account policy first moves outputs session)
    (running : session.hasStopped = false) :
    outputs = account.ledger.outputs session.sessionId := by
  have outputs_eq := account.outputs_eq
  rwa [Session.dropped_of_running running, List.append_nil] at outputs_eq

/-! ## Signals -/

theorem dropped_heed
    (session : Session)
    (unbegun : List QueuedJob)
    (signal : Signal) :
    (session.heed signal).1.dropped
        (unbegun ++ (Move.signal signal).queued?.toList) =
      session.dropped unbegun ++ (session.heed signal).2 := by
  cases stands : session.worker with
  | stopped =>
      cases signal <;>
        simp [Session.dropped, Session.hasStopped, Session.heed,
          Session.enqueue, Session.cancel, Session.authChanged,
          Session.dispose, stands, Move.queued?, apply_ite]
  | idle | gated | interacting =>
      cases signal <;>
        simp [Session.dropped, Session.hasStopped, Session.heed,
          Session.enqueue, Session.cancel, Session.authChanged,
          Session.dispose, stands, apply_ite]

/-- A signal that comes while no job is handled. -/
theorem heed_between
    (account : Account policy first moves outputs session)
    (between : account.ledger.current = none)
    (signal : Signal)
    (stands :
      Stands (session.heed signal).1 none
        (account.ledger.unbegun ++
          (Move.signal signal).queued?.toList)) :
    Nonempty
      (Account policy first (moves ++ [.signal signal])
        (outputs ++ (session.heed signal).2)
        (session.heed signal).1) := by
  refine account.wait between (session.heed_conversation signal)
    (session.heed_sessionId signal) ?_
    (dropped_heed session account.ledger.unbegun signal) stands
  simp [Session.heed_disposed]

/-- A signal that comes while a job is handled. -/
theorem heed_during
    (account : Account policy first moves outputs session)
    {turn : Turn}
    {cancelled : Bool}
    (handles :
      session.worker =
        .interacting turn.queued.handle turn.interaction.activity)
    (running : session.running = some ⟨turn.before.phase, cancelled⟩)
    (current : account.ledger.current = some turn)
    (underWay : turn.outcome? = none)
    (told : turn.interaction.toldToStop = session.isCancelled)
    (unbegun : account.ledger.unbegun = session.queue)
    (signal : Signal) :
    Nonempty
      (Account policy first (moves ++ [.signal signal])
        (outputs ++ (session.heed signal).2)
        (session.heed signal).1) := by
  have notStopped : session.hasStopped = false := by
    simp [Session.hasStopped, handles]
  have silent : (session.heed signal).2 = [] := by
    cases signal <;> simp [Session.heed, Session.enqueue, handles]
  obtain ⟨cancelledAfter, runningAfter, isCancelled⟩ :=
    Session.heed_running_some running signal
  obtain ⟨interaction, met, deeds, activity, toldAfter⟩ :
      ∃ interaction,
        turn.interaction.meetAll? policy
            ((Move.signal signal).occurrence? turn.before.phase).toList =
          some interaction ∧
        interaction.deeds = turn.interaction.deeds ∧
        interaction.activity = turn.interaction.activity ∧
        interaction.toldToStop = (session.heed signal).1.isCancelled :=
    ⟨_, Session.meetAll?_signal policy turn.interaction
      turn.before.phase signal, rfl, rfl, by rw [isCancelled, told]⟩
  have sees :
      (turn.goOn (.signal signal) interaction).outputs
          session.sessionId =
        turn.outputs session.sessionId ++ [] := by
    simp [Turn.outputs, Turn.outcome?, Turn.goOn, deeds, activity]
  refine ⟨⟨account.ledger.goOn current (.signal signal) interaction met,
    account.last_eq.trans (session.heed_conversation signal).symm,
    ?_, ?_, ?_⟩⟩
  · have runningStill : (session.heed signal).1.hasStopped = false := by
      simp [Session.hasStopped, handles]
    rw [silent, Session.dropped_of_running runningStill,
      List.append_nil, List.append_nil, Session.heed_sessionId,
      account.ledger.outputs_goOn current _ _ met sees, List.append_nil]
    exact account.outputs_eq_of_running notStopped
  · rw [Session.heed_disposed, dispose_mem_snoc, ← account.disposed_iff]
    simp
  · refine .interacting (turn.goOn (.signal signal) interaction)
      cancelledAfter ?_ runningAfter rfl ?_ toldAfter ?_
    · rw [Session.heed_worker, handles]
      simp [Turn.goOn, activity]
    · simpa [Turn.outcome?, Turn.goOn, activity] using underWay
    · rw [Session.heed_queue notStopped, ← unbegun]
      rfl

/-- An account goes on with every signal. -/
theorem heed
    (account : Account policy first moves outputs session)
    (signal : Signal) :
    Nonempty
      (Account policy first (moves ++ [.signal signal])
        (outputs ++ (session.heed signal).2)
        (session.heed signal).1) := by
  cases account.stands with
  | idle stands running between unbegun =>
      have notStopped : session.hasStopped = false := by
        simp [Session.hasStopped, stands]
      refine account.heed_between between signal
        (.idle ((session.heed_worker signal).trans stands)
          (Session.heed_running_none running signal) rfl ?_)
      rw [Session.heed_queue notStopped, unbegun]
  | gated handle utterance stands running between unbegun =>
      have notStopped : session.hasStopped = false := by
        simp [Session.hasStopped, stands]
      refine account.heed_between between signal
        (.gated handle utterance
          ((session.heed_worker signal).trans stands)
          (Session.heed_running_none running signal) rfl ?_)
      rw [Session.heed_queue notStopped, unbegun, List.cons_append]
  | interacting turn cancelled handles running current underWay told
      unbegun =>
      exact account.heed_during handles running current underWay told
        unbegun signal
  | stopped stands disposed between =>
      refine account.heed_between between signal
        (.stopped ((session.heed_worker signal).trans stands) ?_ rfl)
      simp [Session.heed_disposed, disposed]

/-! ## Moves of the worker -/

variable
  {moment : Moment}
  {disposalFirst : Bool}
  {handle : Nat}
  {rest : List QueuedJob}

/-- The worker stops and drops what it has not begun. -/
theorem stop
    (account : Account policy first moves outputs session)
    (running : session.hasStopped = false)
    (between : account.ledger.current = none)
    (disposed : session.disposed = true)
    (held : List Nat)
    (unbegun :
      account.ledger.unbegun.map QueuedJob.handle =
        held ++ session.queue.map QueuedJob.handle) :
    Nonempty
      (Account policy first (moves ++ [.proceed moment disposalFirst])
        (outputs ++ (session.stop held).outputs)
        (session.stop held).session) := by
  refine account.wait between rfl rfl (by simp [Session.stop]) ?_
    (.stopped rfl disposed rfl)
  rw [Session.dropped_of_running running, Session.stop, ← unbegun]
  simp [Session.dropped, Session.hasStopped, Move.queued?]

/-- The worker takes an utterance and holds it back. -/
theorem holdBack
    (account : Account policy first moves outputs session)
    (running : session.hasStopped = false)
    (idle : session.running = none)
    (between : account.ledger.current = none)
    {text : String}
    (unbegun :
      account.ledger.unbegun = ⟨handle, .utterance text⟩ :: rest) :
    Nonempty
      (Account policy first (moves ++ [.proceed moment disposalFirst])
        (outputs ++
          (({ session with queue := rest } : Session).holdBack handle
            text).outputs)
        (({ session with queue := rest } : Session).holdBack handle
          text).session) := by
  refine account.wait between rfl rfl
    (by simp [Session.holdBack, Session.publish]) ?_
    (.gated handle text rfl idle rfl ?_)
  · rw [Session.dropped_of_running running,
      Session.dropped_of_running rfl]
    rfl
  · simp [unbegun, Move.queued?, Session.holdBack, Session.publish]

/-- The worker begins to handle an utterance. -/
theorem beginUtterance
    (account : Account policy first moves outputs session)
    (running : session.hasStopped = false)
    (between : account.ledger.current = none)
    {text : String}
    (unbegun :
      account.ledger.unbegun = ⟨handle, .utterance text⟩ :: rest) :
    Nonempty
      (Account policy first (moves ++ [.proceed moment disposalFirst])
        (outputs ++
          (({ session with queue := rest } : Session).beginUtterance
            (moment.supplies policy) handle text).outputs)
        (({ session with queue := rest } : Session).beginUtterance
          (moment.supplies policy) handle text).session) := by
  have told := account.disposed_iff
  have outputs_eq := account.outputs_eq_of_running running
  have begun :=
    account.ledger.outputs_begin between unbegun
      ⟨moment, session.disposed⟩ disposalFirst told session.sessionId
  have seen :
      (({ session with queue := rest } : Session).beginUtterance
          (moment.supplies policy) handle text).outputs =
        (account.ledger.opened ⟨handle, .utterance text⟩
          ⟨moment, session.disposed⟩ disposalFirst).outputs
            session.sessionId := by
    rw [Session.beginUtterance, Session.absorb_outputs]
    simp [Turn.outputs, Turn.outcome?, Ledger.opened, account.last_eq,
      Interaction.start, Conversation.carryOut, Moment.supplies,
      Session.publish]
  rw [seen]
  refine of_absorbed
    (account.ledger.begin between unbegun ⟨moment, session.disposed⟩
      disposalFirst told)
    (account.ledger.opened ⟨handle, .utterance text⟩
      ⟨moment, session.disposed⟩ disposalFirst)
    rfl ?_ account.last_eq false ?_ ?_ rfl ?_ ?_
  · simp [Ledger.opened, account.last_eq, Interaction.start,
      Conversation.carryOut, Moment.supplies]
  · simp [Ledger.opened, account.last_eq, Session.publish]
  · simp [Ledger.opened, Interaction.start, Session.isCancelled,
      Session.publish]
  · rw [dispose_mem_snoc, ← told]
    simp [Session.publish]
  · exact (congrArg (· ++ _) outputs_eq).trans begun.symm

/-- The worker gives help. -/
theorem giveHelp
    (account : Account policy first moves outputs session)
    (running : session.hasStopped = false)
    (stands : session.worker = .idle)
    (idle : session.running = none)
    (between : account.ledger.current = none)
    (unbegun :
      account.ledger.unbegun = ⟨handle, .help⟩ :: rest) :
    Nonempty
      (Account policy first (moves ++ [.proceed moment disposalFirst])
        (outputs ++
          (({ session with queue := rest } : Session).giveHelp
            handle).outputs)
        (({ session with queue := rest } : Session).giveHelp
          handle).session) := by
  have told := account.disposed_iff
  have outputs_eq := account.outputs_eq_of_running running
  have begun :=
    account.ledger.outputs_begin between unbegun
      ⟨moment, session.disposed⟩ disposalFirst told session.sessionId
  have seen :
      (({ session with queue := rest } : Session).giveHelp
          handle).outputs =
        (account.ledger.opened ⟨handle, .help⟩
          ⟨moment, session.disposed⟩ disposalFirst).outputs
            session.sessionId :=
    rfl
  refine ⟨⟨(account.ledger.begin between unbegun
    ⟨moment, session.disposed⟩ disposalFirst told).finish rfl rfl,
    ?_, ?_, ?_, .idle stands idle rfl rfl⟩⟩
  · change Conversation.afterHelp account.ledger.last.context = _
    rw [account.last_eq]
    rfl
  · rw [seen, Session.dropped_of_running, List.append_nil]
    · exact (congrArg (· ++ _) outputs_eq).trans
        (begun.symm.trans (Ledger.outputs_finish _ rfl rfl _).symm)
    · simp [Session.hasStopped, Session.giveHelp, Session.publish, stands]
  · rw [dispose_mem_snoc, ← told]
    simp [Session.giveHelp, Session.publish]

/-- The worker goes on with the job that it handles. -/
theorem handle_on
    (account : Account policy first moves outputs session)
    {turn : Turn}
    {cancelled : Bool}
    (handles :
      session.worker =
        .interacting turn.queued.handle turn.interaction.activity)
    (running : session.running = some ⟨turn.before.phase, cancelled⟩)
    (current : account.ledger.current = some turn)
    (underWay : turn.outcome? = none)
    (told : turn.interaction.toldToStop = session.isCancelled)
    (unbegun : account.ledger.unbegun = session.queue)
    (own : move.isOwn = true)
    (moved : session.move? policy move = some (next, seen)) :
    Nonempty
      (Account policy first (moves ++ [move]) (outputs ++ seen) next) := by
  obtain ⟨occurrence, answered, stretch, occurs, -, silent, met, reaction⟩ :=
    Session.move?_interacting turn.before.phase handles told own moved
  obtain ⟨rfl, rfl⟩ := Prod.mk.inj reaction
  have notStopped : session.hasStopped = false := by
    simp [Session.hasStopped, handles]
  have notSignal (signal : Signal) : move ≠ .signal signal := by
    rintro rfl
    cases own
  have queuesNothing : move.queued? = none := by
    cases move with
    | signal signal =>
        exact absurd rfl (notSignal signal)
    | proceed | elapse | receive =>
        rfl
  have metAll :
      turn.interaction.meetAll? policy
          (move.occurrence? turn.before.phase).toList =
        some (turn.interaction.goOn answered stretch) := by
    simpa [occurs, Interaction.meetAll?] using met
  have sees :
      (turn.goOn move (turn.interaction.goOn answered stretch)).outputs
          session.sessionId =
        turn.outputs session.sessionId ++
          (session.absorb turn.queued.handle stretch).outputs := by
    rw [Session.absorb_outputs, Turn.outputs, Turn.outputs, underWay]
    simp [Turn.goOn, Turn.outcome?, Interaction.goOn, silent]
  refine of_absorbed
    (account.ledger.goOn current move _ metAll)
    (turn.goOn move _) rfl rfl account.last_eq cancelled running told
    ?_ ?_ ?_
  · simp [Ledger.goOn, queuesNothing, unbegun]
  · rw [dispose_mem_snoc, ← account.disposed_iff]
    simp [notSignal]
  · rw [account.ledger.outputs_goOn current move _ metAll sees]
    exact congrArg (· ++ _) (account.outputs_eq_of_running notStopped)

/-- An account goes on with every move of the worker. -/
theorem work
    (account : Account policy first moves outputs session)
    (own : move.isOwn = true)
    (moved : session.move? policy move = some (next, seen)) :
    Nonempty
      (Account policy first (moves ++ [move]) (outputs ++ seen) next) := by
  cases account.stands with
  | idle stands running between unbegun =>
      have notStopped : session.hasStopped = false := by
        simp [Session.hasStopped, stands]
      obtain ⟨moment, disposalFirst, rfl, stops | begins⟩ :=
        Session.move?_idle stands own moved
      · obtain ⟨disposed, reaction⟩ := stops
        cases reaction
        exact account.stop notStopped between disposed []
          (congrArg _ unbegun)
      · obtain ⟨-, ⟨handle, job⟩, rest, queue, reaction⟩ := begins
        cases reaction
        rw [queue] at unbegun
        cases job with
        | help =>
            exact account.giveHelp notStopped stands running between
              unbegun
        | utterance text =>
            simp only [Session.beginJob]
            split
            · exact account.beginUtterance notStopped between unbegun
            · exact account.holdBack notStopped running between unbegun
  | gated handle utterance stands running between unbegun =>
      have notStopped : session.hasStopped = false := by
        simp [Session.hasStopped, stands]
      obtain ⟨moment, disposalFirst, rfl, stops | reaction⟩ :=
        Session.move?_gated stands own moved
      · obtain ⟨disposed, reaction⟩ := stops
        cases reaction
        exact account.stop notStopped between disposed [handle]
          (congrArg _ unbegun)
      · cases reaction
        exact account.beginUtterance notStopped between unbegun
  | interacting turn cancelled handles running current underWay told
      unbegun =>
      exact account.handle_on handles running current underWay told
        unbegun own moved
  | stopped stands =>
      rw [Session.move?_stopped stands own] at moved
      cases moved

end Account

/-- Every run of a session has an account. -/
theorem Run.account
    {policy : PollPolicy}
    {first : Conversation}
    {isAuthenticating : Bool}
    {moves : List Move}
    {outputs : List Output}
    {session : Session}
    (run :
      Run policy (.spawn first isAuthenticating) moves outputs session) :
    Nonempty (Account policy first moves outputs session) := by
  induction run with
  | start =>
      exact ⟨.spawned policy first isAuthenticating⟩
  | @move moves outputs seen session next move _ moved
      inductionHypothesis =>
      obtain ⟨account⟩ := inductionHypothesis
      cases move with
      | signal signal =>
          have heeded : session.heed signal = (next, seen) :=
            Option.some.inj moved
          have accounted := account.heed signal
          rwa [heeded] at accounted
      | proceed | elapse | receive =>
          exact account.work rfl moved

/-! ## What the handles learn -/

/-- The handle that an output resolves, and with what. -/
def Output.resolution? : Output → Option (Nat × Except Fault Phase)
  | .resolved handle outcome => some (handle, outcome)
  | _ => none

/-- The handle of a turn that has come to its end, and the turn's own result. -/
def Turn.resolution? (turn : Turn) : Option (Nat × Except Fault Phase) :=
  turn.outcome?.map fun outcome =>
    (turn.queued.handle, outcome.map Conversation.phase)

/-- The handles of the jobs that a stopped session has dropped. -/
def Session.droppedResolutions
    (session : Session)
    (unbegun : List QueuedJob) : List (Nat × Except Fault Phase) :=
  if session.hasStopped then
    unbegun.map fun queued => (queued.handle, .error disposalFault)
  else []

theorem Turn.outputs_resolutions
    (turn : Turn)
    (sessionId : String) :
    (turn.outputs sessionId).filterMap Output.resolution? =
      turn.resolution?.toList := by
  have silent :
      (turn.interaction.deeds.filterMap
        (Deed.output? sessionId)).filterMap Output.resolution? = [] := by
    rw [List.filterMap_filterMap, List.filterMap_eq_nil_iff]
    intro deed _
    cases deed <;> rfl
  rw [outputs, List.filterMap_append, silent, resolution?]
  cases turn.outcome? <;> rfl

theorem Session.dropped_resolutions
    (session : Session)
    (unbegun : List QueuedJob) :
    (session.dropped unbegun).filterMap Output.resolution? =
      session.droppedResolutions unbegun := by
  unfold dropped droppedResolutions
  split
  · simp [List.filterMap_map, Function.comp_def, Output.resolution?]
  · rfl

theorem flatMap_outputs_resolutions
    (turns : List Turn)
    (sessionId : String) :
    (turns.flatMap (Turn.outputs sessionId)).filterMap
        Output.resolution? =
      turns.filterMap Turn.resolution? := by
  induction turns with
  | nil =>
      rfl
  | cons turn rest inductionHypothesis =>
      rw [List.flatMap_cons, List.filterMap_append, inductionHypothesis,
        Turn.outputs_resolutions, List.filterMap_cons]
      cases turn.resolution? <;> rfl

theorem Chronicle.finished
    {policy : PollPolicy}
    {first last : Conversation}
    {moves : List Move}
    {turns : List Turn}
    (chronicle : Chronicle policy first moves turns last) :
    ∀ turn ∈ turns, turn.outcome?.isSome = true := by
  induction chronicle with
  | opened =>
      simp
  | turned _ _ ended inductionHypothesis =>
      simpa [or_imp, forall_and] using ⟨inductionHypothesis, ended⟩

namespace Account

variable
  {policy : PollPolicy}
  {first : Conversation}
  {moves : List Move}
  {outputs : List Output}
  {session : Session}

/-- A turn under way has no result yet. -/
theorem underWay
    (account : Account policy first moves outputs session)
    {turn : Turn}
    (current : account.ledger.current = some turn) :
    turn.outcome? = none := by
  cases account.stands with
  | interacting handled cancelled _ _ handles unfinished =>
      rw [current] at handles
      cases handles
      exact unfinished
  | idle _ _ between | gated _ _ _ _ between | stopped _ _ between =>
      rw [current] at between
      cases between

/-- Every handle is resolved once: by its own turn, or because it was dropped. -/
theorem resolutions
    (account : Account policy first moves outputs session) :
    outputs.filterMap Output.resolution? =
      account.ledger.finished.filterMap Turn.resolution? ++
        session.droppedResolutions account.ledger.unbegun := by
  have pending :
      account.ledger.current.toList.filterMap Turn.resolution? = [] := by
    cases current : account.ledger.current with
    | none =>
        rfl
    | some turn =>
        simp [Turn.resolution?, account.underWay current]
  calc
    outputs.filterMap Output.resolution? =
        (account.ledger.outputs session.sessionId ++
          session.dropped account.ledger.unbegun).filterMap
            Output.resolution? :=
      congrArg _ account.outputs_eq
    _ = account.ledger.finished.filterMap Turn.resolution? ++
          session.droppedResolutions account.ledger.unbegun := by
      rw [List.filterMap_append, Ledger.outputs,
        flatMap_outputs_resolutions, Session.dropped_resolutions,
        Ledger.turns, List.filterMap_append, pending, List.append_nil]

/-- The interaction that the worker handles has no result yet. -/
theorem worker_underWay
    (account : Account policy first moves outputs session)
    {handle : Nat}
    {activity : Activity (Except Fault Conversation)}
    (handles : session.worker = .interacting handle activity) :
    activity.outcome? = none := by
  cases account.stands with
  | interacting turn cancelled stands _ _ unfinished =>
      rw [handles] at stands
      cases stands
      exact unfinished
  | idle stands | gated _ _ stands | stopped stands =>
      rw [handles] at stands
      cases stands

end Account

/--
A session refines a sequential fold.  In every run the turns are a prefix of the
queued jobs in queue order, they take up consecutive spans, and each is handled
by itself on the conversation that the one before it left.  Every finished turn
resolves its own handle once, with its own result, and the jobs that were never
begun are resolved once the worker has stopped.  A session that has been disposed
of stops, and commits and reports the job under way before that.
-/
theorem jobs_handled_in_sequence
    {policy : PollPolicy}
    {first : Conversation}
    {isAuthenticating : Bool}
    {moves : List Move}
    {outputs : List Output}
    {session : Session}
    (run :
      Run policy (.spawn first isAuthenticating) moves outputs session) :
    (∃ account : Account policy first moves outputs session,
      (∀ turn ∈ account.ledger.finished,
        turn.outcome?.isSome = true) ∧
      outputs.filterMap Output.resolution? =
        account.ledger.finished.filterMap Turn.resolution? ++
          session.droppedResolutions account.ledger.unbegun) ∧
    (session.disposed = true →
      session.BoundToStop policy ∧
        ∀ handle activity,
          session.worker = .interacting handle activity →
          session.BoundToCommit policy handle) := by
  obtain ⟨account⟩ := run.account
  refine ⟨⟨account, account.ledger.chronicle.finished,
    account.resolutions⟩, ?_⟩
  intro disposed
  have cancelled : session.isCancelled = true := by
    simp [Session.isCancelled, disposed]
  constructor
  · exact .of_disposed
      (fun _ _ handles => account.worker_underWay handles) disposed
  · intro handle activity handles
    exact .of_cancelled (account.worker_underWay handles) handles cancelled

/-- A goal and a wish for help are handled, and a second goal is dropped. -/
theorem jobs_handled_in_sequence_until_disposal :
    ∃ moves outputs session,
      moves.filterMap Move.queued? =
        [⟨0, .utterance "goal"⟩, ⟨1, .help⟩, ⟨2, .utterance "goal"⟩] ∧
      Run ⟨0, 3⟩ (.spawn (.start "S1" ⟨0, 0⟩) false) moves outputs
        session ∧
      session.hasStopped = true ∧
      outputs.filterMap Output.resolution? =
        [(0, .ok .awaitingRequirements), (1, .ok .awaitingGoal),
          (2, .error Session.disposalFault)] ∧
      ∃ account :
          Account ⟨0, 3⟩ (.start "S1" ⟨0, 0⟩) moves outputs session,
        (∀ turn ∈ account.ledger.finished,
          turn.outcome?.isSome = true) ∧
        outputs.filterMap Output.resolution? =
          account.ledger.finished.filterMap Turn.resolution? ++
            session.droppedResolutions account.ledger.unbegun := by
  let moves : List Move :=
    [.signal (.enqueue ⟨0, .utterance "goal"⟩),
      .signal (.enqueue ⟨1, .help⟩),
      .proceed ⟨"A1", ⟨1, 0⟩⟩ false,
      .signal (.enqueue ⟨2, .utterance "goal"⟩),
      .proceed ⟨"A1", ⟨2, 0⟩⟩ false,
      .signal .dispose,
      .proceed ⟨"A1", ⟨3, 0⟩⟩ false]
  have run :
      Run ⟨0, 3⟩ (.spawn (.start "S1" ⟨0, 0⟩) false) moves _ _ :=
    Run.start.moveAll rfl
  exact ⟨moves, _, _, rfl, run, rfl, rfl,
    (jobs_handled_in_sequence run).1⟩

end AssessmentChat
