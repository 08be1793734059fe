import AssessmentChat.Controller
import AssessmentChat.Rehearsal.Surroundings

namespace AssessmentChat.Rehearsal

/-!
# The stage

All sessions are rehearsed on one virtual clock.  A session that has been given
something to notice lines up and, in its turn, goes on until it really has to
wait.  The clock moves only when nobody is in line, and then to the next timer;
of timers that are due together, the one that was set first goes first.
-/

/-- What a timer was set for. -/
inductive Wake
  /-- The delay before a status request of a session. -/
  | delayOver (number : Nat)
  /-- The answer to a session's request. -/
  | answerDue (number : Nat) (request : Request) (response : Response request)
  /-- The answer to a request that no session made. -/
  | visitor

/-- Whether a timer was set for the delay of a session. -/
def Wake.isDelayOf (number : Nat) : Wake → Bool
  | .delayOver other => other = number
  | _ => false

/-- Whether a timer was set for a request that no session made. -/
def Wake.isVisitor : Wake → Bool
  | .visitor => true
  | _ => false

/-- A timer that is set. -/
structure Timer where
  due : Nat
  wake : Wake

/-- Everything that is on the stage. -/
structure Stage (σ : Type) where
  policy : PollPolicy
  surroundings : Surroundings σ
  state : σ
  chat : Chat
  credential : CredentialState := .connected
  clock : Nat := 0
  /-- How many streams have been named. -/
  names : Nat := 0
  /-- The sessions in line. -/
  ready : List Nat := []
  /-- The timers, by the time at which they are due. -/
  timers : List Timer := []
  /-- What has been noted down, the latest first. -/
  entries : List Entry := []
  /-- The jobs that have ended, the latest first. -/
  resolved : List (Nat × Except Fault Phase) := []
  /-- Sessions that are referred to from outside the registry. -/
  held : List (String × Nat) := []
  /-- The subscribed sessions, with the number of views of them seen. -/
  subscriptions : List (String × Nat × Nat) := []

/-- A timer among others, after those that are due no later. -/
def insertTimer (timer : Timer) : List Timer → List Timer
  | [] => [timer]
  | other :: rest =>
      if timer.due < other.due then timer :: other :: rest
      else other :: insertTimer timer rest

namespace Stage

/-- What is supplied to the next transition. -/
def supplies (stage : Stage σ) : Supplies :=
  ⟨stage.policy, streamName stage.names, universalTime stage.clock⟩

/-- Notes an output down. -/
def noteOutput (stage : Stage σ) : Output → Stage σ
  | .published event => { stage with entries := .event event :: stage.entries }
  | .called request => { stage with entries := .call request :: stage.entries }
  | .resolved handle outcome =>
      { stage with resolved := (handle, outcome) :: stage.resolved }

/-- Notes outputs down. -/
def noteOutputs (stage : Stage σ) (outputs : List Output) : Stage σ :=
  outputs.foldl noteOutput stage

/-- The session of a number. -/
def session? (stage : Stage σ) (number : Nat) : Option Session :=
  stage.chat.registry.session? number

/-- The stage with one session changed. -/
def update (number : Nat) (change : Session → Session) (stage : Stage σ) : Stage σ :=
  { stage with chat := stage.chat.update number change }

/-- Takes over a transition of a session. -/
def absorb (number : Nat) (reaction : Reaction) (stage : Stage σ) : Stage σ :=
  let noted := (stage.update number fun _ => reaction.session).noteOutputs reaction.outputs
  { noted with names := if reaction.namedStream then noted.names + 1 else noted.names }

/-- Sets a timer. -/
def setTimer (delay : Nat) (wake : Wake) (stage : Stage σ) : Stage σ :=
  { stage with timers := insertTimer ⟨stage.clock + delay, wake⟩ stage.timers }

/-- Takes back the timer of a session's delay. -/
def dropDelay (number : Nat) (stage : Stage σ) : Stage σ :=
  { stage with timers := stage.timers.filter fun timer =>
      !timer.wake.isDelayOf number }

/-- Lines a session up, if it can go on and is not in line yet. -/
def lineUp (number : Nat) (stage : Stage σ) : Stage σ :=
  if (stage.session? number).any Session.canProceed && !stage.ready.contains number then
    { stage with ready := stage.ready ++ [number] }
  else stage

/-- The transition of a session that receives an answer. -/
def received? (number : Nat) (request : Request) (response : Response request)
    (stage : Stage σ) : Option Reaction := do
  let session ← stage.session? number
  let hooked := if response.cancels then session.cancel else session
  hooked.receive? stage.supplies request response.answer

/--
Takes over a transition and goes on as long as the session gets its answers at
once: a request is put to the surroundings, and the delay before a status
request begins.
-/
def follow : Nat → Nat → Reaction → Stage σ → Stage σ
  | 0, _, _, stage => stage
  | fuel + 1, number, reaction, stage =>
      let absorbed := stage.absorb number reaction
      match reaction.session.inFlight? with
      | some request =>
          let (response, state) := absorbed.surroundings.answer request absorbed.state
          let asked := { absorbed with state }
          if response.delay = 0 then
            match asked.received? number request response with
            | some next => asked.follow fuel number next
            | none => asked
          else asked.setTimer response.delay (.answerDue number request response)
      | none =>
          if reaction.session.isPausing && !reaction.session.isCancelled then
            if absorbed.policy.interval = 0 then
              match reaction.session.elapse? absorbed.supplies with
              | some next => absorbed.follow fuel number next
              | none => absorbed
            else absorbed.setTimer absorbed.policy.interval (.delayOver number)
          else absorbed

/-- Lets those in line go on until they have to wait. -/
def settleWithin : Nat → Stage σ → Stage σ
  | 0, stage => stage
  | fuel + 1, stage =>
      match stage.ready with
      | [] => stage
      | number :: rest =>
          match (stage.session? number).bind (Session.proceed? stage.supplies false) with
          | some reaction =>
              ((stage.dropDelay number).follow fuel number reaction).settleWithin fuel
          | none => ({ stage with ready := rest } : Stage σ).settleWithin fuel

/-- Acts on a timer that is due. -/
def fire (fuel : Nat) (wake : Wake) (stage : Stage σ) : Stage σ :=
  match wake with
  | .delayOver number =>
      match (stage.session? number).bind (Session.elapse? stage.supplies) with
      | some reaction =>
          ({ stage with ready := [number] } : Stage σ).follow fuel number reaction
      | none => stage
  | .answerDue number request response =>
      match stage.received? number request response with
      | some reaction =>
          ({ stage with ready := [number] } : Stage σ).follow fuel number reaction
      | none => stage
  | .visitor => stage

/-- Runs everything that is due up to a time, or up to the visitor's answer. -/
def advanceWithin : Nat → Option Nat → Stage σ → Stage σ
  | 0, _, stage => stage
  | fuel + 1, target, stage =>
      let settled := stage.settleWithin fuel
      match settled.timers with
      | [] => { settled with clock := target.getD settled.clock }
      | timer :: rest =>
          if target.any fun time => time < timer.due then
            { settled with clock := target.getD settled.clock }
          else
            let fired :=
              ({ settled with clock := timer.due, timers := rest } : Stage σ).fire fuel timer.wake
            if timer.wake.isVisitor then fired else fired.advanceWithin fuel target

/-- A bound on the transitions that can still happen. -/
def fuel (stage : Stage σ) : Nat :=
  let queued := stage.chat.registry.sessions.foldl
    (fun total session => total + (session.queue.length + 2)) 0
  waitsPerUtterance * (queued + 4) +
    4 * (stage.surroundings.remaining stage.state + queued + 1) *
      (stage.policy.maxConsecutiveErrors + 1)

/-- Runs everything that can run at this time. -/
def settle (stage : Stage σ) : Stage σ :=
  stage.settleWithin stage.fuel

/-- Moves the clock, running everything that becomes due. -/
def advance (milliseconds : Nat) (stage : Stage σ) : Stage σ :=
  let target := stage.clock + milliseconds
  (stage.advanceWithin stage.fuel (some target)).settle

/-! ## Procedures that no session runs -/

/-- Notes the notices of a stretch down. -/
def noteStretch (sessionId : String) (stretch : Stretch α) (stage : Stage σ) : Stage σ :=
  let noted := stage.noteOutputs
    (stretch.notices.map fun notice => .published ⟨sessionId, notice⟩)
  { noted with names := if stretch.namedStream then noted.names + 1 else noted.names }

/-- Waits as a visitor, while the sessions go on. -/
def waitAside (delay : Nat) (stage : Stage σ) : Stage σ :=
  if delay = 0 then stage
  else (stage.setTimer delay .visitor).advanceWithin stage.fuel none

/-- Notes a request of a visitor down and waits for its answer. -/
def awaitAside (request : Request) (stage : Stage σ) : request.Answer × Stage σ :=
  let (response, state) := stage.surroundings.answer request stage.state
  let asked : Stage σ := { stage.noteOutput (.called request) with state }
  (response.answer, asked.waitAside response.delay)

/-- Runs a procedure beside the sessions, in at most `fuel` stretches. -/
def resumeAside (sessionId : String) : Nat → Activity α → Stage σ → Option α × Stage σ
  | 0, _, stage => (none, stage)
  | fuel + 1, activity, stage =>
      let goOn (stretch : Stretch α) (stage : Stage σ) :=
        resumeAside sessionId fuel stretch.reached (stage.noteStretch sessionId stretch)
      match activity with
      | .finished result => (some result, stage)
      | .asking request next =>
          let (answer, answered) := stage.awaitAside request
          goOn ((next answer).advance (streamName answered.names)) answered
      | .pausing watch => goOn watch.elapse (stage.waitAside stage.policy.interval)
      | .checking watch =>
          let (answer, answered) := stage.awaitAside (.service watch.call)
          goOn (watch.receive answered.policy (streamName answered.names) answer) answered

/-- Runs a procedure beside the sessions to its end. -/
def performAside (sessionId : String) (procedure : Procedure α) (stage : Stage σ) :
    Option α × Stage σ :=
  let stretch := procedure.advance (streamName stage.names)
  resumeAside sessionId stage.fuel stretch.reached (stage.noteStretch sessionId stretch)

/-! ## References to sessions -/

/-- Whether a tab or an outside reference leads to a session. -/
def isReferredTo (number : Nat) (stage : Stage σ) : Bool :=
  stage.chat.registry.tabs.any (fun (_, other) => other = number) ||
    stage.held.any fun (_, other) => other = number

/-- Disposes of a session that nothing refers to any more. -/
def dropUnreferred (number : Nat) (stage : Stage σ) : Stage σ :=
  if stage.isReferredTo number then stage
  else (stage.update number Session.dispose).lineUp number

/-- The session that a direction is addressed to: the tab's, or else the one held. -/
def addressee? (sessionId : String) (stage : Stage σ) : Option Nat :=
  (stage.chat.registry.find? sessionId).orElse fun _ => stage.held.lookup sessionId

end Stage

end AssessmentChat.Rehearsal
