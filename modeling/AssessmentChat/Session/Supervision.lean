import AssessmentChat.Conversation.Interact

namespace AssessmentChat

/-!
# Supervised sessions

A session handles its jobs one after another.  A single worker takes them from a
queue; each job sees the conversation that the one before it left.  From outside
come jobs, cancellation, the opening and closing of the gate that holds
utterances back while the user signs in, and disposal.

The worker moves from one point of waiting to the next.  What it waits for is
part of the state, so every order in which the surroundings can act is an order
of transitions.
-/

/-- Something for a session to do. -/
inductive Job
  | utterance (text : String)
  | help
deriving Repr, DecidableEq

/-- A job in the queue, with the number by which its sender knows it. -/
structure QueuedJob where
  handle : Nat
  job : Job
deriving Repr, DecidableEq

/-- The utterance being handled, as it is seen from outside. -/
structure Running where
  /-- The phase in which it was begun. -/
  phase : Phase
  /-- Whether it has been cancelled. -/
  cancelled : Bool
deriving Repr, DecidableEq

/-- Where the worker stands. -/
inductive Worker
  /-- Waits for a job or for disposal. -/
  | idle
  /-- Holds an utterance back until the gate opens. -/
  | gated (handle : Nat) (utterance : String)
  /-- Handles an utterance. -/
  | interacting (handle : Nat) (activity : Activity (Except Fault Conversation))
  | stopped

/-- A session under supervision. -/
structure Session where
  sessionId : String
  /-- The conversation as the last finished job left it. -/
  conversation : Conversation
  queue : List QueuedJob
  /-- Whether utterances may be handled. -/
  gateOpen : Bool
  disposed : Bool
  running : Option Running
  /-- The view that was published last. -/
  snapshot : SessionSnapshot
  /-- How often a view has been published. -/
  publications : Nat
  worker : Worker

/-- What a transition lets the surroundings see. -/
inductive Output
  | published (event : Event)
  | called (request : Request)
  | resolved (handle : Nat) (outcome : Except Fault Phase)

/-- A transition of a session. -/
structure Reaction where
  session : Session
  outputs : List Output
  /-- Whether the fresh stream name was taken. -/
  namedStream : Bool

/-- What the surroundings supply to a transition. -/
structure Supplies where
  policy : PollPolicy
  freshName : String
  now : Timestamp

namespace Session

/-- A session whose worker has not begun. -/
def spawn (conversation : Conversation) (isAuthenticating : Bool) : Session where
  sessionId := conversation.context.sessionId
  conversation
  queue := []
  gateOpen := !isAuthenticating
  disposed := false
  running := none
  snapshot := conversation.snapshot false isAuthenticating
  publications := 0
  worker := .idle

/-- A session in which nothing has been said. -/
def fresh (sessionId : String) (now : Timestamp) : Session :=
  spawn (.start sessionId now) false

/-- The fault of a job that was dropped. -/
def disposalFault : Fault :=
  .internal "session was disposed before the interaction ran"

/-- Publishes the view of the conversation. -/
def publish (busy : Bool) (session : Session) : Session :=
  { session with
    snapshot := session.conversation.snapshot busy (!session.gateOpen)
    publications := session.publications + 1 }

/-- Whether the utterance being handled has been told to stop. -/
def isCancelled (session : Session) : Bool :=
  session.disposed || session.running.any Running.cancelled

/-! ## Signals from outside -/

/-- Queues a job; a session that has stopped drops it. -/
def enqueue (queued : QueuedJob) (session : Session) : Session × List Output :=
  match session.worker with
  | .stopped => (session, [.resolved queued.handle (.error disposalFault)])
  | _ => ({ session with queue := session.queue ++ [queued] }, [])

/-- Whether there is an utterance that `cancel` would cancel. -/
def canCancel (session : Session) : Bool :=
  session.running.any fun running => running.phase.isCancellable

/-- Cancels the utterance being handled if its phase can have a remote job. -/
def cancel (session : Session) : Session :=
  if session.canCancel then
    { session with running := session.running.map fun running =>
        { running with cancelled := true } }
  else session

/-- Opens or closes the gate. -/
def authChanged (authenticated : Bool) (session : Session) : Session :=
  { session with
    gateOpen := authenticated
    snapshot := { session.snapshot with isAuthenticating := !authenticated }
    publications := session.publications + 1 }

/-- Tells the worker to stop. -/
def dispose (session : Session) : Session :=
  { session with disposed := true }

/-! ## The worker -/

/-- Drops the jobs that were never begun. -/
def stop (held : List Nat) (session : Session) : Reaction where
  session := { session with worker := .stopped, queue := [] }
  outputs :=
    (held ++ session.queue.map QueuedJob.handle).map fun handle =>
      .resolved handle (.error disposalFault)
  namedStream := false

/-- Takes over the result of an utterance; one that was refused changes nothing. -/
def commit (result : Except Fault Conversation) (session : Session) : Session :=
  { session with
    conversation := result.toOption.getD session.conversation
    running := none
    worker := .idle }

/-- Goes on after a stretch of the procedure that handles an utterance. -/
def absorb (session : Session) (handle : Nat)
    (stretch : Stretch (Except Fault Conversation)) : Reaction :=
  let published := stretch.notices.map fun notice =>
    Output.published ⟨session.sessionId, notice⟩
  match stretch.reached with
  | .finished result =>
      { session := (session.commit result).publish false
        outputs := published ++ [.resolved handle (result.map Conversation.phase)]
        namedStream := stretch.namedStream }
  | activity =>
      { session := { session with worker := .interacting handle activity }
        outputs := published ++ (activity.inFlight?.map Output.called).toList
        namedStream := stretch.namedStream }

/-- Begins to handle an utterance. -/
def beginUtterance (supplies : Supplies) (handle : Nat) (utterance : String)
    (session : Session) : Reaction :=
  let procedure := session.conversation.interact utterance supplies.now
  let begun : Session :=
    { session with running := some ⟨session.conversation.phase, false⟩ }
  (begun.publish true).absorb handle (procedure.advance supplies.freshName)

/-- Holds an utterance back. -/
def holdBack (handle : Nat) (utterance : String) (session : Session) : Reaction where
  session := ({ session with worker := .gated handle utterance } : Session).publish false
  outputs := []
  namedStream := false

/-- Handles a request for help, which never waits. -/
def giveHelp (handle : Nat) (session : Session) : Reaction :=
  let next := Conversation.afterHelp session.conversation.context
  { session := ({ session with conversation := next } : Session).publish false
    outputs :=
      [.published ⟨session.sessionId, Conversation.helpNotice⟩,
        .resolved handle (.ok next.phase)]
    namedStream := false }

/-- Begins a job that was taken from the queue. -/
def beginJob (supplies : Supplies) (queued : QueuedJob) (session : Session) : Reaction :=
  match queued.job with
  | .utterance text =>
      if session.gateOpen then session.beginUtterance supplies queued.handle text
      else session.holdBack queued.handle text
  | .help => session.giveHelp queued.handle

/--
What the worker does by itself, unless it has to wait.  When the gate opens and
the session is disposed of before the worker looks, either may come first:
`disposalFirst` says which.
-/
def proceed? (supplies : Supplies) (disposalFirst : Bool) (session : Session) :
    Option Reaction :=
  match session.worker with
  | .idle =>
      if session.disposed then some (session.stop [])
      else
        match session.queue with
        | [] => none
        | queued :: rest =>
            some (({ session with queue := rest } : Session).beginJob supplies queued)
  | .gated handle utterance =>
      if session.disposed && (disposalFirst || !session.gateOpen) then
        some (session.stop [handle])
      else if session.gateOpen then
        some (session.beginUtterance supplies handle utterance)
      else none
  | .interacting handle activity =>
      if session.isCancelled then
        (activity.wake? supplies.freshName true).map (session.absorb handle)
      else none
  | .stopped => none

/-- Whether the worker can go on by itself. -/
def canProceed (session : Session) : Bool :=
  match session.worker with
  | .idle => session.disposed || !session.queue.isEmpty
  | .gated .. => session.disposed || session.gateOpen
  | .interacting _ (.pausing _) => session.isCancelled
  | _ => false

/-- Goes on when the delay before a status request is over. -/
def elapse? (supplies : Supplies) (session : Session) : Option Reaction :=
  match session.worker with
  | .interacting handle activity =>
      (activity.wake? supplies.freshName session.isCancelled).map (session.absorb handle)
  | _ => none

/-- Goes on with the answer to the request in flight. -/
def receive? (supplies : Supplies) (request : Request) (answer : request.Answer)
    (session : Session) : Option Reaction :=
  match session.worker with
  | .interacting handle activity =>
      (activity.receive? supplies.policy supplies.freshName request answer).map
        (session.absorb handle)
  | _ => none

/-- The request that the session has in flight. -/
def inFlight? (session : Session) : Option Request :=
  match session.worker with
  | .interacting _ activity => activity.inFlight?
  | _ => none

/-- Whether the session waits for the delay before a status request. -/
def isPausing (session : Session) : Bool :=
  match session.worker with
  | .interacting _ (.pausing _) => true
  | _ => false

end Session

end AssessmentChat
