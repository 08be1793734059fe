import AssessmentChat.Event
import AssessmentChat.Polling
import AssessmentChat.Request

namespace AssessmentChat

/-!
# Procedures

A procedure says what a session does for one utterance: which notices it
publishes, what it asks of its surroundings and which jobs it watches.  It is a
tree of every possible course, so that it can be run against any surroundings
and reasoned about without them.

A procedure under way stands at a point where it has to wait: for an answer, for
the delay before a status request, or for the answer to one.
-/

/-- A procedure with a result. -/
inductive Procedure (α : Type) : Type
  | finish (result : α)
  | publish (notice : Notice) (next : Procedure α)
  /-- Takes a name that no other streaming message has. -/
  | nameStream (next : String → Procedure α)
  | ask (request : Request) (next : request.Answer → Procedure α)
  /-- Watches a job, reporting every status that is not terminal. -/
  | watch (call : ServiceCall) (isTerminal : call.Reply → Bool)
      (report : call.Reply → List Notice)
      (next : Except Fault (PollOutcome call.Reply) → Procedure α)

namespace Procedure

/-- One procedure after another. -/
def andThen : Procedure α → (α → Procedure β) → Procedure β
  | .finish result, next => next result
  | .publish notice rest, next => .publish notice (rest.andThen next)
  | .nameStream rest, next => .nameStream fun name => (rest name).andThen next
  | .ask request rest, next => .ask request fun answer => (rest answer).andThen next
  | .watch call isTerminal report rest, next =>
      .watch call isTerminal report fun outcome => (rest outcome).andThen next

instance : Monad Procedure where
  pure := .finish
  bind := andThen

/-- Publishes a notice. -/
def say (notice : Notice) : Procedure Unit :=
  .publish notice (.finish ())

/-- Publishes notices in order. -/
def sayAll : List Notice → Procedure Unit
  | [] => .finish ()
  | notice :: rest => .publish notice (sayAll rest)

/-- A fresh name for a streaming message. -/
def streamName : Procedure String :=
  .nameStream .finish

/-- The answer to a request. -/
def request (asked : Request) : Procedure asked.Answer :=
  .ask asked .finish

/-- What the service answers to a call. -/
def call (asked : ServiceCall) : Procedure (Except Fault asked.Reply) :=
  .ask (.service asked) .finish

/-- How the watch of a job ends. -/
def watchJob (asked : ServiceCall) (isTerminal : asked.Reply → Bool)
    (report : asked.Reply → List Notice) :
    Procedure (Except Fault (PollOutcome asked.Reply)) :=
  .watch asked isTerminal report .finish

end Procedure

/-- A job being watched, and what is done once the watch ends. -/
structure Watch (α : Type) where
  call : ServiceCall
  isTerminal : call.Reply → Bool
  report : call.Reply → List Notice
  /-- How many requests in a row have failed. -/
  failures : Nat
  next : Except Fault (PollOutcome call.Reply) → Procedure α

/-- Where a procedure under way stands. -/
inductive Activity (α : Type) : Type
  | finished (result : α)
  /-- A request is in flight. -/
  | asking (request : Request) (next : request.Answer → Procedure α)
  /-- The delay before a status request is running. -/
  | pausing (watch : Watch α)
  /-- A status request is in flight. -/
  | checking (watch : Watch α)

/-- A stretch of a procedure between two points of waiting. -/
structure Stretch (α : Type) where
  notices : List Notice
  /-- Whether the fresh stream name was taken. -/
  namedStream : Bool
  reached : Activity α

/-- A stretch with a notice in front. -/
def Stretch.after (notice : Notice) (stretch : Stretch α) : Stretch α :=
  { stretch with notices := notice :: stretch.notices }

/-- Runs a procedure to the first point where it has to wait. -/
def Procedure.advance (freshName : String) : Procedure α → Stretch α
  | .finish result => ⟨[], false, .finished result⟩
  | .publish notice next => (next.advance freshName).after notice
  | .nameStream next => { (next freshName).advance freshName with namedStream := true }
  | .ask request next => ⟨[], false, .asking request next⟩
  | .watch call isTerminal report next =>
      ⟨[], false, .pausing ⟨call, isTerminal, report, 0, next⟩⟩

namespace Watch

/-- Ends a watch that was cancelled. -/
def cancel (freshName : String) (watch : Watch α) : Stretch α :=
  (watch.next (.ok .cancelled)).advance freshName

/-- Goes on once the delay is over. -/
def elapse (watch : Watch α) : Stretch α :=
  ⟨[], false, .checking watch⟩

/-- Goes on with the answer to a status request. -/
def receive (policy : PollPolicy) (freshName : String) (watch : Watch α)
    (answer : Except Fault watch.call.Reply) : Stretch α :=
  match policy.judge watch.isTerminal watch.failures answer with
  | .ended result => (watch.next (result.map .terminal)).advance freshName
  | .goesOn failures progress =>
      ⟨(progress.map watch.report).getD [], false, .pausing { watch with failures }⟩

end Watch

namespace Activity

/-- The request that an activity has in flight. -/
def inFlight? : Activity α → Option Request
  | .asking request _ => some request
  | .checking watch => some (.service watch.call)
  | .finished _ | .pausing _ => none

/-- Goes on when a delay is over, or is cut short because the procedure is to stop. -/
def wake? (freshName : String) (cancelled : Bool) : Activity α → Option (Stretch α)
  | .pausing watch => some (if cancelled then watch.cancel freshName else watch.elapse)
  | _ => none

/-- Goes on with the answer to the request in flight. -/
def receive? (policy : PollPolicy) (freshName : String) (request : Request)
    (answer : request.Answer) : Activity α → Option (Stretch α)
  | .asking asked next =>
      if same : request = asked then
        some ((next (Request.Answer.cast same answer)).advance freshName)
      else none
  | .checking watch =>
      if same : request = .service watch.call then
        some (watch.receive policy freshName (Request.Answer.cast same answer))
      else none
  | _ => none

end Activity

end AssessmentChat
