import AssessmentChat.Rehearsal.Script
import AssessmentChat.Rehearsal.Stage

namespace AssessmentChat.Rehearsal

/-!
# Directions

A rehearsal is directed step by step.  Each direction has a finding; after it,
everything that can run at the time runs, and what happened since the step
before is reported.
-/

/-- One step of a rehearsal. -/
inductive Direction
  | command (command : Option Command)
  | send (sessionId text : String)
  | help (sessionId : String)
  | cancel (sessionId : String)
  | auth (sessionId : String) (authenticated : Bool)
  | dispose (sessionId : String)
  | inspect (sessionId : String)
  | subscribe (sessionId : String)
  | getOrCreate (sessionId : String)
  | get (sessionId : String)
  | delete (sessionId : String)
  | list
  | hold (sessionId : String)
  | release (sessionId : String)
  | credential (state : CredentialState)
  | workspace (empty : Bool)
  | advance (milliseconds : Nat)

/-- What a direction finds. -/
inductive Finding
  | nothing
  | noSession
  | outcome (outcome : Except Fault (Option Nat))
  | flag (flag : Bool)
  | cancelled (cancelled : Bool)
  | inspected (sessionId : String) (disposed : Bool) (snapshot : SessionSnapshot)
  | opened (sessionId : String) (existing : Bool)
  | name (sessionId : Option String)
  | names (sessionIds : List String)

/-- What happened in a step. -/
structure Report where
  finding : Finding
  entries : List Entry
  /-- The jobs that ended, by number. -/
  resolved : List (Nat × Except Fault Phase)
  sessions : List SessionSnapshot
  /-- The subscribed sessions of which a view was published. -/
  changed : List String
  clock : Nat

namespace Stage

/-- Takes over the immediate part of a command's handling. -/
def absorbHandled (handled : Handled) (stage : Stage σ) : Stage σ :=
  let noted := ({ stage with chat := handled.chat } : Stage σ).noteOutputs handled.outputs
  handled.touched.foldl (fun touched number => touched.lineUp number) noted

/-- Handles a command; the plan of a session is saved before the next step. -/
def command (command : Command) (stage : Stage σ) : Except Fault (Option Nat) × Stage σ :=
  let before := stage.chat.registry.tabs.map Prod.snd
  let handled := stage.chat.handle command stage.credential (universalTime stage.clock)
  let absorbed := before.foldl (fun stage number => stage.dropUnreferred number)
    (stage.absorbHandled handled)
  match handled.result with
  | .finished outcome => (outcome, absorbed)
  | .download sessionId procedure =>
      let (outcome, performed) := absorbed.performAside sessionId procedure
      ((outcome.getD (.ok ())).map fun () => none, performed)

/-- Queues a job of a session. -/
def submit (number : Nat) (job : Job) (stage : Stage σ) : Finding × Stage σ :=
  let handled := stage.chat.submit number job
  (.outcome (.ok (some stage.chat.nextHandle)), stage.absorbHandled handled)

/-- Does something with the session that a direction is addressed to. -/
def addressing (sessionId : String) (stage : Stage σ)
    (act : Nat → Session → Finding × Stage σ) : Finding × Stage σ :=
  match stage.addressee? sessionId with
  | some number =>
      match stage.session? number with
      | some session => act number session
      | none => (.noSession, stage)
  | none => (.noSession, stage)

/-- Follows a direction, up to the next time that nobody can go on at once. -/
def follow? (direction : Direction) (stage : Stage Script) : Finding × Stage Script :=
  match direction with
  | .command none => (.outcome (.error .malformedJson), stage)
  | .command (some given) =>
      let (outcome, handled) := stage.command given
      (.outcome outcome, handled)
  | .send sessionId text =>
      stage.addressing sessionId fun number _ => stage.submit number (.utterance text)
  | .help sessionId =>
      stage.addressing sessionId fun number _ => stage.submit number .help
  | .cancel sessionId =>
      stage.addressing sessionId fun number session =>
        (.cancelled session.canCancel, (stage.update number Session.cancel).lineUp number)
  | .auth sessionId authenticated =>
      stage.addressing sessionId fun number _ =>
        (.nothing, (stage.update number (Session.authChanged authenticated)).lineUp number)
  | .dispose sessionId =>
      stage.addressing sessionId fun number _ =>
        (.nothing, (stage.update number Session.dispose).lineUp number)
  | .inspect sessionId =>
      stage.addressing sessionId fun _ session =>
        (.inspected session.sessionId session.disposed session.snapshot, stage)
  | .subscribe sessionId =>
      stage.addressing sessionId fun number session =>
        (.nothing,
          { stage with subscriptions :=
              stage.subscriptions.filter (fun (other, _) => other != sessionId) ++
                [(sessionId, number, session.publications)] })
  | .getOrCreate sessionId =>
      let existing := (stage.chat.registry.find? sessionId).isSome
      let (_, chat) := stage.chat.getOrCreate sessionId (universalTime stage.clock)
      (.opened sessionId existing, { stage with chat })
  | .get sessionId =>
      (.name ((stage.chat.registry.find? sessionId).map fun _ => sessionId), stage)
  | .delete sessionId =>
      match stage.chat.registry.find? sessionId with
      | some number =>
          let registry := stage.chat.registry.remove sessionId
          let removed : Stage Script := { stage with chat := { stage.chat with registry } }
          (.name (some sessionId), removed.dropUnreferred number)
      | none => (.name none, stage)
  | .list => (.names stage.chat.registry.sessionIds, stage)
  | .hold sessionId =>
      match stage.chat.registry.find? sessionId with
      | some number =>
          let before := stage.held.lookup sessionId
          let others := stage.held.filter fun (other, _) => other != sessionId
          let holding : Stage Script := { stage with held := (sessionId, number) :: others }
          (.flag true, before.elim holding holding.dropUnreferred)
      | none => (.flag false, stage)
  | .release sessionId =>
      match stage.held.lookup sessionId with
      | some number =>
          let others := stage.held.filter fun (other, _) => other != sessionId
          (.flag true, ({ stage with held := others } : Stage Script).dropUnreferred number)
      | none => (.flag false, stage)
  | .credential state => (.nothing, { stage with credential := state })
  | .workspace empty =>
      (.nothing, { stage with state := { stage.state with workspaceEmpty := empty } })
  | .advance milliseconds => (.nothing, stage.advance milliseconds)

/-- The subscriptions whose session has published a view that was not seen. -/
def changedSessions (stage : Stage σ) : List String :=
  stage.subscriptions.filterMap fun (sessionId, number, seen) =>
    match stage.session? number with
    | some session => if seen < session.publications then some sessionId else none
    | none => none

/-- The subscriptions with every view seen. -/
def seenSubscriptions (stage : Stage σ) : List (String × Nat × Nat) :=
  stage.subscriptions.map fun (sessionId, number, seen) =>
    (sessionId, number, ((stage.session? number).map Session.publications).getD seen)

/-- A job among others, by number. -/
def insertResolved (job : Nat × Except Fault Phase) :
    List (Nat × Except Fault Phase) → List (Nat × Except Fault Phase)
  | [] => [job]
  | other :: rest =>
      if job.1 < other.1 then job :: other :: rest else other :: insertResolved job rest

/-- Follows a direction, lets everything run that can, and reports. -/
def step (direction : Direction) (stage : Stage Script) : Report × Stage Script :=
  let (finding, followed) := stage.follow? direction
  let settled := followed.settle
  ({ finding
     entries := settled.entries.reverse
     resolved := settled.resolved.foldr insertResolved []
     sessions := settled.chat.registry.snapshots
     changed := settled.changedSessions
     clock := settled.clock },
    { settled with
      entries := []
      resolved := []
      subscriptions := settled.seenSubscriptions })

/-- Follows directions in order. -/
def steps : List Direction → Stage Script → List Report
  | [], _ => []
  | direction :: rest, stage =>
      let (report, after) := stage.step direction
      report :: after.steps rest

end Stage

end AssessmentChat.Rehearsal
