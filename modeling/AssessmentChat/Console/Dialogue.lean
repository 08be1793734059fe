import AssessmentChat.Console.Display
import AssessmentChat.Console.Line
import AssessmentChat.Installation
import AssessmentChat.Rehearsal.Direction

namespace AssessmentChat.Console

/-!
# Dialogues

A dialogue takes one line after another.  A line is turned into a command, the
command is handled to the end of the job that it starts, and what happened in
the meantime is printed.
-/

open Rehearsal

/-- A dialogue with one session. -/
structure Dialogue (σ : Type) where
  stage : Stage σ
  sessionId : String
  colours : Bool := false
  /-- The suggestions on show. -/
  suggestions : List FollowUpOption := []

/-- What a line came to. -/
structure Turn where
  /-- The phase that the line's job ended in, if it started one. -/
  outcome : Except Fault (Option Phase)
  printed : List String

namespace Dialogue

/-- The surroundings of an installation, which answer at once. -/
def surroundings (installation : Installation)
    (network : Http.Request → ν → Option Http.Response × ν) (left : ν → Nat) :
    Surroundings (Installation.World ν) where
  answer request world :=
    let (answer, after) := installation.answer network request world
    (⟨0, false, answer⟩, after)
  remaining world := left world.network

/-- A dialogue with an installation. -/
def start (installation : Installation)
    (network : Http.Request → ν → Option Http.Response × ν) (left : ν → Nat)
    (world : Installation.World ν) (sessionId : String) (colours : Bool) :
    Dialogue (Installation.World ν) where
  stage :=
    { policy := installation.policy
      surroundings := surroundings installation network left
      state := world
      chat := .empty
      credential := installation.identity.state }
  sessionId
  colours

/-- Lets time pass until a job has ended, for at most so many timers. -/
def awaitJob (handle : Nat) : Nat → Stage σ → Stage σ
  | 0, stage => stage
  | timers + 1, stage =>
      if stage.resolved.any fun (other, _) => other = handle then stage
      else
        match stage.timers with
        | [] => stage
        | timer :: _ => awaitJob handle timers (stage.advance (timer.due - stage.clock))

/-- The outcome of a job that has ended. -/
def jobOutcome (handle : Nat) (stage : Stage σ) : Except Fault (Option Phase) :=
  match stage.resolved.lookup handle with
  | some outcome => outcome.map some
  | none => .ok none

/-- Handles a command to the end of the job that it starts. -/
def carryOut (command : Command) (stage : Stage σ) : Except Fault (Option Phase) × Stage σ :=
  match stage.command command with
  | (.ok (some handle), handled) =>
      let settled := handled.settle
      let awaited := awaitJob handle settled.fuel settled
      (jobOutcome handle awaited, awaited)
  | (.ok none, handled) => (.ok none, handled.settle)
  | (.error fault, handled) => (.error fault, handled.settle)

/-- The notices of noted events, in order. -/
def notices (stage : Stage σ) : List Notice :=
  stage.entries.reverse.filterMap fun entry =>
    match entry with
    | .event event => some event.notice
    | .call _ => none

/-- Takes a line. -/
def enter (line : String) (dialogue : Dialogue σ) : Turn × Dialogue σ :=
  let meaning := LineMeaning.of (trim line) dialogue.sessionId dialogue.suggestions
  let (outcome, stage) :=
    match meaning.command? with
    | some command => carryOut command dialogue.stage
    | none => (.ok none, dialogue.stage)
  let notices := notices stage
  ({ outcome
     printed := meaning.remarks dialogue.colours ++
       notices.flatMap (printed dialogue.colours) },
    { dialogue with
      stage := { stage with entries := [], resolved := [] }
      suggestions := notices.foldl suggestionsAfter dialogue.suggestions })

/-- Takes lines in order. -/
def enterAll : List String → Dialogue σ → List Turn × Dialogue σ
  | [], dialogue => ([], dialogue)
  | line :: rest, dialogue =>
      let (turn, after) := dialogue.enter line
      let (turns, last) := after.enterAll rest
      (turn :: turns, last)

end Dialogue

end AssessmentChat.Console
