import AssessmentChat.Polling

namespace AssessmentChat.Rehearsal

/-!
# Watching a job alone

The polling loop by itself, on a virtual clock: every request takes its time and
has its outcome, and the watch may be cancelled at a moment, by a request or by
a report.
-/

/-- A status request: how long it takes, whether it cancels the watch, and its outcome. -/
structure Fetch (α : Type) where
  duration : Nat := 0
  cancels : Bool := false
  outcome : Except Fault α

/-- A watch to be rehearsed. -/
structure WatchPlan (α : Type) where
  policy : PollPolicy
  isTerminal : α → Bool
  /-- The requests, from the first one on. -/
  fetch : Nat → Fetch α
  /-- When the watch is cancelled from outside. -/
  cancelAt : Option Nat := none
  /-- The report, counted from one, that cancels the watch. -/
  cancelOnReport : Option Nat := none
  /-- Whether a delay that ends at the time of the cancellation is cut short by it. -/
  cancelFirst : Bool := false

/-- A watch under way. -/
structure WatchState (α : Type) where
  clock : Nat := 0
  failures : Nat := 0
  /-- How many requests have been made. -/
  fetches : Nat := 0
  /-- The values reported, the latest first. -/
  reported : List α := []
  cancelled : Bool := false

/-- What a delay leads to. -/
inductive DelayEnd
  | cancelled (clock : Nat)
  | elapsed (clock : Nat)
deriving Repr, DecidableEq

namespace WatchPlan

/-- How the delay before a request ends. -/
def delay (plan : WatchPlan α) (state : WatchState α) : DelayEnd :=
  let due := state.clock + plan.policy.interval
  if state.cancelled || plan.cancelAt.any (· < state.clock) then .cancelled state.clock
  else
    match plan.cancelAt with
    | some time =>
        if time < due || (plan.cancelFirst && time = due) then .cancelled time
        else .elapsed due
    | none => .elapsed due

/-- The watch after a value has been reported. -/
def report (plan : WatchPlan α) (value : α) (state : WatchState α) : WatchState α :=
  let reported := value :: state.reported
  { state with
    reported
    cancelled := state.cancelled || plan.cancelOnReport = some reported.length }

/-- Runs a watch to its end, in at most `fuel` requests. -/
def run (plan : WatchPlan α) :
    Nat → WatchState α → Option (Except Fault (PollOutcome α)) × WatchState α
  | 0, state => (none, state)
  | fuel + 1, state =>
      match plan.delay state with
      | .cancelled clock => (some (.ok .cancelled), { state with clock })
      | .elapsed clock =>
          let fetch := plan.fetch state.fetches
          let fetched : WatchState α :=
            { state with
              clock := clock + fetch.duration
              fetches := state.fetches + 1
              cancelled := state.cancelled || fetch.cancels }
          match plan.policy.judge plan.isTerminal state.failures fetch.outcome with
          | .ended result => (some (result.map .terminal), fetched)
          | .goesOn failures none => plan.run fuel { fetched with failures }
          | .goesOn failures (some value) =>
              plan.run fuel (plan.report value { fetched with failures })

end WatchPlan

end AssessmentChat.Rehearsal
