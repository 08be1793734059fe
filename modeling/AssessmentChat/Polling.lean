import AssessmentChat.Config
import AssessmentChat.Fault

namespace AssessmentChat

/-!
# Polling

A job is watched by asking for its status after a fixed delay, again and again,
until the status is terminal, too many requests in a row have failed, or the
watch is cancelled.  Cancellation is noticed during the delay and never cuts a
request short.
-/

/-- How a job is watched. -/
structure PollPolicy where
  /-- The delay before every request, the first one included, in milliseconds. -/
  interval : Nat
  /-- How many failures in a row end the watch; none count as one. -/
  maxConsecutiveErrors : Nat
deriving Repr, DecidableEq

/-- The policy that the settings ask for. -/
def PollPolicy.ofSettings (settings : PollingSettings) : PollPolicy :=
  ⟨settings.intervalMilliseconds.toNat, settings.maxConsecutiveErrors.toNat⟩

/-- How a watch ended when it was not given up. -/
inductive PollOutcome (α : Type)
  | terminal (value : α)
  | cancelled
deriving Repr, DecidableEq

/-- What one answer means for a watch. -/
inductive PollVerdict (α : Type)
  /-- The watch has seen a terminal value or is given up. -/
  | ended (result : Except Fault α)
  /-- The watch goes on, after so many failures in a row, with a value to report if any. -/
  | goesOn (failures : Nat) (progress : Option α)

/-- Judges an answer that comes after `failures` failures in a row. -/
def PollPolicy.judge (policy : PollPolicy) (isTerminal : α → Bool) (failures : Nat) :
    Except Fault α → PollVerdict α
  | .ok value =>
      if isTerminal value then .ended (.ok value) else .goesOn 0 (some value)
  | .error fault =>
      if policy.maxConsecutiveErrors ≤ failures + 1 then
        .ended (.error (.pollExhausted (failures + 1) fault.message))
      else .goesOn (failures + 1) none

end AssessmentChat
