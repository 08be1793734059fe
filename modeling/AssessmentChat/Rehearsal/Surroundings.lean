import AssessmentChat.Session.Supervision

namespace AssessmentChat.Rehearsal

/-!
# Surroundings

Whatever answers the requests of a rehearsed conversation.  An answer may take
time, and it may come together with a wish to cancel.
-/

/-- An answer, how long it takes and whether it cancels what asked for it. -/
structure Response (request : Request) where
  delay : Nat
  cancels : Bool
  answer : request.Answer

/-- Surroundings with a state. -/
structure Surroundings (σ : Type) where
  answer : (request : Request) → σ → Response request × σ
  /-- A bound on the answers left that keep a job going. -/
  remaining : σ → Nat

/-- What is noted down during a rehearsal. -/
inductive Entry
  | event (event : Event)
  | call (request : Request)
deriving Repr, DecidableEq

/-- The name of the stream with a number, counted from zero. -/
def streamName (number : Nat) : String :=
  s!"M{number + 1}"

/-- The universal time of a rehearsal, which nothing depends on. -/
def universalTime (clock : Nat) : Timestamp :=
  ⟨clock / 1000, clock % 1000 * 1000000⟩

/-- How many points of waiting an utterance can have apart from its polling. -/
def waitsPerUtterance : Nat := 16

end AssessmentChat.Rehearsal
