import AssessmentChat.Rehearsal.Surroundings

namespace AssessmentChat.Rehearsal

/-!
# Performances

One procedure at a time is run against its surroundings on a virtual clock.  The
clock moves by the delays of answers and by the polling interval.
-/

/-- A performance under way. -/
structure Performance (σ : Type) where
  surroundings : σ
  /-- Milliseconds since the beginning. -/
  clock : Nat := 0
  /-- How many streams have been named. -/
  names : Nat := 0
  /-- Whether the procedure has been told to stop. -/
  cancelled : Bool := false
  /-- What has been noted down, the latest first. -/
  entries : List Entry := []

namespace Performance

/-- Notes an entry down. -/
def note (entry : Entry) (performance : Performance σ) : Performance σ :=
  { performance with entries := entry :: performance.entries }

/-- Notes the notices of a stretch down. -/
def absorb (sessionId : String) (stretch : Stretch α) (performance : Performance σ) :
    Performance σ :=
  let noted := stretch.notices.foldl
    (fun noted notice => noted.note (.event ⟨sessionId, notice⟩)) performance
  { noted with names := if stretch.namedStream then noted.names + 1 else noted.names }

/-- Notes a request down and waits for its answer. -/
def await (surroundings : Surroundings σ) (request : Request) (performance : Performance σ) :
    request.Answer × Performance σ :=
  let (response, after) := surroundings.answer request performance.surroundings
  (response.answer,
    { performance.note (.call request) with
      surroundings := after
      clock := performance.clock + response.delay
      cancelled := performance.cancelled || response.cancels })

/-- Runs a procedure from a point of waiting to its end, in at most `fuel` stretches. -/
def resume (surroundings : Surroundings σ) (policy : PollPolicy) (sessionId : String) :
    Nat → Activity α → Performance σ → Option α × Performance σ
  | 0, _, performance => (none, performance)
  | fuel + 1, activity, performance =>
      let goOn (stretch : Stretch α) (performance : Performance σ) :=
        resume surroundings policy sessionId fuel stretch.reached
          (performance.absorb sessionId stretch)
      match activity with
      | .finished result => (some result, performance)
      | .asking request next =>
          let (answer, answered) := performance.await surroundings request
          goOn ((next answer).advance (streamName answered.names)) answered
      | .pausing watch =>
          if performance.cancelled then
            goOn (watch.cancel (streamName performance.names)) performance
          else
            goOn watch.elapse { performance with clock := performance.clock + policy.interval }
      | .checking watch =>
          let (answer, answered) := performance.await surroundings (.service watch.call)
          goOn (watch.receive policy (streamName answered.names) answer) answered

/-- Runs a procedure to its end. -/
def perform (surroundings : Surroundings σ) (policy : PollPolicy) (sessionId : String)
    (procedure : Procedure α) (performance : Performance σ) : Option α × Performance σ :=
  let fuel := waitsPerUtterance +
    2 * (surroundings.remaining performance.surroundings + policy.maxConsecutiveErrors + 1)
  let stretch := procedure.advance (streamName performance.names)
  resume surroundings policy sessionId fuel stretch.reached
    (performance.absorb sessionId stretch)

end Performance

end AssessmentChat.Rehearsal
