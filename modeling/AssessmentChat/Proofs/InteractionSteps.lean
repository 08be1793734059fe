import AssessmentChat.Proofs.ServiceAnswers

namespace AssessmentChat

/-!
# Steps of interactions

An interaction that has not ended can go on.  How many steps it takes is bounded
by what the service says about jobs: apart from two steps for every such answer
there are only the few requests and watches of its procedure.

A rehearsal that comes to a result is an interaction that comes to the same
result: what the surroundings answer happens to it, and it is told to stop when
an answer wishes so.
-/

/-- Whether an occurrence takes an interaction further. -/
def Occurrence.isStep : Occurrence → Bool
  | .toldToStop => false
  | .woken _ => true
  | .answered .. => true

/-- How often an interaction is taken further. -/
def steps (occurrences : List Occurrence) : Nat :=
  occurrences.countP Occurrence.isStep

@[simp] theorem jobAnswers_stretch
    (stretch : Stretch α) :
    jobAnswers stretch.deeds = [] := by
  cases inFlight : stretch.reached.inFlight? with
  | none =>
      simp [Stretch.deeds, inFlight]
  | some request =>
      simp [Stretch.deeds, inFlight, jobAnswers, Deed.jobAnswer?]

/-- A watched request that is answered is one answer about the job. -/
theorem WatchesJob.jobAnswers_answered
    {call : ServiceCall}
    {isTerminal : call.Reply → Bool}
    (watches : WatchesJob call isTerminal)
    (answer : Except Fault call.Reply) :
    (jobAnswers [.answered (.service call) answer]).length = 1 := by
  cases watches <;> rfl

namespace Interaction

open Rehearsal.Performance (halfway)

variable {policy : PollPolicy}

@[simp] theorem jobAnswers_goOn
    (interaction : Interaction α)
    (answered : List Deed)
    (stretch : Stretch α) :
    jobAnswers (interaction.goOn answered stretch).deeds =
      jobAnswers interaction.deeds ++ jobAnswers answered := by
  simp [goOn]

/-- An interaction that has not ended can go on. -/
theorem exists_meet?
    (policy : PollPolicy)
    {interaction : Interaction α}
    (unfinished : interaction.activity.outcome? = none) :
    ∃ occurrence next,
      occurrence ≠ .toldToStop ∧
        interaction.meet? policy occurrence = some next := by
  obtain ⟨deeds, activity, toldToStop⟩ := interaction
  cases activity with
  | finished result =>
      cases unfinished
  | asking request next =>
      obtain ⟨answer⟩ := BoundToFinish.answerable request
      exact ⟨.answered "" request answer, _, nofun,
        Option.map_eq_some_iff.mpr
          ⟨_, Activity.receive?_asking_eq_some.mpr ⟨rfl, rfl⟩, rfl⟩⟩
  | pausing watch =>
      exact ⟨.woken "", _, nofun, rfl⟩
  | checking watch =>
      obtain ⟨answer⟩ :=
        BoundToFinish.answerable (.service watch.call)
      exact ⟨.answered "" (.service watch.call) answer, _, nofun,
        Option.map_eq_some_iff.mpr
          ⟨_, Activity.receive?_checking_eq_some.mpr ⟨rfl, rfl⟩, rfl⟩⟩

/--
What an interaction can still do and what it has done: the waits that are left,
two steps for each answer about a job, and the request that is half done.
-/
structure TakesAtMost
    (interaction : Interaction α)
    (taken bound : Nat) : Prop where
  within :
    ∃ waits,
      interaction.activity.WaitsAtMost waits ∧
        taken + waits ≤
          bound + 2 * (jobAnswers interaction.deeds).length +
            halfway interaction.activity

namespace TakesAtMost

/-- One occurrence takes one step at most. -/
theorem meet
    {interaction next : Interaction α}
    {occurrence : Occurrence}
    {taken bound : Nat}
    (takes : interaction.TakesAtMost taken bound)
    (met : interaction.meet? policy occurrence = some next) :
    next.TakesAtMost (taken + steps [occurrence]) bound := by
  obtain ⟨deeds, activity, toldToStop⟩ := interaction
  obtain ⟨waits, bounded, enough⟩ := takes.within
  cases occurrence with
  | toldToStop =>
      cases met
      exact ⟨waits, bounded, enough⟩
  | woken freshName =>
      obtain ⟨stretch, woken, rfl⟩ := Option.map_eq_some_iff.mp met
      cases bounded with
      | finished | asking | checking =>
          cases woken
      | @pausing waits watch watches bounded =>
          cases toldToStop with
          | true =>
              cases woken
              refine ⟨waits, (bounded _).advance freshName, ?_⟩
              rw [jobAnswers_goOn]
              simp [steps, Occurrence.isStep, halfway] at enough ⊢
              omega
          | false =>
              cases woken
              refine ⟨_, .checking watches bounded, ?_⟩
              rw [jobAnswers_goOn]
              simp [steps, Occurrence.isStep, halfway, goOn, Watch.elapse]
                at enough ⊢
              omega
  | answered freshName request answer =>
      obtain ⟨stretch, received, rfl⟩ := Option.map_eq_some_iff.mp met
      cases bounded with
      | finished | pausing =>
          cases received
      | @asking waits asked onward notStatus bounded =>
          obtain ⟨rfl, rfl⟩ := Activity.receive?_asking_eq_some.mp received
          refine ⟨waits, (bounded _).advance freshName, ?_⟩
          rw [jobAnswers_goOn]
          simp [steps, Occurrence.isStep, halfway] at enough ⊢
          omega
      | @checking waits watch watches bounded =>
          obtain ⟨rfl, rfl⟩ :=
            Activity.receive?_checking_eq_some.mp received
          have answered := watches.jobAnswers_answered answer
          refine ⟨_, watch.receive_waitsAtMost watches bounded _, ?_⟩
          rw [jobAnswers_goOn]
          simp [steps, Occurrence.isStep, halfway, answered] at enough ⊢
          omega

/-- A series of occurrences takes as many steps as are bounded. -/
theorem meetAll
    {interaction last : Interaction α}
    {occurrences : List Occurrence}
    {taken bound : Nat}
    (takes : interaction.TakesAtMost taken bound)
    (met : interaction.meetAll? policy occurrences = some last) :
    last.TakesAtMost (taken + steps occurrences) bound := by
  induction occurrences generalizing interaction taken with
  | nil =>
      cases met
      exact takes
  | cons occurrence rest inductionHypothesis =>
      obtain ⟨next, met, restMet⟩ := Option.bind_eq_some_iff.mp met
      have counted :
          steps (occurrence :: rest) = steps [occurrence] + steps rest := by
        rw [← List.singleton_append, steps, List.countP_append]
        rfl
      rw [counted, ← Nat.add_assoc]
      exact inductionHypothesis (takes.meet met) restMet

end TakesAtMost

/-- A procedure that waits a few times takes a bounded number of steps. -/
theorem steps_le
    {procedure : Procedure α}
    {freshName : String}
    {toldToStop : Bool}
    {waits : Nat}
    {occurrences : List Occurrence}
    {last : Interaction α}
    (bounded : procedure.WaitsAtMost waits)
    (met :
      (start freshName toldToStop procedure).meetAll? policy occurrences =
        some last) :
    steps occurrences ≤ waits + 2 * (jobAnswers last.deeds).length + 1 := by
  have begun :
      (start freshName toldToStop procedure).TakesAtMost 0 waits :=
    ⟨waits, bounded.advance freshName, by omega⟩
  obtain ⟨left, -, enough⟩ := (begun.meetAll met).within
  have half : halfway last.activity ≤ 1 := by
    unfold halfway
    split <;> omega
  omega

/-- What can happen to an interaction leads it to a result. -/
def CanComeTo
    (policy : PollPolicy)
    (interaction : Interaction α)
    (result : α) : Prop :=
  ∃ occurrences last,
    interaction.meetAll? policy occurrences = some last ∧
      last.activity = .finished result

namespace CanComeTo

variable {result : α}

/-- An interaction can come to what it can come to after one more occurrence. -/
theorem of_meet
    {interaction next : Interaction α}
    {occurrence : Occurrence}
    (met : interaction.meet? policy occurrence = some next)
    (goesOn : next.CanComeTo policy result) :
    interaction.CanComeTo policy result := by
  obtain ⟨occurrences, last, restMet, finished⟩ := goesOn
  exact ⟨occurrence :: occurrences, last,
    Option.bind_eq_some_iff.mpr ⟨next, met, restMet⟩, finished⟩

/-- It can be told to stop at any time. -/
theorem of_told
    {deeds : List Deed}
    {activity : Activity α}
    {told : Bool}
    (stops : Bool)
    (goesOn : CanComeTo policy ⟨deeds, activity, told || stops⟩ result) :
    CanComeTo policy ⟨deeds, activity, told⟩ result := by
  cases stops with
  | true =>
      rw [Bool.or_true] at goesOn
      exact @of_meet _ _ _ ⟨deeds, activity, told⟩ _ .toldToStop rfl goesOn
  | false =>
      rwa [Bool.or_false] at goesOn

end CanComeTo

end Interaction

namespace Rehearsal.Performance

/-! ## Performances -/

variable
  {policy : PollPolicy}
  {surroundings : Surroundings σ}
  {sessionId : String}

/-- A performance that comes to a result is an interaction that comes to it. -/
theorem resume_canComeTo
    {fuel : Nat}
    {activity : Activity α}
    {performance : Performance σ}
    {result : α}
    (resumed :
      (resume surroundings policy sessionId fuel activity
        performance).1 = some result)
    (deeds : List Deed) :
    Interaction.CanComeTo policy ⟨deeds, activity, performance.cancelled⟩
      result := by
  induction fuel generalizing activity performance deeds with
  | zero =>
      cases resumed
  | succ fuel inductionHypothesis =>
      have onward
          {stretch : Stretch α}
          {performance : Performance σ}
          (resumed :
            (follow surroundings policy sessionId fuel stretch
              performance).1 = some result)
          (deeds : List Deed) :
          Interaction.CanComeTo policy
            ⟨deeds, stretch.reached, performance.cancelled⟩ result := by
        rw [follow, absorb_eq] at resumed
        exact inductionHypothesis resumed deeds
      have answered
          {request : Request}
          {stretch : Stretch α}
          (received :
            activity.receive? policy (streamName performance.names) request
                (surroundings.answer request
                  performance.surroundings).1.answer =
              some stretch)
          (resumed :
            (follow surroundings policy sessionId fuel stretch
              (performance.answered surroundings request)).1 =
                some result) :
          Interaction.CanComeTo policy
            ⟨deeds, activity, performance.cancelled⟩ result := by
        have meets :
            Interaction.meet? policy
                ⟨deeds, activity, performance.cancelled⟩
                (.answered (streamName performance.names) request _) =
              some _ :=
          Option.map_eq_some_iff.mpr ⟨stretch, received, rfl⟩
        exact .of_meet meets (.of_told _ (onward resumed _))
      cases activity with
      | finished same =>
          cases resumed
          exact ⟨[], _, rfl, rfl⟩
      | asking request next =>
          rw [resume_asking] at resumed
          exact answered
            (Activity.receive?_asking_eq_some.mpr ⟨rfl, rfl⟩) resumed
      | pausing watch =>
          have woken
              {stretch : Stretch α}
              {after : Performance σ}
              (wakes :
                (Activity.pausing watch).wake?
                    (streamName performance.names) performance.cancelled =
                  some stretch)
              (same : after.cancelled = performance.cancelled)
              (resumed :
                (follow surroundings policy sessionId fuel stretch
                  after).1 = some result) :
              Interaction.CanComeTo policy
                ⟨deeds, .pausing watch, performance.cancelled⟩ result := by
            have meets :
                Interaction.meet? policy
                    ⟨deeds, .pausing watch, performance.cancelled⟩
                    (.woken (streamName performance.names)) =
                  some _ :=
              Option.map_eq_some_iff.mpr ⟨stretch, wakes, rfl⟩
            refine .of_meet meets ?_
            rw [Interaction.goOn, ← same]
            exact onward resumed _
          rw [resume_pausing] at resumed
          split at resumed
          next cancelled =>
            refine woken ?_ ?_ resumed
            · simp [Activity.wake?, cancelled]
            · rfl
          next notCancelled =>
            refine woken ?_ ?_ resumed
            · simp [Activity.wake?, notCancelled]
            · rfl
      | checking watch =>
          rw [resume_checking] at resumed
          exact answered
            (Activity.receive?_checking_eq_some.mpr ⟨rfl, rfl⟩) resumed

/-- A rehearsal that comes to a result is an interaction that comes to it. -/
theorem perform_meets
    {procedure : Procedure α}
    {performance : Performance σ}
    {result : α}
    (performed :
      (perform surroundings policy sessionId procedure performance).1 =
        some result) :
    ∃ occurrences last,
      (Interaction.start (streamName performance.names)
            performance.cancelled procedure).meetAll? policy occurrences =
        some last ∧
      last.activity = .finished result := by
  rw [perform, absorb_eq] at performed
  exact resume_canComeTo performed _

end Rehearsal.Performance

end AssessmentChat
