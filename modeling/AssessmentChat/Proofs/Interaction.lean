import AssessmentChat.Proofs.ProcedureCourse
import AssessmentChat.Session.Supervision

namespace AssessmentChat

/-!
# Interactions by themselves

An utterance is handled by a procedure, by what happens to it from outside, and
by nothing else.  An `Interaction` is a procedure under way without the session
around it.  It goes on when a delay is over and when a request is answered, and
it can be told to stop at any moment.

Whatever happens to an interaction, it takes a course of its procedure.  One that
has been told to stop comes to its end however its requests are answered.
-/

/-- What can happen to an interaction. -/
inductive Occurrence
  /-- The interaction is told to stop. -/
  | toldToStop
  /-- A delay is over, or is cut short. -/
  | woken (freshName : String)
  | answered (freshName : String) (request : Request) (answer : request.Answer)

/-- A procedure under way. -/
structure Interaction (α : Type) where
  deeds : List Deed
  activity : Activity α
  toldToStop : Bool

namespace Interaction

/-- A procedure at the first point where it has to wait. -/
def start
    (freshName : String)
    (toldToStop : Bool)
    (procedure : Procedure α) : Interaction α :=
  let stretch := procedure.advance freshName
  ⟨stretch.deeds, stretch.reached, toldToStop⟩

/-- An interaction after a further stretch. -/
def goOn
    (interaction : Interaction α)
    (answered : List Deed)
    (stretch : Stretch α) : Interaction α :=
  { interaction with
    deeds := interaction.deeds ++ answered ++ stretch.deeds
    activity := stretch.reached }

/-- What an occurrence does to an interaction, if it can happen to it. -/
def meet?
    (policy : PollPolicy)
    (interaction : Interaction α) :
    Occurrence → Option (Interaction α)
  | .toldToStop => some { interaction with toldToStop := true }
  | .woken freshName =>
      (interaction.activity.wake? freshName interaction.toldToStop).map
        (interaction.goOn [])
  | .answered freshName request answer =>
      (interaction.activity.receive? policy freshName request answer).map
        (interaction.goOn [.answered request answer])

/-- What one occurrence after another does to an interaction. -/
def meetAll?
    (policy : PollPolicy)
    (interaction : Interaction α)
    (occurrences : List Occurrence) : Option (Interaction α) :=
  occurrences.foldlM (meet? policy) interaction

theorem meetAll?_append
    (policy : PollPolicy)
    (interaction : Interaction α)
    (earlier later : List Occurrence) :
    interaction.meetAll? policy (earlier ++ later) =
      (interaction.meetAll? policy earlier).bind
        fun reached => reached.meetAll? policy later := by
  simp [meetAll?, List.foldlM_append, Option.bind_eq_bind]

/-- The course of an interaction goes on with every occurrence. -/
theorem meet?_reaches
    {policy : PollPolicy}
    {procedure : Procedure α}
    {interaction next : Interaction α}
    {occurrence : Occurrence}
    (reaches :
      procedure.Reaches policy interaction.deeds interaction.activity)
    (met : interaction.meet? policy occurrence = some next) :
    procedure.Reaches policy next.deeds next.activity := by
  cases occurrence with
  | toldToStop =>
      cases met
      exact reaches
  | woken freshName =>
      obtain ⟨stretch, woken, rfl⟩ := Option.map_eq_some_iff.mp met
      simpa [goOn] using reaches.wake woken
  | answered freshName request answer =>
      obtain ⟨stretch, received, rfl⟩ := Option.map_eq_some_iff.mp met
      simpa [goOn] using reaches.receive received

/-- Whatever happens to an interaction, it takes a course of its procedure. -/
theorem meetAll?_reaches
    {policy : PollPolicy}
    {procedure : Procedure α}
    {interaction next : Interaction α}
    {occurrences : List Occurrence}
    (reaches :
      procedure.Reaches policy interaction.deeds interaction.activity)
    (met : interaction.meetAll? policy occurrences = some next) :
    procedure.Reaches policy next.deeds next.activity := by
  induction occurrences generalizing interaction with
  | nil =>
      cases met
      exact reaches
  | cons occurrence rest inductionHypothesis =>
      obtain ⟨middle, met, restMet⟩ := Option.bind_eq_some_iff.mp met
      exact inductionHypothesis (meet?_reaches reaches met) restMet

/--
An interaction that comes to its end: it can go on until it has ended, and every
way of going on brings it nearer.
-/
inductive BoundToFinish (policy : PollPolicy) : Interaction α → Prop where
  | finished
      {interaction : Interaction α}
      {result : α} :
      interaction.activity = .finished result →
      BoundToFinish policy interaction
  | onward
      {interaction : Interaction α} :
      (∃ occurrence next,
        occurrence ≠ .toldToStop ∧
          interaction.meet? policy occurrence = some next) →
      (∀ occurrence next,
        occurrence ≠ .toldToStop →
        interaction.meet? policy occurrence = some next →
        BoundToFinish policy next) →
      BoundToFinish policy interaction

namespace BoundToFinish

variable {policy : PollPolicy}

/-- Every request can be answered. -/
theorem answerable
    (request : Request) :
    Nonempty request.Answer := by
  cases request with
  | workspaceIsEmpty =>
      exact ⟨true⟩
  | service call =>
      exact ⟨.error (.internal "")⟩
  | storePlan plan =>
      exact ⟨.error (.internal "")⟩
  | exportPlan content destination =>
      exact ⟨.error (.internal "")⟩

/-- A request in flight that leads to an end with every answer. -/
theorem of_asking
    {request : Request}
    {next : request.Answer → Procedure α}
    {deeds : List Deed}
    (leads :
      ∀ answer freshName earlier,
        BoundToFinish policy
          ⟨earlier, ((next answer).advance freshName).reached, true⟩) :
    BoundToFinish policy ⟨deeds, .asking request next, true⟩ := by
  obtain ⟨answer⟩ := answerable request
  refine .onward
    ⟨.answered "" request answer, _, nofun,
      Option.map_eq_some_iff.mpr
        ⟨_, Activity.receive?_asking_eq_some.mpr ⟨rfl, rfl⟩, rfl⟩⟩ ?_
  intro occurrence after notTold met
  cases occurrence with
  | toldToStop =>
      exact absurd rfl notTold
  | woken freshName =>
      cases met
  | answered freshName asked answer =>
      obtain ⟨stretch, received, rfl⟩ := Option.map_eq_some_iff.mp met
      obtain ⟨rfl, rfl⟩ := Activity.receive?_asking_eq_some.mp received
      exact leads _ freshName _

/-- A delay ends at once when the interaction has been told to stop. -/
theorem of_pausing
    {watch : Watch α}
    {deeds : List Deed}
    (leads :
      ∀ outcome freshName earlier,
        BoundToFinish policy
          ⟨earlier, ((watch.next outcome).advance freshName).reached,
            true⟩) :
    BoundToFinish policy ⟨deeds, .pausing watch, true⟩ := by
  refine .onward ⟨.woken "", _, nofun, rfl⟩ ?_
  intro occurrence after notTold met
  cases occurrence with
  | toldToStop =>
      exact absurd rfl notTold
  | woken freshName =>
      cases met
      exact leads _ freshName _
  | answered freshName asked answer =>
      cases met

/-- A status request leads back to a delay or to the end of the watch. -/
theorem of_checking
    {watch : Watch α}
    {deeds : List Deed}
    (leads :
      ∀ outcome freshName earlier,
        BoundToFinish policy
          ⟨earlier, ((watch.next outcome).advance freshName).reached,
            true⟩) :
    BoundToFinish policy ⟨deeds, .checking watch, true⟩ := by
  obtain ⟨answer⟩ := answerable (.service watch.call)
  refine .onward
    ⟨.answered "" (.service watch.call) answer, _, nofun,
      Option.map_eq_some_iff.mpr
        ⟨_, Activity.receive?_checking_eq_some.mpr ⟨rfl, rfl⟩, rfl⟩⟩ ?_
  intro occurrence after notTold met
  cases occurrence with
  | toldToStop =>
      exact absurd rfl notTold
  | woken freshName =>
      cases met
  | answered freshName asked answer =>
      obtain ⟨stretch, received, rfl⟩ := Option.map_eq_some_iff.mp met
      obtain ⟨rfl, rfl⟩ := Activity.receive?_checking_eq_some.mp received
      simp only [goOn, Watch.receive]
      split
      · exact leads _ freshName _
      · exact of_pausing leads

/-- A procedure that has been told to stop comes to its end. -/
theorem of_procedure
    (procedure : Procedure α)
    (freshName : String)
    (deeds : List Deed) :
    BoundToFinish policy
      ⟨deeds, (procedure.advance freshName).reached, true⟩ := by
  induction procedure generalizing freshName deeds with
  | finish result =>
      exact .finished rfl
  | publish notice next inductionHypothesis =>
      exact inductionHypothesis freshName deeds
  | nameStream next inductionHypothesis =>
      exact inductionHypothesis freshName freshName deeds
  | ask request next inductionHypothesis =>
      exact of_asking inductionHypothesis
  | watch call isTerminal report next inductionHypothesis =>
      exact of_pausing inductionHypothesis

/-- An interaction that has been told to stop comes to its end. -/
theorem of_told
    {interaction : Interaction α}
    (told : interaction.toldToStop = true) :
    interaction.BoundToFinish policy := by
  obtain ⟨deeds, activity, toldToStop⟩ := interaction
  cases told
  cases activity with
  | finished result =>
      exact .finished rfl
  | asking request next =>
      exact of_asking fun answer => of_procedure (next answer)
  | pausing watch =>
      exact of_pausing fun outcome => of_procedure (watch.next outcome)
  | checking watch =>
      exact of_checking fun outcome => of_procedure (watch.next outcome)

end BoundToFinish

end Interaction

/-- What the surroundings supply at a moment. -/
structure Moment where
  freshName : String
  now : Timestamp
deriving Repr, DecidableEq

/-- How the handling of a job begins. -/
structure Opening extends Moment where
  /-- Whether the session has been disposed of before. -/
  toldToStop : Bool
deriving Repr, DecidableEq

namespace Conversation

/-- What is done for a job. -/
def carryOut
    (conversation : Conversation)
    (now : Timestamp) :
    Job → Procedure (Except Fault Conversation)
  | .utterance text => conversation.interact text now
  | .help => do
      Procedure.say helpNotice
      return .ok (afterHelp conversation.context)

/-- What comes of a job, given what happens while it is handled. -/
def handling?
    (policy : PollPolicy)
    (conversation : Conversation)
    (job : Job)
    (opening : Opening)
    (occurrences : List Occurrence) :
    Option (Interaction (Except Fault Conversation)) :=
  (Interaction.start opening.freshName opening.toldToStop
    (conversation.carryOut opening.now job)).meetAll? policy occurrences

/-- Whatever happens while a job is handled, a course of it is taken. -/
theorem handling?_reaches
    {policy : PollPolicy}
    {conversation : Conversation}
    {job : Job}
    {opening : Opening}
    {occurrences : List Occurrence}
    {interaction : Interaction (Except Fault Conversation)}
    (handled :
      conversation.handling? policy job opening occurrences =
        some interaction) :
    (conversation.carryOut opening.now job).Reaches policy
      interaction.deeds interaction.activity :=
  Interaction.meetAll?_reaches
    (Procedure.Reaches.advance policy opening.freshName _) handled

end Conversation

end AssessmentChat
