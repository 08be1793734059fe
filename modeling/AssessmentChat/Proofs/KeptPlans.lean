import AssessmentChat.Proofs.ConversationWellFormed
import AssessmentChat.Proofs.StoredPlans

namespace AssessmentChat

/-!
# Plans that are kept

A conversation hands a plan to its store for each assessment that completes, and
a revision hands its plan over under the assessment that wrote the one before.
So a plan stays what it was as long as no revision, and no other plan of the same
name, says something else.
-/

/-! ## The plans that a conversation hands to its store -/

/-- What a deed hands to the store. -/
def Deed.storing? : Deed → Option Storing
  | .answered (.storePlan plan) answer => some ⟨plan, answer⟩
  | _ => none

/-- What is handed to the store while a job is handled. -/
def storings (deeds : List Deed) : List Storing :=
  deeds.filterMap Deed.storing?

/-- The plans that are kept while a job is handled. -/
def keptPlans (deeds : List Deed) : List KeptPlan :=
  (storings deeds).filterMap Storing.kept?

@[simp] theorem storings_nil :
    storings [] = [] :=
  rfl

/-- The plans that are stored on two ways are those stored on each. -/
@[simp] theorem storings_append
    (earlier later : List Deed) :
    storings (earlier ++ later) = storings earlier ++ storings later :=
  List.filterMap_append

@[simp] theorem storings_cons_said
    (notice : Notice)
    (rest : List Deed) :
    storings (.said notice :: rest) = storings rest :=
  rfl

@[simp] theorem storings_map_said
    (notices : List Notice) :
    storings (notices.map .said) = [] := by
  induction notices with
  | nil =>
      rfl
  | cons notice rest inductionHypothesis =>
      exact inductionHypothesis

/-- An operation of the service stores no plan. -/
@[simp] theorem storings_call
    (call : ServiceCall)
    (answer : Except Fault call.Reply) :
    storings (call.exchange answer) = [] :=
  rfl

@[simp] theorem storings_workspaceIsEmpty
    (isEmpty : Bool) :
    storings (Request.exchange .workspaceIsEmpty isEmpty) = [] :=
  rfl

/-- A request to store a plan is a storing, however it is answered. -/
@[simp] theorem storings_storePlan
    (plan : PlanArtifact)
    (answer : Except Fault ArtifactLocator) :
    storings (Request.exchange (.storePlan plan) answer) =
      [⟨plan, answer⟩] :=
  rfl

/-- No plan is stored while a job is watched. -/
theorem WatchGoesOn.storings_eq_nil
    {policy : PollPolicy}
    {call : ServiceCall}
    {isTerminal : call.Reply → Bool}
    {report : call.Reply → List Notice}
    {deeds : List Deed}
    {failures : Nat}
    (goesOn :
      WatchGoesOn policy call isTerminal report deeds failures) :
    storings deeds = [] := by
  induction goesOn with
  | begun =>
      rfl
  | progressed _ _ inductionHypothesis =>
      simp [inductionHypothesis]
  | failed fault _ _ inductionHypothesis =>
      simp [inductionHypothesis]

namespace Conversation

variable
  {policy : PollPolicy}
  {utterance streamId : String}
  {now : Timestamp}
  {deeds : List Deed}
  {context : Context}
  {engagementId : EngagementId}
  {assessmentId : AssessmentId}
  {next : Conversation}

/--
What an utterance keeps.  Who comes to discuss a plan has just been given it or
was discussing it before, and a revision keeps its plan under the assessment that
the conversation was about.
-/
inductive Keeping
    (before : Conversation) : List KeptPlan → Conversation → Prop where
  | nothing
      {next : Conversation} :
      (next.phase = .discussingPlan ∨ next.phase = .awaitingRevision →
        before.phase = .discussingPlan ∧
          next.context.assessmentId = before.context.assessmentId) →
      Keeping before [] next
  | kept
      {context : Context}
      (plan : PlanArtifact)
      (locator : ArtifactLocator) :
      context.assessmentId = some plan.assessmentId →
      (before.phase = .awaitingRevision →
        before.context.assessmentId = some plan.assessmentId) →
      Keeping before [⟨plan, locator⟩] ⟨.discussingPlan, context⟩

/-- Elsewhere than in a discussion nothing has to have been kept. -/
theorem Keeping.elsewhere
    {before : Conversation}
    (notDiscussing : next.phase ≠ .discussingPlan)
    (notRevising : next.phase ≠ .awaitingRevision) :
    Keeping before [] next := by
  refine .nothing ?_
  rintro (discussing | revising)
  · exact absurd discussing notDiscussing
  · exact absurd revising notRevising

/-- A plan ends with the named assessment kept, or with nothing kept. -/
theorem PlanEnding.keeping
    (ending :
      PlanEnding policy context streamId engagementId assessmentId
        deeds next)
    (before : Conversation)
    (named : context.assessmentId = some assessmentId)
    (revises :
      before.phase = .awaitingRevision →
      before.context.assessmentId = some assessmentId) :
    Keeping before (keptPlans deeds) next := by
  cases ending with
  | exhausted fault goesOn =>
      have watched := goesOn.storings_eq_nil
      simpa [keptPlans, watched] using .elsewhere (by simp) (by simp)
  | stopped answer goesOn =>
      have watched := goesOn.storings_eq_nil
      simpa [keptPlans, watched] using .elsewhere (by simp) (by simp)
  | notCompleted goesOn =>
      have watched := goesOn.storings_eq_nil
      simpa [keptPlans, watched] using .elsewhere (by simp) (by simp)
  | completed goesOn _ delivery =>
      have watched := goesOn.storings_eq_nil
      cases delivery with
      | notDownloaded fault =>
          simpa [keptPlans, watched] using .elsewhere (by simp) (by simp)
      | notStored content fault =>
          simpa [keptPlans, watched, Storing.kept?, Except.toOption] using
            .elsewhere (by simp) (by simp)
      | delivered content locator =>
          simpa [keptPlans, watched, Storing.kept?, Except.toOption] using
            .kept ⟨context.sessionId, assessmentId, content⟩ locator named
              revises

/-- No plan is stored while an assessment is started. -/
theorem AssessmentStart.storings_eq_nil
    {outcome : Except Fault Context}
    (start : AssessmentStart utterance context deeds outcome) :
    storings deeds = [] := by
  have ensured {ensuring : List Deed}
      {outcome : Except Fault EngagementId}
      (ensured : EngagementEnsured context ensuring outcome) :
      storings ensuring = [] := by
    cases ensured <;> rfl
  cases start with
  | noEngagement ensuring =>
      exact ensured ensuring
  | notUploaded fault ensuring =>
      simp [ensured ensuring]
  | notStarted fault ensuring =>
      simp [ensured ensuring]
  | started started ensuring =>
      simp [ensured ensuring]

theorem assessmentId_of_remoteIds
    (ids : remoteIds context = .ok (engagementId, assessmentId)) :
    context.assessmentId = some assessmentId := by
  unfold remoteIds at ids
  split at ids
  next named =>
    cases ids
    exact named
  next =>
    cases ids

/-- A plan that is created is kept under the assessment that was started. -/
theorem PlanCreation.keeping
    (created : PlanCreation policy utterance context deeds next) :
    Keeping ⟨.awaitingRequirements, context⟩ (keptPlans deeds) next := by
  cases created with
  | emptyWorkspace =>
      exact .elsewhere (by simp) (by simp)
  | notStarted streamId start =>
      have started := start.storings_eq_nil
      simpa [keptPlans, planAnnouncement, started] using
        .elsewhere (by simp) (by simp)
  | started streamId start ids ending =>
      have started := start.storings_eq_nil
      have named := assessmentId_of_remoteIds ids
      simpa [keptPlans, planAnnouncement, started] using
        ending.keeping ⟨.awaitingRequirements, context⟩ named (by simp)

/-- A plan that is revised is kept under the assessment that it had. -/
theorem PlanRevision.keeping
    (revised : PlanRevision policy utterance context deeds next) :
    Keeping ⟨.awaitingRevision, context⟩ (keptPlans deeds) next := by
  cases revised with
  | nothingToRevise =>
      exact .elsewhere (by simp) (by simp)
  | notUpdated =>
      simpa [keptPlans, revisionAnnouncement] using
        .elsewhere (by simp) (by simp)
  | updated streamId status ids ending =>
      have named := assessmentId_of_remoteIds ids
      simpa [keptPlans, revisionAnnouncement] using
        ending.keeping ⟨.awaitingRevision, context⟩ named
          (fun _ => named)

/-- A discussion keeps no plan but a revised one. -/
theorem Discussion.keeping
    (discussed : Discussion policy utterance context deeds next) :
    Keeping ⟨.discussingPlan, context⟩ (keptPlans deeds) next := by
  cases discussed with
  | nothingToDiscuss | notUnderstood | notTakenUp | newAnalysis =>
      exact .elsewhere (by simp) (by simp)
  | revision | unclear =>
      exact .nothing fun _ => ⟨rfl, rfl⟩
  | takenUp streamId started _ ending =>
      cases ending with
      | exhausted fault goesOn =>
          have watched := goesOn.storings_eq_nil
          simpa [keptPlans, watched] using .elsewhere (by simp) (by simp)
      | stopped goesOn =>
          have watched := goesOn.storings_eq_nil
          simpa [keptPlans, watched] using .nothing fun _ => ⟨rfl, rfl⟩
      | answered goesOn =>
          have watched := goesOn.storings_eq_nil
          simpa [keptPlans, watched] using .nothing fun _ => ⟨rfl, rfl⟩

/-- Whatever an utterance does, the plans that it keeps are those of its conversation. -/
theorem Handling.keeping
    {conversation : Conversation}
    (handling :
      Handling policy utterance now conversation deeds (.ok next)) :
    Keeping conversation (keptPlans deeds) next := by
  cases handling with
  | goalTaken | apologised =>
      exact .elsewhere (by simp) (by simp)
  | planCreated created =>
      exact created.keeping
  | planRevised revised =>
      exact revised.keeping
  | discussed discussed =>
      exact discussed.keeping

end Conversation

/-! ## Turns and runs -/

/-- What an occurrence answers to a request to store a plan. -/
def Occurrence.storing? : Occurrence → Option Storing
  | .answered _ (.storePlan plan) answer => some ⟨plan, answer⟩
  | _ => none

/-- A stretch of an interaction stores no plan by itself. -/
theorem Stretch.storings_eq_nil
    (stretch : Stretch α) :
    storings stretch.deeds = [] := by
  cases inFlight : stretch.reached.inFlight? with
  | none =>
      simp [Stretch.deeds, inFlight]
  | some request =>
      simp [Stretch.deeds, inFlight, storings, Deed.storing?]

/-- An interaction that goes on has stored what was answered in between. -/
theorem Interaction.storings_goOn
    (interaction : Interaction α)
    (answered : List Deed)
    (stretch : Stretch α) :
    storings (interaction.goOn answered stretch).deeds =
      storings interaction.deeds ++ storings answered := by
  simp [goOn, stretch.storings_eq_nil]

/-- One occurrence hands to the store what it answers, and nothing else does. -/
theorem Interaction.meet?_storings
    {policy : PollPolicy}
    {interaction next : Interaction α}
    {occurrence : Occurrence}
    (met : interaction.meet? policy occurrence = some next) :
    storings next.deeds =
      storings interaction.deeds ++ occurrence.storing?.toList := by
  cases occurrence with
  | toldToStop =>
      cases met
      exact (List.append_nil _).symm
  | woken freshName =>
      obtain ⟨stretch, -, rfl⟩ := Option.map_eq_some_iff.mp met
      exact storings_goOn interaction [] stretch
  | answered freshName request answer =>
      obtain ⟨stretch, -, rfl⟩ := Option.map_eq_some_iff.mp met
      rw [storings_goOn]
      cases request <;> rfl

/-- The plans that an interaction stores are those among its occurrences. -/
theorem Interaction.meetAll?_storings
    {policy : PollPolicy}
    {interaction next : Interaction α}
    {occurrences : List Occurrence}
    (met : interaction.meetAll? policy occurrences = some next) :
    storings next.deeds =
      storings interaction.deeds ++
        occurrences.filterMap Occurrence.storing? := by
  induction occurrences generalizing interaction with
  | nil =>
      cases met
      simp
  | cons occurrence rest inductionHypothesis =>
      obtain ⟨middle, met, restMet⟩ := Option.bind_eq_some_iff.mp met
      rw [inductionHypothesis restMet, meet?_storings met,
        List.append_assoc, List.filterMap_cons]
      cases occurrence.storing? <;> rfl

/-- What the store answers while a turn is under way. -/
def Turn.storings (turn : Turn) : List Storing :=
  turn.occurrences.filterMap Occurrence.storing?

/-- A turn has stored the plans that its interaction did. -/
theorem Turn.Holds.storings_eq
    {policy : PollPolicy}
    {earlier : List Move}
    {turn : Turn}
    (holds : turn.Holds policy earlier) :
    AssessmentChat.storings turn.interaction.deeds = turn.storings := by
  have met := Interaction.meetAll?_storings holds.handled
  rwa [Interaction.start, Stretch.storings_eq_nil, List.nil_append] at met

/-- What is done in turns one after another. -/
def deedsOf (turns : List Turn) : List Deed :=
  turns.flatMap fun turn => turn.interaction.deeds

/-- A chronicle has stored the plans of its turns, in order. -/
theorem Chronicle.storings_eq
    {policy : PollPolicy}
    {first last : Conversation}
    {moves : List Move}
    {turns : List Turn}
    (chronicle : Chronicle policy first moves turns last) :
    storings (deedsOf turns) = turns.flatMap Turn.storings := by
  induction chronicle with
  | opened =>
      rfl
  | turned _ holds _ inductionHypothesis =>
      simpa [deedsOf, holds.storings_eq] using inductionHypothesis

/-- The plans that are kept on two ways are those kept on each. -/
theorem keptPlans_append
    (earlier later : List Deed) :
    keptPlans (earlier ++ later) =
      keptPlans earlier ++ keptPlans later := by
  simp [keptPlans]

/-- A turn that has ended keeps the plans of its conversation. -/
theorem Turn.Holds.keeping
    {policy : PollPolicy}
    {earlier : List Move}
    {turn : Turn}
    (holds : turn.Holds policy earlier)
    (ended : turn.outcome?.isSome = true) :
    turn.before.Keeping (keptPlans turn.interaction.deeds) turn.after := by
  obtain ⟨outcome, outcome?⟩ := Option.isSome_iff_exists.mp ended
  have yields := holds.yields outcome?
  rw [after, outcome?]
  cases job : turn.queued.job with
  | help =>
      rw [job] at yields
      obtain ⟨deeds, rfl⟩ := Conversation.carryOut_help_yields yields
      rw [deeds]
      exact .elsewhere (by rintro ⟨⟩) (by rintro ⟨⟩)
  | utterance text =>
      rw [job] at yields
      have handling := Conversation.interact_yields yields
      cases outcome with
      | ok next =>
          exact handling.keeping
      | error fault =>
          generalize turn.before = before at handling
          generalize turn.interaction.deeds = deeds at handling
          cases handling with
          | refused context =>
              exact .elsewhere (by rintro ⟨⟩) (by rintro ⟨⟩)

/-- Whoever discusses a plan, or revises it, is about the plan that was kept last. -/
theorem Chronicle.discusses_lastKept
    {policy : PollPolicy}
    {sessionId : String}
    {now : Timestamp}
    {moves : List Move}
    {turns : List Turn}
    {last : Conversation}
    (chronicle :
      Chronicle policy (.start sessionId now) moves turns last)
    (discusses :
      last.phase = .discussingPlan ∨ last.phase = .awaitingRevision) :
    ∃ former,
      (keptPlans (deedsOf turns)).getLast? = some former ∧
        last.context.assessmentId = some former.plan.assessmentId := by
  induction chronicle with
  | opened =>
      simp [Conversation.start] at discusses
  | @turned earlier turns turn _ holds ended inductionHypothesis =>
      have keeping := holds.keeping ended
      have deeds :
          deedsOf (turns ++ [turn]) =
            deedsOf turns ++ turn.interaction.deeds := by
        simp [deedsOf]
      rw [deeds, keptPlans_append]
      generalize keptPlans turn.interaction.deeds = kept at keeping
      generalize turn.after = next at keeping discusses
      cases keeping with
      | nothing stays =>
          obtain ⟨before, same⟩ := stays discusses
          obtain ⟨former, formerLast, about⟩ :=
            inductionHypothesis (.inl before)
          exact ⟨former, by simpa using formerLast, same.trans about⟩
      | kept plan locator about =>
          exact ⟨⟨plan, locator⟩, by simp, about⟩

/-- A revision keeps its plan under the assessment of the plan before it. -/
theorem Chronicle.revises_lastKept
    {policy : PollPolicy}
    {sessionId : String}
    {now : Timestamp}
    {moves : List Move}
    {before after : List Turn}
    {turn : Turn}
    {last : Conversation}
    {revised : KeptPlan}
    (chronicle :
      Chronicle policy (.start sessionId now) moves
        (before ++ turn :: after) last)
    (revising : turn.before.phase = .awaitingRevision)
    (member : revised ∈ keptPlans turn.interaction.deeds) :
    ∃ former,
      (keptPlans (deedsOf before)).getLast? = some former ∧
        former.plan.assessmentId = revised.plan.assessmentId := by
  obtain ⟨earlier, chronicle, holds, ended⟩ := chronicle.split
  obtain ⟨former, formerLast, about⟩ :=
    chronicle.discusses_lastKept (.inr revising)
  refine ⟨former, formerLast, ?_⟩
  have keeping := holds.keeping ended
  generalize keptPlans turn.interaction.deeds = kept at keeping member
  generalize turn.after = next at keeping
  cases keeping with
  | nothing =>
      cases member
  | kept plan locator _ revises =>
      cases List.mem_singleton.mp member
      exact Option.some.inj (about.symm.trans (revises revising))

/--
A plan that was delivered stays what it was exactly as long as the plan that was
kept last at its locator says the same.  A revision is always kept at the locator
of the plan that was delivered before it, so it replaces that plan unless the two
are equal.
-/
theorem delivered_plan_kept_iff
    {policy : PollPolicy}
    {sessionId : String}
    {now : Timestamp}
    {moves : List Move}
    {turns : List Turn}
    {last : Conversation}
    {store : PlanStore}
    {disk final : Disk}
    (chronicle :
      Chronicle policy (.start sessionId now) moves turns last)
    (opens : store.OpensEmpty disk)
    (serves : store.Serves disk (storings (deedsOf turns)) final) :
    (∀ earlier delivered later,
      keptPlans (deedsOf turns) = earlier ++ delivered :: later →
      (final.readFile delivered.locator.location =
          .ok delivered.plan.content.toUTF8 ↔
        ∀ newer,
          lastKeptAt delivered.locator later = some newer →
          newer.plan.content = delivered.plan.content)) ∧
      ∀ before turn after revised,
        turns = before ++ turn :: after →
        turn.before.phase = .awaitingRevision →
        revised ∈ keptPlans turn.interaction.deeds →
        ∃ former,
          (keptPlans (deedsOf before)).getLast? = some former ∧
            former.locator = revised.locator := by
  constructor
  · intro earlier delivered later shape
    rw [serves.readFile_eq opens shape]
    cases newest : lastKeptAt delivered.locator later with
    | none =>
        simp
    | some newer =>
        simp [String.toByteArray_inj]
  · intro before turn after revised shape revising member
    subst shape
    obtain ⟨former, formerLast, sameAssessment⟩ :=
      chronicle.revises_lastKept revising member
    have everything :
        keptPlans (deedsOf (before ++ turn :: after)) =
          keptPlans (deedsOf before) ++
            (keptPlans turn.interaction.deeds ++
              keptPlans (deedsOf after)) := by
      simp [deedsOf, keptPlans_append]
    have located (kept : KeptPlan)
        (either :
          kept ∈ keptPlans (deedsOf before) ∨
            kept ∈ keptPlans turn.interaction.deeds) :
        kept.locator = ⟨store.path kept.plan⟩ := by
      refine serves.located opens ?_
      show kept ∈ keptPlans (deedsOf (before ++ turn :: after))
      rw [everything]
      rcases either with formerly | now
      · exact List.mem_append_left _ formerly
      · exact List.mem_append_right _ (List.mem_append_left _ now)
    refine ⟨former, formerLast, ?_⟩
    rw [located former (.inl (List.mem_of_getLast? formerLast)),
      located revised (.inr member)]
    simp [PlanStore.path, PlanArtifact.fileName, sameAssessment]

/-! ## A plan and its revision -/

/-- The folder for plans can be made on the empty disk. -/
theorem plansStore_opensEmpty :
    plansStore.OpensEmpty emptyPlansDisk :=
  .of_holdsNothing plansStore_worksOn.holds plansStore_worksOn.short
    (by decide)

/-- A plan of the assessment `A1`, and the store taking it. -/
def plansStoring (content : String) : Storing :=
  let plan : PlanArtifact := ⟨"S1", "A1", content⟩
  ⟨plan, .ok ⟨plansStore.path plan⟩⟩

/-- The store serves two plans, one after the other. -/
theorem plansStore_serves
    (first second : String) :
    ∃ final,
      plansStore.Serves emptyPlansDisk
        [plansStoring first, plansStoring second] final := by
  have fits (content : String) :
      Disk.Fits plansStore.folder
        (PlanArtifact.storedName ⟨"S1", "A1", content⟩) :=
    ⟨show (Path.join "plans" (withoutSeparators "RA_PLAN_A1.md")).utf8ByteSize
      < Disk.pathLimit by decide,
      show (withoutSeparators "RA_PLAN_A1.md").utf8ByteSize
        ≤ Disk.nameLimit by decide⟩
  have works := plansStore_worksOn
  have worksAfter :=
    works.put (PlanArtifact.storedName ⟨"S1", "A1", first⟩) first.toUTF8
  have firstKept := works.keep_of_fits (fits first)
  have secondKept := worksAfter.keep_of_fits (fits second)
  exact ⟨_, .keeps firstKept (.keeps secondKept (.done _))⟩

/-- A conversation in which a plan is written and then revised. -/
theorem plan_then_revision :
    ∃ moves turns turn last,
      Chronicle ⟨0, 3⟩ (.start "S1" ⟨0, 0⟩) moves (turns ++ [turn]) last ∧
      turn.before.phase = .awaitingRevision ∧
      storings (deedsOf (turns ++ [turn])) =
        [plansStoring "# First", plansStoring "# Second"] ∧
      storings (deedsOf turns) = [plansStoring "# First"] := by
  let moment : Moment := ⟨"M1", ⟨0, 0⟩⟩
  let clarified : Context :=
    (Context.start "S1" ⟨0, 0⟩).withGoal (trim "goal")
  let stored (content : String) : List Move :=
    [.elapse moment,
      .receive moment (.service (.assessmentStatus "E1" "A1"))
        (.ok ⟨.completed, ""⟩),
      .receive moment (.service (.downloadPlan "E1" "A1")) (.ok content),
      .receive moment (.storePlan (plansStoring content).plan)
        (plansStoring content).answer]
  have start :
      Chronicle ⟨0, 3⟩ (.start "S1" ⟨0, 0⟩) [] [] (.start "S1" ⟨0, 0⟩) :=
    .opened
  have goalTaken :=
    start.handle ⟨0, .utterance "goal"⟩ moment [] rfl (by simp) rfl
  have planned :=
    goalTaken.handle ⟨1, .utterance "go"⟩ moment
      ([.receive moment .workspaceIsEmpty false,
        .receive moment (.service .createEngagement) (.ok ⟨"E1"⟩),
        .receive moment (.service (.uploadWorkspace "E1")) (.ok ()),
        .receive moment
          (.service (.startAssessment "E1" (clarified.assessmentInput "go")))
          (.ok ⟨"A1", .inProgress⟩)] ++ stored "# First")
      rfl (by simp [Turn.moves]) rfl
  have wished :=
    planned.handle ⟨2, .utterance "revise"⟩ moment
      [.receive moment (.service (.deriveIntent "E1" (trim "revise")))
        (.ok .revision)]
      rfl (by simp [Turn.moves, stored]) rfl
  have revised :=
    wished.handle ⟨3, .utterance "changes"⟩ moment
      (.receive moment
          (.service (.updateAssessment "E1" "A1" (trim "changes")))
          (.ok .inProgress) :: stored "# Second")
      rfl (by simp [Turn.moves, stored]) rfl
  refine ⟨_, _, _, _, revised, rfl, ?_, ?_⟩
  · rw [revised.storings_eq]
    rfl
  · rw [wished.storings_eq]
    rfl

/-- A revision is kept as it was delivered, where the plan before it was kept. -/
theorem delivered_plan_kept_by_revision :
    ∃ moves turns turn last final,
      Chronicle ⟨0, 3⟩ (.start "S1" ⟨0, 0⟩) moves (turns ++ [turn]) last ∧
      turn.before.phase = .awaitingRevision ∧
      plansStore.OpensEmpty emptyPlansDisk ∧
      plansStore.Serves emptyPlansDisk
        (storings (deedsOf (turns ++ [turn]))) final ∧
      final.readFile (plansStore.path ⟨"S1", "A1", "# Second"⟩) =
        .ok "# Second".toUTF8 := by
  obtain ⟨moves, turns, turn, last, chronicle, revising, stored, -⟩ :=
    plan_then_revision
  obtain ⟨final, serves⟩ := plansStore_serves "# First" "# Second"
  rw [← stored] at serves
  have kept :=
    (delivered_plan_kept_iff chronicle plansStore_opensEmpty serves).1
      [⟨⟨"S1", "A1", "# First"⟩, ⟨plansStore.path ⟨"S1", "A1", "# First"⟩⟩⟩]
      ⟨⟨"S1", "A1", "# Second"⟩,
        ⟨plansStore.path ⟨"S1", "A1", "# Second"⟩⟩⟩
      [] (by rw [keptPlans, stored]; rfl)
  exact ⟨moves, turns, turn, last, final, chronicle, revising,
    plansStore_opensEmpty, serves, kept.mpr nofun⟩

/--
A delivered plan is not always kept: a revision that says something else takes
its place.
-/
theorem delivered_plan_not_always_kept :
    ∃ moves turns turn last final delivered,
      Chronicle ⟨0, 3⟩ (.start "S1" ⟨0, 0⟩) moves (turns ++ [turn]) last ∧
      plansStore.OpensEmpty emptyPlansDisk ∧
      plansStore.Serves emptyPlansDisk
        (storings (deedsOf (turns ++ [turn]))) final ∧
      delivered ∈ keptPlans (deedsOf turns) ∧
      turn.before.phase = .awaitingRevision ∧
      final.readFile delivered.locator.location ≠
        .ok delivered.plan.content.toUTF8 := by
  obtain ⟨moves, turns, turn, last, chronicle, revising, stored,
      storedBefore⟩ := plan_then_revision
  obtain ⟨final, serves⟩ := plansStore_serves "# First" "# Second"
  let first : KeptPlan :=
    ⟨⟨"S1", "A1", "# First"⟩, ⟨plansStore.path ⟨"S1", "A1", "# First"⟩⟩⟩
  let second : KeptPlan :=
    ⟨⟨"S1", "A1", "# Second"⟩, ⟨plansStore.path ⟨"S1", "A1", "# Second"⟩⟩⟩
  have shape :
      [plansStoring "# First", plansStoring "# Second"].filterMap
          Storing.kept? =
        [] ++ first :: [second] :=
    rfl
  have read := serves.readFile_eq plansStore_opensEmpty shape
  rw [← stored] at serves
  refine ⟨moves, turns, turn, last, final, first, chronicle,
    plansStore_opensEmpty, serves, ?_, revising, ?_⟩
  · rw [keptPlans, storedBefore]
    exact List.mem_singleton_self first
  · rw [read]
    have sameLocator : second.locator = first.locator := rfl
    have newest : lastKeptAt first.locator [second] = some second := by
      simp [lastKeptAt, sameLocator]
    simp [newest, first, second, String.toByteArray_inj]

end AssessmentChat
