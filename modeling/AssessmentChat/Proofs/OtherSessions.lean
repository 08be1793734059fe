import AssessmentChat.Proofs.OpenSessions

namespace AssessmentChat

/-!
# What is left of the other sessions

Every command but one is addressed to a tab.  It opens at most the session of the tab
and gives signals to no other.  A session that goes on changes nothing but itself.
What is shown is shown under the name of the tab.
-/

/-- The tab to which a command is addressed. -/
def Command.addressee? : Command → Option String
  | .chatMessage sessionId _ => some sessionId
  | .stopResponse sessionId => some sessionId
  | .tabClosed sessionId => some sessionId
  | .authChanged .. => none
  | .followUpClicked sessionId _ => some sessionId
  | .help sessionId => some sessionId
  | .downloadPlan sessionId _ => some sessionId
  | .signInClicked sessionId _ => some sessionId

/-! ## Tabs -/

namespace Registry

/-- A tab is inserted between two others. -/
theorem insertTab_eq
    (sessionId : String)
    (opened : Nat)
    (tabs : List (String × Nat)) :
    ∃ former later,
      tabs = former ++ later ∧
        insertTab sessionId opened tabs =
          former ++ (sessionId, opened) :: later := by
  induction tabs with
  | nil =>
      exact ⟨[], [], rfl, rfl⟩
  | cons first rest inductionHypothesis =>
      obtain ⟨other, otherNumber⟩ := first
      rw [insertTab]
      split
      · exact ⟨[], _, rfl, rfl⟩
      · obtain ⟨former, later, rfl, inserted⟩ := inductionHypothesis
        exact ⟨(other, otherNumber) :: former, later, rfl, by
          rw [inserted, List.cons_append]⟩

/-- A tab that is opened leaves the others as they are. -/
theorem lookup_insertTab_of_ne
    {sessionId tab : String}
    (elsewhere : tab ≠ sessionId)
    (opened : Nat)
    (tabs : List (String × Nat)) :
    (insertTab sessionId opened tabs).lookup tab = tabs.lookup tab := by
  obtain ⟨former, later, rfl, inserted⟩ := insertTab_eq sessionId opened tabs
  have skipped : (tab == sessionId) = false := by
    simpa using elsewhere
  rw [inserted, List.lookup_append, List.lookup_append, List.lookup_cons,
    skipped]

/-- A tab that is closed is gone, and the others are left. -/
theorem find?_remove
    (sessionId tab : String)
    (registry : Registry) :
    (registry.remove sessionId).find? tab =
      if tab = sessionId then none else registry.find? tab := by
  simp only [find?, remove]
  induction registry.tabs with
  | nil =>
      simp
  | cons first rest inductionHypothesis =>
      obtain ⟨other, number⟩ := first
      by_cases closed : other = sessionId
      · simp only [closed, bne_self_eq_false, Bool.false_eq_true,
          not_false_eq_true, List.filter_cons_of_neg, inductionHypothesis,
          List.lookup_cons]
        split
        · rfl
        next elsewhere =>
          have skipped : (tab == sessionId) = false := by
            simpa using elsewhere
          rw [skipped]
      · have kept : (other != sessionId) = true := by
          simpa using closed
        simp only [kept, List.filter_cons_of_pos, List.lookup_cons,
          inductionHypothesis]
        cases same : tab == other with
        | true =>
            have here : tab = other := by
              simpa using same
            simp [here, closed]
        | false =>
            rfl

end Registry

/-- Whether a session was opened for a tab. -/
def Session.isOf (sessionId : String) (session : Session) : Bool :=
  session.sessionId = sessionId

/-- Whether an output shows nothing under the name of another tab. -/
def Output.isOf (sessionId : String) : Output → Bool
  | .published event => event.sessionId = sessionId
  | .called _ => true
  | .resolved .. => true

/-! ## What stays as it is -/

/-- At most elements of a kind are added to a list or changed in it. -/
def KeepsAllBut (kind : α → Bool) (list after : List α) : Prop :=
  ∀ position : Nat,
    after[position]? = list[position]? ∨
      (list[position]?.all kind = true ∧ after[position]?.any kind = true)

namespace KeepsAllBut

variable
  {kind : α → Bool}
  {list between after : List α}
  {number : Nat}
  {element : α}

/-- A list keeps all of itself. -/
theorem refl
    (kind : α → Bool)
    (list : List α) :
    KeepsAllBut kind list list :=
  fun _ => .inl rfl

/-- What keeps all but some elements twice keeps them after all. -/
theorem trans
    (first : KeepsAllBut kind list between)
    (second : KeepsAllBut kind between after) :
    KeepsAllBut kind list after := by
  intro position
  rcases second position with same | ⟨betweenIsOf, afterIsOf⟩
  · rw [same]
    exact first position
  · rcases first position with same | ⟨isOf, -⟩
    · rw [same] at betweenIsOf
      exact .inr ⟨betweenIsOf, afterIsOf⟩
    · exact .inr ⟨isOf, afterIsOf⟩

/-- An element that is added at the end leaves the others. -/
theorem append
    (list : List α)
    (isOf : kind element = true) :
    KeepsAllBut kind list (list ++ [element]) := by
  intro position
  rcases Nat.lt_trichotomy position list.length with inside | last | outside
  · exact .inl (List.getElem?_append_left inside)
  · right
    rw [last, List.getElem?_concat_length,
      List.getElem?_eq_none (Nat.le_refl _)]
    exact ⟨rfl, isOf⟩
  · left
    rw [List.getElem?_eq_none (by simp; omega),
      List.getElem?_eq_none (Nat.le_of_lt outside)]

/-- A change of one element leaves the others. -/
theorem modify
    (found : list[number]? = some element)
    (isOf : kind element = true)
    {change : α → α}
    (stillIsOf : kind (change element) = true) :
    KeepsAllBut kind list (list.modify number change) := by
  intro position
  rw [List.getElem?_modify]
  split
  next here =>
    rw [← here, found]
    exact .inr ⟨isOf, stillIsOf⟩
  next =>
    left
    simp

/-- A replacement of one element leaves the others. -/
theorem set
    (found : list[number]? = some element)
    (isOf : kind element = true)
    {replacement : α}
    (stillIsOf : kind replacement = true) :
    KeepsAllBut kind list (list.set number replacement) := by
  have : Inhabited α := ⟨element⟩
  have replaced :=
    @KeepsAllBut.modify _ kind list _ _ found isOf (fun _ => replacement)
      stillIsOf
  rwa [List.modify_eq_set] at replaced

/-- An element of another kind is the same afterwards. -/
theorem getElem?_eq
    (keeps : KeepsAllBut kind list after)
    (found : list[number]? = some element)
    (elsewhere : kind element = false) :
    after[number]? = some element := by
  rcases keeps number with same | ⟨isOf, -⟩
  · exact same.trans found
  · simp [found, elsewhere] at isOf

end KeepsAllBut

/-- At most sessions of one tab are opened or changed. -/
structure Chat.KeepsOthers
    (sessionId : String)
    (chat after : Chat) : Prop where
  tabs :
    ∀ tab,
      tab ≠ sessionId →
      after.registry.find? tab = chat.registry.find? tab
  sessions :
    KeepsAllBut (Session.isOf sessionId) chat.registry.sessions
      after.registry.sessions

namespace Chat

variable
  {sessionId : String}
  {chat : Chat}
  {number : Nat}
  {session : Session}

namespace KeepsOthers

variable
  {between after : Chat}

theorem refl
    (sessionId : String)
    (chat : Chat) :
    chat.KeepsOthers sessionId chat :=
  ⟨fun _ _ => rfl, .refl _ _⟩

theorem trans
    (first : chat.KeepsOthers sessionId between)
    (second : between.KeepsOthers sessionId after) :
    chat.KeepsOthers sessionId after :=
  ⟨fun tab elsewhere =>
      (second.tabs tab elsewhere).trans (first.tabs tab elsewhere),
    first.sessions.trans second.sessions⟩

/-- A session that is changed stays one of its tab. -/
theorem update
    (found : chat.registry.session? number = some session)
    (named : session.sessionId = sessionId)
    {change : Session → Session}
    (sameName : (change session).sessionId = session.sessionId) :
    chat.KeepsOthers sessionId (chat.update number change) :=
  ⟨fun _ _ => rfl,
    .modify found (by simp [Session.isOf, named])
      (by simp [Session.isOf, sameName, named])⟩

/-- A session that is added leaves those of other tabs. -/
theorem add
    (chat : Chat)
    (session : Session) :
    chat.KeepsOthers session.sessionId
      { chat with registry := chat.registry.add session } :=
  ⟨fun _ elsewhere => Registry.lookup_insertTab_of_ne elsewhere _ _,
    .append chat.registry.sessions (by simp [Session.isOf])⟩

/-- A tab that is opened leaves the sessions of other tabs. -/
theorem getOrCreate
    (chat : Chat)
    (sessionId : String)
    (now : Timestamp) :
    chat.KeepsOthers sessionId (chat.getOrCreate sessionId now).2 := by
  obtain ⟨number, -, opened⟩ | ⟨-, opened⟩ :=
    chat.getOrCreate_cases sessionId now
  · rw [opened]
    exact .refl sessionId chat
  · rw [opened]
    exact .add chat (.fresh sessionId now)

/-- A tab that is closed leaves the sessions of other tabs. -/
theorem remove
    (chat : Chat)
    (sessionId : String) :
    chat.KeepsOthers sessionId
      { chat with registry := chat.registry.remove sessionId } := by
  refine ⟨fun tab elsewhere => ?_, .refl _ _⟩
  exact (Registry.find?_remove sessionId tab chat.registry).trans
    (if_neg elsewhere)

/-- A job that is put in line leaves the sessions of other tabs. -/
theorem enqueue
    (found : chat.registry.session? number = some session)
    (named : session.sessionId = sessionId)
    (job : Job) :
    chat.KeepsOthers sessionId (chat.enqueue number job).1 := by
  have queued :
      chat.KeepsOthers sessionId
        (chat.update number fun _ =>
          (session.enqueue ⟨chat.nextHandle, job⟩).1) :=
    .update found named (session.heed_sessionId (.enqueue _))
  simp only [Chat.enqueue, found]
  exact ⟨queued.tabs, queued.sessions⟩

end KeepsOthers

/-! ## Commands -/

/-- What a job that is put in line brings about is of its own tab. -/
theorem enqueue_outputs_isOf
    (sessionId : String)
    (chat : Chat)
    (number : Nat)
    (job : Job) :
    ∀ output ∈ (chat.enqueue number job).2,
      output.isOf sessionId = true := by
  unfold enqueue
  split
  next session _ =>
    dsimp only
    unfold Session.enqueue
    split <;> simp [Output.isOf]
  next =>
    simp

/-- What a command to a tab does, and what it shows, is for the tab alone. -/
structure Serves
    (sessionId : String)
    (chat : Chat)
    (handled : Handled) : Prop where
  keepsOthers : chat.KeepsOthers sessionId handled.chat
  outputs : ∀ output ∈ handled.outputs, output.isOf sessionId = true

/-- A command that leaves everything as it is serves any tab. -/
theorem Serves.unchanged
    (sessionId : String)
    (chat : Chat)
    (outcome : Except Fault (Option Nat)) :
    chat.Serves sessionId (chat.unchanged outcome) :=
  ⟨.refl sessionId chat, by simp [Chat.unchanged]⟩

/-- A message serves its own tab. -/
theorem Serves.chatMessage
    {policy : PollPolicy}
    {acts : List Act}
    (known : Known policy acts chat)
    (sessionId message : String)
    (credential : CredentialState)
    (now : Timestamp) :
    chat.Serves sessionId
      (chat.chatMessage sessionId message credential now) := by
  have opened := KeepsOthers.getOrCreate chat sessionId now
  obtain ⟨session, found, named, -⟩ := known.looked_up sessionId now
  have gated (authenticated : Bool) :=
    opened.trans
      (@KeepsOthers.update _ _ _ _ found named
        (Session.authChanged authenticated) rfl)
  unfold Chat.chatMessage
  dsimp only
  split
  · exact .unchanged sessionId chat _
  · split
    · exact ⟨gated false, by simp [Output.isOf]⟩
    · split
      · have foundStill :
            ((chat.getOrCreate sessionId now).2.update
                (chat.getOrCreate sessionId now).1
                (Session.authChanged true)).registry.session?
                (chat.getOrCreate sessionId now).1 =
              some (session.authChanged true) := by
          rw [session?_update, if_pos rfl, found]
          rfl
        exact ⟨(gated true).trans (.enqueue foundStill named _),
          enqueue_outputs_isOf sessionId _ _ _⟩
      · exact ⟨opened.trans (.enqueue found named _),
          enqueue_outputs_isOf sessionId _ _ _⟩

/-- A command to a tab serves the tab alone. -/
theorem serves_handle
    {policy : PollPolicy}
    {acts : List Act}
    {command : Command}
    (known : Known policy acts chat)
    (addressed : command.addressee? = some sessionId)
    (credential : CredentialState)
    (now : Timestamp) :
    chat.Serves sessionId (chat.handle command credential now) := by
  cases command with
  | chatMessage tab message =>
      cases addressed
      exact .chatMessage known sessionId message credential now
  | followUpClicked tab followUp =>
      cases addressed
      exact .chatMessage known sessionId followUp.prompt credential now
  | stopResponse tab =>
      cases addressed
      simp only [handle, stopResponse]
      split
      next number found =>
        obtain ⟨session, foundSession, named, -⟩ := known.at_tab found
        exact ⟨.update foundSession named (session.heed_sessionId .cancel),
          by simp⟩
      next =>
        exact .unchanged sessionId chat _
  | tabClosed tab =>
      cases addressed
      simp only [handle, closeTab]
      split
      next number found =>
        obtain ⟨session, foundSession, named, -⟩ := known.at_tab found
        have disposed :
            chat.KeepsOthers sessionId
              (chat.update number Session.dispose) :=
          .update foundSession named rfl
        exact ⟨disposed.trans (.remove _ sessionId),
          by simp⟩
      next =>
        exact .unchanged sessionId chat _
  | authChanged =>
      cases addressed
  | help tab =>
      cases addressed
      obtain ⟨session, found, named, -⟩ := known.looked_up sessionId now
      exact
        ⟨(KeepsOthers.getOrCreate chat sessionId now).trans
            (.enqueue found named .help),
          enqueue_outputs_isOf sessionId _ _ _⟩
  | downloadPlan tab destination =>
      cases addressed
      simp only [handle, downloadPlan]
      split
      · exact ⟨.refl sessionId chat, by simp⟩
      · exact .unchanged sessionId chat _
  | signInClicked tab signIn =>
      cases addressed
      exact ⟨.refl sessionId chat, by
        simp [handle, signInClicked, Output.isOf]⟩

end Chat

/-! ## Sessions that go on -/

namespace Session

/-- What a stretch of an interaction brings about is of its own session. -/
theorem absorb_outputs_isOf
    (session : Session)
    (handle : Nat)
    (stretch : Stretch (Except Fault Conversation)) :
    ∀ output ∈ (session.absorb handle stretch).outputs,
      output.isOf session.sessionId = true := by
  rw [absorb_outputs]
  intro output among
  rcases List.mem_append.mp among with shown | resolved
  · obtain ⟨deed, -, seen⟩ := List.mem_filterMap.mp shown
    cases deed with
    | said | asked =>
        cases seen
        simp [Output.isOf]
    | answered =>
        cases seen
  · obtain ⟨result, -, rfl⟩ :=
      Option.map_eq_some_iff.mp (Option.mem_toList.mp resolved)
    rfl

/-- A worker shows nothing under another name than that of its session. -/
theorem move?_outputs_isOf
    {policy : PollPolicy}
    {session : Session}
    {move : Move}
    {after : Session × List Output}
    (own : move.isOwn = true)
    (moved : session.move? policy move = some after) :
    ∀ output ∈ after.2, output.isOf session.sessionId = true := by
  cases stands : session.worker with
  | interacting handle activity =>
      let interaction : Interaction (Except Fault Conversation) :=
        ⟨[], activity, session.isCancelled⟩
      have handles :
          session.worker = .interacting handle interaction.activity :=
        stands
      obtain ⟨_, _, stretch, -, -, -, -, rfl⟩ :=
        move?_interacting .awaitingGoal handles rfl own moved
      exact absorb_outputs_isOf session handle stretch
  | idle =>
      obtain ⟨moment, -, -, ⟨-, rfl⟩ | ⟨-, queued, rest, -, rfl⟩⟩ :=
        move?_idle stands own moved
      · simp [Reaction.seen, stop, Output.isOf]
      · unfold beginJob
        split
        · split
          · exact absorb_outputs_isOf _ _ _
          · simp [Reaction.seen, holdBack]
        · simp [Reaction.seen, giveHelp, Output.isOf]
  | gated handle utterance =>
      obtain ⟨moment, -, -, ⟨-, rfl⟩ | rfl⟩ := move?_gated stands own moved
      · simp [Reaction.seen, stop, Output.isOf]
      · exact absorb_outputs_isOf _ _ _
  | stopped =>
      rw [move?_stopped stands own] at moved
      cases moved

end Session

end AssessmentChat
