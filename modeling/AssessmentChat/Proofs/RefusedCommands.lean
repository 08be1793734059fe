import AssessmentChat.Proofs.SavingPlans
import AssessmentChat.Proofs.SigningInAndOut
import AssessmentChat.Proofs.Trimming

namespace AssessmentChat

/-!
# Commands that are refused

A message of nothing but white space is refused, and so is the saving of the plan of a
tab that is not open.  Both are found out before anything is done: a refused command
leaves the chat and the savings as they are, shows and asks nothing, and does not even
look at the user's credentials.  No other command is refused.  The only other faults
are those that the service or the store answers to a saving.
-/

/-- When a command is refused, and with which text. -/
inductive Chat.Refuses (chat : Chat) : Command → String → Prop where
  | blankMessage
      {command : Command}
      {sessionId message : String} :
      command.message? = some (sessionId, message) →
      (∀ character ∈ message.toList, isBlank character = true) →
      Refuses chat command s!"empty chat message for session '{sessionId}'"
  | unknownTab
      {sessionId : String}
      {destination : Option String} :
      sessionId ∉ chat.registry.sessionIds →
      Refuses chat (.downloadPlan sessionId destination)
        s!"download requested for unknown session '{sessionId}'"

/--
What handling a command can come to, and what is done for it after its effect on the
chat.
-/
inductive Handled.ComesTo
    (policy : PollPolicy)
    (handled : Handled) :
    List Deed → Except Fault (Option Nat) → Prop where
  | atOnce
      {outcome : Except Fault (Option Nat)} :
      handled.result = .finished outcome →
      ComesTo policy handled [] outcome
  | afterSaving
      {sessionId : String}
      {procedure : Procedure (Except Fault Unit)}
      {deeds : List Deed}
      {outcome : Except Fault Unit} :
      handled.result = .download sessionId procedure →
      procedure.Yields policy deeds outcome →
      ComesTo policy handled deeds (outcome.map fun _ => none)

/-- Whether a fault is what the service or the store answered to a saving. -/
inductive Fault.IsBroughtBy (fault : Fault) (deeds : List Deed) : Prop where
  | service
      (engagementId : EngagementId)
      (assessmentId : AssessmentId) :
      .answered (.service (.downloadPlan engagementId assessmentId))
        (.error fault) ∈ deeds →
      IsBroughtBy fault deeds
  | store
      (content destination : String) :
      .answered (.exportPlan content destination) (.error fault) ∈ deeds →
      IsBroughtBy fault deeds

/-- A saving that fails does so with the fault of an answer. -/
theorem SavingStands.isBroughtBy
    {snapshot : SessionSnapshot}
    {destination : Option String}
    {deeds : List Deed}
    {request? : Option Request}
    {fault : Fault}
    (stands :
      SavingStands snapshot destination deeds request?
        (some (.error fault))) :
    fault.IsBroughtBy deeds := by
  cases stands with
  | @notDownloaded engagementId assessmentId _ _ =>
      exact .service engagementId assessmentId
        (by simp [ServiceCall.exchange, Request.exchange])
  | @notExported engagementId assessmentId content _ _ =>
      exact .store content (destination.getD (planFileName assessmentId))
        (by simp [ServiceCall.exchange, Request.exchange, exportRequest])

namespace Chat

variable
  {chat : Chat}
  {command : Command}
  {detail : String}

/-- A refused command is answered at once, whatever the user's credentials are. -/
theorem Refuses.handle_eq
    (refuses : chat.Refuses command detail)
    (credential : CredentialState)
    (now : Timestamp) :
    chat.handle command credential now =
      ⟨chat, [], [], .finished (.error (.illegalState detail))⟩ := by
  cases refuses with
  | @blankMessage _ sessionId message brings blank =>
      rw [handle_of_message? brings, chatMessage,
        if_pos (isEmpty_trim_iff.mpr blank)]
      rfl
  | @unknownTab sessionId destination notOpen =>
      have unknown : chat.registry.find? sessionId = none := by
        rw [← Option.not_isSome_iff_eq_none]
        intro known
        obtain ⟨number, found⟩ := Option.isSome_iff_exists.mp known
        exact notOpen
          (List.mem_map_of_mem (Registry.mem_tabs_of_find? found))
      simp only [handle, downloadPlan, unknown, Option.bind_none]
      rfl

/-- A command with a fault of its own is refused. -/
theorem refuses_of_result
    {policy : PollPolicy}
    {acts : List Act}
    {credential : CredentialState}
    {now : Timestamp}
    {fault : Fault}
    (course : Course policy acts chat)
    (result :
      (chat.handle command credential now).result =
        .finished (.error fault)) :
    ∃ detail, fault = .illegalState detail ∧ chat.Refuses command detail := by
  cases brings : command.message? with
  | some sent =>
      obtain ⟨sessionId, message⟩ := sent
      rcases Bool.eq_false_or_eq_true (trim message).isEmpty with
        blank | notBlank
      · have refuses : chat.Refuses command _ :=
          .blankMessage brings (isEmpty_trim_iff.mp blank)
        rw [refuses.handle_eq] at result
        cases result
        exact ⟨_, rfl, refuses⟩
      · obtain ⟨answer, answered, -⟩ :=
          chat.message_answered brings notBlank credential now
        rw [answered] at result
        cases result
  | none =>
      cases command with
      | chatMessage | followUpClicked =>
          cases brings
      | stopResponse | tabClosed =>
          simp only [handle, stopResponse, closeTab] at result
          split at result <;> cases result
      | authChanged | help | signInClicked =>
          cases result
      | downloadPlan sessionId destination =>
          by_cases isOpen : sessionId ∈ chat.registry.sessionIds
          · obtain ⟨number, found⟩ :=
              Option.isSome_iff_exists.mp
                ((course.mem_sessionIds sessionId).mp isOpen)
            obtain ⟨session, foundSession, -, -⟩ :=
              course.known.at_tab found
            rw [handle_downloadPlan found foundSession] at result
            cases result
          · have refuses : chat.Refuses (.downloadPlan sessionId destination) _ :=
              .unknownTab isOpen
            rw [refuses.handle_eq] at result
            cases result
            exact ⟨_, rfl, refuses⟩

/-- A saving is that of an open tab, and fails with what is answered to it. -/
theorem isBroughtBy_of_saving
    {policy : PollPolicy}
    {credential : CredentialState}
    {now : Timestamp}
    {sessionId : String}
    {procedure : Procedure (Except Fault Unit)}
    {deeds : List Deed}
    {fault : Fault}
    (result :
      (chat.handle command credential now).result =
        .download sessionId procedure)
    (yields : procedure.Yields policy deeds (.error fault)) :
    (∃ destination, command = .downloadPlan sessionId destination) ∧
      sessionId ∈ chat.registry.sessionIds ∧
      fault.IsBroughtBy deeds := by
  obtain ⟨snapshot, destination, rfl, rfl⟩ := handle_eq_download result
  refine ⟨⟨destination, rfl⟩, ?_, (saveCurrentPlan_stands yields).isBroughtBy⟩
  by_contra notOpen
  have refuses : chat.Refuses (.downloadPlan sessionId destination) _ :=
    .unknownTab notOpen
  rw [refuses.handle_eq] at result
  cases result

end Chat

theorem Fault.IsBroughtBy.ne_nil
    {fault : Fault}
    {deeds : List Deed}
    (brought : fault.IsBroughtBy deeds) :
    deeds ≠ [] := by
  rintro rfl
  cases brought with
  | service _ _ among | store _ _ among =>
      cases among

/--
A command is refused exactly if it is a message of nothing but white space or the saving
of the plan of a tab that is not open, and a refused command changes nothing: all
sessions, tabs and savings are as before, nothing is seen of it but the answer, and
neither the credentials nor the clock make a difference to it.  A command that is not
refused fails only if it saves the plan of an open tab, and then with the fault that the
service or the store has answered.
-/
theorem refused_commands_change_nothing
    {policy : PollPolicy}
    {acts : List Act}
    {chat : Chat}
    (course : Course policy acts chat)
    (command : Command)
    (credential : CredentialState)
    (now : Timestamp) :
    (∀ detail,
        chat.Refuses command detail ↔
          (chat.handle command credential now).ComesTo policy []
            (.error (.illegalState detail))) ∧
      (∀ detail,
        chat.Refuses command detail →
        chat.handle command credential now =
            ⟨chat, [], [], .finished (.error (.illegalState detail))⟩ ∧
          (∀ otherCredential otherNow,
            chat.handle command otherCredential otherNow =
              chat.handle command credential now) ∧
          ∀ savings moment,
            Traffic.obey ⟨chat, savings⟩ command credential moment =
              ⟨⟨chat, savings⟩,
                [.answered (.error (.illegalState detail))]⟩) ∧
      ∀ deeds fault,
        (chat.handle command credential now).ComesTo policy deeds
          (.error fault) →
        (∀ detail, ¬ chat.Refuses command detail) →
        ∃ sessionId destination,
          command = .downloadPlan sessionId destination ∧
            sessionId ∈ chat.registry.sessionIds ∧
            fault.IsBroughtBy deeds := by
  have fails (deeds : List Deed) (fault : Fault)
      (comes :
        (chat.handle command credential now).ComesTo policy deeds
          (.error fault)) :
      (∃ detail, fault = .illegalState detail ∧ chat.Refuses command detail) ∨
        ∃ sessionId destination,
          command = .downloadPlan sessionId destination ∧
            sessionId ∈ chat.registry.sessionIds ∧
            fault.IsBroughtBy deeds := by
    generalize failed : Except.error fault = outcome at comes
    cases comes with
    | atOnce result =>
        subst failed
        exact .inl (Chat.refuses_of_result course result)
    | @afterSaving sessionId _ _ saved result yields =>
        cases saved with
        | ok =>
            cases failed
        | error answered =>
            cases failed
            obtain ⟨⟨destination, asked⟩, isOpen, brought⟩ :=
              Chat.isBroughtBy_of_saving result yields
            exact .inr ⟨sessionId, destination, asked, isOpen, brought⟩
  refine ⟨fun detail => ⟨?_, ?_⟩, ?_, ?_⟩
  · intro refuses
    exact .atOnce (congrArg Handled.result (refuses.handle_eq _ _))
  · intro comes
    rcases fails [] _ comes with ⟨_, same, refuses⟩ | ⟨_, _, -, -, brought⟩
    · cases same
      exact refuses
    · exact absurd rfl brought.ne_nil
  · intro detail refuses
    refine ⟨refuses.handle_eq _ _, fun _ _ => ?_, fun savings moment => ?_⟩
    · rw [refuses.handle_eq, refuses.handle_eq]
    · simp [Traffic.obey, refuses.handle_eq]
  · intro deeds fault comes notRefused
    rcases fails deeds fault comes with ⟨detail, -, refuses⟩ | saving
    · exact absurd refuses (notRefused detail)
    · exact saving

/-- A saving whose plan the service does not hand out comes to the fault that it answers. -/
theorem Chat.comesTo_not_downloaded
    {chat : Chat}
    {sessionId : String}
    {place : Nat}
    {session : Session}
    {engagementId : EngagementId}
    {assessmentId : AssessmentId}
    (found : chat.registry.find? sessionId = some place)
    (foundSession : chat.registry.session? place = some session)
    (names : session.snapshot.Names engagementId assessmentId)
    (policy : PollPolicy)
    (destination : Option String)
    (credential : CredentialState)
    (now : Timestamp)
    (fault : Fault) :
    (chat.handle (.downloadPlan sessionId destination) credential
        now).ComesTo policy
      (ServiceCall.exchange (.downloadPlan engagementId assessmentId)
          (.error fault) ++
        [.said (.plainAnswer Wording.downloadFailed)])
      (.error fault) := by
  rw [handle_downloadPlan found foundSession]
  have yields :
      (saveCurrentPlan session.snapshot destination).Yields policy
        (ServiceCall.exchange (.downloadPlan engagementId assessmentId)
            (.error fault) ++
          [.said (.plainAnswer Wording.downloadFailed)])
        (.error fault) := by
    rw [saveCurrentPlan_of_names names]
    exact .answered _ (.publish (.finish _))
  exact .afterSaving rfl yields

/--
While a tab with a plan is open, white space is refused in it, the plan of another tab
is refused, and the saving of its own plan fails as the service does.
-/
theorem white_space_and_unknown_tab_refused :
    ∃ acts chat blank elsewhere deeds,
      Course ⟨0, 3⟩ acts chat ∧
        chat.registry.sessionIds = ["S1"] ∧
        chat.Refuses (.chatMessage "S1" "\u2003\t ") blank ∧
        chat.handle (.chatMessage "S1" "\u2003\t ") .expired ⟨1, 0⟩ =
          ⟨chat, [], [], .finished (.error (.illegalState blank))⟩ ∧
        chat.Refuses (.downloadPlan "S2" none) elsewhere ∧
        chat.handle (.downloadPlan "S2" none) .connected ⟨1, 0⟩ =
          ⟨chat, [], [], .finished (.error (.illegalState elsewhere))⟩ ∧
        (chat.handle (.downloadPlan "S1" none) .connected ⟨1, 0⟩).ComesTo
          ⟨0, 3⟩ deeds (.error (.illegalState "not now")) ∧
        (∀ detail, ¬ chat.Refuses (.downloadPlan "S1" none) detail) ∧
        (Fault.illegalState "not now").IsBroughtBy deeds := by
  have facts :
      (Traffic.replay? ⟨0, 3⟩ ⟨.empty, []⟩
            (planStarted "A1" ++ planDelivered "A1")).map
          (fun last =>
            (last.2.chat.registry.tabs,
              (last.2.chat.registry.session? 0).map fun session =>
                (session.snapshot.engagementId,
                  session.snapshot.assessmentId))) =
        some ([("S1", 0)], some (some "E1", some "A1")) := by
    decide +kernel
  obtain ⟨⟨episodes, traffic⟩, replayed, described⟩ :=
    Option.map_eq_some_iff.mp facts
  obtain ⟨tabs, described⟩ := Prod.mk.inj described
  obtain ⟨session, foundSession, ids⟩ := Option.map_eq_some_iff.mp described
  obtain ⟨engagement, assessment⟩ := Prod.mk.inj ids
  have history :=
    @History.replay ⟨0, 3⟩ _ _ (planStarted "A1" ++ planDelivered "A1") _
      .start rfl replayed
  obtain ⟨acts, course⟩ := history.course
  have names : traffic.chat.registry.sessionIds = ["S1"] := by
    rw [Registry.sessionIds, tabs]
    rfl
  have found : traffic.chat.registry.find? "S1" = some 0 := by
    rw [Registry.find?, tabs]
    rfl
  have white :
      traffic.chat.Refuses (.chatMessage "S1" "\u2003\t ") _ :=
    .blankMessage rfl (List.all_eq_true.mp (by decide))
  have unknown : traffic.chat.Refuses (.downloadPlan "S2" none) _ :=
    .unknownTab (by simp [names])
  have notRefused (detail : String) :
      ¬ traffic.chat.Refuses (.downloadPlan "S1" none) detail := by
    intro refuses
    cases refuses with
    | blankMessage brings =>
        cases brings
    | unknownTab notOpen =>
        simp [names] at notOpen
  have comes :=
    Chat.comesTo_not_downloaded found foundSession ⟨engagement, assessment⟩
      ⟨0, 3⟩ none .connected ⟨1, 0⟩ (.illegalState "not now")
  obtain ⟨-, ofWhite, -⟩ :=
    refused_commands_change_nothing course (.chatMessage "S1" "\u2003\t ")
      .expired ⟨1, 0⟩
  obtain ⟨-, ofUnknown, -⟩ :=
    refused_commands_change_nothing course (.downloadPlan "S2" none)
      .connected ⟨1, 0⟩
  obtain ⟨-, -, ofSaving⟩ :=
    refused_commands_change_nothing course (.downloadPlan "S1" none)
      .connected ⟨1, 0⟩
  obtain ⟨_, _, -, -, brought⟩ := ofSaving _ _ comes notRefused
  exact ⟨acts, traffic.chat, _, _, _, course, names, white,
    (ofWhite _ white).1, unknown, (ofUnknown _ unknown).1, comes, notRefused,
    brought⟩

end AssessmentChat
