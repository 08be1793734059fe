import AssessmentChat.Proofs.OwnPart

namespace AssessmentChat

/-!
# Commands in the own part of a chat

A command to a tab does in the own part of the chat what it does in the whole chat,
shows the same and comes to the same result.  So does the command that concerns every
session, which shows in the own part only what it shows under the name of the tab.
-/

/-- The job that a result is about, by its number. -/
def CommandResult.handle? : CommandResult → Option Nat
  | .finished (.ok handle?) => handle?
  | .finished (.error _) => none
  | .download .. => none

/-- A result about a job with another number. -/
def CommandResult.renumbered (number : Nat → Nat) : CommandResult → CommandResult
  | .finished outcome => .finished (outcome.map (Option.map number))
  | .download sessionId procedure => .download sessionId procedure

/-- What is seen of some outputs under the name of a tab. -/
def ownOutputs
    (sessionId : String)
    (jobs : Nat → Bool)
    (outputs : List Output) : List Output :=
  (outputs.filter (Output.isOf sessionId)).map
    (Output.renumbered (rank jobs))

/-- Outputs of one tab are all its own, under the numbers that it counts by. -/
theorem ownOutputs_eq_map
    {sessionId : String}
    (jobs : Nat → Bool)
    {outputs : List Output}
    (isOf : ∀ output ∈ outputs, output.isOf sessionId = true) :
    ownOutputs sessionId jobs outputs =
      outputs.map (Output.renumbered (rank jobs)) := by
  rw [ownOutputs, List.filter_eq_self.mpr isOf]

/-- A command is handled in the own part of a chat as it is in the chat. -/
structure Handled.IsOwnPart
    (sessionId : String)
    (jobs : Nat → Bool)
    (handled own : Handled) : Prop where
  chat : own.chat = handled.chat.own sessionId jobs
  outputs : own.outputs = ownOutputs sessionId jobs handled.outputs
  result : own.result = handled.result.renumbered (rank jobs)

namespace Chat

variable
  {policy : PollPolicy}
  {acts : List Act}
  {sessionId : String}
  {jobs : Nat → Bool}
  {chat : Chat}
  {number : Nat}
  {session : Session}
  {credential : CredentialState}
  {now : Timestamp}

/-! ## Numbers of jobs -/

/-- A command queues no job, or one with the next number. -/
def Counts (chat : Chat) (handled : Handled) : Prop :=
  handled.result.handle? = none ∧
      handled.chat.nextHandle = chat.nextHandle ∨
    handled.result.handle? = some chat.nextHandle ∧
      handled.chat.nextHandle = chat.nextHandle + 1

/-- A job that is put in line takes the next number. -/
theorem counts_submit
    (found : chat.registry.session? number = some session)
    (job : Job) :
    chat.Counts (chat.submit number job) := by
  refine .inr ⟨rfl, ?_⟩
  simp only [submit, enqueue, found]

/-- A message takes the next number, or none. -/
theorem counts_chatMessage
    (known : Known policy acts chat)
    (sessionId message : String)
    (credential : CredentialState)
    (now : Timestamp) :
    chat.Counts (chat.chatMessage sessionId message credential now) := by
  obtain ⟨session, found, -, -⟩ := known.looked_up sessionId now
  unfold chatMessage
  dsimp only
  split
  · exact .inl ⟨rfl, rfl⟩
  · split
    · exact .inl ⟨rfl, rfl⟩
    · split
      · refine @counts_submit
          ((chat.getOrCreate sessionId now).2.update _ _) _
          (session.authChanged true) ?_ (.utterance (trim message))
        rw [session?_update, if_pos rfl, found]
        rfl
      · exact @counts_submit (chat.getOrCreate sessionId now).2 _ _ found
          (.utterance (trim message))

/-- Signing in or out takes no number. -/
theorem foldl_authChanged_nextHandle
    (authenticated : Bool)
    (numbers : List Nat)
    (chat : Chat) :
    (numbers.foldl
        (fun changed number =>
          changed.update number (Session.authChanged authenticated))
        chat).nextHandle =
      chat.nextHandle := by
  induction numbers generalizing chat with
  | nil =>
      rfl
  | cons number rest inductionHypothesis =>
      exact inductionHypothesis _

/-- A command takes the next number, or none. -/
theorem counts_handle
    (known : Known policy acts chat)
    (command : Command)
    (credential : CredentialState)
    (now : Timestamp) :
    chat.Counts (chat.handle command credential now) := by
  cases command with
  | chatMessage tab message =>
      exact counts_chatMessage known tab message credential now
  | followUpClicked tab followUp =>
      exact counts_chatMessage known tab followUp.prompt credential now
  | stopResponse tab =>
      simp only [handle, stopResponse]
      split <;> exact .inl ⟨rfl, rfl⟩
  | tabClosed tab =>
      simp only [handle, closeTab]
      split <;> exact .inl ⟨rfl, rfl⟩
  | authChanged tab authenticated =>
      exact .inl
        ⟨rfl, foldl_authChanged_nextHandle authenticated _ chat⟩
  | help tab =>
      obtain ⟨session, found, -, -⟩ := known.looked_up tab now
      exact @counts_submit (chat.getOrCreate tab now).2 _ _ found .help
  | downloadPlan tab destination =>
      simp only [handle, downloadPlan]
      split <;> exact .inl ⟨rfl, rfl⟩
  | signInClicked tab signIn =>
      exact .inl ⟨rfl, rfl⟩

/-! ## Commands to the tab -/

/-- A job that is put in line does the same in the part of its own tab. -/
theorem isOwnPart_submit
    (found : chat.registry.session? number = some session)
    (named : session.sessionId = sessionId)
    (counted : jobs chat.nextHandle = true)
    (job : Job) :
    (chat.submit number job).IsOwnPart sessionId jobs
      ((chat.own sessionId jobs).submit (chat.place sessionId number)
        job) := by
  have queued := own_enqueue found named counted job
  refine ⟨congrArg Prod.fst queued, ?_, rfl⟩
  refine (congrArg Prod.snd queued).trans ?_
  exact (ownOutputs_eq_map jobs
    (enqueue_outputs_isOf sessionId chat number job)).symm

/-- A signal to the session of the tab is one to the session of the own part. -/
theorem own_signal
    (found : chat.registry.session? number = some session)
    (named : session.sessionId = sessionId)
    {change : Session → Session}
    (sameName : (change session).sessionId = session.sessionId)
    (renumbers :
      change (session.renumbered (rank jobs)) =
        (change session).renumbered (rank jobs)) :
    (chat.own sessionId jobs).update (chat.place sessionId number) change =
      (chat.update number change).own sessionId jobs := by
  rw [update_eq found, update_eq (own_session? jobs found named), renumbers]
  exact (own_update found named sameName).symm

/-- A message does the same in the part of its own tab. -/
theorem isOwnPart_chatMessage
    (known : Known policy acts chat)
    (message : String)
    (counted :
      ∀ handle,
        (chat.chatMessage sessionId message credential now).result.handle? =
          some handle →
        jobs handle = true) :
    (chat.chatMessage sessionId message credential now).IsOwnPart
      sessionId jobs
      ((chat.own sessionId jobs).chatMessage sessionId message credential
        now) := by
  obtain ⟨session, found, named, -⟩ := known.looked_up sessionId now
  have opened := own_getOrCreate sessionId jobs now chat
  have gated (authenticated : Bool) :=
    @own_signal sessionId jobs _ _ session found named
      (Session.authChanged authenticated) rfl rfl
  have asks := own_isAuthenticating jobs found named
  unfold chatMessage at counted ⊢
  simp only [opened] at counted ⊢
  split
  · exact ⟨rfl, rfl, rfl⟩
  · rw [if_neg ‹_›] at counted
    split
    · exact ⟨gated false, by simp [ownOutputs, Output.isOf, Output.renumbered], rfl⟩
    · rw [if_neg ‹_›] at counted
      rw [asks]
      split
      · rw [if_pos ‹_›] at counted
        have foundStill :
            ((chat.getOrCreate sessionId now).2.update
                (chat.getOrCreate sessionId now).1
                (Session.authChanged true)).registry.session?
                (chat.getOrCreate sessionId now).1 =
              some (session.authChanged true) := by
          rw [session?_update, if_pos rfl, found]
          rfl
        rw [gated true, ← @place_update sessionId _ _ _ found
          (Session.authChanged true) rfl]
        exact isOwnPart_submit foundStill named (counted _ rfl) _
      · rw [if_neg ‹_›] at counted
        exact isOwnPart_submit found named (counted _ rfl) _

/-- A command to the tab does the same in the own part. -/
theorem isOwnPart_handle
    (known : Known policy acts chat)
    {command : Command}
    (addressed : command.addressee? = some sessionId)
    (counted :
      ∀ handle,
        (chat.handle command credential now).result.handle? =
          some handle →
        jobs handle = true) :
    (chat.handle command credential now).IsOwnPart sessionId jobs
      ((chat.own sessionId jobs).handle command credential now) := by
  have leads := chat.own_find? sessionId jobs
  cases command with
  | chatMessage tab message =>
      cases addressed
      simp only [handle] at counted ⊢
      exact isOwnPart_chatMessage known message counted
  | followUpClicked tab followUp =>
      cases addressed
      simp only [handle] at counted ⊢
      exact isOwnPart_chatMessage known followUp.prompt counted
  | stopResponse tab =>
      cases addressed
      simp only [handle, stopResponse, leads]
      cases found : chat.registry.find? sessionId with
      | none =>
          exact ⟨rfl, rfl, rfl⟩
      | some number =>
          obtain ⟨session, foundSession, named, -⟩ := known.at_tab found
          exact
            ⟨own_signal foundSession named
                (session.heed_sessionId .cancel)
                (session.cancel_renumbered _),
              rfl, rfl⟩
  | tabClosed tab =>
      cases addressed
      simp only [handle, closeTab, leads]
      cases found : chat.registry.find? sessionId with
      | none =>
          exact ⟨rfl, rfl, rfl⟩
      | some number =>
          obtain ⟨session, foundSession, named, -⟩ := known.at_tab found
          have disposed :=
            @own_signal sessionId jobs _ _ _ foundSession named
              Session.dispose rfl rfl
          refine ⟨?_, rfl, rfl⟩
          refine Eq.trans ?_
            (own_remove sessionId jobs
              (chat.update number Session.dispose)).symm
          simp only [Option.map_some, disposed]
  | authChanged =>
      cases addressed
  | help tab =>
      cases addressed
      obtain ⟨session, found, named, -⟩ := known.looked_up sessionId now
      have opened := own_getOrCreate sessionId jobs now chat
      simp only [handle, requestHelp, opened]
      exact isOwnPart_submit found named (counted _ rfl) .help
  | downloadPlan tab destination =>
      cases addressed
      simp only [handle, downloadPlan, leads]
      cases found : chat.registry.find? sessionId with
      | none =>
          exact ⟨rfl, rfl, rfl⟩
      | some number =>
          obtain ⟨session, foundSession, named, -⟩ := known.at_tab found
          simp only [Option.map_some, Option.bind_some, foundSession,
            own_session? jobs foundSession named]
          exact ⟨rfl, rfl, rfl⟩
  | signInClicked tab signIn =>
      cases addressed
      refine ⟨rfl, ?_, rfl⟩
      simp [handle, signInClicked, ownOutputs, Output.isOf,
        Output.renumbered]

/-! ## Commands that concern every session -/

/-- To move gates is to move in the own part the gates of the tab. -/
theorem own_foldl_authChanged
    (sessionId : String)
    (jobs : Nat → Bool)
    (authenticated : Bool)
    (tabs : List (String × Nat))
    (each :
      ∀ tab number,
        (tab, number) ∈ tabs →
        ∃ session,
          chat.registry.session? number = some session ∧
            session.sessionId = tab) :
    ((tabs.map Prod.snd).foldl
        (fun changed number =>
          changed.update number (Session.authChanged authenticated))
        chat).own sessionId jobs =
      ((tabs.filter (Registry.isTab sessionId)).map fun tab =>
          chat.place sessionId tab.2).foldl
        (fun changed number =>
          changed.update number (Session.authChanged authenticated))
        (chat.own sessionId jobs) := by
  induction tabs generalizing chat with
  | nil =>
      rfl
  | cons first rest inductionHypothesis =>
      obtain ⟨tab, number⟩ := first
      obtain ⟨session, found, named⟩ := each tab number (by simp)
      have places :=
        @place_update sessionId _ _ _ found
          (Session.authChanged authenticated) rfl
      have eachStill :
          ∀ other position,
            (other, position) ∈ rest →
            ∃ known,
              (chat.update number
                  (Session.authChanged authenticated)).registry.session?
                  position =
                some known ∧
              known.sessionId = other := by
        intro other position among
        obtain ⟨known, foundOther, namedOther⟩ :=
          each other position (by simp [among])
        rw [session?_update, foundOther]
        split
        · exact ⟨_, rfl, namedOther⟩
        · exact ⟨_, rfl, namedOther⟩
      have later := inductionHypothesis eachStill
      simp only [places] at later
      rw [List.map_cons, List.foldl_cons, later]
      by_cases here : tab = sessionId
      · have chosen : Registry.isTab sessionId (tab, number) = true :=
          decide_eq_true here
        rw [List.filter_cons_of_pos chosen, List.map_cons, List.foldl_cons,
          @own_signal sessionId jobs _ _ _ found (named.trans here)
            (Session.authChanged authenticated) rfl rfl]
      · have notChosen :
            ¬Registry.isTab sessionId (tab, number) = true := by
          simpa [Registry.isTab] using here
        have kept :
            chat.KeepsOthers tab
              (chat.update number (Session.authChanged authenticated)) :=
          .update found named rfl
        rw [List.filter_cons_of_neg notChosen, kept.own_eq here rfl]

/-- A tab learns of signing in or out if it is open. -/
theorem filter_authNotices
    (sessionId : String)
    (notice : Notice)
    (tabs : List (String × Nat)) :
    ownOutputs sessionId jobs
        ((tabs.map Prod.fst).map fun tab =>
          .published ⟨tab, notice⟩) =
      ((tabs.filter (Registry.isTab sessionId)).map Prod.fst).map
        fun tab => .published ⟨tab, notice⟩ := by
  induction tabs with
  | nil =>
      rfl
  | cons first rest inductionHypothesis =>
      by_cases here : first.1 = sessionId
      · simpa [ownOutputs, Output.isOf, Registry.isTab, here,
          Output.renumbered] using inductionHypothesis
      · simpa [ownOutputs, Output.isOf, Registry.isTab, here] using
          inductionHypothesis

/-- A command that concerns every session does the same in the own part. -/
theorem isOwnPart_authChanged
    (known : Known policy acts chat)
    (once : chat.registry.EachOnce)
    (sessionId : String)
    (jobs : Nat → Bool)
    (authenticated : Bool)
    (credential : CredentialState) :
    (chat.authChanged authenticated credential).IsOwnPart sessionId jobs
      ((chat.own sessionId jobs).authChanged authenticated credential) := by
  have each :
      ∀ tab number,
        (tab, number) ∈ chat.registry.tabs →
        ∃ session,
          chat.registry.session? number = some session ∧
            session.sessionId = tab := by
    intro tab number among
    obtain ⟨session, found, named, -⟩ := known.tabs tab number among
    exact ⟨session, found, named⟩
  have moved := own_foldl_authChanged sessionId jobs authenticated _ each
  have shown :=
    @filter_authNotices jobs sessionId
      (authNotice authenticated credential) chat.registry.tabs
  rw [once sessionId] at moved shown
  refine ⟨?_, ?_, rfl⟩
  · refine Eq.trans ?_ moved.symm
    simp [authChanged, own, Function.comp_def]
  · refine Eq.trans ?_ shown.symm
    simp [authChanged, own, Registry.sessionIds, Function.comp_def]

end Chat

end AssessmentChat
