import AssessmentChat.Proofs.AuthenticationGate
import AssessmentChat.Proofs.NamesSinceRestart
import AssessmentChat.Proofs.SavingPlans

namespace AssessmentChat

/-!
# The plan that is offered

Which plan can be saved is decided by the names in the view of a session.  These are
the names of the last assessment that was started, in a job that has been finished,
since the conversation last started over.  What became of that assessment is not
asked: the service is asked for its plan again, and may have none.  Before there is
such an assessment, the user is told so and nothing is called.
-/

/-- The assessment whose plan is offered after some turns, and its engagement. -/
def offered? (turns : List Turn) : Option (EngagementId × AssessmentId) :=
  lastGiven RemoteName.assessment? (sinceRestart turns)

/-- The assessment whose plan a deed asks for, and its engagement. -/
def Deed.download? : Deed → Option (EngagementId × AssessmentId)
  | .asked (.service (.downloadPlan engagementId assessmentId)) =>
      some (engagementId, assessmentId)
  | _ => none

/-- The plans that are asked for. -/
def downloads (deeds : List Deed) : List (EngagementId × AssessmentId) :=
  deeds.filterMap Deed.download?

/-- Whether a happening brings the report that an assessment has been completed. -/
def Happening.reportsCompletion : Happening → Bool
  | .session _ (.receive _ (.service (.assessmentStatus ..)) (.ok report)) =>
      report.status = .completed
  | _ => false

/-- A saving that asks for the plan that is offered, or does nothing but explain. -/
structure OffersLast
    (turns : List Turn)
    (deeds : List Deed)
    (outcome? : Option (Except Fault Unit)) : Prop where
  downloads : downloads deeds = (offered? turns).toList
  explains :
    offered? turns = none →
    deeds = [.said (.plainAnswer Wording.noPlanToDownload)] ∧
      outcome? = some (.ok ())

/-! ## The names in a view -/

section Views

variable
  {policy : PollPolicy}
  {sessionId : String}
  {now : Timestamp}
  {moves : List Move}
  {outputs : List Output}
  {session : Session}

/-- The view of a session names the assessment that is offered. -/
theorem Account.names_of_offered?
    (account : Account policy (.start sessionId now) moves outputs session)
    (coherent : session.Coherent)
    {engagementId : EngagementId}
    {assessmentId : AssessmentId}
    (offered :
      offered? account.ledger.finished = some (engagementId, assessmentId)) :
    session.snapshot.Names engagementId assessmentId := by
  have recalls := account.ledger.chronicle.recalls.1
  rw [account.last_eq] at recalls
  unfold offered? at offered
  refine ⟨?_, ?_⟩
  · rw [coherent.view]
    exact recalls.engagement.trans (by rw [offered]; rfl)
  · rw [coherent.view]
    exact recalls.assessment.trans (by rw [offered]; rfl)

/-- If none is offered, the view names none. -/
theorem Account.namesNone_of_offered?
    (account : Account policy (.start sessionId now) moves outputs session)
    (coherent : session.Coherent)
    (offered : offered? account.ledger.finished = none) :
    session.snapshot.NamesNone := by
  have recalls := account.ledger.chronicle.recalls.1
  rw [account.last_eq] at recalls
  unfold offered? at offered
  refine .inl ?_
  rw [coherent.view]
  exact recalls.engagement.trans (by rw [offered]; rfl)

end Views

namespace SavingStands

variable
  {snapshot : SessionSnapshot}
  {destination : Option String}
  {deeds : List Deed}
  {request? : Option Request}
  {outcome? : Option (Except Fault Unit)}

/-- The plan that a view names is asked for once. -/
theorem downloads_of_names
    (stands : SavingStands snapshot destination deeds request? outcome?)
    {engagementId : EngagementId}
    {assessmentId : AssessmentId}
    (names : snapshot.Names engagementId assessmentId) :
    downloads deeds = [(engagementId, assessmentId)] := by
  have same
      {otherEngagement : EngagementId}
      {otherAssessment : AssessmentId}
      (named : snapshot.Names otherEngagement otherAssessment) :
      otherEngagement = engagementId ∧ otherAssessment = assessmentId :=
    ⟨Option.some.inj (named.engagement.symm.trans names.engagement),
      Option.some.inj (named.assessment.symm.trans names.assessment)⟩
  cases stands with
  | nothingToSave namesNone =>
      exact absurd names namesNone.not_names
  | downloading named | notDownloaded _ named | exporting _ named
  | notExported _ _ named | saved _ _ named =>
      obtain ⟨rfl, rfl⟩ := same named
      rfl

/-- If a view names no plan, the user is told so, and that is all. -/
theorem explains_of_namesNone
    (stands : SavingStands snapshot destination deeds request? outcome?)
    (namesNone : snapshot.NamesNone) :
    deeds = [.said (.plainAnswer Wording.noPlanToDownload)] ∧
      outcome? = some (.ok ()) := by
  cases stands with
  | nothingToSave =>
      exact ⟨rfl, rfl⟩
  | downloading names | notDownloaded _ names | exporting _ names
  | notExported _ _ names | saved _ _ names =>
      exact absurd names namesNone.not_names

end SavingStands

/-! ## What is offered -/

section Offers

variable
  {policy : PollPolicy}
  {acts : List Act}
  {chat : Chat}
  {sessionId : String}
  {number : Nat}
  {session : Session}

/-- A saving of the plan that a session shows offers the last one. -/
theorem Account.offersLast
    {now : Timestamp}
    {moves : List Move}
    {outputs : List Output}
    (account : Account policy (.start sessionId now) moves outputs session)
    (coherent : session.Coherent)
    {destination : Option String}
    {deeds : List Deed}
    {request? : Option Request}
    {outcome? : Option (Except Fault Unit)}
    (stands :
      SavingStands session.snapshot destination deeds request? outcome?) :
    OffersLast account.ledger.finished deeds outcome? := by
  cases offered : offered? account.ledger.finished with
  | none =>
      have namesNone := account.namesNone_of_offered? coherent offered
      obtain ⟨rfl, rfl⟩ := stands.explains_of_namesNone namesNone
      exact ⟨by rw [offered]; rfl, fun _ => ⟨rfl, rfl⟩⟩
  | some assessment =>
      have names := account.names_of_offered? coherent offered
      refine ⟨?_, fun none => ?_⟩
      · rw [offered]
        exact stands.downloads_of_names names
      · rw [offered] at none
        cases none

/-- The session of a tab has an account, and its view is coherent. -/
theorem Course.account
    (course : Course policy acts chat)
    (tab : chat.registry.find? sessionId = some number)
    (found : chat.registry.session? number = some session) :
    session.Coherent ∧
      ∃ opened outputs,
        Nonempty
          (Account policy (.start sessionId opened) (movesOf number acts)
            outputs session) := by
  obtain ⟨opened, outputs, run⟩ := course.known.runs number session found
  obtain ⟨_, foundToo, named, -⟩ := course.known.at_tab tab
  rw [found] at foundToo
  cases foundToo
  rw [named] at run
  exact ⟨run.coherent, opened, outputs, run.account⟩

/-- Every saving began on the view of a session with an account. -/
theorem History.savingAccount
    {episodes : List Episode}
    {traffic : Traffic}
    {saving : Saving}
    (history : History policy episodes traffic)
    (begun : traffic.savings[number]? = some saving) :
    ∃ earlier episode later acts place session destination,
      episodes = earlier ++ episode :: later ∧
        episode.Begins number saving.sessionId session destination ∧
        Course policy acts episode.before.chat ∧
        episode.before.chat.registry.session? place = some session ∧
        session.Coherent ∧
        SavingStands session.snapshot destination
          (savingDeeds number episodes) saving.activity.inFlight?
          saving.activity.outcome? ∧
        ∃ opened outputs,
          Nonempty
            (Account policy (.start saving.sessionId opened)
              (movesOf place acts) outputs session) := by
  obtain ⟨session, destination, savingCourse⟩ :=
    history.savingCourse number saving begun
  obtain ⟨earlier, episode, later, split, before, begins⟩ :=
    savingCourse.begun
  obtain ⟨place, tab, found⟩ := begins.opened
  obtain ⟨acts, course⟩ := before.course
  obtain ⟨coherent, accounted⟩ := course.account tab found
  exact ⟨earlier, episode, later, acts, place, session, destination, split,
    begins, course, found, coherent,
    Chat.saveCurrentPlan_stands savingCourse.soFar.course, accounted⟩

end Offers

/--
The plan that can be saved is that of the last assessment that was started in a
finished job since the conversation last started over, whatever has become of it.  If
there is none, the user is told so, nothing is called and nothing fails.  So it is for
the plan of every open tab in every course of a chat, and for every saving in a
history.
-/
theorem download_offers_last_assessment
    {policy : PollPolicy} :
    (∀ acts chat sessionId number session,
        Course policy acts chat →
        chat.registry.find? sessionId = some number →
        chat.registry.session? number = some session →
        ∃ opened outputs,
          ∃ account :
              Account policy (.start sessionId opened)
                (movesOf number acts) outputs session,
            ∀ destination credential now, ∃ procedure,
              chat.handle (.downloadPlan sessionId destination) credential
                  now =
                ⟨chat, [], [], .download sessionId procedure⟩ ∧
              ∀ deeds activity,
                procedure.Reaches policy deeds activity →
                OffersLast account.ledger.finished deeds
                  activity.outcome?) ∧
      ∀ episodes traffic number saving,
        History policy episodes traffic →
        traffic.savings[number]? = some saving →
        ∃ earlier episode later acts place session destination,
          episodes = earlier ++ episode :: later ∧
            episode.Begins number saving.sessionId session destination ∧
            Course policy acts episode.before.chat ∧
            episode.before.chat.registry.session? place = some session ∧
            ∃ opened outputs,
              ∃ account :
                  Account policy (.start saving.sessionId opened)
                    (movesOf place acts) outputs session,
                OffersLast account.ledger.finished
                  (savingDeeds number episodes)
                  saving.activity.outcome? := by
  refine ⟨?_, ?_⟩
  · intro acts chat sessionId number session course tab found
    obtain ⟨coherent, opened, outputs, ⟨account⟩⟩ :=
      course.account tab found
    refine ⟨opened, outputs, account, ?_⟩
    intro destination credential now
    refine ⟨Chat.saveCurrentPlan session.snapshot destination, ?_, ?_⟩
    · exact Chat.handle_downloadPlan tab found destination credential now
    · intro deeds activity reaches
      exact account.offersLast coherent (Chat.saveCurrentPlan_stands reaches)
  · intro episodes traffic number saving history begun
    obtain ⟨earlier, episode, later, acts, place, session, destination, split,
        begins, course, found, coherent, stands, opened, outputs, ⟨account⟩⟩ :=
      history.savingAccount begun
    exact ⟨earlier, episode, later, acts, place, session, destination, split,
      begins, course, found, opened, outputs, account,
      account.offersLast coherent stands⟩

/--
An assessment fails and its plan is asked for all the same.  Then a workspace without
files ends a job, and the conversation starts over.
-/
def failedThenRestarted : List Happening :=
  planStarted "A1" ++
    [.serving (.assessmentStatus "E1" "A1") (.ok ⟨.failed, ""⟩),
      .saving none,
      .saying "goal", .handling, .saying "go", .handling,
      .answering .workspaceIsEmpty true,
      .saying "again", .handling,
      .saving none]

/-- The plan of the failed assessment is offered until the conversation starts over. -/
theorem download_offers_last_assessment_until_restart :
    ∃ episodes traffic first second procedure,
      History ⟨0, 3⟩ episodes traffic ∧
        traffic.savings[0]? = some first ∧
        traffic.savings[1]? = some second ∧
        (∃ turns,
          OffersLast turns (savingDeeds 0 episodes)
              first.activity.outcome? ∧
            offered? turns = some ("E1", "A1")) ∧
        (∃ turns,
          OffersLast turns (savingDeeds 1 episodes)
              second.activity.outcome? ∧
            offered? turns = none) ∧
        second.activity.outcome? = some (.ok ()) ∧
        traffic.chat.handle (.downloadPlan "S1" none) .connected ⟨1, 0⟩ =
          ⟨traffic.chat, [], [], .download "S1" procedure⟩ := by
  have asking :
      (Traffic.replay? ⟨0, 3⟩ ⟨.empty, []⟩ failedThenRestarted).map
          (fun last =>
            (downloads (savingDeeds 0 last.1),
              downloads (savingDeeds 1 last.1))) =
        some ([("E1", "A1")], []) := by
    decide +kernel
  have opening :
      (Traffic.replay? ⟨0, 3⟩ ⟨.empty, []⟩ failedThenRestarted).map
          (fun last =>
            (last.2.savings.length, last.2.chat.registry.find? "S1",
              (last.2.chat.registry.session? 0).isSome)) =
        some (2, some 0, true) := by
    decide +kernel
  obtain ⟨⟨episodes, traffic⟩, replayed, described⟩ :=
    Option.map_eq_some_iff.mp asking
  rw [replayed] at opening
  obtain ⟨asked, notAsked⟩ := Prod.mk.inj described
  obtain ⟨two, described⟩ := Prod.mk.inj (Option.some.inj opening)
  obtain ⟨tab, isOpen⟩ := Prod.mk.inj described
  obtain ⟨session, found⟩ := Option.isSome_iff_exists.mp isOpen
  have history :=
    @History.replay ⟨0, 3⟩ _ _ failedThenRestarted _ .start rfl replayed
  have savingAt (number : Nat) (inside : number < 2) :
      traffic.savings[number]? =
        some (traffic.savings.get ⟨number, two.symm ▸ inside⟩) :=
    List.getElem?_eq_getElem _
  obtain ⟨courses, histories⟩ := @download_offers_last_assessment ⟨0, 3⟩
  obtain ⟨acts, course⟩ := history.course
  obtain ⟨_, _, _, handles⟩ := courses acts _ "S1" 0 session course tab found
  obtain ⟨procedure, handled, -⟩ := handles none .connected ⟨1, 0⟩
  obtain ⟨_, _, _, _, _, _, _, -, -, -, -, _, _, firstAccount, firstOffers⟩ :=
    histories _ _ 0 _ history (savingAt 0 (by decide))
  obtain ⟨_, _, _, _, _, _, _, -, -, -, -, _, _, secondAccount,
      secondOffers⟩ :=
    histories _ _ 1 _ history (savingAt 1 (by decide))
  have firstOffered :=
    Option.toList_eq_singleton_iff.mp (firstOffers.downloads.symm.trans asked)
  have secondOffered :=
    Option.toList_eq_nil_iff.mp (secondOffers.downloads.symm.trans notAsked)
  exact ⟨_, traffic, _, _, procedure, history, savingAt 0 (by decide),
    savingAt 1 (by decide), ⟨_, firstOffers, firstOffered⟩,
    ⟨_, secondOffers, secondOffered⟩,
    (secondOffers.explains secondOffered).2, handled⟩

/-- A plan is asked for although no assessment was ever reported to be completed. -/
theorem failed_plan_asked_for :
    ∃ episodes traffic,
      History ⟨0, 3⟩ episodes traffic ∧
        (∀ episode ∈ episodes,
          episode.happening.reportsCompletion = false) ∧
        (traffic.savings.map Saving.sessionId).head? = some "S1" ∧
        requests (savingDeeds 0 episodes) =
          [.service (.downloadPlan "E1" "A1")] ∧
        shown (savingDeeds 0 episodes) = [] := by
  have facts :
      (Traffic.replay? ⟨0, 3⟩ ⟨.empty, []⟩ failedThenRestarted).map
          (fun last =>
            (last.1.all fun episode =>
                !episode.happening.reportsCompletion,
              (last.2.savings.map Saving.sessionId).head?,
              requests (savingDeeds 0 last.1),
              shown (savingDeeds 0 last.1))) =
        some
          (true, some "S1", [.service (.downloadPlan "E1" "A1")], []) := by
    decide +kernel
  obtain ⟨⟨episodes, traffic⟩, replayed, described⟩ :=
    Option.map_eq_some_iff.mp facts
  simp only [Prod.mk.injEq] at described
  obtain ⟨noCompletion, tab, asked, silent⟩ := described
  have history :=
    @History.replay ⟨0, 3⟩ _ _ failedThenRestarted _ .start rfl replayed
  refine ⟨_, traffic, history, ?_, tab, asked, silent⟩
  intro episode among
  simpa using List.all_eq_true.mp noCompletion episode among

end AssessmentChat
