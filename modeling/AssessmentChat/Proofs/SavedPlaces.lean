import AssessmentChat.Proofs.ExportedPlans
import AssessmentChat.Proofs.OfferedPlans

namespace AssessmentChat

/-!
# Where a plan is saved

A user who names no place has a plan saved under the file name of its assessment.  The
service may give an assessment any name.  The plan is saved in the working folder, with
nothing made but its file, exactly if there is no slash in that name.
-/

/-- A plan that a deed exports: its content and the path for it. -/
def Deed.export? : Deed → Option (String × String)
  | .asked (.exportPlan content path) => some (content, path)
  | _ => none

/-- The plans that are exported. -/
def exports (deeds : List Deed) : List (String × String) :=
  deeds.filterMap Deed.export?

/-- The plan of an assessment, exported under the file name of its own. -/
structure SavedUnderOwnName
    (assessmentId : AssessmentId)
    (content path : String) : Prop where
  path_eq : path = planFileName assessmentId
  isFileName_iff : Disk.IsFileName path ↔ '/' ∉ assessmentId.toList
  inPlace :
    '/' ∉ assessmentId.toList →
    ∀ disk : Disk, disk.ExportsInPlace content path
  throughFolder :
    '/' ∈ assessmentId.toList →
    ∀ disk : Disk, disk.ExportsThroughFolder content path

theorem SavedUnderOwnName.planFileName
    (assessmentId : AssessmentId)
    (content : String) :
    SavedUnderOwnName assessmentId content (planFileName assessmentId) where
  path_eq := rfl
  isFileName_iff := isFileName_planFileName_iff assessmentId
  inPlace plain disk :=
    disk.exportsInPlace
      ((isFileName_planFileName_iff assessmentId).mpr plain) content
  throughFolder slash disk :=
    exportsThroughFolder_planFileName slash disk content

namespace SavingStands

variable
  {snapshot : SessionSnapshot}
  {deeds : List Deed}
  {request? : Option Request}
  {outcome? : Option (Except Fault Unit)}

/-- Without a place, the plan that a view names is exported under its own name. -/
theorem exports_named
    (stands : SavingStands snapshot none deeds request? outcome?)
    {content path : String}
    (exported : (content, path) ∈ exports deeds) :
    ∃ engagementId assessmentId,
      snapshot.Names engagementId assessmentId ∧
        path = planFileName assessmentId := by
  cases stands with
  | nothingToSave | downloading | notDownloaded =>
      cases exported
  | exporting _ names | notExported _ _ names | saved _ _ names =>
      obtain ⟨-, rfl⟩ := Prod.mk.inj (List.mem_singleton.mp exported)
      exact ⟨_, _, names, rfl⟩

end SavingStands

/-! ## A way out of the working folder -/

namespace Disk

variable
  {disk raised made : Disk}
  {absolute : Bool}
  {last : String}
  {above position : List String}
  {entries : List (String × FileTree)}

theorem makeFolders_of_made
    (isMade :
      disk.makeFolder (Path.ofSteps absolute (last :: above).reverse) =
        .ok made) :
    disk.makeFolders absolute (last :: above) = (.ok (), made) := by
  rw [makeFolders, isMade]

/-- A folder that is there once those above it have been made is left as it is. -/
theorem makeFolders_of_raised
    (missing :
      disk.makeFolder (Path.ofSteps absolute (last :: above).reverse) =
        .error .notFound)
    (isRaised : disk.makeFolders absolute above = (.ok (), raised))
    (leads :
      ∀ throughLast,
        raised.locate throughLast
            (Path.ofSteps absolute (last :: above).reverse) =
          .ok (.found position))
    (folder : raised.top.at? position = some (.folder entries)) :
    disk.makeFolders absolute (last :: above) = (.ok (), raised) := by
  have present :
      raised.makeFolder (Path.ofSteps absolute (last :: above).reverse) =
        .error .alreadyExists := by
    rw [makeFolder, leads]
  have isFolder :
      raised.isFolder (Path.ofSteps absolute (last :: above).reverse) =
        true := by
    simp only [Disk.isFolder, readFolder, found?, leads, folder]
    rfl
  simp only [makeFolders, missing, isRaised, present, isFolder, ↓reduceIte]

end Disk

/-- A disk with a working folder that is empty. -/
def emptyHome : Disk :=
  ⟨.folder [("home", .folder [])], ["home"]⟩

/-- The same disk with a folder for a plan in the working folder. -/
def homeWithFolder : Disk :=
  ⟨.folder [("home", .folder [("RA_PLAN_x", .folder [])])], ["home"]⟩

/-- The path of a plan whose assessment has a name that leads upwards. -/
def pathOutside : String :=
  planFileName "x/../../outside"

theorem emptyHome_makeFolder :
    emptyHome.makeFolder "RA_PLAN_x" = .ok homeWithFolder := by
  have steps : Path.steps "RA_PLAN_x" = ["RA_PLAN_x"] := by decide
  have located :
      emptyHome.locate false "RA_PLAN_x" =
        .ok (.vacant ["home"] "RA_PLAN_x") := by
    simp +decide [Disk.locate, Disk.follow, steps, Disk.walk, emptyHome,
      FileTree.at?]
  rw [Disk.makeFolder, located]
  rfl

/-- The ways up lead through a folder that is missing at first. -/
theorem emptyHome_makeFolder_upwards
    {path second : String}
    {rest : List String}
    (steps : Path.steps path = "RA_PLAN_x" :: second :: rest)
    (relative : Path.isAbsolute path = false)
    (named : path.isEmpty = false)
    (short : path.utf8ByteSize < Disk.pathLimit) :
    emptyHome.makeFolder path = .error .notFound := by
  have located : emptyHome.locate false path = .error .notFound := by
    simp +decide [Disk.locate, Disk.follow, steps, relative, named,
      Nat.not_le.mpr short, Disk.walk, emptyHome, FileTree.at?]
  rw [Disk.makeFolder, located]

/-- The folder on the way is made, and those that the way leads up to are there. -/
theorem emptyHome_ensureParent :
    emptyHome.ensureParent pathOutside = (.ok (), homeWithFolder) := by
  have parent : Path.parent? pathOutside = some "RA_PLAN_x/../.." := by
    decide
  have toHome : Path.steps "RA_PLAN_x/.." = ["RA_PLAN_x", ".."] := by decide
  have toTop : Path.steps "RA_PLAN_x/../.." = ["RA_PLAN_x", "..", ".."] := by
    decide
  have homeLocated (throughLast : Bool) :
      homeWithFolder.locate throughLast "RA_PLAN_x/.." =
        .ok (.found ["home"]) := by
    simp +decide [Disk.locate, Disk.follow, toHome, Disk.walk,
      homeWithFolder, FileTree.at?]
  have topLocated (throughLast : Bool) :
      homeWithFolder.locate throughLast "RA_PLAN_x/../.." =
        .ok (.found []) := by
    simp +decide [Disk.locate, Disk.follow, toTop, Disk.walk,
      homeWithFolder, FileTree.at?]
  have folderMade :
      emptyHome.makeFolders false ["RA_PLAN_x"] =
        (.ok (), homeWithFolder) :=
    Disk.makeFolders_of_made emptyHome_makeFolder
  have homeRaised :
      emptyHome.makeFolders false ["..", "RA_PLAN_x"] =
        (.ok (), homeWithFolder) :=
    Disk.makeFolders_of_raised
      (emptyHome_makeFolder_upwards toHome (by decide) (by decide)
        (by decide))
      folderMade homeLocated rfl
  have topRaised :
      emptyHome.makeFolders false ["..", "..", "RA_PLAN_x"] =
        (.ok (), homeWithFolder) :=
    Disk.makeFolders_of_raised
      (emptyHome_makeFolder_upwards toTop (by decide) (by decide)
        (by decide))
      homeRaised topLocated rfl
  rw [Disk.ensureParent, parent]
  simpa [Disk.ensureFolder, toTop, Path.isAbsolute] using topRaised

/-- The plan is written above the working folder. -/
theorem exportPlan_pathOutside
    (content : String) :
    exportPlan emptyHome content pathOutside =
      (.ok ⟨pathOutside⟩,
        homeWithFolder.put ["outside.md"] (.file content.toUTF8)) := by
  have steps :
      Path.steps pathOutside = ["RA_PLAN_x", "..", "..", "outside.md"] := by
    decide
  have located :
      homeWithFolder.locate true pathOutside =
        .ok (.vacant [] "outside.md") := by
    simp +decide [Disk.locate, Disk.follow, steps, Disk.walk,
      homeWithFolder, FileTree.at?, List.lookup_cons]
  have bare : Path.endsInSlash pathOutside = false := by decide
  rw [exportPlan, emptyHome_ensureParent]
  simp [Disk.writeFile, bare, located, PlanStore.located]

/-! ## What is exported -/

section Exports

variable
  {policy : PollPolicy}
  {sessionId : String}
  {now : Timestamp}
  {moves : List Move}
  {outputs : List Output}
  {session : Session}

/-- The assessment that the view of a session names is the one that is offered. -/
theorem Account.offered?_of_names
    (account : Account policy (.start sessionId now) moves outputs session)
    (coherent : session.Coherent)
    {engagementId : EngagementId}
    {assessmentId : AssessmentId}
    (names : session.snapshot.Names engagementId assessmentId) :
    offered? account.ledger.finished = some (engagementId, assessmentId) := by
  cases offered : offered? account.ledger.finished with
  | none =>
      have namesNone := account.namesNone_of_offered? coherent offered
      exact absurd names namesNone.not_names
  | some assessment =>
      have namesToo := account.names_of_offered? coherent offered
      have sameEngagement := namesToo.engagement.symm.trans names.engagement
      have sameAssessment := namesToo.assessment.symm.trans names.assessment
      exact congrArg some
        (Prod.ext (Option.some.inj sameEngagement)
          (Option.some.inj sameAssessment))

/-- Without a place, the plan that is offered is saved under its own name. -/
theorem Account.savesUnderOwnName
    (account : Account policy (.start sessionId now) moves outputs session)
    (coherent : session.Coherent)
    {deeds : List Deed}
    {request? : Option Request}
    {outcome? : Option (Except Fault Unit)}
    (stands : SavingStands session.snapshot none deeds request? outcome?)
    {content path : String}
    (exported : (content, path) ∈ exports deeds) :
    ∃ engagementId assessmentId,
      offered? account.ledger.finished =
          some (engagementId, assessmentId) ∧
        SavedUnderOwnName assessmentId content path := by
  obtain ⟨engagementId, assessmentId, names, rfl⟩ :=
    stands.exports_named exported
  exact ⟨engagementId, assessmentId,
    account.offered?_of_names coherent names,
    .planFileName assessmentId content⟩

/-- A plan that has been downloaded is exported. -/
theorem Chat.saveCurrentPlan_exports
    {snapshot : SessionSnapshot}
    {engagementId : EngagementId}
    {assessmentId : AssessmentId}
    (names : snapshot.Names engagementId assessmentId)
    (content : String) :
    ∃ deeds activity,
      (Chat.saveCurrentPlan snapshot none).Reaches policy deeds activity ∧
        exports deeds = [(content, planFileName assessmentId)] := by
  rw [Chat.saveCurrentPlan_of_names names]
  exact ⟨_, _, .answered (Except.ok content) (.asking _ _), rfl⟩

end Exports

/--
A plan that is saved where the user has named no place goes by the file name of the
assessment that is offered, whatever name the service has given it.  It is written in
the working folder, and nothing else is made, exactly if there is no slash in that
name; with a slash it is written through a folder that is made for it.
-/
theorem plan_saved_in_place_iff
    {policy : PollPolicy} :
    (∀ acts chat sessionId number session,
        Course policy acts chat →
        chat.registry.find? sessionId = some number →
        chat.registry.session? number = some session →
        ∃ opened outputs,
          ∃ account :
              Account policy (.start sessionId opened)
                (movesOf number acts) outputs session,
            ∀ credential now, ∃ procedure,
              chat.handle (.downloadPlan sessionId none) credential now =
                ⟨chat, [], [], .download sessionId procedure⟩ ∧
              (∀ deeds activity content path,
                procedure.Reaches policy deeds activity →
                (content, path) ∈ exports deeds →
                ∃ engagementId assessmentId,
                  offered? account.ledger.finished =
                      some (engagementId, assessmentId) ∧
                    SavedUnderOwnName assessmentId content path) ∧
              ∀ engagementId assessmentId content,
                offered? account.ledger.finished =
                  some (engagementId, assessmentId) →
                ∃ deeds activity,
                  procedure.Reaches policy deeds activity ∧
                    exports deeds =
                      [(content, planFileName assessmentId)]) ∧
      ∀ episodes traffic number saving,
        History policy episodes traffic →
        traffic.savings[number]? = some saving →
        ∃ earlier episode later acts place session destination,
          episodes = earlier ++ episode :: later ∧
            episode.Begins number saving.sessionId session destination ∧
            Course policy acts episode.before.chat ∧
            episode.before.chat.registry.session? place = some session ∧
            ∃ opened outputs,
              ∃ account :
                  Account policy (.start saving.sessionId opened)
                    (movesOf place acts) outputs session,
                destination = none →
                ∀ content path,
                  (content, path) ∈ exports (savingDeeds number episodes) →
                  ∃ engagementId assessmentId,
                    offered? account.ledger.finished =
                        some (engagementId, assessmentId) ∧
                      SavedUnderOwnName assessmentId content path := by
  refine ⟨?_, ?_⟩
  · intro acts chat sessionId number session course tab found
    obtain ⟨coherent, opened, outputs, ⟨account⟩⟩ :=
      course.account tab found
    refine ⟨opened, outputs, account, ?_⟩
    intro credential now
    refine ⟨Chat.saveCurrentPlan session.snapshot none, ?_, ?_, ?_⟩
    · exact Chat.handle_downloadPlan tab found none credential now
    · intro deeds activity content path reaches exported
      have stands := Chat.saveCurrentPlan_stands reaches
      exact account.savesUnderOwnName coherent stands exported
    · intro engagementId assessmentId content offered
      have names := account.names_of_offered? coherent offered
      exact Chat.saveCurrentPlan_exports names content
  · intro episodes traffic number saving history begun
    obtain ⟨earlier, episode, later, acts, place, session, destination, split,
        begins, course, found, coherent, stands, opened, outputs, ⟨account⟩⟩ :=
      history.savingAccount begun
    refine ⟨earlier, episode, later, acts, place, session, destination, split,
      begins, course, found, opened, outputs, account, ?_⟩
    rintro rfl content path exported
    exact account.savesUnderOwnName coherent stands exported

/-- Whether a happening is the wish to have a plan saved in a place of its own. -/
def Happening.namesPlace : Happening → Bool
  | .command (.downloadPlan _ destination) _ _ => destination.isSome
  | _ => false

/-- The service makes a plan under a name of its choice, and the plan is saved. -/
def savedUnder (name : AssessmentId) : List Happening :=
  planStarted name ++ planDelivered name ++
    [.saving none,
      .reply 0 onlyMoment (.service (.downloadPlan "E1" name))
        (.ok "# Plan")]

/-- Under a plain name the plan is written in the working folder. -/
theorem plan_saved_in_place_under_plain_name :
    ∃ episodes traffic saving procedure,
      History ⟨0, 3⟩ episodes traffic ∧
        traffic.savings[0]? = some saving ∧
        exports (savingDeeds 0 episodes) =
          [("# Plan", "RA_PLAN_A1.md")] ∧
        (∀ disk : Disk, disk.ExportsInPlace "# Plan" "RA_PLAN_A1.md") ∧
        traffic.chat.handle (.downloadPlan "S1" none) .connected ⟨1, 0⟩ =
          ⟨traffic.chat, [], [], .download "S1" procedure⟩ ∧
        ∃ deeds activity,
          procedure.Reaches ⟨0, 3⟩ deeds activity ∧
            exports deeds = [("# Again", "RA_PLAN_A1.md")] := by
  have exporting :
      (Traffic.replay? ⟨0, 3⟩ ⟨.empty, []⟩ (savedUnder "A1")).map
          (fun last =>
            (exports (savingDeeds 0 last.1), last.2.savings.length,
              last.1.all fun episode => !episode.happening.namesPlace)) =
        some ([("# Plan", "RA_PLAN_A1.md")], 1, true) := by
    decide +kernel
  have opening :
      (Traffic.replay? ⟨0, 3⟩ ⟨.empty, []⟩ (savedUnder "A1")).map
          (fun last =>
            (last.2.chat.registry.find? "S1",
              (last.2.chat.registry.session? 0).map fun session =>
                (session.snapshot.engagementId,
                  session.snapshot.assessmentId))) =
        some (some 0, some (some "E1", some "A1")) := by
    decide +kernel
  obtain ⟨⟨episodes, traffic⟩, replayed, described⟩ :=
    Option.map_eq_some_iff.mp exporting
  rw [replayed] at opening
  obtain ⟨exported, described⟩ := Prod.mk.inj described
  obtain ⟨one, noPlaces⟩ := Prod.mk.inj described
  obtain ⟨tab, viewed⟩ := Prod.mk.inj (Option.some.inj opening)
  obtain ⟨session, found, named⟩ := Option.map_eq_some_iff.mp viewed
  have names : session.snapshot.Names "E1" "A1" :=
    ⟨(Prod.mk.inj named).1, (Prod.mk.inj named).2⟩
  have history :=
    @History.replay ⟨0, 3⟩ _ _ (savedUnder "A1") _ .start rfl replayed
  have savingAt :
      traffic.savings[0]? =
        some (traffic.savings.get ⟨0, one.symm ▸ Nat.one_pos⟩) :=
    List.getElem?_eq_getElem _
  obtain ⟨courses, histories⟩ := @plan_saved_in_place_iff ⟨0, 3⟩
  obtain ⟨earlier, episode, later, _, _, _, destination, split, begins, -, -,
      _, _, _, places⟩ :=
    histories _ _ 0 _ history savingAt
  have noPlace : destination = none := by
    obtain ⟨credential, moment, command⟩ := begins.command
    have among : episode ∈ episodes := by
      show episode ∈ [] ++ episodes
      rw [split]
      simp
    have named := List.all_eq_true.mp noPlaces episode among
    simpa [command, Happening.namesPlace] using named
  have present :
      ("# Plan", "RA_PLAN_A1.md") ∈ exports (savingDeeds 0 episodes) := by
    rw [exported]
    exact List.mem_singleton_self _
  obtain ⟨_, assessmentId, -, saved⟩ := places noPlace _ _ present
  have plain : '/' ∉ assessmentId.toList :=
    saved.isFileName_iff.mp
      ((isFileName_planFileName_iff "A1").mpr (by decide))
  obtain ⟨acts, course⟩ := history.course
  obtain ⟨coherent, -⟩ := course.account tab found
  obtain ⟨_, _, account, handles⟩ :=
    courses acts _ "S1" 0 session course tab found
  obtain ⟨procedure, handled, -, again⟩ := handles .connected ⟨1, 0⟩
  have offered := account.offered?_of_names coherent names
  exact ⟨episodes, traffic, _, procedure, history, savingAt, exported,
    saved.inPlace plain, handled, again _ _ "# Again" offered⟩

/--
The service gives an assessment a name that leads upwards.  Where its plan is saved is
not a name of a file, and the plan is written above the working folder, in which a
folder is made.
-/
theorem plan_not_always_saved_in_place :
    ∃ episodes traffic after,
      History ⟨0, 3⟩ episodes traffic ∧
        exports (savingDeeds 0 episodes) = [("# Plan", pathOutside)] ∧
        (∀ episode ∈ episodes, episode.happening.namesPlace = false) ∧
        ¬ Disk.IsFileName pathOutside ∧
        exportPlan emptyHome "# Plan" pathOutside =
          (.ok ⟨pathOutside⟩, after) ∧
        emptyHome.here = ["home"] ∧
        after.top.at? ["outside.md"] = some (.file "# Plan".toUTF8) ∧
        emptyHome.top.at? ["home", "RA_PLAN_x"] = none ∧
        after.top.at? ["home", "RA_PLAN_x"] = some (.folder []) := by
  have facts :
      (Traffic.replay? ⟨0, 3⟩ ⟨.empty, []⟩
            (savedUnder "x/../../outside")).map
          (fun last =>
            (exports (savingDeeds 0 last.1),
              last.1.all fun episode => !episode.happening.namesPlace)) =
        some ([("# Plan", pathOutside)], true) := by
    decide +kernel
  obtain ⟨⟨episodes, traffic⟩, replayed, described⟩ :=
    Option.map_eq_some_iff.mp facts
  obtain ⟨exported, noPlaces⟩ := Prod.mk.inj described
  have history :=
    @History.replay ⟨0, 3⟩ _ _ (savedUnder "x/../../outside") _ .start rfl
      replayed
  have noFileName : ¬ Disk.IsFileName pathOutside := by
    rw [pathOutside, isFileName_planFileName_iff]
    decide
  refine ⟨_, traffic, _, history, exported, ?_, noFileName,
    exportPlan_pathOutside "# Plan", rfl, rfl, rfl, rfl⟩
  intro episode among
  simpa using List.all_eq_true.mp noPlaces episode among

end AssessmentChat
