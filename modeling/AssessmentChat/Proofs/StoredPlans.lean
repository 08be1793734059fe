import AssessmentChat.PlanStore
import AssessmentChat.Proofs.FolderOfFiles

namespace AssessmentChat

/-!
# Plans in a store

A store of plans works in a folder of files.  Each plan that it takes becomes one
file, under a name that always is one of a file in the folder.  What a file holds
in the end is the plan that was kept last under its name, whichever plans were
kept in between under other names.
-/

/-- A plan that was handed to a store, and what the store answered. -/
structure Storing where
  plan : PlanArtifact
  answer : Except Fault ArtifactLocator

/-- A plan that a store took. -/
structure KeptPlan where
  plan : PlanArtifact
  locator : ArtifactLocator

/-- The plan, if the store took it. -/
def Storing.kept? (storing : Storing) : Option KeptPlan :=
  storing.answer.toOption.map (KeptPlan.mk storing.plan)

/-- The plan that was kept last at a locator. -/
def lastKeptAt
    (locator : ArtifactLocator)
    (kept : List KeptPlan) : Option KeptPlan :=
  (kept.filter fun plan => plan.locator = locator).getLast?

/-! ## The files of a store -/

/-- The name of the file of a plan. -/
def PlanArtifact.storedName (plan : PlanArtifact) : String :=
  withoutSeparators plan.fileName

theorem slash_notMem_withoutSeparators
    (name : String) :
    '/' ∉ (withoutSeparators name).toList := by
  intro member
  rw [withoutSeparators, String.toList_ofList] at member
  obtain ⟨character, -, same⟩ := List.mem_map.mp member
  split at same
  next =>
    cases same
  next separatesNot =>
    exact separatesNot (by simp [same])

/-- A plan has the name of a file: it starts as the names of plans do. -/
theorem PlanArtifact.isFileName
    (plan : PlanArtifact) :
    Disk.IsFileName plan.storedName := by
  have letters :
      ∃ rest, plan.storedName.toList = 'R' :: rest := by
    simp only [storedName, withoutSeparators, fileName, planFileName,
      String.toList_ofList, String.toList_append, List.map_append]
    exact ⟨_, rfl⟩
  obtain ⟨rest, letters⟩ := letters
  have differs {other : String} (start : other.toList.head? ≠ some 'R') :
      plan.storedName ≠ other := by
    rintro rfl
    exact start (by simp [letters])
  exact ⟨⟨differs (by decide), slash_notMem_withoutSeparators _⟩,
    differs (by decide), differs (by decide)⟩

namespace PlanStore

theorem path_eq
    (store : PlanStore)
    (plan : PlanArtifact) :
    store.path plan = Path.join store.folder plan.storedName :=
  rfl

/-- A store whose folder is empty once it has been made. -/
def OpensEmpty (store : PlanStore) (disk : Disk) : Prop :=
  ∃ ready,
    disk.ensureFolder store.folder = (.ok (), ready) ∧
      ready.readFolder (Path.join store.folder ".") = .ok []

/-- A store that answers one request after another, and what is left on the disk. -/
inductive Serves (store : PlanStore) : Disk → List Storing → Disk → Prop where
  | done
      (disk : Disk) :
      Serves store disk [] disk
  | keeps
      {disk after final : Disk}
      {plan : PlanArtifact}
      {answer : Except Fault ArtifactLocator}
      {rest : List Storing} :
      store.keep disk plan = (answer, after) →
      Serves store after rest final →
      Serves store disk (⟨plan, answer⟩ :: rest) final

/-- A disk on which a store can work, by the files in the folder of the store. -/
structure WorksOn
    (store : PlanStore)
    (disk : Disk)
    (position : List String)
    (entries : List (String × FileTree)) : Prop where
  holds :
    disk.HoldsFiles store.folder position entries
  short :
    Path.steps store.folder ≠ [] →
    (Disk.madeAs store.folder).utf8ByteSize < Disk.pathLimit

variable
  {store : PlanStore}
  {disk : Disk}
  {position : List String}
  {entries : List (String × FileTree)}

theorem keep_of_ready
    (ready : disk.ensureFolder store.folder = (.ok (), disk))
    (plan : PlanArtifact) :
    store.keep disk plan =
      located (store.path plan)
        (disk.writeFile (store.path plan) plan.content.toUTF8) := by
  rw [keep, ready]

/-- A folder that is there and empty is one with which a store opens empty. -/
theorem OpensEmpty.of_holdsNothing
    (holds : disk.HoldsFiles store.folder position [])
    (madeShort :
      Path.steps store.folder ≠ [] →
      (Disk.madeAs store.folder).utf8ByteSize < Disk.pathLimit)
    (insideShort :
      (Path.join store.folder ".").utf8ByteSize < Disk.pathLimit) :
    store.OpensEmpty disk := by
  have isStep : Path.IsStep "." := ⟨by decide, by decide⟩
  have located :
      disk.locate true (Path.join store.folder ".") =
        .ok (.found position) := by
    refine Disk.locate_eq_ok.mpr
      ⟨Path.join_ne_empty _ isStep, insideShort, ?_⟩
    rw [Path.steps_join _ isStep, Disk.origin, Path.isAbsolute_join _ isStep]
    exact holds.reached.snoc fun links =>
      .stays holds.present (.arrived links position)
  exact ⟨disk, holds.ensureFolder_again madeShort,
    Disk.readFolder_eq_ok.mpr
      (Disk.found?_eq_ok.mpr ⟨position, located, holds.present⟩)⟩

/-- A plan whose name is not too long is taken and set as an entry. -/
theorem WorksOn.keep_of_fits
    (works : store.WorksOn disk position entries)
    {plan : PlanArtifact}
    (fits : Disk.Fits store.folder plan.storedName) :
    store.keep disk plan =
      (.ok ⟨store.path plan⟩,
        disk.put (position ++ [plan.storedName])
          (.file plan.content.toUTF8)) := by
  have ready := works.holds.ensureFolder_again works.short
  have written :=
    works.holds.writeFile_of_fits plan.isFileName fits
      plan.content.toUTF8
  rw [keep_of_ready ready plan, path_eq, written]
  rfl

theorem WorksOn.readFile_of_fits
    (works : store.WorksOn disk position entries)
    {plan : PlanArtifact}
    (fits : Disk.Fits store.folder plan.storedName)
    {content : ByteArray}
    (entry : entries.lookup plan.storedName = some (.file content)) :
    disk.readFile (store.path plan) = .ok content := by
  rw [path_eq]
  exact works.holds.readFile_of_fits plan.isFileName fits entry

/-- Another plan is refused, and nothing changes. -/
theorem WorksOn.keep_of_not_fits
    (works : store.WorksOn disk position entries)
    {plan : PlanArtifact}
    (tooLong : ¬ Disk.Fits store.folder plan.storedName) :
    ∃ fault, store.keep disk plan = (.error fault, disk) := by
  have ready := works.holds.ensureFolder_again works.short
  obtain ⟨failure, refused⟩ :=
    disk.writeFile_of_not_fits plan.isFileName tooLong
      plan.content.toUTF8
  refine ⟨failure.fault, ?_⟩
  rw [keep_of_ready ready plan, path_eq, refused]
  rfl

theorem WorksOn.put
    (works : store.WorksOn disk position entries)
    (name : String)
    (content : ByteArray) :
    store.WorksOn (disk.put (position ++ [name]) (.file content)) position
      (FileTree.setEntry name (.file content) entries) :=
  ⟨works.holds.put name content, works.short⟩

/-- A plan that a store takes. -/
def taking (store : PlanStore) (plan : PlanArtifact) : Storing :=
  ⟨plan, .ok ⟨store.path plan⟩⟩

/-- Plans whose names are not too long are taken one after another. -/
theorem WorksOn.serves_of_fits
    {plans : List PlanArtifact}
    (works : store.WorksOn disk position entries)
    (fits : ∀ plan ∈ plans, Disk.Fits store.folder plan.storedName) :
    ∃ final, store.Serves disk (plans.map store.taking) final := by
  induction plans generalizing disk entries with
  | nil =>
      exact ⟨disk, .done disk⟩
  | cons plan rest inductionHypothesis =>
      obtain ⟨first, others⟩ := List.forall_mem_cons.mp fits
      obtain ⟨final, serves⟩ :=
        inductionHypothesis (works.put plan.storedName _) others
      exact ⟨final, .keeps (works.keep_of_fits first) serves⟩

/-- What a store has done: its files, and where it says that the plans are. -/
structure Worked
    (store : PlanStore)
    (position : List String)
    (before : List (String × FileTree))
    (kept : List KeptPlan)
    (final : Disk)
    (after : List (String × FileTree)) : Prop where
  works :
    store.WorksOn final position after
  located :
    ∀ plan ∈ kept,
      plan.locator = ⟨store.path plan.plan⟩ ∧
        Disk.Fits store.folder plan.plan.storedName
  files :
    ∀ name,
      after.lookup name =
        (((kept.filter fun plan => plan.plan.storedName = name).getLast?.map
          fun plan => FileTree.file plan.plan.content.toUTF8).or
            (before.lookup name))

/-- Whatever a store is asked, each file holds what was kept last under its name. -/
theorem Serves.worked
    {storings : List Storing}
    {final : Disk}
    (serves : store.Serves disk storings final)
    (works : store.WorksOn disk position entries) :
    ∃ after,
      store.Worked position entries (storings.filterMap Storing.kept?) final
        after := by
  induction serves generalizing entries with
  | done disk =>
      exact ⟨entries, works, nofun, fun name => rfl⟩
  | @keeps disk next final plan answer rest kept _ inductionHypothesis =>
      by_cases fits : Disk.Fits store.folder plan.storedName
      · have taken := works.keep_of_fits fits
        obtain ⟨rfl, rfl⟩ := Prod.mk.inj (taken.symm.trans kept)
        obtain ⟨after, worksAfter, located, files⟩ :=
          inductionHypothesis (works.put plan.storedName _)
        refine ⟨after, worksAfter, ?_, ?_⟩
        · intro one member
          rcases List.mem_cons.mp member with rfl | later
          · exact ⟨rfl, fits⟩
          · exact located one later
        · intro name
          rw [files, FileTree.lookup_setEntry]
          by_cases same : name = plan.storedName
          · subst same
            cases later :
              ((rest.filterMap Storing.kept?).filter fun one =>
                one.plan.storedName = plan.storedName).getLast? <;>
              simp [Storing.kept?, Except.toOption, List.getLast?_cons, later]
          · have other : plan.storedName ≠ name := fun eq => same eq.symm
            simp [Storing.kept?, Except.toOption, same, other]
      · obtain ⟨fault, refused⟩ := works.keep_of_not_fits fits
        obtain ⟨rfl, rfl⟩ := Prod.mk.inj (refused.symm.trans kept)
        obtain ⟨after, worked⟩ := inductionHypothesis works
        exact ⟨after, worked⟩

/-- A store that opens empty works from the start as it does on its made folder. -/
theorem Serves.of_opensEmpty
    {storings : List Storing}
    {final : Disk}
    (serves : store.Serves disk storings final)
    (opens : store.OpensEmpty disk)
    (nonempty : storings ≠ []) :
    ∃ ready position,
      store.WorksOn ready position [] ∧
        store.Serves ready storings final := by
  obtain ⟨ready, ensured, empty⟩ := opens
  obtain ⟨position, holds⟩ := Disk.HoldsFiles.of_empty empty
  have short := Disk.short_of_ensureFolder ensured
  have again := holds.ensureFolder_again short
  refine ⟨ready, position, ⟨holds, short⟩, ?_⟩
  cases serves with
  | done =>
      exact absurd rfl nonempty
  | @keeps _ _ _ plan _ _ kept rest =>
      have same : store.keep ready plan = store.keep disk plan := by
        rw [keep, keep, ensured, again]
      exact .keeps (same.trans kept) rest

/-- A plan that was kept is where its name says. -/
theorem Serves.located
    {storings : List Storing}
    {final : Disk}
    (serves : store.Serves disk storings final)
    (opens : store.OpensEmpty disk)
    {kept : KeptPlan}
    (member : kept ∈ storings.filterMap Storing.kept?) :
    kept.locator = ⟨store.path kept.plan⟩ := by
  have nonempty : storings ≠ [] := by
    rintro rfl
    cases member
  obtain ⟨ready, position, works, servesReady⟩ :=
    serves.of_opensEmpty opens nonempty
  obtain ⟨after, worked⟩ := servesReady.worked works
  exact (worked.located kept member).1

/-- A file that was kept holds what was kept last at its locator. -/
theorem Serves.readFile_eq
    {storings : List Storing}
    {final : Disk}
    {earlier later : List KeptPlan}
    {kept : KeptPlan}
    (serves : store.Serves disk storings final)
    (opens : store.OpensEmpty disk)
    (shape :
      storings.filterMap Storing.kept? = earlier ++ kept :: later) :
    final.readFile kept.locator.location =
      .ok ((lastKeptAt kept.locator later).getD kept).plan.content.toUTF8 := by
  have nonempty : storings ≠ [] := by
    rintro rfl
    simp at shape
  obtain ⟨ready, position, works, servesReady⟩ :=
    serves.of_opensEmpty opens nonempty
  obtain ⟨after, worked⟩ := servesReady.worked works
  rw [shape] at worked
  obtain ⟨located, fits⟩ := worked.located kept (by simp)
  have sameFile (one : KeptPlan) (member : one ∈ later) :
      one.locator = kept.locator ↔
        one.plan.storedName = kept.plan.storedName := by
    obtain ⟨oneLocated, -⟩ := worked.located one (by simp [member])
    rw [located, oneLocated, ArtifactLocator.mk.injEq, path_eq, path_eq]
    exact Path.join_inj store.folder one.plan.isFileName.step
      kept.plan.isFileName.step
  have lastKept :
      lastKeptAt kept.locator later =
        (later.filter fun one =>
          one.plan.storedName = kept.plan.storedName).getLast? := by
    unfold lastKeptAt
    rw [List.filter_congr]
    intro one member
    simp [sameFile one member]
  have read
      (content : ByteArray)
      (entry : after.lookup kept.plan.storedName = some (.file content)) :
      final.readFile kept.locator.location = .ok content := by
    have path : kept.locator.location = store.path kept.plan := by
      rw [located]
    have readable := worked.works.readFile_of_fits fits entry
    rwa [← path] at readable
  refine read _ ?_
  rw [worked.files, lastKept]
  simp only [List.filter_append, List.filter_cons, decide_true,
    ↓reduceIte, List.getLast?_append, List.getLast?_cons]
  rfl

end PlanStore

/-! ## An empty folder for plans -/

/-- A disk with an empty folder for plans. -/
def emptyPlansDisk : Disk :=
  { top := .folder [("plans", .folder [])] }

/-- The store that keeps plans in that folder. -/
def plansStore : PlanStore :=
  ⟨"plans"⟩

theorem plansStore_worksOn :
    plansStore.WorksOn emptyPlansDisk ["plans"] [] := by
  have steps : Path.steps plansStore.folder = ["plans"] := by decide
  refine ⟨⟨?_, rfl, nofun⟩, fun _ => by decide⟩
  rw [steps]
  exact .enters rfl ⟨by decide, by decide⟩ (by decide) rfl nofun
    (.arrived _ _)

end AssessmentChat
