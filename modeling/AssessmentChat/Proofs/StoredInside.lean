import AssessmentChat.Proofs.TouchedFiles

namespace AssessmentChat

/-!
# Plans stay inside their store

A store that takes a plan writes one file, and it says where.  Without links the file is
directly in the folder of the store, whatever name the service has chosen.  A store that
refuses a plan has touched no file, even if it has made folders on the way.
-/

namespace FileTree

/-- Whether there is no link in a tree. -/
def IsLinkFree (tree : FileTree) : Prop :=
  ∀ path target, tree.at? path ≠ some (.link target)

/-- A folder has no links if none of its entries has any. -/
theorem isLinkFree_folder
    {entries : List (String × FileTree)}
    (each : ∀ entry ∈ entries, entry.2.IsLinkFree) :
    (FileTree.folder entries).IsLinkFree := by
  intro path target present
  cases path with
  | nil =>
      cases present
  | cons name rest =>
      obtain ⟨tree, entry, below⟩ := Option.bind_eq_some_iff.mp present
      obtain ⟨former, later, rfl, -⟩ := List.lookup_eq_some_iff.mp entry
      exact each (name, tree) (by simp) rest target below

/-- A tree without links has none after a change that adds none. -/
theorem AddsNoLink.isLinkFree
    {before after : FileTree}
    (addsNone : before.AddsNoLink after)
    (linkFree : before.IsLinkFree) :
    after.IsLinkFree := by
  intro path target found
  exact linkFree path target (addsNone path target found)

end FileTree

namespace PlanStore

variable
  {store : PlanStore}
  {disk after final : Disk}
  {plan : PlanArtifact}
  {storings : List Storing}

/-! ## One call -/

/--
What a store does that takes a plan: it writes one file, in its folder unless there is a
link of the plan's name.
-/
structure Takes
    (store : PlanStore)
    (disk : Disk)
    (plan : PlanArtifact)
    (folder position : List String)
    (after : Disk) : Prop where
  reached :
    after.LeadsTo store.folder folder
  located :
    after.locate true (store.path plan) = .ok (.found position)
  writes :
    disk.WritesFile position plan.content.toUTF8 after
  child :
    (∀ target,
      disk.top.at? (folder ++ [plan.storedName]) ≠ some (.link target)) →
    position = folder ++ [plan.storedName]

/-- A call touches no file before it writes the plan, and none at all if it fails. -/
theorem keep_cases
    {answer : Except Fault ArtifactLocator}
    (kept : store.keep disk plan = (answer, after)) :
    (∃ fault, answer = .error fault ∧ disk.LeavesFiles after) ∨
      ∃ ready,
        answer = .ok ⟨store.path plan⟩ ∧
          disk.LeavesFiles ready ∧
          ready.writeFile (store.path plan) plan.content.toUTF8 =
            (.ok (), after) := by
  have leaves := disk.ensureFolder_leavesFiles store.folder
  unfold keep at kept
  split at kept
  next ready ensured =>
    rw [ensured] at leaves
    generalize wrote :
      ready.writeFile (store.path plan) plan.content.toUTF8 = result at kept
    obtain ⟨outcome, left⟩ := result
    cases outcome with
    | ok =>
        obtain ⟨rfl, rfl⟩ := Prod.mk.inj kept
        exact .inr ⟨ready, rfl, leaves, wrote⟩
    | error failure =>
        obtain ⟨rfl, rfl⟩ := Prod.mk.inj kept
        rw [Disk.writeFile_eq_error wrote]
        exact .inl ⟨_, rfl, leaves⟩
  next failure left ensured =>
    rw [ensured] at leaves
    obtain ⟨rfl, rfl⟩ := Prod.mk.inj kept
    exact .inl ⟨_, rfl, leaves⟩

/-- A plan that is kept is at its own path, in a folder that takes it. -/
theorem keep_eq_ok
    {locator : ArtifactLocator}
    (kept : store.keep disk plan = (.ok locator, after)) :
    locator.location = store.path plan ∧
      ∃ folder position, store.Takes disk plan folder position after := by
  have isFileName := plan.isFileName
  have steps := Path.steps_join store.folder isFileName.step
  obtain ⟨fault, failed, -⟩ | ⟨ready, answered, leaves, wrote⟩ :=
    keep_cases kept
  · cases failed
  · obtain ⟨place, located, locatedNow, writes⟩ :=
      Disk.writeFile_writes
        (Path.not_endsInSlash_join store.folder isFileName.step)
        (by simp [steps]) wrote
    obtain ⟨-, -, walks⟩ := Disk.locate_eq_ok.mp located
    rw [steps, Disk.origin,
      Path.isAbsolute_join store.folder isFileName.step] at walks
    obtain ⟨folder, left, reached, last⟩ := walks.of_snoc
    have leads : ready.LeadsTo store.folder folder :=
      Disk.walk_eq_ok.mpr reached
    refine ⟨by rw [Except.ok.inj answered], folder, place.position,
      writes.leadsTo leads, locatedNow, leaves.writesFile writes, ?_⟩
    intro noLink
    have noLinkNow (target : String) :
        ready.top.at? (folder ++ [plan.storedName]) ≠
          some (.link target) :=
      fun found => noLink target (leaves.links _ target found)
    rcases last.at_name isFileName.name noLinkNow with rfl | rfl
    · rfl
    · rfl

/-- A plan that cannot be kept leaves all files as they are. -/
theorem keep_eq_error
    {fault : Fault}
    (refused : store.keep disk plan = (.error fault, after)) :
    disk.LeavesFiles after := by
  obtain ⟨_, -, leaves⟩ | ⟨_, answered, -⟩ := keep_cases refused
  · exact leaves
  · cases answered

/-- Keeping a plan leaves the ways of all paths as they are. -/
theorem keep_keepsPaths
    {answer : Except Fault ArtifactLocator}
    (kept : store.keep disk plan = (answer, after)) :
    disk.KeepsPaths after := by
  cases answer with
  | error fault =>
      exact (keep_eq_error kept).toKeepsPaths
  | ok locator =>
      obtain ⟨-, folder, position, takes⟩ := keep_eq_ok kept
      exact takes.writes.toKeepsPaths

/-! ## One call after another -/

/-- Keeping many plans leaves the ways of all paths as they are. -/
theorem Serves.keepsPaths
    (serves : store.Serves disk storings final) :
    disk.KeepsPaths final := by
  induction serves with
  | done disk =>
      exact .refl disk
  | keeps kept _ inductionHypothesis =>
      exact (keep_keepsPaths kept).trans inductionHypothesis

/-- A call in between comes after some calls and before the others. -/
theorem Serves.split
    {earlier later : List Storing}
    {storing : Storing}
    (serves : store.Serves disk (earlier ++ storing :: later) final) :
    ∃ before after,
      store.Serves disk earlier before ∧
        store.keep before storing.plan = (storing.answer, after) ∧
          store.Serves after later final := by
  induction earlier generalizing disk with
  | nil =>
      cases serves with
      | keeps kept rest =>
          exact ⟨disk, _, .done disk, kept, rest⟩
  | cons first others inductionHypothesis =>
      cases serves with
      | keeps kept rest =>
          obtain ⟨before, after, earlier, middle, later⟩ :=
            inductionHypothesis rest
          exact ⟨before, after, .keeps kept earlier, middle, later⟩

/-- A call of a store touches no file but the one that it writes into its folder. -/
structure StaysInside
    (store : PlanStore)
    (before : Disk)
    (plan : PlanArtifact)
    (answer : Except Fault ArtifactLocator)
    (after : Disk) : Prop where
  taken :
    ∀ locator,
      answer = .ok locator →
      ∃ folder,
        after.LeadsTo store.folder folder ∧
          after.locate true locator.location =
            .ok (.found (folder ++ [plan.storedName])) ∧
          ∀ path,
            after.top.fileAt? path =
              if path = folder ++ [plan.storedName] then
                some plan.content.toUTF8
              else before.top.fileAt? path
  refused :
    ∀ fault,
      answer = .error fault →
      ∀ path, after.top.fileAt? path = before.top.fileAt? path

/-- On a disk without links a plan is kept inside the folder of the store. -/
theorem keep_staysInside
    {answer : Except Fault ArtifactLocator}
    (linkFree : disk.top.IsLinkFree)
    (kept : store.keep disk plan = (answer, after)) :
    store.StaysInside disk plan answer after := by
  constructor
  · rintro locator rfl
    obtain ⟨location, folder, position, takes⟩ := keep_eq_ok kept
    obtain rfl := takes.child fun target => linkFree _ target
    rw [location]
    exact ⟨folder, takes.reached, takes.located, takes.writes.files⟩
  · rintro fault rfl
    exact (keep_eq_error kept).files

/-- Whatever a store is asked, it touches no file outside its folder. -/
theorem Serves.files_outside
    (serves : store.Serves disk storings final)
    (linkFree : disk.top.IsLinkFree)
    {path : List String}
    (touched : final.top.fileAt? path ≠ disk.top.fileAt? path) :
    ∃ folder name,
      final.LeadsTo store.folder folder ∧ path = folder ++ [name] := by
  induction serves with
  | done =>
      exact absurd rfl touched
  | @keeps disk after final plan answer rest kept serves
      inductionHypothesis =>
      have linkFreeAfter :=
        (keep_keepsPaths kept).links.isLinkFree linkFree
      by_cases later : final.top.fileAt? path = after.top.fileAt? path
      · rw [later] at touched
        have stays := keep_staysInside linkFree kept
        cases answer with
        | error fault =>
            exact absurd (stays.refused fault rfl path) touched
        | ok locator =>
            obtain ⟨folder, leads, -, files⟩ := stays.taken locator rfl
            refine ⟨folder, plan.storedName,
              serves.keepsPaths.leadsTo leads, ?_⟩
            refine Decidable.byContradiction fun elsewhere => ?_
            exact touched ((files path).trans (if_neg elsewhere))
      · exact inductionHypothesis linkFreeAfter later

end PlanStore

/--
On a disk without links, every call of a store that succeeds writes exactly one file: it
is directly in the folder of the store, holds exactly the plan and is where the locator
says.  Every call that fails leaves all files as they were.  No file outside the folder
is ever touched.
-/
theorem plans_stay_in_store
    {store : PlanStore}
    {disk final : Disk}
    {storings : List Storing}
    (linkFree : disk.top.IsLinkFree)
    (serves : store.Serves disk storings final) :
    (∀ earlier storing later,
      storings = earlier ++ storing :: later →
      ∃ before after,
        store.Serves disk earlier before ∧
          store.keep before storing.plan = (storing.answer, after) ∧
          store.Serves after later final ∧
          store.StaysInside before storing.plan storing.answer after) ∧
      ∀ path,
        final.top.fileAt? path ≠ disk.top.fileAt? path →
        ∃ folder name,
          final.LeadsTo store.folder folder ∧ path = folder ++ [name] := by
  constructor
  · rintro earlier storing later rfl
    obtain ⟨before, after, servesBefore, kept, servesAfter⟩ := serves.split
    have linkFreeBefore := servesBefore.keepsPaths.links.isLinkFree linkFree
    exact ⟨before, after, servesBefore, kept, servesAfter,
      PlanStore.keep_staysInside linkFreeBefore kept⟩
  · intro path touched
    exact serves.files_outside linkFree touched

/-! ## An escaping plan and an endless one -/

theorem emptyPlansDisk_isLinkFree :
    emptyPlansDisk.top.IsLinkFree := by
  have plans : (FileTree.folder []).IsLinkFree :=
    FileTree.isLinkFree_folder nofun
  exact FileTree.isLinkFree_folder (by simpa using plans)

/-- A plan whose assessment has a name that points out of the folder. -/
def escapingPlan : PlanArtifact :=
  ⟨"S1", "../x", "# Plan"⟩

/-- A plan whose assessment has a name that is too long for a file. -/
def endlessPlan : PlanArtifact :=
  ⟨"S1", String.ofList (.replicate 256 'x'), "# Plan"⟩

theorem escapingPlan_fits :
    Disk.Fits plansStore.folder escapingPlan.storedName :=
  ⟨by decide, by decide⟩

theorem endlessPlan_not_fits :
    ¬ Disk.Fits plansStore.folder endlessPlan.storedName := by
  refine fun fits => absurd fits.name ?_
  simp only [PlanArtifact.storedName, PlanArtifact.fileName, endlessPlan,
    withoutSeparators, planFileName_toList, String.toList_ofList]
  decide +kernel

/-- A plan with dots in its name is kept, and one with too long a name is not. -/
theorem plansStore_keeps_escapingPlan :
    ∃ fault after,
      plansStore.keep emptyPlansDisk escapingPlan =
        (.ok ⟨plansStore.path escapingPlan⟩, after) ∧
      plansStore.keep after endlessPlan = (.error fault, after) := by
  have works := plansStore_worksOn
  obtain ⟨fault, refused⟩ :=
    (works.put escapingPlan.storedName escapingPlan.content.toUTF8)
      |>.keep_of_not_fits endlessPlan_not_fits
  exact ⟨fault, _, works.keep_of_fits escapingPlan_fits, refused⟩

/-- An escaping plan is left in the folder, and an endless one is not left at all. -/
theorem escaping_plan_stays_in_store :
    ∃ fault final,
      emptyPlansDisk.top.IsLinkFree ∧
      plansStore.Serves emptyPlansDisk
        [⟨escapingPlan, .ok ⟨plansStore.path escapingPlan⟩⟩,
          ⟨endlessPlan, .error fault⟩]
        final ∧
      ∀ path,
        final.top.fileAt? path =
          if path = ["plans", "RA_PLAN_.._x.md"] then some "# Plan".toUTF8
          else emptyPlansDisk.top.fileAt? path := by
  obtain ⟨fault, final, kept, refused⟩ := plansStore_keeps_escapingPlan
  have serves := PlanStore.Serves.keeps kept (.keeps refused (.done final))
  obtain ⟨inside, -⟩ := plans_stay_in_store emptyPlansDisk_isLinkFree serves
  obtain ⟨_, after, servesNone, takes, -, staysInside⟩ :=
    inside [] ⟨escapingPlan, .ok ⟨plansStore.path escapingPlan⟩⟩ _ rfl
  cases servesNone
  obtain ⟨-, rfl⟩ := Prod.mk.inj (kept.symm.trans takes)
  obtain ⟨folder, reached, -, files⟩ := staysInside.taken _ rfl
  have leads :=
    (PlanStore.keep_keepsPaths kept).leadsTo
      (Disk.walk_eq_ok.mpr plansStore_worksOn.holds.reached)
  have name : escapingPlan.storedName = "RA_PLAN_.._x.md" := by decide +kernel
  obtain rfl := Disk.LeadsTo.unique reached leads
  refine ⟨fault, final, emptyPlansDisk_isLinkFree, serves, ?_⟩
  rw [name] at files
  exact files

end AssessmentChat
