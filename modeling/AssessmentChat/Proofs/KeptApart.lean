import AssessmentChat.Proofs.StoredInside

namespace AssessmentChat

/-!
# Plans that share a file

Whatever is stored in between, the file at a locator holds the plan that was written to
it last.  So every plan is found as it was kept exactly if the plans that share a file
say the same.  Unless links bear their names, two plans share a file exactly if the names
of their assessments are equal once their separators are replaced; the replacement keeps
a plan inside the folder, but it does not keep different plans apart.
-/

namespace Disk

variable
  {disk : Disk}
  {path other : String}
  {position : List String}
  {content : ByteArray}

/-- Whether two paths lead to one place. -/
def SameFile (disk : Disk) (path other : String) : Prop :=
  ∃ position,
    disk.locate true path = .ok (.found position) ∧
      disk.locate true other = .ok (.found position)

/-- Whether a link in a folder bears a name. -/
def HasLinkIn (disk : Disk) (folder name : String) : Prop :=
  ∃ position target,
    disk.LeadsTo folder position ∧
      disk.top.at? (position ++ [name]) = some (.link target)

/-- A path that is located is read exactly if there is a file. -/
theorem readFile_eq_ok
    (bare : Path.endsInSlash path = false)
    (located : disk.locate true path = .ok (.found position)) :
    disk.readFile path = .ok content ↔
      disk.top.fileAt? position = some content := by
  rw [FileTree.fileAt?_eq_some, readFile, found?, located]
  cases present : disk.top.at? position with
  | none =>
      simp [present]
  | some tree =>
      cases tree <;> simp [present, bare]

end Disk

/-! ## The names of files -/

/-- Taking the separators out of a file name takes them out of the assessment. -/
theorem withoutSeparators_planFileName
    (assessmentId : String) :
    withoutSeparators (planFileName assessmentId) =
      planFileName (withoutSeparators assessmentId) := by
  rw [← String.toList_inj, planFileName_toList, withoutSeparators,
    planFileName_toList, withoutSeparators]
  simp

/-- File names of plans differ exactly if their assessments do. -/
theorem planFileName_inj
    {assessmentId other : String} :
    planFileName assessmentId = planFileName other ↔
      assessmentId = other := by
  rw [← String.toList_inj, ← String.toList_inj, planFileName_toList,
    planFileName_toList]
  simp

/-- Two plans have one file name exactly if their assessments differ in separators only. -/
theorem storedName_eq_iff
    {plan other : PlanArtifact} :
    plan.storedName = other.storedName ↔
      withoutSeparators plan.assessmentId =
        withoutSeparators other.assessmentId := by
  rw [PlanArtifact.storedName, PlanArtifact.storedName,
    PlanArtifact.fileName, PlanArtifact.fileName,
    withoutSeparators_planFileName, withoutSeparators_planFileName,
    planFileName_inj]

namespace PlanStore

variable
  {store : PlanStore}
  {disk final : Disk}
  {storings : List Storing}

theorem not_endsInSlash_path
    (store : PlanStore)
    (plan : PlanArtifact) :
    Path.endsInSlash (store.path plan) = false :=
  Path.not_endsInSlash_join store.folder plan.isFileName.step

/-- A file stays as it is while whatever is written to it is what it holds. -/
theorem Serves.fileAt?_of_spared
    {position : List String}
    {content : ByteArray}
    (serves : store.Serves disk storings final)
    (present : disk.top.fileAt? position = some content)
    (spared :
      ∀ kept ∈ storings.filterMap Storing.kept?,
        final.locate true kept.locator.location = .ok (.found position) →
        kept.plan.content.toUTF8 = content) :
    final.top.fileAt? position = some content := by
  induction serves with
  | done =>
      exact present
  | @keeps disk after final plan answer rest kept serves
      inductionHypothesis =>
      have later :
          ∀ one ∈ rest.filterMap Storing.kept?,
            final.locate true one.locator.location =
                .ok (.found position) →
            one.plan.content.toUTF8 = content := by
        intro one member
        refine spared one ?_
        rw [List.filterMap_cons]
        split
        · exact member
        · exact List.mem_cons_of_mem _ member
      refine inductionHypothesis ?_ later
      cases answer with
      | error fault =>
          exact ((keep_eq_error kept).files position).trans present
      | ok locator =>
          obtain ⟨location, folder, written, takes⟩ := keep_eq_ok kept
          rw [takes.writes.files]
          split
          next here =>
            subst here
            have located := serves.keepsPaths.locate takes.located
            rw [← location] at located
            have same := spared ⟨plan, locator⟩ List.mem_cons_self located
            exact congrArg some same
          next =>
            exact present

/-- Every plan that the store takes is kept at its own path. -/
theorem kept_taking
    (store : PlanStore)
    (plans : List PlanArtifact) :
    (plans.map store.taking).filterMap Storing.kept? =
      plans.map fun plan => ⟨plan, ⟨store.path plan⟩⟩ := by
  rw [List.filterMap_map, ← List.filterMap_eq_map]
  rfl

/-- Where a plan that was kept is in the end, and what is there. -/
structure KeptAt
    (store : PlanStore)
    (storings : List Storing)
    (final : Disk)
    (kept : KeptPlan)
    (folder position : List String) : Prop where
  bare :
    Path.endsInSlash kept.locator.location = false
  located :
    final.locate true kept.locator.location = .ok (.found position)
  leads :
    final.LeadsTo store.folder folder
  child :
    ¬ final.HasLinkIn store.folder kept.plan.storedName →
    position = folder ++ [kept.plan.storedName]
  holds :
    (∀ other ∈ storings.filterMap Storing.kept?,
      final.locate true other.locator.location = .ok (.found position) →
      other.plan.content = kept.plan.content) →
    final.top.fileAt? position = some kept.plan.content.toUTF8

/-- A plan that is kept is in a folder of the disk, at its position. -/
theorem Serves.keptAt
    {kept : KeptPlan}
    (serves : store.Serves disk storings final)
    (member : kept ∈ storings.filterMap Storing.kept?) :
    ∃ folder position, store.KeptAt storings final kept folder position := by
  obtain ⟨⟨plan, answer⟩, among, same⟩ := List.mem_filterMap.mp member
  obtain ⟨earlier, later, rfl⟩ := List.append_of_mem among
  cases answer with
  | error fault =>
      cases same
  | ok locator =>
      cases same
      obtain ⟨before, after, -, keeps, servesAfter⟩ := serves.split
      obtain ⟨location, folder, position, takes⟩ := keep_eq_ok keeps
      have path := store.not_endsInSlash_path plan
      have located := servesAfter.keepsPaths.locate takes.located
      rw [← location] at path located
      have leads := servesAfter.keepsPaths.leadsTo takes.reached
      refine ⟨folder, position, path, located, leads, ?_, ?_⟩
      · intro noLink
        refine takes.child ?_
        intro target found
        have ways := takes.writes.ways.trans servesAfter.keepsPaths.ways
        obtain ⟨now, foundNow, sameKind⟩ := ways _ _ found
        cases sameKind
        exact noLink ⟨folder, target, leads, foundNow⟩
      · intro spared
        have written :
            after.top.fileAt? position = some plan.content.toUTF8 := by
          rw [takes.writes.files, if_pos rfl]
        refine servesAfter.fileAt?_of_spared written ?_
        intro other otherMember otherLocated
        have amongAll :
            other ∈ (earlier ++ ⟨plan, .ok locator⟩ :: later).filterMap
              Storing.kept? := by
          rw [List.filterMap_append]
          exact List.mem_append_right _
            (List.mem_cons_of_mem _ otherMember)
        rw [spared other amongAll otherLocated]

end PlanStore

/--
Every plan that a store has taken is found as it was kept exactly if those that share a
file say the same.  Where no link bears the name of their files, two plans share a file
exactly if the names of their assessments differ in separators at most.
-/
theorem plans_kept_apart_iff
    {store : PlanStore}
    {disk final : Disk}
    {storings : List Storing}
    (serves : store.Serves disk storings final) :
    ((∀ kept ∈ storings.filterMap Storing.kept?,
        final.readFile kept.locator.location =
          .ok kept.plan.content.toUTF8) ↔
      ∀ kept ∈ storings.filterMap Storing.kept?,
        ∀ other ∈ storings.filterMap Storing.kept?,
          final.SameFile kept.locator.location other.locator.location →
          kept.plan.content = other.plan.content) ∧
      ∀ kept ∈ storings.filterMap Storing.kept?,
        ∀ other ∈ storings.filterMap Storing.kept?,
          ¬ final.HasLinkIn store.folder kept.plan.storedName →
          ¬ final.HasLinkIn store.folder other.plan.storedName →
          (final.SameFile kept.locator.location other.locator.location ↔
            withoutSeparators kept.plan.assessmentId =
              withoutSeparators other.plan.assessmentId) := by
  refine ⟨⟨?_, ?_⟩, ?_⟩
  · intro found kept member other otherMember same
    obtain ⟨position, located, otherLocated⟩ := same
    obtain ⟨folder, _, keptAt⟩ := serves.keptAt member
    obtain ⟨otherFolder, _, otherKeptAt⟩ := serves.keptAt otherMember
    have holds :=
      (Disk.readFile_eq_ok keptAt.bare located).mp (found kept member)
    have otherHolds :=
      (Disk.readFile_eq_ok otherKeptAt.bare otherLocated).mp
        (found other otherMember)
    exact String.toByteArray_inj.mp
      (Option.some.inj (holds.symm.trans otherHolds))
  · intro sayTheSame kept member
    obtain ⟨folder, position, keptAt⟩ := serves.keptAt member
    refine (Disk.readFile_eq_ok keptAt.bare keptAt.located).mpr ?_
    refine keptAt.holds ?_
    intro other otherMember located
    exact sayTheSame other otherMember kept member
      ⟨position, located, keptAt.located⟩
  · intro kept member other otherMember noLink otherNoLink
    obtain ⟨folder, position, keptAt⟩ := serves.keptAt member
    obtain ⟨otherFolder, otherPosition, otherKeptAt⟩ :=
      serves.keptAt otherMember
    obtain rfl := keptAt.leads.unique otherKeptAt.leads
    obtain rfl := keptAt.child noLink
    obtain rfl := otherKeptAt.child otherNoLink
    rw [← storedName_eq_iff]
    constructor
    · rintro ⟨position, here, there⟩
      have samePosition :
          folder ++ [kept.plan.storedName] =
            folder ++ [other.plan.storedName] := by
        have found := keptAt.located.symm.trans here
        have otherFound := otherKeptAt.located.symm.trans there
        exact Place.found.inj (Except.ok.inj (found.trans otherFound.symm))
      simpa using samePosition
    · intro same
      have located := otherKeptAt.located
      rw [← same] at located
      exact ⟨_, keptAt.located, located⟩

/-! ## Two assessments -/

/-- The plans of two assessments. -/
def plansOfTwo (assessmentId other : String) : List PlanArtifact :=
  [⟨"S1", assessmentId, "# First"⟩, ⟨"S1", other, "# Second"⟩]

/-- The store serves plans of two assessments whose file names are short enough. -/
theorem plansStore_serves_plansOfTwo
    (assessmentId other : String)
    (fits :
      Disk.Fits plansStore.folder
        (withoutSeparators (planFileName assessmentId)))
    (otherFits :
      Disk.Fits plansStore.folder
        (withoutSeparators (planFileName other))) :
    ∃ final,
      plansStore.Serves emptyPlansDisk
        ((plansOfTwo assessmentId other).map plansStore.taking) final := by
  refine plansStore_worksOn.serves_of_fits ?_
  rintro plan (_ | ⟨_, _ | ⟨_, ⟨⟩⟩⟩)
  · exact fits
  · exact otherFits

/-- The plans of two assessments are found as they were kept. -/
theorem plans_of_two_assessments_kept_apart :
    ∃ final,
      plansStore.Serves emptyPlansDisk
        ((plansOfTwo "A1" "A2").map plansStore.taking) final ∧
      ∀ plan ∈ plansOfTwo "A1" "A2",
        final.readFile (plansStore.path plan) = .ok plan.content.toUTF8 := by
  obtain ⟨final, serves⟩ :=
    plansStore_serves_plansOfTwo "A1" "A2" ⟨by decide, by decide⟩
      ⟨by decide, by decide⟩
  have linkFree :=
    serves.keepsPaths.links.isLinkFree emptyPlansDisk_isLinkFree
  have noLink (name : String) : ¬ final.HasLinkIn plansStore.folder name := by
    rintro ⟨position, target, -, found⟩
    exact linkFree _ target found
  obtain ⟨found_iff, sameFile_iff⟩ := plans_kept_apart_iff serves
  simp only [PlanStore.kept_taking, List.forall_mem_map]
    at found_iff sameFile_iff
  refine ⟨final, serves, found_iff.mpr ?_⟩
  intro plan member other otherMember same
  have sameId :=
    (sameFile_iff plan member other otherMember (noLink _) (noLink _)).mp
      same
  have differ : withoutSeparators "A1" ≠ withoutSeparators "A2" := by decide
  rcases member with _ | ⟨_, _ | ⟨_, ⟨⟩⟩⟩ <;>
    rcases otherMember with _ | ⟨_, _ | ⟨_, ⟨⟩⟩⟩
  · rfl
  · exact absurd sameId differ
  · exact absurd sameId.symm differ
  · rfl

/--
The plans of two assessments are not always kept apart: a name with a slash and one with
an underscore in its place are those of one file.
-/
theorem plans_not_always_kept_apart :
    ∃ final,
      plansStore.Serves emptyPlansDisk
        ((plansOfTwo "a/b" "a_b").map plansStore.taking) final ∧
      ∃ plan ∈ plansOfTwo "a/b" "a_b",
        final.readFile (plansStore.path plan) ≠ .ok plan.content.toUTF8 := by
  obtain ⟨final, serves⟩ :=
    plansStore_serves_plansOfTwo "a/b" "a_b" ⟨by decide, by decide⟩
      ⟨by decide, by decide⟩
  refine ⟨final, serves, _, List.mem_cons_self, ?_⟩
  intro found
  have servesBoth :
      plansStore.Serves emptyPlansDisk
        ([plansStore.taking ⟨"S1", "a/b", "# First"⟩] ++
          plansStore.taking ⟨"S1", "a_b", "# Second"⟩ :: [])
        final :=
    serves
  obtain ⟨before, after, -, kept, servesNone⟩ := servesBoth.split
  cases servesNone
  obtain ⟨-, folder, position, takes⟩ := PlanStore.keep_eq_ok kept
  have samePath :
      plansStore.path ⟨"S1", "a_b", "# Second"⟩ =
        plansStore.path ⟨"S1", "a/b", "# First"⟩ := by
    decide +kernel
  have located := takes.located
  rw [PlanStore.taking, samePath] at located
  have written :=
    (takes.writes.files position).trans (if_pos rfl)
  have first :=
    (Disk.readFile_eq_ok (plansStore.not_endsInSlash_path _) located).mp found
  have sameContent :=
    String.toByteArray_inj.mp (Option.some.inj (first.symm.trans written))
  exact absurd sameContent (by decide)

end AssessmentChat
