import AssessmentChat.Proofs.StoredPlans

namespace AssessmentChat

/-!
# Plans as files of their own

A plan that is exported under the name of a file becomes a file of the working folder,
and no folder is made for it.  A path with a slash is a way through a folder: when the
working folder has nothing of the folder's name, the folder is made.

The service chooses the names of assessments.  The file name of a plan begins and ends
as it always does, so it is the name of a file unless there is a slash in between.
-/

namespace Path

/-- A name is its own only component, and lies in the folder where one is. -/
theorem parent?_of_isFileName
    {name : String}
    (isFileName : Disk.IsFileName name) :
    parent? name = some "" := by
  have components : components name = [name] := by
    rw [Path.components, steps_of_isStep isFileName.step]
    simp [isFileName.name.1]
  rw [parent?, components]
  simp [ofSteps, not_isAbsolute_of_isStep isFileName.step]

theorem join_empty
    {name : String}
    (isStep : IsStep name) :
    join "" name = name := by
  rw [join, not_isAbsolute_of_isStep isStep]
  simp

/-- Where there is a letter other than a slash, there is a piece that is not empty. -/
theorem exists_piece
    {letters rest : List Char}
    (letter :
      letters ≠ [] ∨ ∃ letter ∈ rest, letter ≠ '/') :
    ∃ piece ∈ piecesAfter letters rest, piece ≠ "" := by
  induction rest generalizing letters with
  | nil =>
      have read : letters ≠ [] := by simpa using letter
      exact ⟨_, List.mem_singleton_self _, by simpa using read⟩
  | cons first rest inductionHypothesis =>
      by_cases slash : first = '/'
      · subst slash
        by_cases read : letters = []
        · have later : ∃ letter ∈ rest, letter ≠ '/' := by
            simpa [read] using letter
          obtain ⟨piece, among, named⟩ := inductionHypothesis (.inr later)
          exact ⟨piece, List.mem_cons_of_mem _ among, named⟩
        · exact ⟨_, List.mem_cons_self, by simpa using read⟩
      · rw [piecesAfter_letter slash]
        exact inductionHypothesis (.inl (List.cons_ne_nil _ _))

/-- A path that goes on after a slash has more than one step. -/
theorem steps_eq_cons
    {front back : List Char}
    (isStep : IsStep (String.ofList front))
    (goesOn : ∃ letter ∈ back, letter ≠ '/') :
    ∃ second rest,
      steps (String.ofList (front ++ '/' :: back)) =
        String.ofList front :: second :: rest := by
  obtain ⟨piece, among, named⟩ := @exists_piece [] back (.inr goesOn)
  have further : piece ∈ steps (String.ofList back) := by
    refine List.mem_filter.mpr ⟨?_, by simpa using named⟩
    rwa [String.toList_ofList]
  obtain ⟨second, rest, others⟩ :=
    List.exists_cons_of_ne_nil (List.ne_nil_of_mem further)
  rw [steps_append_slash, steps_of_isStep isStep, others]
  exact ⟨second, rest, rfl⟩

end Path

namespace Disk

/--
A plan that is exported becomes a file directly in the working folder, unless there is
a link of that name.  If it cannot be written, nothing is changed.
-/
structure ExportsInPlace
    (disk : Disk)
    (content path : String) : Prop where
  written :
    ∀ locator after,
      exportPlan disk content path = (.ok locator, after) →
      locator = ⟨path⟩ ∧
        ((∀ target,
            disk.top.at? (disk.here ++ [path]) ≠ some (.link target)) →
          after = disk.put (disk.here ++ [path]) (.file content.toUTF8))
  failed :
    ∀ fault after,
      exportPlan disk content path = (.error fault, after) →
      after = disk

/--
A plan is exported through a folder in the working folder, which is made if there is
nothing of its name.
-/
def ExportsThroughFolder
    (disk : Disk)
    (content path : String) : Prop :=
  ∃ folder,
    folder ≠ path ∧
      ∀ locator after,
        exportPlan disk content path = (.ok locator, after) →
        disk.top.at? (disk.here ++ [folder]) = none →
        ∃ entries,
          after.top.at? (disk.here ++ [folder]) = some (.folder entries)

/-! ## Writing a file -/

section Writing

variable
  {disk after : Disk}
  {path : String}
  {content : ByteArray}

/-- A vacant place is a name that its folder does not have. -/
theorem Walks.vacant_entry
    {throughLast : Bool}
    {links : Nat}
    {position remaining folder : List String}
    {name : String}
    (walks :
      disk.Walks throughLast links position remaining
        (.vacant folder name)) :
    ∃ entries,
      disk.top.at? folder = some (.folder entries) ∧
        entries.lookup name = none := by
  generalize arrives : Place.vacant folder name = place at walks
  induction walks with
  | arrived | endsAtLink =>
      cases arrives
  | misses _ present _ _ entry =>
      cases arrives
      exact ⟨_, present, entry⟩
  | stays _ _ inductionHypothesis | goesUp _ _ inductionHypothesis
  | followsLink _ _ _ _ _ _ inductionHypothesis
  | enters _ _ _ _ _ _ inductionHypothesis =>
      exact inductionHypothesis arrives

/-- Nothing is at a vacant place. -/
theorem Walks.at?_vacant
    {throughLast : Bool}
    {links : Nat}
    {position remaining folder : List String}
    {name : String}
    (walks :
      disk.Walks throughLast links position remaining
        (.vacant folder name)) :
    disk.top.at? (folder ++ [name]) = none := by
  obtain ⟨entries, present, entry⟩ := walks.vacant_entry
  simp [FileTree.at?_snoc, present, FileTree.entries?, entry]

/-- Where a file that is written is put: no folder is there. -/
theorem writeFile_eq_ok
    (bare : Path.endsInSlash path = false)
    (written : disk.writeFile path content = (.ok (), after)) :
    ∃ position place,
      disk.locate true path = .ok place ∧
        (place = .found position ∨
          ∃ folder name,
            place = .vacant folder name ∧ position = folder ++ [name]) ∧
        (disk.top.at? position).any FileTree.isFolder = false ∧
        after = disk.put position (.file content) := by
  rw [writeFile, bare] at written
  cases located : disk.locate true path with
  | error failure =>
      simp [located] at written
  | ok place =>
      cases place with
      | found position =>
          refine ⟨position, _, rfl, .inl rfl, ?_⟩
          cases isFolder :
              (disk.top.at? position).any FileTree.isFolder with
          | true =>
              simp [located, isFolder] at written
          | false =>
              simp only [located, isFolder, Bool.false_eq_true, ↓reduceIte,
                Prod.mk.injEq, true_and] at written
              exact ⟨rfl, written.symm⟩
      | vacant folder name =>
          obtain ⟨-, -, walks⟩ := locate_eq_ok.mp located
          refine ⟨_, _, rfl, .inr ⟨folder, name, rfl, rfl⟩, ?_⟩
          simp only [located, Bool.false_eq_true, ↓reduceIte,
            Prod.mk.injEq, true_and] at written
          exact ⟨by rw [walks.at?_vacant]; rfl, written.symm⟩

/-- A file that cannot be written changes nothing. -/
theorem writeFile_eq_error
    {failure : FileFault}
    (failed : disk.writeFile path content = (.error failure, after)) :
    after = disk := by
  unfold writeFile at failed
  split at failed
  · split at failed <;> exact (Prod.mk.inj failed).2.symm
  · split at failed
    · split at failed
      · exact (Prod.mk.inj failed).2.symm
      · cases failed
    · cases failed
    · exact (Prod.mk.inj failed).2.symm

end Writing

/-! ## Names of files -/

section InPlace

variable
  {disk after : Disk}
  {name : String}

/-- Where the name of a file leads, if there is no link of that name. -/
theorem Walks.at_name
    {links : Nat}
    {position : List String}
    {place : Place}
    (walks : disk.Walks true links position [name] place)
    (isName : IsName name)
    (noLink :
      ∀ target, disk.top.at? (position ++ [name]) ≠ some (.link target)) :
    place = .found (position ++ [name]) ∨ place = .vacant position name := by
  cases walks with
  | stays =>
      exact absurd rfl isName.1
  | goesUp =>
      exact absurd rfl isName.2
  | misses =>
      exact .inr rfl
  | endsAtLink _ _ _ _ _ notThrough =>
      cases notThrough
  | @followsLink _ _ _ _ target _ _ folder _ _ entry =>
      refine absurd ?_ (noLink target)
      simpa [FileTree.at?_snoc, folder, FileTree.entries?] using entry
  | enters _ _ _ _ _ arrived =>
      cases arrived
      exact .inl rfl

theorem not_endsInSlash_of_isFileName
    (isFileName : IsFileName name) :
    Path.endsInSlash name = false := by
  have joined := Path.not_endsInSlash_join "" isFileName.step
  rwa [Path.join_empty isFileName.step] at joined

/-- A file that is written under its name is in the working folder. -/
theorem writeFile_of_isFileName
    {content : ByteArray}
    (isFileName : IsFileName name)
    (written : disk.writeFile name content = (.ok (), after))
    (noLink :
      ∀ target,
        disk.top.at? (disk.here ++ [name]) ≠ some (.link target)) :
    after = disk.put (disk.here ++ [name]) (.file content) := by
  obtain ⟨position, place, located, leads, -, rfl⟩ :=
    writeFile_eq_ok (not_endsInSlash_of_isFileName isFileName) written
  obtain ⟨-, -, walks⟩ := locate_eq_ok.mp located
  rw [Path.steps_of_isStep isFileName.step, origin,
    Path.not_isAbsolute_of_isStep isFileName.step] at walks
  rcases walks.at_name isFileName.name noLink with rfl | rfl
  · obtain same | ⟨_, _, isVacant, -⟩ := leads
    · cases same
      rfl
    · cases isVacant
  · obtain isFound | ⟨_, _, same, rfl⟩ := leads
    · cases isFound
    · cases same
      rfl

theorem exportPlan_of_isFileName
    (isFileName : IsFileName name)
    (disk : Disk)
    (content : String) :
    exportPlan disk content name =
      PlanStore.located name (disk.writeFile name content.toUTF8) := by
  simp [exportPlan, ensureParent, Path.parent?_of_isFileName isFileName]

/-- The name of a file is written in place. -/
theorem exportsInPlace
    (isFileName : IsFileName name)
    (disk : Disk)
    (content : String) :
    disk.ExportsInPlace content name := by
  have exports := exportPlan_of_isFileName isFileName disk content
  obtain ⟨outcome, left, wrote⟩ :
      ∃ outcome left,
        disk.writeFile name content.toUTF8 = (outcome, left) :=
    ⟨_, _, rfl⟩
  rw [wrote] at exports
  cases outcome with
  | ok =>
      refine ⟨?_, ?_⟩
      · intro locator after exported
        obtain ⟨sameLocator, rfl⟩ :=
          Prod.mk.inj (exports.symm.trans exported)
        exact ⟨(Except.ok.inj sameLocator).symm,
          writeFile_of_isFileName isFileName wrote⟩
      · intro fault after exported
        cases exports.symm.trans exported
  | error failure =>
      refine ⟨?_, ?_⟩
      · intro locator after exported
        cases exports.symm.trans exported
      · intro fault after exported
        obtain ⟨-, rfl⟩ := Prod.mk.inj (exports.symm.trans exported)
        exact writeFile_eq_error wrote

end InPlace

end Disk

/-! ## Ways through folders -/

namespace FileTree

/-- Whether every link was there before. -/
def AddsNoLink (before after : FileTree) : Prop :=
  ∀ path target,
    after.at? path = some (.link target) →
    before.at? path = some (.link target)

theorem at?_emptyFolder
    (path : List String)
    (target : String) :
    (FileTree.folder []).at? path ≠ some (.link target) := by
  cases path <;> simp [at?]

/-- An empty folder adds no link, wherever it is put. -/
theorem AddsNoLink.put
    (tree : FileTree)
    (position : List String) :
    tree.AddsNoLink (tree.put (.folder []) position) := by
  induction position generalizing tree with
  | nil =>
      intro path target found
      exact absurd found (at?_emptyFolder path target)
  | cons step rest inductionHypothesis =>
      cases tree with
      | file | link =>
          exact fun _ _ found => found
      | folder entries =>
          intro path target found
          cases path with
          | nil =>
              cases entry : entries.lookup step <;>
                simp [FileTree.put, entry, at?] at found
          | cons name below =>
              cases entry : entries.lookup step with
              | none =>
                  simp only [FileTree.put, entry, at?, lookup_setEntry]
                    at found
                  split at found
                  · exact absurd found (at?_emptyFolder below target)
                  · exact found
              | some child =>
                  simp only [FileTree.put, entry, at?, lookup_setEntry]
                    at found
                  split at found
                  next same =>
                    have before := inductionHypothesis child below target found
                    simpa [at?, same, entry] using before
                  next =>
                    exact found

/-- What is put where no folder is leaves every folder. -/
theorem at?_put_isFolder
    {tree replacement : FileTree}
    {position path : List String}
    {entries : List (String × FileTree)}
    (noFolder : (tree.at? position).any isFolder = false)
    (found : tree.at? path = some (.folder entries)) :
    ∃ entriesNow,
      (tree.put replacement position).at? path =
        some (.folder entriesNow) := by
  induction position generalizing tree path with
  | nil =>
      cases tree with
      | file | link =>
          cases path <;> simp [at?] at found
      | folder others =>
          simp [at?, isFolder, entries?] at noFolder
  | cons step rest inductionHypothesis =>
      cases tree with
      | file | link =>
          exact ⟨entries, found⟩
      | folder others =>
          cases path with
          | nil =>
              cases entry : others.lookup step <;>
                simp [FileTree.put, entry, at?]
          | cons name below =>
              obtain ⟨child, childEntry, childFound⟩ :=
                Option.bind_eq_some_iff.mp found
              by_cases same : name = step
              · subst same
                have noFolderBelow :
                    (child.at? rest).any isFolder = false := by
                  simpa [at?, childEntry] using noFolder
                obtain ⟨entriesNow, foundNow⟩ :=
                  inductionHypothesis noFolderBelow childFound
                refine ⟨entriesNow, ?_⟩
                simpa [FileTree.put, childEntry, at?, lookup_setEntry]
                  using foundNow
              · refine ⟨entries, ?_⟩
                cases entry : others.lookup step <;>
                  simpa [FileTree.put, entry, at?, lookup_setEntry, same,
                    childEntry] using childFound

end FileTree

namespace Disk

variable
  {disk after : Disk}
  {path : String}

/-- To make a folder adds no link and does not change where one is. -/
structure OnlyAddsFolders (disk after : Disk) : Prop where
  here : after.here = disk.here
  links : disk.top.AddsNoLink after.top

theorem OnlyAddsFolders.refl (disk : Disk) : disk.OnlyAddsFolders disk :=
  ⟨rfl, fun _ _ found => found⟩

theorem OnlyAddsFolders.trans
    {between : Disk}
    (first : disk.OnlyAddsFolders between)
    (second : between.OnlyAddsFolders after) :
    disk.OnlyAddsFolders after :=
  ⟨second.here.trans first.here,
    fun path target found =>
      first.links path target (second.links path target found)⟩

theorem makeFolder_onlyAddsFolders
    (made : disk.makeFolder path = .ok after) :
    disk.OnlyAddsFolders after := by
  unfold makeFolder at made
  split at made
  next =>
    cases made
  next =>
    cases made
    exact ⟨rfl, .put disk.top _⟩
  next =>
    cases made

/-- What every folder that is made leaves alone, making the folders of a path leaves alone. -/
theorem makeFolders_leaves
    {Leaves : Disk → Disk → Prop}
    (refl : ∀ disk, Leaves disk disk)
    (trans :
      ∀ {disk between after},
        Leaves disk between → Leaves between after → Leaves disk after)
    (makes :
      ∀ {disk made path},
        disk.makeFolder path = .ok made → Leaves disk made)
    (disk : Disk)
    (absolute : Bool)
    (steps : List String) :
    Leaves disk (disk.makeFolders absolute steps).2 := by
  induction steps generalizing disk with
  | nil =>
      exact refl disk
  | cons last above inductionHypothesis =>
      have raised := inductionHypothesis disk
      unfold makeFolders
      dsimp only
      split
      next made =>
        exact makes made
      next =>
        split
        next made =>
          rw [made] at raised
          split
          next madeThen =>
            exact trans raised (makes madeThen)
          next =>
            split <;> exact raised
        next made =>
          rw [made] at raised
          exact raised
      next =>
        split <;> exact refl disk

theorem makeFolders_onlyAddsFolders
    (disk : Disk)
    (absolute : Bool)
    (steps : List String) :
    disk.OnlyAddsFolders (disk.makeFolders absolute steps).2 :=
  makeFolders_leaves .refl .trans makeFolder_onlyAddsFolders disk absolute steps

theorem ensureParent_onlyAddsFolders
    (disk : Disk)
    (path : String) :
    disk.OnlyAddsFolders (disk.ensureParent path).2 := by
  unfold ensureParent
  split
  · split
    · exact .refl disk
    · exact makeFolders_onlyAddsFolders disk _ _
  · exact .refl disk

/-- A plan is written on the disk on which its folder has been made. -/
theorem exportPlan_eq_ok
    {content : String}
    {locator : ArtifactLocator}
    (exported : exportPlan disk content path = (.ok locator, after)) :
    ∃ ready,
      disk.OnlyAddsFolders ready ∧
        ready.writeFile path content.toUTF8 = (.ok (), after) := by
  have onlyAdds := disk.ensureParent_onlyAddsFolders path
  unfold exportPlan at exported
  split at exported
  next ready ensured =>
    rw [ensured] at onlyAdds
    refine ⟨ready, onlyAdds, ?_⟩
    obtain ⟨outcome, left, wrote⟩ :
        ∃ outcome left,
          ready.writeFile path content.toUTF8 = (outcome, left) :=
      ⟨_, _, rfl⟩
    rw [wrote] at exported ⊢
    cases outcome with
    | ok =>
        cases exported
        rfl
    | error failure =>
        cases exported
  next =>
    cases exported

/-- A walk that goes on starts from a folder. -/
theorem Walks.folder_of_cons
    {throughLast : Bool}
    {links : Nat}
    {position rest : List String}
    {step : String}
    {place : Place}
    (walks :
      disk.Walks throughLast links position (step :: rest) place) :
    ∃ entries, disk.top.at? position = some (.folder entries) := by
  cases walks with
  | stays folder | goesUp folder | misses _ folder | endsAtLink _ folder
  | followsLink folder | enters folder =>
      exact ⟨_, folder⟩

/-- A walk that goes on after a name goes through a folder or a link of that name. -/
theorem Walks.through
    {links : Nat}
    {position rest : List String}
    {name second : String}
    {place : Place}
    (walks : disk.Walks true links position (name :: second :: rest) place)
    (isName : IsName name) :
    (∃ entries,
        disk.top.at? (position ++ [name]) = some (.folder entries)) ∨
      ∃ target,
        disk.top.at? (position ++ [name]) = some (.link target) := by
  cases walks with
  | stays =>
      exact absurd rfl isName.1
  | goesUp =>
      exact absurd rfl isName.2
  | @followsLink _ _ _ _ target _ _ folder _ _ entry =>
      refine .inr ⟨target, ?_⟩
      simpa [FileTree.at?_snoc, folder, FileTree.entries?] using entry
  | enters _ _ _ _ _ onward =>
      exact .inl onward.folder_of_cons

/-- A path that goes on after a name is written through a folder of that name. -/
theorem exportsThroughFolder
    {name second : String}
    {rest : List String}
    (steps : Path.steps path = name :: second :: rest)
    (isName : IsName name)
    (relative : Path.isAbsolute path = false)
    (bare : Path.endsInSlash path = false)
    (other : name ≠ path)
    (disk : Disk)
    (content : String) :
    disk.ExportsThroughFolder content path := by
  refine ⟨name, other, ?_⟩
  intro locator after exported nothing
  obtain ⟨ready, onlyAdds, wrote⟩ := exportPlan_eq_ok exported
  obtain ⟨position, place, located, -, noFolder, rfl⟩ :=
    writeFile_eq_ok bare wrote
  obtain ⟨-, -, walks⟩ := locate_eq_ok.mp located
  rw [steps, origin, relative, onlyAdds.here] at walks
  rcases walks.through isName with ⟨entries, found⟩ | ⟨target, found⟩
  · exact FileTree.at?_put_isFolder noFolder found
  · have before := onlyAdds.links _ _ found
    simp only [Bool.false_eq_true, ↓reduceIte, nothing] at before
    cases before

end Disk

/-! ## The file name of a plan -/

theorem planFileName_toList
    (assessmentId : String) :
    (planFileName assessmentId).toList =
      "RA_PLAN_".toList ++ assessmentId.toList ++ ".md".toList := by
  simp only [planFileName, String.toList_append]
  rfl

theorem planFileName_head?
    (assessmentId : String) :
    (planFileName assessmentId).toList.head? = some 'R' := by
  rw [planFileName_toList]
  rfl

theorem planFileName_getLast?
    (assessmentId : String) :
    (planFileName assessmentId).toList.getLast? = some 'd' := by
  rw [planFileName_toList, List.getLast?_append]
  rfl

/-- The file name of a plan is that of a file unless there is a slash in it. -/
theorem isFileName_planFileName_iff
    (assessmentId : String) :
    Disk.IsFileName (planFileName assessmentId) ↔
      '/' ∉ assessmentId.toList := by
  have slashes :
      '/' ∈ (planFileName assessmentId).toList ↔
        '/' ∈ assessmentId.toList := by
    rw [planFileName_toList]
    simp
  have differs {other : String} (start : other.toList.head? ≠ some 'R') :
      planFileName assessmentId ≠ other := by
    rintro same
    rw [← same] at start
    exact start (planFileName_head? assessmentId)
  constructor
  · intro isFileName
    exact mt slashes.mpr isFileName.step.2
  · intro plain
    exact ⟨⟨differs (by decide), mt slashes.mp plain⟩,
      differs (by decide), differs (by decide)⟩

/-- With a slash it is a way through a folder. -/
theorem exportsThroughFolder_planFileName
    {assessmentId : String}
    (slash : '/' ∈ assessmentId.toList)
    (disk : Disk)
    (content : String) :
    disk.ExportsThroughFolder content (planFileName assessmentId) := by
  obtain ⟨front, back, letters, plain⟩ :=
    List.eq_append_cons_of_mem slash
  have shape :
      planFileName assessmentId =
        String.ofList
          (("RA_PLAN_".toList ++ front) ++
            '/' :: (back ++ ".md".toList)) := by
    rw [← String.toList_inj, planFileName_toList, letters]
    simp
  have isStep : Path.IsStep (String.ofList ("RA_PLAN_".toList ++ front)) := by
    refine ⟨by simp, ?_⟩
    simpa using plain
  have goesOn : ∃ letter ∈ back ++ ".md".toList, letter ≠ '/' :=
    ⟨'d', by simp, by decide⟩
  obtain ⟨second, rest, steps⟩ := Path.steps_eq_cons isStep goesOn
  rw [← shape] at steps
  refine Disk.exportsThroughFolder steps ⟨?_, ?_⟩ ?_ ?_ ?_ disk content
  · simp [← String.toList_inj]
  · simp [← String.toList_inj]
  · simp [Path.isAbsolute, planFileName_head?]
  · simp [Path.endsInSlash, planFileName_getLast?]
  · intro same
    refine isStep.2 ?_
    rw [same, planFileName_toList]
    simp [slash]

end AssessmentChat
