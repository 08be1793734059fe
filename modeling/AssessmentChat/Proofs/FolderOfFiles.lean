import AssessmentChat.Proofs.FollowingPaths

namespace AssessmentChat.Disk

/-!
# Folders of files

A folder that holds nothing but files is easy to work in.  Making it again
changes nothing, and a file whose name is not too long can be written and read
back.  Writing one file sets its entry, and the folder still holds nothing but
files.
-/

variable
  {disk : Disk}
  {throughLast : Bool}
  {path folder name : String}
  {position : List String}
  {entries : List (String × FileTree)}
  {place : Place}

/-- Where the steps of a path start. -/
def origin (disk : Disk) (path : String) : List String :=
  if Path.isAbsolute path then [] else disk.here

/-! ## What paths lead to -/

/-- A path is located exactly if it is short enough and its steps can be walked. -/
theorem locate_eq_ok :
    disk.locate throughLast path = .ok place ↔
      path ≠ "" ∧ path.utf8ByteSize < pathLimit ∧
        disk.Walks throughLast linkLimit (disk.origin path)
          (Path.steps path) place := by
  unfold locate follow
  by_cases empty : path = ""
  · simp [empty]
  · by_cases short : path.utf8ByteSize < pathLimit
    · have notLong : ¬ path.utf8ByteSize ≥ pathLimit :=
        Nat.not_le.mpr short
      simp [empty, short, notLong, ← walk_eq_ok, origin]
    · have long : path.utf8ByteSize ≥ pathLimit := Nat.not_lt.mp short
      simp [empty, short, long]

/-- A tree is found exactly if its path is located and it is there. -/
theorem found?_eq_ok
    {tree : FileTree} :
    disk.found? path = .ok tree ↔
      ∃ position,
        disk.locate true path = .ok (.found position) ∧
          disk.top.at? position = some tree := by
  unfold found?
  cases located : disk.locate true path with
  | error failure =>
      simp
  | ok place =>
      cases place with
      | vacant =>
          simp
      | found position =>
          cases present : disk.top.at? position with
          | none =>
              simp [present]
          | some found =>
              simp [present]

/-- A folder is read exactly if one is found. -/
theorem readFolder_eq_ok :
    disk.readFolder path = .ok entries ↔
      disk.found? path = .ok (.folder entries) := by
  unfold readFolder
  cases disk.found? path with
  | error =>
      simp
  | ok tree =>
      cases tree <;> simp

/-- A path is a folder exactly if one is found there. -/
theorem isFolder_iff :
    disk.isFolder path = true ↔
      ∃ entries, disk.found? path = .ok (.folder entries) := by
  unfold isFolder
  cases read : disk.readFolder path with
  | error failure =>
      have nothing (entries : List (String × FileTree)) :
          disk.found? path ≠ .ok (.folder entries) := by
        rw [Ne, ← readFolder_eq_ok, read]
        nofun
      simp [Except.isOk, Except.toBool, nothing]
  | ok entries =>
      have found := readFolder_eq_ok.mp read
      simp [Except.isOk, Except.toBool, found]

/-! ## Folders that are there already -/

/-- A folder that is there is not made again. -/
theorem makeFolder_of_isFolder
    (isFolder : disk.isFolder path = true) :
    disk.makeFolder path = .error .alreadyExists := by
  obtain ⟨entries, found⟩ := isFolder_iff.mp isFolder
  obtain ⟨position, located, -⟩ := found?_eq_ok.mp found
  obtain ⟨named, short, walks⟩ := locate_eq_ok.mp located
  obtain ⟨other, walksToLink⟩ := walks.without_last
  have locatedToo : disk.locate false path = .ok (.found other) :=
    locate_eq_ok.mpr ⟨named, short, walksToLink⟩
  rw [makeFolder, locatedToo]

/-- The path under which a folder is made. -/
def madeAs (folder : String) : String :=
  Path.ofSteps (Path.isAbsolute folder) (Path.steps folder)

/-- A folder that is there is not made anew. -/
theorem ensureFolder_of_isFolder
    (isFolder :
      Path.steps folder ≠ [] → disk.isFolder (madeAs folder) = true) :
    disk.ensureFolder folder = (.ok (), disk) := by
  unfold ensureFolder
  cases reversed : (Path.steps folder).reverse with
  | nil =>
      rfl
  | cons last above =>
      have stepped : Path.steps folder ≠ [] := by
        intro empty
        simp [empty] at reversed
      have present := isFolder stepped
      have path :
          Path.ofSteps (Path.isAbsolute folder) (last :: above).reverse =
            madeAs folder := by
        rw [← reversed, List.reverse_reverse]
        rfl
      simp only [makeFolders, path, makeFolder_of_isFolder present,
        present, ↓reduceIte]

/-- A folder that has been made has a path that is not too long. -/
theorem short_of_makeFolders
    {absolute : Bool}
    {last : String}
    {above : List String}
    {ready : Disk}
    (made : disk.makeFolders absolute (last :: above) = (.ok (), ready)) :
    (Path.ofSteps absolute (last :: above).reverse).utf8ByteSize <
      pathLimit := by
  have shortOfMade {disk made : Disk}
      (made : disk.makeFolder
        (Path.ofSteps absolute (last :: above).reverse) = .ok made) :
      (Path.ofSteps absolute (last :: above).reverse).utf8ByteSize <
        pathLimit := by
    unfold makeFolder at made
    split at made
    next =>
      cases made
    next located =>
      exact (locate_eq_ok.mp located).2.1
    next =>
      cases made
  have shortOfFound {disk : Disk}
      (isFolder : disk.isFolder
        (Path.ofSteps absolute (last :: above).reverse) = true) :
      (Path.ofSteps absolute (last :: above).reverse).utf8ByteSize <
        pathLimit := by
    obtain ⟨entries, found⟩ := isFolder_iff.mp isFolder
    obtain ⟨position, located, -⟩ := found?_eq_ok.mp found
    exact (locate_eq_ok.mp located).2.1
  unfold makeFolders at made
  dsimp only at made
  split at made
  next madeAtOnce =>
    exact shortOfMade madeAtOnce
  next =>
    split at made
    next =>
      split at made
      next madeThen =>
        exact shortOfMade madeThen
      next =>
        split at made
        next isFolder =>
          exact shortOfFound isFolder
        next =>
          cases made
    next =>
      cases made
  next =>
    split at made
    next isFolder =>
      exact shortOfFound isFolder
    next =>
      cases made

theorem short_of_ensureFolder
    {ready : Disk}
    (ensured : disk.ensureFolder folder = (.ok (), ready))
    (stepped : Path.steps folder ≠ []) :
    (madeAs folder).utf8ByteSize < pathLimit := by
  unfold ensureFolder at ensured
  cases reversed : (Path.steps folder).reverse with
  | nil =>
      exact absurd (List.reverse_eq_nil_iff.mp reversed) stepped
  | cons last above =>
      rw [reversed] at ensured
      have short := short_of_makeFolders ensured
      rwa [← reversed, List.reverse_reverse] at short

/-! ## Folders of files -/

/-- A name that a file in a folder can have. -/
structure IsFileName (name : String) : Prop where
  step :
    Path.IsStep name
  name :
    IsName name

/-- A name that is not too long for a file of a folder. -/
structure Fits (folder name : String) : Prop where
  path :
    (Path.join folder name).utf8ByteSize < pathLimit
  name :
    name.utf8ByteSize ≤ nameLimit

/-- A path that leads somewhere has a name of the right size. -/
theorem fits_of_locate
    (isFileName : IsFileName name)
    (located : disk.locate true (Path.join folder name) = .ok place) :
    Fits folder name := by
  obtain ⟨-, short, walks⟩ := locate_eq_ok.mp located
  rw [Path.steps_join folder isFileName.step] at walks
  obtain ⟨found, left, -, last⟩ := walks.of_snoc
  refine ⟨short, ?_⟩
  cases last with
  | stays =>
      exact absurd rfl isFileName.name.1
  | goesUp =>
      exact absurd rfl isFileName.name.2
  | misses _ _ _ fits | endsAtLink _ _ _ fits | followsLink _ _ fits
  | enters _ _ fits =>
      exact fits

/-- A file whose name is too long is not written, and nothing changes. -/
theorem writeFile_of_not_fits
    (disk : Disk)
    (isFileName : IsFileName name)
    (tooLong : ¬ Fits folder name)
    (content : ByteArray) :
    ∃ failure,
      disk.writeFile (Path.join folder name) content =
        (.error failure, disk) := by
  unfold writeFile
  rw [Path.not_endsInSlash_join folder isFileName.step]
  cases located : disk.locate true (Path.join folder name) with
  | ok place =>
      exact absurd (fits_of_locate isFileName located) tooLong
  | error failure =>
      exact ⟨failure, by simp⟩

/-- A folder that holds nothing but files, by the position that its path leads to. -/
structure HoldsFiles
    (disk : Disk)
    (folder : String)
    (position : List String)
    (entries : List (String × FileTree)) : Prop where
  reached :
    disk.Walks true linkLimit (disk.origin folder) (Path.steps folder)
      (.found position)
  present :
    disk.top.at? position = some (.folder entries)
  files :
    ∀ name tree,
      entries.lookup name = some tree →
      ∃ content, tree = .file content

/-- A folder without entries, seen from inside, is a folder of files. -/
theorem HoldsFiles.of_empty
    (empty : disk.readFolder (Path.join folder ".") = .ok []) :
    ∃ position, disk.HoldsFiles folder position [] := by
  have isStep : Path.IsStep "." := ⟨by decide, by decide⟩
  obtain ⟨position, located, present⟩ :=
    found?_eq_ok.mp (readFolder_eq_ok.mp empty)
  obtain ⟨-, -, walks⟩ := locate_eq_ok.mp located
  rw [Path.steps_join folder isStep, origin, Path.isAbsolute_join folder isStep] at walks
  obtain ⟨found, left, reached, stays⟩ := walks.of_snoc
  refine ⟨position, ?_, present, nofun⟩
  generalize here : "." = step at stays
  cases stays with
  | stays _ arrived =>
      cases arrived
      exact reached
  | goesUp =>
      exact absurd here (by decide)
  | endsAtLink _ _ isName | followsLink _ isName | enters _ isName =>
      exact absurd here.symm isName.1

namespace HoldsFiles

variable
  (holds : disk.HoldsFiles folder position entries)
  (isFileName : IsFileName name)

include holds

/-- A folder of files that could be made is there already. -/
theorem ensureFolder_again
    (short :
      Path.steps folder ≠ [] →
      (madeAs folder).utf8ByteSize < pathLimit) :
    disk.ensureFolder folder = (.ok (), disk) := by
  refine ensureFolder_of_isFolder ?_
  intro stepped
  have areSteps (step : String) (member : step ∈ Path.steps folder) :
      Path.IsStep step :=
    Path.isStep_of_mem_steps member
  have steps : Path.steps (madeAs folder) = Path.steps folder :=
    Path.steps_ofSteps areSteps (Path.isAbsolute folder)
  have absolute : Path.isAbsolute (madeAs folder) = Path.isAbsolute folder :=
    Path.isAbsolute_ofSteps areSteps (Path.isAbsolute folder)
  have named : madeAs folder ≠ "" := by
    intro empty
    rw [empty] at steps
    exact stepped (steps.symm.trans rfl)
  have located : disk.locate true (madeAs folder) = .ok (.found position) := by
    refine locate_eq_ok.mpr ⟨named, short stepped, ?_⟩
    rw [steps, origin, absolute]
    exact holds.reached
  exact isFolder_iff.mpr
    ⟨entries, found?_eq_ok.mpr ⟨position, located, holds.present⟩⟩

include isFileName

/-- Where the path of a file leads that has a name of the right size. -/
theorem locate_of_fits
    (fits : Fits folder name) :
    disk.locate true (Path.join folder name) =
      .ok (if (entries.lookup name).isSome then .found (position ++ [name])
        else .vacant position name) := by
  refine locate_eq_ok.mpr
    ⟨Path.join_ne_empty folder isFileName.step, fits.path, ?_⟩
  rw [Path.steps_join folder isFileName.step, origin,
    Path.isAbsolute_join folder isFileName.step]
  refine holds.reached.snoc ?_
  intro links
  cases entry : entries.lookup name with
  | none =>
      exact .misses links holds.present isFileName.name fits.name entry
  | some tree =>
      obtain ⟨content, rfl⟩ := holds.files name tree entry
      exact .enters holds.present isFileName.name fits.name entry nofun
        (.arrived links _)

/-! ## Writing and reading one of the files -/

/-- A file with a name that fits is written into its folder. -/
theorem writeFile_of_fits
    (fits : Fits folder name)
    (content : ByteArray) :
    disk.writeFile (Path.join folder name) content =
      (.ok (), disk.put (position ++ [name]) (.file content)) := by
  unfold writeFile
  rw [Path.not_endsInSlash_join folder isFileName.step,
    holds.locate_of_fits isFileName fits]
  cases entry : entries.lookup name with
  | none =>
      simp
  | some tree =>
      obtain ⟨old, rfl⟩ := holds.files name tree entry
      have present :
          disk.top.at? (position ++ [name]) = some (.file old) := by
        simp [FileTree.at?_snoc, holds.present, FileTree.entries?, entry]
      simp [present, FileTree.isFolder, FileTree.entries?]

/-- A file with a name that fits is read from its folder. -/
theorem readFile_of_fits
    (fits : Fits folder name)
    {content : ByteArray}
    (entry : entries.lookup name = some (.file content)) :
    disk.readFile (Path.join folder name) = .ok content := by
  have located := holds.locate_of_fits isFileName fits
  have present :
      disk.top.at? (position ++ [name]) = some (.file content) := by
    simp [FileTree.at?_snoc, holds.present, FileTree.entries?, entry]
  have found : disk.found? (Path.join folder name) = .ok (.file content) := by
    refine found?_eq_ok.mpr ⟨position ++ [name], ?_, present⟩
    simpa [entry] using located
  rw [readFile, found]
  simp [Path.not_endsInSlash_join folder isFileName.step]

omit isFileName in
/-- A folder of files is one after a file has been put into it. -/
theorem put
    (name : String)
    (content : ByteArray) :
    (disk.put (position ++ [name]) (.file content)).HoldsFiles folder
      position (FileTree.setEntry name (.file content) entries) := by
  have keeps :
      disk.top.KeepsWays
        (disk.put (position ++ [name]) (.file content)).top := by
    refine .put ?_
    intro old below
    have entry : entries.lookup name = some old := by
      simpa [FileTree.at?_snoc, holds.present, FileTree.entries?] using
        below
    obtain ⟨before, rfl⟩ := holds.files name old entry
    exact .file before content
  refine ⟨holds.reached.found_again keeps,
    FileTree.at?_put_snoc holds.present _ name, ?_⟩
  intro other tree entry
  rw [FileTree.lookup_setEntry] at entry
  split at entry
  next =>
    cases entry
    exact ⟨content, rfl⟩
  next =>
    exact holds.files other tree entry

end HoldsFiles

end AssessmentChat.Disk
