import AssessmentChat.Proofs.ExportedPlans

namespace AssessmentChat

/-!
# Files that are touched

What disks hold is compared file by file.  To make folders touches no file, and to write
one sets its bytes and leaves every other file as it was.  Both keep the ways, so a path
that led to a file still leads there.
-/

namespace FileTree

/-- The bytes of the file that names lead to, if they lead to a file. -/
def fileAt? (tree : FileTree) (path : List String) : Option ByteArray :=
  match tree.at? path with
  | some (.file content) => some content
  | _ => none

/-- A file is at a path exactly if the tree has it there. -/
theorem fileAt?_eq_some
    {tree : FileTree}
    {path : List String}
    {content : ByteArray} :
    tree.fileAt? path = some content ↔
      tree.at? path = some (.file content) := by
  unfold fileAt?
  split
  next present =>
    simp [present]
  next other =>
    refine ⟨nofun, ?_⟩
    intro present
    exact absurd present (other content)

/-- A tree with nothing below it. -/
def IsLeaf (tree : FileTree) : Prop :=
  ∀ path, path ≠ [] → tree.at? path = none

/-- What is no folder has nothing below it. -/
theorem isLeaf_of_not_isFolder
    {tree : FileTree}
    (noFolder : tree.isFolder = false) :
    tree.IsLeaf := by
  intro path below
  obtain ⟨name, rest, rfl⟩ := List.exists_cons_of_ne_nil below
  cases tree with
  | file | link =>
      rfl
  | folder entries =>
      cases noFolder

/-- An empty folder has nothing below it. -/
theorem isLeaf_emptyFolder :
    (FileTree.folder []).IsLeaf := by
  intro path below
  obtain ⟨name, rest, rfl⟩ := List.exists_cons_of_ne_nil below
  rfl

/-- Above whatever is present there are folders. -/
theorem at?_dropLast
    {tree : FileTree}
    {position : List String}
    {entries : List (String × FileTree)}
    (present : tree.at? position = some (.folder entries)) :
    ∃ others, tree.at? position.dropLast = some (.folder others) := by
  obtain rfl | ⟨above, last, rfl⟩ := position.eq_nil_or_concat
  · exact ⟨entries, present⟩
  · rw [List.concat_eq_append, at?_snoc, Option.bind_eq_some_iff] at present
    obtain ⟨others, folder, -⟩ := present
    obtain ⟨parent, found, entered⟩ := Option.bind_eq_some_iff.mp folder
    cases parent with
    | file | link =>
        cases entered
    | folder others =>
        exact ⟨others, by simpa using found⟩

/-- Above a folder the top is one. -/
theorem at?_top
    {tree : FileTree}
    {position : List String}
    {entries : List (String × FileTree)}
    (present : tree.at? position = some (.folder entries)) :
    ∃ others, tree.at? [] = some (.folder others) := by
  cases tree with
  | file | link =>
      cases position <;> simp [at?] at present
  | folder others =>
      exact ⟨others, rfl⟩

/-- A leaf that is put into a folder changes nothing but entries of folders above it. -/
theorem at?_put_leaf
    {tree leaf : FileTree}
    {folder path : List String}
    {name : String}
    {entries : List (String × FileTree)}
    (present : tree.at? folder = some (.folder entries))
    (noFolder : (tree.at? (folder ++ [name])).any isFolder = false)
    (isLeaf : leaf.IsLeaf)
    (elsewhere : path ≠ folder ++ [name]) :
    (tree.put leaf (folder ++ [name])).at? path = tree.at? path ∨
      ∃ others othersNow,
        tree.at? path = some (.folder others) ∧
          (tree.put leaf (folder ++ [name])).at? path =
            some (.folder othersNow) := by
  induction folder generalizing tree path with
  | nil =>
      cases present
      have putNow :
          (FileTree.folder entries).put leaf ([] ++ [name]) =
            .folder (setEntry name leaf entries) := by
        cases entry : entries.lookup name <;> simp [put, entry]
      rw [putNow]
      cases path with
      | nil =>
          exact .inr ⟨_, _, rfl, rfl⟩
      | cons step below =>
          refine .inl ?_
          by_cases same : step = name
          · subst same
            have further : below ≠ [] := by simpa using elsewhere
            cases entry : entries.lookup step with
            | none =>
                simp [at?, lookup_setEntry, entry, isLeaf below further]
            | some old =>
                have oldNoFolder : old.isFolder = false := by
                  simpa [at?, entry] using noFolder
                simp [at?, lookup_setEntry, entry, isLeaf below further,
                  isLeaf_of_not_isFolder oldNoFolder below further]
          · simp [at?, lookup_setEntry, same]
  | cons step rest inductionHypothesis =>
      cases tree with
      | file | link =>
          cases present
      | folder held =>
          obtain ⟨child, entry, childPresent⟩ :=
            Option.bind_eq_some_iff.mp present
          have childNoFolder :
              (child.at? (rest ++ [name])).any isFolder = false := by
            simpa [at?, entry] using noFolder
          cases path with
          | nil =>
              exact .inr ⟨held, _, rfl, by simp [put, entry, at?]; rfl⟩
          | cons other below =>
              by_cases same : other = step
              · subst same
                have childElsewhere : below ≠ rest ++ [name] := by
                  simpa using elsewhere
                have onward :=
                  inductionHypothesis childPresent childNoFolder
                    childElsewhere
                simpa [put, entry, at?, lookup_setEntry] using onward
              · refine .inl ?_
                simp [put, entry, at?, lookup_setEntry, same]

variable
  {tree leaf : FileTree}
  {folder : List String}
  {name : String}
  {entries : List (String × FileTree)}

/-- What is put into a folder is there. -/
theorem at?_put_self
    (present : tree.at? folder = some (.folder entries))
    (leaf : FileTree)
    (name : String) :
    (tree.put leaf (folder ++ [name])).at? (folder ++ [name]) =
      some leaf := by
  rw [at?_snoc, at?_put_snoc present]
  simp [entries?, lookup_setEntry]

/-- What is put into a folder changes the file at its own path only. -/
theorem fileAt?_put
    (present : tree.at? folder = some (.folder entries))
    (noFolder : (tree.at? (folder ++ [name])).any isFolder = false)
    (isLeaf : leaf.IsLeaf)
    (path : List String) :
    (tree.put leaf (folder ++ [name])).fileAt? path =
      if path = folder ++ [name] then leaf.fileAt? []
      else tree.fileAt? path := by
  split
  next here =>
    subst here
    rw [fileAt?, at?_put_self present]
    rfl
  next elsewhere =>
    rcases at?_put_leaf present noFolder isLeaf elsewhere with
      same | ⟨others, othersNow, before, now⟩
    · simp only [fileAt?, same]
    · simp only [fileAt?, before, now]

/-- A leaf that is no link adds none. -/
theorem AddsNoLink.put_leaf
    (present : tree.at? folder = some (.folder entries))
    (noFolder : (tree.at? (folder ++ [name])).any isFolder = false)
    (isLeaf : leaf.IsLeaf)
    (notLink : ∀ target, leaf ≠ .link target) :
    tree.AddsNoLink (tree.put leaf (folder ++ [name])) := by
  intro path target found
  by_cases here : path = folder ++ [name]
  · subst here
    rw [at?_put_self present, Option.some.injEq] at found
    exact absurd found (notLink target)
  · rcases at?_put_leaf present noFolder isLeaf here with
      same | ⟨others, othersNow, -, now⟩
    · exact same ▸ found
    · cases now.symm.trans found

/-- Being of the same kind goes on from tree to tree. -/
theorem SameKind.trans
    {first second third : FileTree}
    (firstKind : first.SameKind second)
    (secondKind : second.SameKind third) :
    first.SameKind third := by
  cases firstKind <;> cases secondKind <;> constructor

/-- Keeping the ways goes on from tree to tree. -/
theorem KeepsWays.trans
    {before between after : FileTree}
    (first : before.KeepsWays between)
    (second : between.KeepsWays after) :
    before.KeepsWays after := by
  intro path found present
  obtain ⟨between, presentThen, sameThen⟩ := first path found present
  obtain ⟨now, presentNow, sameNow⟩ := second path between presentThen
  exact ⟨now, presentNow, sameThen.trans sameNow⟩

end FileTree

namespace Disk

variable
  {disk after : Disk}
  {path : String}

/-! ## Paths that stay -/

/-- The names that a path leads to. -/
def LeadsTo (disk : Disk) (path : String) (position : List String) : Prop :=
  disk.walk true linkLimit (disk.origin path) (Path.steps path) =
    .ok (.found position)

/-- A path leads to one place only. -/
theorem LeadsTo.unique
    {position other : List String}
    (leads : disk.LeadsTo path position)
    (leadsToo : disk.LeadsTo path other) :
    position = other := by
  cases leads.symm.trans leadsToo
  rfl

/-- Every path still leads where it led, and every link was there before. -/
structure KeepsPaths (disk after : Disk) : Prop where
  here : after.here = disk.here
  ways : disk.top.KeepsWays after.top
  links : disk.top.AddsNoLink after.top

namespace KeepsPaths

theorem refl
    (disk : Disk) :
    disk.KeepsPaths disk where
  here := rfl
  ways := .refl disk.top
  links _ _ found := found

theorem trans
    {between : Disk}
    (first : disk.KeepsPaths between)
    (second : between.KeepsPaths after) :
    disk.KeepsPaths after where
  here := second.here.trans first.here
  ways := first.ways.trans second.ways
  links path target found :=
    first.links path target (second.links path target found)

/-- The folder that a path starts from is kept with the paths. -/
theorem origin
    (keeps : disk.KeepsPaths after)
    (path : String) :
    after.origin path = disk.origin path := by
  rw [Disk.origin, Disk.origin, keeps.here]

/-- A path leads where it did, if the paths are kept. -/
theorem leadsTo
    {position : List String}
    (keeps : disk.KeepsPaths after)
    (leads : disk.LeadsTo path position) :
    after.LeadsTo path position := by
  rw [LeadsTo, walk_eq_ok] at leads ⊢
  rw [keeps.origin]
  exact leads.found_again keeps.ways

/-- A path is located where it was, if the paths are kept. -/
theorem locate
    {position : List String}
    (keeps : disk.KeepsPaths after)
    (located : disk.locate true path = .ok (.found position)) :
    after.locate true path = .ok (.found position) := by
  obtain ⟨nonempty, short, walks⟩ := locate_eq_ok.mp located
  refine locate_eq_ok.mpr ⟨nonempty, short, ?_⟩
  rw [keeps.origin]
  exact walks.found_again keeps.ways

end KeepsPaths

/-! ## Making folders -/

/-- The files stay as they are. -/
structure LeavesFiles (disk after : Disk) : Prop
    extends disk.KeepsPaths after where
  files : ∀ path, after.top.fileAt? path = disk.top.fileAt? path

theorem LeavesFiles.refl
    (disk : Disk) :
    disk.LeavesFiles disk where
  toKeepsPaths := .refl disk
  files _ := rfl

theorem LeavesFiles.trans
    {between : Disk}
    (first : disk.LeavesFiles between)
    (second : between.LeavesFiles after) :
    disk.LeavesFiles after where
  toKeepsPaths := first.toKeepsPaths.trans second.toKeepsPaths
  files path := (second.files path).trans (first.files path)

/-- Making a folder leaves all files as they are. -/
theorem makeFolder_leavesFiles
    (made : disk.makeFolder path = .ok after) :
    disk.LeavesFiles after := by
  have onlyAdds := makeFolder_onlyAddsFolders made
  unfold makeFolder at made
  split at made
  next =>
    cases made
  next folder name located =>
    cases made
    obtain ⟨-, -, walks⟩ := locate_eq_ok.mp located
    obtain ⟨entries, present, -⟩ := walks.vacant_entry
    have nothing := walks.at?_vacant
    have noFolder :
        (disk.top.at? (folder ++ [name])).any FileTree.isFolder = false := by
      rw [nothing]
      rfl
    refine ⟨⟨onlyAdds.here, .put ?_, onlyAdds.links⟩, ?_⟩
    · intro old there
      cases nothing.symm.trans there
    · intro other
      have files :=
        FileTree.fileAt?_put present noFolder FileTree.isLeaf_emptyFolder
          other
      refine files.trans ?_
      split
      next here =>
        rw [here]
        simp [FileTree.fileAt?, nothing, FileTree.at?]
      next =>
        rfl
  next =>
    cases made

/-- To make a folder with those above it touches no file, whether or not it succeeds. -/
theorem ensureFolder_leavesFiles
    (disk : Disk)
    (folder : String) :
    disk.LeavesFiles (disk.ensureFolder folder).2 :=
  makeFolders_leaves .refl .trans makeFolder_leavesFiles disk _ _

/-! ## Writing a file -/

/-- One file gets its bytes, and all others stay as they are. -/
structure WritesFile
    (disk : Disk)
    (position : List String)
    (content : ByteArray)
    (after : Disk) : Prop
    extends disk.KeepsPaths after where
  files :
    ∀ path,
      after.top.fileAt? path =
        if path = position then some content else disk.top.fileAt? path

/-- A file is written alike after a change that leaves all files. -/
theorem LeavesFiles.writesFile
    {ready : Disk}
    {position : List String}
    {content : ByteArray}
    (leaves : disk.LeavesFiles ready)
    (writes : ready.WritesFile position content after) :
    disk.WritesFile position content after where
  toKeepsPaths := leaves.toKeepsPaths.trans writes.toKeepsPaths
  files path := by
    rw [writes.files, leaves.files]

section Walking

variable
  {links : Nat}
  {position remaining : List String}
  {place : Place}

/-- Where a walk through links arrives there is no link. -/
theorem Walks.arrives
    {found : List String}
    (walks : disk.Walks true links position remaining (.found found))
    (start :
      ∃ tree,
        disk.top.at? position = some tree ∧
          ∀ target, tree ≠ .link target) :
    ∃ tree,
      disk.top.at? found = some tree ∧ ∀ target, tree ≠ .link target := by
  have folderStart {position : List String}
      (folder :
        ∃ entries, disk.top.at? position = some (.folder entries)) :
      ∃ tree,
        disk.top.at? position = some tree ∧
          ∀ target, tree ≠ .link target := by
    obtain ⟨entries, present⟩ := folder
    exact ⟨_, present, nofun⟩
  generalize arrives : Place.found found = place at walks
  induction walks with
  | arrived =>
      cases arrives
      exact start
  | stays _ _ inductionHypothesis =>
      exact inductionHypothesis start arrives
  | goesUp folder _ inductionHypothesis =>
      exact inductionHypothesis
        (folderStart (FileTree.at?_dropLast folder)) arrives
  | misses =>
      cases arrives
  | endsAtLink _ _ _ _ _ notThrough =>
      cases notThrough
  | followsLink folder _ _ _ _ _ inductionHypothesis =>
      refine inductionHypothesis (folderStart ?_) arrives
      split
      · exact FileTree.at?_top folder
      · exact ⟨_, folder⟩
  | enters folder _ _ entry notLink _ inductionHypothesis =>
      refine inductionHypothesis ⟨_, ?_, notLink⟩ arrives
      simp [FileTree.at?_snoc, folder, FileTree.entries?, entry]

/-- A file can be put where a walk arrives, unless a folder is there. -/
theorem Walks.writable
    {step : String}
    (walks : disk.Walks true links position (step :: remaining) place)
    (noFolder :
      (disk.top.at? place.position).any FileTree.isFolder = false) :
    ∃ folder entries name,
      place.position = folder ++ [name] ∧
        disk.top.at? folder = some (.folder entries) ∧
          ∀ old,
            disk.top.at? place.position = some old →
            ∃ before, old = .file before := by
  obtain ⟨entries, start⟩ := walks.folder_of_cons
  cases place with
  | vacant folder name =>
      obtain ⟨entries, present, -⟩ := walks.vacant_entry
      refine ⟨folder, entries, name, rfl, present, ?_⟩
      intro old there
      cases walks.at?_vacant.symm.trans there
  | found found =>
      obtain ⟨tree, there, notLink⟩ := walks.arrives ⟨_, start, nofun⟩
      have isFile : ∃ before, tree = .file before := by
        cases tree with
        | file before =>
            exact ⟨before, rfl⟩
        | folder others =>
            simp [Place.position, there, FileTree.isFolder,
              FileTree.entries?] at noFolder
        | link target =>
            exact absurd rfl (notLink target)
      obtain ⟨before, rfl⟩ := isFile
      obtain rfl | ⟨folder, name, rfl⟩ := found.eq_nil_or_concat
      · obtain ⟨others, top⟩ := FileTree.at?_top start
        cases top.symm.trans there
      · rw [List.concat_eq_append] at there ⊢
        have below := there
        rw [FileTree.at?_snoc, Option.bind_eq_some_iff] at below
        obtain ⟨others, inside, -⟩ := below
        obtain ⟨parent, found, entered⟩ := Option.bind_eq_some_iff.mp inside
        cases parent with
        | file | link =>
            cases entered
        | folder held =>
            refine ⟨folder, held, name, rfl, found, ?_⟩
            intro old same
            exact ⟨before, Option.some.inj (same.symm.trans there)⟩

end Walking

/-- A file that was written is where its path leads, and no other file is touched. -/
theorem writeFile_writes
    {content : ByteArray}
    (bare : Path.endsInSlash path = false)
    (named : Path.steps path ≠ [])
    (written : disk.writeFile path content = (.ok (), after)) :
    ∃ place,
      disk.locate true path = .ok place ∧
        after.locate true path = .ok (.found place.position) ∧
          disk.WritesFile place.position content after := by
  obtain ⟨position, place, located, leads, noFolder, rfl⟩ :=
    writeFile_eq_ok bare written
  obtain rfl : position = place.position := by
    rcases leads with rfl | ⟨folder, name, rfl, rfl⟩
    · rfl
    · rfl
  obtain ⟨nonempty, short, walks⟩ := locate_eq_ok.mp located
  obtain ⟨step, rest, steps⟩ := List.exists_cons_of_ne_nil named
  have walksOn := walks
  rw [steps] at walksOn
  obtain ⟨folder, entries, name, shape, present, old⟩ :=
    walksOn.writable noFolder
  have isLeaf : (FileTree.file content).IsLeaf :=
    FileTree.isLeaf_of_not_isFolder rfl
  have keeps :
      disk.top.KeepsWays
        (disk.put place.position (.file content)).top := by
    refine .put ?_
    intro tree there
    obtain ⟨before, rfl⟩ := old tree there
    exact .file before content
  have there :
      (disk.put place.position (.file content)).top.at? place.position =
        some (.file content) := by
    rw [shape]
    exact FileTree.at?_put_self present _ name
  refine ⟨place, located, ?_, ⟨rfl, keeps, ?_⟩, ?_⟩
  · refine locate_eq_ok.mpr ⟨nonempty, short, walks.again keeps ?_⟩
    rintro folder name rfl
    exact ⟨_, there, nofun⟩
  · rw [shape] at noFolder ⊢
    exact .put_leaf present noFolder isLeaf nofun
  · rw [shape] at noFolder ⊢
    exact FileTree.fileAt?_put present noFolder isLeaf

end Disk

end AssessmentChat
