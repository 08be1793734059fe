import AssessmentChat.Proofs.FolderOfFiles
import Mathlib.Data.List.Induction

namespace AssessmentChat

/-!
# Trees as a file system keeps them

The entries of a folder have different names, none of which is too long, has a slash
or means staying or going up.  Nobody promises an order of entries.  Two trees that
differ in it only lead every path to the same, and a path that goes on from a folder
along its entries leads to what the entries hold, as long as it is not too long.
-/

/-- A name that an entry of a folder can have. -/
structure Disk.IsEntryName (name : String) : Prop where
  isFileName :
    Disk.IsFileName name
  fits :
    name.utf8ByteSize ≤ Disk.nameLimit

instance (name : String) : Decidable (Disk.IsEntryName name) :=
  decidable_of_iff
    ((name ≠ "" ∧ '/' ∉ name.toList) ∧ (name ≠ "." ∧ name ≠ "..") ∧
      name.utf8ByteSize ≤ Disk.nameLimit)
    ⟨fun ⟨step, named, fits⟩ => ⟨⟨step, named⟩, fits⟩,
      fun ⟨⟨step, named⟩, fits⟩ => ⟨step, named, fits⟩⟩

namespace FileTree

/-- A tree that a file system can keep. -/
inductive IsProper : FileTree → Prop where
  | file
      (content : ByteArray) :
      IsProper (.file content)
  | link
      (target : String) :
      IsProper (.link target)
  | folder
      {entries : List (String × FileTree)} :
      (entries.map Prod.fst).Nodup →
      (∀ name tree, (name, tree) ∈ entries → Disk.IsEntryName name) →
      (∀ name tree, (name, tree) ∈ entries → IsProper tree) →
      IsProper (.folder entries)

mutual

/-- Whether a file system can keep a tree. -/
def canBeKept : FileTree → Bool
  | .file _ => true
  | .link _ => true
  | .folder entries => (entries.map Prod.fst).Nodup && canAllBeKept entries

/-- Whether a file system can keep each of the entries of a folder. -/
def canAllBeKept : List (String × FileTree) → Bool
  | [] => true
  | (name, tree) :: rest =>
      Disk.IsEntryName name && tree.canBeKept && canAllBeKept rest

end

mutual

theorem isProper_of_canBeKept :
    ∀ tree : FileTree, tree.canBeKept = true → tree.IsProper
  | .file content, _ => .file content
  | .link target, _ => .link target
  | .folder entries, kept => by
      rw [canBeKept, Bool.and_eq_true, decide_eq_true_eq] at kept
      obtain ⟨different, allKept⟩ := kept
      have each := isProper_of_canAllBeKept entries allKept
      exact .folder different (fun name tree member => (each name tree member).1)
        fun name tree member => (each name tree member).2

theorem isProper_of_canAllBeKept :
    ∀ entries : List (String × FileTree),
      canAllBeKept entries = true →
      ∀ name tree,
        (name, tree) ∈ entries → Disk.IsEntryName name ∧ tree.IsProper
  | [], _ => by simp
  | (first, held) :: rest, kept => by
      rw [canAllBeKept, Bool.and_eq_true, Bool.and_eq_true,
        decide_eq_true_eq] at kept
      obtain ⟨⟨named, heldKept⟩, restKept⟩ := kept
      intro name tree member
      rcases List.mem_cons.mp member with here | member
      · obtain ⟨rfl, rfl⟩ := Prod.mk.inj here
        exact ⟨named, isProper_of_canBeKept tree heldKept⟩
      · exact isProper_of_canAllBeKept rest restKept name tree member

end

/-- An entry is looked up by its name, if no other has it. -/
theorem lookup_eq_some_iff
    {entries : List (String × FileTree)}
    {name : String}
    {tree : FileTree}
    (different : (entries.map Prod.fst).Nodup) :
    entries.lookup name = some tree ↔ (name, tree) ∈ entries := by
  induction entries with
  | nil =>
      simp
  | cons entry rest inductionHypothesis =>
      obtain ⟨present, held⟩ := entry
      obtain ⟨unused, restDifferent⟩ := List.nodup_cons.mp different
      by_cases same : name = present
      · subst same
        have elsewhere : (name, tree) ∉ rest :=
          fun member => unused (List.mem_map.mpr ⟨_, member, rfl⟩)
        simp [elsewhere, eq_comm]
      · have apart : (name == present) = false := by simpa using same
        simp [List.lookup_cons, apart, same,
          inductionHypothesis restDifferent]

theorem at?_append
    (tree : FileTree)
    (front back : List String) :
    tree.at? (front ++ back) =
      (tree.at? front).bind fun found => found.at? back := by
  induction front generalizing tree with
  | nil =>
      rfl
  | cons name rest inductionHypothesis =>
      cases tree with
      | file | link =>
          rfl
      | folder entries =>
          cases child : entries.lookup name with
          | none =>
              simp [at?, child]
          | some below =>
              simpa [at?, child] using inductionHypothesis below

/-- What lies below a folder lies in or below one of its entries. -/
theorem at?_folder_cons
    {entries : List (String × FileTree)}
    {name : String}
    {trail : List String}
    {found : FileTree}
    (different : (entries.map Prod.fst).Nodup) :
    (FileTree.folder entries).at? (name :: trail) = some found ↔
      ∃ tree, (name, tree) ∈ entries ∧ tree.at? trail = some found := by
  simp only [at?, Option.bind_eq_some_iff, lookup_eq_some_iff different]

namespace IsProper

theorem different
    {entries : List (String × FileTree)}
    (proper : (FileTree.folder entries).IsProper) :
    (entries.map Prod.fst).Nodup := by
  cases proper with
  | folder different =>
      exact different

theorem entry
    {entries : List (String × FileTree)}
    {name : String}
    {tree : FileTree}
    (proper : (FileTree.folder entries).IsProper)
    (member : (name, tree) ∈ entries) :
    tree.IsProper := by
  cases proper with
  | folder _ _ below =>
      exact below name tree member

/-- Whatever lies in a proper tree is proper, and so are the names that lead to it. -/
theorem of_at?
    {tree found : FileTree}
    {trail : List String}
    (proper : tree.IsProper)
    (present : tree.at? trail = some found) :
    found.IsProper ∧ ∀ name ∈ trail, Disk.IsEntryName name := by
  induction proper generalizing trail with
  | file | link =>
      cases trail with
      | nil =>
          cases present
          exact ⟨by constructor, by simp⟩
      | cons =>
          cases present
  | folder different named below inductionHypothesis =>
      cases trail with
      | nil =>
          cases present
          exact ⟨.folder different named below, by simp⟩
      | cons name rest =>
          obtain ⟨tree, member, onward⟩ :=
            (at?_folder_cons different).mp present
          obtain ⟨foundProper, restNamed⟩ :=
            inductionHypothesis name tree member onward
          exact ⟨foundProper,
            List.forall_mem_cons.mpr ⟨named name tree member, restNamed⟩⟩

theorem isStep_of_at?
    {tree found : FileTree}
    {trail : List String}
    (proper : tree.IsProper)
    (present : tree.at? trail = some found) :
    ∀ name ∈ trail, Path.IsStep name :=
  fun name member =>
    ((proper.of_at? present).2 name member).isFileName.step

end IsProper

/-! ## The order of entries -/

/-- Two trees that differ only in the order in which their folders have their entries. -/
inductive Rearranged : FileTree → FileTree → Prop where
  | refl
      (tree : FileTree) :
      Rearranged tree tree
  | swap
      (first second : String × FileTree)
      (rest : List (String × FileTree)) :
      Rearranged (.folder (first :: second :: rest))
        (.folder (second :: first :: rest))
  | behind
      (entry : String × FileTree)
      {entries others : List (String × FileTree)} :
      Rearranged (.folder entries) (.folder others) →
      Rearranged (.folder (entry :: entries)) (.folder (entry :: others))
  | inside
      (name : String)
      {tree other : FileTree}
      (rest : List (String × FileTree)) :
      Rearranged tree other →
      Rearranged (.folder ((name, tree) :: rest))
        (.folder ((name, other) :: rest))
  | trans
      {tree middle other : FileTree} :
      Rearranged tree middle →
      Rearranged middle other →
      Rearranged tree other

namespace Rearranged

variable
  {tree other : FileTree}

theorem symm
    (rearranged : tree.Rearranged other) :
    other.Rearranged tree := by
  induction rearranged with
  | refl tree =>
      exact .refl tree
  | swap first second rest =>
      exact .swap second first rest
  | behind entry _ inductionHypothesis =>
      exact .behind entry inductionHypothesis
  | inside name rest _ inductionHypothesis =>
      exact .inside name rest inductionHypothesis
  | trans _ _ first second =>
      exact second.trans first

/-- Any order of the entries of one folder. -/
theorem of_perm
    {entries others : List (String × FileTree)}
    (same : entries.Perm others) :
    (FileTree.folder entries).Rearranged (.folder others) := by
  induction same with
  | nil =>
      exact .refl _
  | cons entry _ inductionHypothesis =>
      exact .behind entry inductionHypothesis
  | swap first second rest =>
      exact .swap second first rest
  | trans _ _ first second =>
      exact first.trans second

/-- Only folders are rearranged. -/
theorem eq_or_folders
    (rearranged : tree.Rearranged other) :
    tree = other ∨
      ∃ entries others, tree = .folder entries ∧ other = .folder others := by
  induction rearranged with
  | refl =>
      exact .inl rfl
  | swap | behind | inside =>
      exact .inr ⟨_, _, rfl, rfl⟩
  | trans _ _ first second =>
      rcases first with rfl | ⟨entries, _, rfl, rfl⟩
      · exact second
      · rcases second with rfl | ⟨_, others, _, rfl⟩
        · exact .inr ⟨entries, _, rfl, rfl⟩
        · exact .inr ⟨entries, others, rfl, rfl⟩

theorem file_eq
    {content : ByteArray}
    (rearranged : (FileTree.file content).Rearranged other) :
    other = .file content := by
  rcases rearranged.eq_or_folders with same | ⟨_, _, folder, _⟩
  · exact same.symm
  · cases folder

theorem link_eq
    {target : String}
    (rearranged : (FileTree.link target).Rearranged other) :
    other = .link target := by
  rcases rearranged.eq_or_folders with same | ⟨_, _, folder, _⟩
  · exact same.symm
  · cases folder

theorem folder_eq
    {entries : List (String × FileTree)}
    (rearranged : (FileTree.folder entries).Rearranged other) :
    ∃ others, other = .folder others := by
  rcases rearranged.eq_or_folders with same | ⟨_, others, _, folder⟩
  · exact ⟨entries, same.symm⟩
  · exact ⟨others, folder⟩

/-- The entries of a folder keep their names. -/
theorem names_perm
    (rearranged : tree.Rearranged other) :
    ((tree.entries?.getD []).map Prod.fst).Perm
      ((other.entries?.getD []).map Prod.fst) := by
  induction rearranged with
  | refl =>
      exact .refl _
  | swap first second rest =>
      exact .swap ..
  | behind entry _ inductionHypothesis =>
      exact .cons _ inductionHypothesis
  | inside =>
      exact .refl _
  | trans _ _ first second =>
      exact first.trans second

/-- An entry of a rearranged folder was an entry before, up to the order in it. -/
theorem mem_entries
    {name : String}
    {held : FileTree}
    (rearranged : tree.Rearranged other)
    (member : (name, held) ∈ tree.entries?.getD []) :
    ∃ now,
      (name, now) ∈ other.entries?.getD [] ∧ held.Rearranged now := by
  induction rearranged generalizing held with
  | refl =>
      exact ⟨held, member, .refl held⟩
  | swap first second rest =>
      refine ⟨held, ?_, .refl held⟩
      exact (List.Perm.swap second first rest).mem_iff.mp member
  | behind entry _ inductionHypothesis =>
      rcases List.mem_cons.mp member with rfl | member
      · exact ⟨held, List.mem_cons_self, .refl held⟩
      · obtain ⟨now, present, same⟩ := inductionHypothesis member
        exact ⟨now, List.mem_cons_of_mem _ present, same⟩
  | @inside key tree other rest below =>
      rcases List.mem_cons.mp member with here | member
      · obtain ⟨rfl, rfl⟩ := Prod.mk.inj here
        exact ⟨other, List.mem_cons_self, below⟩
      · exact ⟨held, List.mem_cons_of_mem _ member, .refl held⟩
  | trans _ _ first second =>
      obtain ⟨middle, present, same⟩ := first member
      obtain ⟨now, presentNow, sameNow⟩ := second present
      exact ⟨now, presentNow, same.trans sameNow⟩

theorem isProper
    (rearranged : tree.Rearranged other)
    (proper : tree.IsProper) :
    other.IsProper := by
  induction proper generalizing other with
  | file content =>
      rw [rearranged.file_eq]
      exact .file content
  | link target =>
      rw [rearranged.link_eq]
      exact .link target
  | folder different named _ inductionHypothesis =>
      obtain ⟨others, rfl⟩ := rearranged.folder_eq
      refine .folder (rearranged.names_perm.nodup different) ?_ ?_
      · intro name now member
        obtain ⟨held, before, -⟩ := rearranged.symm.mem_entries member
        exact named name held before
      · intro name now member
        obtain ⟨held, before, same⟩ := rearranged.symm.mem_entries member
        exact inductionHypothesis name held before same.symm

/-- The names of a trail lead to the same in a rearranged tree, up to the order in it. -/
theorem at?
    {trail : List String}
    {found : FileTree}
    (rearranged : tree.Rearranged other)
    (proper : tree.IsProper)
    (present : tree.at? trail = some found) :
    ∃ now, other.at? trail = some now ∧ found.Rearranged now := by
  have otherProper := rearranged.isProper proper
  induction proper generalizing trail other with
  | file | link =>
      cases trail with
      | nil =>
          cases present
          exact ⟨other, rfl, rearranged⟩
      | cons =>
          cases present
  | folder different named below inductionHypothesis =>
      cases trail with
      | nil =>
          cases present
          exact ⟨other, rfl, rearranged⟩
      | cons name rest =>
          obtain ⟨held, member, onward⟩ :=
            (at?_folder_cons different).mp present
          obtain ⟨others, rfl⟩ := rearranged.folder_eq
          obtain ⟨now, memberNow, same⟩ := rearranged.mem_entries member
          obtain ⟨found, presentNow, sameNow⟩ :=
            inductionHypothesis name held member same onward
              (same.isProper (below name held member))
          refine ⟨found, ?_, sameNow⟩
          exact (at?_folder_cons otherProper.different).mpr
            ⟨now, memberNow, presentNow⟩

/-- Nothing is where nothing was. -/
theorem at?_eq_none
    {trail : List String}
    (rearranged : tree.Rearranged other)
    (proper : tree.IsProper)
    (absent : tree.at? trail = none) :
    other.at? trail = none := by
  cases present : other.at? trail with
  | none =>
      rfl
  | some now =>
      obtain ⟨found, before, -⟩ :=
        rearranged.symm.at? (rearranged.isProper proper) present
      rw [absent] at before
      cases before

end Rearranged

end FileTree

namespace Disk

/-- Two disks that differ only in the order in which folders have their entries. -/
structure Rearranged (disk other : Disk) : Prop where
  top :
    disk.top.Rearranged other.top
  here :
    disk.here = other.here

variable
  {disk other : Disk}
  {throughLast : Bool}
  {links : Nat}
  {position remaining folder : List String}
  {path : String}
  {entries : List (String × FileTree)}

/-- What an entry of a folder is does not depend on the order of its entries. -/
theorem Rearranged.entry
    (rearranged : disk.Rearranged other)
    (proper : disk.top.IsProper)
    (folder : disk.top.at? position = some (.folder entries)) :
    ∃ others,
      other.top.at? position = some (.folder others) ∧
        ∀ step,
          (entries.lookup step = none → others.lookup step = none) ∧
            ∀ held,
              entries.lookup step = some held →
              ∃ now, others.lookup step = some now ∧ held.Rearranged now := by
  obtain ⟨now, folderNow, same⟩ := rearranged.top.at? proper folder
  obtain ⟨others, rfl⟩ := same.folder_eq
  refine ⟨others, folderNow, ?_⟩
  intro step
  have below : disk.top.at? (position ++ [step]) = entries.lookup step := by
    simp [FileTree.at?_snoc, folder, FileTree.entries?]
  have belowNow :
      other.top.at? (position ++ [step]) = others.lookup step := by
    simp [FileTree.at?_snoc, folderNow, FileTree.entries?]
  rw [← below, ← belowNow]
  exact ⟨rearranged.top.at?_eq_none proper,
    fun held present => rearranged.top.at? proper present⟩

/-- A path is followed in the same way whatever the order of entries. -/
theorem walk_rearranged
    (rearranged : disk.Rearranged other)
    (proper : disk.top.IsProper) :
    other.walk throughLast links position remaining =
      disk.walk throughLast links position remaining := by
  fun_induction disk.walk throughLast links position remaining with
  | case1 =>
      rw [walk]
  | case2 links position rest entries folder inductionHypothesis
  | case3 links position rest entries folder _ inductionHypothesis =>
      obtain ⟨others, folderNow, -⟩ := rearranged.entry proper folder
      rw [walk, folderNow]
      simpa using inductionHypothesis
  | case4 links position step rest entries folder notHere notUp long =>
      obtain ⟨others, folderNow, -⟩ := rearranged.entry proper folder
      rw [walk, folderNow]
      simp [notHere, notUp, long]
  | case5 links position step entries folder notHere notUp short absent =>
      obtain ⟨others, folderNow, same⟩ := rearranged.entry proper folder
      have absentNow := (same step).1 absent
      rw [walk, folderNow]
      simp only [notHere, notUp, short, absentNow, ↓reduceIte]
  | case6 links position step rest entries folder notHere notUp short
      absent more =>
      obtain ⟨others, folderNow, same⟩ := rearranged.entry proper folder
      have absentNow := (same step).1 absent
      rw [walk, folderNow]
      simp only [notHere, notUp, short, absentNow, more, ↓reduceIte]
  | case7 links position step rest entries folder notHere notUp short
      target entry last =>
      obtain ⟨others, folderNow, same⟩ := rearranged.entry proper folder
      obtain ⟨now, entryNow, sameNow⟩ := (same step).2 _ entry
      rw [sameNow.link_eq] at entryNow
      rw [walk, folderNow]
      simp only [notHere, notUp, short, entryNow, last, ↓reduceIte]
  | case8 position step rest entries folder notHere notUp short target
      entry through =>
      obtain ⟨others, folderNow, same⟩ := rearranged.entry proper folder
      obtain ⟨now, entryNow, sameNow⟩ := (same step).2 _ entry
      rw [sameNow.link_eq] at entryNow
      rw [walk, folderNow]
      simp only [notHere, notUp, short, entryNow, through, ↓reduceIte,
        Bool.false_eq_true]
  | case9 position step rest entries folder notHere notUp short target
      entry followed links inductionHypothesis =>
      obtain ⟨others, folderNow, same⟩ := rearranged.entry proper folder
      obtain ⟨now, entryNow, sameNow⟩ := (same step).2 _ entry
      rw [sameNow.link_eq] at entryNow
      rw [walk, folderNow]
      simp only [notHere, notUp, short, entryNow, followed, ↓reduceIte,
        Bool.false_eq_true]
      exact inductionHypothesis
  | case10 links position step rest entries folder notHere notUp short
      child notLink entry inductionHypothesis =>
      obtain ⟨others, folderNow, same⟩ := rearranged.entry proper folder
      obtain ⟨now, entryNow, sameNow⟩ := (same step).2 _ entry
      rw [walk, folderNow]
      simp only [notHere, notUp, short, entryNow, ↓reduceIte]
      cases now with
      | file | folder =>
          exact inductionHypothesis
      | link target =>
          exact absurd sameNow.symm.link_eq (notLink target)
  | case11 links position step rest notFolder =>
      rw [walk]
      cases present : other.top.at? position with
      | none =>
          rfl
      | some now =>
          cases now with
          | file | link =>
              rfl
          | folder others =>
              obtain ⟨found, before, same⟩ :=
                rearranged.top.symm.at?
                  (rearranged.top.isProper proper) present
              obtain ⟨entries, rfl⟩ := same.folder_eq
              exact absurd before (notFolder entries)

/-- What a path leads to does not depend on the order of entries, up to that order in it. -/
theorem found?_rearranged
    (rearranged : disk.Rearranged other)
    (proper : disk.top.IsProper)
    (path : String) :
    (∃ failure,
      disk.found? path = .error failure ∧
        other.found? path = .error failure) ∨
      ∃ tree now,
        disk.found? path = .ok tree ∧
          other.found? path = .ok now ∧ tree.Rearranged now := by
  have same : other.locate true path = disk.locate true path := by
    unfold locate follow
    rw [rearranged.here, walk_rearranged rearranged proper]
  unfold found?
  rw [same]
  cases disk.locate true path with
  | error failure =>
      exact .inl ⟨failure, rfl, rfl⟩
  | ok place =>
      cases place with
      | vacant =>
          exact .inl ⟨.notFound, rfl, rfl⟩
      | found position =>
          cases present : disk.top.at? position with
          | none =>
              have absent := rearranged.top.at?_eq_none proper present
              exact .inl ⟨.notFound, by simp [present], by simp [absent]⟩
          | some tree =>
              obtain ⟨now, presentNow, sameNow⟩ :=
                rearranged.top.at? proper present
              exact .inr ⟨tree, now, by simp [present],
                by simp [presentNow], sameNow⟩

theorem readFolder_rearranged
    (rearranged : disk.Rearranged other)
    (proper : disk.top.IsProper)
    (path : String) :
    (∃ failure,
      disk.readFolder path = .error failure ∧
        other.readFolder path = .error failure) ∨
      ∃ entries others,
        disk.readFolder path = .ok entries ∧
          other.readFolder path = .ok others ∧
            (FileTree.folder entries).Rearranged (.folder others) := by
  unfold readFolder
  rcases found?_rearranged rearranged proper path with
    ⟨failure, failed, failedToo⟩ | ⟨tree, now, found, foundToo, same⟩
  · rw [failed, failedToo]
    exact .inl ⟨failure, rfl, rfl⟩
  · rw [found, foundToo]
    rcases same.eq_or_folders with rfl | ⟨entries, others, rfl, rfl⟩
    · cases tree with
      | file | link =>
          exact .inl ⟨.notAFolder, rfl, rfl⟩
      | folder entries =>
          exact .inr ⟨entries, entries, rfl, rfl, .refl _⟩
    · exact .inr ⟨entries, others, rfl, rfl, same⟩

/-! ## Paths that go on from a folder -/

/-- A walk that has reached a folder goes on along the entries below it. -/
theorem Walks.along
    {trail : List String}
    {tree : FileTree}
    (proper : disk.top.IsProper)
    (reached : disk.Walks true links position remaining (.found folder))
    (present : disk.top.at? folder = some (.folder entries))
    (below : (FileTree.folder entries).at? trail = some tree)
    (notLink : ∀ target, tree ≠ .link target) :
    disk.Walks true links position (remaining ++ trail)
      (.found (folder ++ trail)) := by
  induction trail using List.reverseRecOn generalizing tree with
  | nil =>
      simpa using reached
  | append_singleton front name inductionHypothesis =>
      have lies : disk.top.at? (folder ++ (front ++ [name])) = some tree := by
        simpa [FileTree.at?_append, present] using below
      have isEntryName := (proper.of_at? lies).2 name (by simp)
      rw [FileTree.at?_snoc] at below
      obtain ⟨inner, found, entry⟩ := Option.bind_eq_some_iff.mp below
      obtain ⟨parent, found, entered⟩ := Option.bind_eq_some_iff.mp found
      cases parent with
      | file | link =>
          cases entered
      | folder =>
          cases entered
          have parentPresent :
              disk.top.at? (folder ++ front) = some (.folder inner) := by
            simpa [FileTree.at?_append, present] using found
          rw [← List.append_assoc, ← List.append_assoc]
          exact (inductionHypothesis found nofun).snoc fun links =>
            .enters parentPresent isEntryName.isFileName.name
              isEntryName.fits entry notLink (.arrived links _)

/-- What can be read of a proper disk is proper. -/
theorem isProper_of_readFolder
    (proper : disk.top.IsProper)
    (readable : disk.readFolder path = .ok entries) :
    (FileTree.folder entries).IsProper := by
  obtain ⟨position, -, present⟩ :=
    found?_eq_ok.mp (readFolder_eq_ok.mp readable)
  exact (proper.of_at? present).1

/-- A path leads from a folder along its entries, unless it is too long. -/
theorem found?_foldl_join
    {trail : List String}
    {tree : FileTree}
    (proper : disk.top.IsProper)
    (readable : disk.readFolder path = .ok entries)
    (below : (FileTree.folder entries).at? trail = some tree)
    (notLink : ∀ target, tree ≠ .link target) :
    disk.found? (trail.foldl Path.join path) =
      if (trail.foldl Path.join path).utf8ByteSize ≥ pathLimit then
        .error .nameTooLong
      else .ok tree := by
  obtain ⟨position, located, present⟩ :=
    found?_eq_ok.mp (readFolder_eq_ok.mp readable)
  obtain ⟨named, -, reached⟩ := locate_eq_ok.mp located
  have areSteps :=
    (isProper_of_readFolder proper readable).isStep_of_at? below
  have joined := Path.foldl_join_ne_empty named areSteps
  by_cases long : (trail.foldl Path.join path).utf8ByteSize ≥ pathLimit
  · simp [found?, locate, follow, joined, long]
  · rw [if_neg long]
    refine found?_eq_ok.mpr ⟨position ++ trail, locate_eq_ok.mpr ?_, ?_⟩
    · refine ⟨joined, Nat.lt_of_not_ge long, ?_⟩
      rw [Path.steps_foldl_join path areSteps, origin,
        Path.isAbsolute_foldl_join path areSteps]
      exact reached.along proper present below notLink
    · simpa [FileTree.at?_append, present] using below

/-- The folders below a folder are read along its entries. -/
theorem readFolder_foldl_join
    {trail : List String}
    {inner : List (String × FileTree)}
    (proper : disk.top.IsProper)
    (readable : disk.readFolder path = .ok entries)
    (below : (FileTree.folder entries).at? trail = some (.folder inner)) :
    disk.readFolder (trail.foldl Path.join path) =
      if (trail.foldl Path.join path).utf8ByteSize ≥ pathLimit then
        .error .nameTooLong
      else .ok inner := by
  rw [readFolder, found?_foldl_join proper readable below nofun]
  by_cases long : (trail.foldl Path.join path).utf8ByteSize ≥ pathLimit
  · simp only [long, ↓reduceIte]
  · simp only [long, ↓reduceIte]

/-- The files below a folder are read along its entries. -/
theorem readFile_foldl_join
    {trail : List String}
    {content : ByteArray}
    (proper : disk.top.IsProper)
    (readable : disk.readFolder path = .ok entries)
    (below : (FileTree.folder entries).at? trail = some (.file content)) :
    disk.readFile (trail.foldl Path.join path) =
      if (trail.foldl Path.join path).utf8ByteSize ≥ pathLimit then
        .error .nameTooLong
      else .ok content := by
  have areSteps :=
    (isProper_of_readFolder proper readable).isStep_of_at? below
  have descends : trail ≠ [] := by
    rintro rfl
    cases below
  have noSlash := Path.not_endsInSlash_foldl_join path descends areSteps
  have notLink (target : String) : FileTree.file content ≠ .link target :=
    FileTree.noConfusion
  rw [readFile, found?_foldl_join proper readable below notLink]
  by_cases long : (trail.foldl Path.join path).utf8ByteSize ≥ pathLimit
  · simp only [long, ↓reduceIte]
  · simp only [long, noSlash, ↓reduceIte, Bool.false_eq_true]

end Disk

end AssessmentChat
