import AssessmentChat.Proofs.WorkspaceSnapshots

namespace AssessmentChat

/-!
# Files that are left out

Builds leave folders behind, and these are left out of snapshots by their names.  The
names are looked at before it is known what bears them, so that a file of such a name
is left out like a folder.  This is the only way in which a visible file that is not
too large and lies below visible folders can be missing from a snapshot.
-/

namespace FileTree

/-- A file that a snapshot is to have: one that is not hidden, below visible folders. -/
structure IsSource
    (limit : Nat)
    (tree : FileTree)
    (folders : List String)
    (name : String)
    (content : ByteArray) : Prop where
  present :
    tree.at? (folders ++ [name]) = some (.file content)
  notHidden :
    ∀ rest, name.toList ≠ '.' :: rest
  foldersVisible :
    ∀ folder ∈ folders, IsVisible folder
  small :
    content.size ≤ limit

namespace IsSource

variable
  {limit : Nat}
  {tree : FileTree}
  {folders : List String}
  {name : String}
  {content : ByteArray}

/-- The name of such a file decides alone whether it is eligible. -/
theorem isEligible
    (source : tree.IsSource limit folders name content)
    (notBuilt : name ∉ ["target", "node_modules", "build", "dist"]) :
    tree.IsEligible limit (folders ++ [name]) content where
  present := source.present
  visible :=
    List.forall_mem_append.mpr
      ⟨source.foldersVisible,
        List.forall_mem_singleton.mpr ⟨source.notHidden, notBuilt⟩⟩
  small := source.small

end IsSource

/-- The last name on the way to an eligible file is none that builds leave behind. -/
theorem IsEligible.notBuilt
    {limit : Nat}
    {tree : FileTree}
    {folders : List String}
    {name : String}
    {content : ByteArray}
    (eligible : tree.IsEligible limit (folders ++ [name]) content) :
    name ∉ ["target", "node_modules", "build", "dist"] :=
  (eligible.visible name (by simp)).notBuilt

end FileTree

namespace Workspace

variable
  {workspace : Workspace}
  {disk : Disk}
  {entries : List (String × FileTree)}

/-- A path is listed exactly if an eligible file has it. -/
theorem Lists.exists_path_iff
    {files : List SnapshotFile}
    {trail : List String}
    (lists : workspace.Lists entries files)
    (proper : (FileTree.folder entries).IsProper)
    (areSteps : ∀ name ∈ trail, Path.IsStep name) :
    (∃ file ∈ files, file.path = "/".intercalate trail) ↔
      ∃ content,
        (FileTree.folder entries).IsEligible workspace.maxFileBytes trail
          content := by
  constructor
  · rintro ⟨file, listed, path⟩
    obtain ⟨other, content, eligible, rfl⟩ := (lists file).mp listed
    have sameBytes :
        (SnapshotFile.ofContent other content).pathBytes =
          (SnapshotFile.ofContent trail content).pathBytes :=
      congrArg (·.toUTF8.data.toList) path
    obtain rfl :=
      pathBytes_ofContent_inj (proper.isStep_of_at? eligible.present)
        areSteps sameBytes
    exact ⟨content, eligible⟩
  · rintro ⟨content, eligible⟩
    exact ⟨_, (lists _).mpr ⟨trail, content, eligible, rfl⟩, rfl⟩

/-- A snapshot is made exactly if all that is opened has a path that the system takes. -/
theorem exists_snapshot_iff
    (proper : disk.top.IsProper)
    (readable : disk.readFolder workspace.root = .ok entries) :
    (∃ snapshot, workspace.collect disk = .ok snapshot) ↔
      ∀ trail,
        (FileTree.folder entries).IsOpened workspace.maxFileBytes trail →
        (workspace.pathTo trail).utf8ByteSize < Disk.pathLimit := by
  constructor
  · rintro ⟨snapshot, collected⟩ trail opened
    refine Nat.lt_of_not_ge fun long => ?_
    have isBlocked : workspace.IsBlockedIn ⟨[], entries⟩ :=
      ⟨trail, opened, decide_eq_true long⟩
    obtain ⟨-, failed⟩ :=
      (collect_ends proper readable).resolve_left
        fun ⟨clear, _⟩ => clear isBlocked
    rw [collected] at failed
    cases failed
  · intro short
    obtain ⟨files, collected, -⟩ :=
      collect_of_short proper readable short
    exact ⟨_, collected⟩

end Workspace

/--
A snapshot that is made of a readable workspace has each file that is not hidden, not too
large and below visible folders, with its length and its bytes, exactly if the file does
not bear one of the names of what builds leave behind.  It is made unless something that
has to be opened has too long a path.
-/
theorem source_file_listed_iff
    {workspace : Workspace}
    {disk : Disk}
    {entries : List (String × FileTree)}
    (proper : disk.top.IsProper)
    (readable : disk.readFolder workspace.root = .ok entries) :
    ((∃ snapshot, workspace.collect disk = .ok snapshot) ↔
      ∀ trail,
        (FileTree.folder entries).IsOpened workspace.maxFileBytes trail →
        (workspace.pathTo trail).utf8ByteSize < Disk.pathLimit) ∧
    ∀ snapshot folders name content,
      workspace.collect disk = .ok snapshot →
      (FileTree.folder entries).IsSource workspace.maxFileBytes folders name
        content →
      ((∃ file ∈ snapshot.files,
            file.path = "/".intercalate (folders ++ [name])) ↔
          name ∉ ["target", "node_modules", "build", "dist"]) ∧
        (name ∉ ["target", "node_modules", "build", "dist"] →
          SnapshotFile.ofContent (folders ++ [name]) content ∈
            snapshot.files) := by
  refine ⟨Workspace.exists_snapshot_iff proper readable, ?_⟩
  intro snapshot folders name content collected source
  have entriesProper := Disk.isProper_of_readFolder proper readable
  have lists := Workspace.lists_of_collect proper readable collected
  have listed :=
    lists.exists_path_iff entriesProper
      (entriesProper.isStep_of_at? source.present)
  refine ⟨listed.trans ⟨?_, ?_⟩, ?_⟩
  · rintro ⟨_, eligible⟩
    exact eligible.notBuilt
  · intro notBuilt
    exact ⟨content, source.isEligible notBuilt⟩
  · intro notBuilt
    exact (lists _).mpr ⟨_, content, source.isEligible notBuilt, rfl⟩

/-- A workspace with a script that is called like a folder of builds, and with a source file. -/
def scriptEntries : List (String × FileTree) :=
  [("build", .file ⟨#[109, 107]⟩),
    ("src", .folder [("main.rs", .file ⟨#[102, 110]⟩)])]

theorem isProper_scriptEntries :
    (FileTree.folder scriptEntries).IsProper :=
  FileTree.isProper_of_canBeKept _ (by decide +kernel)

theorem scriptEntries_collected :
    ∃ snapshot,
      smallWorkspace.collect (smallDisk scriptEntries) = .ok snapshot := by
  have found :
      (smallWorkspace.search ⟨[⟨[], scriptEntries⟩], []⟩).isOk = true := by
    decide +kernel
  cases searched : smallWorkspace.search ⟨[⟨[], scriptEntries⟩], []⟩ with
  | error failure =>
      rw [searched] at found
      cases found
  | ok files =>
      exact ⟨_, Workspace.collect_of_search (readFolder_ws scriptEntries)
        searched⟩

/-- The source file of the workspace is in its snapshot. -/
theorem source_file_listed_beside_script :
    ∃ snapshot,
      (smallDisk scriptEntries).top.IsProper ∧
        (smallDisk scriptEntries).readFolder smallWorkspace.root =
          .ok scriptEntries ∧
        smallWorkspace.collect (smallDisk scriptEntries) = .ok snapshot ∧
        (FileTree.folder scriptEntries).IsSource smallWorkspace.maxFileBytes
          ["src"] "main.rs" ⟨#[102, 110]⟩ ∧
        SnapshotFile.ofContent ["src", "main.rs"] ⟨#[102, 110]⟩ ∈
          snapshot.files := by
  have proper := isProper_smallDisk isProper_scriptEntries
  have readable := readFolder_ws scriptEntries
  obtain ⟨snapshot, collected⟩ := scriptEntries_collected
  have visible : IsVisible "src" ∧ IsVisible "main.rs" := by
    simp only [← isSkipped_eq_false]
    decide
  have source :
      (FileTree.folder scriptEntries).IsSource smallWorkspace.maxFileBytes
        ["src"] "main.rs" ⟨#[102, 110]⟩ :=
    ⟨rfl, visible.2.notHidden, List.forall_mem_singleton.mpr visible.1,
      by decide⟩
  exact ⟨snapshot, proper, readable, collected, source,
    ((source_file_listed_iff proper readable).2 _ _ _ _ collected source).2
      visible.2.notBuilt⟩

/--
The script in the same workspace is a visible file of two bytes in the root, and is not
in the snapshot.
-/
theorem file_named_build_left_out :
    ∃ snapshot,
      (smallDisk scriptEntries).top.IsProper ∧
        (smallDisk scriptEntries).readFolder smallWorkspace.root =
          .ok scriptEntries ∧
        smallWorkspace.collect (smallDisk scriptEntries) = .ok snapshot ∧
        (FileTree.folder scriptEntries).IsSource smallWorkspace.maxFileBytes
          [] "build" ⟨#[109, 107]⟩ ∧
        ∀ file ∈ snapshot.files, file.path ≠ "build" := by
  have proper := isProper_smallDisk isProper_scriptEntries
  have readable := readFolder_ws scriptEntries
  obtain ⟨snapshot, collected⟩ := scriptEntries_collected
  have notHidden : ∀ rest, "build".toList ≠ '.' :: rest := by
    simp
  have source :
      (FileTree.folder scriptEntries).IsSource smallWorkspace.maxFileBytes
        [] "build" ⟨#[109, 107]⟩ :=
    ⟨rfl, notHidden, by simp, by decide⟩
  have lists := Workspace.lists_of_collect proper readable collected
  have listed :=
    lists.exists_path_iff isProper_scriptEntries
      (isProper_scriptEntries.isStep_of_at? source.present)
  refine ⟨snapshot, proper, readable, collected, source, ?_⟩
  intro file member path
  obtain ⟨content, eligible⟩ := listed.mp ⟨file, member, path⟩
  exact FileTree.IsEligible.notBuilt eligible (by simp)

end AssessmentChat
