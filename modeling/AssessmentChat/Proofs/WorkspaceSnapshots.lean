import AssessmentChat.Proofs.FolderSearch
import Mathlib.Data.List.Lex

namespace AssessmentChat

/-!
# Snapshots of workspaces

A snapshot lists the files of a workspace that belong into it, each once and with its
length and its bytes, in the strict order of the bytes of their paths.  The order in
which folders have their entries makes no difference.  Nothing is listed when a folder
or a file that has to be opened has too long a path: the whole snapshot fails then.
-/

/-! ## The order of paths -/

section Order

variable
  {left middle right : List UInt8}

/-- The strict order of the alphabet on bytes. -/
def IsBefore (left right : List UInt8) : Prop :=
  List.Lex (fun one other : UInt8 => one.toNat < other.toNat) left right

/-- Bytes are at most others if they are the same or come before them. -/
theorem bytesAtMost_iff :
    bytesAtMost left right = true ↔ left = right ∨ IsBefore left right := by
  induction left generalizing right with
  | nil =>
      cases right with
      | nil =>
          simp [bytesAtMost]
      | cons =>
          simp [bytesAtMost, IsBefore]
  | cons first lefts inductionHypothesis =>
      cases right with
      | nil =>
          constructor
          · nofun
          · rintro (same | before)
            · cases same
            · cases before
      | cons second rights =>
          simp only [bytesAtMost, Bool.or_eq_true, decide_eq_true_eq,
            Bool.and_eq_true, inductionHypothesis]
          constructor
          · rintro (less | ⟨rfl, rfl | before⟩)
            · exact .inr (.rel less)
            · exact .inl rfl
            · exact .inr (.cons before)
          · rintro (same | before)
            · obtain ⟨rfl, rfl⟩ := List.cons_eq_cons.mp same
              exact .inr ⟨rfl, .inl rfl⟩
            · cases before with
              | rel less =>
                  exact .inl less
              | cons before =>
                  exact .inr ⟨rfl, .inr before⟩

namespace IsBefore

theorem trans
    (first : IsBefore left middle)
    (second : IsBefore middle right) :
    IsBefore left right :=
  List.lex_trans Nat.lt_trans first second

theorem irrefl
    (bytes : List UInt8) :
    ¬ IsBefore bytes bytes :=
  List.lex_irrefl (fun byte : UInt8 => Nat.lt_irrefl byte.toNat) bytes

/-- Bytes are ordered as the numbers that they are. -/
instance trichotomousBytes :
    Std.Trichotomous fun one other : UInt8 => one.toNat < other.toNat where
  trichotomous one other notLess notMore := by
    refine UInt8.toNat_inj.mp ?_
    exact Nat.le_antisymm (Nat.le_of_not_lt notMore)
      (Nat.le_of_not_lt notLess)

theorem total
    (left right : List UInt8) :
    IsBefore left right ∨ left = right ∨ IsBefore right left :=
  trichotomous_of (List.Lex fun one other : UInt8 => one.toNat < other.toNat)
    left right

end IsBefore

/-- Being at most goes on from bytes to bytes. -/
theorem bytesAtMost_trans
    (first : bytesAtMost left middle = true)
    (second : bytesAtMost middle right = true) :
    bytesAtMost left right = true := by
  rw [bytesAtMost_iff] at first second ⊢
  rcases first with rfl | before
  · exact second
  · rcases second with rfl | after
    · exact .inr before
    · exact .inr (before.trans after)

/-- Of two series of bytes one is at most the other. -/
theorem bytesAtMost_total
    (left right : List UInt8) :
    (bytesAtMost left right || bytesAtMost right left) = true := by
  rw [Bool.or_eq_true, bytesAtMost_iff, bytesAtMost_iff]
  rcases IsBefore.total left right with before | same | after
  · exact .inl (.inr before)
  · exact .inl (.inl same)
  · exact .inr (.inr after)

end Order

/-- Files are in the strict order of their paths. -/
def AreAscending (files : List SnapshotFile) : Prop :=
  files.Pairwise fun earlier later => IsBefore earlier.pathBytes later.pathBytes

namespace AreAscending

variable
  {files others : List SnapshotFile}

/-- Files in strict order are each there once. -/
theorem nodup
    (ascending : AreAscending files) :
    files.Nodup := by
  refine List.Pairwise.imp ?_ ascending
  rintro file _ before rfl
  exact IsBefore.irrefl _ before

/-- Files are in one strict order only. -/
theorem eq_of_mem_iff
    (ascending : AreAscending files)
    (othersAscending : AreAscending others)
    (same : ∀ file, file ∈ files ↔ file ∈ others) :
    files = others := by
  have perm : files.Perm others :=
    (List.perm_ext_iff_of_nodup ascending.nodup othersAscending.nodup).mpr
      same
  refine List.Perm.eq_of_pairwise ?_ ascending othersAscending perm
  intro one other _ _ before after
  exact absurd (before.trans after) (IsBefore.irrefl _)

/-- Sorting files with different paths puts them into the strict order. -/
theorem mergeSort
    (different : (files.map SnapshotFile.pathBytes).Nodup) :
    AreAscending (files.mergeSort SnapshotFile.isAtMost) := by
  have sorted :
      (files.mergeSort SnapshotFile.isAtMost).Pairwise
        fun file other => file.isAtMost other = true := by
    refine List.pairwise_mergeSort ?_ ?_ files
    · exact fun _ _ _ => bytesAtMost_trans
    · exact fun _ _ => bytesAtMost_total _ _
  have apart :
      (files.mergeSort SnapshotFile.isAtMost).Pairwise
        fun file other => file.pathBytes ≠ other.pathBytes :=
    List.pairwise_map.mp
      (((List.mergeSort_perm files _).map _).nodup_iff.mpr different)
  refine (sorted.and apart).imp ?_
  rintro file other ⟨atMost, ne⟩
  exact (bytesAtMost_iff.mp atMost).resolve_left ne

end AreAscending

/-! ## The files of a snapshot -/

/-- Different trails are written as different paths. -/
theorem pathBytes_ofContent_inj
    {trail other : List String}
    {content otherContent : ByteArray}
    (areSteps : ∀ name ∈ trail, Path.IsStep name)
    (otherAreSteps : ∀ name ∈ other, Path.IsStep name)
    (same :
      (SnapshotFile.ofContent trail content).pathBytes =
        (SnapshotFile.ofContent other otherContent).pathBytes) :
    trail = other := by
  have bytes :
      ("/".intercalate trail).toUTF8 = ("/".intercalate other).toUTF8 :=
    ByteArray.ext (Array.toList_inj.mp same)
  have path : "/".intercalate trail = "/".intercalate other :=
    String.toByteArray_inj.mp bytes
  rw [← Path.steps_intercalate areSteps, path,
    Path.steps_intercalate otherAreSteps]

/-- The eligible files of a folder have different paths. -/
theorem nodup_pathBytes_listed
    {limit : Nat}
    {entries : List (String × FileTree)}
    (proper : (FileTree.folder entries).IsProper) :
    ((listed [] (FileTree.eligibleBelow limit entries)).map
      SnapshotFile.pathBytes).Nodup := by
  have trails := FileTree.nodup_eligible limit proper
  rw [FileTree.eligible, List.Nodup, List.pairwise_map] at trails
  rw [listed, List.map_map, List.Nodup, List.pairwise_map]
  refine trails.imp_of_mem ?_
  rintro ⟨trail, content⟩ ⟨other, otherContent⟩ member otherMember apart same
  have eligible := (FileTree.mem_eligible proper).mp member
  have otherEligible := (FileTree.mem_eligible proper).mp otherMember
  exact apart (pathBytes_ofContent_inj
    (proper.isStep_of_at? eligible.present)
    (proper.isStep_of_at? otherEligible.present) same)

namespace Workspace

variable
  {workspace : Workspace}
  {disk : Disk}
  {entries : List (String × FileTree)}

/-- The files of a workspace that belong into its snapshot, in whatever order. -/
def Lists
    (workspace : Workspace)
    (entries : List (String × FileTree))
    (files : List SnapshotFile) : Prop :=
  ∀ file,
    file ∈ files ↔
      ∃ trail content,
        (FileTree.folder entries).IsEligible workspace.maxFileBytes trail
            content ∧
          file = .ofContent trail content

/-- The eligible files below the root are those that belong into the snapshot. -/
theorem lists_listed
    (proper : (FileTree.folder entries).IsProper) :
    workspace.Lists entries
      (listed []
        (FileTree.eligibleBelow workspace.maxFileBytes entries)) := by
  intro file
  constructor
  · intro member
    obtain ⟨⟨trail, content⟩, found, rfl⟩ := List.mem_map.mp member
    exact ⟨trail, content, (FileTree.mem_eligible proper).mp found, rfl⟩
  · rintro ⟨trail, content, eligible, rfl⟩
    exact List.mem_map.mpr
      ⟨(trail, content), (FileTree.mem_eligible proper).mpr eligible, rfl⟩

/-- A snapshot has the files that the search finds, in order. -/
theorem collect_of_search
    {files : List SnapshotFile}
    (readable : disk.readFolder workspace.root = .ok entries)
    (searched : workspace.search ⟨[⟨[], entries⟩], []⟩ = .ok files) :
    workspace.collect disk =
      .ok ⟨(Path.fileName? workspace.root).getD "",
        files.mergeSort SnapshotFile.isAtMost⟩ := by
  unfold collect
  rw [readable]
  simp only [Except.bind, searched]

/-- A readable workspace has a snapshot, unless something that it holds is out of reach. -/
theorem collect_ends
    (proper : disk.top.IsProper)
    (readable : disk.readFolder workspace.root = .ok entries) :
    (¬ workspace.IsBlockedIn ⟨[], entries⟩ ∧
      ∃ files,
        workspace.collect disk =
            .ok ⟨(Path.fileName? workspace.root).getD "", files⟩ ∧
          workspace.Lists entries files ∧ AreAscending files) ∨
      workspace.IsBlockedIn ⟨[], entries⟩ ∧
        workspace.collect disk = .error FileFault.nameTooLong.fault := by
  have entriesProper := Disk.isProper_of_readFolder proper readable
  have lies : Search.LiesIn ⟨[⟨[], entries⟩], []⟩ (.folder entries) := by
    intro branch member
    rw [List.mem_singleton.mp member]
    rfl
  have blocked :
      workspace.IsBlocked ⟨[⟨[], entries⟩], []⟩ ↔
        workspace.IsBlockedIn ⟨[], entries⟩ := by
    simp [IsBlocked]
  rw [← blocked]
  refine (search_ends workspace entriesProper lies).imp ?_ ?_
  · rintro ⟨clear, found, searched, same⟩
    have same :
        found.Perm
          (listed []
            (FileTree.eligibleBelow workspace.maxFileBytes entries)) := by
      simpa [outcome] using same
    have different : (found.map SnapshotFile.pathBytes).Nodup :=
      (same.map _).nodup_iff.mpr (nodup_pathBytes_listed entriesProper)
    refine ⟨clear, _, collect_of_search readable searched, ?_,
      .mergeSort different⟩
    intro file
    rw [((List.mergeSort_perm found _).trans same).mem_iff]
    exact lists_listed entriesProper file
  · rintro ⟨isBlocked, searched⟩
    refine ⟨isBlocked, ?_⟩
    unfold collect
    rw [readable]
    simp only [Except.bind, searched]

/-- What is opened has a path that the system takes, so there is a snapshot. -/
theorem collect_of_short
    (proper : disk.top.IsProper)
    (readable : disk.readFolder workspace.root = .ok entries)
    (short :
      ∀ trail,
        (FileTree.folder entries).IsOpened workspace.maxFileBytes trail →
        (workspace.pathTo trail).utf8ByteSize < Disk.pathLimit) :
    ∃ files,
      workspace.collect disk =
          .ok ⟨(Path.fileName? workspace.root).getD "", files⟩ ∧
        workspace.Lists entries files ∧ AreAscending files := by
  have clear : ¬ workspace.IsBlockedIn ⟨[], entries⟩ := by
    rintro ⟨trail, opened, reach⟩
    exact Nat.not_le_of_gt (short trail opened) (of_decide_eq_true reach)
  exact ((collect_ends proper readable).resolve_right
    fun ⟨isBlocked, _⟩ => clear isBlocked).2

/-- A snapshot lists what belongs into it. -/
theorem lists_of_collect
    {snapshot : WorkspaceSnapshot}
    (proper : disk.top.IsProper)
    (readable : disk.readFolder workspace.root = .ok entries)
    (collected : workspace.collect disk = .ok snapshot) :
    workspace.Lists entries snapshot.files := by
  rcases collect_ends proper readable with
    ⟨-, files, collectedFiles, lists, -⟩ | ⟨-, failed⟩
  · obtain rfl := Except.ok.inj (collected.symm.trans collectedFiles)
    exact lists
  · rw [collected] at failed
    cases failed

/-- No snapshot is taken of a root that cannot be read. -/
theorem collect_of_unreadable
    {failure : FileFault}
    (unreadable : disk.readFolder workspace.root = .error failure) :
    workspace.collect disk = .error failure.fault := by
  unfold collect
  rw [unreadable]
  rfl

/-- A snapshot does not depend on the order of entries. -/
theorem collect_rearranged
    {other : Disk}
    (workspace : Workspace)
    (proper : disk.top.IsProper)
    (rearranged : disk.Rearranged other) :
    workspace.collect other = workspace.collect disk := by
  have otherProper := rearranged.top.isProper proper
  rcases Disk.readFolder_rearranged rearranged proper workspace.root with
    ⟨failure, failed, failedToo⟩ | ⟨entries, others, read, readToo, same⟩
  · rw [collect_of_unreadable failed, collect_of_unreadable failedToo]
  · have entriesProper := Disk.isProper_of_readFolder proper read
    have othersProper := Disk.isProper_of_readFolder otherProper readToo
    have blocked :
        workspace.IsBlockedIn ⟨[], entries⟩ ↔
          workspace.IsBlockedIn ⟨[], others⟩ := by
      constructor
      · rintro ⟨trail, opened, reach⟩
        exact ⟨trail, opened.rearranged entriesProper same, reach⟩
      · rintro ⟨trail, opened, reach⟩
        exact ⟨trail, opened.rearranged othersProper same.symm, reach⟩
    rcases collect_ends proper read with
      ⟨clear, files, collected, lists, ascending⟩ | ⟨isBlocked, failed⟩
    · obtain ⟨-, otherFiles, otherCollected, otherLists, otherAscending⟩ :=
        (collect_ends otherProper readToo).resolve_right
          fun ⟨isBlocked, _⟩ => clear (blocked.mpr isBlocked)
      have sameFiles : otherFiles = files := by
        refine otherAscending.eq_of_mem_iff ascending fun file => ?_
        rw [lists file, otherLists file]
        constructor
        · rintro ⟨trail, content, eligible, rfl⟩
          exact ⟨trail, content,
            eligible.rearranged othersProper same.symm, rfl⟩
        · rintro ⟨trail, content, eligible, rfl⟩
          exact ⟨trail, content, eligible.rearranged entriesProper same, rfl⟩
      rw [collected, otherCollected, sameFiles]
    · obtain ⟨-, otherFailed⟩ :=
        (collect_ends otherProper readToo).resolve_left
          fun ⟨clear, _⟩ => clear (blocked.mp isBlocked)
      rw [failed, otherFailed]

end Workspace

/-- The eligible files of a tree, as a snapshot has them. -/
structure IsListing
    (limit : Nat)
    (tree : FileTree)
    (files : List SnapshotFile) : Prop where
  /-- Nothing else is listed. -/
  only :
    ∀ file ∈ files,
      ∃ trail content,
        tree.IsEligible limit trail content ∧
          file.path = "/".intercalate trail
  /-- Each file is listed once, with its length and its bytes. -/
  once :
    ∀ trail content,
      tree.IsEligible limit trail content →
      ∃ before file after,
        files = before ++ file :: after ∧
          (∀ other ∈ before ++ after, other.path ≠ file.path) ∧
          file.path = "/".intercalate trail ∧
          file.size.toNat = content.size ∧
          file.content = Base64.encode content
  ascending :
    AreAscending files

/-- Files that are listed in order are the listing of the workspace. -/
theorem Workspace.Lists.isListing
    {workspace : Workspace}
    {entries : List (String × FileTree)}
    {files : List SnapshotFile}
    (lists : workspace.Lists entries files)
    (ascending : AreAscending files)
    (limited : workspace.maxFileBytes < UInt64.size) :
    IsListing workspace.maxFileBytes (.folder entries) files where
  only file member := by
    obtain ⟨trail, content, eligible, rfl⟩ := (lists file).mp member
    exact ⟨trail, content, eligible, rfl⟩
  once trail content eligible := by
    obtain ⟨before, after, rfl⟩ :=
      List.append_of_mem ((lists _).mpr ⟨trail, content, eligible, rfl⟩)
    refine ⟨before, _, after, rfl, ?_, rfl, ?_, rfl⟩
    · obtain ⟨-, second, first⟩ := List.pairwise_append.mp ascending
      have later := (List.pairwise_cons.mp second).1
      intro other member samePath
      have sameBytes :
          other.pathBytes = (SnapshotFile.ofContent trail content).pathBytes :=
        congrArg (·.toUTF8.data.toList) samePath
      rcases List.mem_append.mp member with earlier | member
      · have before := first other earlier _ List.mem_cons_self
        exact IsBefore.irrefl _ (sameBytes ▸ before)
      · have after := later other member
        exact IsBefore.irrefl _ (sameBytes ▸ after)
    · have small := Nat.lt_of_le_of_lt eligible.small limited
      exact UInt64.toNat_ofNat_of_lt small
  ascending := ascending

/--
The snapshot of a readable workspace lists exactly its eligible files if every folder
and file that is opened for it has a path that the system takes; otherwise it fails for
that reason.  In either case, and also if the workspace cannot be read, it does not
depend on the order in which folders yield their entries.
-/
theorem snapshot_lists_eligible_files
    {workspace : Workspace}
    {disk : Disk}
    (proper : disk.top.IsProper)
    (limited : workspace.maxFileBytes < UInt64.size) :
    (∀ entries,
      disk.readFolder workspace.root = .ok entries →
      ((∀ trail,
          (FileTree.folder entries).IsOpened workspace.maxFileBytes trail →
          (workspace.pathTo trail).utf8ByteSize < Disk.pathLimit) →
        ∃ files,
          workspace.collect disk =
              .ok ⟨(Path.fileName? workspace.root).getD "", files⟩ ∧
            IsListing workspace.maxFileBytes (.folder entries) files) ∧
      ((∃ trail,
          (FileTree.folder entries).IsOpened workspace.maxFileBytes trail ∧
            Disk.pathLimit ≤ (workspace.pathTo trail).utf8ByteSize) →
        workspace.collect disk = .error FileFault.nameTooLong.fault)) ∧
    ∀ other,
      disk.Rearranged other →
      workspace.collect other = workspace.collect disk := by
  refine ⟨?_, fun other => workspace.collect_rearranged proper⟩
  intro entries readable
  constructor
  · intro short
    obtain ⟨files, collected, lists, ascending⟩ :=
      Workspace.collect_of_short proper readable short
    exact ⟨files, collected, lists.isListing ascending limited⟩
  · rintro ⟨trail, opened, long⟩
    have isBlocked : workspace.IsBlockedIn ⟨[], entries⟩ :=
      ⟨trail, opened, decide_eq_true long⟩
    exact ((Workspace.collect_ends proper readable).resolve_left
      fun ⟨clear, _⟩ => clear isBlocked).2

/-- A workspace with a folder of two files, and with what is left out of snapshots. -/
def smallEntries : List (String × FileTree) :=
  [("src", .folder [("b", .file ⟨#[104, 105]⟩), ("a", .file ⟨#[120]⟩)]),
    (".git", .folder [("a", .file ⟨#[120]⟩)]),
    ("loop", .link "/ws"),
    ("large", .file ⟨#[120, 120, 120, 120]⟩)]

/-- The same workspace with its entries in another order. -/
def smallEntriesRearranged : List (String × FileTree) :=
  [(".git", .folder [("a", .file ⟨#[120]⟩)]),
    ("src", .folder [("a", .file ⟨#[120]⟩), ("b", .file ⟨#[104, 105]⟩)]),
    ("loop", .link "/ws"),
    ("large", .file ⟨#[120, 120, 120, 120]⟩)]

def smallDisk (entries : List (String × FileTree)) : Disk :=
  ⟨.folder [("ws", .folder entries)], []⟩

def smallWorkspace : Workspace :=
  ⟨"/ws", 3⟩

theorem readFolder_ws
    (entries : List (String × FileTree)) :
    (smallDisk entries).readFolder smallWorkspace.root = .ok entries := by
  have steps : Path.steps "/ws" = ["ws"] := by decide
  have located :
      (smallDisk entries).locate true smallWorkspace.root =
        .ok (.found ["ws"]) := by
    simp +decide [smallWorkspace, Disk.locate, Disk.follow, steps, Disk.walk, smallDisk,
      FileTree.at?]
  rw [Disk.readFolder, Disk.found?, located]
  rfl

/-- The small disk and the other one differ in the order of entries only. -/
theorem smallDisk_rearranged :
    (smallDisk smallEntries).Rearranged (smallDisk smallEntriesRearranged) := by
  refine ⟨.inside "ws" [] ?_, rfl⟩
  exact (FileTree.Rearranged.inside "src" _ (.swap ..)).trans (.swap ..)

theorem isProper_smallDisk
    {entries : List (String × FileTree)}
    (proper : (FileTree.folder entries).IsProper) :
    (smallDisk entries).top.IsProper := by
  have isEntryName : Disk.IsEntryName "ws" := by decide
  refine .folder (by simp) ?_ ?_
  · simp [isEntryName]
  · simp [proper]

theorem isProper_smallEntries :
    (FileTree.folder smallEntries).IsProper :=
  FileTree.isProper_of_canBeKept _ (by decide +kernel)

/-- Nothing of the small workspace is out of reach. -/
theorem smallWorkspace_short
    (trail : List String)
    (opened :
      (FileTree.folder smallEntries).IsOpened smallWorkspace.maxFileBytes
        trail) :
    (smallWorkspace.pathTo trail).utf8ByteSize < Disk.pathLimit := by
  have lies :
      Search.LiesIn ⟨[⟨[], smallEntries⟩], []⟩ (.folder smallEntries) := by
    simp [Search.LiesIn, FileTree.at?]
  rcases smallWorkspace.search_ends isProper_smallEntries lies with
    ⟨clear, -⟩ | ⟨-, failed⟩
  · refine Nat.lt_of_not_ge fun long => clear ?_
    exact ⟨_, List.mem_cons_self, trail, opened, decide_eq_true long⟩
  · have found :
        (smallWorkspace.search ⟨[⟨[], smallEntries⟩], []⟩).isOk = true := by
      decide +kernel
    rw [failed] at found
    cases found

/-- Two of the files of the small workspace are listed, in whatever order it is read. -/
theorem snapshot_of_small_workspace :
    (smallDisk smallEntries).top.IsProper ∧
      smallWorkspace.maxFileBytes < UInt64.size ∧
      (smallDisk smallEntries).readFolder smallWorkspace.root =
        .ok smallEntries ∧
      (∃ files,
        smallWorkspace.collect (smallDisk smallEntries) = .ok ⟨"ws", files⟩ ∧
          IsListing 3 (.folder smallEntries) files) ∧
      smallWorkspace.collect (smallDisk smallEntriesRearranged) =
        smallWorkspace.collect (smallDisk smallEntries) := by
  have limited : smallWorkspace.maxFileBytes < UInt64.size := by decide
  have proper := isProper_smallDisk isProper_smallEntries
  have snapshots := snapshot_lists_eligible_files proper limited
  refine ⟨proper, limited, readFolder_ws smallEntries, ?_,
    snapshots.2 _ smallDisk_rearranged⟩
  exact (snapshots.1 _ (readFolder_ws smallEntries)).1 smallWorkspace_short

/-! ## Paths that are too long -/

/-- A file at the end of so many folders, all with one name. -/
def deepTree (name : String) (content : ByteArray) : Nat → FileTree
  | 0 => .file content
  | depth + 1 => .folder [(name, deepTree name content depth)]

/-- The file of a deep tree is below as many folders as the tree is deep. -/
theorem at?_deepTree
    (name : String)
    (content : ByteArray)
    (depth : Nat) :
    (deepTree name content depth).at? (List.replicate depth name) =
      some (.file content) := by
  induction depth with
  | zero =>
      rfl
  | succ depth inductionHypothesis =>
      simpa [deepTree, FileTree.at?, List.replicate_succ] using
        inductionHypothesis

theorem isProper_deepTree
    {name : String}
    (isEntryName : Disk.IsEntryName name)
    (content : ByteArray)
    (depth : Nat) :
    (deepTree name content depth).IsProper := by
  induction depth with
  | zero =>
      exact .file content
  | succ depth inductionHypothesis =>
      refine .folder (by simp) ?_ ?_
      · simp [isEntryName]
      · simp [inductionHypothesis]

/-- A name of two hundred letters. -/
def longName : String :=
  String.ofList (List.replicate 200 'a')

/-- The entries of a workspace with a file below twenty folders with long names. -/
def deepEntries : List (String × FileTree) :=
  [(longName, deepTree longName ⟨#[120]⟩ 20)]

/--
A file of one byte that no link leads to and no name keeps out is not in the snapshot:
its path is too long to be opened, and there is no snapshot.
-/
theorem snapshot_of_deep_workspace_fails :
    (smallDisk deepEntries).top.IsProper ∧
      (smallDisk deepEntries).readFolder smallWorkspace.root =
        .ok deepEntries ∧
      (FileTree.folder deepEntries).IsEligible smallWorkspace.maxFileBytes
        (List.replicate 21 longName) ⟨#[120]⟩ ∧
      smallWorkspace.collect (smallDisk deepEntries) =
        .error FileFault.nameTooLong.fault := by
  have isEntryName : Disk.IsEntryName longName := by decide +kernel
  have size : longName.utf8ByteSize = 200 := by decide +kernel
  have visible : IsVisible longName := by
    rw [← isSkipped_eq_false]
    decide +kernel
  have proper :=
    isProper_smallDisk (isProper_deepTree isEntryName ⟨#[120]⟩ 21)
  have eligible :
      (FileTree.folder deepEntries).IsEligible smallWorkspace.maxFileBytes
        (List.replicate 21 longName) ⟨#[120]⟩ := by
    refine ⟨at?_deepTree longName _ 21, ?_, by decide⟩
    intro name member
    rw [List.eq_of_mem_replicate member]
    exact visible
  have long :
      smallWorkspace.isOutOfReach (List.replicate 21 longName) = true := by
    have all {motive : String → Prop}
        (holds : motive longName) :
        ∀ name ∈ List.replicate 21 longName, motive name :=
      List.forall_mem_replicate.mpr (.inr holds)
    refine decide_eq_true (Nat.le_trans ?_
      (Path.length_mul_le_utf8ByteSize_foldl_join _
        (all isEntryName.isFileName.step) (all (Nat.le_of_eq size.symm))))
    decide
  refine ⟨proper, readFolder_ws deepEntries, eligible, ?_⟩
  refine ((Workspace.collect_ends proper
    (readFolder_ws deepEntries)).resolve_left ?_).2
  rintro ⟨clear, -⟩
  exact clear ⟨_, .file eligible, long⟩

end AssessmentChat
