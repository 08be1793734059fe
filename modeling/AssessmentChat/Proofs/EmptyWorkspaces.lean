import AssessmentChat.Proofs.WorkspaceSnapshots

namespace AssessmentChat

/-!
# Empty workspaces

Whether a workspace is empty is asked before it is packed, and only of the names of its
own entries.  A workspace that is called empty has a snapshot without files.  One that is
not called empty may have such a snapshot, too: a single visible folder, link or large
file is enough to be asked about.
-/

namespace Workspace

variable
  {workspace : Workspace}
  {disk : Disk}
  {entries : List (String × FileTree)}

/-- A workspace is called empty if none of its own entries is visible. -/
theorem isEmpty_iff
    (readable : disk.readFolder workspace.root = .ok entries) :
    workspace.isEmpty disk = true ↔
      ∀ entry ∈ entries, ¬ IsVisible entry.1 := by
  unfold isEmpty
  rw [readable]
  simp only [List.all_eq_true, ← isSkipped_eq_false, Bool.not_eq_false]

/-- A snapshot has no files if nothing is eligible. -/
theorem Lists.eq_nil_iff
    {files : List SnapshotFile}
    (lists : workspace.Lists entries files) :
    files = [] ↔
      ¬ ∃ trail content,
        (FileTree.folder entries).IsEligible workspace.maxFileBytes trail
          content := by
  constructor
  · rintro rfl ⟨trail, content, eligible⟩
    have listed := (lists _).mpr ⟨trail, content, eligible, rfl⟩
    cases listed
  · intro nothing
    refine List.eq_nil_iff_forall_not_mem.mpr fun file member => ?_
    obtain ⟨trail, content, eligible, -⟩ := (lists file).mp member
    exact nothing ⟨trail, content, eligible⟩

/-- Below entries that are all left out nothing is eligible. -/
theorem not_isEligible_of_hidden
    {limit : Nat}
    {trail : List String}
    {content : ByteArray}
    (different : (entries.map Prod.fst).Nodup)
    (hidden : ∀ entry ∈ entries, ¬ IsVisible entry.1) :
    ¬ (FileTree.folder entries).IsEligible limit trail content := by
  intro eligible
  cases trail with
  | nil =>
      cases eligible.present
  | cons name rest =>
      obtain ⟨visible, tree, member, -⟩ :=
        (FileTree.isEligible_folder_cons different).mp eligible
      exact hidden (name, tree) member visible

/-- Nothing is opened below entries that are all left out, so there is a snapshot. -/
theorem collect_of_hidden
    (proper : disk.top.IsProper)
    (readable : disk.readFolder workspace.root = .ok entries)
    (hidden : ∀ entry ∈ entries, ¬ IsVisible entry.1) :
    workspace.collect disk =
      .ok ⟨(Path.fileName? workspace.root).getD "", []⟩ := by
  have different := (Disk.isProper_of_readFolder proper readable).different
  have clear : ¬ workspace.IsBlockedIn ⟨[], entries⟩ := by
    rw [isBlockedIn_iff different]
    rintro (reach | ⟨entry, member, visible, -⟩)
    · have unreadable :
          disk.readFolder (workspace.pathTo []) =
            if workspace.isOutOfReach [] then .error .nameTooLong
            else .ok entries :=
        readFolder_pathTo proper readable rfl
      rw [reach] at unreadable
      cases readable.symm.trans unreadable
    · exact hidden entry member visible
  obtain ⟨-, files, collected, lists, -⟩ :=
    (collect_ends proper readable).resolve_right
      fun ⟨isBlocked, _⟩ => clear isBlocked
  rw [collected, lists.eq_nil_iff.mpr]
  rintro ⟨trail, content, eligible⟩
  exact not_isEligible_of_hidden different hidden eligible

end Workspace

/--
A readable workspace that is called empty has a snapshot, and the snapshot has no files.
The other way round this holds of a snapshot exactly if it has some files, or if none of
the workspace's own entries is visible.
-/
theorem emptiness_agrees_with_snapshot_iff
    {workspace : Workspace}
    {disk : Disk}
    {entries : List (String × FileTree)}
    (proper : disk.top.IsProper)
    (readable : disk.readFolder workspace.root = .ok entries) :
    (workspace.isEmpty disk = true →
      workspace.collect disk =
        .ok ⟨(Path.fileName? workspace.root).getD "", []⟩) ∧
    ∀ snapshot,
      workspace.collect disk = .ok snapshot →
      ((workspace.isEmpty disk = true ↔ snapshot.files = []) ↔
        (∃ trail content,
          (FileTree.folder entries).IsEligible workspace.maxFileBytes trail
            content) ∨
          ∀ entry ∈ entries, ¬ IsVisible entry.1) := by
  have different :=
    (Disk.isProper_of_readFolder proper readable).different
  rw [Workspace.isEmpty_iff readable]
  refine ⟨Workspace.collect_of_hidden proper readable, ?_⟩
  intro snapshot collected
  have lists := Workspace.lists_of_collect proper readable collected
  rw [lists.eq_nil_iff]
  constructor
  · intro agree
    by_cases hidden : ∀ entry ∈ entries, ¬ IsVisible entry.1
    · exact .inr hidden
    · exact .inl (Classical.not_not.mp fun none => hidden (agree.mpr none))
  · rintro (some | hidden)
    · constructor
      · intro hidden
        obtain ⟨_, _, eligible⟩ := some
        exact absurd eligible
          (Workspace.not_isEligible_of_hidden different hidden)
      · exact fun none => absurd some none
    · refine iff_of_true hidden ?_
      rintro ⟨_, _, eligible⟩
      exact Workspace.not_isEligible_of_hidden different hidden eligible

/-- The small workspace is not called empty, and its snapshot has files. -/
theorem small_workspace_called_filled :
    ∃ snapshot,
      (smallDisk smallEntries).top.IsProper ∧
        (smallDisk smallEntries).readFolder smallWorkspace.root =
          .ok smallEntries ∧
        smallWorkspace.collect (smallDisk smallEntries) = .ok snapshot ∧
        (smallWorkspace.isEmpty (smallDisk smallEntries) = true ↔
          snapshot.files = []) := by
  have proper := isProper_smallDisk isProper_smallEntries
  have readable := readFolder_ws smallEntries
  obtain ⟨files, collected, -⟩ :=
    Workspace.collect_of_short proper readable smallWorkspace_short
  have eligible :
      (FileTree.folder smallEntries).IsEligible smallWorkspace.maxFileBytes
        ["src", "a"] ⟨#[120]⟩ := by
    refine ⟨rfl, ?_, by decide⟩
    simp only [← isSkipped_eq_false]
    decide
  exact ⟨_, proper, readable, collected,
    ((emptiness_agrees_with_snapshot_iff proper readable).2 _ collected).mpr
      (.inl ⟨_, _, eligible⟩)⟩

/-- A workspace with nothing but an empty folder is not called empty, and has no files. -/
theorem folder_alone_not_called_empty :
    (smallDisk [("src", .folder [])]).top.IsProper ∧
      smallWorkspace.isEmpty (smallDisk [("src", .folder [])]) = false ∧
      smallWorkspace.collect (smallDisk [("src", .folder [])]) =
        .ok ⟨"ws", []⟩ := by
  have readable := readFolder_ws [("src", .folder [])]
  refine ⟨FileTree.isProper_of_canBeKept _ (by decide), ?_, ?_⟩
  · unfold Workspace.isEmpty
    rw [readable]
    decide
  · have found :
        (smallWorkspace.search
          ⟨[⟨[], [("src", .folder [])]⟩], []⟩).toOption = some [] := by
      decide +kernel
    cases searched :
        smallWorkspace.search ⟨[⟨[], [("src", .folder [])]⟩], []⟩ with
    | error failure =>
        rw [searched] at found
        cases found
    | ok files =>
        rw [searched] at found
        obtain rfl := Option.some.inj found
        rw [Workspace.collect_of_search readable searched,
          List.mergeSort_nil]
        rfl

end AssessmentChat
