import AssessmentChat.Proofs.ProperTrees
import AssessmentChat.Workspace

namespace AssessmentChat

/-!
# Searching folders

Which files belong into a snapshot is said of the tree alone, and what a search finds
is those files, each once.  While it goes on, every file is either found already or
lies below one of the folders that are still to be read.  A search fails only if
something that it has to open is out of reach.
-/

/-- A name that leaves an entry in snapshots. -/
structure IsVisible (name : String) : Prop where
  notHidden :
    ∀ rest, name.toList ≠ '.' :: rest
  notBuilt :
    name ∉ ["target", "node_modules", "build", "dist"]

/-- A name is not skipped exactly if it is visible. -/
theorem isSkipped_eq_false
    {name : String} :
    isSkipped name = false ↔ IsVisible name := by
  have hidden : isHidden name = false ↔ ∀ rest, name.toList ≠ '.' :: rest := by
    unfold isHidden
    cases name.toList with
    | nil =>
        simp
    | cons letter rest =>
        simp [eq_comm]
  have built :
      buildFolders.contains name = false ↔
        name ∉ ["target", "node_modules", "build", "dist"] := by
    rw [← Bool.not_eq_true, List.contains_iff_mem]
    rfl
  rw [isSkipped, Bool.or_eq_false_iff, hidden, built]
  exact ⟨fun ⟨shown, kept⟩ => ⟨shown, kept⟩,
    fun ⟨shown, kept⟩ => ⟨shown, kept⟩⟩

namespace FileTree

/-- A file that belongs into a snapshot of a tree, by the names that lead to it. -/
structure IsEligible
    (limit : Nat)
    (tree : FileTree)
    (trail : List String)
    (content : ByteArray) : Prop where
  /-- No link lies on the way, and it is no link itself. -/
  present :
    tree.at? trail = some (.file content)
  visible :
    ∀ name ∈ trail, IsVisible name
  small :
    content.size ≤ limit

/-- What is opened for a snapshot of a tree: its folders, and the files that belong into it. -/
inductive IsOpened
    (limit : Nat)
    (tree : FileTree)
    (trail : List String) : Prop where
  | folder
      {entries : List (String × FileTree)} :
      tree.at? trail = some (.folder entries) →
      (∀ name ∈ trail, IsVisible name) →
      IsOpened limit tree trail
  | file
      {content : ByteArray} :
      tree.IsEligible limit trail content →
      IsOpened limit tree trail

mutual

/-- The eligible files of a tree, folder by folder. -/
def eligible (limit : Nat) : FileTree → List (List String × ByteArray)
  | .file content => if content.size ≤ limit then [([], content)] else []
  | .folder entries => eligibleBelow limit entries
  | .link _ => []

/-- The eligible files below the entries of a folder. -/
def eligibleBelow (limit : Nat) :
    List (String × FileTree) → List (List String × ByteArray)
  | [] => []
  | (name, tree) :: rest =>
      (if isSkipped name then []
        else (tree.eligible limit).map (Prod.map (name :: ·) id)) ++
          eligibleBelow limit rest

end

variable
  {limit : Nat}
  {tree : FileTree}
  {entries : List (String × FileTree)}
  {name : String}
  {trail : List String}
  {content : ByteArray}

/-! ## What lies below a folder -/

/--
A file below a folder is eligible if the way to it is visible and it is below an entry.
-/
theorem isEligible_folder_cons
    (different : (entries.map Prod.fst).Nodup) :
    (FileTree.folder entries).IsEligible limit (name :: trail) content ↔
      IsVisible name ∧
        ∃ tree,
          (name, tree) ∈ entries ∧ tree.IsEligible limit trail content := by
  constructor
  · rintro ⟨present, visible, small⟩
    obtain ⟨tree, member, below⟩ :=
      (at?_folder_cons different).mp present
    obtain ⟨first, rest⟩ := List.forall_mem_cons.mp visible
    exact ⟨first, tree, member, below, rest, small⟩
  · rintro ⟨first, tree, member, below, rest, small⟩
    exact ⟨(at?_folder_cons different).mpr ⟨tree, member, below⟩,
      List.forall_mem_cons.mpr ⟨first, rest⟩, small⟩

/-- What is opened below a folder is so on a visible way below an entry. -/
theorem isOpened_folder_cons
    (different : (entries.map Prod.fst).Nodup) :
    (FileTree.folder entries).IsOpened limit (name :: trail) ↔
      IsVisible name ∧
        ∃ tree, (name, tree) ∈ entries ∧ tree.IsOpened limit trail := by
  constructor
  · rintro (⟨present, visible⟩ | eligible)
    · obtain ⟨tree, member, below⟩ :=
        (at?_folder_cons different).mp present
      obtain ⟨first, rest⟩ := List.forall_mem_cons.mp visible
      exact ⟨first, tree, member, .folder below rest⟩
    · obtain ⟨first, tree, member, below⟩ :=
        (isEligible_folder_cons different).mp eligible
      exact ⟨first, tree, member, .file below⟩
  · rintro ⟨first, tree, member, opened⟩
    cases opened with
    | folder below rest =>
        exact .folder ((at?_folder_cons different).mpr ⟨tree, member, below⟩)
          (List.forall_mem_cons.mpr ⟨first, rest⟩)
    | file below =>
        exact .file
          ((isEligible_folder_cons different).mpr
            ⟨first, tree, member, below⟩)

/-- A folder itself is always opened. -/
theorem isOpened_folder_nil :
    (FileTree.folder entries).IsOpened limit [] :=
  .folder rfl (by simp)

/-- A file is opened if it is not too large. -/
theorem isOpened_file :
    (FileTree.file content).IsOpened limit trail ↔
      trail = [] ∧ content.size ≤ limit := by
  constructor
  · rintro (⟨present, -⟩ | ⟨present, -, small⟩)
    · cases trail <;> cases present
    · cases trail with
      | nil =>
          cases present
          exact ⟨rfl, small⟩
      | cons =>
          cases present
  · rintro ⟨rfl, small⟩
    exact .file ⟨rfl, by simp, small⟩

/-- Nothing is opened through a link. -/
theorem not_isOpened_link
    {target : String} :
    ¬ (FileTree.link target).IsOpened limit trail := by
  rintro (⟨present, -⟩ | ⟨present, -, -⟩)
  · cases trail <;> cases present
  · cases trail <;> cases present

/-! ## The order of entries -/

/-- Which files are eligible does not depend on the order of entries. -/
theorem IsEligible.rearranged
    {other : FileTree}
    (eligible : tree.IsEligible limit trail content)
    (proper : tree.IsProper)
    (rearranged : tree.Rearranged other) :
    other.IsEligible limit trail content := by
  obtain ⟨now, present, same⟩ := rearranged.at? proper eligible.present
  rw [same.file_eq] at present
  exact ⟨present, eligible.visible, eligible.small⟩

/-- What is opened does not depend on the order of entries. -/
theorem IsOpened.rearranged
    {other : FileTree}
    (opened : tree.IsOpened limit trail)
    (proper : tree.IsProper)
    (rearranged : tree.Rearranged other) :
    other.IsOpened limit trail := by
  cases opened with
  | folder present visible =>
      obtain ⟨now, present, same⟩ := rearranged.at? proper present
      obtain ⟨others, rfl⟩ := same.folder_eq
      exact .folder present visible
  | file eligible =>
      exact .file (eligible.rearranged proper rearranged)

/-! ## The list of eligible files -/

/-- The eligible files below entries are those below each. -/
theorem eligibleBelow_cons
    (entry : String × FileTree)
    (rest : List (String × FileTree)) :
    eligibleBelow limit (entry :: rest) =
      eligibleBelow limit [entry] ++ eligibleBelow limit rest := by
  simp [eligibleBelow]

/-- Below a visible entry all that is eligible there is so. -/
theorem eligibleBelow_of_visible
    (visible : IsVisible name) :
    eligibleBelow limit [(name, tree)] =
      (tree.eligible limit).map (Prod.map (name :: ·) id) := by
  simp [eligibleBelow, isSkipped_eq_false.mpr visible]

/-- Below a hidden entry nothing is eligible. -/
theorem eligibleBelow_of_not_visible
    (hidden : ¬ IsVisible name) :
    eligibleBelow limit [(name, tree)] = [] := by
  have skipped : isSkipped name = true := by
    rwa [← isSkipped_eq_false, Bool.not_eq_false] at hidden
  simp [eligibleBelow, skipped]

/-- A file is eligible below entries if it is so below a visible one. -/
theorem mem_eligibleBelow :
    (trail, content) ∈ eligibleBelow limit entries ↔
      ∃ name rest tree,
        trail = name :: rest ∧ IsVisible name ∧
          (name, tree) ∈ entries ∧ (rest, content) ∈ tree.eligible limit := by
  have first (name : String) (tree : FileTree) :
      (trail, content) ∈ eligibleBelow limit [(name, tree)] ↔
        ∃ rest,
          trail = name :: rest ∧ IsVisible name ∧
            (rest, content) ∈ tree.eligible limit := by
    by_cases visible : IsVisible name
    · rw [eligibleBelow_of_visible visible]
      simp [visible, eq_comm, and_comm]
    · rw [eligibleBelow_of_not_visible visible]
      simp [visible]
  induction entries with
  | nil =>
      simp [eligibleBelow]
  | cons entry others inductionHypothesis =>
      obtain ⟨present, held⟩ := entry
      rw [eligibleBelow_cons, List.mem_append]
      refine (or_congr (first present held) inductionHypothesis).trans ?_
      constructor
      · rintro (⟨rest, same, visible, member⟩ |
          ⟨name, rest, tree, same, visible, below, member⟩)
        · exact ⟨present, rest, held, same, visible, List.mem_cons_self,
            member⟩
        · exact ⟨name, rest, tree, same, visible,
            List.mem_cons_of_mem _ below, member⟩
      · rintro ⟨name, rest, tree, same, visible, below, member⟩
        rcases List.mem_cons.mp below with here | below
        · obtain ⟨rfl, rfl⟩ := Prod.mk.inj here
          exact .inl ⟨rest, same, visible, member⟩
        · exact .inr ⟨name, rest, tree, same, visible, below, member⟩

/-- The list has exactly the eligible files. -/
theorem mem_eligible
    (proper : tree.IsProper) :
    (trail, content) ∈ tree.eligible limit ↔
      tree.IsEligible limit trail content := by
  induction proper generalizing trail with
  | file held =>
      constructor
      · intro member
        unfold eligible at member
        split at member
        next small =>
          obtain ⟨rfl, rfl⟩ := Prod.mk.inj (List.mem_singleton.mp member)
          exact ⟨rfl, by simp, small⟩
        next =>
          cases member
      · rintro ⟨present, -, small⟩
        cases trail with
        | nil =>
            cases present
            simp [eligible, small]
        | cons =>
            cases present
  | link target =>
      constructor
      · intro member
        cases member
      · rintro ⟨present, -, -⟩
        cases trail <;> cases present
  | folder different _ _ inductionHypothesis =>
      rw [eligible, mem_eligibleBelow]
      constructor
      · rintro ⟨name, rest, tree, rfl, visible, below, member⟩
        exact (isEligible_folder_cons different).mpr
          ⟨visible, tree, below,
            (inductionHypothesis name tree below).mp member⟩
      · intro isEligible
        cases trail with
        | nil =>
            cases isEligible.present
        | cons name rest =>
            obtain ⟨visible, tree, below, onward⟩ :=
              (isEligible_folder_cons different).mp isEligible
            exact ⟨name, rest, tree, rfl, visible, below,
              (inductionHypothesis name tree below).mpr onward⟩

/-- The files below entries with different names have different trails. -/
theorem nodup_eligibleBelow
    (different : (entries.map Prod.fst).Nodup)
    (each :
      ∀ name tree,
        (name, tree) ∈ entries →
        ((tree.eligible limit).map Prod.fst).Nodup) :
    ((eligibleBelow limit entries).map Prod.fst).Nodup := by
  induction entries with
  | nil =>
      simp [eligibleBelow]
  | cons entry others inductionHypothesis =>
      obtain ⟨present, held⟩ := entry
      obtain ⟨unused, othersDifferent⟩ := List.nodup_cons.mp different
      have rest := inductionHypothesis othersDifferent fun name tree member =>
        each name tree (List.mem_cons_of_mem _ member)
      rw [eligibleBelow_cons, List.map_append]
      by_cases visible : IsVisible present
      · rw [eligibleBelow_of_visible visible]
        have here :
            (((held.eligible limit).map Prod.fst).map
              (present :: ·)).Nodup :=
          List.Pairwise.map (present :: ·)
            (fun _ _ apart same => apart (List.tail_eq_of_cons_eq same))
            (each present held List.mem_cons_self)
        have shape :
            ((held.eligible limit).map
                (Prod.map (present :: ·) id)).map Prod.fst =
              ((held.eligible limit).map Prod.fst).map (present :: ·) := by
          simp
        rw [shape]
        refine List.nodup_append.mpr ⟨here, rest, ?_⟩
        rintro trail first other second rfl
        obtain ⟨below, -, rfl⟩ := List.mem_map.mp first
        obtain ⟨⟨trail, content⟩, listed, same⟩ := List.mem_map.mp second
        obtain ⟨name, _, tree, started, -, member, -⟩ :=
          mem_eligibleBelow.mp listed
        obtain ⟨rfl, -⟩ := List.cons_eq_cons.mp (same.symm.trans started)
        exact unused (List.mem_map.mpr ⟨_, member, rfl⟩)
      · rw [eligibleBelow_of_not_visible visible]
        simpa using rest

/-- No names lead to two files of the list. -/
theorem nodup_eligible
    (limit : Nat)
    (proper : tree.IsProper) :
    ((tree.eligible limit).map Prod.fst).Nodup := by
  induction proper with
  | file content =>
      unfold eligible
      split <;> simp
  | link target =>
      simp [eligible]
  | folder different _ _ inductionHypothesis =>
      rw [eligible]
      exact nodup_eligibleBelow different inductionHypothesis

end FileTree

/-! ## One folder after the other -/

/-- The files of a snapshot, found below the folder that a trail leads to. -/
def listed (trail : List String) (found : List (List String × ByteArray)) :
    List SnapshotFile :=
  found.map fun (more, content) => .ofContent (trail ++ more) content

/-- Every folder that a search has still to read lies where its trail leads to. -/
def Search.LiesIn (search : Search) (top : FileTree) : Prop :=
  ∀ branch ∈ search.pending, top.at? branch.trail = some (.folder branch.entries)

namespace Workspace

variable
  {workspace : Workspace}
  {trail : List String}
  {search further : Search}
  {branch : Branch}
  {entry : String × FileTree}
  {entries : List (String × FileTree)}
  {failure : FileFault}

/-- Everything that going on to an entry can do. -/
inductive Visits
    (workspace : Workspace)
    (trail : List String)
    (search : Search) :
    String × FileTree → Except FileFault Search → Prop where
  | skips
      {name : String}
      {tree : FileTree} :
      ¬ IsVisible name →
      Visits workspace trail search (name, tree) (.ok search)
  | defers
      {name : String}
      {entries : List (String × FileTree)} :
      IsVisible name →
      Visits workspace trail search (name, .folder entries)
        (.ok { search with
          pending := ⟨trail ++ [name], entries⟩ :: search.pending })
  | leavesOut
      {name : String}
      {content : ByteArray} :
      IsVisible name →
      ¬ content.size ≤ workspace.maxFileBytes →
      Visits workspace trail search (name, .file content) (.ok search)
  | fails
      {name : String}
      {content : ByteArray} :
      IsVisible name →
      content.size ≤ workspace.maxFileBytes →
      workspace.isOutOfReach (trail ++ [name]) = true →
      Visits workspace trail search (name, .file content)
        (.error .nameTooLong)
  | lists
      {name : String}
      {content : ByteArray} :
      IsVisible name →
      content.size ≤ workspace.maxFileBytes →
      workspace.isOutOfReach (trail ++ [name]) = false →
      Visits workspace trail search (name, .file content)
        (.ok { search with
          files := search.files ++ [.ofContent (trail ++ [name]) content] })
  | passesLink
      {name target : String} :
      IsVisible name →
      Visits workspace trail search (name, .link target) (.ok search)

/-- Every entry is visited in one of the ways there are. -/
theorem visits
    (workspace : Workspace)
    (trail : List String)
    (search : Search)
    (entry : String × FileTree) :
    workspace.Visits trail search entry
      (workspace.visit trail search entry) := by
  obtain ⟨name, tree⟩ := entry
  unfold visit
  dsimp only
  cases skipped : isSkipped name with
  | true =>
      refine .skips ?_
      rw [← isSkipped_eq_false, skipped]
      nofun
  | false =>
      have visible := isSkipped_eq_false.mp skipped
      cases tree with
      | folder entries =>
          exact .defers visible
      | link target =>
          exact .passesLink visible
      | file content =>
          by_cases large : content.size > workspace.maxFileBytes
          · simp only [large, ↓reduceIte]
            exact .leavesOut visible (Nat.not_le_of_gt large)
          · have small := Nat.le_of_not_gt large
            cases reach : workspace.isOutOfReach (trail ++ [name]) with
            | true =>
                simp only [large, ↓reduceIte]
                exact .fails visible small reach
            | false =>
                simp only [large, ↓reduceIte]
                exact .lists visible small reach

/-- What a search has found and what it is still to find. -/
def outcome (workspace : Workspace) (search : Search) : List SnapshotFile :=
  search.files ++
    search.pending.flatMap fun branch =>
      listed branch.trail
        (FileTree.eligibleBelow workspace.maxFileBytes branch.entries)

/-- Going on to an entry puts the files of the entry into the outcome. -/
theorem outcome_visit
    (visited : workspace.visit trail search entry = .ok further) :
    (workspace.outcome further).Perm
      (workspace.outcome search ++
        listed trail
          (FileTree.eligibleBelow workspace.maxFileBytes [entry])) := by
  have visits := workspace.visits trail search entry
  rw [visited] at visits
  cases visits with
  | skips hidden =>
      rw [FileTree.eligibleBelow_of_not_visible hidden]
      simp [listed]
  | @defers name entries visible =>
      rw [FileTree.eligibleBelow_of_visible visible]
      have below :
          listed trail
              ((FileTree.eligibleBelow workspace.maxFileBytes entries).map
                (Prod.map (name :: ·) id)) =
            listed (trail ++ [name])
              (FileTree.eligibleBelow workspace.maxFileBytes entries) := by
        simp [listed, Function.comp_def]
      rw [FileTree.eligible, below, outcome, outcome, List.append_assoc,
        List.flatMap_cons]
      exact .append_left _ List.perm_append_comm
  | leavesOut visible large =>
      rw [FileTree.eligibleBelow_of_visible visible]
      simp [FileTree.eligible, large, listed]
  | lists visible small reach =>
      rw [FileTree.eligibleBelow_of_visible visible]
      simp only [FileTree.eligible, small, listed, outcome, ↓reduceIte,
        List.map_cons, List.map_nil, Prod.map, id, List.append_assoc]
      exact .append_left _ List.perm_append_comm
  | passesLink visible =>
      rw [FileTree.eligibleBelow_of_visible visible]
      simp [FileTree.eligible, listed]

/-! ### What cannot be opened -/

/-- Something is to be opened for an entry that is out of reach. -/
def IsBlockedAt
    (workspace : Workspace)
    (trail : List String)
    (entry : String × FileTree) : Prop :=
  IsVisible entry.1 ∧
    ∃ more,
      entry.2.IsOpened workspace.maxFileBytes more ∧
        workspace.isOutOfReach (trail ++ entry.1 :: more) = true

/-- Something is to be opened in a folder, or is the folder, that is out of reach. -/
def IsBlockedIn (workspace : Workspace) (branch : Branch) : Prop :=
  ∃ more,
    (FileTree.folder branch.entries).IsOpened workspace.maxFileBytes more ∧
      workspace.isOutOfReach (branch.trail ++ more) = true

/-- Something is out of reach that a search has still to open. -/
def IsBlocked (workspace : Workspace) (search : Search) : Prop :=
  ∃ branch ∈ search.pending, workspace.IsBlockedIn branch

/-- A branch is blocked if it is out of reach or one of its entries is blocked. -/
theorem isBlockedIn_iff
    (different : (branch.entries.map Prod.fst).Nodup) :
    workspace.IsBlockedIn branch ↔
      workspace.isOutOfReach branch.trail = true ∨
        ∃ entry ∈ branch.entries, workspace.IsBlockedAt branch.trail entry := by
  constructor
  · rintro ⟨more, opened, reach⟩
    cases more with
    | nil =>
        exact .inl (by simpa using reach)
    | cons name rest =>
        obtain ⟨visible, tree, member, opened⟩ :=
          (FileTree.isOpened_folder_cons different).mp opened
        exact .inr ⟨(name, tree), member, visible, rest, opened, reach⟩
  · rintro (reach | ⟨⟨name, tree⟩, member, visible, rest, opened, reach⟩)
    · exact ⟨[], FileTree.isOpened_folder_nil, by simpa using reach⟩
    · exact ⟨name :: rest,
        (FileTree.isOpened_folder_cons different).mpr
          ⟨visible, tree, member, opened⟩, reach⟩

/-- Going on to an entry fails only if its file is out of reach. -/
theorem isBlockedAt_of_visit
    (failed : workspace.visit trail search entry = .error failure) :
    failure = .nameTooLong ∧ workspace.IsBlockedAt trail entry := by
  have visits := workspace.visits trail search entry
  rw [failed] at visits
  cases visits with
  | fails visible small reach =>
      exact ⟨rfl, visible, [], FileTree.isOpened_file.mpr ⟨rfl, small⟩, reach⟩

/-- What blocks an entry that could be gone on to lies in a folder that is put off. -/
theorem isBlocked_visit
    (visited : workspace.visit trail search entry = .ok further) :
    workspace.IsBlocked further ↔
      workspace.IsBlocked search ∨ workspace.IsBlockedAt trail entry := by
  have visits := workspace.visits trail search entry
  rw [visited] at visits
  cases visits with
  | skips hidden =>
      simp [IsBlockedAt, hidden]
  | defers visible =>
      simp [IsBlocked, IsBlockedIn, IsBlockedAt, visible, or_comm]
  | leavesOut visible large =>
      simp [IsBlocked, IsBlockedAt, FileTree.isOpened_file, large]
  | lists visible small reach =>
      simp [IsBlocked, IsBlockedAt, FileTree.isOpened_file, reach]
  | passesLink visible =>
      simp [IsBlockedAt, FileTree.not_isOpened_link]

/-! ### Reading a folder -/

/-- Visiting entries adds the files that are eligible below them. -/
theorem outcome_visitAll
    (visited : workspace.visitAll trail search entries = .ok further) :
    (workspace.outcome further).Perm
      (workspace.outcome search ++
        listed trail
          (FileTree.eligibleBelow workspace.maxFileBytes entries)) := by
  fun_induction visitAll workspace trail search entries with
  | case1 search =>
      cases visited
      simp [listed, FileTree.eligibleBelow]
  | case2 search entry rest middle first inductionHypothesis =>
      have here := outcome_visit first
      have later := inductionHypothesis visited
      rw [FileTree.eligibleBelow_cons, listed, List.map_append,
        ← List.append_assoc]
      exact later.trans (here.append_right _)
  | case3 =>
      cases visited

/-- Visiting entries blocks the search if one of them is blocked. -/
theorem isBlocked_visitAll
    (visited : workspace.visitAll trail search entries = .ok further) :
    workspace.IsBlocked further ↔
      workspace.IsBlocked search ∨
        ∃ entry ∈ entries, workspace.IsBlockedAt trail entry := by
  fun_induction visitAll workspace trail search entries with
  | case1 search =>
      cases visited
      simp
  | case2 search entry rest middle first inductionHypothesis =>
      rw [inductionHypothesis visited, isBlocked_visit first]
      simp [or_assoc]
  | case3 =>
      cases visited

/-- A visit that fails has come to an entry that is blocked. -/
theorem isBlockedAt_of_visitAll
    (failed : workspace.visitAll trail search entries = .error failure) :
    failure = .nameTooLong ∧
      ∃ entry ∈ entries, workspace.IsBlockedAt trail entry := by
  fun_induction visitAll workspace trail search entries with
  | case1 =>
      cases failed
  | case2 search entry rest middle first inductionHypothesis =>
      obtain ⟨reason, blocked, member, isBlocked⟩ :=
        inductionHypothesis failed
      exact ⟨reason, blocked, List.mem_cons_of_mem _ member, isBlocked⟩
  | case3 search entry rest reason first =>
      cases failed
      obtain ⟨reason, isBlocked⟩ := isBlockedAt_of_visit first
      exact ⟨reason, entry, List.mem_cons_self, isBlocked⟩

/-- Reading a folder puts its files into the outcome. -/
theorem outcome_read
    (read : workspace.read search branch = .ok further) :
    (workspace.outcome further).Perm
      (workspace.outcome search ++
        listed branch.trail
          (FileTree.eligibleBelow workspace.maxFileBytes branch.entries)) := by
  unfold Workspace.read at read
  split at read
  next =>
    cases read
  next =>
    exact outcome_visitAll read

/-- What blocks a folder that could be read lies in the folders that it holds. -/
theorem isBlocked_read
    (different : (branch.entries.map Prod.fst).Nodup)
    (read : workspace.read search branch = .ok further) :
    workspace.IsBlocked further ↔
      workspace.IsBlocked search ∨ workspace.IsBlockedIn branch := by
  rw [isBlockedIn_iff different]
  unfold Workspace.read at read
  split at read
  next =>
    cases read
  next reach =>
    rw [isBlocked_visitAll read]
    simp [reach]

/-- Reading a folder fails only if the folder or a file in it is out of reach. -/
theorem isBlockedIn_of_read
    (different : (branch.entries.map Prod.fst).Nodup)
    (failed : workspace.read search branch = .error failure) :
    failure = .nameTooLong ∧ workspace.IsBlockedIn branch := by
  rw [isBlockedIn_iff different]
  unfold Workspace.read at failed
  split at failed
  next reach =>
    cases failed
    exact ⟨rfl, .inl reach⟩
  next =>
    obtain ⟨reason, blocked⟩ := isBlockedAt_of_visitAll failed
    exact ⟨reason, .inr blocked⟩

/-! ### A whole search -/

section Descending

variable
  {top : FileTree}

/-- A search stays in its tree while entries are visited. -/
theorem liesIn_visitAll
    (lies : search.LiesIn top)
    (below :
      ∀ name tree,
        (name, tree) ∈ entries → top.at? (trail ++ [name]) = some tree)
    (visited : workspace.visitAll trail search entries = .ok further) :
    further.LiesIn top := by
  fun_induction visitAll workspace trail search entries with
  | case1 search =>
      cases visited
      exact lies
  | case2 search entry rest middle first inductionHypothesis =>
      refine inductionHypothesis ?_ ?_ visited
      · rcases Search.pending_visit first with same | ⟨inner, folder, added⟩
        · rw [Search.LiesIn, same]
          exact lies
        · have here := below entry.1 entry.2 List.mem_cons_self
          rw [folder] at here
          rw [Search.LiesIn, added]
          exact List.forall_mem_cons.mpr ⟨here, lies⟩
      · intro name tree member
        exact below name tree (List.mem_cons_of_mem _ member)
  | case3 =>
      cases visited

/-- A search stays in its tree while a branch is read. -/
theorem liesIn_read
    (lies : search.LiesIn top)
    (proper : top.IsProper)
    (here : top.at? branch.trail = some (.folder branch.entries))
    (read : workspace.read search branch = .ok further) :
    further.LiesIn top := by
  have different := (proper.of_at? here).1.different
  unfold Workspace.read at read
  split at read
  next =>
    cases read
  next =>
    refine liesIn_visitAll lies ?_ read
    intro name tree member
    have entry := (FileTree.lookup_eq_some_iff different).mpr member
    simp [FileTree.at?_snoc, here, FileTree.entries?, entry]

/--
A search finds everything of its outcome, in some order, unless something is out of
reach that it has to open.
-/
theorem search_ends
    (workspace : Workspace)
    (proper : top.IsProper)
    (lies : search.LiesIn top) :
    (¬ workspace.IsBlocked search ∧
      ∃ files,
        workspace.search search = .ok files ∧
          files.Perm (workspace.outcome search)) ∨
      workspace.IsBlocked search ∧
        workspace.search search = .error .nameTooLong := by
  fun_induction Workspace.search workspace search with
  | case1 files =>
      exact .inl ⟨by simp [IsBlocked], files, rfl, by simp [outcome]⟩
  | case2 branch pending files further read inductionHypothesis =>
      obtain ⟨here, rest⟩ := List.forall_mem_cons.mp lies
      have pendingLies : Search.LiesIn ⟨pending, files⟩ top := rest
      have different := (proper.of_at? here).1.different
      have outcomeSame :
          (workspace.outcome further).Perm
            (workspace.outcome ⟨branch :: pending, files⟩) := by
        refine (outcome_read read).trans ?_
        simp only [outcome, List.flatMap_cons, List.append_assoc]
        exact .append_left _ List.perm_append_comm
      have blockedSame :
          workspace.IsBlocked further ↔
            workspace.IsBlocked ⟨branch :: pending, files⟩ := by
        rw [isBlocked_read different read]
        simp [IsBlocked, or_comm]
      rw [← blockedSame]
      refine (inductionHypothesis
        (liesIn_read pendingLies proper here read)).imp_left ?_
      rintro ⟨clear, found, ended, same⟩
      exact ⟨clear, found, ended, same.trans outcomeSame⟩
  | case3 branch pending files failure read =>
      obtain ⟨here, -⟩ := List.forall_mem_cons.mp lies
      obtain ⟨rfl, isBlocked⟩ :=
        isBlockedIn_of_read (proper.of_at? here).1.different read
      exact .inr ⟨⟨branch, List.mem_cons_self, isBlocked⟩, rfl⟩

end Descending

/-! ### Reading along paths -/

section Reading

variable
  {disk : Disk}

/-- A folder is read by its path exactly if the path is short enough. -/
theorem readFolder_pathTo
    {inner : List (String × FileTree)}
    (proper : disk.top.IsProper)
    (readable : disk.readFolder workspace.root = .ok entries)
    (lies :
      (FileTree.folder entries).at? trail = some (.folder inner)) :
    disk.readFolder (workspace.pathTo trail) =
      if workspace.isOutOfReach trail then .error .nameTooLong
      else .ok inner := by
  rw [pathTo, Disk.readFolder_foldl_join proper readable lies]
  simp [isOutOfReach, pathTo]

/-- A file is read by its path exactly if the path is short enough. -/
theorem readFile_pathTo
    {content : ByteArray}
    (proper : disk.top.IsProper)
    (readable : disk.readFolder workspace.root = .ok entries)
    (lies :
      (FileTree.folder entries).at? trail = some (.file content)) :
    disk.readFile (workspace.pathTo trail) =
      if workspace.isOutOfReach trail then .error .nameTooLong
      else .ok content := by
  rw [pathTo, Disk.readFile_foldl_join proper readable lies]
  simp [isOutOfReach, pathTo]

/-- The entries with which a search goes on are those that the path of the folder leads to. -/
theorem read_eq_readFolder
    (proper : disk.top.IsProper)
    (readable : disk.readFolder workspace.root = .ok entries)
    (search : Search)
    (lies :
      (FileTree.folder entries).at? branch.trail =
        some (.folder branch.entries)) :
    workspace.read search branch =
      (disk.readFolder (workspace.pathTo branch.trail)).bind
        (workspace.visitAll branch.trail search) := by
  rw [readFolder_pathTo proper readable lies, read]
  cases workspace.isOutOfReach branch.trail <;> rfl

/-- The bytes that a search lists are those that the path of the file leads to. -/
theorem visit_eq_readFile
    {name : String}
    {content : ByteArray}
    (proper : disk.top.IsProper)
    (readable : disk.readFolder workspace.root = .ok entries)
    (search : Search)
    (lies :
      (FileTree.folder entries).at? (trail ++ [name]) =
        some (.file content))
    (visible : IsVisible name)
    (small : content.size ≤ workspace.maxFileBytes) :
    workspace.visit trail search (name, .file content) =
      (disk.readFile (workspace.pathTo (trail ++ [name]))).bind
        fun content =>
          .ok { search with
            files := search.files ++
              [.ofContent (trail ++ [name]) content] } := by
  have notLarge : ¬ content.size > workspace.maxFileBytes :=
    Nat.not_lt_of_le small
  rw [readFile_pathTo proper readable lies, visit]
  simp only [isSkipped_eq_false.mpr visible, notLarge, ↓reduceIte,
    Bool.false_eq_true]
  cases workspace.isOutOfReach (trail ++ [name]) <;> rfl

end Reading

end Workspace

end AssessmentChat
