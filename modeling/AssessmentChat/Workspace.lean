import AssessmentChat.Files.Disk
import AssessmentChat.Text.Base64

namespace AssessmentChat

/-!
# Workspaces

A workspace is a folder.  Its snapshot lists every file below it with its
content, except hidden entries, what builds leave behind and files that are too
large; links are not followed.  Folders are read one after the other, and those
that a folder holds are read when its own entries have all been looked at.
-/

/-- A file of a snapshot. -/
structure SnapshotFile where
  /-- The names from the workspace down to the file, separated by slashes. -/
  path : String
  size : UInt64
  /-- The bytes of the file in base 64. -/
  content : String
deriving Repr, DecidableEq

/-- The files of a workspace. -/
structure WorkspaceSnapshot where
  rootName : String
  files : List SnapshotFile
deriving Repr, DecidableEq

/-- A folder to assess. -/
structure Workspace where
  root : String
  /-- Files with more bytes are left out. -/
  maxFileBytes : Nat := 1024 * 1024
deriving Repr, DecidableEq

/-- The bytes of a file. -/
def SnapshotFile.decoded (file : SnapshotFile) : Except Fault ByteArray :=
  match Base64.decode file.content with
  | .ok content => .ok content
  | .error flaw => .error (.serialization "base64" flaw.message)

/-- The folders that builds leave behind. -/
def buildFolders : List String :=
  ["target", "node_modules", "build", "dist"]

/-- Whether an entry is hidden. -/
def isHidden (name : String) : Bool :=
  name.toList.head? = some '.'

/-- Whether an entry is left out because of its name. -/
def isSkipped (name : String) : Bool :=
  isHidden name || buildFolders.contains name

/-- The entry of a snapshot for a file, reached by the names of a trail. -/
def SnapshotFile.ofContent (trail : List String) (content : ByteArray) : SnapshotFile :=
  ⟨"/".intercalate trail, .ofNat content.size, Base64.encode content⟩

/-- Whether bytes come first in the order of the alphabet, or are the same. -/
def bytesAtMost : List UInt8 → List UInt8 → Bool
  | [], _ => true
  | _ :: _, [] => false
  | left :: lefts, right :: rights =>
      left.toNat < right.toNat || (left = right && bytesAtMost lefts rights)

/-- The bytes of the path of a file. -/
def SnapshotFile.pathBytes (file : SnapshotFile) : List UInt8 :=
  file.path.toUTF8.data.toList

/-- Whether the path of a file comes before that of another, or is the same. -/
def SnapshotFile.isAtMost (file other : SnapshotFile) : Bool :=
  bytesAtMost file.pathBytes other.pathBytes

/-- A folder to be searched: the names that lead to it and what it holds. -/
structure Branch where
  trail : List String
  entries : List (String × FileTree)

/--
How far a search has got: the folders that it has still to read, the next one first,
and the files that it has found.
-/
structure Search where
  pending : List Branch
  files : List SnapshotFile

namespace Workspace

/-- The path from the root of a workspace along the names of a trail. -/
def pathTo (workspace : Workspace) (trail : List String) : String :=
  trail.foldl Path.join workspace.root

/-- Whether what the names of a trail lead to has too long a path to be opened. -/
def isOutOfReach (workspace : Workspace) (trail : List String) : Bool :=
  (workspace.pathTo trail).utf8ByteSize ≥ Disk.pathLimit

/-- Goes on to an entry of the folder that a trail leads to. -/
def visit (workspace : Workspace) (trail : List String) (search : Search)
    (entry : String × FileTree) : Except FileFault Search :=
  let onward := trail ++ [entry.1]
  if isSkipped entry.1 then .ok search
  else
    match entry.2 with
    | .folder entries => .ok { search with pending := ⟨onward, entries⟩ :: search.pending }
    | .file content =>
        if content.size > workspace.maxFileBytes then .ok search
        else if workspace.isOutOfReach onward then .error .nameTooLong
        else .ok { search with files := search.files ++ [.ofContent onward content] }
    | .link _ => .ok search

/-- Goes on to one entry after the other. -/
def visitAll (workspace : Workspace) (trail : List String) (search : Search) :
    List (String × FileTree) → Except FileFault Search
  | [] => .ok search
  | entry :: rest =>
      match workspace.visit trail search entry with
      | .ok further => workspace.visitAll trail further rest
      | .error failure => .error failure

/-- Reads a folder and goes on to its entries. -/
def read (workspace : Workspace) (search : Search) (branch : Branch) :
    Except FileFault Search :=
  if workspace.isOutOfReach branch.trail then .error .nameTooLong
  else workspace.visitAll branch.trail search branch.entries

end Workspace

namespace Search

/-- How much is still to be read. -/
noncomputable def weight (search : Search) : Nat :=
  search.pending.foldr (fun branch rest => sizeOf branch.entries + rest) 0

/-- Only a folder is put before what is still to be read. -/
theorem pending_visit
    {workspace : Workspace}
    {trail : List String}
    {search further : Search}
    {entry : String × FileTree}
    (visited : workspace.visit trail search entry = .ok further) :
    further.pending = search.pending ∨
      ∃ entries,
        entry.2 = .folder entries ∧
          further.pending =
            ⟨trail ++ [entry.1], entries⟩ :: search.pending := by
  unfold Workspace.visit at visited
  dsimp only at visited
  split at visited
  next =>
    cases visited
    exact .inl rfl
  next =>
    split at visited
    next entries folder =>
      cases visited
      exact .inr ⟨entries, folder, rfl⟩
    next =>
      split at visited
      next =>
        cases visited
        exact .inl rfl
      next =>
        split at visited
        next =>
          cases visited
        next =>
          cases visited
          exact .inl rfl
    next =>
      cases visited
      exact .inl rfl

/-- What an entry adds to what is still to be read is in it. -/
theorem weight_visit
    {workspace : Workspace}
    {trail : List String}
    {search further : Search}
    {entry : String × FileTree}
    (visited : workspace.visit trail search entry = .ok further) :
    further.weight ≤ search.weight + sizeOf entry := by
  obtain ⟨name, tree⟩ := entry
  rcases pending_visit visited with same | ⟨entries, folder, added⟩
  · simp [weight, same]
  · subst folder
    simp only [weight, added, List.foldr_cons, Prod.mk.sizeOf_spec,
      FileTree.folder.sizeOf_spec]
    omega

/-- Going on to entries leaves less to be read than they hold. -/
theorem weight_visitAll
    {workspace : Workspace}
    {trail : List String}
    {search further : Search}
    {entries : List (String × FileTree)}
    (visited : workspace.visitAll trail search entries = .ok further) :
    further.weight < search.weight + sizeOf entries := by
  fun_induction Workspace.visitAll workspace trail search entries with
  | case1 search =>
      cases visited
      simp
  | case2 search entry rest middle first inductionHypothesis =>
      have added := weight_visit first
      have less := inductionHypothesis visited
      simp only [List.cons.sizeOf_spec]
      omega
  | case3 =>
      cases visited

/-- Reading a folder leaves less to be read. -/
theorem weight_read
    {workspace : Workspace}
    {search further : Search}
    {branch : Branch}
    (read : workspace.read search branch = .ok further) :
    further.weight < search.weight + sizeOf branch.entries := by
  unfold Workspace.read at read
  split at read
  next =>
    cases read
  next =>
    exact weight_visitAll read

end Search

namespace Workspace

/-- The files that a search finds when it is carried on to its end. -/
def search (workspace : Workspace) : Search → Except FileFault (List SnapshotFile)
  | ⟨[], files⟩ => .ok files
  | ⟨branch :: pending, files⟩ =>
      match _ : workspace.read ⟨pending, files⟩ branch with
      | .ok further => workspace.search further
      | .error failure => .error failure
termination_by reached => reached.weight
decreasing_by
  have less := Search.weight_read ‹_›
  simpa [Search.weight, Nat.add_comm] using less

/-- The files of a workspace, in the order of their paths. -/
def collect (workspace : Workspace) (disk : Disk) : Except Fault WorkspaceSnapshot :=
  let found := (disk.readFolder workspace.root).bind fun entries =>
    workspace.search ⟨[⟨[], entries⟩], []⟩
  match found with
  | .ok files =>
      .ok
        { rootName := (Path.fileName? workspace.root).getD ""
          files := files.mergeSort SnapshotFile.isAtMost }
  | .error failure => .error failure.fault

/-- Whether there is nothing to assess; a folder that cannot be read has nothing. -/
def isEmpty (workspace : Workspace) (disk : Disk) : Bool :=
  match disk.readFolder workspace.root with
  | .ok entries => entries.all fun (name, _) => isSkipped name
  | .error _ => true

end Workspace

end AssessmentChat
