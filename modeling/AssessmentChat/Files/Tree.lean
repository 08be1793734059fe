namespace AssessmentChat

/-!
# File trees

What a file system holds, seen from its top: files, folders whose entries have
names, and links that name another path.
-/

/-- A file, a folder or a link. -/
inductive FileTree
  | file (content : ByteArray)
  | folder (entries : List (String × FileTree))
  | link (target : String)
deriving Inhabited

namespace FileTree

/-- The entries of a folder. -/
def entries? : FileTree → Option (List (String × FileTree))
  | .folder entries => some entries
  | _ => none

/-- Whether this is a folder. -/
def isFolder (tree : FileTree) : Bool :=
  tree.entries?.isSome

/-- What the names lead to, links not being followed. -/
def at? (tree : FileTree) : List String → Option FileTree
  | [] => some tree
  | name :: path =>
      match tree with
      | .folder entries => (entries.lookup name).bind fun child => child.at? path
      | _ => none

/-- The entries with one of them set, in its place or else at the end. -/
def setEntry (name : String) (tree : FileTree) :
    List (String × FileTree) → List (String × FileTree)
  | [] => [(name, tree)]
  | (present, old) :: rest =>
      if present = name then (name, tree) :: rest else (present, old) :: setEntry name tree rest

/-- The tree with another one put where the names lead; nothing changes off the way. -/
def put (tree replacement : FileTree) : List String → FileTree
  | [] => replacement
  | name :: path =>
      match tree with
      | .folder entries =>
          match entries.lookup name with
          | some child => .folder (setEntry name (child.put replacement path) entries)
          | none => .folder (setEntry name replacement entries)
      | _ => tree

end FileTree

end AssessmentChat
