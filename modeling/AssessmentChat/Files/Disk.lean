import AssessmentChat.Fault
import AssessmentChat.Files.Path
import AssessmentChat.Files.Tree

namespace AssessmentChat

/-!
# Working with files

Paths are followed step by step through a file tree, links included, and each
operation fails as the system does that keeps the files.  What an operation did
before it failed stays done.
-/

/-- Why an operation on files failed. -/
inductive FileFault
  | notFound
  | alreadyExists
  | notAFolder
  | isAFolder
  | nameTooLong
  | linkLoop
  /-- The bytes of a file are no text. -/
  | notText
deriving Repr, DecidableEq

namespace FileFault

/-- What the system says. -/
def description : FileFault → String
  | .notFound => "No such file or directory (os error 2)"
  | .alreadyExists => "File exists (os error 17)"
  | .notAFolder => "Not a directory (os error 20)"
  | .isAFolder => "Is a directory (os error 21)"
  | .nameTooLong => "File name too long (os error 36)"
  | .linkLoop => "Too many levels of symbolic links (os error 40)"
  | .notText => "stream did not contain valid UTF-8"

/-- The name of the kind of failure. -/
def kind : FileFault → String
  | .notFound => "NotFound"
  | .alreadyExists => "AlreadyExists"
  | .notAFolder => "NotADirectory"
  | .isAFolder => "IsADirectory"
  | .nameTooLong => "InvalidFilename"
  | .linkLoop => "FilesystemLoop"
  | .notText => "InvalidData"

/-- The failure as a fault of the assistant. -/
def fault (failure : FileFault) : Fault :=
  .ofFileError failure.description failure.kind

end FileFault

/-- A file tree and the names that lead to the working folder. -/
structure Disk where
  top : FileTree := .folder []
  here : List String := []
deriving Inhabited

/-- Where a path leads: to something, or to a name that a folder does not have yet. -/
inductive Place
  | found (path : List String)
  | vacant (folder : List String) (name : String)
deriving Repr, DecidableEq

namespace Disk

/-- The most bytes that a name may have. -/
def nameLimit : Nat := 255

/-- The bytes that a path must stay below. -/
def pathLimit : Nat := 4096

/-- The most links that are followed on the way of one path. -/
def linkLimit : Nat := 40

/--
Follows steps from a place in the tree.  Every step needs a folder to start from;
a link is replaced by its target, the last one only when `throughLast` is set.
-/
def walk (disk : Disk) (throughLast : Bool) (links : Nat) (position : List String)
    (remaining : List String) : Except FileFault Place :=
  match remaining with
  | [] => .ok (.found position)
  | step :: rest =>
      match disk.top.at? position with
      | some (.folder entries) =>
          if step = "." then walk disk throughLast links position rest
          else if step = ".." then walk disk throughLast links position.dropLast rest
          else if step.utf8ByteSize > nameLimit then .error .nameTooLong
          else
            match entries.lookup step with
            | none =>
                if rest = [] then .ok (.vacant position step) else .error .notFound
            | some (.link target) =>
                if rest = [] && !throughLast then .ok (.found (position ++ [step]))
                else
                  match links with
                  | 0 => .error .linkLoop
                  | links + 1 =>
                      walk disk throughLast links
                        (if Path.isAbsolute target then [] else position)
                        (Path.steps target ++ rest)
            | some _ => walk disk throughLast links (position ++ [step]) rest
      | _ => .error .notAFolder
termination_by (links, remaining.length)

/-- Follows the steps of a path, from the top or from the working folder. -/
def follow (disk : Disk) (throughLast : Bool) (path : String) (steps : List String) :
    Except FileFault Place :=
  if path.isEmpty then .error .notFound
  else if path.utf8ByteSize ≥ pathLimit then .error .nameTooLong
  else disk.walk throughLast linkLimit (if Path.isAbsolute path then [] else disk.here) steps

/-- Where a path leads. -/
def locate (disk : Disk) (throughLast : Bool) (path : String) : Except FileFault Place :=
  disk.follow throughLast path (Path.steps path)

/-- The disk with a tree put somewhere. -/
def put (disk : Disk) (path : List String) (tree : FileTree) : Disk :=
  { disk with top := disk.top.put tree path }

/-- What a path leads to, if it leads to anything. -/
def found? (disk : Disk) (path : String) : Except FileFault FileTree :=
  match disk.locate true path with
  | .ok (.found position) =>
      match disk.top.at? position with
      | some tree => .ok tree
      | none => .error .notFound
  | .ok (.vacant ..) => .error .notFound
  | .error failure => .error failure

/-! ## Reading -/

/-- The bytes of a file. -/
def readFile (disk : Disk) (path : String) : Except FileFault ByteArray :=
  match disk.found? path with
  | .ok (.file content) => if Path.endsInSlash path then .error .notAFolder else .ok content
  | .ok _ => .error .isAFolder
  | .error failure => .error failure

/-- The text of a file. -/
def readText (disk : Disk) (path : String) : Except FileFault String :=
  match disk.readFile path with
  | .ok content =>
      match String.fromUTF8? content with
      | some text => .ok text
      | none => .error .notText
  | .error failure => .error failure

/-- The entries of a folder. -/
def readFolder (disk : Disk) (path : String) : Except FileFault (List (String × FileTree)) :=
  match disk.found? path with
  | .ok (.folder entries) => .ok entries
  | .ok _ => .error .notAFolder
  | .error failure => .error failure

/-- Whether a path leads to a folder. -/
def isFolder (disk : Disk) (path : String) : Bool :=
  (disk.readFolder path).isOk

/-! ## Writing -/

/-- The disk with a new folder, which must not be there yet. -/
def makeFolder (disk : Disk) (path : String) : Except FileFault Disk :=
  match disk.locate false path with
  | .ok (.found _) => .error .alreadyExists
  | .ok (.vacant folder name) => .ok (disk.put (folder ++ [name]) (.folder []))
  | .error failure => .error failure

/-- An outcome together with the disk that it leaves behind. -/
abbrev Outcome (α : Type) := Except FileFault α × Disk

/--
Makes a folder unless it is there, and before it the folders above it that are
missing.  The steps of its path are given in reverse.
-/
def makeFolders (disk : Disk) (absolute : Bool) : List String → Outcome Unit
  | [] => (.ok (), disk)
  | last :: above =>
      let path := Path.ofSteps absolute (last :: above).reverse
      match disk.makeFolder path with
      | .ok made => (.ok (), made)
      | .error .notFound =>
          match disk.makeFolders absolute above with
          | (.ok (), raised) =>
              match raised.makeFolder path with
              | .ok made => (.ok (), made)
              | .error failure =>
                  if raised.isFolder path then (.ok (), raised) else (.error failure, raised)
          | (.error failure, raised) => (.error failure, raised)
      | .error failure => if disk.isFolder path then (.ok (), disk) else (.error failure, disk)

/-- Makes the folder of a path unless it is there, with the folders above it. -/
def ensureFolder (disk : Disk) (path : String) : Outcome Unit :=
  disk.makeFolders (Path.isAbsolute path) (Path.steps path).reverse

/-- Writes a file anew, or over what it held. -/
def writeFile (disk : Disk) (path : String) (content : ByteArray) : Outcome Unit :=
  if Path.endsInSlash path then
    match disk.follow true path (Path.steps path).dropLast with
    | .ok (.found position) =>
        (.error (if ((disk.top.at? position).any FileTree.isFolder) then .isAFolder
          else .notAFolder), disk)
    | .ok (.vacant ..) => (.error .notFound, disk)
    | .error failure => (.error failure, disk)
  else
    match disk.locate true path with
    | .ok (.found position) =>
        if (disk.top.at? position).any FileTree.isFolder then (.error .isAFolder, disk)
        else (.ok (), disk.put position (.file content))
    | .ok (.vacant folder name) => (.ok (), disk.put (folder ++ [name]) (.file content))
    | .error failure => (.error failure, disk)

end Disk

end AssessmentChat
