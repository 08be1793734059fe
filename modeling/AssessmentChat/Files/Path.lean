namespace AssessmentChat.Path

/-!
# Paths

A path is a text whose names are separated by slashes.  Nothing here looks at
what the names lead to.
-/

/-- The pieces between slashes, after the letters of a piece already read, given in reverse. -/
def piecesAfter (letters : List Char) : List Char → List String
  | [] => [String.ofList letters.reverse]
  | '/' :: rest => String.ofList letters.reverse :: piecesAfter [] rest
  | letter :: rest => piecesAfter (letter :: letters) rest

/-- The steps of a path: its names, with `.` for staying and `..` for going up. -/
def steps (path : String) : List String :=
  (piecesAfter [] path.toList).filter (· ≠ "")

/-- Whether a path begins at the top. -/
def isAbsolute (path : String) : Bool :=
  path.toList.head? = some '/'

/-- Whether a path ends in a slash and so can only mean a folder. -/
def endsInSlash (path : String) : Bool :=
  path.toList.getLast? = some '/'

/-- The steps of a path that lead somewhere. -/
def components (path : String) : List String :=
  (steps path).filter (· ≠ ".")

/-- The last name of a path, if it ends in one. -/
def fileName? (path : String) : Option String :=
  match (components path).getLast? with
  | some ".." => none
  | last => last

/-- A path with the given steps. -/
def ofSteps (absolute : Bool) (steps : List String) : String :=
  (if absolute then "/" else "") ++ "/".intercalate steps

/-- The path of the folder that a path lies in; the top and the empty path lie in none. -/
def parent? (path : String) : Option String :=
  match components path with
  | [] => if path.isEmpty || isAbsolute path then none else some ""
  | steps => some (ofSteps (isAbsolute path) steps.dropLast)

/-- A path inside a folder; an absolute path replaces the folder. -/
def join (folder path : String) : String :=
  if isAbsolute path then path
  else if folder.isEmpty || endsInSlash folder then folder ++ path
  else folder ++ "/" ++ path

end AssessmentChat.Path
