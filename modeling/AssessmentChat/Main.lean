import AssessmentChat.Console.Dialogue

/-!
# The command line

The program on a terminal: it reads the settings, the workspace and the
environment, and then takes one line after another.  The service is out of its
reach, so every call fails as on a closed connection.
-/

namespace AssessmentChat.Main

open Console

/-- The variables that are looked at. -/
def variableNames : List String :=
  [overrideNames.endpoint, overrideNames.identityToken, overrideNames.pollInterval,
    overrideNames.maxPollErrors, overrideNames.artifactDirectory, "HOME", "XDG_CONFIG_HOME",
    "XDG_DATA_HOME"]

/-- The values of the variables that are set. -/
def readEnvironment : IO Environment := do
  let values ← variableNames.filterMapM fun name => do
    return (← IO.getEnv name).map fun value => (name, value)
  return fun name => values.lookup name

/-- An entry of a folder with everything below it. -/
partial def readEntry (entry : IO.FS.DirEntry) : IO (String × FileTree) := do
  let path := entry.path
  match (← path.symlinkMetadata).type with
  | .dir => return (entry.fileName, .folder (← (← path.readDir).toList.mapM readEntry))
  | .file => return (entry.fileName, .file (← IO.FS.readBinFile path))
  | _ => return (entry.fileName, .link "")

/-- The disk with a tree at a path. -/
def withTree (disk : Disk) (path : String) (tree : FileTree) : Disk :=
  let ready := (disk.ensureParent path).2
  match ready.locate true path with
  | .ok (.vacant folder name) => ready.put (folder ++ [name]) tree
  | .ok (.found position) => ready.put position tree
  | .error _ => disk

/-- The disk as far as the program looks at it: the workspace and the settings. -/
def readDisk (arguments : Arguments) (folders : UserFolders) : IO Disk := do
  let here ← IO.currentDir
  let steps := Path.steps here.toString
  let empty : Disk := { (({} : Disk).ensureFolder here.toString).2 with here := steps }
  let withWorkspace ←
    try
      let entries ← (here / arguments.workspace).readDir
      pure (withTree empty arguments.workspace (.folder (← entries.toList.mapM readEntry)))
    catch _ => pure empty
  match Installation.settingsFile arguments folders with
  | .ok path =>
      try
        return withTree withWorkspace path (.file (← IO.FS.readBinFile path))
      catch _ => return withWorkspace
  | .error _ => return withWorkspace

/-- Takes lines until the input ends or the user leaves. -/
partial def converse (input : IO.FS.Stream) (dialogue : Dialogue σ) : IO Unit := do
  let line ← input.getLine
  let text := trim line
  if line.isEmpty then return
  else if text.isEmpty then converse input dialogue
  else
    let (turn, after) := dialogue.enter text
    for printed in turn.printed do IO.println printed
    match turn.outcome with
    | .ok _ => pure ()
    | .error fault => IO.eprintln (painted dialogue.colours .red s!"Error: {fault.message}")
    if text = "/quit" then IO.println (painted dialogue.colours .brightGreen "Goodbye!")
    else converse input after

/-- What is printed before the first line. -/
def greeting (colours : Bool) : List String :=
  [painted colours .boldMagenta "=== RefAssist ===",
    painted colours .grey
      "Describe what to refactor. /help shows examples, /download [path] saves the plan.",
    painted colours .grey "/stop cancels, /N picks a follow-up, /quit exits.", ""]

/-- What is printed about arguments that are not accepted, and the exit code. -/
def usage : UsageFault → String × UInt32
  | .helpWanted => ("Options: --config, --endpoint, --workspace, --session", 0)
  | .unknownArgument => ("unexpected argument", 2)
  | .invalidValue => ("a value is required", 2)
  | .tooManyValues => ("unexpected value", 2)
  | .argumentConflict => ("an option was given more than once", 2)

/-- Sets the program up and starts the dialogue. -/
def run (arguments : Arguments) : IO UInt32 := do
  let folders : UserFolders := ⟨← readEnvironment, none⟩
  let disk ← readDisk arguments folders
  match Installation.ofArguments arguments folders disk with
  | .error failure =>
      IO.eprintln s!"Error: {failure.message}"
      return 1
  | .ok installation =>
      let colours ← (← IO.getStdout).isTty
      for line in greeting colours do IO.println line
      converse (← IO.getStdin)
        (Dialogue.start installation Http.closedNetwork (fun _ => 0) ⟨disk, ()⟩ arguments.session
          colours)
      return 0

end AssessmentChat.Main

/-- Runs the program with the words after its name. -/
def main (words : List String) : IO UInt32 := do
  match AssessmentChat.Console.Arguments.parse words with
  | .ok arguments => AssessmentChat.Main.run arguments
  | .error fault =>
      let (text, code) := AssessmentChat.Main.usage fault
      IO.eprintln text
      return code
