import AssessmentChat.Config.Document
import AssessmentChat.Files.Disk

namespace AssessmentChat

/-!
# The settings file

Where settings are kept by default, and how they are loaded: the file first, and
the environment on top of it.
-/

/-- The folder of the program inside the folders of the user. -/
def programFolder : String :=
  "refassist"

/-- The folders of the user. -/
structure UserFolders where
  environment : Environment
  /-- The home folder of the account, for when the environment names none. -/
  accountHome : Option String := none

namespace UserFolders

/-- The home folder. -/
def home? (folders : UserFolders) : Option String :=
  match folders.environment "HOME" with
  | some home => if home.isEmpty then folders.accountHome else some home
  | none => folders.accountHome

/-- The folder that a variable names, if its path is absolute, or else one in the home folder. -/
def folder (folders : UserFolders) (variableName fallback : String) : Except Fault String :=
  let named := (folders.environment variableName).filter Path.isAbsolute
  match named.orElse fun _ => folders.home?.map (Path.join · fallback) with
  | some path => .ok (Path.join path programFolder)
  | none => .error (.configuration "Cannot find home directory")

/-- The folder for settings. -/
def settings (folders : UserFolders) : Except Fault String :=
  folders.folder "XDG_CONFIG_HOME" ".config"

/-- The folder for data. -/
def data (folders : UserFolders) : Except Fault String :=
  folders.folder "XDG_DATA_HOME" ".local/share"

/-- The file for settings. -/
def settingsFile (folders : UserFolders) : Except Fault String :=
  return Path.join (← folders.settings) "config.toml"

/-- The folder for plans. -/
def plans (folders : UserFolders) : Except Fault String :=
  return Path.join (← folders.data) "artifacts"

end UserFolders

namespace Config

/-- The settings of a file; one that does not exist leaves all defaults. -/
def ofFile (disk : Disk) (path : String) : Except Fault Config :=
  match disk.readText path with
  | .ok text =>
      match parse text with
      | .ok config => .ok config
      | .error fault => .error (.configuration s!"{path}: {fault.message}")
  | .error .notFound => .ok {}
  | .error failure => .error failure.fault

/-- The settings of a file and of the environment on top of it. -/
def load (disk : Disk) (path : String) (environment : Environment) : Except Fault Config := do
  (← ofFile disk path).withOverrides environment

end Config

end AssessmentChat
