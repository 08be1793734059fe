import AssessmentChat.Config.File
import AssessmentChat.Console.Arguments
import AssessmentChat.PlanStore
import AssessmentChat.Polling
import AssessmentChat.Service.Client
import AssessmentChat.Wire.Workspace

namespace AssessmentChat

/-!
# Installations

The program as it is set up on a machine: the client, the workspace and the
store of plans that answer the requests of its conversations.
-/

/-- The program as it is set up. -/
structure Installation where
  client : ServiceClient
  identity : Identity
  workspace : Workspace
  store : PlanStore
  policy : PollPolicy

/-- Why the program could not be set up, and what it was doing. -/
structure StartupFault where
  fault : Fault
  activity : Option String := none
deriving Repr, DecidableEq

/-- The text of a fault of setting up. -/
def StartupFault.message (failure : StartupFault) : String :=
  match failure.activity with
  | some activity => s!"{activity}: {failure.fault.message}"
  | none => failure.fault.message

/-- A result whose fault belongs to an activity. -/
def during (activity : Option String) (result : Except Fault α) : Except StartupFault α :=
  match result with
  | .ok value => .ok value
  | .error fault => .error ⟨fault, activity⟩

namespace Installation

/-- The folder for plans: that of the settings, or else that of the user's data. -/
def plansFolder (config : Config) (folders : UserFolders) : Except Fault String :=
  match config.artifacts.directory with
  | some folder => .ok folder
  | none => folders.plans

/-- Sets the program up with the given settings. -/
def ofConfig (config : Config) (workspace plansFolder : String) : Installation :=
  let identity := Identity.connected config.remote.identityToken
  { client := .ofSettings config.remote (some identity)
    identity
    workspace := { root := workspace }
    store := ⟨plansFolder⟩
    policy := .ofSettings config.polling }

/-- The file for settings: the one that was given, or else the user's. -/
def settingsFile (arguments : Console.Arguments) (folders : UserFolders) :
    Except Fault String :=
  match arguments.config with
  | some path => .ok path
  | none => folders.settingsFile

/-- Sets the program up as its arguments, its settings and the environment say. -/
def ofArguments (arguments : Console.Arguments) (folders : UserFolders) (disk : Disk) :
    Except StartupFault Installation := do
  let path ← during none (settingsFile arguments folders)
  let loaded ← during (some s!"loading {path}") (Config.load disk path folders.environment)
  let config ← during none (loaded.withEndpoint arguments.endpoint)
  let plans ← during none (plansFolder config folders)
  return ofConfig config arguments.workspace plans

/-! ## Answering requests -/

/-- What the program works with: the files, and a network with a state. -/
structure World (ν : Type) where
  disk : Disk
  network : ν

/-- Answers a request of a conversation. -/
def answer (installation : Installation)
    (network : Http.Request → ν → Option Http.Response × ν) (request : Request)
    (world : World ν) : request.Answer × World ν :=
  match request with
  | .service call =>
      let package := installation.workspace.package world.disk
      let (reply, after) := (installation.client.perform package call).run network world.network
      (reply, { world with network := after })
  | .workspaceIsEmpty => (installation.workspace.isEmpty world.disk, world)
  | .storePlan plan =>
      let (located, disk) := installation.store.keep world.disk plan
      (located, { world with disk })
  | .exportPlan content destination =>
      let (located, disk) := AssessmentChat.exportPlan world.disk content destination
      (located, { world with disk })

end Installation

end AssessmentChat
