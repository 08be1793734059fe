import AssessmentChat.Artifact
import AssessmentChat.Files.Disk

namespace AssessmentChat

/-!
# Plans as files

Plans are kept in one folder, each under the name of the assessment that wrote
it.  The service chooses those names, so what could lead out of the folder is
replaced.
-/

/-- A folder for plans. -/
structure PlanStore where
  folder : String
deriving Repr, DecidableEq

/-- A file name without the characters that separate names somewhere. -/
def withoutSeparators (name : String) : String :=
  String.ofList (name.toList.map fun character =>
    if character = '/' || character = '\\' || character = ':' then '_' else character)

namespace PlanStore

/-- The path of a plan. -/
def path (store : PlanStore) (plan : PlanArtifact) : String :=
  Path.join store.folder (withoutSeparators plan.fileName)

/-- The locator of a file, once it has been written. -/
def located (path : String) : Disk.Outcome Unit → Except Fault ArtifactLocator × Disk
  | (.ok (), disk) => (.ok ⟨path⟩, disk)
  | (.error failure, disk) => (.error failure.fault, disk)

/-- Writes a plan into the folder, which is made if it is missing. -/
def keep (store : PlanStore) (disk : Disk) (plan : PlanArtifact) :
    Except Fault ArtifactLocator × Disk :=
  match disk.ensureFolder store.folder with
  | (.ok (), ready) =>
      located (store.path plan) (ready.writeFile (store.path plan) plan.content.toUTF8)
  | (.error failure, left) => (.error failure.fault, left)

end PlanStore

/-- Makes the folder that a file is to be written into, if the path names one. -/
def Disk.ensureParent (disk : Disk) (path : String) : Disk.Outcome Unit :=
  match Path.parent? path with
  | some folder => if folder.isEmpty then (.ok (), disk) else disk.ensureFolder folder
  | none => (.ok (), disk)

/-- Writes a plan where the user wants it, making the folder if it is missing. -/
def exportPlan (disk : Disk) (content destination : String) :
    Except Fault ArtifactLocator × Disk :=
  match disk.ensureParent destination with
  | (.ok (), ready) =>
      PlanStore.located destination (ready.writeFile destination content.toUTF8)
  | (.error failure, left) => (.error failure.fault, left)

end AssessmentChat
