import AssessmentChat.Artifact
import AssessmentChat.Wire.Basic
import AssessmentChat.Workspace

namespace AssessmentChat

/-! # Wire forms of artifacts and workspaces -/

instance : Wire ArtifactLocator where
  toJson locator := .text locator.location
  ofJson? json := json.text?.map ArtifactLocator.mk

instance : Wire SnapshotFile where
  toJson file :=
    .record
      [("path", .text file.path), ("size", Wire.toJson file.size), ("content", .text file.content)]
  ofJson? json := do
    let record ← json.record? [["path"], ["size"], ["content"]]
    return ⟨← record.required "path" Json.text?, ← record.required "size" Wire.ofJson?,
      ← record.required "content" Json.text?⟩

instance : Wire WorkspaceSnapshot where
  toJson snapshot :=
    .record
      [("rootName", .text snapshot.rootName), ("files", .array (snapshot.files.map Wire.toJson))]
  ofJson? json := do
    let record ← json.record? [["rootName"], ["files"]]
    return ⟨← record.required "rootName" Json.text?,
      ← record.required "files" (Json.list? Wire.ofJson?)⟩

/-- The bytes in which a workspace is sent to the service. -/
def Workspace.package (workspace : Workspace) (disk : Disk) : Except Fault ByteArray := do
  return (Wire.write (← workspace.collect disk)).toUTF8

end AssessmentChat
