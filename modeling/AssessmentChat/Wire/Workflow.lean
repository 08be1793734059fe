import AssessmentChat.Wire.Basic
import AssessmentChat.Workflow

namespace AssessmentChat

/-! # Wire forms of remote jobs -/

instance : Wire JobStatus where
  toJson status := .text status.name
  ofJson? json := json.caseName? >>= Wire.named? JobStatus.all JobStatus.name

instance : Wire Intent where
  toJson intent := .text intent.name
  ofJson? json := json.caseName?.map Intent.ofName

instance : Wire Engagement where
  toJson engagement := .record [("engagementId", .text engagement.engagementId)]
  ofJson? json := do
    let record ← json.record? [["engagementId"]]
    return ⟨← record.required "engagementId" Json.text?⟩

instance : Wire StartedAssessment where
  toJson started :=
    .record
      [("assessmentId", .text started.assessmentId),
        ("status", Wire.toJson started.status)]
  ofJson? json := do
    let record ← json.record? [["assessmentId"], ["status"]]
    return ⟨← record.required "assessmentId" Json.text?,
      ← record.required "status" Wire.ofJson?⟩

instance : Wire AssessmentReport where
  toJson report :=
    .record [("status", Wire.toJson report.status), ("statusDetail", .text report.detail)]
  ofJson? json := do
    let record ← json.record? [["status"], ["statusDetail"]]
    return ⟨← record.required "status" Wire.ofJson?,
      ← record.withDefault "statusDetail" "" Json.text?⟩

instance : Wire StartedInteraction where
  toJson started :=
    .record
      [("interactionId", .text started.interactionId),
        ("status", Wire.toJson started.status)]
  ofJson? json := do
    let record ← json.record? [["interactionId"], ["status"]]
    return ⟨← record.required "interactionId" Json.text?,
      ← record.required "status" Wire.ofJson?⟩

instance : Wire InteractionReport where
  toJson report :=
    .record [("status", Wire.toJson report.status), ("responseText", .text report.response)]
  ofJson? json := do
    let record ← json.record? [["status"], ["responseText"]]
    return ⟨← record.required "status" Wire.ofJson?,
      ← record.withDefault "responseText" "" Json.text?⟩

end AssessmentChat
