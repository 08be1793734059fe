import AssessmentChat.Session.Context
import AssessmentChat.Wire.Basic

namespace AssessmentChat

/-! # Wire forms of conversations -/

instance : Wire Timestamp where
  toJson moment := .text moment.write
  ofJson? json := json.text? >>= Timestamp.read?

instance : Wire Phase where
  toJson phase := .text phase.name
  ofJson? json := json.caseName? >>= Wire.named? Phase.all Phase.name

instance : Wire Context where
  toJson context :=
    .record
      [("session_id", .text context.sessionId),
        ("trace_id", Wire.toJson context.traceId),
        ("started_at", Wire.toJson context.startedAt),
        ("prompt", .optionalText context.goal),
        ("engagement_id", .optionalText context.engagementId),
        ("assessment_id", .optionalText context.assessmentId),
        ("interaction_id", .optionalText context.interactionId),
        ("error", .optionalText context.apology)]
  ofJson? json := do
    let record ← json.record?
      [["session_id"], ["trace_id"], ["started_at"], ["prompt"], ["engagement_id"],
        ["assessment_id"], ["interaction_id"], ["error"]]
    return {
      sessionId := ← record.required "session_id" Json.text?
      traceId := ← record.required "trace_id" Wire.ofJson?
      startedAt := ← record.required "started_at" Wire.ofJson?
      goal := ← record.optional "prompt" Json.text?
      engagementId := ← record.optional "engagement_id" Json.text?
      assessmentId := ← record.optional "assessment_id" Json.text?
      interactionId := ← record.optional "interaction_id" Json.text?
      apology := ← record.optional "error" Json.text? }

instance : Wire SessionSnapshot where
  toJson snapshot :=
    .record
      [("sessionId", .text snapshot.sessionId),
        ("state", Wire.toJson snapshot.phase),
        ("traceId", Wire.toJson snapshot.traceId),
        ("startedAt", Wire.toJson snapshot.startedAt),
        ("engagementId", .optionalText snapshot.engagementId),
        ("assessmentId", .optionalText snapshot.assessmentId),
        ("interactionId", .optionalText snapshot.interactionId),
        ("busy", .bool snapshot.busy),
        ("isAuthenticating", .bool snapshot.isAuthenticating)]
  ofJson? json := do
    let record ← json.record?
      [["sessionId"], ["state"], ["traceId"], ["startedAt"], ["engagementId"],
        ["assessmentId"], ["interactionId"], ["busy"], ["isAuthenticating"]]
    return {
      sessionId := ← record.required "sessionId" Json.text?
      phase := ← record.required "state" Wire.ofJson?
      traceId := ← record.required "traceId" Wire.ofJson?
      startedAt := ← record.required "startedAt" Wire.ofJson?
      engagementId := ← record.optional "engagementId" Json.text?
      assessmentId := ← record.optional "assessmentId" Json.text?
      interactionId := ← record.optional "interactionId" Json.text?
      busy := ← record.required "busy" Json.bool?
      isAuthenticating := ← record.required "isAuthenticating" Json.bool? }

end AssessmentChat
