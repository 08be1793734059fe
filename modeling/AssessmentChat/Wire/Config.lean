import AssessmentChat.Config
import AssessmentChat.Wire.Basic

namespace AssessmentChat

/-! # Wire forms of settings -/

instance : Wire RemoteSettings where
  toJson remote :=
    .record
      [("endpoint", .text remote.endpoint),
        ("request_timeout_secs", Wire.toJson remote.requestTimeoutSeconds),
        ("identity_token", .optionalText remote.identityToken)]
  ofJson? json := do
    let record ← json.record? [["endpoint"], ["request_timeout_secs"], ["identity_token"]]
    let default : RemoteSettings := {}
    return {
      endpoint := ← record.withDefault "endpoint" default.endpoint Json.text?
      requestTimeoutSeconds :=
        ← record.withDefault "request_timeout_secs" default.requestTimeoutSeconds Wire.ofJson?
      identityToken :=
        ← record.withDefault "identity_token" default.identityToken
          (Json.nullable? Json.text?) }

instance : Wire PollingSettings where
  toJson polling :=
    .record
      [("interval_ms", Wire.toJson polling.intervalMilliseconds),
        ("max_consecutive_errors", Wire.toJson polling.maxConsecutiveErrors)]
  ofJson? json := do
    let record ← json.record? [["interval_ms"], ["max_consecutive_errors"]]
    let default : PollingSettings := {}
    return {
      intervalMilliseconds :=
        ← record.withDefault "interval_ms" default.intervalMilliseconds Wire.ofJson?
      maxConsecutiveErrors :=
        ← record.withDefault "max_consecutive_errors" default.maxConsecutiveErrors
          Wire.ofJson? }

instance : Wire ArtifactSettings where
  toJson artifacts := .record [("directory", .optionalText artifacts.directory)]
  ofJson? json := do
    let record ← json.record? [["directory"]]
    return ⟨← record.withDefault "directory" none (Json.nullable? Json.text?)⟩

instance : Wire Config where
  toJson config :=
    .record
      [("remote", Wire.toJson config.remote),
        ("polling", Wire.toJson config.polling),
        ("artifacts", Wire.toJson config.artifacts)]
  ofJson? json := do
    let record ← json.record? [["remote"], ["polling"], ["artifacts"]]
    return ⟨← record.withDefault "remote" {} Wire.ofJson?,
      ← record.withDefault "polling" {} Wire.ofJson?,
      ← record.withDefault "artifacts" {} Wire.ofJson?⟩

end AssessmentChat
