import AssessmentChat.Config
import AssessmentChat.Toml.Document

namespace AssessmentChat

/-!
# Settings in TOML

The settings that a TOML text gives.  A section or setting that is absent keeps
its default, and one that is unknown is passed over.  A section may also list its
settings in their order instead of naming them.
-/

namespace Toml

/-- A way to look up what a section gives for a setting. -/
abbrev Section := String → Option Toml

/--
What a value gives for settings of the given names.  A date has parts of its own,
none of which is a setting.
-/
def section? (names : List String) : Toml → Option Section
  | .table _ fields => some fun name => fields.lookup name
  | .array items => some fun name => (names.zip items).lookup name
  | .tables latestFirst =>
      some fun name => (names.zip latestFirst.reverse).lookup name
  | .scalar (.moment _) => some fun _ => none
  | _ => none

/-- The text of a value. -/
def text? : Toml → Option String
  | .text content => some content
  | _ => none

/-- The natural number of a value, below a limit. -/
def naturalBelow? (limit : Nat) : Toml → Option Nat
  | .scalar (.integer value) => if 0 ≤ value ∧ value < limit then some value.toNat else none
  | _ => none

/-- The setting that a section gives, or its default. -/
def Section.setting? (settings : Section) (name : String) (default : α)
    (read : Toml → Option α) : Option α :=
  match settings name with
  | some value => read value
  | none => some default

end Toml

/-- How the service is reached, as a value says. -/
def RemoteSettings.ofToml? (toml : Toml) : Option RemoteSettings := do
  let settings ← toml.section? ["endpoint", "request_timeout_secs", "identity_token"]
  let default : RemoteSettings := {}
  return {
    endpoint := ← settings.setting? "endpoint" default.endpoint Toml.text?
    requestTimeoutSeconds :=
      ← settings.setting? "request_timeout_secs" default.requestTimeoutSeconds fun value =>
        (value.naturalBelow? UInt64.size).map UInt64.ofNat
    identityToken :=
      ← settings.setting? "identity_token" default.identityToken fun value =>
        value.text?.map some }

/-- How jobs are watched, as a value says. -/
def PollingSettings.ofToml? (toml : Toml) : Option PollingSettings := do
  let settings ← toml.section? ["interval_ms", "max_consecutive_errors"]
  let default : PollingSettings := {}
  return {
    intervalMilliseconds :=
      ← settings.setting? "interval_ms" default.intervalMilliseconds fun value =>
        (value.naturalBelow? UInt64.size).map UInt64.ofNat
    maxConsecutiveErrors :=
      ← settings.setting? "max_consecutive_errors" default.maxConsecutiveErrors fun value =>
        (value.naturalBelow? UInt32.size).map UInt32.ofNat }

/-- Where plans are kept, as a value says. -/
def ArtifactSettings.ofToml? (toml : Toml) : Option ArtifactSettings := do
  let settings ← toml.section? ["directory"]
  return ⟨← settings.setting? "directory" none fun value => value.text?.map some⟩

namespace Config

/-- All settings, as a document says. -/
def ofToml? (toml : Toml) : Option Config := do
  let settings ← toml.section? ["remote", "polling", "artifacts"]
  return ⟨← settings.setting? "remote" {} RemoteSettings.ofToml?,
    ← settings.setting? "polling" {} PollingSettings.ofToml?,
    ← settings.setting? "artifacts" {} ArtifactSettings.ofToml?⟩

/-- The settings that a text gives, if they are valid. -/
def parse (text : String) : Except Fault Config :=
  match Toml.parse? text >>= ofToml? with
  | some config => config.validated
  | none => .error .malformedToml

end Config

end AssessmentChat
