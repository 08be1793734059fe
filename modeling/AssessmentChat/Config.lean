import AssessmentChat.Fault
import AssessmentChat.Text.Blank
import AssessmentChat.Text.Number

namespace AssessmentChat

/-!
# Settings

Every setting has a default.  Settings are layered: what a file says replaces
the defaults, the environment replaces what the file says, and a result that the
poll loop cannot work with is refused.
-/

/-- How the service is reached. -/
structure RemoteSettings where
  endpoint : String := "http://localhost:3030"
  requestTimeoutSeconds : UInt64 := 30
  /-- The token that is sent with every request. -/
  identityToken : Option String := none
deriving Repr, DecidableEq

/-- How jobs are watched. -/
structure PollingSettings where
  intervalMilliseconds : UInt64 := 5000
  maxConsecutiveErrors : UInt32 := 3
deriving Repr, DecidableEq

/-- Where plans are kept. -/
structure ArtifactSettings where
  /-- The directory; without one, plans are kept with the program's data. -/
  directory : Option String := none
deriving Repr, DecidableEq

/-- All settings. -/
structure Config where
  remote : RemoteSettings := {}
  polling : PollingSettings := {}
  artifacts : ArtifactSettings := {}
deriving Repr, DecidableEq

/-- The values of environment variables. -/
abbrev Environment := String → Option String

/-- The names of the variables that replace settings. -/
structure OverrideNames where
  endpoint : String := "REFASSIST_ENDPOINT"
  identityToken : String := "REFASSIST_IDENTITY_TOKEN"
  pollInterval : String := "REFASSIST_POLL_INTERVAL_MS"
  maxPollErrors : String := "REFASSIST_MAX_POLL_ERRORS"
  artifactDirectory : String := "REFASSIST_ARTIFACT_DIR"

/-- The names in use. -/
def overrideNames : OverrideNames := {}

namespace Config

/-- Refuses a blank endpoint and a limit of no errors at all. -/
def validate (config : Config) : Except Fault Unit :=
  if (trim config.remote.endpoint).isEmpty then
    .error (.configuration "remote.endpoint must not be empty")
  else if config.polling.maxConsecutiveErrors = 0 then
    .error (.configuration "polling.max_consecutive_errors must be at least 1")
  else .ok ()

/-- The settings, if they are valid. -/
def validated (config : Config) : Except Fault Config := do
  config.validate
  return config

/-- The number that a variable gives, white space around it aside. -/
def numericOverride (name : String) (limit : Nat) (raw : String) : Except Fault Nat :=
  match naturalBelow? limit (trim raw) with
  | some value => .ok value
  | none => .error (.configuration s!"{name} must be a number, got '{raw}'")

/-- The number that a variable gives, if it is set, and otherwise the present one. -/
def numericSetting (environment : Environment) (name : String) (limit present : Nat) :
    Except Fault Nat :=
  match environment name with
  | some raw => numericOverride name limit raw
  | none => .ok present

/-- The settings with those replaced that the environment names. -/
def withOverrides (config : Config) (environment : Environment) : Except Fault Config := do
  let remote : RemoteSettings :=
    { config.remote with
      endpoint := (environment overrideNames.endpoint).getD config.remote.endpoint
      identityToken :=
        (environment overrideNames.identityToken).orElse fun _ => config.remote.identityToken }
  let interval ←
    numericSetting environment overrideNames.pollInterval UInt64.size
      config.polling.intervalMilliseconds.toNat
  let maxErrors ←
    numericSetting environment overrideNames.maxPollErrors UInt32.size
      config.polling.maxConsecutiveErrors.toNat
  let artifacts : ArtifactSettings :=
    { directory :=
        (environment overrideNames.artifactDirectory).orElse fun _ =>
          config.artifacts.directory }
  validated ⟨remote, ⟨.ofNat interval, .ofNat maxErrors⟩, artifacts⟩

/-- The settings with another endpoint, if one is given. -/
def withEndpoint (config : Config) (endpoint : Option String) : Except Fault Config :=
  validated
    { config with
      remote := { config.remote with endpoint := endpoint.getD config.remote.endpoint } }

end Config

end AssessmentChat
