namespace AssessmentChat

/-!
# Faults

Every failure is a value that says what went wrong, so that a caller can tell a
failure of the assessment service from a local one without reading its text.
-/

/-- The ways in which the assistant can fail. -/
inductive Fault
  /-- A request to the service failed or its answer could not be read. -/
  | remoteCall (endpoint cause : String)
  /-- Polling gave up after failures in a row. -/
  | pollExhausted (attempts : Nat) (lastError : String)
  /-- A command or utterance came when nothing can be done with it. -/
  | illegalState (detail : String)
  /-- A file could not be read or written. -/
  | inputOutput (detail : String)
  /-- A text is not in the format it should be in. -/
  | serialization (format detail : String)
  /-- A setting is missing or has no use. -/
  | configuration (detail : String)
  /-- Something that should not happen did. -/
  | internal (detail : String)
deriving Repr, DecidableEq

namespace Fault

/-- The text of a fault. -/
def message : Fault → String
  | .remoteCall endpoint cause => s!"Remote call to '{endpoint}' failed: {cause}"
  | .pollExhausted attempts lastError =>
      s!"Polling gave up after {attempts} consecutive failures: {lastError}"
  | .illegalState detail => s!"Illegal state transition: {detail}"
  | .inputOutput detail => s!"IO error: {detail}"
  | .serialization format detail => s!"Serialization error: {format} - {detail}"
  | .configuration detail => s!"Configuration error: {detail}"
  | .internal detail => s!"Internal error: {detail}"

/-- Whether a request to the service failed. -/
def isRemoteCall : Fault → Bool
  | .remoteCall .. => true
  | _ => false

/-- Whether polling gave up. -/
def isPollExhausted : Fault → Bool
  | .pollExhausted .. => true
  | _ => false

/-- Whether something came at the wrong time. -/
def isIllegalState : Fault → Bool
  | .illegalState _ => true
  | _ => false

/-- Whether a setting is at fault. -/
def isConfiguration : Fault → Bool
  | .configuration _ => true
  | _ => false

/-- Whether the failure came from talking to the service. -/
def isRemote (fault : Fault) : Bool :=
  fault.isRemoteCall || fault.isPollExhausted

/-- The fault of a text that is not the JSON it should be. -/
def malformedJson : Fault :=
  .serialization "JSON" ""

/-- The fault of a text that is not the TOML it should be. -/
def malformedToml : Fault :=
  .serialization "TOML" ""

/-- The fault of a file operation: what the system said and the kind of it. -/
def ofFileError (description kind : String) : Fault :=
  .inputOutput s!"{description} (kind: {kind})"

end Fault

end AssessmentChat
