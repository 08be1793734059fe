import AssessmentChat.Artifact
import AssessmentChat.Fault
import AssessmentChat.Workflow

namespace AssessmentChat

/-!
# Requests

What a conversation asks of its surroundings: the service, the workspace and the
store of plans.  Each request determines the type of its answer.
-/

/-- An operation of the assessment service. -/
inductive ServiceCall
  | createEngagement
  | uploadWorkspace (engagementId : EngagementId)
  | startAssessment (engagementId : EngagementId) (input : String)
  | updateAssessment (engagementId : EngagementId) (assessmentId : AssessmentId)
      (input : String)
  | stopAssessment (engagementId : EngagementId) (assessmentId : AssessmentId)
  | assessmentStatus (engagementId : EngagementId) (assessmentId : AssessmentId)
  | downloadPlan (engagementId : EngagementId) (assessmentId : AssessmentId)
  | startInteraction (engagementId : EngagementId) (input : String)
  | interactionStatus (engagementId : EngagementId) (interactionId : InteractionId)
  | deriveIntent (engagementId : EngagementId) (input : String)
deriving Repr, DecidableEq

/-- What the service answers when an operation succeeds. -/
abbrev ServiceCall.Reply : ServiceCall → Type
  | .createEngagement => Engagement
  | .uploadWorkspace _ => Unit
  | .startAssessment .. => StartedAssessment
  | .updateAssessment .. => JobStatus
  | .stopAssessment .. => JobStatus
  | .assessmentStatus .. => AssessmentReport
  | .downloadPlan .. => String
  | .startInteraction .. => StartedInteraction
  | .interactionStatus .. => InteractionReport
  | .deriveIntent .. => Intent

/-- The name under which the service offers an operation. -/
def ServiceCall.endpoint : ServiceCall → String
  | .createEngagement => "CreateEngagement"
  | .uploadWorkspace _ => "CreateUploadUrl"
  | .startAssessment .. => "StartRefactoringAssessment"
  | .updateAssessment .. => "UpdateRefactoringAssessment"
  | .stopAssessment .. => "StopRefactoringAssessment"
  | .assessmentStatus .. => "GetRefactoringAssessmentStatus"
  | .downloadPlan .. => "CreateDownloadUrl"
  | .startInteraction .. => "StartRefactoringInteraction"
  | .interactionStatus .. => "GetRefactoringInteraction"
  | .deriveIntent .. => "DeriveUserIntent"

/-- A request to the surroundings of a conversation. -/
inductive Request
  | service (call : ServiceCall)
  /-- Whether the workspace has nothing to assess. -/
  | workspaceIsEmpty
  /-- Keeps a plan under its own file name. -/
  | storePlan (plan : PlanArtifact)
  /-- Writes a plan to a destination that the user chose. -/
  | exportPlan (content destination : String)
deriving Repr, DecidableEq

/-- The answer to a request. -/
abbrev Request.Answer : Request → Type
  | .service call => Except Fault call.Reply
  | .workspaceIsEmpty => Bool
  | .storePlan _ => Except Fault ArtifactLocator
  | .exportPlan .. => Except Fault ArtifactLocator

/-- The answer to a request as the answer to the same request. -/
def Request.Answer.cast {request asked : Request} (same : request = asked)
    (answer : request.Answer) : asked.Answer :=
  same ▸ answer

/-- An answer is that of its own request as it stands. -/
@[simp] theorem Request.Answer.cast_self {request : Request} (same : request = request)
    (answer : request.Answer) : answer.cast same = answer :=
  rfl

end AssessmentChat
