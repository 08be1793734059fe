import AssessmentChat.Conversation.Recovery

namespace AssessmentChat.Conversation

/-!
# Plans

A first plan needs an engagement with the workspace in it and an assessment; a
revision needs the assessment that is already there.  From then on both go the
same way: the assessment is watched, and a plan that was completed is
downloaded, stored and shown.
-/

open Procedure

/-- What the status of an assessment shows: its detail, unless there is none. -/
def assessmentProgress (streamId : String) (report : AssessmentReport) : List Notice :=
  if report.detail.isEmpty then [] else [.answerStream streamId report.detail]

/-- Ends a plan that was not delivered. -/
def concludePlan (message : String) (context : Context) : Procedure Conversation := do
  say (.plainAnswer message)
  say .clearedPlaceholder
  return ⟨.awaitingGoal, context⟩

/-- Downloads and stores the plan of an assessment, and shows it. -/
def deliverPlan (context : Context) (engagementId : EngagementId)
    (assessmentId : AssessmentId) : Procedure Conversation := do
  match ← call (.downloadPlan engagementId assessmentId) with
  | .error _ => routeToErrored context
  | .ok content =>
      match ← request (.storePlan ⟨context.sessionId, assessmentId, content⟩) with
      | .error _ => routeToErrored context
      | .ok locator =>
          say (.votableAnswer content)
          say (.suggestion (Wording.planReady locator) Wording.planFollowUps)
          say .clearedPlaceholder
          return ⟨.discussingPlan, context⟩

/-- Asks the service to stop an assessment, whatever it answers. -/
def stopPlan (context : Context) (streamId : String) (engagementId : EngagementId)
    (assessmentId : AssessmentId) : Procedure Conversation := do
  say (.answerStream streamId Wording.cancellingPlan)
  let _ ← call (.stopAssessment engagementId assessmentId)
  concludePlan Wording.planCancelled context

/-- Acts on the status at which an assessment came to its end. -/
def finishPlan (context : Context) (streamId : String) (engagementId : EngagementId)
    (assessmentId : AssessmentId) (report : AssessmentReport) : Procedure Conversation := do
  sayAll (assessmentProgress streamId report)
  match report.status with
  | .failed => concludePlan Wording.planFailed context
  | .cancelled => concludePlan Wording.planCancelled context
  | .completed | .inProgress => deliverPlan context engagementId assessmentId

/-- The engagement and the assessment that a context is about. -/
def remoteIds (context : Context) : Except Fault (EngagementId × AssessmentId) :=
  match context.engagementId, context.assessmentId with
  | some engagementId, some assessmentId => .ok (engagementId, assessmentId)
  | _, _ =>
      .error (.illegalState
        ("session '" ++ context.sessionId ++ "' has no assessment to work on"))

/-- Watches the assessment of a context to its end and acts on it. -/
def executePlan (context : Context) (streamId : String) : Procedure Conversation := do
  match remoteIds context with
  | .error _ => routeToErrored context
  | .ok (engagementId, assessmentId) =>
      say (.placeholder Wording.generatingPlanPlaceholder)
      let outcome ←
        watchJob (.assessmentStatus engagementId assessmentId) AssessmentReport.isTerminal
          (assessmentProgress streamId)
      match outcome with
      | .error _ => routeToErrored context
      | .ok .cancelled => stopPlan context streamId engagementId assessmentId
      | .ok (.terminal report) =>
          finishPlan context streamId engagementId assessmentId report

/-- The engagement of a context, which is created when there is none. -/
def ensureEngagement (context : Context) : ExceptT Fault Procedure EngagementId := do
  match context.engagementId with
  | some engagementId => return engagementId
  | none => return (← ExceptT.mk (call .createEngagement)).engagementId

/-- Uploads the workspace and starts an assessment. -/
def startAssessment (utterance : String) (context : Context) :
    ExceptT Fault Procedure Context := do
  let engagementId ← ensureEngagement context
  ExceptT.mk (call (.uploadWorkspace engagementId))
  let started ←
    ExceptT.mk (call (.startAssessment engagementId (context.assessmentInput utterance)))
  return (context.withEngagement engagementId).withAssessment started.assessmentId

/-- Writes the first plan; a workspace without files gets an apology instead. -/
def createPlan (utterance : String) (context : Context) : Procedure Conversation := do
  if ← request .workspaceIsEmpty then
    return ⟨.errored, context.withApology Wording.emptyWorkspace⟩
  else
    say (.plainAnswer Wording.creatingPlan)
    let streamId ← streamName
    say (.answerStream streamId Wording.uploadingWorkspace)
    match ← (startAssessment utterance context).run with
    | .ok started => executePlan started streamId
    | .error _ => routeToErrored context

/-- Writes another version of the plan. -/
def revisePlan (utterance : String) (context : Context) : Procedure Conversation := do
  say (.plainAnswer Wording.revisingPlan)
  let streamId ← streamName
  say (.answerStream streamId Wording.startingRevision)
  match remoteIds context with
  | .error _ => routeToErrored context
  | .ok (engagementId, assessmentId) =>
      match ← call (.updateAssessment engagementId assessmentId (trim utterance)) with
      | .ok _ => executePlan context streamId
      | .error _ => routeToErrored context

end AssessmentChat.Conversation
