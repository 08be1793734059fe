import AssessmentChat.Conversation.Recovery

namespace AssessmentChat.Conversation

/-!
# Discussing a plan

The service says what a follow-up is: a question is answered, a wish for another
version or for a new plan leads to the phase where the next utterance is about
it, and anything else is not understood.
-/

open Procedure

/-- Shows how the answer to a question came out. -/
def presentResponse (report : InteractionReport) : Procedure Unit := do
  match report.status with
  | .completed | .inProgress =>
      say (.votableAnswer report.response)
      say (.suggestion Wording.anotherFollowUp Wording.planFollowUps)
  | .failed => say (.plainAnswer Wording.responseFailed)
  | .cancelled => say (.plainAnswer Wording.responseCancelled)

/-- What the status of a question shows: its name. -/
def interactionProgress (streamId : String) (report : InteractionReport) : List Notice :=
  [.answerStream streamId report.status.name]

/-- Watches an interaction to its end; the context names it already. -/
def awaitResponse (context : Context) (streamId : String) (engagementId : EngagementId)
    (interactionId : InteractionId) : Procedure Conversation := do
  let outcome ←
    watchJob (.interactionStatus engagementId interactionId) InteractionReport.isTerminal
      (interactionProgress streamId)
  match outcome with
  | .error _ => routeToErrored context
  | .ok .cancelled =>
      say (.answerStream streamId Wording.responseCancelled)
      say .clearedPlaceholder
      return ⟨.discussingPlan, context⟩
  | .ok (.terminal report) =>
      presentResponse report
      say .clearedPlaceholder
      return ⟨.discussingPlan, context⟩

/-- Answers a question about the plan. -/
def answerQuestion (utterance : String) (engagementId : EngagementId) (context : Context) :
    Procedure Conversation := do
  let streamId ← streamName
  say (.answerStream streamId Wording.generatingResponse)
  say (.placeholder Wording.generatingResponsePlaceholder)
  match ← call (.startInteraction engagementId (trim utterance)) with
  | .error _ => routeToErrored context
  | .ok started =>
      awaitResponse (context.withInteraction started.interactionId) streamId engagementId
        started.interactionId

/-- The engagement that a follow-up goes to. -/
def followUpEngagement (context : Context) : Except Fault EngagementId :=
  match context.engagementId with
  | some engagementId => .ok engagementId
  | none =>
      .error (.illegalState
        ("session '" ++ context.sessionId ++ "' has no engagement to follow up on"))

/-- Handles a follow-up. -/
def discuss (utterance : String) (context : Context) : Procedure Conversation := do
  match followUpEngagement context with
  | .error _ => routeToErrored context
  | .ok engagementId =>
      match ← call (.deriveIntent engagementId (trim utterance)) with
      | .error _ => routeToErrored context
      | .ok .question => answerQuestion utterance engagementId context
      | .ok .revision =>
          say (.suggestion Wording.revisionPrompt Wording.revisionFollowUps)
          return ⟨.awaitingRevision, context⟩
      | .ok .newAnalysis => clarify utterance context
      | .ok .unclear =>
          say (.suggestion Wording.didNotUnderstand Wording.planFollowUps)
          return ⟨.discussingPlan, context⟩

end AssessmentChat.Conversation
