import AssessmentChat.Conversation.Discussion
import AssessmentChat.Conversation.Plan

namespace AssessmentChat.Conversation

/-!
# Handling utterances

One table says what each phase does with an utterance.  Failures of the service
and of the store are handled inside; only a conversation that was never started
refuses an utterance.
-/

/-- The fault of an utterance that comes to a conversation that was never started. -/
def refusal (conversation : Conversation) : Fault :=
  .illegalState
    (conversation.phase.title ++ " accepts no interaction (session '" ++
      conversation.context.sessionId ++ "')")

/-- Handles an utterance and gives the conversation that follows. -/
def interact (conversation : Conversation) (utterance : String) (now : Timestamp) :
    Procedure (Except Fault Conversation) :=
  let context := conversation.context
  match conversation.phase with
  | .awaitingGoal => .ok <$> clarify utterance context
  | .awaitingRequirements => .ok <$> createPlan utterance context
  | .awaitingRevision => .ok <$> revisePlan utterance context
  | .discussingPlan => .ok <$> discuss utterance context
  | .errored => .ok <$> apologise context now
  | .notStarted => return .error conversation.refusal

end AssessmentChat.Conversation
