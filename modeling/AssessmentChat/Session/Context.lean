import AssessmentChat.Text.Blank
import AssessmentChat.Timestamp
import AssessmentChat.Workflow

namespace AssessmentChat

/-!
# Conversations in progress

A conversation is in one phase at a time.  The phase is only a tag: what a phase
needs is in the context, which a transition replaces as a whole.
-/

/-- The phase that a conversation is in. -/
inductive Phase
  /-- The next utterance is the goal. -/
  | awaitingGoal
  /-- The goal is known; the next utterance starts the first assessment. -/
  | awaitingRequirements
  /-- The next utterance says what to revise. -/
  | awaitingRevision
  /-- There is a plan; utterances are about it. -/
  | discussingPlan
  /-- Something failed; the next utterance gets an apology. -/
  | errored
  /-- No utterance is accepted. -/
  | notStarted
deriving Repr, DecidableEq

namespace Phase

/-- Every phase. -/
def all : List Phase :=
  [.awaitingGoal, .awaitingRequirements, .awaitingRevision, .discussingPlan, .errored,
    .notStarted]

/-- Whether a phase can have a remote job that is worth cancelling. -/
def isCancellable : Phase → Bool
  | .awaitingRequirements | .awaitingRevision | .discussingPlan => true
  | _ => false

/-- The name of a phase in messages. -/
def title : Phase → String
  | .awaitingGoal => "StartOfConversation"
  | .awaitingRequirements => "GenerateInitialPlan"
  | .awaitingRevision => "RevisePlan"
  | .discussingPlan => "PlanGenerationFollowup"
  | .errored => "ConversationErrored"
  | .notStarted => "ConversationNotStarted"

/-- The name of a phase on the wire. -/
def name : Phase → String
  | .awaitingGoal => "start_of_conversation"
  | .awaitingRequirements => "generate_initial_plan"
  | .awaitingRevision => "revise_plan"
  | .discussingPlan => "plan_generation_followup"
  | .errored => "conversation_errored"
  | .notStarted => "conversation_not_started"

end Phase

/-- What a conversation knows. -/
structure Context where
  sessionId : String
  /-- Counts the starts of the conversation. -/
  traceId : UInt64
  startedAt : Timestamp
  /-- What the user wants to refactor. -/
  goal : Option String
  engagementId : Option EngagementId
  assessmentId : Option AssessmentId
  interactionId : Option InteractionId
  /-- What the next apology says, when it is not the general one. -/
  apology : Option String
deriving Repr, DecidableEq

namespace Context

/-- The context of a new conversation. -/
def start (sessionId : String) (now : Timestamp) : Context where
  sessionId
  traceId := 1
  startedAt := now
  goal := none
  engagementId := none
  assessmentId := none
  interactionId := none
  apology := none

/-- Takes down the goal. -/
def withGoal (context : Context) (goal : String) : Context :=
  { context with goal := some goal }

/-- Forgets the goal and keeps the service's names. -/
def withoutGoal (context : Context) : Context :=
  { context with goal := none }

/-- Takes down the engagement. -/
def withEngagement (context : Context) (engagementId : EngagementId) : Context :=
  { context with engagementId := some engagementId }

/-- Takes down a new assessment; an interaction belonged to the one before. -/
def withAssessment (context : Context) (assessmentId : AssessmentId) : Context :=
  { context with assessmentId := some assessmentId, interactionId := none }

/-- Takes down the interaction. -/
def withInteraction (context : Context) (interactionId : InteractionId) : Context :=
  { context with interactionId := some interactionId }

/-- Takes down what the next apology says. -/
def withApology (context : Context) (apology : String) : Context :=
  { context with apology := some apology }

/-- The same session with a conversation that starts over. -/
def restarted (context : Context) (now : Timestamp) : Context :=
  { start context.sessionId now with traceId := context.traceId + 1 }

/-- What is asked of a new assessment: the goal, unless it is blank, and the utterance. -/
def assessmentInput (context : Context) (utterance : String) : String :=
  match context.goal.map trim with
  | some goal => if goal.isEmpty then trim utterance else goal ++ " " ++ trim utterance
  | none => trim utterance

end Context

/-- A conversation as it stands between two utterances. -/
structure Conversation where
  phase : Phase
  context : Context
deriving Repr, DecidableEq

/-- A conversation in which nothing has been said. -/
def Conversation.start (sessionId : String) (now : Timestamp) : Conversation :=
  ⟨.awaitingGoal, .start sessionId now⟩

/-- A view of a session, from which another surface can show it. -/
structure SessionSnapshot where
  sessionId : String
  phase : Phase
  traceId : UInt64
  startedAt : Timestamp
  engagementId : Option EngagementId
  assessmentId : Option AssessmentId
  interactionId : Option InteractionId
  /-- Whether an utterance is being handled. -/
  busy : Bool
  /-- Whether utterances wait for the user to sign in. -/
  isAuthenticating : Bool
deriving Repr, DecidableEq

/-- The view of a conversation. -/
def Conversation.snapshot (conversation : Conversation) (busy isAuthenticating : Bool) :
    SessionSnapshot where
  sessionId := conversation.context.sessionId
  phase := conversation.phase
  traceId := conversation.context.traceId
  startedAt := conversation.context.startedAt
  engagementId := conversation.context.engagementId
  assessmentId := conversation.context.assessmentId
  interactionId := conversation.context.interactionId
  busy
  isAuthenticating

end AssessmentChat
