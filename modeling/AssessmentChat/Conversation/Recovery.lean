import AssessmentChat.Procedure
import AssessmentChat.Session.Context
import AssessmentChat.Wording

namespace AssessmentChat.Conversation

/-!
# Failures, apologies and help

A step that fails clears the placeholder and leaves the apology to the next
utterance, which starts the conversation over.  What failed is not looked at.
-/

open Procedure

/-- Leaves a failed step. -/
def routeToErrored (context : Context) : Procedure Conversation := do
  say .clearedPlaceholder
  return ⟨.errored, context⟩

/-- Apologises and starts over. -/
def apologise (context : Context) (now : Timestamp) : Procedure Conversation := do
  say (.plainAnswer (context.apology.getD Wording.genericApology))
  return ⟨.awaitingGoal, context.restarted now⟩

/-- What the assistant can do. -/
def helpNotice : Notice :=
  .suggestion Wording.help Wording.helpFollowUps

/-- The conversation after help: the service's names are kept, the goal is not. -/
def afterHelp (context : Context) : Conversation :=
  ⟨.awaitingGoal, context.withoutGoal⟩

/-- Takes down a goal and asks for requirements. -/
def clarify (utterance : String) (context : Context) : Procedure Conversation := do
  say (.suggestion Wording.clarifyingPrompt Wording.clarifyingFollowUps)
  return ⟨.awaitingRequirements, context.withGoal (trim utterance)⟩

end AssessmentChat.Conversation
