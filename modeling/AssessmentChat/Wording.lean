import AssessmentChat.Artifact
import AssessmentChat.Event

namespace AssessmentChat.Wording

/-!
# Wording

Everything the assistant says of its own.  No text of a fault is among it:
failures are described in general terms.
-/

/-- Asked once the goal is known. -/
def clarifyingPrompt : String :=
  "No problem! Before I start, is there any other requirements you would want me to consider " ++
    "while generating your refactoring requirements?"

/-- Asked before a revision. -/
def revisionPrompt : String :=
  "No problem! Before I start, are there any aspects of the plan you would like me to focus on " ++
    "for the next revision?"

/-- Said when a plan is begun. -/
def creatingPlan : String :=
  "Ok, let me create a plan. This may take a few minutes"

/-- Said when a revision is begun. -/
def revisingPlan : String :=
  "Ok, let me revise the plan. This may take a few minutes"

/-- The first progress message of a plan. -/
def uploadingWorkspace : String :=
  "Uploading workspace..."

/-- The first progress message of a revision. -/
def startingRevision : String :=
  "Starting plan revision..."

/-- The placeholder while a plan is written. -/
def generatingPlanPlaceholder : String :=
  "Generating implementation plan ..."

/-- The last progress message of a cancelled plan. -/
def cancellingPlan : String :=
  "Cancelling plan generation"

/-- Said when the service could not write the plan. -/
def planFailed : String :=
  "Plan generation failed."

/-- Said when a plan was cancelled. -/
def planCancelled : String :=
  "Plan generation was cancelled."

/-- The first progress message of an answer. -/
def generatingResponse : String :=
  "Generating response..."

/-- The placeholder while an answer is written. -/
def generatingResponsePlaceholder : String :=
  "Generating response ..."

/-- Said when the service could not answer. -/
def responseFailed : String :=
  "I wasn't able to answer that question. Please try asking it another way."

/-- Said when an answer was cancelled. -/
def responseCancelled : String :=
  "Response generation was cancelled."

/-- The apology for any failure that has none of its own. -/
def genericApology : String :=
  "Sorry, something went wrong. Please try again."

/-- The apology for a workspace without files. -/
def emptyWorkspace : String :=
  "I'm sorry, I can't create a plan for an empty workspace. Please open a workspace you would " ++
    "like to create a refactor assessment for."

/-- What the assistant can do. -/
def help : String :=
  "Try asking questions related to refactoring a monolithic codebase to microservices, " ++
    "generating starter code for microservices or help with deploying microservice starter code."

/-- Said when the user goes off to sign in. -/
def reauthenticate : String :=
  "Follow instructions to re-authenticate"

/-- Said when there is no plan to save. -/
def noPlanToDownload : String :=
  "There is no plan to download yet. Describe what you want to refactor and I'll create one."

/-- Said when a plan could not be saved. -/
def downloadFailed : String :=
  "Sorry, I couldn't download the plan. Please try again."

/-- What can be done once there is a plan. -/
def followUpHint : String :=
  "You can ask me any follow up questions you may have or adjust any part by generating a " ++
    "revised analysis."

/-- Said when a plan is ready. -/
def planReady (locator : ArtifactLocator) : String :=
  "Your Refactor Assistant analysis is ready! A local markdown version is available [here](" ++
    locator.location ++ ").\n\n" ++ followUpHint

/-- Said when a plan has been saved. -/
def planDownloaded (locator : ArtifactLocator) : String :=
  "The plan was saved to " ++ locator.location

/-- Said after an answer. -/
def anotherFollowUp : String :=
  "Would you like to ask another follow up?\n\n" ++ followUpHint

/-- Said when a follow-up is unclear. -/
def didNotUnderstand : String :=
  "I'm sorry, I don't understand your response.\n\n" ++ followUpHint

/-- Suggestions shown with the help. -/
def helpFollowUps : FollowUp :=
  .examples [.echo "Run analysis"]

/-- Suggestions shown with the clarifying prompt. -/
def clarifyingFollowUps : FollowUp :=
  .examples
    [.echo "Describe the core functionalities of the monolithic application",
      .echo "No, let's start"]

/-- Suggestions shown with the revision prompt. -/
def revisionFollowUps : FollowUp :=
  .examples
    [.echo "Optimize for costs",
      .echo "Break apart responsibilities into more distinct domains"]

/-- Suggestions shown once there is a plan. -/
def planFollowUps : FollowUp :=
  .examples
    [⟨"Explain Output Validation Metrics", "explain analysis"⟩,
      ⟨"Explain recommended microservices", "explain analysis"⟩,
      ⟨"Generate a revised analysis", "revise analysis"⟩]

end AssessmentChat.Wording
