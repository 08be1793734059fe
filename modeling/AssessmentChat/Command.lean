import AssessmentChat.Event

namespace AssessmentChat

/-!
# Commands

What the user of a session, or the surface around all sessions, asks for.
-/

/-- A command from the chat surface. -/
inductive Command
  | chatMessage (sessionId message : String)
  | stopResponse (sessionId : String)
  | tabClosed (sessionId : String)
  /-- Signing in or out concerns every session, whichever one is named. -/
  | authChanged (sessionId : Option String) (authenticated : Bool)
  | followUpClicked (sessionId : String) (followUp : FollowUpOption)
  | help (sessionId : String)
  /-- Saves the current plan to a destination, or under the plan's own file name. -/
  | downloadPlan (sessionId : String) (destination : Option String)
  | signInClicked (sessionId : String) (signIn : SignIn)
deriving Repr, DecidableEq

end AssessmentChat
