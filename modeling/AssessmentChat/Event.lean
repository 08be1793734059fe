import AssessmentChat.Credential

namespace AssessmentChat

/-!
# Events

What a session shows to its user.  A notice is the content; an event is a
notice marked with the session that it belongs to.
-/

/-- A suggestion that the user can pick: its label and what it says. -/
structure FollowUpOption where
  pillText : String
  prompt : String
deriving Repr, DecidableEq

/-- A suggestion that says its own label. -/
def FollowUpOption.echo (text : String) : FollowUpOption :=
  ⟨text, text⟩

/-- Suggestions under a heading. -/
structure FollowUp where
  text : String
  options : List FollowUpOption
deriving Repr, DecidableEq

/-- Suggestions under the usual heading. -/
def FollowUp.examples (options : List FollowUpOption) : FollowUp :=
  ⟨"Try Examples:", options⟩

/-- What can be shown. -/
inductive Notice
  /-- A complete answer, with suggestions if there are any. -/
  | answer (message : String) (followUp : Option FollowUp) (canBeVoted : Bool)
  /-- The text of the streaming message with the given name, new or changed. -/
  | answerStream (messageId message : String)
  /-- The placeholder of the chat input; an empty one clears it. -/
  | placeholder (text : String)
  /-- The user must sign in first. -/
  | signInNeeded (signIn : SignIn) (message : String)
  /-- Whether the chat input takes text. -/
  | inputEnabled (enabled : Bool)
deriving Repr, DecidableEq

/-- A notice of one session. -/
structure Event where
  sessionId : String
  notice : Notice
deriving Repr, DecidableEq

namespace Notice

/-- A plain answer. -/
def plainAnswer (message : String) : Notice :=
  .answer message none false

/-- An answer with suggestions. -/
def suggestion (message : String) (followUp : FollowUp) : Notice :=
  .answer message (some followUp) false

/-- An answer that the user may rate. -/
def votableAnswer (message : String) : Notice :=
  .answer message none true

/-- The notice that clears the placeholder. -/
def clearedPlaceholder : Notice :=
  .placeholder ""

/-- The request to sign in that a credential state calls for. -/
def signInFor (state : CredentialState) : Notice :=
  .signInNeeded state.signIn state.prompt

end Notice

end AssessmentChat
