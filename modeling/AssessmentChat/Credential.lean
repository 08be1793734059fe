namespace AssessmentChat

/-!
# Credentials

Identity is managed elsewhere.  The conversation needs to know whether the user
is connected and, if not, how to ask for it.
-/

/-- The state of the user's connection. -/
inductive CredentialState
  | connected
  | disconnected
  | expired
  | unsupported
deriving Repr, DecidableEq

/-- The way of signing in that is offered. -/
inductive SignIn
  | full
  | renewal
  | supportedConnection
deriving Repr, DecidableEq

namespace SignIn

/-- Every way of signing in. -/
def all : List SignIn :=
  [.full, .renewal, .supportedConnection]

/-- The name of a way of signing in. -/
def name : SignIn → String
  | .full => "full-auth"
  | .renewal => "re-auth"
  | .supportedConnection => "use-supported-auth"

end SignIn

namespace CredentialState

/-- Every state of a connection. -/
def all : List CredentialState :=
  [.connected, .disconnected, .expired, .unsupported]

/-- The name of a state. -/
def name : CredentialState → String
  | .connected => "connected"
  | .disconnected => "disconnected"
  | .expired => "expired"
  | .unsupported => "unsupported"

/-- Whether the user may go on. -/
def isConnected (state : CredentialState) : Bool :=
  state = .connected

/-- The way of signing in that a state calls for. -/
def signIn : CredentialState → SignIn
  | .expired => .renewal
  | .unsupported => .supportedConnection
  | .connected | .disconnected => .full

/-- The request to sign in that is shown in a state. -/
def prompt : CredentialState → String
  | .expired => "Your connection has expired. Re-authenticate to continue."
  | .unsupported =>
      "Your current connection does not support the Refactor Assistant. " ++
        "Switch to a supported connection to continue."
  | .connected | .disconnected =>
      "You need to authenticate before using the Refactor Assistant."

end CredentialState

/-- An identity that does not change: its connection and the token it gives, if any. -/
structure Identity where
  state : CredentialState
  token : Option String
deriving Repr, DecidableEq

/-- A connected identity with the given token. -/
def Identity.connected (token : Option String) : Identity :=
  ⟨.connected, token⟩

end AssessmentChat
