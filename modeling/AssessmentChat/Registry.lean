import AssessmentChat.Session.Supervision

namespace AssessmentChat

/-!
# Open sessions

Sessions are numbered in the order in which they are opened.  A tab leads to the
session that is open for it; closing the tab takes the way to the session away,
not the session.
-/

/-- Every session that was ever opened, and the tabs that lead to some of them. -/
structure Registry where
  sessions : List Session
  /-- The number of each tab's session, in ascending order of the tabs' names. -/
  tabs : List (String × Nat)

namespace Registry

/-- No session at all. -/
def empty : Registry :=
  ⟨[], []⟩

/-- The session of a number. -/
def session? (registry : Registry) (number : Nat) : Option Session :=
  registry.sessions[number]?

/-- The number of the session that a tab leads to. -/
def find? (registry : Registry) (sessionId : String) : Option Nat :=
  registry.tabs.lookup sessionId

/-- The same sessions with one of them changed. -/
def update (number : Nat) (change : Session → Session) (registry : Registry) : Registry :=
  { registry with sessions := registry.sessions.modify number change }

/-- A tab among others, before the first one with a greater name. -/
def insertTab (sessionId : String) (number : Nat) :
    List (String × Nat) → List (String × Nat)
  | [] => [(sessionId, number)]
  | (other, otherNumber) :: rest =>
      if sessionId < other then (sessionId, number) :: (other, otherNumber) :: rest
      else (other, otherNumber) :: insertTab sessionId number rest

/-- Adds a session and the tab that leads to it. -/
def add (session : Session) (registry : Registry) : Registry where
  sessions := registry.sessions ++ [session]
  tabs := insertTab session.sessionId registry.sessions.length registry.tabs

/-- The number of a tab's session, which is opened when there is none. -/
def getOrCreate (sessionId : String) (now : Timestamp) (registry : Registry) :
    Nat × Registry :=
  match registry.find? sessionId with
  | some number => (number, registry)
  | none => (registry.sessions.length, registry.add (.fresh sessionId now))

/-- Closes a tab. -/
def remove (sessionId : String) (registry : Registry) : Registry :=
  { registry with tabs := registry.tabs.filter fun (tab, _) => tab != sessionId }

/-- The names of the open tabs, in ascending order. -/
def sessionIds (registry : Registry) : List String :=
  registry.tabs.map Prod.fst

/-- The views of the open sessions. -/
def views (registry : Registry) : List SessionSnapshot :=
  registry.tabs.filterMap fun (_, number) => (registry.session? number).map Session.snapshot

/-- The views of the open sessions, in the order of the names that they carry. -/
def snapshots (registry : Registry) : List SessionSnapshot :=
  registry.views.mergeSort fun view other => view.sessionId ≤ other.sessionId

end Registry

end AssessmentChat
