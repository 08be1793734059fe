import AssessmentChat.Command
import AssessmentChat.Registry

namespace AssessmentChat

/-!
# Handling commands

A command is an operation on the open sessions.  A chat message is checked
against the user's credentials first: when they do not hold, the session asks
the user to sign in and the message is dropped.  Saving a plan is a procedure of
its own, which leaves the session alone.
-/

/-- The open sessions and the number of the next job. -/
structure Chat where
  registry : Registry
  nextHandle : Nat

/-- What a command comes to. -/
inductive CommandResult
  /-- The number of the job that was queued, if one was, or the fault. -/
  | finished (outcome : Except Fault (Option Nat))
  /-- The plan of a session is to be saved. -/
  | download (sessionId : String) (procedure : Procedure (Except Fault Unit))

/-- The handling of a command. -/
structure Handled where
  chat : Chat
  outputs : List Output
  /-- The sessions that were given something to notice, in order. -/
  touched : List Nat
  result : CommandResult

namespace Chat

/-- No open session. -/
def empty : Chat :=
  ⟨.empty, 0⟩

/-- The chat with one session changed. -/
def update (number : Nat) (change : Session → Session) (chat : Chat) : Chat :=
  { chat with registry := chat.registry.update number change }

/-- The session of a tab, which is opened when there is none. -/
def getOrCreate (sessionId : String) (now : Timestamp) (chat : Chat) : Nat × Chat :=
  let (number, registry) := chat.registry.getOrCreate sessionId now
  (number, { chat with registry })

/-- Queues a job with the next number. -/
def enqueue (number : Nat) (job : Job) (chat : Chat) : Chat × List Output :=
  match chat.registry.session? number with
  | some session =>
      let (queued, outputs) := session.enqueue ⟨chat.nextHandle, job⟩
      ({ chat.update number fun _ => queued with nextHandle := chat.nextHandle + 1 }, outputs)
  | none => (chat, [])

/-- A command that ends at once and changes nothing. -/
def unchanged (outcome : Except Fault (Option Nat)) (chat : Chat) : Handled :=
  ⟨chat, [], [], .finished outcome⟩

/-- Queues a job and answers with its number. -/
def submit (number : Nat) (job : Job) (chat : Chat) : Handled :=
  let (queued, outputs) := chat.enqueue number job
  ⟨queued, outputs, [number], .finished (.ok (some chat.nextHandle))⟩

/-- Whether utterances of a session wait for the user to sign in, as its view says. -/
def isAuthenticating (number : Nat) (chat : Chat) : Bool :=
  (chat.registry.session? number).any fun session => session.snapshot.isAuthenticating

/-- Sends a message to a session; a blank one is refused. -/
def chatMessage (sessionId message : String) (credential : CredentialState) (now : Timestamp)
    (chat : Chat) : Handled :=
  let text := trim message
  if text.isEmpty then
    chat.unchanged (.error (.illegalState s!"empty chat message for session '{sessionId}'"))
  else
    let (number, opened) := chat.getOrCreate sessionId now
    if !credential.isConnected then
      { chat := opened.update number (Session.authChanged false)
        outputs := [.published ⟨sessionId, .signInFor credential⟩]
        touched := [number]
        result := .finished (.ok none) }
    else if opened.isAuthenticating number then
      (opened.update number (Session.authChanged true)).submit number (.utterance text)
    else opened.submit number (.utterance text)

/-- Cancels the utterance that a session is handling, if there is one to cancel. -/
def stopResponse (sessionId : String) (chat : Chat) : Handled :=
  match chat.registry.find? sessionId with
  | some number =>
      ⟨chat.update number Session.cancel, [], [number], .finished (.ok none)⟩
  | none => chat.unchanged (.ok none)

/-- Disposes of a session and closes its tab. -/
def closeTab (sessionId : String) (chat : Chat) : Handled :=
  match chat.registry.find? sessionId with
  | some number =>
      let disposed := chat.update number Session.dispose
      ⟨{ disposed with registry := disposed.registry.remove sessionId }, [], [number],
        .finished (.ok none)⟩
  | none => chat.unchanged (.ok none)

/-- What a session shows when the user has signed in or out. -/
def authNotice (authenticated : Bool) (credential : CredentialState) : Notice :=
  if authenticated then .inputEnabled true else .signInFor credential

/-- Opens or closes the gate of every open session. -/
def authChanged (authenticated : Bool) (credential : CredentialState) (chat : Chat) :
    Handled :=
  let numbers := chat.registry.tabs.map Prod.snd
  { chat := numbers.foldl
      (fun changed number => changed.update number (Session.authChanged authenticated)) chat
    outputs := chat.registry.sessionIds.map fun sessionId =>
      .published ⟨sessionId, authNotice authenticated credential⟩
    touched := numbers
    result := .finished (.ok none) }

/-- Fetches the plan of an assessment and writes it to a destination. -/
def savePlan (engagementId : EngagementId) (assessmentId : AssessmentId)
    (destination : String) : Procedure (Except Fault ArtifactLocator) := do
  match ← Procedure.call (.downloadPlan engagementId assessmentId) with
  | .ok content => Procedure.request (.exportPlan content destination)
  | .error fault => return .error fault

/-- Saves the plan that a view of a session names. -/
def saveCurrentPlan (snapshot : SessionSnapshot) (destination : Option String) :
    Procedure (Except Fault Unit) := do
  match snapshot.engagementId, snapshot.assessmentId with
  | some engagementId, some assessmentId =>
      match ← savePlan engagementId assessmentId
          (destination.getD (planFileName assessmentId)) with
      | .ok locator =>
          Procedure.say (.plainAnswer (Wording.planDownloaded locator))
          return .ok ()
      | .error fault =>
          Procedure.say (.plainAnswer Wording.downloadFailed)
          return .error fault
  | _, _ =>
      Procedure.say (.plainAnswer Wording.noPlanToDownload)
      return .ok ()

/-- Begins to save the plan of a session, which must be open. -/
def downloadPlan (sessionId : String) (destination : Option String) (chat : Chat) : Handled :=
  match (chat.registry.find? sessionId).bind chat.registry.session? with
  | some session =>
      ⟨chat, [], [], .download sessionId (saveCurrentPlan session.snapshot destination)⟩
  | none =>
      chat.unchanged
        (.error (.illegalState s!"download requested for unknown session '{sessionId}'"))

/-- Sends the user off to sign in; the input stays closed until that is done. -/
def signInClicked (sessionId : String) (chat : Chat) : Handled where
  chat
  outputs :=
    [.published ⟨sessionId, .plainAnswer Wording.reauthenticate⟩,
      .published ⟨sessionId, .inputEnabled false⟩]
  touched := []
  result := .finished (.ok none)

/-- Asks a session for help. -/
def requestHelp (sessionId : String) (now : Timestamp) (chat : Chat) : Handled :=
  let (number, opened) := chat.getOrCreate sessionId now
  opened.submit number .help

/-- Handles a command while the user's credentials are in the given state. -/
def handle (command : Command) (credential : CredentialState) (now : Timestamp)
    (chat : Chat) : Handled :=
  match command with
  | .chatMessage sessionId message => chat.chatMessage sessionId message credential now
  | .followUpClicked sessionId followUp =>
      chat.chatMessage sessionId followUp.prompt credential now
  | .stopResponse sessionId => chat.stopResponse sessionId
  | .tabClosed sessionId => chat.closeTab sessionId
  | .authChanged _ authenticated => chat.authChanged authenticated credential
  | .help sessionId => chat.requestHelp sessionId now
  | .downloadPlan sessionId destination => chat.downloadPlan sessionId destination
  | .signInClicked sessionId _ => chat.signInClicked sessionId

end Chat

end AssessmentChat
