import AssessmentChat.Controller
import AssessmentChat.Proofs.SessionRun

namespace AssessmentChat

/-!
# Runs of a chat

While a chat is open, commands come in, its sessions go on one by one, and plans
are saved beside them.  A run is any order of such happenings: a session can make
its moves between any two commands, and the answers to a saving can come at any
moment.

A command does nothing to a session but open it and give it signals.  What every
new session has and every signal leaves is therefore had by every session.
-/

/-- A plan that is being saved. -/
structure Saving where
  sessionId : String
  activity : Activity (Except Fault Unit)

/-- An open chat and the plans that are saved beside it. -/
structure Traffic where
  chat : Chat
  /-- Every saving that was ever begun, in that order. -/
  savings : List Saving

/-- What can happen while a chat is open. -/
inductive Happening
  | command
      (command : Command)
      (credential : CredentialState)
      (moment : Moment)
  /-- A session makes a move. -/
  | session (number : Nat) (move : Move)
  /-- A saving gets the answer to its request. -/
  | reply
      (number : Nat)
      (moment : Moment)
      (request : Request)
      (answer : request.Answer)

/-- What the surroundings see of a chat. -/
inductive Sight
  | shown (output : Output)
  /-- What a command that saves nothing comes to. -/
  | answered (outcome : Except Fault (Option Nat))
  /-- What a command that saves a plan comes to. -/
  | saved (number : Nat) (outcome : Except Fault Unit)

/-- What a happening leads to, and what is seen of it. -/
structure Scene where
  traffic : Traffic
  sights : List Sight

/-- What is seen of a saving. -/
def Stretch.sights
    (sessionId : String)
    (number : Nat)
    (stretch : Stretch (Except Fault Unit)) : List Sight :=
  (stretch.deeds.filterMap (Deed.output? sessionId)).map Sight.shown ++
    (stretch.reached.outcome?.map (Sight.saved number)).toList

namespace Traffic

/-- What a command does. -/
def obey
    (traffic : Traffic)
    (command : Command)
    (credential : CredentialState)
    (moment : Moment) : Scene :=
  let handled := traffic.chat.handle command credential moment.now
  let shown := handled.outputs.map Sight.shown
  match handled.result with
  | .finished outcome =>
      ⟨⟨handled.chat, traffic.savings⟩, shown ++ [.answered outcome]⟩
  | .download sessionId procedure =>
      let stretch := procedure.advance moment.freshName
      ⟨⟨handled.chat, traffic.savings ++ [⟨sessionId, stretch.reached⟩]⟩,
        shown ++ stretch.sights sessionId traffic.savings.length⟩

/-- What a happening does, if it is possible. -/
def follow?
    (policy : PollPolicy)
    (traffic : Traffic) : Happening → Option Scene
  | .command command credential moment =>
      some (traffic.obey command credential moment)
  | .session number move =>
      (traffic.chat.registry.session? number).bind fun session =>
        (session.move? policy move).map fun after =>
          ⟨{ traffic with
              chat := traffic.chat.update number fun _ => after.1 },
            after.2.map Sight.shown⟩
  | .reply number moment request answer =>
      traffic.savings[number]?.bind fun saving =>
        (saving.activity.receive? policy moment.freshName request
            answer).map fun stretch =>
          ⟨{ traffic with
              savings :=
                traffic.savings.set number
                  ⟨saving.sessionId, stretch.reached⟩ },
            stretch.sights saving.sessionId number⟩

/-- What happenings one after another do, if they are possible. -/
def followAll?
    (policy : PollPolicy)
    (traffic : Traffic) : List Happening → Option (List Scene)
  | [] => some []
  | happening :: rest =>
      (traffic.follow? policy happening).bind fun scene =>
        (scene.traffic.followAll? policy rest).map (scene :: ·)

end Traffic

/-! ## What a command does to sessions -/

namespace Chat

/-- What holds of every session of a chat, open or not. -/
def Each (property : Session → Prop) (chat : Chat) : Prop :=
  ∀ session ∈ chat.registry.sessions, property session

namespace Each

variable
  {property : Session → Prop}
  {chat : Chat}

/-- What holds of each session holds of the one under a number. -/
theorem at_number
    (each : chat.Each property)
    {number : Nat}
    {session : Session}
    (found : chat.registry.session? number = some session) :
    property session :=
  each session (List.mem_of_getElem? found)

/-- A change that keeps a property of sessions keeps it of each. -/
theorem update
    (each : chat.Each property)
    (number : Nat)
    {change : Session → Session}
    (kept : ∀ session, property session → property (change session)) :
    (chat.update number change).Each property := by
  intro session among
  obtain ⟨position, found⟩ := List.mem_iff_getElem?.mp among
  rw [Chat.update, Registry.update, List.getElem?_modify] at found
  obtain ⟨before, found, changed⟩ := Option.map_eq_some_iff.mp found
  have heldBefore : property before := each.at_number found
  by_cases here : number = position
  · rw [if_pos here] at changed
    exact changed ▸ kept before heldBefore
  · rw [if_neg here] at changed
    exact changed ▸ heldBefore

/-- A tab that is opened has a fresh session at most. -/
theorem getOrCreate
    (each : chat.Each property)
    (sessionId : String)
    {now : Timestamp}
    (opened : property (.fresh sessionId now)) :
    (chat.getOrCreate sessionId now).2.Each property := by
  simp only [Chat.getOrCreate, Registry.getOrCreate]
  split
  · exact each
  · intro session among
    rcases List.mem_append.mp among with earlier | added
    · exact each session earlier
    · cases List.mem_singleton.mp added
      exact opened

section Signals

variable
  (heeds :
    ∀ session signal, property session → property (session.heed signal).1)

include heeds

/-- A job that is put in line keeps a property of each session. -/
theorem enqueue
    (each : chat.Each property)
    (number : Nat)
    (job : Job) :
    (chat.enqueue number job).1.Each property := by
  unfold Chat.enqueue
  split
  next session found =>
    have queued :
        property (session.enqueue ⟨chat.nextHandle, job⟩).1 :=
      heeds session (.enqueue _) (each.at_number found)
    exact each.update number fun _ _ => queued
  next =>
    exact each

/-- Signing in or out keeps a property of each session. -/
theorem authChanged
    (each : chat.Each property)
    (authenticated : Bool)
    (numbers : List Nat) :
    (numbers.foldl
      (fun changed number =>
        changed.update number (Session.authChanged authenticated))
      chat).Each property := by
  induction numbers generalizing chat with
  | nil =>
      exact each
  | cons number rest inductionHypothesis =>
      exact inductionHypothesis
        (each.update number fun session =>
          heeds session (.authChanged authenticated))

/-- A message to a tab keeps a property of each session. -/
theorem chatMessage
    (each : chat.Each property)
    {sessionId : String}
    {now : Timestamp}
    (opened : property (.fresh sessionId now))
    (message : String)
    (credential : CredentialState) :
    (chat.chatMessage sessionId message credential now).chat.Each
      property := by
  have created := each.getOrCreate sessionId opened
  have gateMoved (authenticated : Bool) :=
    created.update (chat.getOrCreate sessionId now).1 fun session =>
      heeds session (.authChanged authenticated)
  simp only [Chat.chatMessage, Chat.unchanged]
  split
  · exact each
  · split
    · exact gateMoved false
    · split
      · exact (gateMoved true).enqueue heeds _ _
      · exact created.enqueue heeds _ _

/-- A command keeps of every session what a signal keeps. -/
theorem handle
    (each : chat.Each property)
    {now : Timestamp}
    (opened : ∀ sessionId, property (.fresh sessionId now))
    (command : Command)
    (credential : CredentialState) :
    (chat.handle command credential now).chat.Each property := by
  cases command with
  | chatMessage sessionId message =>
      exact each.chatMessage heeds (opened sessionId) message credential
  | followUpClicked sessionId followUp =>
      exact each.chatMessage heeds (opened sessionId) followUp.prompt
        credential
  | stopResponse sessionId =>
      simp only [Chat.handle, Chat.stopResponse]
      split
      · exact each.update _ fun session => heeds session .cancel
      · exact each
  | tabClosed sessionId =>
      simp only [Chat.handle, Chat.closeTab]
      split
      next number _ =>
        have disposed :=
          each.update number fun session => heeds session .dispose
        exact fun session among => disposed session among
      next =>
        exact each
  | authChanged sessionId authenticated =>
      exact each.authChanged heeds authenticated _
  | help sessionId =>
      exact (each.getOrCreate sessionId (opened sessionId)).enqueue heeds
        _ .help
  | downloadPlan sessionId destination =>
      simp only [Chat.handle, Chat.downloadPlan]
      split <;> exact each
  | signInClicked sessionId signIn =>
      exact each

end Signals

end Each

/-- A plan is saved only when its tab asks for that; then it is that of a view. -/
theorem handle_eq_download
    {chat : Chat}
    {command : Command}
    {credential : CredentialState}
    {now : Timestamp}
    {sessionId : String}
    {procedure : Procedure (Except Fault Unit)}
    (saves :
      (chat.handle command credential now).result =
        .download sessionId procedure) :
    ∃ snapshot destination,
      command = .downloadPlan sessionId destination ∧
        procedure = saveCurrentPlan snapshot destination := by
  cases command with
  | downloadPlan tab destination =>
      simp only [Chat.handle, Chat.downloadPlan] at saves
      split at saves
      next session found =>
        cases saves
        exact ⟨session.snapshot, destination, rfl, rfl⟩
      next =>
        cases saves
  | chatMessage | followUpClicked =>
      simp only [Chat.handle, Chat.chatMessage] at saves
      split at saves
      · cases saves
      · split at saves
        · cases saves
        · split at saves <;> cases saves
  | stopResponse | tabClosed =>
      simp only [Chat.handle, Chat.stopResponse, Chat.closeTab] at saves
      split at saves <;> cases saves
  | authChanged | help | signInClicked =>
      cases saves

end Chat

end AssessmentChat
