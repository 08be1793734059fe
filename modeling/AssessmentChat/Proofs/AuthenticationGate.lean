import AssessmentChat.Proofs.OpenSessions
import AssessmentChat.Proofs.SnapshotCoherence

namespace AssessmentChat

/-!
# The gate of a session

Whether a message is let in is decided from the view that a session publishes;
whether an utterance is begun is decided by the worker, from the gate.  Both say
the same at any moment of any course of a chat, because the view is coherent.  So
a message that gets a number finds the gate open, and one that is turned away
leaves it closed; and what has been let in is not held up behind an open gate.

The session of a message is opened before the user's credentials are asked for,
and workers go on while they are.  When the answer comes, the message is handled
as one that has just come: its session is open by then.
-/

/-- The session to which a command brings a message, and the message. -/
def Command.message? : Command → Option (String × String)
  | .chatMessage sessionId message => some (sessionId, message)
  | .followUpClicked sessionId followUp => some (sessionId, followUp.prompt)
  | _ => none

/-- A worker is busy with an utterance, or begins the next job when it looks. -/
def Session.GoesOn (policy : PollPolicy) (session : Session) : Prop :=
  session.isInteracting = true ∨
    ∀ moment disposalFirst, ∃ after,
      session.move? policy (.proceed moment disposalFirst) = some after ∧
        session.begun? after.1 = session.awaiting.head?

namespace Chat

/-- The jobs in the queue of a session. -/
def queueOf (number : Nat) (chat : Chat) : List QueuedJob :=
  (chat.registry.session? number).elim [] Session.queue

/--
The session of a tab and its gate, which stands as it does and as it was moved
last.
-/
structure GateAt
    (chat : Chat)
    (acts : List Act)
    (sessionId : String)
    (number : Nat)
    (session : Session)
    (isOpen : Bool) : Prop where
  tab : chat.registry.find? sessionId = some number
  found : chat.registry.session? number = some session
  stands : session.gateOpen = isOpen
  movedLast : gateAfter false (movesOf number acts) = isOpen

end Chat

/-! ## The gate and the worker -/

namespace Session

theorem begun?_utterance_of_idle
    {policy : PollPolicy}
    {session : Session}
    {move : Move}
    {after : Session × List Output}
    {handle : Nat}
    {text : String}
    (stands : session.worker = .idle)
    (own : move.isOwn = true)
    (moved : session.move? policy move = some after)
    (begun : session.begun? after.1 = some ⟨handle, .utterance text⟩) :
    session.gateOpen = true := by
  obtain ⟨moment, -, -, ⟨-, rfl⟩ | ⟨-, queued, rest, queue, rfl⟩⟩ :=
    move?_idle stands own moved
  · rw [Reaction.seen, begun?_of_stopped rfl] at begun
    cases begun
  have waited : session.awaiting = queued :: rest := by
    simp [awaiting, held?, stands, queue]
  have first : queued = ⟨handle, .utterance text⟩ := by
    unfold begun? at begun
    split at begun
    · rw [waited] at begun
      exact Option.some.inj begun
    · cases begun
  cases isOpen : session.gateOpen with
  | true =>
      rfl
  | false =>
      have heldBack :
          ((({ session with queue := rest } : Session).beginJob
              (moment.supplies policy) queued).session).awaiting =
            session.awaiting ++ [] := by
        rw [waited, first]
        simp [beginJob, isOpen, holdBack, publish, awaiting, held?]
      rw [Reaction.seen, begun?_of_awaiting [] heldBack] at begun
      cases begun

theorem begun?_utterance_of_gated
    {policy : PollPolicy}
    {session : Session}
    {move : Move}
    {after : Session × List Output}
    {held : Nat}
    {utterance : String}
    {queued : QueuedJob}
    (stands : session.worker = .gated held utterance)
    (moved : session.move? policy move = some after)
    (begun : session.begun? after.1 = some queued) :
    session.gateOpen = true := by
  cases move with
  | signal signal =>
      cases moved
      rw [heed_begun?] at begun
      cases begun
  | elapse | receive =>
      simp [move?, elapse?, receive?, stands] at moved
  | proceed moment disposalFirst =>
      obtain ⟨reaction, proceeded, rfl⟩ := Option.map_eq_some_iff.mp moved
      rw [proceed?_gated stands] at proceeded
      split at proceeded
      · cases proceeded
        rw [Reaction.seen, begun?_of_stopped rfl] at begun
        cases begun
      · split at proceeded
        next isOpen =>
          exact isOpen
        next =>
          cases proceeded

/-- An utterance is begun only through an open gate. -/
theorem begun?_utterance_gateOpen
    {policy : PollPolicy}
    {session : Session}
    {move : Move}
    {after : Session × List Output}
    {handle : Nat}
    {text : String}
    (moved : session.move? policy move = some after)
    (begun : session.begun? after.1 = some ⟨handle, .utterance text⟩) :
    session.gateOpen = true := by
  cases own : move.isOwn with
  | false =>
      cases move with
      | signal signal =>
          cases moved
          rw [heed_begun?] at begun
          cases begun
      | proceed | elapse | receive =>
          cases own
  | true =>
      cases stands : session.worker with
      | idle =>
          exact begun?_utterance_of_idle stands own moved begun
      | gated held utterance =>
          exact begun?_utterance_of_gated stands moved begun
      | interacting busy activity =>
          let interaction : Interaction (Except Fault Conversation) :=
            ⟨[], activity, session.isCancelled⟩
          have handles :
              session.worker = .interacting busy interaction.activity :=
            stands
          obtain ⟨_, _, stretch, -, -, -, -, rfl⟩ :=
            move?_interacting .awaitingGoal handles rfl own moved
          have waits :
              (session.absorb busy stretch).session.awaiting =
                session.awaiting ++ [] := by
            rw [absorb_awaiting, awaiting, held?, stands]
            exact (List.append_nil _).symm
          rw [Reaction.seen, begun?_of_awaiting [] waits] at begun
          cases begun
      | stopped =>
          rw [move?_stopped stands own] at moved
          cases moved

/-- A job that is taken from the queue while the gate is open is begun. -/
theorem begun?_beginJob
    {session : Session}
    {queued : QueuedJob}
    {rest : List QueuedJob}
    (stands : session.worker = .idle)
    (queue : session.queue = queued :: rest)
    (isOpen : session.gateOpen = true)
    (supplies : Supplies) :
    session.begun?
        ((({ session with queue := rest } : Session).beginJob supplies
          queued).session) =
      some queued := by
  have waited : session.awaiting = queued :: rest := by
    simp [awaiting, held?, stands, queue]
  unfold beginJob
  split
  · rw [if_pos isOpen]
    refine begun?_of_head (absorb_hasStopped _ _ _) ?_
    rw [waited, beginUtterance, absorb_awaiting]
    rfl
  · refine begun?_of_head ?_ ?_
    · simp [giveHelp, publish, hasStopped, stands]
    · rw [waited]
      simp [giveHelp, publish, awaiting, held?, stands]

/-- Nothing is held up behind an open gate. -/
theorem goesOn_of_gateOpen
    {session : Session}
    (policy : PollPolicy)
    (undisposed : session.disposed = false)
    (running : session.hasStopped = false)
    (isOpen : session.gateOpen = true)
    (waits : session.awaiting ≠ []) :
    session.GoesOn policy := by
  cases stands : session.worker with
  | interacting handle activity =>
      exact .inl (by simp [isInteracting, stands])
  | stopped =>
      simp [hasStopped, stands] at running
  | idle =>
      refine .inr fun moment disposalFirst => ?_
      cases queue : session.queue with
      | nil =>
          simp [awaiting, held?, stands, queue] at waits
      | cons queued rest =>
          refine
            ⟨(({ session with queue := rest } : Session).beginJob
                (moment.supplies policy) queued).seen,
              by simp [move?, proceed?_idle stands, undisposed, queue], ?_⟩
          rw [Reaction.seen, begun?_beginJob stands queue isOpen]
          simp [awaiting, held?, stands, queue]
  | gated handle utterance =>
      refine .inr fun moment disposalFirst => ?_
      refine
        ⟨(session.beginUtterance (moment.supplies policy) handle
            utterance).seen,
          by simp [move?, proceed?_gated stands, undisposed, isOpen], ?_⟩
      have waited :
          session.awaiting =
            ⟨handle, .utterance utterance⟩ :: session.queue := by
        simp [awaiting, held?, stands]
      rw [waited, Reaction.seen]
      refine begun?_of_head (absorb_hasStopped _ _ _) ?_
      rw [waited, beginUtterance, absorb_awaiting]
      rfl

end Session

/-! ## The sessions of a chat -/

namespace Known

variable
  {policy : PollPolicy}
  {acts : List Act}
  {chat : Chat}
  {number : Nat}
  {session : Session}

/-- The gate of a session stands as it was moved last. -/
theorem gateOpen_eq
    (known : Known policy acts chat)
    (found : chat.registry.session? number = some session) :
    session.gateOpen = gateAfter false (movesOf number acts) := by
  obtain ⟨now, outputs, run⟩ := known.runs number session found
  exact run.gateOpen_eq

/-- The view of a session says how its gate stands. -/
theorem isAuthenticating_eq
    (known : Known policy acts chat)
    (found : chat.registry.session? number = some session) :
    chat.isAuthenticating number = !session.gateOpen := by
  obtain ⟨now, outputs, run⟩ := known.runs number session found
  have coherent : session.Coherent := run.coherent
  rw [Chat.isAuthenticating, found, Option.any_some, coherent.view]
  rfl

/-- Only a session that has been disposed of stops. -/
theorem hasStopped_eq
    (known : Known policy acts chat)
    (found : chat.registry.session? number = some session)
    (undisposed : session.disposed = false) :
    session.hasStopped = false := by
  obtain ⟨now, outputs, run⟩ := known.runs number session found
  obtain ⟨account⟩ :=
    @Run.account policy (.start session.sessionId now) false _ _ _ run
  cases account.stands with
  | idle stands | gated _ _ stands | interacting _ _ stands =>
      simp [Session.hasStopped, stands]
  | stopped _ disposed =>
      rw [undisposed] at disposed
      cases disposed

end Known

/-! ## Messages -/

namespace Chat

theorem handle_of_message?
    {command : Command}
    {sessionId message : String}
    (brings : command.message? = some (sessionId, message))
    (credential : CredentialState)
    (now : Timestamp)
    (chat : Chat) :
    chat.handle command credential now =
      chat.chatMessage sessionId message credential now := by
  cases command <;> cases brings <;> rfl

/-- To open a session is to open one without a job. -/
theorem queueOf_getOrCreate
    (chat : Chat)
    (sessionId : String)
    (now : Timestamp)
    (number : Nat) :
    (chat.getOrCreate sessionId now).2.queueOf number =
      chat.queueOf number := by
  obtain ⟨_, -, opened⟩ | ⟨-, opened⟩ :=
    chat.getOrCreate_cases sessionId now
  · rw [opened]
  · simp only [opened, queueOf, Registry.session?_add]
    split
    next last =>
      rw [last, Registry.session?, List.getElem?_eq_none (Nat.le_refl _)]
      rfl
    next =>
      rfl

/-- A session that is asked to open or close its gate keeps its jobs. -/
theorem queueOf_authChanged
    (chat : Chat)
    (number other : Nat)
    (authenticated : Bool) :
    (chat.update number
        (Session.authChanged authenticated)).queueOf other =
      chat.queueOf other := by
  rw [queueOf, session?_update]
  split
  · cases found : chat.registry.session? other <;>
      simp [queueOf, found, Session.authChanged]
  · rfl

/-- What comes of a message that is blank, turned away or taken. -/
theorem chatMessage_cases
    {chat opened : Chat}
    {sessionId : String}
    {now : Timestamp}
    {number : Nat}
    (opens : chat.getOrCreate sessionId now = (number, opened))
    (message : String)
    (credential : CredentialState) :
    ((trim message).isEmpty = true ∧
        ∃ fault,
          chat.chatMessage sessionId message credential now =
            chat.unchanged (.error fault)) ∨
      (credential.isConnected = false ∧
        chat.chatMessage sessionId message credential now =
          { chat := opened.update number (Session.authChanged false)
            outputs := [.published ⟨sessionId, .signInFor credential⟩]
            touched := [number]
            result := .finished (.ok none) }) ∨
      (credential.isConnected = true ∧
        chat.chatMessage sessionId message credential now =
          (if opened.isAuthenticating number then
            opened.update number (Session.authChanged true)
          else opened).submit number (.utterance (trim message))) := by
  unfold chatMessage
  rw [opens]
  dsimp only
  split
  next blank =>
    exact .inl ⟨blank, _, rfl⟩
  next =>
    cases connected : credential.isConnected with
    | false =>
        exact .inr (.inl ⟨rfl, rfl⟩)
    | true =>
        refine .inr (.inr ⟨rfl, ?_⟩)
        simp only [Bool.not_true, Bool.false_eq_true, if_false]
        split <;> rfl

end Chat

namespace Chat

variable
  {policy : PollPolicy}
  {acts : List Act}
  {chat : Chat}
  {number : Nat}
  {session : Session}

/-- A job that is queued comes to the end of the queue, and moves no gate. -/
theorem session?_submit
    (found : chat.registry.session? number = some session)
    (running : session.hasStopped = false)
    (job : Job) :
    ∃ queued,
      (chat.submit number job).chat.registry.session? number =
          some queued ∧
        queued.queue = session.queue ++ [⟨chat.nextHandle, job⟩] ∧
        queued.gateOpen = session.gateOpen ∧
        (chat.submit number job).chat.registry.tabs =
          chat.registry.tabs := by
  let signal : Signal := .enqueue ⟨chat.nextHandle, job⟩
  refine ⟨(session.heed signal).1, ?_, session.heed_queue running signal,
    session.heed_gateOpen signal, ?_⟩
  · simp only [submit, enqueue, found]
    refine (chat.session?_update number number _).trans ?_
    rw [if_pos rfl, found]
    rfl
  · simp only [submit, enqueue, found]
    rfl

/-- Before a message is queued, a closed gate of its session is opened. -/
theorem session?_admitted
    (known : Known policy acts chat)
    (found : chat.registry.session? number = some session)
    (undisposed : session.disposed = false) :
    let admitted :=
      if chat.isAuthenticating number then
        chat.update number (Session.authChanged true)
      else chat
    ∃ ready,
      admitted.registry.session? number = some ready ∧
        ready.queue = session.queue ∧
        ready.gateOpen = true ∧
        ready.hasStopped = false ∧
        admitted.registry.tabs = chat.registry.tabs := by
  have running := known.hasStopped_eq found undisposed
  dsimp only
  rw [known.isAuthenticating_eq found]
  cases isOpen : session.gateOpen with
  | true =>
      exact ⟨session, found, rfl, isOpen, running, rfl⟩
  | false =>
      refine ⟨session.authChanged true, ?_, rfl, rfl, running, rfl⟩
      refine (chat.session?_update number number _).trans ?_
      rw [if_pos rfl, found]
      rfl

end Chat

section Messages

variable
  {policy : PollPolicy}
  {acts : List Act}
  {chat : Chat}
  {command : Command}
  {credential : CredentialState}
  {now : Timestamp}
  {sessionId message : String}

/-- A message that is not blank gets a number exactly if the user is connected. -/
theorem Chat.message_answered
    (chat : Chat)
    (brings : command.message? = some (sessionId, message))
    (notBlank : (trim message).isEmpty = false)
    (credential : CredentialState)
    (now : Timestamp) :
    ∃ answer,
      (chat.handle command credential now).result =
          .finished (.ok answer) ∧
        answer.isSome = credential.isConnected := by
  obtain ⟨number, opened, opens⟩ :
      ∃ number opened,
        chat.getOrCreate sessionId now = (number, opened) :=
    ⟨_, _, rfl⟩
  rw [Chat.handle_of_message? brings]
  obtain ⟨blank, -⟩ | ⟨unconnected, handled⟩ | ⟨connected, handled⟩ :=
    Chat.chatMessage_cases opens message credential
  · rw [notBlank] at blank
    cases blank
  · rw [handled, unconnected]
    exact ⟨none, rfl, rfl⟩
  · rw [handled, connected]
    exact ⟨_, rfl, rfl⟩

/-- A message that gets a number is queued behind an open gate. -/
theorem Course.message_taken
    (course : Course policy acts chat)
    (brings : command.message? = some (sessionId, message))
    {handle : Nat}
    (taken :
      (chat.handle command credential now).result =
        .finished (.ok (some handle))) :
    credential.isConnected = true ∧
      ∃ number session,
        (chat.handle command credential now).chat.GateAt
            (acts ++ chat.actsOf command credential now)
            sessionId number session true ∧
          session.queue =
            chat.queueOf number ++
              [⟨handle, .utterance (trim message)⟩] := by
  have known := (course.handle command credential now).known
  obtain ⟨number, opened, opens⟩ :
      ∃ number opened,
        chat.getOrCreate sessionId now = (number, opened) :=
    ⟨_, _, rfl⟩
  have knownOpened := course.known.opening sessionId now
  have tab := chat.find?_getOrCreate sessionId now
  have sameQueue := chat.queueOf_getOrCreate sessionId now number
  rw [opens] at knownOpened tab sameQueue
  obtain ⟨session, found, -, undisposed⟩ := knownOpened.at_tab tab
  rw [Chat.handle_of_message? brings] at known taken ⊢
  obtain ⟨-, fault, handled⟩ | ⟨-, handled⟩ | ⟨connected, handled⟩ :=
    Chat.chatMessage_cases opens message credential
  · rw [handled] at taken
    cases taken
  · rw [handled] at taken
    cases taken
  rw [handled] at known taken ⊢
  obtain ⟨ready, foundReady, readyQueue, readyGate, running, tabs⟩ :=
    Chat.session?_admitted knownOpened found undisposed
  obtain ⟨queued, foundQueued, queue, gate, tabsAfter⟩ :=
    Chat.session?_submit foundReady running (.utterance (trim message))
  have isOpen := gate.trans readyGate
  refine ⟨connected, number, queued, ⟨?_, foundQueued, isOpen, ?_⟩, ?_⟩
  · rw [Registry.find?, tabsAfter, tabs]
    exact tab
  · exact (known.gateOpen_eq foundQueued).symm.trans isOpen
  · rw [← sameQueue, queue, readyQueue, Chat.queueOf, found]
    cases taken
    rfl

/-- A message that is turned away closes the gate and asks the user to sign in. -/
theorem Course.message_refused
    (course : Course policy acts chat)
    (brings : command.message? = some (sessionId, message))
    (refused :
      (chat.handle command credential now).result =
        .finished (.ok none)) :
    credential.isConnected = false ∧
      (chat.handle command credential now).outputs =
        [.published ⟨sessionId, .signInFor credential⟩] ∧
      (∀ number,
        (chat.handle command credential now).chat.queueOf number =
          chat.queueOf number) ∧
      ∃ number session,
        (chat.handle command credential now).chat.GateAt
          (acts ++ chat.actsOf command credential now)
          sessionId number session false := by
  have known := (course.handle command credential now).known
  obtain ⟨number, opened, opens⟩ :
      ∃ number opened,
        chat.getOrCreate sessionId now = (number, opened) :=
    ⟨_, _, rfl⟩
  have tab := chat.find?_getOrCreate sessionId now
  have sameQueue := chat.queueOf_getOrCreate sessionId now
  obtain ⟨session, found, -, -⟩ := course.known.looked_up sessionId now
  rw [opens] at tab sameQueue found
  rw [Chat.handle_of_message? brings] at known refused ⊢
  obtain ⟨-, fault, handled⟩ | ⟨unconnected, handled⟩ | ⟨-, handled⟩ :=
    Chat.chatMessage_cases opens message credential
  · rw [handled] at refused
    cases refused
  · rw [handled] at known ⊢
    have foundClosed :
        (opened.update number
            (Session.authChanged false)).registry.session? number =
          some (session.authChanged false) := by
      rw [Chat.session?_update, if_pos rfl, found]
      rfl
    refine ⟨unconnected, rfl, ?_, number, _, tab, foundClosed, rfl, ?_⟩
    · intro other
      rw [Chat.queueOf_authChanged]
      exact sameQueue other
    · exact (known.gateOpen_eq foundClosed).symm
  · rw [handled] at refused
    cases refused

end Messages

/--
The gate holds, and wedges no session.  An utterance is begun only while the gate
of its session is open.  Behind an open gate no job of an open session is held up.
A message that is not blank gets a number exactly if the user is connected.  One
that gets a number finds the gate open, or has it opened, and is at the end of the
queue.  One that is turned away closes the gate, queues nothing and shows the user
one request to sign in.
-/
theorem gate_holds_and_never_wedges
    {policy : PollPolicy}
    {acts : List Act}
    {chat : Chat}
    (course : Course policy acts chat) :
    (∀ number session move after handle text,
        chat.registry.session? number = some session →
        session.move? policy move = some after →
        session.begun? after.1 = some ⟨handle, .utterance text⟩ →
        session.gateOpen = true ∧
          gateAfter false (movesOf number acts) = true) ∧
      (∀ sessionId number session,
        chat.GateAt acts sessionId number session true →
        session.awaiting ≠ [] →
        session.GoesOn policy) ∧
      ∀ command credential now sessionId message,
        command.message? = some (sessionId, message) →
        ∀ handled later,
          handled = chat.handle command credential now →
          later = acts ++ chat.actsOf command credential now →
          ((trim message).isEmpty = false →
              ∃ answer,
                handled.result = .finished (.ok answer) ∧
                  answer.isSome = credential.isConnected) ∧
            (∀ handle,
              handled.result = .finished (.ok (some handle)) →
              credential.isConnected = true ∧
                ∃ number session,
                  handled.chat.GateAt later sessionId number session
                      true ∧
                    session.queue =
                      chat.queueOf number ++
                        [⟨handle, .utterance (trim message)⟩]) ∧
            (handled.result = .finished (.ok none) →
              credential.isConnected = false ∧
                handled.outputs =
                  [.published ⟨sessionId, .signInFor credential⟩] ∧
                (∀ number,
                  handled.chat.queueOf number = chat.queueOf number) ∧
                ∃ number session,
                  handled.chat.GateAt later sessionId number session
                    false) := by
  have known := course.known
  refine ⟨?_, ?_, ?_⟩
  · intro number session move after handle text found moved begun
    have isOpen := Session.begun?_utterance_gateOpen moved begun
    exact ⟨isOpen, (known.gateOpen_eq found).symm.trans isOpen⟩
  · intro sessionId number session gate waits
    obtain ⟨_, found, -, undisposed⟩ := known.at_tab gate.tab
    rw [gate.found] at found
    cases found
    exact Session.goesOn_of_gateOpen policy undisposed
      (known.hasStopped_eq gate.found undisposed) gate.stands waits
  · rintro command credential now sessionId message brings _ _ rfl rfl
    refine ⟨?_, ?_, course.message_refused brings⟩
    · intro notBlank
      exact chat.message_answered brings notBlank credential now
    · intro handle
      exact course.message_taken brings

/--
An utterance is held back, another one is turned away when the connection has
expired and is taken when it holds again, and then the first one is begun.
-/
theorem gate_holds_while_connection_expires :
    ∃ acts chat refused later last session after,
      Course ⟨0, 3⟩ acts chat ∧
        gateAfter false (movesOf 0 acts) = false ∧
        refused =
          chat.handle (.chatMessage "S1" " go ") .expired ⟨2, 0⟩ ∧
        refused.outputs = [.published ⟨"S1", .signInFor .expired⟩] ∧
        Course ⟨0, 3⟩ later last ∧
        last.queueOf 0 = [⟨1, .utterance "go"⟩] ∧
        last.GateAt later "S1" 0 session true ∧
        session.GoesOn ⟨0, 3⟩ ∧
        session.move? ⟨0, 3⟩ (.proceed ⟨"M1", ⟨3, 0⟩⟩ false) =
          some after ∧
        session.begun? after.1 = some ⟨0, .utterance "goal"⟩ ∧
        session.gateOpen = true := by
  let goal : Command := .chatMessage "S1" "goal"
  let go : Command := .chatMessage "S1" " go "
  let signOut : Command := .authChanged none false
  let held : List Act := [.moving 0 (.proceed ⟨"M1", ⟨1, 0⟩⟩ false)]
  have sent := @Course.handle ⟨0, 3⟩ _ _ .start goal .connected ⟨0, 0⟩
  have closed := sent.handle signOut .disconnected ⟨1, 0⟩
  have course := @Course.actAll _ _ held _ _ closed rfl
  have onward := course.handle go .connected ⟨2, 0⟩
  obtain ⟨-, -, messages⟩ := gate_holds_and_never_wedges course
  obtain ⟨begins, goesOn, -⟩ := gate_holds_and_never_wedges onward
  obtain ⟨-, -, refused⟩ :=
    messages go .expired ⟨2, 0⟩ "S1" " go " rfl _ _ rfl rfl
  obtain ⟨-, taken, -⟩ :=
    messages go .connected ⟨2, 0⟩ "S1" " go " rfl _ _ rfl rfl
  obtain ⟨-, outputs, -⟩ := refused rfl
  obtain ⟨-, number, session, gate, queue⟩ := taken 1 rfl
  obtain rfl : 0 = number := Option.some.inj gate.tab
  have found := gate.found
  cases found
  have waits := goesOn "S1" 0 _ gate (List.cons_ne_nil _ _)
  obtain ⟨isOpen, -⟩ :=
    begins 0 _ (.proceed ⟨"M1", ⟨3, 0⟩⟩ false) _ 0 "goal" rfl rfl rfl
  exact ⟨_, _, _, _, _, _, _, course, rfl, rfl, outputs, onward, rfl, gate,
    waits, rfl, rfl, isOpen⟩

end AssessmentChat
