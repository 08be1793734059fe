import AssessmentChat.Proofs.ChatRun
import AssessmentChat.Proofs.Disposal

namespace AssessmentChat

/-!
# What becomes of the sessions of a chat

The session of a tab is opened, a session makes a move, or the session of a tab is
disposed of and the tab is closed: nothing else is ever done to the sessions of a
chat.  A command is some of these acts in order.  Workers go on between any two of
them, for example while a message waits for the user's credentials or while only
some sessions know yet that the user has signed in, so the course of a chat is any
order of acts.

The acts tell what each session has gone through.  Every session makes a run of
its own, and every tab leads to a session of its name that has not been disposed
of.
-/

/-- One thing that is done to the sessions of a chat. -/
inductive Act
  /-- The session of a tab is looked up, and opened when there is none. -/
  | opening (sessionId : String) (now : Timestamp)
  /-- A session gets a signal, or its worker goes on. -/
  | moving (number : Nat) (move : Move)
  /-- The session of a tab is disposed of and the tab is closed. -/
  | closing (sessionId : String) (number : Nat)

/-- What an act is to a session. -/
def Act.move? (number : Nat) : Act → Option Move
  | .opening .. => none
  | .moving mover move => if mover = number then some move else none
  | .closing _ closed =>
      if closed = number then some (.signal .dispose) else none

/-- The moves of a session among the acts of a chat. -/
def movesOf (number : Nat) (acts : List Act) : List Move :=
  acts.filterMap (Act.move? number)

/-- Whether a move disposes of its session. -/
def Move.disposes : Move → Bool
  | .signal .dispose => true
  | _ => false

namespace Chat

/-- What a move of a session does to a chat; a queued job uses up a number. -/
def move?
    (policy : PollPolicy)
    (chat : Chat)
    (number : Nat)
    (move : Move) : Option Chat :=
  (chat.registry.session? number).bind fun session =>
    (session.move? policy move).map fun after =>
      { chat.update number fun _ => after.1 with
        nextHandle := chat.nextHandle + move.queued?.toList.length }

/-- What an act does to a chat, if it is possible. -/
def act? (policy : PollPolicy) (chat : Chat) : Act → Option Chat
  | .opening sessionId now => some (chat.getOrCreate sessionId now).2
  | .moving number move =>
      if move.disposes then none else chat.move? policy number move
  | .closing sessionId number =>
      if chat.registry.find? sessionId = some number then
        (chat.move? policy number (.signal .dispose)).map fun disposed =>
          { disposed with registry := disposed.registry.remove sessionId }
      else none

/-- What acts one after another do to a chat, if they are possible. -/
def actAll? (policy : PollPolicy) (chat : Chat) : List Act → Option Chat
  | [] => some chat
  | act :: rest =>
      (chat.act? policy act).bind fun next => next.actAll? policy rest

/-! ## The acts of a command -/

/-- Tells a session something. -/
def telling (number : Nat) (signal : Signal) : Act :=
  .moving number (.signal signal)

/-- What a message does to its session, which is open. -/
def messageActs
    (number : Nat)
    (text : String)
    (credential : CredentialState)
    (opened : Chat) : List Act :=
  let enqueue := telling number (.enqueue ⟨opened.nextHandle, .utterance text⟩)
  if !credential.isConnected then [telling number (.authChanged false)]
  else if opened.isAuthenticating number then
    [telling number (.authChanged true), enqueue]
  else [enqueue]

/-- What a command does to the sessions of a chat. -/
def actsOf
    (command : Command)
    (credential : CredentialState)
    (now : Timestamp)
    (chat : Chat) : List Act :=
  let message (sessionId text : String) : List Act :=
    if (trim text).isEmpty then []
    else
      let (number, opened) := chat.getOrCreate sessionId now
      .opening sessionId now ::
        messageActs number (trim text) credential opened
  match command with
  | .chatMessage sessionId text => message sessionId text
  | .followUpClicked sessionId followUp => message sessionId followUp.prompt
  | .stopResponse sessionId =>
      (chat.registry.find? sessionId).toList.map (telling · .cancel)
  | .tabClosed sessionId =>
      (chat.registry.find? sessionId).toList.map (.closing sessionId)
  | .authChanged _ authenticated =>
      chat.registry.tabs.map fun (_, number) =>
        telling number (.authChanged authenticated)
  | .help sessionId =>
      let (number, opened) := chat.getOrCreate sessionId now
      [.opening sessionId now,
        telling number (.enqueue ⟨opened.nextHandle, .help⟩)]
  | .downloadPlan .. | .signInClicked .. => []

end Chat

/-- The course of a chat: the acts in it and the chat to which they have led. -/
inductive Course (policy : PollPolicy) : List Act → Chat → Prop where
  | start :
      Course policy [] .empty
  | act
      {acts : List Act}
      {chat next : Chat}
      {act : Act} :
      Course policy acts chat →
      chat.act? policy act = some next →
      Course policy (acts ++ [act]) next

/-- A course goes on with the acts that are possible. -/
theorem Course.actAll
    {policy : PollPolicy}
    {acts later : List Act}
    {chat last : Chat}
    (course : Course policy acts chat)
    (acted : chat.actAll? policy later = some last) :
    Course policy (acts ++ later) last := by
  induction later generalizing acts chat with
  | nil =>
      cases acted
      simpa using course
  | cons act rest inductionHypothesis =>
      obtain ⟨next, firstActed, restActed⟩ :=
        Option.bind_eq_some_iff.mp acted
      simpa using inductionHypothesis (course.act firstActed) restActed

/-! ## Tabs and numbers -/

namespace Registry

theorem mem_insertTab
    {sessionId tab : String}
    {number opened : Nat}
    {tabs : List (String × Nat)} :
    (tab, number) ∈ insertTab sessionId opened tabs ↔
      (tab, number) = (sessionId, opened) ∨ (tab, number) ∈ tabs := by
  induction tabs with
  | nil =>
      simp [insertTab]
  | cons first rest inductionHypothesis =>
      obtain ⟨other, otherNumber⟩ := first
      rw [insertTab]
      split
      · simp
      · rw [List.mem_cons, inductionHypothesis, List.mem_cons]
        exact or_left_comm

theorem lookup_insertTab
    {sessionId : String}
    {opened : Nat}
    {tabs : List (String × Nat)}
    (unknown : tabs.lookup sessionId = none) :
    (insertTab sessionId opened tabs).lookup sessionId = some opened := by
  induction tabs with
  | nil =>
      simp [insertTab]
  | cons first rest inductionHypothesis =>
      rw [insertTab]
      split
      · simp
      · rw [List.lookup_cons] at unknown ⊢
        split at unknown
        · cases unknown
        · exact inductionHypothesis unknown

theorem mem_tabs_of_find?
    {registry : Registry}
    {sessionId : String}
    {number : Nat}
    (found : registry.find? sessionId = some number) :
    (sessionId, number) ∈ registry.tabs := by
  obtain ⟨former, later, tabs, -⟩ := List.lookup_eq_some_iff.mp found
  simp [tabs]

theorem session?_add
    (registry : Registry)
    (session : Session)
    (number : Nat) :
    (registry.add session).session? number =
      if number = registry.sessions.length then some session
      else registry.session? number := by
  simp only [session?, add]
  split
  next last =>
    rw [last, List.getElem?_concat_length]
  next other =>
    simp only [List.getElem?_append]
    split
    · rfl
    · rw [List.getElem?_eq_none (by simp; omega),
        List.getElem?_eq_none (by omega)]

end Registry

namespace Chat

theorem session?_update
    (chat : Chat)
    (number other : Nat)
    (change : Session → Session) :
    (chat.update number change).registry.session? other =
      if number = other then
        (chat.registry.session? other).map change
      else chat.registry.session? other := by
  simp only [update, Registry.update, Registry.session?,
    List.getElem?_modify]
  split
  · rfl
  · simp

/-- To change a session that is known is to replace it. -/
theorem update_eq
    {chat : Chat}
    {number : Nat}
    {session : Session}
    (found : chat.registry.session? number = some session)
    (change : Session → Session) :
    chat.update number change =
      chat.update number fun _ => change session := by
  have same :
      chat.registry.sessions.modify number change =
        chat.registry.sessions.modify number fun _ => change session := by
    apply List.ext_getElem?
    intro position
    rw [List.getElem?_modify, List.getElem?_modify]
    by_cases here : number = position
    · rw [← here]
      rw [Registry.session?] at found
      simp [found]
    · simp [here]
  simp only [update, Registry.update, same]

/-- Looking up the session of a tab opens one, or leaves everything as it is. -/
theorem getOrCreate_cases
    (chat : Chat)
    (sessionId : String)
    (now : Timestamp) :
    (∃ number,
        chat.registry.find? sessionId = some number ∧
          chat.getOrCreate sessionId now = (number, chat)) ∨
      (chat.registry.find? sessionId = none ∧
        chat.getOrCreate sessionId now =
          (chat.registry.sessions.length,
            { chat with
              registry := chat.registry.add (.fresh sessionId now) })) := by
  simp only [getOrCreate, Registry.getOrCreate]
  cases found : chat.registry.find? sessionId with
  | some number =>
      exact .inl ⟨number, rfl, rfl⟩
  | none =>
      exact .inr ⟨rfl, rfl⟩

/-- Afterwards the tab leads to the session. -/
theorem find?_getOrCreate
    (chat : Chat)
    (sessionId : String)
    (now : Timestamp) :
    (chat.getOrCreate sessionId now).2.registry.find? sessionId =
      some (chat.getOrCreate sessionId now).1 := by
  obtain ⟨number, found, opened⟩ | ⟨unknown, opened⟩ :=
    chat.getOrCreate_cases sessionId now
  · rw [opened]
    exact found
  · rw [opened]
    exact Registry.lookup_insertTab unknown

/-- What a move of a session leaves. -/
theorem move?_eq_some
    {policy : PollPolicy}
    {chat after : Chat}
    {number : Nat}
    {move : Move}
    (moved : chat.move? policy number move = some after) :
    ∃ session next seen,
      chat.registry.session? number = some session ∧
        session.move? policy move = some (next, seen) ∧
        after.registry.tabs = chat.registry.tabs ∧
        ∀ other,
          after.registry.session? other =
            if number = other then some next
            else chat.registry.session? other := by
  obtain ⟨session, found, goesOn⟩ := Option.bind_eq_some_iff.mp moved
  obtain ⟨⟨next, seen⟩, sessionMoved, rfl⟩ :=
    Option.map_eq_some_iff.mp goesOn
  refine ⟨session, next, seen, found, sessionMoved, rfl, ?_⟩
  intro other
  refine (chat.session?_update number other _).trans ?_
  split
  next here =>
    rw [← here, found]
    rfl
  next =>
    rfl

/-- A session can be given any signal. -/
theorem move?_signal
    {chat : Chat}
    {number : Nat}
    {session : Session}
    (policy : PollPolicy)
    (found : chat.registry.session? number = some session)
    (signal : Signal) :
    chat.move? policy number (.signal signal) =
      some
        { chat.update number fun session => (session.heed signal).1 with
          nextHandle :=
            chat.nextHandle +
              (Move.signal signal).queued?.toList.length } := by
  rw [update_eq found]
  simp [move?, found, Session.move?]

end Chat

/-! ## What is known of the sessions -/

/-- Only its beginning gives a session its name. -/
theorem Session.move?_sessionId
    {policy : PollPolicy}
    {session : Session}
    {move : Move}
    {after : Session × List Output}
    (moved : session.move? policy move = some after) :
    after.1.sessionId = session.sessionId := by
  cases move with
  | signal signal =>
      cases moved
      exact heed_sessionId session signal
  | proceed | elapse | receive =>
      exact (move?_sameSettings rfl moved).sessionId

/-- Only disposal disposes of a session. -/
theorem Session.move?_undisposed
    {policy : PollPolicy}
    {session : Session}
    {move : Move}
    {after : Session × List Output}
    (undisposed : session.disposed = false)
    (notDisposal : move.disposes = false)
    (moved : session.move? policy move = some after) :
    after.1.disposed = false := by
  cases move with
  | signal signal =>
      cases moved
      rw [heed_disposed, undisposed]
      cases signal <;> first | rfl | cases notDisposal
  | proceed | elapse | receive =>
      exact (move?_sameSettings rfl moved).disposed.trans undisposed

/-- What is known of a chat after some acts. -/
structure Known
    (policy : PollPolicy)
    (acts : List Act)
    (chat : Chat) : Prop where
  /-- Every session makes a run of its own. -/
  runs :
    ∀ number session,
      chat.registry.session? number = some session →
      ∃ now outputs,
        Run policy (.fresh session.sessionId now) (movesOf number acts)
          outputs session
  /-- A session that has not been opened has made no move. -/
  unopened :
    ∀ number,
      chat.registry.session? number = none →
      movesOf number acts = []
  /-- A tab leads to a session of its name that is not disposed of. -/
  tabs :
    ∀ sessionId number,
      (sessionId, number) ∈ chat.registry.tabs →
      ∃ session,
        chat.registry.session? number = some session ∧
          session.sessionId = sessionId ∧
          session.disposed = false

theorem movesOf_snoc
    (number : Nat)
    (acts : List Act)
    (act : Act) :
    movesOf number (acts ++ [act]) =
      movesOf number acts ++ (act.move? number).toList := by
  simp only [movesOf, List.filterMap_append, List.filterMap_cons,
    List.filterMap_nil]
  cases act.move? number <;> rfl

namespace Known

variable
  {policy : PollPolicy}
  {acts : List Act}
  {chat after : Chat}

/-- The session of a tab. -/
theorem at_tab
    (known : Known policy acts chat)
    {sessionId : String}
    {number : Nat}
    (found : chat.registry.find? sessionId = some number) :
    ∃ session,
      chat.registry.session? number = some session ∧
        session.sessionId = sessionId ∧
        session.disposed = false :=
  known.tabs sessionId number (Registry.mem_tabs_of_find? found)

/-- A session that moves goes on with its run. -/
theorem runs_of_move
    (known : Known policy acts chat)
    {act : Act}
    {number : Nat}
    {move : Move}
    (moves :
      ∀ other,
        act.move? other = if number = other then some move else none)
    (moved : chat.move? policy number move = some after) :
    (∀ other session,
        after.registry.session? other = some session →
        ∃ now outputs,
          Run policy (.fresh session.sessionId now)
            (movesOf other (acts ++ [act])) outputs session) ∧
      ∀ other,
        after.registry.session? other = none →
        movesOf other (acts ++ [act]) = [] := by
  obtain ⟨before, next, seen, found, sessionMoved, -, sessions⟩ :=
    Chat.move?_eq_some moved
  simp only [sessions, movesOf_snoc, moves]
  constructor
  · intro other session foundAfter
    split at foundAfter
    next here =>
      cases foundAfter
      obtain ⟨now, outputs, run⟩ :=
        known.runs other before (here ▸ found)
      have goesOn := run.move sessionMoved
      rw [← Session.move?_sessionId sessionMoved] at goesOn
      rw [if_pos here]
      exact ⟨now, _, goesOn⟩
    next elsewhere =>
      rw [if_neg elsewhere, Option.toList_none, List.append_nil]
      exact known.runs other session foundAfter
  · intro other unopened
    split at unopened
    next =>
      cases unopened
    next elsewhere =>
      rw [if_neg elsewhere, Option.toList_none, List.append_nil]
      exact known.unopened other unopened

theorem opening
    (known : Known policy acts chat)
    (sessionId : String)
    (now : Timestamp) :
    Known policy (acts ++ [.opening sessionId now])
      (chat.getOrCreate sessionId now).2 := by
  have same (number : Nat) :
      movesOf number (acts ++ [.opening sessionId now]) =
        movesOf number acts := by
    simp [movesOf_snoc, Act.move?]
  obtain ⟨number, -, opened⟩ | ⟨-, opened⟩ :=
    chat.getOrCreate_cases sessionId now
  · rw [opened]
    refine ⟨?_, ?_, known.tabs⟩
    · simpa only [same] using known.runs
    · simpa only [same] using known.unopened
  rw [opened]
  have fresh :
      movesOf chat.registry.sessions.length acts = [] :=
    known.unopened _ (List.getElem?_eq_none (Nat.le_refl _))
  refine ⟨?_, ?_, ?_⟩
  · intro number session found
    rw [same]
    rw [Registry.session?_add] at found
    split at found
    next last =>
      cases found
      rw [last, fresh]
      exact ⟨now, [], .start⟩
    next =>
      exact known.runs number session found
  · intro number unopened
    rw [same]
    rw [Registry.session?_add] at unopened
    split at unopened
    · cases unopened
    · exact known.unopened number unopened
  · intro tab number among
    rw [Registry.session?_add]
    rcases Registry.mem_insertTab.mp among with added | earlier
    · cases added
      rw [if_pos rfl]
      exact ⟨_, rfl, rfl, rfl⟩
    · obtain ⟨session, found, named, undisposed⟩ :=
        known.tabs tab number earlier
      have inside : number < chat.registry.sessions.length :=
        (List.getElem?_eq_some_iff.mp found).1
      rw [if_neg (Nat.ne_of_lt inside)]
      exact ⟨session, found, named, undisposed⟩

theorem moving
    (known : Known policy acts chat)
    {number : Nat}
    {move : Move}
    (notDisposal : move.disposes = false)
    (moved : chat.move? policy number move = some after) :
    Known policy (acts ++ [.moving number move]) after := by
  obtain ⟨runs, unopened⟩ :=
    @runs_of_move _ _ _ _ known (.moving number move) _ _ (fun _ => rfl)
      moved
  refine ⟨runs, unopened, ?_⟩
  obtain ⟨before, next, seen, found, sessionMoved, tabs, sessions⟩ :=
    Chat.move?_eq_some moved
  intro tab other among
  rw [tabs] at among
  obtain ⟨session, foundOther, named, undisposed⟩ :=
    known.tabs tab other among
  rw [sessions]
  split
  next here =>
    rw [← here, found] at foundOther
    cases foundOther
    exact ⟨next, rfl,
      (Session.move?_sessionId sessionMoved).trans named,
      Session.move?_undisposed undisposed notDisposal sessionMoved⟩
  next =>
    exact ⟨session, foundOther, named, undisposed⟩

/-- The other tabs lead to other sessions, for these have other names. -/
theorem closing
    (known : Known policy acts chat)
    {sessionId : String}
    {number : Nat}
    (found : chat.registry.find? sessionId = some number)
    (moved :
      chat.move? policy number (.signal .dispose) = some after) :
    Known policy (acts ++ [.closing sessionId number])
      { after with registry := after.registry.remove sessionId } := by
  obtain ⟨runs, unopened⟩ :=
    @runs_of_move _ _ _ _ known (.closing sessionId number) _ _
      (fun _ => rfl) moved
  refine ⟨runs, unopened, ?_⟩
  obtain ⟨disposed, _, _, foundDisposed, -, tabs, sessions⟩ :=
    Chat.move?_eq_some moved
  obtain ⟨_, foundSame, namedHere, -⟩ := known.at_tab found
  rw [foundDisposed] at foundSame
  cases foundSame
  intro tab other among
  obtain ⟨among, otherTab⟩ := List.mem_filter.mp among
  rw [tabs] at among
  obtain ⟨session, foundOther, named, undisposed⟩ :=
    known.tabs tab other among
  have elsewhere : number ≠ other := by
    rintro rfl
    rw [foundDisposed] at foundOther
    cases foundOther
    simp [← named, namedHere] at otherTab
  refine ⟨session, ?_, named, undisposed⟩
  exact (sessions other).trans ((if_neg elsewhere).trans foundOther)

end Known

/-- Everything is known of a chat in every course. -/
theorem Course.known
    {policy : PollPolicy}
    {acts : List Act}
    {chat : Chat}
    (course : Course policy acts chat) :
    Known policy acts chat := by
  induction course with
  | start =>
      exact ⟨by simp [Chat.empty, Registry.empty, Registry.session?],
        fun _ _ => rfl, by simp [Chat.empty, Registry.empty]⟩
  | @act acts chat next act _ acted inductionHypothesis =>
      cases act with
      | opening sessionId now =>
          cases acted
          exact inductionHypothesis.opening sessionId now
      | moving number move =>
          simp only [Chat.act?] at acted
          split at acted
          next =>
            cases acted
          next notDisposal =>
            exact inductionHypothesis.moving (by simpa using notDisposal)
              acted
      | closing sessionId number =>
          simp only [Chat.act?] at acted
          split at acted
          next found =>
            obtain ⟨disposed, moved, rfl⟩ :=
              Option.map_eq_some_iff.mp acted
            exact inductionHypothesis.closing found moved
          next =>
            cases acted

/-! ## Commands as acts -/

namespace Chat

variable
  {policy : PollPolicy}
  {chat : Chat}
  {number : Nat}
  {session : Session}

/-- Moving the gate of a session is an act. -/
theorem act?_authChanged
    (found : chat.registry.session? number = some session)
    (authenticated : Bool) :
    chat.act? policy (telling number (.authChanged authenticated)) =
      some (chat.update number (Session.authChanged authenticated)) :=
  move?_signal policy found (.authChanged authenticated)

/-- Queueing a job with the next number is an act. -/
theorem act?_enqueue
    (found : chat.registry.session? number = some session)
    (job : Job) :
    chat.act? policy (telling number (.enqueue ⟨chat.nextHandle, job⟩)) =
      some (chat.enqueue number job).1 := by
  refine (move?_signal policy found _).trans ?_
  rw [update_eq found]
  simp only [enqueue, found]
  rfl

/-- The rest of a message, whose session is open, is what its acts do. -/
theorem actAll?_messageActs
    (found : chat.registry.session? number = some session)
    (text : String)
    (credential : CredentialState) :
    chat.actAll? policy (chat.messageActs number text credential) =
      some
        (if !credential.isConnected then
          chat.update number (Session.authChanged false)
        else if chat.isAuthenticating number then
          ((chat.update number (Session.authChanged true)).enqueue number
            (.utterance text)).1
        else (chat.enqueue number (.utterance text)).1) := by
  unfold messageActs
  split
  · simp [actAll?, act?_authChanged found]
  · split
    · have foundStill :
          (chat.update number
              (Session.authChanged true)).registry.session? number =
            some (session.authChanged true) := by
        rw [session?_update, if_pos rfl, found]
        rfl
      have queued :=
        @act?_enqueue policy _ number _ foundStill (.utterance text)
      simp only [actAll?, act?_authChanged found, Option.bind_some]
      exact Option.bind_eq_some_iff.mpr ⟨_, queued, rfl⟩
    · simp [actAll?, act?_enqueue found]

end Chat

namespace Known

variable
  {policy : PollPolicy}
  {acts : List Act}
  {chat : Chat}

/-- The session that a command looks up is known afterwards. -/
theorem looked_up
    (known : Known policy acts chat)
    (sessionId : String)
    (now : Timestamp) :
    ∃ session,
      (chat.getOrCreate sessionId now).2.registry.session?
          (chat.getOrCreate sessionId now).1 =
        some session ∧
      session.sessionId = sessionId ∧
      session.disposed = false :=
  (known.opening sessionId now).at_tab
    (chat.find?_getOrCreate sessionId now)

/-- The gates of sessions that are known can be moved one after another. -/
theorem actAll?_authChanged
    (authenticated : Bool)
    (numbers : List Nat)
    (each :
      ∀ number ∈ numbers, (chat.registry.session? number).isSome) :
    chat.actAll? policy
        (numbers.map fun number =>
          Chat.telling number (.authChanged authenticated)) =
      some
        (numbers.foldl
          (fun changed number =>
            changed.update number (Session.authChanged authenticated))
          chat) := by
  induction numbers generalizing chat with
  | nil =>
      rfl
  | cons number rest inductionHypothesis =>
      obtain ⟨session, found⟩ :=
        Option.isSome_iff_exists.mp (each number (by simp))
      refine Option.bind_eq_some_iff.mpr
        ⟨_, Chat.act?_authChanged found authenticated, ?_⟩
      refine inductionHypothesis ?_
      intro other among
      have knownBefore := each other (by simp [among])
      rw [Chat.session?_update]
      split
      · simpa using knownBefore
      · exact knownBefore

/-- What a command does to the sessions is what its acts do. -/
theorem actAll?_actsOf
    (known : Known policy acts chat)
    (command : Command)
    (credential : CredentialState)
    (now : Timestamp) :
    chat.actAll? policy (chat.actsOf command credential now) =
      some (chat.handle command credential now).chat := by
  have message (sessionId text : String) :
      chat.actAll? policy
          (chat.actsOf (.chatMessage sessionId text) credential now) =
        some (chat.chatMessage sessionId text credential now).chat := by
    simp only [Chat.actsOf, Chat.chatMessage]
    split
    · rfl
    · obtain ⟨session, found, -, -⟩ := known.looked_up sessionId now
      refine (Chat.actAll?_messageActs found (trim text)
        credential).trans ?_
      split
      · rfl
      · split <;> rfl
  cases command with
  | chatMessage sessionId text =>
      exact message sessionId text
  | followUpClicked sessionId followUp =>
      exact message sessionId followUp.prompt
  | stopResponse sessionId =>
      simp only [Chat.actsOf, Chat.handle, Chat.stopResponse]
      split
      next number found =>
        obtain ⟨session, foundSession, -, -⟩ := known.at_tab found
        rw [found]
        exact Option.bind_eq_some_iff.mpr
          ⟨_, Chat.move?_signal policy foundSession .cancel, rfl⟩
      next unknown =>
        rw [unknown]
        rfl
  | tabClosed sessionId =>
      simp only [Chat.actsOf, Chat.handle, Chat.closeTab]
      split
      next number found =>
        obtain ⟨session, foundSession, -, -⟩ := known.at_tab found
        rw [found]
        refine Option.bind_eq_some_iff.mpr ⟨_, ?_, rfl⟩
        simp only [Chat.act?, found, if_true,
          Chat.move?_signal policy foundSession, Option.map_some]
        rfl
      next unknown =>
        rw [unknown]
        rfl
  | authChanged named authenticated =>
      have each :
          ∀ number ∈ chat.registry.tabs.map Prod.snd,
            (chat.registry.session? number).isSome := by
        intro number among
        obtain ⟨⟨tab, _⟩, isOpen, rfl⟩ := List.mem_map.mp among
        obtain ⟨session, found, -, -⟩ := known.tabs tab _ isOpen
        simp [found]
      have moved := @actAll?_authChanged policy chat authenticated _ each
      rw [List.map_map] at moved
      exact moved
  | help sessionId =>
      obtain ⟨session, found, -, -⟩ := known.looked_up sessionId now
      have queued := @Chat.act?_enqueue policy _ _ _ found .help
      exact Option.bind_eq_some_iff.mpr
        ⟨_, rfl, Option.bind_eq_some_iff.mpr ⟨_, queued, rfl⟩⟩
  | downloadPlan sessionId destination =>
      simp only [Chat.actsOf, Chat.handle, Chat.downloadPlan]
      split <;> rfl
  | signInClicked sessionId signIn =>
      rfl

end Known

/-- A command is part of the course of a chat. -/
theorem Course.handle
    {policy : PollPolicy}
    {acts : List Act}
    {chat : Chat}
    (course : Course policy acts chat)
    (command : Command)
    (credential : CredentialState)
    (now : Timestamp) :
    Course policy (acts ++ chat.actsOf command credential now)
      (chat.handle command credential now).chat :=
  course.actAll (course.known.actAll?_actsOf command credential now)

/-- An act that is part of a command, or that a worker does by itself. -/
inductive Act.IsRegular : Act → Prop where
  | commanded
      {act : Act}
      {command : Command}
      {credential : CredentialState}
      {now : Timestamp}
      {chat : Chat} :
      act ∈ chat.actsOf command credential now →
      act.IsRegular
  | own
      {number : Nat}
      {move : Move} :
      move.isOwn = true →
      (Act.moving number move).IsRegular

/-- So is whatever can happen while a chat is open. -/
theorem Course.follow
    {policy : PollPolicy}
    {acts : List Act}
    {traffic : Traffic}
    {happening : Happening}
    {scene : Scene}
    (course : Course policy acts traffic.chat)
    (own :
      ∀ number move,
        happening = .session number move →
        move.isOwn = true)
    (followed : traffic.follow? policy happening = some scene) :
    ∃ later,
      (∀ act ∈ later, act.IsRegular) ∧
        Course policy (acts ++ later) scene.traffic.chat := by
  cases happening with
  | command command credential moment =>
      have handled := course.handle command credential moment.now
      cases followed
      unfold Traffic.obey
      dsimp only
      split <;> exact ⟨_, fun _ => .commanded, handled⟩
  | session number move =>
      obtain ⟨session, found, goesOn⟩ :=
        Option.bind_eq_some_iff.mp followed
      obtain ⟨after, moved, rfl⟩ := Option.map_eq_some_iff.mp goesOn
      have isOwn := own number move rfl
      have acted :
          traffic.chat.act? policy (.moving number move) =
            some (traffic.chat.update number fun _ => after.1) := by
        cases move with
        | signal signal =>
            cases isOwn
        | proceed | elapse | receive =>
            simp [Chat.act?, Chat.move?, Move.disposes, Move.queued?,
              found, moved, Chat.update]
      refine ⟨_, fun act among => ?_, course.act acted⟩
      rw [List.mem_singleton.mp among]
      exact .own isOwn
  | reply number moment request answer =>
      obtain ⟨saving, -, goesOn⟩ := Option.bind_eq_some_iff.mp followed
      obtain ⟨stretch, -, rfl⟩ := Option.map_eq_some_iff.mp goesOn
      exact ⟨[], List.forall_mem_nil _, by simpa using course⟩

end AssessmentChat
