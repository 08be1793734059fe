import AssessmentChat.Proofs.AuthenticationGate
import AssessmentChat.Proofs.OwnPart
import Mathlib.Data.String.Basic

namespace AssessmentChat

/-!
# Signing in and out

When the user has signed in or out, every open session gets to know it, one after
another in the order of the names of their tabs.  Whatever a session is doing, its
gate is moved and the flag of its view with it; all else of it stays.  Each tab leads
to a session of its own, so no session is told twice.

Workers go on between any two of these signals.  No worker moves a gate, and none is
told anything else, so a gate stands as it was told to whatever they do meanwhile.
-/

/-- The signal that a move gives. -/
def Move.signal? : Move → Option Signal
  | .signal told => some told
  | _ => none

/-- Whether an act is done by a worker of its own accord. -/
def Act.isOwn : Act → Bool
  | .moving _ move => move.isOwn
  | _ => false

/-- The signals that a session gets in some acts. -/
def signalsTo (number : Nat) (acts : List Act) : List Signal :=
  (movesOf number acts).filterMap Move.signal?

/-- A session before and after it learns whether the user is signed in. -/
structure Session.Learns
    (authenticated : Bool)
    (session told : Session) : Prop where
  gateOpen : told.gateOpen = authenticated
  view :
    told.snapshot =
      { session.snapshot with isAuthenticating := !authenticated }
  sessionId : told.sessionId = session.sessionId
  conversation : told.conversation = session.conversation
  queue : told.queue = session.queue
  running : told.running = session.running
  disposed : told.disposed = session.disposed
  worker : told.worker = session.worker

namespace Chat

/-- A chat before and after its open sessions learn whether the user is signed in. -/
structure Learns
    (authenticated : Bool)
    (chat told : Chat) : Prop where
  tabs : told.registry.tabs = chat.registry.tabs
  /-- None is opened. -/
  sessions :
    told.registry.sessions.length = chat.registry.sessions.length
  nextHandle : told.nextHandle = chat.nextHandle
  opened :
    ∀ sessionId number,
      chat.registry.find? sessionId = some number →
      ∃ before after,
        chat.registry.session? number = some before ∧
          told.registry.session? number = some after ∧
          before.Learns authenticated after
  /-- A session whose tab has been closed is left alone. -/
  closed :
    ∀ number,
      (∀ sessionId, chat.registry.find? sessionId ≠ some number) →
      told.registry.session? number = chat.registry.session? number

/--
A chat after some acts in which each open session got one signal, that the user has
signed in or out.
-/
structure HasLearnt
    (authenticated : Bool)
    (chat : Chat)
    (acts : List Act)
    (last : Chat) : Prop where
  tabs : last.registry.tabs = chat.registry.tabs
  sessions :
    last.registry.sessions.length = chat.registry.sessions.length
  opened :
    ∀ sessionId number,
      chat.registry.find? sessionId = some number →
      signalsTo number acts = [.authChanged authenticated] ∧
        ∃ session,
          last.registry.session? number = some session ∧
            session.gateOpen = authenticated ∧
            session.snapshot.isAuthenticating = !authenticated
  closed :
    ∀ number,
      (∀ sessionId, chat.registry.find? sessionId ≠ some number) →
      signalsTo number acts = []

end Chat

/-! ## The order of the tabs -/

namespace Registry

/-- Whether the names of the tabs ascend. -/
def IsAscending (registry : Registry) : Prop :=
  registry.sessionIds.Pairwise (· < ·)

/-- A new tab comes where its name belongs. -/
theorem pairwise_insertTab
    {sessionId : String}
    (number : Nat)
    {tabs : List (String × Nat)}
    (unknown : tabs.lookup sessionId = none)
    (ascending : (tabs.map Prod.fst).Pairwise (· < ·)) :
    ((insertTab sessionId number tabs).map Prod.fst).Pairwise (· < ·) := by
  induction tabs with
  | nil =>
      exact List.pairwise_singleton _ _
  | cons first rest inductionHypothesis =>
      obtain ⟨other, otherNumber⟩ := first
      obtain ⟨least, ascendingRest⟩ := List.pairwise_cons.mp ascending
      rw [insertTab]
      split
      next before =>
        refine List.pairwise_cons.mpr ⟨?_, ascending⟩
        intro tab among
        rcases List.mem_cons.mp among with rfl | among
        · exact before
        · exact lt_trans before (least tab among)
      next notBefore =>
        rw [List.lookup_cons] at unknown
        split at unknown
        next =>
          cases unknown
        next different =>
          have otherName : other ≠ sessionId := by
            rintro rfl
            simp at different
          have after : other < sessionId :=
            lt_of_le_of_ne (not_lt.mp notBefore) otherName
          refine List.pairwise_cons.mpr
            ⟨?_, inductionHypothesis unknown ascendingRest⟩
          intro tab among
          obtain ⟨⟨name, tabNumber⟩, inserted, rfl⟩ := List.mem_map.mp among
          rcases mem_insertTab.mp inserted with added | earlier
          · cases added
            exact after
          · exact least _ (List.mem_map_of_mem earlier)

theorem IsAscending.remove
    {registry : Registry}
    (ascending : registry.IsAscending)
    (sessionId : String) :
    (registry.remove sessionId).IsAscending :=
  List.Pairwise.sublist (List.filter_sublist.map Prod.fst) ascending

/-- A tab that leads somewhere is found there. -/
theorem EachOnce.find?_of_mem
    {registry : Registry}
    (once : registry.EachOnce)
    {sessionId : String}
    {number : Nat}
    (among : (sessionId, number) ∈ registry.tabs) :
    registry.find? sessionId = some number := by
  have kept :
      (sessionId, number) ∈ registry.tabs.filter (isTab sessionId) :=
    List.mem_filter.mpr ⟨among, by simp [isTab]⟩
  rw [once sessionId] at kept
  simpa using kept

end Registry

/-- The names of the tabs ascend at every moment. -/
theorem Course.isAscending
    {policy : PollPolicy}
    {acts : List Act}
    {chat : Chat}
    (course : Course policy acts chat) :
    chat.registry.IsAscending := by
  induction course with
  | start =>
      exact List.Pairwise.nil
  | @act acts chat next act _ acted ascending =>
      cases act with
      | opening sessionId now =>
          cases acted
          obtain ⟨number, -, opened⟩ | ⟨unknown, opened⟩ :=
            chat.getOrCreate_cases sessionId now
          · rw [opened]
            exact ascending
          · rw [opened]
            exact Registry.pairwise_insertTab _ unknown ascending
      | moving number move =>
          simp only [Chat.act?] at acted
          split at acted
          next =>
            cases acted
          next =>
            obtain ⟨_, _, _, -, -, tabs, -⟩ := Chat.move?_eq_some acted
            rwa [Registry.IsAscending, Registry.sessionIds, tabs]
      | closing sessionId number =>
          simp only [Chat.act?] at acted
          split at acted
          next =>
            obtain ⟨disposed, moved, rfl⟩ := Option.map_eq_some_iff.mp acted
            obtain ⟨_, _, _, -, -, tabs, -⟩ := Chat.move?_eq_some moved
            have ascendingStill : disposed.registry.IsAscending := by
              rwa [Registry.IsAscending, Registry.sessionIds, tabs]
            exact ascendingStill.remove sessionId
          next =>
            cases acted

section Tabs

variable
  {policy : PollPolicy}
  {acts : List Act}
  {chat : Chat}

/-- The tabs that are listed are those that lead somewhere. -/
theorem Course.mem_sessionIds
    (course : Course policy acts chat)
    (sessionId : String) :
    sessionId ∈ chat.registry.sessionIds ↔
      (chat.registry.find? sessionId).isSome := by
  constructor
  · intro listed
    obtain ⟨⟨_, number⟩, among, rfl⟩ := List.mem_map.mp listed
    rw [course.eachOnce.find?_of_mem among]
    rfl
  · intro leads
    obtain ⟨number, found⟩ := Option.isSome_iff_exists.mp leads
    exact List.mem_map_of_mem (Registry.mem_tabs_of_find? found)

/-- No two tabs lead to the same session. -/
theorem Course.nodup_numbers
    (course : Course policy acts chat) :
    (chat.registry.tabs.map Prod.snd).Nodup := by
  have ascending := course.isAscending
  rw [Registry.IsAscending, Registry.sessionIds, List.pairwise_map]
    at ascending
  refine List.pairwise_map.mpr (ascending.imp_of_mem ?_)
  rintro ⟨tab, number⟩ ⟨other, otherNumber⟩ among otherAmong before same
  obtain ⟨session, found, named, -⟩ := course.known.tabs tab number among
  obtain ⟨otherSession, otherFound, otherNamed, -⟩ :=
    course.known.tabs other otherNumber otherAmong
  dsimp only at before same
  rw [same, otherFound] at found
  cases found
  rw [← named, ← otherNamed] at before
  exact lt_irrefl _ before

/-- The sessions to which tabs lead are the open ones. -/
theorem Course.mem_numbers
    (course : Course policy acts chat)
    (number : Nat) :
    number ∈ chat.registry.tabs.map Prod.snd ↔
      ∃ sessionId, chat.registry.find? sessionId = some number := by
  constructor
  · intro leads
    obtain ⟨⟨sessionId, _⟩, among, rfl⟩ := List.mem_map.mp leads
    exact ⟨sessionId, course.eachOnce.find?_of_mem among⟩
  · rintro ⟨sessionId, found⟩
    exact List.mem_map_of_mem (Registry.mem_tabs_of_find? found)

end Tabs

/-! ## Telling one session after another -/

namespace Chat

/-- The chat with some sessions changed one after another. -/
def updateEach
    (numbers : List Nat)
    (change : Session → Session)
    (chat : Chat) : Chat :=
  numbers.foldl (fun changed number => changed.update number change) chat

theorem updateEach_tabs
    (numbers : List Nat)
    (change : Session → Session)
    (chat : Chat) :
    (chat.updateEach numbers change).registry.tabs =
      chat.registry.tabs := by
  induction numbers generalizing chat with
  | nil =>
      rfl
  | cons number rest inductionHypothesis =>
      exact inductionHypothesis _

theorem updateEach_nextHandle
    (numbers : List Nat)
    (change : Session → Session)
    (chat : Chat) :
    (chat.updateEach numbers change).nextHandle = chat.nextHandle := by
  induction numbers generalizing chat with
  | nil =>
      rfl
  | cons number rest inductionHypothesis =>
      exact inductionHypothesis _

theorem length_updateEach
    (numbers : List Nat)
    (change : Session → Session)
    (chat : Chat) :
    (chat.updateEach numbers change).registry.sessions.length =
      chat.registry.sessions.length := by
  induction numbers generalizing chat with
  | nil =>
      rfl
  | cons number rest inductionHypothesis =>
      exact (inductionHypothesis _).trans (List.length_modify ..)

/-- A session that is among them once is changed once. -/
theorem session?_updateEach
    {numbers : List Nat}
    (once : numbers.Nodup)
    (change : Session → Session)
    (chat : Chat)
    (other : Nat) :
    (chat.updateEach numbers change).registry.session? other =
      if other ∈ numbers then (chat.registry.session? other).map change
      else chat.registry.session? other := by
  induction numbers generalizing chat with
  | nil =>
      rfl
  | cons number rest inductionHypothesis =>
      obtain ⟨notLater, onceRest⟩ := List.nodup_cons.mp once
      have later := inductionHypothesis onceRest (chat.update number change)
      rw [session?_update] at later
      refine later.trans ?_
      by_cases here : number = other
      · subst here
        simp [notLater]
      · simp [here, Ne.symm here]

end Chat

/-- All that a session learns is where its gate stands. -/
theorem Session.learns_authChanged
    (session : Session)
    (authenticated : Bool) :
    session.Learns authenticated (session.authChanged authenticated) :=
  ⟨rfl, rfl, rfl, rfl, rfl, rfl, rfl, rfl⟩

/-- Every open session of a chat gets to know, and no other changes. -/
theorem Course.learns
    {policy : PollPolicy}
    {acts : List Act}
    {chat : Chat}
    (course : Course policy acts chat)
    (named : Option String)
    (authenticated : Bool)
    (credential : CredentialState)
    (now : Timestamp) :
    chat.Learns authenticated
      (chat.handle (.authChanged named authenticated) credential now).chat := by
  let numbers := chat.registry.tabs.map Prod.snd
  let change := Session.authChanged authenticated
  have sessions :=
    Chat.session?_updateEach course.nodup_numbers change chat
  refine
    ⟨chat.updateEach_tabs numbers change,
      chat.length_updateEach numbers change,
      chat.updateEach_nextHandle numbers change, ?_, ?_⟩
  · intro sessionId number found
    obtain ⟨session, foundSession, -, -⟩ := course.known.at_tab found
    have isOpen : number ∈ numbers :=
      (course.mem_numbers number).mpr ⟨sessionId, found⟩
    refine ⟨session, _, foundSession, ?_,
      session.learns_authChanged authenticated⟩
    refine (sessions number).trans ?_
    rw [if_pos isOpen, foundSession]
    rfl
  · intro number closed
    refine (sessions number).trans (if_neg ?_)
    intro among
    obtain ⟨sessionId, found⟩ := (course.mem_numbers number).mp among
    exact closed sessionId found

/-! ## Workers that go on meanwhile -/

theorem movesOf_cons
    (number : Nat)
    (act : Act)
    (acts : List Act) :
    movesOf number (act :: acts) =
      (act.move? number).toList ++ movesOf number acts := by
  rw [movesOf, List.filterMap_cons]
  cases act.move? number <;> rfl

/-- What workers do of their own accord gives no session a signal. -/
theorem signalsTo_filter
    (number : Nat)
    (acts : List Act) :
    signalsTo number (acts.filter fun act => !act.isOwn) =
      signalsTo number acts := by
  induction acts with
  | nil =>
      rfl
  | cons act rest inductionHypothesis =>
      unfold signalsTo at inductionHypothesis ⊢
      rw [movesOf_cons, List.filterMap_append, ← inductionHypothesis,
        List.filter_cons]
      split
      · rw [movesOf_cons, List.filterMap_append]
      next own =>
        cases act with
        | moving mover move =>
            cases move with
            | signal => simp [Act.isOwn, Move.isOwn] at own
            | proceed | elapse | receive =>
                simp only [Act.move?]
                split <;> rfl
        | opening | closing =>
            simp [Act.isOwn] at own

/-- Sessions that are told one after another are told once. -/
theorem signalsTo_telling
    {numbers : List Nat}
    (once : numbers.Nodup)
    (signal : Signal)
    (number : Nat) :
    signalsTo number (numbers.map (Chat.telling · signal)) =
      if number ∈ numbers then [signal] else [] := by
  induction numbers with
  | nil =>
      rfl
  | cons first rest inductionHypothesis =>
      obtain ⟨notLater, onceRest⟩ := List.nodup_cons.mp once
      have later := inductionHypothesis onceRest
      unfold signalsTo at later ⊢
      rw [List.map_cons, movesOf_cons, List.filterMap_append, later]
      by_cases here : first = number
      · subst here
        simp [Chat.telling, Act.move?, Move.signal?, notLater]
      · simp [Chat.telling, Act.move?, here, Ne.symm here]

/-- A gate that is moved once stands as it was moved. -/
theorem gateAfter_of_signalled
    {isAuthenticating authenticated : Bool}
    (moves : List Move)
    {later : List Move}
    (signalled :
      later.filterMap Move.signal? = [.authChanged authenticated]) :
    gateAfter isAuthenticating (moves ++ later) = authenticated := by
  have gates :
      later.filterMap Move.gate? =
        (later.filterMap Move.signal?).filterMap fun signal =>
          (Move.signal signal).gate? := by
    rw [List.filterMap_filterMap]
    refine List.filterMap_congr fun move _ => ?_
    cases move <;> rfl
  rw [gateAfter, List.filterMap_append, gates, signalled]
  simp [Move.gate?]

/-- Moves of sessions take no tab away and open none. -/
theorem Chat.actAll?_moving
    {policy : PollPolicy}
    {chat last : Chat}
    {acts : List Act}
    (moving : ∀ act ∈ acts, ∃ number move, act = .moving number move)
    (acted : chat.actAll? policy acts = some last) :
    last.registry.tabs = chat.registry.tabs ∧
      last.registry.sessions.length = chat.registry.sessions.length := by
  induction acts generalizing chat with
  | nil =>
      cases acted
      exact ⟨rfl, rfl⟩
  | cons act rest inductionHypothesis =>
      obtain ⟨next, firstActed, restActed⟩ :=
        Option.bind_eq_some_iff.mp acted
      obtain ⟨number, move, rfl⟩ := moving act List.mem_cons_self
      obtain ⟨tabs, sessions⟩ :=
        inductionHypothesis
          (fun other among => moving other (List.mem_cons_of_mem _ among))
          restActed
      simp only [act?] at firstActed
      split at firstActed
      next =>
        cases firstActed
      next =>
        obtain ⟨session, found, goesOn⟩ :=
          Option.bind_eq_some_iff.mp firstActed
        obtain ⟨after, -, rfl⟩ := Option.map_eq_some_iff.mp goesOn
        exact ⟨tabs, sessions.trans (List.length_modify ..)⟩

/-- Whatever workers do meanwhile, every open session learns it, and is told once. -/
theorem Course.hasLearnt
    {policy : PollPolicy}
    {acts later : List Act}
    {chat last : Chat}
    (course : Course policy acts chat)
    {named : Option String}
    {authenticated : Bool}
    {credential : CredentialState}
    {now : Timestamp}
    (commanded :
      (later.filter fun act => !act.isOwn) =
        chat.actsOf (.authChanged named authenticated) credential now)
    (acted : chat.actAll? policy later = some last) :
    chat.HasLearnt authenticated later last := by
  let numbers := chat.registry.tabs.map Prod.snd
  let signal : Signal := .authChanged authenticated
  have told :
      (later.filter fun act => !act.isOwn) =
        numbers.map (Chat.telling · signal) := by
    rw [commanded, List.map_map]
    rfl
  have moving :
      ∀ act ∈ later, ∃ number move, act = .moving number move := by
    intro act among
    cases own : act.isOwn with
    | true =>
        cases act with
        | moving number move => exact ⟨number, move, rfl⟩
        | opening | closing => cases own
    | false =>
        have commandedAct : act ∈ numbers.map (Chat.telling · signal) := by
          rw [← told]
          exact List.mem_filter.mpr ⟨among, by simp [own]⟩
        obtain ⟨number, -, rfl⟩ := List.mem_map.mp commandedAct
        exact ⟨number, _, rfl⟩
  have signals (number : Nat) :
      signalsTo number later =
        if number ∈ numbers then [signal] else [] := by
    rw [← signalsTo_filter, told, signalsTo_telling course.nodup_numbers]
  obtain ⟨tabs, sessions⟩ := Chat.actAll?_moving moving acted
  refine ⟨tabs, sessions, ?_, ?_⟩
  · intro sessionId number found
    have isOpen : number ∈ numbers :=
      (course.mem_numbers number).mpr ⟨sessionId, found⟩
    have signalled := (signals number).trans (if_pos isOpen)
    have known := (course.actAll acted).known
    have foundLast : last.registry.find? sessionId = some number := by
      rw [Registry.find?, tabs]
      exact found
    obtain ⟨session, foundSession, -, -⟩ := known.at_tab foundLast
    have gate : session.gateOpen = authenticated := by
      rw [known.gateOpen_eq foundSession, movesOf, List.filterMap_append]
      exact gateAfter_of_signalled _ signalled
    have view := known.isAuthenticating_eq foundSession
    rw [Chat.isAuthenticating, foundSession, Option.any_some, gate] at view
    exact ⟨signalled, session, foundSession, gate, view⟩
  · intro number closed
    refine (signals number).trans (if_neg ?_)
    intro among
    obtain ⟨sessionId, found⟩ := (course.mem_numbers number).mp among
    exact closed sessionId found

/-- To be told the same again moves no gate. -/
theorem Chat.Learns.again
    {authenticated : Bool}
    {chat told toldAgain : Chat}
    (learns : chat.Learns authenticated told)
    (learnsAgain : told.Learns authenticated toldAgain)
    (number : Nat) :
    (toldAgain.registry.session? number).map Session.gateOpen =
      (told.registry.session? number).map Session.gateOpen := by
  have sameTabs (sessionId : String) :
      told.registry.find? sessionId = chat.registry.find? sessionId := by
    rw [Registry.find?, Registry.find?, learns.tabs]
  by_cases isOpen :
      ∃ sessionId, told.registry.find? sessionId = some number
  · obtain ⟨sessionId, found⟩ := isOpen
    obtain ⟨_, session, -, foundTold, firstTime⟩ :=
      learns.opened sessionId number ((sameTabs sessionId).symm.trans found)
    obtain ⟨_, after, -, foundAgain, secondTime⟩ :=
      learnsAgain.opened sessionId number found
    rw [foundTold, foundAgain, Option.map_some, Option.map_some,
      firstTime.gateOpen, secondTime.gateOpen]
  · rw [learnsAgain.closed number fun sessionId found =>
      isOpen ⟨sessionId, found⟩]

/--
When the user has signed in or out, every open session learns it exactly once: its
gate and its view say so afterwards, and nothing else of it changes, in whatever
condition it is and whatever tab the command names.  There is one notice for each
open session, in the strictly ascending order of their names.  To handle the same
command again moves no gate.  And if workers go on between the signals, each open
session still gets that signal, once and no other.
-/
theorem auth_change_reaches_every_session
    {policy : PollPolicy}
    {acts : List Act}
    {chat : Chat}
    (course : Course policy acts chat)
    (named : Option String)
    (authenticated : Bool)
    (credential : CredentialState)
    (now : Timestamp) :
    let handled :=
      chat.handle (.authChanged named authenticated) credential now
    chat.Learns authenticated handled.chat ∧
      chat.registry.sessionIds.Pairwise (· < ·) ∧
      (∀ sessionId,
        sessionId ∈ chat.registry.sessionIds ↔
          (chat.registry.find? sessionId).isSome) ∧
      handled.outputs =
        (chat.registry.sessionIds.map fun sessionId =>
          .published ⟨sessionId,
            if authenticated then .inputEnabled true
            else .signInNeeded credential.signIn credential.prompt⟩) ∧
      handled.result = .finished (.ok none) ∧
      (∀ otherNamed otherCredential later number,
        ((handled.chat.handle (.authChanged otherNamed authenticated)
                otherCredential later).chat.registry.session?
            number).map Session.gateOpen =
          (handled.chat.registry.session? number).map
            Session.gateOpen) ∧
      ∀ later last,
        (later.filter fun act => !act.isOwn) =
          chat.actsOf (.authChanged named authenticated) credential now →
        chat.actAll? policy later = some last →
        chat.HasLearnt authenticated later last := by
  have learns := course.learns named authenticated credential now
  have handledCourse :=
    course.handle (.authChanged named authenticated) credential now
  refine ⟨learns, course.isAscending, course.mem_sessionIds, rfl, rfl, ?_,
    fun later last => course.hasLearnt⟩
  intro otherNamed otherCredential later number
  exact learns.again
    (handledCourse.learns otherNamed authenticated otherCredential later)
    number

/-- A tab whose session is busy, one whose session rests, and one that is held back. -/
def threeTabs : List Act :=
  let moment : Moment := ⟨"M1", ⟨0, 0⟩⟩
  [.opening "right" ⟨0, 0⟩,
    Chat.telling 0 (.enqueue ⟨0, .utterance "goal"⟩),
    .moving 0 (.proceed moment false),
    Chat.telling 0 (.enqueue ⟨1, .utterance "go"⟩),
    .moving 0 (.proceed moment false),
    Chat.telling 0 (.enqueue ⟨2, .help⟩),
    .opening "left" ⟨0, 0⟩,
    .opening "middle" ⟨0, 0⟩,
    Chat.telling 2 (.enqueue ⟨3, .utterance "goal"⟩),
    Chat.telling 2 (.authChanged false),
    .moving 2 (.proceed moment false)]

/--
A busy session, one at rest and one that holds an utterance back learn that the user
has signed in.  If the one that was held back goes on before the last of them is told,
each is still told once.
-/
theorem auth_change_reaches_three_sessions :
    ∃ chat last later handled,
      Course ⟨0, 3⟩ threeTabs chat ∧
        chat.registry.tabs = [("left", 1), ("middle", 2), ("right", 0)] ∧
        (chat.registry.sessions.map fun session =>
            (session.isInteracting, session.gateOpen,
              session.awaiting.length)) =
          [(true, true, 1), (false, true, 0), (false, false, 1)] ∧
        handled =
          chat.handle (.authChanged (some "left") true) .connected ⟨1, 0⟩ ∧
        chat.Learns true handled.chat ∧
        handled.outputs =
          [.published ⟨"left", .inputEnabled true⟩,
            .published ⟨"middle", .inputEnabled true⟩,
            .published ⟨"right", .inputEnabled true⟩] ∧
        later =
          [Chat.telling 1 (.authChanged true),
            Chat.telling 2 (.authChanged true),
            .moving 2 (.proceed ⟨"M2", ⟨1, 0⟩⟩ false),
            Chat.telling 0 (.authChanged true)] ∧
        chat.actAll? ⟨0, 3⟩ later = some last ∧
        chat.HasLearnt true later last := by
  let later : List Act :=
    [Chat.telling 1 (.authChanged true),
      Chat.telling 2 (.authChanged true),
      .moving 2 (.proceed ⟨"M2", ⟨1, 0⟩⟩ false),
      Chat.telling 0 (.authChanged true)]
  have conditions :
      (Chat.empty.actAll? ⟨0, 3⟩ threeTabs).map
          (fun chat =>
            (chat.registry.tabs,
              chat.registry.sessions.map fun session =>
                (session.isInteracting, session.gateOpen,
                  session.awaiting.length))) =
        some
          ([("left", 1), ("middle", 2), ("right", 0)],
            [(true, true, 1), (false, true, 0), (false, false, 1)]) := by
    decide +kernel
  have goesOn :
      ((Chat.empty.actAll? ⟨0, 3⟩ threeTabs).bind
          (Chat.actAll? ⟨0, 3⟩ · later)).isSome = true := by
    decide +kernel
  obtain ⟨chat, hasActed, described⟩ := Option.map_eq_some_iff.mp conditions
  obtain ⟨tabs, sessions⟩ := Prod.mk.inj described
  rw [hasActed] at goesOn
  obtain ⟨last, acted⟩ := Option.isSome_iff_exists.mp goesOn
  have course : Course ⟨0, 3⟩ threeTabs chat :=
    Course.actAll .start hasActed
  obtain ⟨learns, -, -, outputs, -, -, meanwhile⟩ :=
    auth_change_reaches_every_session course (some "left") true .connected
      ⟨1, 0⟩
  have commanded :
      (later.filter fun act => !act.isOwn) =
        chat.actsOf (.authChanged (some "left") true) .connected ⟨1, 0⟩ := by
    rw [Chat.actsOf, tabs]
    rfl
  rw [Registry.sessionIds, tabs] at outputs
  exact ⟨chat, last, later, _, course, tabs, sessions, rfl, learns, outputs,
    rfl, acted, meanwhile later last commanded acted⟩

end AssessmentChat
