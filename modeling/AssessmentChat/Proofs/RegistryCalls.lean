import AssessmentChat.Proofs.ConversationWellFormed
import AssessmentChat.Proofs.SharedRegistry

namespace AssessmentChat

/-!
# What calls to a registry come back with

No job changes the name of a conversation, so the views of a registry carry the names
of its tabs.  Between two deletions a name leads to one session.  A tab that was
closed and is opened again gets a session in which nothing has been said, and the old
one is disposed of.
-/

/-! ## A session keeps its name -/

namespace Conversation

variable
  {policy : PollPolicy}
  {utterance streamId : String}
  {now : Timestamp}
  {context : Context}
  {engagementId : EngagementId}
  {assessmentId : AssessmentId}
  {deeds : List Deed}
  {next : Conversation}

/-- The end of a plan leaves the conversation its session. -/
theorem PlanEnding.sessionId
    (ending :
      PlanEnding policy context streamId engagementId assessmentId
        deeds next) :
    next.context.sessionId = context.sessionId := by
  cases ending with
  | exhausted | stopped | notCompleted =>
      rfl
  | completed _ _ delivery =>
      cases delivery <;> rfl

/-- The creation of a plan leaves the conversation its session. -/
theorem PlanCreation.sessionId
    (created : PlanCreation policy utterance context deeds next) :
    next.context.sessionId = context.sessionId := by
  cases created with
  | emptyWorkspace | notStarted =>
      rfl
  | started _ start _ ending =>
      cases start
      exact ending.sessionId

/-- The revision of a plan leaves the conversation its session. -/
theorem PlanRevision.sessionId
    (revised : PlanRevision policy utterance context deeds next) :
    next.context.sessionId = context.sessionId := by
  cases revised with
  | nothingToRevise | notUpdated =>
      rfl
  | updated _ _ _ ending =>
      exact ending.sessionId

/-- The discussion of a plan leaves the conversation its session. -/
theorem Discussion.sessionId
    (discussed : Discussion policy utterance context deeds next) :
    next.context.sessionId = context.sessionId := by
  cases discussed with
  | nothingToDiscuss | notUnderstood | notTakenUp | revision | newAnalysis
  | unclear =>
      rfl
  | takenUp _ _ _ ending =>
      cases ending <;> rfl

/-- An utterance leaves the conversation its session. -/
theorem Handling.sessionId
    {conversation : Conversation}
    (handling :
      Handling policy utterance now conversation deeds (.ok next)) :
    next.context.sessionId = conversation.context.sessionId := by
  cases handling with
  | goalTaken | apologised =>
      rfl
  | planCreated created =>
      exact created.sessionId
  | planRevised revised =>
      exact revised.sessionId
  | discussed discussed =>
      exact discussed.sessionId

end Conversation

theorem Turn.Holds.sessionId
    {policy : PollPolicy}
    {earlier : List Move}
    {turn : Turn}
    (holds : turn.Holds policy earlier) :
    turn.after.context.sessionId = turn.before.context.sessionId := by
  rw [Turn.after]
  cases ended : turn.outcome? with
  | none =>
      rfl
  | some outcome =>
      cases outcome with
      | error fault =>
          rfl
      | ok next =>
          have yields := holds.yields ended
          cases job : turn.queued.job with
          | help =>
              rw [job] at yields
              obtain ⟨-, same⟩ :=
                Conversation.carryOut_help_yields yields
              cases same
              rfl
          | utterance text =>
              rw [job] at yields
              exact (Conversation.interact_yields yields).sessionId

/-- Every chronicle leaves the conversation its session. -/
theorem Chronicle.sessionId
    {policy : PollPolicy}
    {first last : Conversation}
    {moves : List Move}
    {turns : List Turn}
    (chronicle : Chronicle policy first moves turns last) :
    last.context.sessionId = first.context.sessionId := by
  induction chronicle with
  | opened =>
      rfl
  | turned _ holds _ inductionHypothesis =>
      exact holds.sessionId.trans inductionHypothesis

/-- The view of a session carries the name under which it was opened. -/
theorem Run.snapshot_sessionId
    {policy : PollPolicy}
    {sessionId : String}
    {now : Timestamp}
    {moves : List Move}
    {outputs : List Output}
    {session : Session}
    (run : Run policy (.fresh sessionId now) moves outputs session) :
    session.snapshot.sessionId = sessionId := by
  obtain ⟨account⟩ := run.account
  have named := account.ledger.chronicle.sessionId
  rw [account.last_eq] at named
  have coherent : session.Coherent := run.coherent
  rw [coherent.view]
  exact named

namespace Registry

variable
  {policy : PollPolicy}
  {log earlier between later : List Entry}
  {registry next last : Registry}
  {entry : Entry}
  {sessionId : String}
  {number : Nat}

/-! ## Between two deletions -/

/-- A call that asks for a session by name comes back with the one that is there then. -/
theorem Fits.find?_of_wanted
    {task : Nat}
    {call : Call}
    (fits :
      Fits policy registry
        (.ended task call (.session (some number))) next)
    (wanted : call.wanted? = some sessionId) :
    next.find? sessionId = some number := by
  generalize shape :
    Entry.ended task call (.session (some number)) = entry at fits
  cases fits with
  | began | moved =>
      cases shape
  | ended =>
      obtain ⟨rfl, rfl, replied⟩ := Entry.ended.inj shape
      cases call with
      | delete | listSessionIds | snapshots =>
          cases wanted
      | get =>
          cases wanted
          exact (Reply.session.inj replied).symm
      | getOrCreate _ now =>
          cases wanted
          simp only [perform, getOrCreate] at replied ⊢
          split at replied
          next found =>
            cases replied
            exact found
          next unknown =>
            cases replied
            exact lookup_insertTab unknown

/-- Only a deletion of its name takes the way to a session away. -/
theorem Fits.find?_kept
    (fits : Fits policy registry entry next)
    (found : registry.find? sessionId = some number)
    (notDeleted : entry.deleted? ≠ some sessionId) :
    next.find? sessionId = some number := by
  cases fits with
  | began =>
      exact found
  | moved moved =>
      obtain ⟨_, -, goesOn⟩ := Option.bind_eq_some_iff.mp moved
      obtain ⟨_, -, rfl⟩ := Option.map_eq_some_iff.mp goesOn
      exact found
  | ended task call =>
      cases call with
      | get | listSessionIds | snapshots =>
          exact found
      | delete deleted =>
          have elsewhere : sessionId ≠ deleted := by
            rintro rfl
            refine notDeleted ?_
            simp [perform, found, Entry.deleted?, Call.deleted?]
          simpa [perform, find?_remove, elsewhere] using found
      | getOrCreate wanted now =>
          simp only [perform, getOrCreate]
          split
          next =>
            exact found
          next unknown =>
            have elsewhere : sessionId ≠ wanted := by
              rintro rfl
              rw [unknown] at found
              cases found
            exact (lookup_insertTab_of_ne elsewhere _ _).trans found

/-- A tab that is not closed is found as it was. -/
theorem InTurn.find?_kept
    (turns : InTurn policy registry between last)
    (found : registry.find? sessionId = some number)
    (notDeleted :
      ∀ entry ∈ between, entry.deleted? ≠ some sessionId) :
    last.find? sessionId = some number := by
  induction turns with
  | done =>
      exact found
  | next fits _ inductionHypothesis =>
      simp only [List.forall_mem_cons] at notDeleted
      exact inductionHypothesis (fits.find?_kept found notDeleted.1)
        notDeleted.2

/-- Between two deletions of a name, all calls that come back with a session agree. -/
theorem InTurn.same_session
    {task otherTask other : Nat}
    {call otherCall : Call}
    (turns : InTurn policy registry log last)
    (recorded :
      log =
        earlier ++ .ended task call (.session (some number)) ::
          (between ++
            .ended otherTask otherCall (.session (some other)) :: later))
    (wanted : call.wanted? = some sessionId)
    (wantedAgain : otherCall.wanted? = some sessionId)
    (notDeleted :
      ∀ entry ∈ between, entry.deleted? ≠ some sessionId) :
    number = other := by
  subst recorded
  obtain ⟨_, -, turns⟩ := turns.split
  cases turns with
  | next first turns =>
      obtain ⟨_, meanwhile, turns⟩ := turns.split
      have found :=
        meanwhile.find?_kept (first.find?_of_wanted wanted) notDeleted
      cases turns with
      | next second _ =>
          have foundStill :=
            second.find?_kept found (by
              cases otherCall <;> simp_all [Call.wanted?, Entry.deleted?,
                Call.deleted?])
          rw [second.find?_of_wanted wantedAgain] at foundStill
          exact (Option.some.inj foundStill).symm

/-! ## Lists of names and views -/

/-- The names that are listed are those that lead to a session. -/
theorem mem_sessionIds_iff
    (registry : Registry)
    (sessionId : String) :
    sessionId ∈ registry.sessionIds ↔
      ∃ number, registry.find? sessionId = some number := by
  constructor
  · intro listed
    obtain ⟨⟨_, number⟩, among, rfl⟩ := List.mem_map.mp listed
    rw [← Option.isSome_iff_exists, Option.isSome_iff_ne_none]
    intro unknown
    have apart := List.lookup_eq_none_iff.mp unknown _ among
    simp at apart
  · rintro ⟨number, found⟩
    exact List.mem_map_of_mem (mem_tabs_of_find? found)

/-- A tab is open exactly if it was given a session that was not deleted since. -/
theorem Tracked.mem_sessionIds
    (tracked : Tracked policy log registry)
    (sessionId : String) :
    sessionId ∈ registry.sessionIds ↔
      ∃ number,
        WasGiven log sessionId number ∧
          ¬ WasDeleted log sessionId number := by
  simp only [mem_sessionIds_iff, tracked.found]

/-- There is a snapshot of every tab, in order. -/
theorem Tracked.snapshots_sessionIds
    (tracked : Tracked policy log registry) :
    registry.snapshots.map SessionSnapshot.sessionId =
      registry.sessionIds := by
  have each (tab : String × Nat) (among : tab ∈ registry.tabs) :
      ∃ session,
        registry.session? tab.2 = some session ∧
          session.snapshot.sessionId = tab.1 := by
    obtain ⟨session, found, named⟩ := tracked.tabs tab.1 tab.2 among
    obtain ⟨now, moves, outputs, run⟩ := tracked.runs tab.2 session found
    exact ⟨session, found, run.snapshot_sessionId.trans named⟩
  have named :
      registry.views.map SessionSnapshot.sessionId = registry.sessionIds := by
    unfold views Registry.sessionIds
    generalize registry.tabs = tabs at each
    induction tabs with
    | nil =>
        rfl
    | cons first rest inductionHypothesis =>
        simp only [List.forall_mem_cons] at each
        obtain ⟨session, found, named⟩ := each.1
        simpa [found, named] using inductionHypothesis each.2
  have ascending : registry.sessionIds.Pairwise (· < ·) := tracked.ascending
  rw [← named, List.pairwise_map] at ascending
  rw [snapshots, List.mergeSort_of_pairwise, named]
  refine ascending.imp ?_
  intro view other before
  exact decide_eq_true (Std.le_of_lt before)

/-- What the replies so far say about a registry that tasks share. -/
structure KeepsAccount (log : List Entry) (registry : Registry) : Prop where
  /-- The names are listed in order, each of them once. -/
  ascending :
    registry.sessionIds.Pairwise (· < ·)
  /-- A name leads to a session that bears it. -/
  named :
    ∀ sessionId number,
      registry.find? sessionId = some number →
      ∃ session,
        registry.session? number = some session ∧
          session.sessionId = sessionId ∧
          session.snapshot.sessionId = sessionId
  /-- A name leads to the session that was given for it and not deleted. -/
  leads :
    ∀ sessionId number,
      registry.find? sessionId = some number ↔
        WasGiven log sessionId number ∧
          ¬ WasDeleted log sessionId number
  /-- A session is opened only for a call that gets it, and leads there until deleted. -/
  opened :
    ∀ number session,
      registry.session? number = some session →
      WasGiven log session.sessionId number ∧
        (registry.find? session.sessionId = some number ∨
          WasDeleted log session.sessionId number)
  /-- Between two deletions of a name, all calls that come back with a session agree. -/
  same :
    ∀ earlier between later task otherTask call otherCall sessionId number
      other,
      log =
        earlier ++ .ended task call (.session (some number)) ::
          (between ++
            .ended otherTask otherCall (.session (some other)) :: later) →
      call.wanted? = some sessionId →
      otherCall.wanted? = some sessionId →
      (∀ entry ∈ between, entry.deleted? ≠ some sessionId) →
      number = other
  /-- Names are listed in order: those given a session that is not deleted by then. -/
  listed :
    ∀ earlier later task names,
      log =
        earlier ++ .ended task .listSessionIds (.sessionIds names) ::
          later →
      names.Pairwise (· < ·) ∧
        ∀ sessionId,
          sessionId ∈ names ↔
            ∃ number,
              WasGiven earlier sessionId number ∧
                ¬ WasDeleted earlier sessionId number
  /-- Views come in the same order, one for each of the same names. -/
  viewed :
    ∀ earlier later task views,
      log =
        earlier ++ .ended task .snapshots (.snapshots views) :: later →
      (views.map SessionSnapshot.sessionId).Pairwise (· < ·) ∧
        ∀ sessionId,
          sessionId ∈ views.map SessionSnapshot.sessionId ↔
            ∃ number,
              WasGiven earlier sessionId number ∧
                ¬ WasDeleted earlier sessionId number

/-- The registry before an entry is known too, and the entry fits it. -/
theorem InTurn.tracked_before
    (turns : InTurn policy .empty log last)
    (recorded : log = earlier ++ entry :: later) :
    ∃ before after,
      Tracked policy earlier before ∧ Fits policy before entry after := by
  subst recorded
  obtain ⟨before, former, latter⟩ := turns.split
  cases latter with
  | @next _ after _ _ _ fits _ =>
      exact ⟨before, after, (Tracked.empty policy).inTurn former, fits⟩

/-- Calls in turn keep account of the tabs. -/
theorem InTurn.keepsAccount
    (turns : InTurn policy .empty log registry) :
    KeepsAccount log registry := by
  have tracked : Tracked policy log registry :=
    (Tracked.empty policy).inTurn turns
  refine ⟨tracked.ascending, ?_, tracked.found, ?_, ?_, ?_, ?_⟩
  · intro sessionId number found
    obtain ⟨session, isThere, rfl⟩ :=
      tracked.tabs sessionId number (mem_tabs_of_find? found)
    obtain ⟨now, moves, outputs, run⟩ := tracked.runs number session isThere
    exact ⟨session, isThere, rfl, run.snapshot_sessionId⟩
  · intro number session isThere
    have given := tracked.given number session isThere
    refine ⟨given, ?_⟩
    rw [tracked.found]
    by_cases deleted : WasDeleted log session.sessionId number
    · exact .inr deleted
    · exact .inl ⟨given, deleted⟩
  · intro earlier between later task otherTask call otherCall sessionId
      number other
    exact turns.same_session
  · intro earlier later task names recorded
    obtain ⟨before, _, known, fits⟩ := turns.tracked_before recorded
    cases fits
    exact ⟨known.ascending, known.mem_sessionIds⟩
  · intro earlier later task views recorded
    obtain ⟨before, _, known, fits⟩ := turns.tracked_before recorded
    cases fits
    rw [known.snapshots_sessionIds]
    exact ⟨known.ascending, known.mem_sessionIds⟩

end Registry

/-! ## Tabs that are opened again -/

/-- The tab whose session a command opens when there is none. -/
def Command.opens? : Command → Option String
  | .chatMessage sessionId message =>
      if (trim message).isEmpty then none else some sessionId
  | .followUpClicked sessionId followUp =>
      if (trim followUp.prompt).isEmpty then none else some sessionId
  | .help sessionId => some sessionId
  | _ => none

/-- A session in which nothing has been said. -/
structure Session.IsNew (sessionId : String) (session : Session) : Prop where
  sessionId : session.sessionId = sessionId
  phase : session.conversation.phase = .awaitingGoal
  traceId : session.conversation.context.traceId = 1
  goal : session.conversation.context.goal = none
  engagementId : session.conversation.context.engagementId = none
  assessmentId : session.conversation.context.assessmentId = none
  interactionId : session.conversation.context.interactionId = none
  apology : session.conversation.context.apology = none
  view : session.snapshot = session.conversation.snapshot false false
  gateOpen : session.gateOpen = true
  undisposed : session.disposed = false
  queue : session.queue = []
  worker : session.worker = .idle

theorem Session.isNew_fresh
    (sessionId : String)
    (now : Timestamp) :
    (Session.fresh sessionId now).IsNew sessionId :=
  ⟨rfl, rfl, rfl, rfl, rfl, rfl, rfl, rfl, rfl, rfl, rfl, rfl, rfl⟩

/-- What a tab that was closed leads to when it has been opened again. -/
structure Chat.Reopened
    (sessionId : String)
    (former : Nat)
    (told : List Act)
    (chat : Chat) : Prop where
  /-- The tab leads to a session that was new when it was told what came with it. -/
  leads :
    ∃ (number : Nat) (session : Session),
      chat.registry.find? sessionId = some number ∧
        number ≠ former ∧
        session.IsNew sessionId ∧
        chat.registry.session? number =
          some (session.heedAll (signalsTo number told))
  disposed :
    ∃ session,
      chat.registry.session? former = some session ∧
        session.disposed = true

namespace Chat

variable {policy : PollPolicy}

/-- Sessions that are only told something heed what they are told. -/
theorem actAll?_telling
    {chat last : Chat}
    {acts : List Act}
    {number : Nat}
    {session : Session}
    (telling : ∀ act ∈ acts, ∃ other signal, act = telling other signal)
    (acted : chat.actAll? policy acts = some last)
    (found : chat.registry.session? number = some session) :
    last.registry.session? number =
      some (session.heedAll (signalsTo number acts)) := by
  induction acts generalizing chat session with
  | nil =>
      cases acted
      exact found
  | cons act rest inductionHypothesis =>
      obtain ⟨next, firstActed, restActed⟩ :=
        Option.bind_eq_some_iff.mp acted
      obtain ⟨other, signal, rfl⟩ := telling act List.mem_cons_self
      have restTelling := fun act among =>
        telling act (List.mem_cons_of_mem _ among)
      simp only [Chat.telling, act?] at firstActed
      split at firstActed
      next =>
        cases firstActed
      next =>
        obtain ⟨before, after, seen, foundBefore, moved, -, sessions⟩ :=
          move?_eq_some firstActed
        have heeded : before.heed signal = (after, seen) :=
          Option.some.inj moved
        have later := sessions number
        rw [signalsTo, movesOf_cons, List.filterMap_append]
        split at later
        next here =>
          subst here
          rw [found] at foundBefore
          cases foundBefore
          simpa [Chat.telling, Act.move?, Move.signal?, signalsTo,
            Session.heedAll, heeded] using
            inductionHypothesis restTelling restActed later
        next elsewhere =>
          simpa [Chat.telling, Act.move?, elsewhere, signalsTo] using
            inductionHypothesis restTelling restActed
              (later.trans found)

/-- A command that opens a tab looks for its session first and only tells it something. -/
theorem actsOf_of_opens?
    {command : Command}
    {sessionId : String}
    (chat : Chat)
    (opens : command.opens? = some sessionId)
    (credential : CredentialState)
    (now : Timestamp) :
    ∃ rest,
      chat.actsOf command credential now =
          .opening sessionId now :: rest ∧
        ∀ act ∈ rest, ∃ other signal, act = telling other signal := by
  have messages (number : Nat) (text : String) (opened : Chat) :
      ∀ act ∈ messageActs number text credential opened,
        ∃ other signal, act = telling other signal := by
    unfold messageActs
    split
    · simp
    · split <;> simp
  cases command with
  | chatMessage tab message =>
      simp only [Command.opens?] at opens
      split at opens
      next =>
        cases opens
      next text =>
        cases opens
        simp only [actsOf, text]
        exact ⟨_, rfl, messages _ _ _⟩
  | followUpClicked tab followUp =>
      simp only [Command.opens?] at opens
      split at opens
      next =>
        cases opens
      next text =>
        cases opens
        simp only [actsOf, text]
        exact ⟨_, rfl, messages _ _ _⟩
  | help tab =>
      cases opens
      exact ⟨_, rfl, by simp⟩
  | stopResponse | tabClosed | authChanged | downloadPlan
  | signInClicked =>
      cases opens

end Chat

/-- A session that was told to stop is there, and it is disposed of. -/
theorem Known.disposed
    {policy : PollPolicy}
    {acts : List Act}
    {chat : Chat}
    {number : Nat}
    (known : Known policy acts chat)
    (told : Move.signal .dispose ∈ movesOf number acts) :
    ∃ session,
      chat.registry.session? number = some session ∧
        session.disposed = true := by
  cases found : chat.registry.session? number with
  | none =>
      rw [known.unopened number found] at told
      cases told
  | some session =>
      obtain ⟨now, outputs, run⟩ := known.runs number session found
      obtain ⟨account⟩ := run.account
      exact ⟨session, rfl, account.disposed_iff.mpr told⟩

/-- A tab that was closed is opened again with a new session. -/
theorem Course.reopened
    {policy : PollPolicy}
    {acts later : List Act}
    {chat last : Chat}
    {sessionId : String}
    {former : Nat}
    {command : Command}
    (course : Course policy acts chat)
    (wasOpen : chat.registry.find? sessionId = some former)
    (closingCredential credential : CredentialState)
    (closingNow now : Timestamp)
    (closed :
      (chat.handle (.tabClosed sessionId) closingCredential
            closingNow).chat.actAll? policy later =
        some last)
    (isClosed : last.registry.find? sessionId = none)
    (opens : command.opens? = some sessionId) :
    (last.handle command credential now).chat.Reopened sessionId former
      (last.actsOf command credential now) := by
  have before :=
    (course.handle (.tabClosed sessionId) closingCredential
      closingNow).actAll closed
  have after := before.handle command credential now
  have acted := before.known.actAll?_actsOf command credential now
  have disposal :
      Move.signal .dispose ∈
        movesOf former
          (acts ++ chat.actsOf (.tabClosed sessionId) closingCredential
            closingNow ++ later) := by
    simp [movesOf, Chat.actsOf, wasOpen, Act.move?]
  obtain ⟨rest, shape, tellings⟩ :=
    last.actsOf_of_opens? opens credential now
  rw [shape] at after acted ⊢
  constructor
  · obtain ⟨_, found, -⟩ | ⟨-, opened⟩ :=
      last.getOrCreate_cases sessionId now
    · rw [isClosed] at found
      cases found
    obtain ⟨_, openingActed, restActed⟩ :=
      Option.bind_eq_some_iff.mp acted
    cases openingActed
    have leads := last.find?_getOrCreate sessionId now
    rw [opened] at leads restActed
    have moving :
        ∀ act ∈ rest, ∃ number move, act = .moving number move := by
      intro act among
      obtain ⟨number, signal, rfl⟩ := tellings act among
      exact ⟨number, _, rfl⟩
    obtain ⟨tabs, -⟩ := Chat.actAll?_moving moving restActed
    obtain ⟨old, isThere, -⟩ := before.known.disposed disposal
    have earlier : former < last.registry.sessions.length :=
      (List.getElem?_eq_some_iff.mp isThere).1
    refine ⟨last.registry.sessions.length, .fresh sessionId now, ?_,
      (Nat.ne_of_lt earlier).symm, Session.isNew_fresh sessionId now, ?_⟩
    · rw [Registry.find?, tabs]
      exact leads
    · have isOpen :
          (last.registry.add (.fresh sessionId now)).session?
              last.registry.sessions.length =
            some (.fresh sessionId now) := by
        rw [Registry.session?_add, if_pos rfl]
      have heeded := Chat.actAll?_telling tellings restActed isOpen
      exact heeded
  · refine after.known.disposed ?_
    rw [movesOf, List.filterMap_append]
    exact List.mem_append_left _ disposal

/-! ## The calls of many tasks -/

/--
However the strokes of tasks that share a registry are interleaved, and whatever its
sessions do meanwhile, the calls come back as if they were made one after another in
the order of their last strokes, each while it was under way.  So the registry keeps
account: a name leads to one session, which bears it, and a session is there from when
it is given until it is deleted.  And a tab that was closed is opened again with a new
session, while the old one is disposed of.
-/
theorem registry_calls_linearizable
    {policy : PollPolicy}
    {log : List Registry.Entry}
    {shared : Registry.Shared}
    (sharing : Registry.Sharing policy log shared) :
    Registry.InTurn policy .empty log shared.registry ∧
      Registry.IsTimely log ∧
      Registry.KeepsAccount log shared.registry ∧
      ∀ {acts later : List Act}
        {chat last : Chat}
        {sessionId : String}
        {former : Nat}
        {command : Command}
        (closingCredential credential : CredentialState)
        (closingNow now : Timestamp),
        Course policy acts chat →
        chat.registry.find? sessionId = some former →
        (chat.handle (.tabClosed sessionId) closingCredential
              closingNow).chat.actAll? policy later =
          some last →
        last.registry.find? sessionId = none →
        command.opens? = some sessionId →
        (last.handle command credential now).chat.Reopened sessionId former
          (last.actsOf command credential now) :=
  ⟨sharing.inTurn, sharing.isTimely, sharing.inTurn.keepsAccount,
    fun closingCredential credential closingNow now course wasOpen closed
        isClosed opens =>
      course.reopened wasOpen closingCredential credential closingNow now
        closed isClosed opens⟩

namespace Registry

/-- What incidents one after another lead to and what is recorded of them. -/
def Shared.meetAll?
    (policy : PollPolicy)
    (shared : Shared) :
    List Incident → Option (Shared × List Entry)
  | [] => some (shared, [])
  | incident :: rest =>
      (shared.meet? policy incident).bind fun (next, recorded) =>
        (next.meetAll? policy rest).map fun (last, later) =>
          (last, recorded ++ later)

/-- Sharing goes on with every series of incidents. -/
theorem Sharing.meetAll
    {policy : PollPolicy}
    {log recorded : List Entry}
    {shared last : Shared}
    {incidents : List Incident}
    (sharing : Sharing policy log shared)
    (met : shared.meetAll? policy incidents = some (last, recorded)) :
    Sharing policy (log ++ recorded) last := by
  induction incidents generalizing log shared recorded with
  | nil =>
      cases met
      simpa using sharing
  | cons incident rest inductionHypothesis =>
      obtain ⟨⟨next, first⟩, firstMet, goesOn⟩ :=
        Option.bind_eq_some_iff.mp met
      obtain ⟨⟨_, later⟩, restMet, same⟩ :=
        Option.map_eq_some_iff.mp goesOn
      cases same
      simpa using
        inductionHypothesis (sharing.incident firstMet) restMet

/-- The task and the reply of a call that has ended. -/
def Entry.reply? : Entry → Option (Nat × Reply)
  | .ended task _ reply => some (task, reply)
  | _ => none

/--
Two tasks look for a session and find none.  One of them opens it, and it is deleted
before the other comes back.
-/
def openedDeletedOpened : List Incident :=
  [.begin 0 (.getOrCreate "tab" ⟨0, 0⟩), .hold 0,
    .begin 1 (.getOrCreate "tab" ⟨1, 0⟩), .hold 1,
    .hold 1,
    .move 0 (.signal (.enqueue ⟨0, .utterance "goal"⟩)),
    .move 0 (.proceed ⟨"M1", ⟨2, 0⟩⟩ false),
    .begin 2 (.delete "tab"), .hold 2,
    .hold 0,
    .begin 1 (.get "tab"), .hold 1,
    .begin 2 .listSessionIds, .hold 2]

end Registry

/--
The second to come back opens a session anew, and whoever asks later gets that one.  A
tab that is closed while its session is busy is opened again by a request for help.
-/
theorem registry_calls_of_three_tasks :
    ∃ log shared chat last,
      Registry.Sharing ⟨0, 3⟩ log shared ∧
        log.filterMap Registry.Entry.reply? =
          [(1, .session (some 0)), (2, .session (some 0)),
            (0, .session (some 1)), (1, .session (some 1)),
            (2, .sessionIds ["tab"])] ∧
        Registry.InTurn ⟨0, 3⟩ .empty log shared.registry ∧
        Registry.IsTimely log ∧
        Registry.KeepsAccount log shared.registry ∧
        Course ⟨0, 3⟩ threeTabs chat ∧
        chat.registry.find? "right" = some 0 ∧
        (chat.handle (.tabClosed "right") .connected ⟨1, 0⟩).chat.actAll?
            ⟨0, 3⟩
            [.moving 0
              (.receive ⟨"M2", ⟨1, 0⟩⟩ .workspaceIsEmpty false)] =
          some last ∧
        last.registry.find? "right" = none ∧
        (last.handle (.help "right") .connected ⟨2, 0⟩).chat.Reopened
          "right" 0 (last.actsOf (.help "right") .connected ⟨2, 0⟩) := by
  have replies :
      (Registry.Shared.empty.meetAll? ⟨0, 3⟩
            Registry.openedDeletedOpened).map
          (fun met => met.2.filterMap Registry.Entry.reply?) =
        some
          [(1, .session (some 0)), (2, .session (some 0)),
            (0, .session (some 1)), (1, .session (some 1)),
            (2, .sessionIds ["tab"])] := by
    decide +kernel
  obtain ⟨⟨shared, log⟩, met, replied⟩ := Option.map_eq_some_iff.mp replies
  have sharing : Registry.Sharing ⟨0, 3⟩ log shared :=
    Registry.Sharing.start.meetAll met
  have conditions :
      ((Chat.empty.actAll? ⟨0, 3⟩ threeTabs).bind fun chat =>
          ((chat.handle (.tabClosed "right") .connected
                ⟨1, 0⟩).chat.actAll? ⟨0, 3⟩
              [.moving 0
                (.receive ⟨"M2", ⟨1, 0⟩⟩ .workspaceIsEmpty false)]).map
            fun last =>
              (chat.registry.find? "right", last.registry.find? "right")) =
        some (some 0, none) := by
    decide +kernel
  obtain ⟨chat, acted, goesOn⟩ := Option.bind_eq_some_iff.mp conditions
  obtain ⟨last, closed, found⟩ := Option.map_eq_some_iff.mp goesOn
  obtain ⟨wasOpen, isClosed⟩ := Prod.mk.inj found
  have course : Course ⟨0, 3⟩ threeTabs chat := Course.actAll .start acted
  obtain ⟨inTurn, timely, account, reopens⟩ :=
    registry_calls_linearizable sharing
  exact ⟨log, shared, chat, last, sharing, replied, inTurn, timely, account,
    course, wasOpen, closed, isClosed,
    reopens .connected .connected ⟨1, 0⟩ ⟨2, 0⟩ course wasOpen closed
      isClosed rfl⟩

end AssessmentChat
