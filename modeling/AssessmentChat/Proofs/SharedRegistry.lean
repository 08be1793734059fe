import AssessmentChat.Proofs.SigningInAndOut

namespace AssessmentChat

/-!
# A registry that tasks share

A task holds the registry's lock for one stroke at a time.  Most calls need it once.
To get a session or create it, a task first looks for it and lets the lock go; if it
has found none, it comes back, and by then others may have opened the session, closed
it or both.  So it looks again before it opens one.

Every call takes effect at the last stroke for which it holds the lock: made one after
another in that order, each in one go, the calls come back with the same replies and
leave the same registry.  What the registry holds is then read off the replies.
-/

namespace Registry

/-- A call that a task makes. -/
inductive Call
  | getOrCreate (sessionId : String) (now : Timestamp)
  | get (sessionId : String)
  | delete (sessionId : String)
  | listSessionIds
  | snapshots

/-- What a call comes back with. -/
inductive Reply
  /-- The number of a session, if there was one. -/
  | session (number : Option Nat)
  | sessionIds (names : List String)
  | snapshots (views : List SessionSnapshot)
deriving DecidableEq

/-- The name of the session that a call asks for. -/
def Call.wanted? : Call → Option String
  | .getOrCreate sessionId _ | .get sessionId => some sessionId
  | _ => none

/-- The name of the session that a call deletes. -/
def Call.deleted? : Call → Option String
  | .delete sessionId => some sessionId
  | _ => none

/-- A call that is made in one go. -/
def perform (registry : Registry) : Call → Registry × Reply
  | .getOrCreate sessionId now =>
      let (number, opened) := registry.getOrCreate sessionId now
      (opened, .session (some number))
  | .get sessionId => (registry, .session (registry.find? sessionId))
  | .delete sessionId =>
      (registry.remove sessionId, .session (registry.find? sessionId))
  | .listSessionIds => (registry, .sessionIds registry.sessionIds)
  | .snapshots => (registry, .snapshots registry.snapshots)

/-- What a move of a session does to a registry. -/
def move?
    (policy : PollPolicy)
    (registry : Registry)
    (number : Nat)
    (move : Move) : Option Registry :=
  (registry.session? number).bind fun session =>
    (session.move? policy move).map fun after =>
      registry.update number fun _ => after.1

/-! ## Tasks -/

/-- Where a task stands with its call. -/
inductive Task
  | idle
  /-- Has not held the lock yet. -/
  | calling (call : Call)
  /-- Has found no session of the name, and is to open one. -/
  | returning (sessionId : String) (now : Timestamp)

/-- The call that a task is making. -/
def Task.call? : Task → Option Call
  | .idle => none
  | .calling call => some call
  | .returning sessionId now => some (.getOrCreate sessionId now)

/-- What a task has done when it lets the lock go. -/
structure Stroke where
  registry : Registry
  task : Task
  /-- The call that is over, with its reply. -/
  ended : Option (Call × Reply)

/-- A task does the last of a call while it holds the lock. -/
def Task.finish (call : Call) (registry : Registry) : Stroke :=
  let (after, reply) := registry.perform call
  ⟨after, .idle, some (call, reply)⟩

/-- What a task does while it holds the lock. -/
def Task.hold? (registry : Registry) : Task → Option Stroke
  | .idle => none
  | .calling (.getOrCreate sessionId now) =>
      match registry.find? sessionId with
      | some number =>
          some ⟨registry, .idle,
            some (.getOrCreate sessionId now, .session (some number))⟩
      | none => some ⟨registry, .returning sessionId now, none⟩
  | .calling call => some (finish call registry)
  | .returning sessionId now =>
      some (finish (.getOrCreate sessionId now) registry)

/-- A registry and the tasks that share it, as many as there are numbers. -/
structure Shared where
  registry : Registry
  tasks : Nat → Task

/-- No session, and no task that calls. -/
def Shared.empty : Shared :=
  ⟨.empty, fun _ => .idle⟩

/-- The tasks with one of them changed. -/
def Shared.setTask
    (tasks : Nat → Task)
    (task : Nat)
    (standing : Task) : Nat → Task :=
  fun other => if other = task then standing else tasks other

/-- What can happen to a registry that tasks share. -/
inductive Incident
  /-- A task begins a call. -/
  | begin (task : Nat) (call : Call)
  /-- A task gets the lock, and lets it go again. -/
  | hold (task : Nat)
  /-- A session gets a signal, or its worker goes on. -/
  | move (number : Nat) (move : Move)

/-- What is recorded of the calls and the sessions. -/
inductive Entry
  | began (task : Nat) (call : Call)
  /-- A task has held the lock for the last time of its call. -/
  | ended (task : Nat) (call : Call) (reply : Reply)
  | moved (number : Nat) (move : Move)

/-- The task of an entry. -/
def Entry.task? : Entry → Option Nat
  | .began task _ | .ended task _ _ => some task
  | .moved .. => none

/-- The name of the session that is deleted by the call of an entry, if it was there. -/
def Entry.deleted? : Entry → Option String
  | .ended _ call (.session (some _)) => call.deleted?
  | _ => none

/-- What an incident leads to and what is recorded of it, if it is possible. -/
def Shared.meet?
    (policy : PollPolicy)
    (shared : Shared) :
    Incident → Option (Shared × List Entry)
  | .begin task call =>
      match shared.tasks task with
      | .idle =>
          some
            ({ shared with
                tasks := setTask shared.tasks task (.calling call) },
              [.began task call])
      | _ => none
  | .hold task =>
      ((shared.tasks task).hold? shared.registry).map fun stroke =>
        (⟨stroke.registry, setTask shared.tasks task stroke.task⟩,
          stroke.ended.toList.map fun (call, reply) =>
            .ended task call reply)
  | .move number move =>
      (shared.registry.move? policy number move).map fun registry =>
        ({ shared with registry }, [.moved number move])

/-- A registry that tasks have shared: what was recorded and what has come of it. -/
inductive Sharing (policy : PollPolicy) : List Entry → Shared → Prop where
  | start :
      Sharing policy [] .empty
  | incident
      {log recorded : List Entry}
      {shared next : Shared}
      {incident : Incident} :
      Sharing policy log shared →
      shared.meet? policy incident = some (next, recorded) →
      Sharing policy (log ++ recorded) next

/-! ## Calls one after another -/

/-- What an entry says is what happens when its call is made in one go. -/
inductive Fits (policy : PollPolicy) : Registry → Entry → Registry → Prop where
  | began
      (registry : Registry)
      (task : Nat)
      (call : Call) :
      Fits policy registry (.began task call) registry
  | ended
      (registry : Registry)
      (task : Nat)
      (call : Call) :
      Fits policy registry
        (.ended task call (registry.perform call).2)
        (registry.perform call).1
  | moved
      {registry next : Registry}
      {number : Nat}
      {move : Move} :
      registry.move? policy number move = some next →
      Fits policy registry (.moved number move) next

/-- Calls are made one after another, each in one go. -/
inductive InTurn
    (policy : PollPolicy) :
    Registry → List Entry → Registry → Prop where
  | done
      (registry : Registry) :
      InTurn policy registry [] registry
  | next
      {registry middle last : Registry}
      {entry : Entry}
      {rest : List Entry} :
      Fits policy registry entry middle →
      InTurn policy middle rest last →
      InTurn policy registry (entry :: rest) last

namespace InTurn

variable
  {policy : PollPolicy}
  {registry middle last : Registry}
  {earlier later : List Entry}

/-- Calls in turn are so after others in turn. -/
theorem append
    (former : InTurn policy registry earlier middle)
    (latter : InTurn policy middle later last) :
    InTurn policy registry (earlier ++ later) last := by
  induction former with
  | done =>
      exact latter
  | next fits _ inductionHypothesis =>
      exact .next fits (inductionHypothesis latter)

/-- Calls in turn are so up to every point, and from there on. -/
theorem split
    (turns : InTurn policy registry (earlier ++ later) last) :
    ∃ middle,
      InTurn policy registry earlier middle ∧
        InTurn policy middle later last := by
  induction earlier generalizing registry with
  | nil =>
      exact ⟨registry, .done registry, turns⟩
  | cons entry rest inductionHypothesis =>
      cases turns with
      | next fits turns =>
          obtain ⟨middle, former, latter⟩ := inductionHypothesis turns
          exact ⟨middle, .next fits former, latter⟩

end InTurn

/-- A task that lets the lock go has made its call in one go, or has done nothing. -/
theorem Task.hold?_cases
    {registry : Registry}
    {task : Task}
    {stroke : Stroke}
    (held : task.hold? registry = some stroke) :
    (∃ call,
        task.call? = some call ∧
          stroke =
            ⟨(registry.perform call).1, .idle,
              some (call, (registry.perform call).2)⟩) ∨
      (stroke.registry = registry ∧
        stroke.ended = none ∧
        stroke.task.call? = task.call?) := by
  cases task with
  | idle =>
      cases held
  | returning sessionId now =>
      cases held
      exact .inl ⟨_, rfl, rfl⟩
  | calling call =>
      cases call with
      | get | delete | listSessionIds | snapshots =>
          cases held
          exact .inl ⟨_, rfl, rfl⟩
      | getOrCreate sessionId now =>
          simp only [hold?] at held
          split at held
          next number found =>
            cases held
            exact .inl ⟨_, rfl, by simp [perform, getOrCreate, found]⟩
          next =>
            cases held
            exact .inr ⟨rfl, rfl, rfl⟩

/-- What tasks do to a registry is what their calls do one after another. -/
theorem Sharing.inTurn
    {policy : PollPolicy}
    {log : List Entry}
    {shared : Shared}
    (sharing : Sharing policy log shared) :
    InTurn policy .empty log shared.registry := by
  induction sharing with
  | start =>
      exact .done .empty
  | @incident log recorded shared next incident _ met
      inductionHypothesis =>
      refine inductionHypothesis.append ?_
      cases incident with
      | begin task call =>
          simp only [Shared.meet?] at met
          split at met
          · cases met
            exact .next (.began _ task call) (.done _)
          · cases met
      | hold task =>
          obtain ⟨stroke, held, same⟩ := Option.map_eq_some_iff.mp met
          cases same
          obtain ⟨call, -, rfl⟩ | ⟨unchanged, nothing, -⟩ :=
            Task.hold?_cases held
          · exact .next (.ended _ task call) (.done _)
          · rw [unchanged, nothing]
            exact .done _
      | move number move =>
          obtain ⟨registry, moved, same⟩ := Option.map_eq_some_iff.mp met
          cases same
          exact .next (.moved moved) (.done _)

/-- A call that is being made has begun, and its task has done nothing since. -/
def IsUnderWay (log : List Entry) (task : Nat) (call : Call) : Prop :=
  ∃ earlier later,
    log = earlier ++ .began task call :: later ∧
      ∀ entry ∈ later, entry.task? ≠ some task

/-- A call stays under way while others have their turn. -/
theorem IsUnderWay.append
    {log recorded : List Entry}
    {task : Nat}
    {call : Call}
    (underWay : IsUnderWay log task call)
    (others : ∀ entry ∈ recorded, entry.task? ≠ some task) :
    IsUnderWay (log ++ recorded) task call := by
  obtain ⟨earlier, later, rfl, nothing⟩ := underWay
  refine ⟨earlier, later ++ recorded, by simp, ?_⟩
  simpa [or_imp, forall_and] using ⟨nothing, others⟩

/-- The call that a task has is under way. -/
theorem Sharing.isUnderWay
    {policy : PollPolicy}
    {log : List Entry}
    {shared : Shared}
    (sharing : Sharing policy log shared) :
    ∀ task call,
      (shared.tasks task).call? = some call →
      IsUnderWay log task call := by
  induction sharing with
  | start =>
      intro task call calls
      cases calls
  | @incident log recorded shared next incident _ met
      inductionHypothesis =>
      intro task call calls
      cases incident with
      | begin beginner begun =>
          simp only [Shared.meet?] at met
          split at met
          next =>
            cases met
            simp only [Shared.setTask] at calls
            split at calls
            next here =>
              cases calls
              exact ⟨log, [], by simp [here], by simp⟩
            next elsewhere =>
              refine (inductionHypothesis task call calls).append ?_
              simpa [Entry.task?] using Ne.symm elsewhere
          next =>
            cases met
      | hold holder =>
          obtain ⟨stroke, held, same⟩ := Option.map_eq_some_iff.mp met
          cases same
          simp only [Shared.setTask] at calls
          split at calls
          next here =>
            subst here
            obtain ⟨ended, -, rfl⟩ | ⟨-, nothing, same⟩ :=
              Task.hold?_cases held
            · cases calls
            · rw [same] at calls
              simpa [nothing] using inductionHypothesis task call calls
          next elsewhere =>
            refine (inductionHypothesis task call calls).append ?_
            intro entry among
            obtain ⟨⟨_, _⟩, -, rfl⟩ := List.mem_map.mp among
            simpa [Entry.task?] using Ne.symm elsewhere
      | move number move =>
          obtain ⟨registry, -, same⟩ := Option.map_eq_some_iff.mp met
          cases same
          refine (inductionHypothesis task call calls).append ?_
          simp [Entry.task?]

/-- Every call that has ended was under way until then. -/
def IsTimely (log : List Entry) : Prop :=
  ∀ earlier task call reply later,
    log = earlier ++ .ended task call reply :: later →
    IsUnderWay earlier task call

/-- A log stays timely with an end of what is under way. -/
theorem IsTimely.snoc
    {log : List Entry}
    {entry : Entry}
    (timely : IsTimely log)
    (underWay :
      ∀ task call reply,
        entry = .ended task call reply →
        IsUnderWay log task call) :
    IsTimely (log ++ [entry]) := by
  intro earlier task call reply later shape
  rcases List.eq_nil_or_concat later with rfl | ⟨between, last, rfl⟩
  · obtain ⟨rfl, same⟩ := List.append_inj' shape rfl
    exact underWay task call reply (List.singleton_inj.mp same)
  · have shape' :
        log ++ [entry] =
          (earlier ++ .ended task call reply :: between) ++ [last] := by
      simpa using shape
    exact timely earlier task call reply between
      (List.append_inj' shape' rfl).1

/-- The log of shared calls is timely. -/
theorem Sharing.isTimely
    {policy : PollPolicy}
    {log : List Entry}
    {shared : Shared}
    (sharing : Sharing policy log shared) :
    IsTimely log := by
  induction sharing with
  | start =>
      intro earlier task call reply later shape
      simp at shape
  | @incident log recorded shared next incident sharing met
      inductionHypothesis =>
      cases incident with
      | begin task call =>
          simp only [Shared.meet?] at met
          split at met
          · cases met
            exact inductionHypothesis.snoc nofun
          · cases met
      | hold task =>
          obtain ⟨stroke, held, same⟩ := Option.map_eq_some_iff.mp met
          cases same
          obtain ⟨call, calls, rfl⟩ | ⟨-, nothing, -⟩ :=
            Task.hold?_cases held
          · refine inductionHypothesis.snoc ?_
            intro _ _ _ same
            cases same
            exact sharing.isUnderWay task call calls
          · simpa [nothing] using inductionHypothesis
      | move number move =>
          obtain ⟨registry, -, same⟩ := Option.map_eq_some_iff.mp met
          cases same
          exact inductionHypothesis.snoc nofun

/-! ## What the replies say about the registry -/

/-- Whether a call that creates a session came back with one of some name. -/
def WasGiven (log : List Entry) (sessionId : String) (number : Nat) : Prop :=
  ∃ task now,
    .ended task (.getOrCreate sessionId now) (.session (some number)) ∈ log

/-- Whether a call that deletes a session came back with it. -/
def WasDeleted (log : List Entry) (sessionId : String) (number : Nat) : Prop :=
  ∃ task, .ended task (.delete sessionId) (.session (some number)) ∈ log

/-- What the replies so far say about a registry. -/
structure Tracked
    (policy : PollPolicy)
    (log : List Entry)
    (registry : Registry) : Prop where
  ascending : registry.IsAscending
  /-- Every session makes a run of its own. -/
  runs :
    ∀ number session,
      registry.session? number = some session →
      ∃ now moves outputs,
        Run policy (.fresh session.sessionId now) moves outputs session
  tabs :
    ∀ sessionId number,
      (sessionId, number) ∈ registry.tabs →
      ∃ session,
        registry.session? number = some session ∧
          session.sessionId = sessionId
  /-- A session is only ever opened for a call that comes back with it. -/
  given :
    ∀ number session,
      registry.session? number = some session →
      WasGiven log session.sessionId number
  /-- The sessions that are there are those given and not deleted. -/
  found :
    ∀ sessionId number,
      registry.find? sessionId = some number ↔
        WasGiven log sessionId number ∧
          ¬ WasDeleted log sessionId number
  deleted :
    ∀ sessionId number,
      WasDeleted log sessionId number →
      WasGiven log sessionId number
  known :
    ∀ sessionId number,
      WasGiven log sessionId number →
      (registry.session? number).isSome

theorem wasGiven_snoc
    {log : List Entry}
    {entry : Entry}
    {sessionId : String}
    {number : Nat} :
    WasGiven (log ++ [entry]) sessionId number ↔
      WasGiven log sessionId number ∨
        ∃ task now,
          entry =
            .ended task (.getOrCreate sessionId now)
              (.session (some number)) := by
  simp [WasGiven, exists_or, eq_comm]

theorem wasDeleted_snoc
    {log : List Entry}
    {entry : Entry}
    {sessionId : String}
    {number : Nat} :
    WasDeleted (log ++ [entry]) sessionId number ↔
      WasDeleted log sessionId number ∨
        ∃ task,
          entry =
            .ended task (.delete sessionId) (.session (some number)) := by
  simp [WasDeleted, exists_or, eq_comm]

namespace Tracked

variable
  {policy : PollPolicy}
  {log : List Entry}
  {registry next : Registry}
  {entry : Entry}

theorem empty
    (policy : PollPolicy) :
    Tracked policy [] .empty := by
  refine ⟨List.Pairwise.nil, ?_, ?_, ?_, ?_, ?_, ?_⟩ <;>
    simp [Registry.empty, session?, find?, WasGiven, WasDeleted]

/-- Only the sessions that were given and deleted matter. -/
theorem congr
    {other : List Entry}
    (tracked : Tracked policy log registry)
    (given :
      ∀ sessionId number,
        WasGiven other sessionId number ↔ WasGiven log sessionId number)
    (deleted :
      ∀ sessionId number,
        WasDeleted other sessionId number ↔
          WasDeleted log sessionId number) :
    Tracked policy other registry := by
  refine ⟨tracked.ascending, tracked.runs, tracked.tabs, ?_, ?_, ?_, ?_⟩
  · simpa only [given] using tracked.given
  · simpa only [given, deleted] using tracked.found
  · simpa only [given, deleted] using tracked.deleted
  · simpa only [given] using tracked.known

/-- An entry by which no session is given or deleted says nothing new. -/
theorem quiet
    (tracked : Tracked policy log registry)
    (givesNothing :
      ∀ task sessionId now number,
        entry ≠
          .ended task (.getOrCreate sessionId now) (.session (some number)))
    (deletesNothing :
      ∀ task sessionId number,
        entry ≠ .ended task (.delete sessionId) (.session (some number))) :
    Tracked policy (log ++ [entry]) registry := by
  refine tracked.congr ?_ ?_
  · simp [wasGiven_snoc, givesNothing]
  · simp [wasDeleted_snoc, deletesNothing]

/-- A session that moves goes on with its run, and the tabs stay. -/
theorem move
    (tracked : Tracked policy log registry)
    {number : Nat}
    {move : Move}
    (moved : registry.move? policy number move = some next) :
    Tracked policy log next := by
  obtain ⟨session, found, goesOn⟩ := Option.bind_eq_some_iff.mp moved
  obtain ⟨⟨after, seen⟩, sessionMoved, rfl⟩ :=
    Option.map_eq_some_iff.mp goesOn
  have named := Session.move?_sessionId sessionMoved
  have sessions (other : Nat) :
      (registry.update number fun _ => after).session? other =
        if number = other then some after else registry.session? other := by
    simp only [update, session?, List.getElem?_modify]
    rw [session?] at found
    split
    next here =>
      simp [← here, found]
    next =>
      simp
  refine ⟨tracked.ascending, ?_, ?_, ?_, tracked.found, tracked.deleted,
    ?_⟩
  · intro other present isPresent
    rw [sessions] at isPresent
    split at isPresent
    next =>
      cases isPresent
      obtain ⟨now, moves, outputs, run⟩ :=
        tracked.runs number session found
      rw [named]
      exact ⟨now, _, _, run.move sessionMoved⟩
    next =>
      exact tracked.runs other present isPresent
  · intro sessionId other among
    obtain ⟨present, isPresent, same⟩ :=
      tracked.tabs sessionId other among
    rw [sessions]
    split
    next here =>
      rw [← here, found] at isPresent
      cases isPresent
      exact ⟨after, rfl, named.trans same⟩
    next =>
      exact ⟨present, isPresent, same⟩
  · intro other present isPresent
    rw [sessions] at isPresent
    split at isPresent
    next here =>
      cases isPresent
      rw [named, ← here]
      exact tracked.given number session found
    next =>
      exact tracked.given other present isPresent
  · intro sessionId other given
    rw [sessions]
    split
    · rfl
    · exact tracked.known sessionId other given

/-- The session that a call deletes is the one that its name led to. -/
theorem delete
    (tracked : Tracked policy log registry)
    (task : Nat)
    (sessionId : String) :
    Tracked policy
      (log ++
        [.ended task (.delete sessionId)
          (.session (registry.find? sessionId))])
      (registry.remove sessionId) := by
  generalize leads : registry.find? sessionId = former
  have given {tab : String} {number : Nat} :
      WasGiven
          (log ++ [.ended task (.delete sessionId) (.session former)])
          tab number ↔
        WasGiven log tab number := by
    simp [wasGiven_snoc]
  have deleted {tab : String} {number : Nat} :
      WasDeleted
          (log ++ [.ended task (.delete sessionId) (.session former)])
          tab number ↔
        WasDeleted log tab number ∨
          sessionId = tab ∧ former = some number := by
    simp [wasDeleted_snoc]
  have sessions (number : Nat) :
      (registry.remove sessionId).session? number =
        registry.session? number :=
    rfl
  refine ⟨tracked.ascending.remove sessionId, tracked.runs, ?_, ?_, ?_, ?_,
    ?_⟩
  · intro tab number among
    exact tracked.tabs tab number (List.mem_filter.mp among).1
  · simpa only [given, sessions] using tracked.given
  · intro tab number
    rw [given, deleted, find?_remove]
    have found := tracked.found tab number
    split
    next here =>
      subst here
      simp only [reduceCtorEq, false_iff, not_and, not_not, true_and]
      intro wasGiven
      by_cases before : WasDeleted log tab number
      · exact .inl before
      · exact .inr (leads.symm.trans (found.mpr ⟨wasGiven, before⟩))
    next elsewhere =>
      simpa [Ne.symm elsewhere] using found
  · intro tab number wasDeleted
    rw [given]
    rcases deleted.mp wasDeleted with before | ⟨rfl, rfl⟩
    · exact tracked.deleted tab number before
    · exact ((tracked.found sessionId number).mp leads).1
  · simpa only [given, sessions] using tracked.known

/-- A call that is to create a session may find one, which stays as it is. -/
theorem find
    (tracked : Tracked policy log registry)
    (task : Nat)
    {sessionId : String}
    (now : Timestamp)
    {number : Nat}
    (leads : registry.find? sessionId = some number) :
    Tracked policy
      (log ++
        [.ended task (.getOrCreate sessionId now) (.session (some number))])
      registry := by
  have already := ((tracked.found sessionId number).mp leads).1
  refine tracked.congr ?_ ?_
  · intro tab other
    rw [wasGiven_snoc, or_iff_left_iff_imp]
    rintro ⟨_, _, same⟩
    cases same
    exact already
  · simp [wasDeleted_snoc]

/-- Otherwise a session is opened, under a number that was never given before. -/
theorem create
    (tracked : Tracked policy log registry)
    (task : Nat)
    {sessionId : String}
    (now : Timestamp)
    (unknown : registry.find? sessionId = none) :
    Tracked policy
      (log ++
        [.ended task (.getOrCreate sessionId now)
          (.session (some registry.sessions.length))])
      (registry.add (.fresh sessionId now)) := by
  let number := registry.sessions.length
  have unopened : registry.session? number = none :=
    List.getElem?_eq_none (Nat.le_refl _)
  have neverGiven (tab : String) : ¬ WasGiven log tab number := by
    intro wasGiven
    have known := tracked.known tab number wasGiven
    rw [unopened] at known
    cases known
  have given {tab : String} {other : Nat} :
      WasGiven
          (log ++
            [.ended task (.getOrCreate sessionId now)
              (.session (some number))])
          tab other ↔
        WasGiven log tab other ∨ sessionId = tab ∧ number = other := by
    simp [wasGiven_snoc]
  have deleted {tab : String} {other : Nat} :
      WasDeleted
          (log ++
            [.ended task (.getOrCreate sessionId now)
              (.session (some number))])
          tab other ↔
        WasDeleted log tab other := by
    simp [wasDeleted_snoc]
  have apart {other : Nat} {present : Session}
      (isPresent : registry.session? other = some present) :
      other ≠ number := by
    rintro rfl
    rw [unopened] at isPresent
    cases isPresent
  refine ⟨pairwise_insertTab _ unknown tracked.ascending, ?_, ?_, ?_, ?_,
    ?_, ?_⟩
  · intro other present isPresent
    rw [session?_add] at isPresent
    split at isPresent
    next =>
      cases isPresent
      exact ⟨now, [], [], .start⟩
    next =>
      exact tracked.runs other present isPresent
  · intro tab other among
    rw [session?_add]
    rcases mem_insertTab.mp among with added | before
    · cases added
      rw [if_pos rfl]
      exact ⟨_, rfl, rfl⟩
    · obtain ⟨present, isPresent, same⟩ := tracked.tabs tab other before
      rw [if_neg (apart isPresent)]
      exact ⟨present, isPresent, same⟩
  · intro other present isPresent
    rw [session?_add] at isPresent
    rw [given]
    split at isPresent
    next last =>
      cases isPresent
      exact .inr ⟨rfl, last.symm⟩
    next =>
      exact .inl (tracked.given other present isPresent)
  · intro tab other
    have found := tracked.found tab other
    rw [given, deleted]
    by_cases here : tab = sessionId
    · subst here
      have leads :
          (registry.add (.fresh tab now)).find? tab = some number :=
        lookup_insertTab unknown
      rw [unknown] at found
      rw [leads]
      simp only [reduceCtorEq, false_iff, not_and, not_not] at found
      constructor
      · intro same
        cases same
        exact ⟨.inr ⟨rfl, rfl⟩, fun wasDeleted =>
          neverGiven _ (tracked.deleted _ _ wasDeleted)⟩
      · rintro ⟨wasGiven | ⟨-, rfl⟩, notDeleted⟩
        · exact absurd (found wasGiven) notDeleted
        · rfl
    · have leads :
          (registry.add (.fresh sessionId now)).find? tab =
            registry.find? tab :=
        lookup_insertTab_of_ne here _ _
      rw [leads]
      simpa [Ne.symm here] using found
  · intro tab other wasDeleted
    exact given.mpr (.inl (tracked.deleted tab other (deleted.mp wasDeleted)))
  · intro tab other wasGiven
    rw [session?_add]
    split
    next =>
      rfl
    next elsewhere =>
      rcases given.mp wasGiven with before | ⟨-, same⟩
      · exact tracked.known tab other before
      · exact absurd same.symm elsewhere

/-- Whatever a registry goes through is found in the replies. -/
theorem fits
    (tracked : Tracked policy log registry)
    (fits : Fits policy registry entry next) :
    Tracked policy (log ++ [entry]) next := by
  cases fits with
  | began task call =>
      exact tracked.quiet nofun nofun
  | moved moved =>
      exact (tracked.move moved).quiet nofun nofun
  | ended task call =>
      cases call with
      | get | listSessionIds | snapshots =>
          exact tracked.quiet nofun nofun
      | delete sessionId =>
          exact tracked.delete task sessionId
      | getOrCreate sessionId now =>
          cases leads : registry.find? sessionId with
          | some number =>
              simpa [perform, getOrCreate, leads] using
                tracked.find task now leads
          | none =>
              simpa [perform, getOrCreate, leads] using
                tracked.create task now leads

/-- An account goes on with calls in turn. -/
theorem inTurn
    {later : List Entry}
    {last : Registry}
    (tracked : Tracked policy log registry)
    (turns : InTurn policy registry later last) :
    Tracked policy (log ++ later) last := by
  induction turns generalizing log with
  | done =>
      simpa using tracked
  | next fits _ inductionHypothesis =>
      simpa using inductionHypothesis (tracked.fits fits)

end Tracked

end Registry

end AssessmentChat
