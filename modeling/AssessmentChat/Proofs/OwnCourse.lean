import AssessmentChat.Proofs.OwnPart

namespace AssessmentChat

/-!
# Courses of the own part of a chat

Commands can overlap: between the acts of one there can be acts of others.  Whatever
the order of the acts is, those on the sessions of a tab, taken alone, are a course
that leads to the own part of the chat.
-/

/-- The session that an act queues a job for. -/
def Act.queuer? : Act → Option Nat
  | .moving number move => move.queued?.map fun _ => number
  | .opening .. => none
  | .closing .. => none

/-- The sessions that jobs were queued for, in the order of the jobs. -/
def queuers (acts : List Act) : List Nat :=
  acts.filterMap Act.queuer?

/-- A move puts as many jobs in line under other numbers. -/
theorem Move.renumbered_queued?
    (number : Nat → Nat)
    (move : Move) :
    (move.renumbered number).queued?.toList.length =
      move.queued?.toList.length := by
  cases move with
  | signal signal =>
      cases signal <;> rfl
  | proceed | elapse | receive =>
      rfl

theorem Move.renumbered_disposes
    (number : Nat → Nat)
    (move : Move) :
    (move.renumbered number).disposes = move.disposes := by
  cases move with
  | signal signal =>
      cases signal <;> rfl
  | proceed | elapse | receive =>
      rfl

theorem filterMap_congr_left
    {list : List α}
    {first second : α → Option β}
    (same : ∀ element ∈ list, first element = second element) :
    list.filterMap first = list.filterMap second := by
  induction list with
  | nil =>
      rfl
  | cons element rest inductionHypothesis =>
      simp only [List.filterMap_cons, same element (by simp)]
      rw [inductionHypothesis fun other among =>
        same other (List.mem_cons_of_mem _ among)]

/-- The acts that put a job in line are those before and perhaps the last one. -/
theorem queuers_snoc
    (acts : List Act)
    (act : Act) :
    queuers (acts ++ [act]) = queuers acts ++ act.queuer?.toList := by
  simp only [queuers, List.filterMap_append, List.filterMap_cons,
    List.filterMap_nil]
  cases act.queuer? <;> rfl

/-- An act that puts a job in line is a move of the session that it names. -/
theorem Act.move?_of_queuer?
    {act : Act}
    {number : Nat}
    (queues : act.queuer? = some number) :
    ∃ move, act.move? number = some move := by
  cases act with
  | moving mover move =>
      obtain ⟨queued, -, rfl⟩ := Option.map_eq_some_iff.mp queues
      exact ⟨move, by simp [Act.move?]⟩
  | opening | closing =>
      cases queues

/-- Whether a session is one of a tab. -/
def Chat.isOf (sessionId : String) (chat : Chat) (number : Nat) : Bool :=
  (chat.registry.session? number).any (Session.isOf sessionId)

/-- An act on a session of a tab, as it is in the own part. -/
def Act.own?
    (sessionId : String)
    (jobs : Nat → Bool)
    (chat : Chat) : Act → Option Act
  | .opening tab now => if tab = sessionId then some (.opening tab now) else none
  | .moving number move =>
      if chat.isOf sessionId number then
        some
          (.moving (chat.place sessionId number)
            (move.renumbered (rank jobs)))
      else none
  | .closing tab number =>
      if tab = sessionId then
        some (.closing tab (chat.place sessionId number))
      else none

/-- The jobs that were queued for a tab, by their order. -/
def jobsQueued
    (sessionId : String)
    (acts : List Act)
    (chat : Chat)
    (handle : Nat) : Bool :=
  (queuers acts)[handle]?.any (chat.isOf sessionId)

namespace Chat

variable
  {policy : PollPolicy}
  {acts : List Act}
  {sessionId : String}
  {jobs : Nat → Bool}
  {chat next : Chat}
  {act : Act}

/-- A move of a session of the tab is one in the own part. -/
theorem own_move?
    {number : Nat}
    {move : Move}
    (isOf : chat.isOf sessionId number = true)
    (moved : chat.move? policy number move = some next)
    (counted :
      rank jobs next.nextHandle =
        rank jobs chat.nextHandle + move.queued?.toList.length) :
    (chat.own sessionId jobs).move? policy (chat.place sessionId number)
        (move.renumbered (rank jobs)) =
      some (next.own sessionId jobs) := by
  obtain ⟨session, found, goesOn⟩ := Option.bind_eq_some_iff.mp moved
  obtain ⟨after, sessionMoved, rfl⟩ := Option.map_eq_some_iff.mp goesOn
  have named : session.sessionId = sessionId := by
    simpa [Chat.isOf, found, Session.isOf] using isOf
  have movedToo := session.move?_renumbered (rank jobs) policy move
  rw [sessionMoved] at movedToo
  refine Option.bind_eq_some_iff.mpr ⟨_, own_session? jobs found named, ?_⟩
  refine Option.map_eq_some_iff.mpr ⟨_, movedToo, ?_⟩
  have updated :=
    @own_update sessionId jobs chat number session after.1 found named
      (Session.move?_sessionId sessionMoved)
  have counting :=
    own_nextHandle sessionId jobs (chat.update number fun _ => after.1)
      (chat.nextHandle + move.queued?.toList.length)
  rw [updated, counted] at counting
  rw [Move.renumbered_queued?]
  exact counting.symm

/-- A move of another session leaves the own part. -/
theorem keepsOthers_move?
    {number : Nat}
    {move : Move}
    (moved : chat.move? policy number move = some next) :
    ∃ session,
      chat.registry.session? number = some session ∧
        chat.KeepsOthers session.sessionId next := by
  obtain ⟨session, found, goesOn⟩ := Option.bind_eq_some_iff.mp moved
  obtain ⟨after, sessionMoved, rfl⟩ := Option.map_eq_some_iff.mp goesOn
  obtain ⟨tabs, sessions⟩ :=
    @KeepsOthers.update session.sessionId chat number session found rfl
      (fun _ => after.1) (Session.move?_sessionId sessionMoved)
  exact ⟨session, found, tabs, sessions⟩

/-- A queued job counts for the tab whose session it is queued for. -/
theorem rank_counted
    (isOf : Bool)
    (handle : Nat)
    (queued? : Option QueuedJob)
    (counted : queued?.isSome = true → jobs handle = isOf) :
    rank jobs (handle + queued?.toList.length) =
      rank jobs handle + if isOf then queued?.toList.length else 0 := by
  cases queued? with
  | none =>
      simp
  | some queued =>
      have mine : jobs handle = isOf := counted rfl
      exact (rank_succ jobs handle).trans (by rw [mine]; rfl)

/-- A move takes the next number if it puts a job in line. -/
theorem move?_nextHandle
    {number : Nat}
    {move : Move}
    (moved : chat.move? policy number move = some next) :
    next.nextHandle = chat.nextHandle + move.queued?.toList.length := by
  obtain ⟨session, -, goesOn⟩ := Option.bind_eq_some_iff.mp moved
  obtain ⟨after, -, rfl⟩ := Option.map_eq_some_iff.mp goesOn
  rfl

/-- An act takes the next number if it puts a job in line. -/
theorem act?_nextHandle
    (acted : chat.act? policy act = some next) :
    next.nextHandle = chat.nextHandle + act.queuer?.toList.length := by
  cases act with
  | opening =>
      cases acted
      rfl
  | moving number move =>
      simp only [act?] at acted
      split at acted
      next =>
        cases acted
      next =>
        rw [move?_nextHandle acted, Act.queuer?]
        cases move.queued? <;> rfl
  | closing tab number =>
      simp only [act?] at acted
      split at acted
      next =>
        obtain ⟨disposed, moved, rfl⟩ := Option.map_eq_some_iff.mp acted
        exact move?_nextHandle moved
      next =>
        cases acted

/-- An act does to the own part what it does to the sessions of the tab. -/
theorem actAll?_own
    (known : Known policy acts chat)
    (acted : chat.act? policy act = some next)
    (counted :
      ∀ number,
        act.queuer? = some number →
        jobs chat.nextHandle = chat.isOf sessionId number) :
    (chat.own sessionId jobs).actAll? policy
        (act.own? sessionId jobs chat).toList =
      some (next.own sessionId jobs) := by
  cases act with
  | opening tab now =>
      cases acted
      by_cases here : tab = sessionId
      · subst here
        have opened := own_getOrCreate tab jobs now chat
        simp [Act.own?, actAll?, act?, opened]
      · simp [Act.own?, here, actAll?,
          (KeepsOthers.getOrCreate chat tab now).own_eq here rfl]
  | moving number move =>
      simp only [act?] at acted
      split at acted
      next =>
        cases acted
      next notDisposal =>
        have rankCounted :=
          @rank_counted jobs (chat.isOf sessionId number) chat.nextHandle
            move.queued? fun queues => counted number (by
              simpa [Act.queuer?, Option.map_eq_some_iff] using
                Option.isSome_iff_exists.mp queues)
        rw [← move?_nextHandle acted] at rankCounted
        cases isOf : chat.isOf sessionId number with
        | true =>
            rw [isOf, if_pos rfl] at rankCounted
            have notDisposalToo :
                (move.renumbered (rank jobs)).disposes ≠ true := by
              rwa [Move.renumbered_disposes]
            have movedToo := own_move? isOf acted rankCounted
            simp [Act.own?, isOf, actAll?, act?, notDisposalToo, movedToo]
        | false =>
            rw [isOf] at rankCounted
            obtain ⟨session, found, keeps⟩ := keepsOthers_move? acted
            have elsewhere : session.sessionId ≠ sessionId := by
              simpa [Chat.isOf, found, Session.isOf] using isOf
            simp [Act.own?, isOf, actAll?,
              keeps.own_eq elsewhere rankCounted]
  | closing tab number =>
      simp only [act?] at acted
      split at acted
      next found =>
        obtain ⟨disposed, moved, rfl⟩ := Option.map_eq_some_iff.mp acted
        obtain ⟨session, foundSession, named, -⟩ := known.at_tab found
        have sameCount := move?_nextHandle moved
        by_cases here : tab = sessionId
        · subst here
          have isOf : chat.isOf tab number = true := by
            simp [Chat.isOf, foundSession, Session.isOf, named]
          have leads := chat.own_find? tab jobs
          have movedToo :
              (chat.own tab jobs).move? policy (chat.place tab number)
                  (.signal .dispose) =
                some (disposed.own tab jobs) :=
            own_move? isOf moved (congrArg (rank jobs) sameCount)
          rw [found] at leads
          rw [own_remove]
          simp [Act.own?, actAll?, act?, leads, movedToo]
        · obtain ⟨other, foundOther, keeps⟩ := keepsOthers_move? moved
          rw [foundSession] at foundOther
          cases foundOther
          rw [named] at keeps
          have keepsAll := keeps.trans (.remove disposed tab)
          have same :=
            @KeepsOthers.own_eq sessionId jobs _ _ _ keepsAll here
              (congrArg (rank jobs) sameCount)
          simp [Act.own?, here, actAll?, same]
      next =>
        cases acted

/-! ## Names of sessions -/

/-- The names of all sessions that were ever opened. -/
def names (chat : Chat) : List String :=
  chat.registry.sessions.map Session.sessionId

theorem isOf_eq
    (sessionId : String)
    (chat : Chat)
    (number : Nat) :
    chat.isOf sessionId number =
      chat.names[number]?.any (· = sessionId) := by
  simp only [isOf, names, Registry.session?, List.getElem?_map,
    Option.any_map]
  rfl

theorem place_eq
    (sessionId : String)
    (chat : Chat)
    (number : Nat) :
    chat.place sessionId number =
      (chat.names.take number).countP (· = sessionId) := by
  simp only [place, placeAmong, names, ← List.map_take, List.countP_map]
  rfl

/-- A move leaves the names of the sessions as they are. -/
theorem names_move?
    {number : Nat}
    {move : Move}
    (moved : chat.move? policy number move = some next) :
    next.names = chat.names := by
  obtain ⟨before, after, _, found, sessionMoved, -, sessions⟩ :=
    move?_eq_some moved
  have named := Session.move?_sessionId sessionMoved
  refine List.ext_getElem? fun position => ?_
  have here := sessions position
  simp only [names, List.getElem?_map]
  simp only [Registry.session?] at here found
  rw [here]
  split
  next same =>
    rw [← same, found]
    exact congrArg some named
  next =>
    rfl

/-- Sessions keep their names and their numbers. -/
theorem names_act?
    (acted : chat.act? policy act = some next) :
    ∃ more, next.names = chat.names ++ more := by
  cases act with
  | opening tab now =>
      cases acted
      obtain ⟨number, -, opened⟩ | ⟨-, opened⟩ :=
        chat.getOrCreate_cases tab now
      · rw [opened]
        exact ⟨[], by simp⟩
      · rw [opened]
        exact ⟨[tab], by simp [names, Registry.add, Session.fresh,
          Session.spawn, Conversation.start, Context.start]⟩
  | moving number move =>
      simp only [act?] at acted
      split at acted
      next =>
        cases acted
      next =>
        exact ⟨[], by rw [names_move? acted, List.append_nil]⟩
  | closing tab number =>
      simp only [act?] at acted
      split at acted
      next =>
        obtain ⟨disposed, moved, rfl⟩ := Option.map_eq_some_iff.mp acted
        exact ⟨[], (names_move? moved).trans (List.append_nil _).symm⟩
      next =>
        cases acted

/-- A move is one of a session that there is. -/
theorem move?_inside
    {number : Nat}
    {move : Move}
    (moved : chat.move? policy number move = some next) :
    number < chat.names.length := by
  obtain ⟨session, found, -⟩ := Option.bind_eq_some_iff.mp moved
  simpa [names] using (List.getElem?_eq_some_iff.mp found).1

/-- A session that is acted on is there. -/
theorem act?_inside
    {number : Nat}
    {move : Move}
    (acted : chat.act? policy act = some next)
    (moves : act.move? number = some move) :
    number < chat.names.length := by
  cases act with
  | opening =>
      cases moves
  | moving mover own =>
      simp only [Act.move?, Option.ite_none_right_eq_some] at moves
      obtain ⟨rfl, -⟩ := moves
      simp only [act?] at acted
      split at acted
      next =>
        cases acted
      next =>
        exact move?_inside acted
  | closing tab closed =>
      simp only [Act.move?, Option.ite_none_right_eq_some] at moves
      obtain ⟨rfl, -⟩ := moves
      simp only [act?] at acted
      split at acted
      next =>
        obtain ⟨disposed, moved, rfl⟩ := Option.map_eq_some_iff.mp acted
        exact move?_inside moved
      next =>
        cases acted

/-- So an act on a session that was there is the same act in the own part. -/
theorem own?_stable
    {more : List String}
    (keeps : next.names = chat.names ++ more)
    (inside :
      ∀ number move,
        act.move? number = some move →
        number < chat.names.length) :
    act.own? sessionId jobs next = act.own? sessionId jobs chat := by
  have isOf
      (number : Nat)
      (known : number < chat.names.length) :
      next.isOf sessionId number = chat.isOf sessionId number := by
    rw [isOf_eq, isOf_eq, keeps, List.getElem?_append_left known]
  have place
      (number : Nat)
      (known : number < chat.names.length) :
      next.place sessionId number = chat.place sessionId number := by
    rw [place_eq, place_eq, keeps,
      List.take_append_of_le_length (Nat.le_of_lt known)]
  cases act with
  | opening =>
      rfl
  | moving number move =>
      have known := inside number move (by simp [Act.move?])
      simp only [Act.own?, isOf number known, place number known]
  | closing tab number =>
      have known := inside number (.signal .dispose) (by simp [Act.move?])
      simp only [Act.own?, place number known]

end Chat

/-! ## Courses -/

namespace Course

variable
  {policy : PollPolicy}
  {acts : List Act}
  {sessionId : String}
  {jobs : Nat → Bool}
  {chat : Chat}

/-- Only sessions that have been opened are acted on. -/
theorem inside
    (course : Course policy acts chat) :
    ∀ act ∈ acts,
      ∀ number move,
        act.move? number = some move →
        number < chat.names.length := by
  intro act among number move moves
  refine Nat.lt_of_not_le fun outside => ?_
  have unopened : chat.registry.session? number = none :=
    List.getElem?_eq_none (by simpa [Chat.names] using outside)
  have none := course.known.unopened number unopened
  rw [movesOf, List.filterMap_eq_nil_iff] at none
  rw [none act among] at moves
  cases moves

/-- As many numbers are taken as jobs were put in line. -/
theorem nextHandle_eq
    (course : Course policy acts chat) :
    chat.nextHandle = (queuers acts).length := by
  induction course with
  | start =>
      rfl
  | act _ acted inductionHypothesis =>
      rw [Chat.act?_nextHandle acted, inductionHypothesis, queuers_snoc,
        List.length_append]

/-- The acts on the sessions of a tab are a course of its own part. -/
theorem own
    (course : Course policy acts chat)
    (areJobs :
      ∀ handle number,
        (queuers acts)[handle]? = some number →
        jobs handle = chat.isOf sessionId number) :
    Course policy (acts.filterMap (Act.own? sessionId jobs chat))
      (chat.own sessionId jobs) := by
  induction course with
  | start =>
      exact .start
  | @act acts chat next act course acted inductionHypothesis =>
      obtain ⟨more, keeps⟩ := Chat.names_act? acted
      have counts := course.nextHandle_eq
      have inside := course.inside
      have insideToo :
          ∀ number move,
            act.move? number = some move →
            number < chat.names.length :=
        fun _ _ => Chat.act?_inside acted
      have isOf
          (number : Nat)
          (known : number < chat.names.length) :
          next.isOf sessionId number = chat.isOf sessionId number := by
        rw [Chat.isOf_eq, Chat.isOf_eq, keeps,
          List.getElem?_append_left known]
      have earlier :
          acts.filterMap (Act.own? sessionId jobs next) =
            acts.filterMap (Act.own? sessionId jobs chat) :=
        filterMap_congr_left fun one among =>
          Chat.own?_stable keeps (inside one among)
      have ownCourse :=
        inductionHypothesis fun handle number queues => by
          obtain ⟨one, among, queuesOne⟩ :=
            List.mem_filterMap.mp (List.mem_of_getElem? queues)
          obtain ⟨move, moves⟩ := Act.move?_of_queuer? queuesOne
          rw [← isOf number (inside one among number move moves)]
          refine areJobs handle number ?_
          obtain ⟨within, -⟩ := List.getElem?_eq_some_iff.mp queues
          rw [queuers_snoc, List.getElem?_append_left within]
          exact queues
      have acts :=
        ownCourse.actAll
          (Chat.actAll?_own course.known acted fun number queues => by
            obtain ⟨move, moves⟩ := Act.move?_of_queuer? queues
            rw [← isOf number (insideToo number move moves), counts]
            refine areJobs _ number ?_
            simp [queuers_snoc, queues])
      rw [List.filterMap_append, earlier]
      have last := @Chat.own?_stable sessionId jobs _ _ _ _ keeps insideToo
      have single :
          [act].filterMap (Act.own? sessionId jobs next) =
            (act.own? sessionId jobs chat).toList := by
        rw [List.filterMap_cons, last]
        cases act.own? sessionId jobs chat <;> rfl
      rw [single]
      exact acts

end Course

end AssessmentChat
