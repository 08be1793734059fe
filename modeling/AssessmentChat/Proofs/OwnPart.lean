import AssessmentChat.Proofs.JobNumbers
import AssessmentChat.Proofs.OtherSessions

namespace AssessmentChat

/-!
# The own part of a chat

What belongs to one tab of a chat is a chat of its own: the sessions that were ever
opened for the tab, numbered in their own order, and the tab itself.  What is done
to one of these sessions is done to it in the own part.  What is done to the sessions
of another tab leaves the own part as it is.
-/

/-! ## Places among the chosen -/

/-- How many of the first numbers are chosen. -/
def rank (chosen : Nat → Bool) (number : Nat) : Nat :=
  (List.range number).countP chosen

/-- How many of the first elements of a list are chosen. -/
def placeAmong (chosen : α → Bool) (list : List α) (number : Nat) : Nat :=
  (list.take number).countP chosen

/-- One more number counts if it is chosen. -/
theorem rank_succ
    (chosen : Nat → Bool)
    (number : Nat) :
    rank chosen (number + 1) =
      rank chosen number + if chosen number then 1 else 0 := by
  simp only [rank, List.range_succ, List.countP_append, List.countP_cons,
    List.countP_nil, Nat.zero_add]

section Places

variable
  {chosen : α → Bool}
  {list : List α}
  {number : Nat}
  {element : α}

/-- A chosen element is among the chosen ones at its place. -/
theorem getElem?_filter_placeAmong
    (found : list[number]? = some element)
    (isChosen : chosen element = true) :
    (list.filter chosen)[placeAmong chosen list number]? = some element := by
  induction list generalizing number with
  | nil =>
      cases found
  | cons first rest inductionHypothesis =>
      cases number with
      | zero =>
          cases found
          simp [placeAmong, isChosen]
      | succ number =>
          have later := inductionHypothesis found
          cases firstChosen : chosen first with
          | true =>
              simpa [placeAmong, firstChosen] using later
          | false =>
              simpa [placeAmong, firstChosen] using later

/-- A change of a chosen element is one at its place among them. -/
theorem filter_modify_chosen
    {change : α → α}
    (found : list[number]? = some element)
    (isChosen : chosen element = true)
    (stillChosen : chosen (change element) = true) :
    (list.modify number change).filter chosen =
      (list.filter chosen).modify (placeAmong chosen list number)
        change := by
  induction list generalizing number with
  | nil =>
      cases found
  | cons first rest inductionHypothesis =>
      cases number with
      | zero =>
          cases found
          simp [placeAmong, isChosen, stillChosen]
      | succ number =>
          have later := inductionHypothesis found
          cases firstChosen : chosen first with
          | true =>
              simpa [placeAmong, firstChosen] using later
          | false =>
              simpa [placeAmong, firstChosen] using later

/-- A replacement of a chosen element is one at its place among them. -/
theorem filter_set_chosen
    {replacement : α}
    (found : list[number]? = some element)
    (isChosen : chosen element = true)
    (stillChosen : chosen replacement = true) :
    (list.set number replacement).filter chosen =
      (list.filter chosen).set (placeAmong chosen list number)
        replacement := by
  have : Inhabited α := ⟨element⟩
  have replaced :=
    @filter_modify_chosen _ chosen list number element
      (fun _ => replacement) found isChosen stillChosen
  rwa [List.modify_eq_set, List.modify_eq_set] at replaced

/-- A change that leaves an element chosen or not moves no place. -/
theorem placeAmong_modify
    {change : α → α}
    (found : list[number]? = some element)
    (same : chosen (change element) = chosen element)
    (other : Nat) :
    placeAmong chosen (list.modify number change) other =
      placeAmong chosen list other := by
  induction list generalizing number other with
  | nil =>
      cases found
  | cons first rest inductionHypothesis =>
      cases other with
      | zero =>
          rfl
      | succ other =>
          cases number with
          | zero =>
              cases found
              simp [placeAmong, List.countP_cons, same]
          | succ number =>
              have later := inductionHypothesis found other
              simp only [placeAmong] at later
              simp [placeAmong, List.countP_cons, later]

/-- Whether lists differ nowhere but in elements that are not chosen. -/
def AgreeOn (chosen : α → Bool) (list other : List α) : Prop :=
  ∀ position : Nat,
    other[position]? = list[position]? ∨
      (list[position]?.any chosen = false ∧
        other[position]?.any chosen = false)

/-- Lists that agree on what is chosen do so up to every place. -/
theorem AgreeOn.take
    {other : List α}
    (agree : AgreeOn chosen list other)
    (number : Nat) :
    AgreeOn chosen (list.take number) (other.take number) := by
  intro position
  rw [List.getElem?_take, List.getElem?_take]
  split
  · exact agree position
  · exact .inl rfl

/-- Lists that differ only in elements of a kind agree on any other. -/
theorem KeepsAllBut.agreeOn
    {kind : α → Bool}
    {other : List α}
    (keeps : KeepsAllBut kind list other)
    (apart : ∀ element, kind element = true → chosen element = false) :
    AgreeOn chosen list other := by
  have notChosen
      (element? : Option α)
      (isOf : element?.all kind = true) :
      element?.any chosen = false := by
    cases element? with
    | none =>
        rfl
    | some element =>
        exact apart element isOf
  intro position
  rcases keeps position with same | ⟨isOf, otherIsOf⟩
  · exact .inl same
  · obtain ⟨element, found, ofKind⟩ := (Option.any_eq_true _ _).mp otherIsOf
    rw [found]
    exact .inr ⟨notChosen _ isOf, apart element ofKind⟩

/-- Then the same elements are chosen of both. -/
theorem AgreeOn.filter_eq
    {list other : List α}
    (agree : AgreeOn chosen list other) :
    other.filter chosen = list.filter chosen := by
  induction list generalizing other with
  | nil =>
      refine List.filter_eq_nil_iff.mpr fun element among => ?_
      obtain ⟨position, found⟩ := List.mem_iff_getElem?.mp among
      rcases agree position with same | ⟨-, notChosen⟩
      · simp [found] at same
      · simpa [found] using notChosen
  | cons first rest inductionHypothesis =>
      have here := agree 0
      cases other with
      | nil =>
          have notChosen : chosen first = false := by
            simpa using here
          have later : AgreeOn chosen rest [] := fun position => by
            simpa using agree (position + 1)
          simpa [notChosen] using inductionHypothesis later
      | cons otherFirst otherRest =>
          have later : AgreeOn chosen rest otherRest := fun position => by
            simpa using agree (position + 1)
          have same := inductionHypothesis later
          simp only [List.getElem?_cons_zero, Option.some.injEq,
            Option.any_some] at here
          rcases here with rfl | ⟨notChosen, otherNotChosen⟩
          · simp only [List.filter_cons, same]
          · simp [notChosen, otherNotChosen, same]

/-- So they have the same place among them. -/
theorem AgreeOn.placeAmong_eq
    {other : List α}
    (agree : AgreeOn chosen list other)
    (number : Nat) :
    placeAmong chosen other number = placeAmong chosen list number := by
  simp only [placeAmong, List.countP_eq_length_filter,
    (agree.take number).filter_eq]

/-- Translating after a replacement is replacing by what is translated. -/
theorem map_modify_replaced
    (translate : α → β)
    (list : List α)
    (number : Nat)
    (element : α) :
    (list.modify number fun _ => element).map translate =
      (list.map translate).modify number fun _ => translate element := by
  induction list generalizing number with
  | nil =>
      cases number <;> rfl
  | cons first rest inductionHypothesis =>
      cases number with
      | zero =>
          rfl
      | succ number =>
          simpa using inductionHypothesis number

/-- Elements at the end move no place. -/
theorem placeAmong_append
    (more : List α)
    (inside : number ≤ list.length) :
    placeAmong chosen (list ++ more) number =
      placeAmong chosen list number := by
  simp [placeAmong, List.take_append_of_le_length inside]

/-- The place after all elements is after all that are chosen. -/
theorem placeAmong_length :
    placeAmong chosen list list.length = (list.filter chosen).length := by
  rw [placeAmong, List.take_length, List.countP_eq_length_filter]

end Places

/-! ## Tabs -/

namespace Registry

/-- Whether a tab has a name. -/
def isTab (sessionId : String) (tab : String × Nat) : Bool :=
  tab.1 = sessionId

/-- Each tab is there once. -/
def EachOnce (registry : Registry) : Prop :=
  ∀ tab,
    registry.tabs.filter (isTab tab) =
      (registry.find? tab).toList.map fun number => (tab, number)

/-- A tab that was not open is there once when it is opened. -/
theorem EachOnce.add
    {registry : Registry}
    {session : Session}
    (once : registry.EachOnce)
    (unknown : registry.find? session.sessionId = none) :
    (registry.add session).EachOnce := by
  intro tab
  obtain ⟨former, later, tabs, inserted⟩ :=
    insertTab_eq session.sessionId registry.sessions.length registry.tabs
  have onceBefore := once tab
  by_cases here : tab = session.sessionId
  · rw [here, unknown, tabs] at onceBefore
    have leads :
        (registry.add session).find? tab = some registry.sessions.length := by
      rw [here]
      exact lookup_insertTab unknown
    simp only [List.filter_append, Option.toList_none, List.map_nil,
      List.append_eq_nil_iff] at onceBefore
    rw [leads, here]
    simp [Registry.add, inserted, onceBefore, isTab]
  · have leads : (registry.add session).find? tab = registry.find? tab :=
      lookup_insertTab_of_ne here _ _
    have skipped : isTab tab (session.sessionId, registry.sessions.length) =
        false := by
      simpa [isTab] using Ne.symm here
    rw [leads, ← onceBefore, tabs]
    simp [Registry.add, inserted, skipped]

/-- Tabs are there once when one of them is closed. -/
theorem EachOnce.remove
    {registry : Registry}
    (once : registry.EachOnce)
    (sessionId : String) :
    (registry.remove sessionId).EachOnce := by
  intro tab
  rw [find?_remove]
  simp only [Registry.remove, List.filter_filter]
  split
  next here =>
    rw [here, Option.toList_none, List.map_nil, List.filter_eq_nil_iff]
    intro other _
    simp [isTab]
  next elsewhere =>
    rw [← once tab]
    refine List.filter_congr fun other _ => ?_
    by_cases named : other.1 = tab
    · simp [isTab, named, elsewhere]
    · simp [isTab, named]

end Registry

/-- In every course each tab is there once. -/
theorem Course.eachOnce
    {policy : PollPolicy}
    {acts : List Act}
    {chat : Chat}
    (course : Course policy acts chat) :
    chat.registry.EachOnce := by
  induction course with
  | start =>
      intro tab
      rfl
  | @act acts chat next act _ acted once =>
      cases act with
      | opening sessionId now =>
          cases acted
          obtain ⟨number, -, opened⟩ | ⟨unknown, opened⟩ :=
            chat.getOrCreate_cases sessionId now
          · rw [opened]
            exact once
          · rw [opened]
            exact Registry.EachOnce.add once unknown
      | moving number move =>
          simp only [Chat.act?] at acted
          split at acted
          next =>
            cases acted
          next =>
            obtain ⟨_, _, _, -, -, tabs, -⟩ := Chat.move?_eq_some acted
            simpa only [Registry.EachOnce, Registry.find?, tabs] using once
      | closing sessionId number =>
          simp only [Chat.act?] at acted
          split at acted
          next =>
            obtain ⟨disposed, moved, rfl⟩ := Option.map_eq_some_iff.mp acted
            obtain ⟨_, _, _, -, -, tabs, -⟩ := Chat.move?_eq_some moved
            have onceStill : disposed.registry.EachOnce := by
              simpa only [Registry.EachOnce, Registry.find?, tabs] using once
            exact onceStill.remove sessionId
          next =>
            cases acted

/-! ## The own part -/

namespace Chat

/-- The place of a session among those of a tab. -/
def place (sessionId : String) (chat : Chat) (number : Nat) : Nat :=
  placeAmong (Session.isOf sessionId) chat.registry.sessions number

/-- What belongs to a tab; its jobs are numbered in their own order. -/
def own (sessionId : String) (jobs : Nat → Bool) (chat : Chat) : Chat where
  registry :=
    { sessions :=
        (chat.registry.sessions.filter (Session.isOf sessionId)).map
          (Session.renumbered (rank jobs))
      tabs :=
        (chat.registry.find? sessionId).toList.map fun number =>
          (sessionId, chat.place sessionId number) }
  nextHandle := rank jobs chat.nextHandle

variable
  {sessionId : String}
  {jobs : Nat → Bool}
  {chat : Chat}
  {number : Nat}
  {session next : Session}

theorem own_nextHandle
    (sessionId : String)
    (jobs : Nat → Bool)
    (chat : Chat)
    (nextHandle : Nat) :
    ({ chat with nextHandle } : Chat).own sessionId jobs =
      { chat.own sessionId jobs with nextHandle := rank jobs nextHandle } :=
  rfl

/-- A tab finds its own session in its part, at its place. -/
theorem own_find?
    (sessionId : String)
    (jobs : Nat → Bool)
    (chat : Chat) :
    (chat.own sessionId jobs).registry.find? sessionId =
      (chat.registry.find? sessionId).map (chat.place sessionId) := by
  simp only [own, Registry.find?]
  cases chat.registry.tabs.lookup sessionId <;> simp

/-- The session of a tab is in its part, under its own numbers. -/
theorem own_session?
    (jobs : Nat → Bool)
    (found : chat.registry.session? number = some session)
    (named : session.sessionId = sessionId) :
    (chat.own sessionId jobs).registry.session?
        (chat.place sessionId number) =
      some (session.renumbered (rank jobs)) := by
  have isOf : session.isOf sessionId = true := by
    simp [Session.isOf, named]
  simp only [own, Registry.session?, place, List.getElem?_map]
  rw [getElem?_filter_placeAmong found isOf]
  rfl

/-- A change of a session that keeps its name moves no place. -/
theorem place_update
    (found : chat.registry.session? number = some session)
    {change : Session → Session}
    (sameName : (change session).sessionId = session.sessionId)
    (other : Nat) :
    (chat.update number change).place sessionId other =
      chat.place sessionId other :=
  placeAmong_modify found (by simp [Session.isOf, sameName]) other

/-- A session of the tab that is replaced is replaced in the own part. -/
theorem own_update
    (found : chat.registry.session? number = some session)
    (named : session.sessionId = sessionId)
    (sameName : next.sessionId = session.sessionId) :
    (chat.update number fun _ => next).own sessionId jobs =
      (chat.own sessionId jobs).update (chat.place sessionId number)
        fun _ => next.renumbered (rank jobs) := by
  have isOf : session.isOf sessionId = true := by
    simp [Session.isOf, named]
  have nextIsOf : next.isOf sessionId = true := by
    simp [Session.isOf, sameName, named]
  have places (other : Nat) :
      (chat.update number fun _ => next).place sessionId other =
        chat.place sessionId other :=
    place_update found sameName other
  have sessions :
      (chat.registry.sessions.modify number fun _ => next).filter
          (Session.isOf sessionId) =
        (chat.registry.sessions.filter (Session.isOf sessionId)).modify
          (chat.place sessionId number) fun _ => next :=
    filter_modify_chosen found isOf nextIsOf
  simp only [own, update, Registry.update, sessions]
  rw [map_modify_replaced]
  congr 3
  exact funext fun other => by rw [← places]; rfl

/-- What opens or changes only sessions of another tab leaves the own part. -/
theorem KeepsOthers.own_eq
    {other : String}
    {after : Chat}
    (keeps : chat.KeepsOthers other after)
    (elsewhere : other ≠ sessionId)
    (sameCount : rank jobs after.nextHandle = rank jobs chat.nextHandle) :
    after.own sessionId jobs = chat.own sessionId jobs := by
  have agree :
      AgreeOn (Session.isOf sessionId) chat.registry.sessions
        after.registry.sessions := by
    refine keeps.sessions.agreeOn fun session named => ?_
    have name : session.sessionId = other := by
      simpa [Session.isOf] using named
    simp [Session.isOf, name, elsewhere]
  have leads := keeps.tabs sessionId (Ne.symm elsewhere)
  have places : after.place sessionId = chat.place sessionId :=
    funext agree.placeAmong_eq
  simp only [own, agree.filter_eq, leads, places, sameCount]

/-- A session that is added for the tab is added to the own part. -/
theorem own_add
    (unknown : chat.registry.find? session.sessionId = none) :
    ({ chat with registry := chat.registry.add session } : Chat).own
        session.sessionId jobs =
      { chat.own session.sessionId jobs with
        registry :=
          (chat.own session.sessionId jobs).registry.add
            (session.renumbered (rank jobs)) } := by
  have isOf : session.isOf session.sessionId = true :=
    decide_eq_true rfl
  have leads :
      (chat.registry.add session).find? session.sessionId =
        some chat.registry.sessions.length :=
    Registry.lookup_insertTab unknown
  have placed :
      placeAmong (Session.isOf session.sessionId)
          (chat.registry.sessions ++ [session])
          chat.registry.sessions.length =
        (chat.registry.sessions.filter
          (Session.isOf session.sessionId)).length :=
    (placeAmong_append [session] (Nat.le_refl _)).trans placeAmong_length
  simp only [own, place, leads, unknown]
  simp [Registry.add, Registry.insertTab, isOf, placed]

/-- To look the session of the tab up is to look it up in the own part. -/
theorem own_getOrCreate
    (sessionId : String)
    (jobs : Nat → Bool)
    (now : Timestamp)
    (chat : Chat) :
    (chat.own sessionId jobs).getOrCreate sessionId now =
      ((chat.getOrCreate sessionId now).2.place sessionId
          (chat.getOrCreate sessionId now).1,
        (chat.getOrCreate sessionId now).2.own sessionId jobs) := by
  have leads := chat.own_find? sessionId jobs
  obtain ⟨number, found, opened⟩ | ⟨unknown, opened⟩ :=
    chat.getOrCreate_cases sessionId now
  · rw [found] at leads
    rw [opened]
    simp only [getOrCreate, Registry.getOrCreate, leads, Option.map_some]
  · rw [unknown] at leads
    have added := @own_add jobs chat (.fresh sessionId now) unknown
    rw [opened]
    simp only [getOrCreate, Registry.getOrCreate, leads, Option.map_none]
    refine Prod.ext ?_ added.symm
    refine ((placeAmong_append _ (Nat.le_refl _)).trans ?_).symm
    rw [placeAmong_length]
    simp [own]

/-- To close the tab is to close it in the own part. -/
theorem own_remove
    (sessionId : String)
    (jobs : Nat → Bool)
    (chat : Chat) :
    ({ chat with registry := chat.registry.remove sessionId } : Chat).own
        sessionId jobs =
      { chat.own sessionId jobs with
        registry := (chat.own sessionId jobs).registry.remove sessionId } := by
  have closed := Registry.find?_remove sessionId sessionId chat.registry
  rw [if_pos rfl] at closed
  simp only [own, closed]
  simp [Registry.remove]

/-- Whether a session waits for the user to sign in is the same in the part of its tab. -/
theorem own_isAuthenticating
    (jobs : Nat → Bool)
    (found : chat.registry.session? number = some session)
    (named : session.sessionId = sessionId) :
    (chat.own sessionId jobs).isAuthenticating
        (chat.place sessionId number) =
      chat.isAuthenticating number := by
  simp only [isAuthenticating, own_session? jobs found named, found]
  rfl

/-- To queue a job of the tab is to queue it in the own part. -/
theorem own_enqueue
    (found : chat.registry.session? number = some session)
    (named : session.sessionId = sessionId)
    (counted : jobs chat.nextHandle = true)
    (job : Job) :
    (chat.own sessionId jobs).enqueue (chat.place sessionId number) job =
      ((chat.enqueue number job).1.own sessionId jobs,
        (chat.enqueue number job).2.map
          (Output.renumbered (rank jobs))) := by
  have queued :
      (session.renumbered (rank jobs)).enqueue
          ⟨(chat.own sessionId jobs).nextHandle, job⟩ =
        renumberedSeen (rank jobs)
          (session.enqueue ⟨chat.nextHandle, job⟩) :=
    session.enqueue_renumbered (rank jobs) ⟨chat.nextHandle, job⟩
  have updated :=
    @own_update sessionId jobs chat number session
      (session.enqueue ⟨chat.nextHandle, job⟩).1 found named
      (session.heed_sessionId (.enqueue _))
  have next :
      rank jobs (chat.nextHandle + 1) = rank jobs chat.nextHandle + 1 := by
    rw [rank_succ, counted]
    rfl
  have counting :=
    own_nextHandle sessionId jobs
      (chat.update number fun _ =>
        (session.enqueue ⟨chat.nextHandle, job⟩).1)
      (chat.nextHandle + 1)
  rw [updated, next] at counting
  simp only [enqueue, found, own_session? jobs found named, queued]
  exact Prod.ext counting.symm rfl

end Chat

end AssessmentChat
