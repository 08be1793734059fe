import AssessmentChat.Proofs.OwnCommands

namespace AssessmentChat

/-!
# Happenings in the own part of a chat

A command to a tab, a session that goes on and an answer to a saving leave the
sessions and the savings of every other tab as they are, and show nothing under
another name.  What happens to a tab happens in the same way in the own part, and
what happens to another tab leaves the own part as it is.
-/

/-! ## Happenings, their tabs and their own part -/

/-- Whether a saving was begun for a tab. -/
def Saving.isOf (sessionId : String) (saving : Saving) : Bool :=
  saving.sessionId = sessionId

/-- Whether a sight shows nothing under the name of another tab. -/
def Sight.isOf (sessionId : String) : Sight → Bool
  | .shown output => output.isOf sessionId
  | .answered _ => true
  | .saved .. => true

/-- The event in a sight. -/
def Sight.event? : Sight → Option Event
  | .shown (.published event) => some event
  | _ => none

/-- The job that a sight tells the number of. -/
def Sight.handle? : Sight → Option Nat
  | .answered (.ok handle?) => handle?
  | _ => none

/-- The jobs that a scene tells the numbers of. -/
def Scene.handles (scene : Scene) : List Nat :=
  scene.sights.filterMap Sight.handle?

namespace Happening

/-- Whether a session that moves does so by itself, for signals come with commands. -/
def isAutonomous : Happening → Bool
  | .session _ move => move.isOwn
  | .command .. => true
  | .reply .. => true

/-- The tab to which something happens, unless it concerns every session. -/
def addressee? (traffic : Traffic) : Happening → Option String
  | .command given .. => given.addressee?
  | .session number _ =>
      (traffic.chat.registry.session? number).map Session.sessionId
  | .reply number .. => traffic.savings[number]?.map Saving.sessionId

/-- Whether something happens to a tab, or to every session. -/
def concerns
    (sessionId : String)
    (traffic : Traffic)
    (happening : Happening) : Bool :=
  (happening.addressee? traffic).all (· = sessionId)

end Happening

/-- The place of a saving among those of a tab. -/
def Traffic.savingPlace
    (sessionId : String)
    (traffic : Traffic)
    (number : Nat) : Nat :=
  placeAmong (Saving.isOf sessionId) traffic.savings number

/-- What belongs to a tab, with the savings that were begun for it. -/
def Traffic.own
    (sessionId : String)
    (jobs : Nat → Bool)
    (traffic : Traffic) : Traffic where
  chat := traffic.chat.own sessionId jobs
  savings := traffic.savings.filter (Saving.isOf sessionId)

/-- What happens to a tab as it happens in the own part. -/
def Happening.own
    (sessionId : String)
    (traffic : Traffic) : Happening → Happening
  | .command given credential moment => .command given credential moment
  | .session number move => .session (traffic.chat.place sessionId number) move
  | .reply number moment request answer =>
      .reply (traffic.savingPlace sessionId number) moment request answer

/-- A sight with other numbers for jobs and savings. -/
def Sight.renumbered (job saving : Nat → Nat) : Sight → Sight
  | .shown output => .shown (output.renumbered job)
  | .answered outcome => .answered (outcome.map (Option.map job))
  | .saved number outcome => .saved (saving number) outcome

/-- What is seen of some sights under the name of a tab. -/
def ownSights
    (sessionId : String)
    (jobs : Nat → Bool)
    (traffic : Traffic)
    (sights : List Sight) : List Sight :=
  (sights.filter (Sight.isOf sessionId)).map
    (Sight.renumbered (rank jobs) (traffic.savingPlace sessionId))

/-- What a happening leads to in the own part, and what is seen of it there. -/
def Scene.own
    (sessionId : String)
    (jobs : Nat → Bool)
    (before : Traffic)
    (scene : Scene) : Scene where
  traffic := scene.traffic.own sessionId jobs
  sights := ownSights sessionId jobs before scene.sights

/-- What happens to a tab leaves the rest, and shows nothing under another name. -/
structure Traffic.Serves
    (sessionId : String)
    (traffic : Traffic)
    (scene : Scene) : Prop where
  chat : traffic.chat.KeepsOthers sessionId scene.traffic.chat
  savings :
    KeepsAllBut (Saving.isOf sessionId) traffic.savings
      scene.traffic.savings
  sights : ∀ sight ∈ scene.sights, sight.isOf sessionId = true

namespace Traffic

variable
  {policy : PollPolicy}
  {acts : List Act}
  {sessionId : String}
  {traffic : Traffic}
  {happening : Happening}
  {scene : Scene}

/-- What a stretch shows is of its own tab. -/
theorem stretch_sights_isOf
    (sessionId : String)
    (number : Nat)
    (stretch : Stretch (Except Fault Unit)) :
    ∀ sight ∈ stretch.sights sessionId number,
      sight.isOf sessionId = true := by
  intro sight among
  rcases List.mem_append.mp among with shown | saved
  · obtain ⟨output, seen, rfl⟩ := List.mem_map.mp shown
    obtain ⟨deed, -, seen⟩ := List.mem_filterMap.mp seen
    cases deed with
    | said | asked =>
        cases seen
        simp [Sight.isOf, Output.isOf]
    | answered =>
        cases seen
  · obtain ⟨outcome, -, rfl⟩ :=
      Option.map_eq_some_iff.mp (Option.mem_toList.mp saved)
    rfl

theorem shown_isOf
    {outputs : List Output}
    (isOf : ∀ output ∈ outputs, output.isOf sessionId = true) :
    ∀ sight ∈ outputs.map Sight.shown, sight.isOf sessionId = true := by
  intro sight among
  obtain ⟨output, seen, rfl⟩ := List.mem_map.mp among
  exact isOf output seen

/-- What happens to a tab leaves all that belongs to the others. -/
theorem serves_follow
    (known : Known policy acts traffic.chat)
    (autonomous : happening.isAutonomous = true)
    (followed : traffic.follow? policy happening = some scene)
    (addressed : happening.addressee? traffic = some sessionId) :
    traffic.Serves sessionId scene := by
  cases happening with
  | command command credential moment =>
      obtain ⟨keeps, outputs⟩ :=
        Chat.serves_handle known addressed credential moment.now
      have shown := shown_isOf outputs
      cases followed
      unfold obey
      dsimp only
      split
      next outcome _ =>
        refine ⟨keeps, .refl _ _, ?_⟩
        intro sight among
        rcases List.mem_append.mp among with seen | answered
        · exact shown sight seen
        · cases List.mem_singleton.mp answered
          rfl
      next tab procedure saves =>
        obtain ⟨_, _, rfl, -⟩ := Chat.handle_eq_download saves
        cases addressed
        refine ⟨keeps, .append _ (by simp [Saving.isOf]), ?_⟩
        intro sight among
        rcases List.mem_append.mp among with seen | later
        · exact shown sight seen
        · exact stretch_sights_isOf sessionId _ _ sight later
  | session number move =>
      obtain ⟨session, found, goesOn⟩ :=
        Option.bind_eq_some_iff.mp followed
      obtain ⟨after, moved, rfl⟩ := Option.map_eq_some_iff.mp goesOn
      have named : session.sessionId = sessionId := by
        simpa [Happening.addressee?, found] using addressed
      have outputs := Session.move?_outputs_isOf autonomous moved
      rw [named] at outputs
      exact
        ⟨.update found named (Session.move?_sessionId moved),
          .refl _ _, shown_isOf outputs⟩
  | reply number moment request answer =>
      obtain ⟨saving, found, goesOn⟩ :=
        Option.bind_eq_some_iff.mp followed
      obtain ⟨stretch, -, rfl⟩ := Option.map_eq_some_iff.mp goesOn
      have named : saving.sessionId = sessionId := by
        simpa [Happening.addressee?, found] using addressed
      have isOf : saving.isOf sessionId = true :=
        decide_eq_true named
      refine ⟨.refl _ _, .set found isOf isOf, ?_⟩
      rw [named]
      exact stretch_sights_isOf sessionId number stretch

/-! ## Numbers of jobs -/

theorem shown_handles
    (outputs : List Output) :
    (outputs.map Sight.shown).filterMap Sight.handle? = [] := by
  simp [List.filterMap_eq_nil_iff, Sight.handle?]

theorem stretch_sights_handles
    (tab : String)
    (number : Nat)
    (stretch : Stretch (Except Fault Unit)) :
    (stretch.sights tab number).filterMap Sight.handle? = [] := by
  simp [Stretch.sights, List.filterMap_eq_nil_iff, Sight.handle?]

/-- A command changes the chat as it does without traffic. -/
theorem obey_chat
    (traffic : Traffic)
    (command : Command)
    (credential : CredentialState)
    (moment : Moment) :
    (traffic.obey command credential moment).traffic.chat =
      (traffic.chat.handle command credential moment.now).chat := by
  unfold obey
  dsimp only
  split <;> rfl

/-- A command hands out the number that it does without traffic. -/
theorem obey_handles
    (traffic : Traffic)
    (command : Command)
    (credential : CredentialState)
    (moment : Moment) :
    (traffic.obey command credential moment).handles =
      (traffic.chat.handle command credential
        moment.now).result.handle?.toList := by
  unfold obey Scene.handles
  dsimp only
  split
  next outcome comes =>
    rw [List.filterMap_append, shown_handles, comes]
    rcases outcome with fault | _ | handle <;> rfl
  next tab procedure comes =>
    rw [List.filterMap_append, shown_handles, stretch_sights_handles, comes]
    rfl

/-- What happens queues no job, or one with the next number. -/
theorem follow?_handles
    (known : Known policy acts traffic.chat)
    (followed : traffic.follow? policy happening = some scene) :
    scene.handles = [] ∧
        scene.traffic.chat.nextHandle = traffic.chat.nextHandle ∨
      scene.handles = [traffic.chat.nextHandle] ∧
        scene.traffic.chat.nextHandle = traffic.chat.nextHandle + 1 := by
  cases happening with
  | command command credential moment =>
      cases followed
      rw [obey_chat, obey_handles]
      rcases Chat.counts_handle known command credential moment.now with
        ⟨none, same⟩ | ⟨some, next⟩
      · rw [none]
        exact .inl ⟨rfl, same⟩
      · rw [some]
        exact .inr ⟨rfl, next⟩
  | session number move =>
      obtain ⟨session, found, goesOn⟩ :=
        Option.bind_eq_some_iff.mp followed
      obtain ⟨after, moved, rfl⟩ := Option.map_eq_some_iff.mp goesOn
      exact .inl ⟨shown_handles after.2, rfl⟩
  | reply number moment request answer =>
      obtain ⟨saving, found, goesOn⟩ :=
        Option.bind_eq_some_iff.mp followed
      obtain ⟨stretch, -, rfl⟩ := Option.map_eq_some_iff.mp goesOn
      exact .inl ⟨stretch_sights_handles _ _ _, rfl⟩

/-! ## What happens in the own part -/

/-- The own sights of two series together are those of each. -/
theorem ownSights_append
    (jobs : Nat → Bool)
    (traffic : Traffic)
    (first second : List Sight) :
    ownSights sessionId jobs traffic (first ++ second) =
      ownSights sessionId jobs traffic first ++
        ownSights sessionId jobs traffic second := by
  simp [ownSights]

/-- The own sights of what is shown are the own outputs. -/
theorem ownSights_shown
    (sessionId : String)
    (jobs : Nat → Bool)
    (traffic : Traffic)
    (outputs : List Output) :
    ownSights sessionId jobs traffic (outputs.map Sight.shown) =
      (ownOutputs sessionId jobs outputs).map Sight.shown := by
  simp [ownSights, ownOutputs, List.filter_map, Function.comp_def,
    Sight.isOf, Sight.renumbered]

/-- What is seen of a saving is seen of it in the own part. -/
theorem ownSights_stretch
    (sessionId : String)
    (jobs : Nat → Bool)
    (traffic : Traffic)
    (number : Nat)
    (stretch : Stretch (Except Fault Unit)) :
    ownSights sessionId jobs traffic (stretch.sights sessionId number) =
      stretch.sights sessionId (traffic.savingPlace sessionId number) := by
  rw [ownSights,
    List.filter_eq_self.mpr (stretch_sights_isOf sessionId number stretch)]
  simp only [Stretch.sights, List.map_append, List.map_map]
  congr 1
  · refine List.map_congr_left fun output among => ?_
    obtain ⟨deed, -, seen⟩ := List.mem_filterMap.mp among
    cases deed with
    | said | asked =>
        cases seen
        rfl
    | answered =>
        cases seen
  · cases stretch.reached.outcome? <;> rfl

/-- A command to the tab, or to every session, does the same in the own part. -/
theorem obey_own
    {jobs : Nat → Bool}
    {command : Command}
    {credential : CredentialState}
    {moment : Moment}
    (concerns : command.addressee?.all (· = sessionId) = true)
    (isOwnPart :
      (traffic.chat.handle command credential moment.now).IsOwnPart
        sessionId jobs
        ((traffic.own sessionId jobs).chat.handle command credential
          moment.now)) :
    (traffic.own sessionId jobs).obey command credential moment =
      (traffic.obey command credential moment).own sessionId jobs
        traffic := by
  obtain ⟨chat, outputs, result⟩ := isOwnPart
  unfold obey
  dsimp only
  rw [result, chat, outputs]
  cases comes :
      (traffic.chat.handle command credential moment.now).result with
  | finished outcome =>
      simp only [CommandResult.renumbered, Scene.own, ownSights_append,
        ownSights_shown]
      rfl
  | download tab procedure =>
      obtain ⟨_, _, rfl, -⟩ := Chat.handle_eq_download comes
      have named : tab = sessionId := by
        simpa [Command.addressee?] using concerns
      cases named
      simp only [CommandResult.renumbered, Scene.own, ownSights_append,
        ownSights_shown, ownSights_stretch]
      have place :
          traffic.savingPlace sessionId traffic.savings.length =
            (traffic.own sessionId jobs).savings.length :=
        placeAmong_length
      rw [place]
      congr 2
      simp [own, Saving.isOf]

/-- What happens to the tab, or to every session, happens so in the own part. -/
theorem follow?_own
    {jobs : Nat → Bool}
    (known : Known policy acts traffic.chat)
    (once : traffic.chat.registry.EachOnce)
    (autonomous : happening.isAutonomous = true)
    (followed : traffic.follow? policy happening = some scene)
    (concerns : happening.concerns sessionId traffic = true)
    (counted : ∀ handle ∈ scene.handles, jobs handle = true) :
    (traffic.own sessionId jobs).follow? policy
        (happening.own sessionId traffic) =
      some (scene.own sessionId jobs traffic) := by
  cases happening with
  | command command credential moment =>
      cases followed
      rw [obey_handles] at counted
      refine congrArg some (obey_own concerns ?_)
      cases addressed : command.addressee? with
      | some tab =>
          have named : tab = sessionId := by
            simpa [Happening.concerns, Happening.addressee?, addressed]
              using concerns
          refine Chat.isOwnPart_handle known (named ▸ addressed) ?_
          intro handle tells
          exact counted handle (by simp [tells])
      | none =>
          cases command with
          | authChanged tab authenticated =>
              exact Chat.isOwnPart_authChanged known once sessionId jobs
                authenticated credential
          | _ =>
              cases addressed
  | session number move =>
      obtain ⟨session, found, goesOn⟩ :=
        Option.bind_eq_some_iff.mp followed
      obtain ⟨after, moved, rfl⟩ := Option.map_eq_some_iff.mp goesOn
      have named : session.sessionId = sessionId := by
        simpa [Happening.concerns, Happening.addressee?, found] using
          concerns
      have outputs := Session.move?_outputs_isOf autonomous moved
      rw [named] at outputs
      have sameMove : move.renumbered (rank jobs) = move := by
        cases move with
        | signal =>
            cases autonomous
        | proceed | elapse | receive =>
            rfl
      have movedToo := session.move?_renumbered (rank jobs) policy move
      rw [sameMove, moved] at movedToo
      refine Option.bind_eq_some_iff.mpr
        ⟨_, Chat.own_session? jobs found named, ?_⟩
      refine Option.map_eq_some_iff.mpr ⟨_, movedToo, ?_⟩
      have updated :=
        @Chat.own_update sessionId jobs traffic.chat number session after.1
          found named (Session.move?_sessionId moved)
      have seen := ownSights_shown sessionId jobs traffic after.2
      rw [ownOutputs_eq_map jobs outputs] at seen
      simp only [Scene.own, own, updated, seen]
      rfl
  | reply number moment request answer =>
      obtain ⟨saving, found, goesOn⟩ :=
        Option.bind_eq_some_iff.mp followed
      obtain ⟨stretch, received, rfl⟩ := Option.map_eq_some_iff.mp goesOn
      have named : saving.sessionId = sessionId := by
        simpa [Happening.concerns, Happening.addressee?, found] using
          concerns
      subst named
      have isOf : saving.isOf saving.sessionId = true :=
        decide_eq_true rfl
      refine Option.bind_eq_some_iff.mpr
        ⟨saving, getElem?_filter_placeAmong found isOf, ?_⟩
      refine Option.map_eq_some_iff.mpr ⟨stretch, received, ?_⟩
      have replaced :=
        @filter_set_chosen _ (Saving.isOf saving.sessionId) _ _ _
          ⟨saving.sessionId, stretch.reached⟩ found isOf isOf
      simp only [Scene.own, own, replaced, ownSights_stretch]
      rfl

/-- What happens to another tab leaves the own part. -/
theorem Serves.own_eq
    {jobs : Nat → Bool}
    {other : String}
    (serves : traffic.Serves other scene)
    (elsewhere : other ≠ sessionId)
    (sameCount :
      rank jobs scene.traffic.chat.nextHandle =
        rank jobs traffic.chat.nextHandle) :
    scene.traffic.own sessionId jobs = traffic.own sessionId jobs := by
  have savings :
      AgreeOn (Saving.isOf sessionId) traffic.savings
        scene.traffic.savings := by
    refine serves.savings.agreeOn fun saving named => ?_
    have name : saving.sessionId = other := by
      simpa [Saving.isOf] using named
    simp [Saving.isOf, name, elsewhere]
  simp only [own, serves.chat.own_eq elsewhere sameCount,
    savings.filter_eq]

end Traffic

end AssessmentChat
