import AssessmentChat.Proofs.OwnCourse
import AssessmentChat.Proofs.OwnHappenings

namespace AssessmentChat

/-!
# Sessions are isolated

A history of a chat, in which the happenings of all tabs come in any order, contains a
history of each tab: that of its own happenings and of the commands that concern every
session.  What is shown under the name of the tab and what its jobs come to is the
same in both.
-/

/-! ## What is shown -/

/-- An event is shown under the name of the tab that the sight belongs to. -/
theorem Sight.event?_sessionId
    {sessionId : String}
    {event : Event}
    (sight : Sight)
    (isOf : sight.isOf sessionId = true)
    (shows : sight.event? = some event) :
    event.sessionId = sessionId := by
  cases sight with
  | shown output =>
      cases output with
      | published event =>
          cases shows
          simpa [Sight.isOf, Output.isOf] using isOf
      | called | resolved =>
          cases shows
  | answered | saved =>
      cases shows

/-- The own part of some sights shows what they show under the name of the tab. -/
theorem ownSights_events
    (sessionId : String)
    (jobs : Nat → Bool)
    (traffic : Traffic)
    (sights : List Sight) :
    (ownSights sessionId jobs traffic sights).filterMap Sight.event? =
      (sights.filterMap Sight.event?).filter
        fun event => event.sessionId = sessionId := by
  induction sights with
  | nil =>
      rfl
  | cons first rest inductionHypothesis =>
      have cons :
          ownSights sessionId jobs traffic (first :: rest) =
            ownSights sessionId jobs traffic [first] ++
              ownSights sessionId jobs traffic rest :=
        Traffic.ownSights_append jobs traffic [first] rest
      rw [cons, List.filterMap_append, inductionHypothesis]
      cases first with
      | shown output =>
          cases output with
          | published event =>
              by_cases here : event.sessionId = sessionId
              · simp [ownSights, Sight.isOf, Output.isOf, here,
                  Sight.renumbered, Output.renumbered, Sight.event?]
              · simp [ownSights, Sight.isOf, Output.isOf, here,
                  Sight.event?]
          | called | resolved =>
              rfl
      | answered | saved =>
          rfl

/-- All that belongs to other tabs is the same, and nothing is shown under their names. -/
structure Traffic.SparesOthers
    (sessionId : String)
    (traffic : Traffic)
    (scene : Scene) : Prop where
  tabs :
    ∀ tab,
      tab ≠ sessionId →
      scene.traffic.chat.registry.find? tab =
        traffic.chat.registry.find? tab
  sessions :
    ∀ number session,
      traffic.chat.registry.session? number = some session →
      session.sessionId ≠ sessionId →
      scene.traffic.chat.registry.session? number = some session
  savings :
    ∀ (number : Nat) (saving : Saving),
      traffic.savings[number]? = some saving →
      saving.sessionId ≠ sessionId →
      scene.traffic.savings[number]? = some saving
  events :
    ∀ event,
      .shown (.published event) ∈ scene.sights →
      event.sessionId = sessionId

/-! ## Histories -/

/-- One happening of a history, what was there before it and what it led to. -/
structure Episode where
  before : Traffic
  happening : Happening
  scene : Scene

namespace Episode

/-- Whether an episode concerns a tab. -/
def concerns (sessionId : String) (episode : Episode) : Bool :=
  episode.happening.concerns sessionId episode.before

/-- An episode of a tab as it is in the own part. -/
def own
    (sessionId : String)
    (jobs : Nat → Bool)
    (episode : Episode) : Episode where
  before := episode.before.own sessionId jobs
  happening := episode.happening.own sessionId episode.before
  scene := episode.scene.own sessionId jobs episode.before

/-- What is shown in an episode. -/
def events (episode : Episode) : List Event :=
  episode.scene.sights.filterMap Sight.event?

end Episode

/-- The history of a chat: its episodes and the traffic to which they have led. -/
inductive History (policy : PollPolicy) : List Episode → Traffic → Prop where
  | start :
      History policy [] ⟨.empty, []⟩
  | goOn
      {episodes : List Episode}
      {traffic : Traffic}
      {happening : Happening}
      {scene : Scene} :
      History policy episodes traffic →
      happening.isAutonomous = true →
      traffic.follow? policy happening = some scene →
      History policy (episodes ++ [⟨traffic, happening, scene⟩])
        scene.traffic

/-- The episodes of some happenings, one after another, and the traffic that they lead to. -/
def Traffic.replay?
    (policy : PollPolicy)
    (traffic : Traffic) : List Happening → Option (List Episode × Traffic)
  | [] => some ([], traffic)
  | happening :: rest =>
      (traffic.follow? policy happening).bind fun scene =>
        (scene.traffic.replay? policy rest).map fun last =>
          (⟨traffic, happening, scene⟩ :: last.1, last.2)

/-- A history goes on with what can happen, while sessions move by themselves. -/
theorem History.replay
    {policy : PollPolicy}
    {episodes : List Episode}
    {traffic : Traffic}
    {happenings : List Happening}
    {last : List Episode × Traffic}
    (history : History policy episodes traffic)
    (autonomous :
      happenings.all Happening.isAutonomous = true)
    (replayed : traffic.replay? policy happenings = some last) :
    History policy (episodes ++ last.1) last.2 := by
  induction happenings generalizing episodes traffic last with
  | nil =>
      cases replayed
      simpa using history
  | cons happening rest inductionHypothesis =>
      obtain ⟨scene, followed, goesOn⟩ :=
        Option.bind_eq_some_iff.mp replayed
      obtain ⟨later, restReplayed, rfl⟩ := Option.map_eq_some_iff.mp goesOn
      obtain ⟨first, others⟩ := Bool.and_eq_true_iff.mp autonomous
      simpa using
        inductionHypothesis (history.goOn first followed) others
          restReplayed

/-- The episodes that concern a tab, as they are in its own part. -/
def ownEpisodes
    (sessionId : String)
    (jobs : Nat → Bool)
    (episodes : List Episode) : List Episode :=
  (episodes.filter (Episode.concerns sessionId)).map
    (Episode.own sessionId jobs)

theorem ownEpisodes_snoc
    (sessionId : String)
    (jobs : Nat → Bool)
    (episodes : List Episode)
    (last : Episode) :
    ownEpisodes sessionId jobs (episodes ++ [last]) =
      ownEpisodes sessionId jobs episodes ++
        if last.concerns sessionId then [last.own sessionId jobs]
        else [] := by
  unfold ownEpisodes
  cases concerns : last.concerns sessionId <;> simp [concerns]

/-- Which jobs were queued for a tab. -/
def jobsOf (sessionId : String) (episodes : List Episode) (handle : Nat) : Bool :=
  episodes.any fun episode =>
    episode.concerns sessionId && episode.scene.handles.contains handle

/-- Whether jobs are those that were queued for a tab. -/
def AreJobsOf
    (sessionId : String)
    (jobs : Nat → Bool)
    (episodes : List Episode) : Prop :=
  ∀ episode ∈ episodes,
    ∀ handle ∈ episode.scene.handles,
      jobs handle = episode.concerns sessionId

namespace History

variable
  {policy : PollPolicy}
  {episodes : List Episode}
  {traffic : Traffic}
  {sessionId : String}
  {jobs : Nat → Bool}

/-- The sessions go through a course of what commands do and workers do. -/
theorem regular_course
    (history : History policy episodes traffic) :
    ∃ acts,
      (∀ act ∈ acts, act.IsRegular) ∧
        Course policy acts traffic.chat := by
  induction history with
  | start =>
      exact ⟨[], List.forall_mem_nil _, .start⟩
  | goOn _ autonomous followed inductionHypothesis =>
      obtain ⟨acts, regular, course⟩ := inductionHypothesis
      obtain ⟨later, regularToo, goesOn⟩ :=
        course.follow (fun number move same => by
          subst same
          exact autonomous) followed
      exact ⟨acts ++ later, List.forall_mem_append.mpr ⟨regular, regularToo⟩,
        goesOn⟩

/-- The sessions go through the course of a chat. -/
theorem course
    (history : History policy episodes traffic) :
    ∃ acts, Course policy acts traffic.chat := by
  obtain ⟨acts, -, course⟩ := history.regular_course
  exact ⟨acts, course⟩

/-- The numbers of jobs are given out in order. -/
theorem handles_lt
    (history : History policy episodes traffic) :
    ∀ episode ∈ episodes,
      ∀ handle ∈ episode.scene.handles,
        handle < traffic.chat.nextHandle := by
  induction history with
  | start =>
      simp
  | goOn history _ followed inductionHypothesis =>
      obtain ⟨acts, course⟩ := history.course
      have counts := Traffic.follow?_handles course.known followed
      intro episode among handle tells
      rcases List.mem_append.mp among with earlier | last
      · have before := inductionHypothesis episode earlier handle tells
        rcases counts with ⟨-, next⟩ | ⟨-, next⟩ <;> omega
      · cases List.mem_singleton.mp last
        rcases counts with ⟨none, -⟩ | ⟨some, next⟩
        · rw [none] at tells
          cases tells
        · rw [some] at tells
          cases List.mem_singleton.mp tells
          omega

theorem jobsOf_snoc
    (sessionId : String)
    (episodes : List Episode)
    (last : Episode)
    (handle : Nat) :
    jobsOf sessionId (episodes ++ [last]) handle =
      (jobsOf sessionId episodes handle ||
        (last.concerns sessionId && last.scene.handles.contains handle)) := by
  simp [jobsOf]

/-- The number of the next job is not that of an earlier one. -/
theorem jobsOf_nextHandle
    (history : History policy episodes traffic)
    (sessionId : String) :
    jobsOf sessionId episodes traffic.chat.nextHandle = false := by
  refine List.any_eq_false.mpr fun episode among both => ?_
  obtain ⟨-, tells⟩ := Bool.and_eq_true_iff.mp both
  exact Nat.lt_irrefl _
    (history.handles_lt episode among _ (by simpa using tells))

/-- No number is given to two jobs, so the jobs of a tab are told apart. -/
theorem areJobsOf
    (history : History policy episodes traffic)
    (sessionId : String) :
    AreJobsOf sessionId (jobsOf sessionId episodes) episodes := by
  induction history with
  | start =>
      simp [AreJobsOf]
  | goOn history _ followed inductionHypothesis =>
      obtain ⟨acts, course⟩ := history.course
      have counts := Traffic.follow?_handles course.known followed
      intro episode among handle tells
      rw [jobsOf_snoc]
      rcases List.mem_append.mp among with earlier | last
      · have before := history.handles_lt episode earlier handle tells
        rw [inductionHypothesis episode earlier handle tells]
        rcases counts with ⟨none, -⟩ | ⟨some, -⟩
        · simp [none]
        · simp [some, Nat.ne_of_lt before]
      · cases List.mem_singleton.mp last
        rcases counts with ⟨none, -⟩ | ⟨some, -⟩
        · rw [none] at tells
          cases tells
        · rw [some] at tells
          cases List.mem_singleton.mp tells
          rw [history.jobsOf_nextHandle, some]
          simp

/-- What does not concern a tab happens to another one. -/
theorem serves_of_elsewhere
    (history : History policy episodes traffic)
    {happening : Happening}
    {scene : Scene}
    (autonomous : happening.isAutonomous = true)
    (followed : traffic.follow? policy happening = some scene)
    (elsewhere : happening.concerns sessionId traffic = false) :
    ∃ other, other ≠ sessionId ∧ traffic.Serves other scene := by
  obtain ⟨acts, course⟩ := history.course
  cases addressed : happening.addressee? traffic with
  | none =>
      simp [Happening.concerns, addressed] at elsewhere
  | some other =>
      refine ⟨other, ?_,
        Traffic.serves_follow course.known autonomous followed addressed⟩
      simpa [Happening.concerns, addressed] using elsewhere

/-- What belongs to a tab has a history of its own. -/
theorem own
    (history : History policy episodes traffic)
    (areJobs : AreJobsOf sessionId jobs episodes) :
    History policy (ownEpisodes sessionId jobs episodes)
      (traffic.own sessionId jobs) := by
  induction history with
  | start =>
      exact .start
  | @goOn earlier traffic happening scene history autonomous followed
      inductionHypothesis =>
      obtain ⟨acts, course⟩ := history.course
      have ownHistory :=
        inductionHypothesis fun episode among =>
          areJobs episode (List.mem_append_left _ among)
      have counted :
          ∀ handle ∈ scene.handles,
            jobs handle = happening.concerns sessionId traffic :=
        areJobs ⟨traffic, happening, scene⟩ (by simp)
      cases concerns : happening.concerns sessionId traffic with
      | true =>
          rw [concerns] at counted
          have followedToo :=
            Traffic.follow?_own course.known course.eachOnce autonomous
              followed concerns counted
          have autonomousToo :
              (happening.own sessionId traffic).isAutonomous = true := by
            cases happening <;> exact autonomous
          rw [ownEpisodes_snoc, Episode.concerns, if_pos concerns]
          exact ownHistory.goOn autonomousToo followedToo
      | false =>
          rw [concerns] at counted
          obtain ⟨other, elsewhere, serves⟩ :=
            history.serves_of_elsewhere autonomous followed concerns
          have sameCount :
              rank jobs scene.traffic.chat.nextHandle =
                rank jobs traffic.chat.nextHandle := by
            rcases Traffic.follow?_handles course.known followed with
              ⟨-, same⟩ | ⟨some, next⟩
            · rw [same]
            · rw [next, rank_succ, counted _ (by simp [some])]
              rfl
          rw [serves.own_eq elsewhere sameCount, ownEpisodes_snoc,
            Episode.concerns, concerns]
          simpa using ownHistory

/-- What is shown under the name of a tab is what is shown in its own history. -/
theorem own_events
    (history : History policy episodes traffic)
    (sessionId : String)
    (jobs : Nat → Bool) :
    (ownEpisodes sessionId jobs episodes).flatMap Episode.events =
      (episodes.flatMap Episode.events).filter
        fun event => event.sessionId = sessionId := by
  induction history with
  | start =>
      rfl
  | @goOn earlier traffic happening scene history autonomous followed
      inductionHypothesis =>
      rw [ownEpisodes_snoc, List.flatMap_append, List.flatMap_append,
        List.filter_append, inductionHypothesis, Episode.concerns]
      congr 1
      cases concerns : happening.concerns sessionId traffic with
      | true =>
          simpa [Episode.events, Episode.own, Scene.own] using
            ownSights_events sessionId jobs traffic scene.sights
      | false =>
          obtain ⟨other, elsewhere, serves⟩ :=
            history.serves_of_elsewhere autonomous followed concerns
          have hidden :
              (scene.sights.filterMap Sight.event?).filter
                  (fun event => event.sessionId = sessionId) =
                [] := by
            refine List.filter_eq_nil_iff.mpr fun event among => ?_
            obtain ⟨sight, seen, shows⟩ := List.mem_filterMap.mp among
            have named :=
              sight.event?_sessionId (serves.sights sight seen) shows
            simp [named, elsewhere]
          simpa [Episode.events] using hidden.symm

/-- What happens to a tab spares the others. -/
theorem spares
    (history : History policy episodes traffic)
    {happening : Happening}
    {scene : Scene}
    (autonomous : happening.isAutonomous = true)
    (followed : traffic.follow? policy happening = some scene)
    (addressed : happening.addressee? traffic = some sessionId) :
    traffic.SparesOthers sessionId scene := by
  obtain ⟨acts, course⟩ := history.course
  obtain ⟨chat, savings, sights⟩ :=
    Traffic.serves_follow course.known autonomous followed addressed
  refine ⟨chat.tabs, ?_, ?_, ?_⟩
  · intro number session found elsewhere
    exact chat.sessions.getElem?_eq found (decide_eq_false elsewhere)
  · intro number saving found elsewhere
    exact savings.getElem?_eq found (decide_eq_false elsewhere)
  · intro event among
    exact Sight.event?_sessionId _ (sights _ among) rfl

end History

/--
Sessions are isolated.  What happens to a tab leaves the other tabs, their sessions
and their savings as they are, and shows nothing under another name.  In every history
of a chat the episodes that concern a tab, taken alone, are a history of its own part:
its sessions and savings, its tab, what its jobs come to and what is shown under its
name are the same, but for the numbers of sessions, savings and jobs.  The sessions
alone are isolated also while commands overlap, for the acts on the sessions of a tab
are a course of its own part.
-/
theorem sessions_isolated
    {policy : PollPolicy}
    {episodes : List Episode}
    {traffic : Traffic}
    (history : History policy episodes traffic)
    (sessionId : String) :
    (∀ happening scene,
        happening.isAutonomous = true →
        traffic.follow? policy happening = some scene →
        happening.addressee? traffic = some sessionId →
        traffic.SparesOthers sessionId scene) ∧
      (∀ jobs,
        jobs = jobsOf sessionId episodes →
        History policy (ownEpisodes sessionId jobs episodes)
            (traffic.own sessionId jobs) ∧
          (ownEpisodes sessionId jobs episodes).flatMap Episode.events =
            (episodes.flatMap Episode.events).filter
              fun event => event.sessionId = sessionId) ∧
      ∀ acts chat jobs,
        Course policy acts chat →
        jobs = jobsQueued sessionId acts chat →
        Course policy (acts.filterMap (Act.own? sessionId jobs chat))
          (chat.own sessionId jobs) := by
  refine ⟨?_, ?_, ?_⟩
  · intro happening scene autonomous followed addressed
    exact history.spares autonomous followed addressed
  · rintro jobs rfl
    exact ⟨history.own (history.areJobsOf sessionId),
      history.own_events sessionId _⟩
  · rintro acts chat jobs course rfl
    refine course.own fun handle number queues => ?_
    rw [jobsQueued, queues]
    rfl

/-- One tab waits for an answer while another one is closed and opened again. -/
def reopening : List Happening :=
  let moment : Moment := ⟨"M1", ⟨0, 0⟩⟩
  [.command (.chatMessage "right" "goal") .connected moment,
    .session 0 (.proceed moment false),
    .command (.chatMessage "left" "goal") .connected moment,
    .command (.chatMessage "right" "go") .connected moment,
    .session 0 (.proceed moment false),
    .command (.tabClosed "left") .connected moment,
    .command (.help "left") .connected moment,
    .session 1 (.proceed moment false),
    .session 2 (.proceed moment false)]

/--
The sessions and the jobs of the tab that is opened again are numbered in its own
history as if it were alone.  The answer that the other tab waits for spares it.
-/
theorem reopened_tab_isolated :
    ∃ episodes traffic scene jobs,
      Traffic.replay? ⟨0, 3⟩ ⟨.empty, []⟩ reopening =
          some (episodes, traffic) ∧
        History ⟨0, 3⟩ episodes traffic ∧
        traffic.chat.registry.tabs = [("left", 2), ("right", 0)] ∧
        episodes.flatMap (fun episode => episode.scene.handles) =
          [0, 1, 2, 3] ∧
        jobs = jobsOf "left" episodes ∧
        History ⟨0, 3⟩ (ownEpisodes "left" jobs episodes)
          (traffic.own "left" jobs) ∧
        (traffic.own "left" jobs).chat.registry.tabs = [("left", 1)] ∧
        (ownEpisodes "left" jobs episodes).flatMap
            (fun episode => episode.scene.handles) =
          [0, 1] ∧
        traffic.follow? ⟨0, 3⟩
            (.session 0
              (.receive ⟨"M2", ⟨0, 0⟩⟩ .workspaceIsEmpty false)) =
          some scene ∧
        traffic.SparesOthers "right" scene := by
  let answered : Happening :=
    .session 0 (.receive ⟨"M2", ⟨0, 0⟩⟩ .workspaceIsEmpty false)
  have isPossible :
      (Traffic.replay? ⟨0, 3⟩ ⟨.empty, []⟩ reopening).isSome = true := by
    decide +kernel
  have numbers :
      (Traffic.replay? ⟨0, 3⟩ ⟨.empty, []⟩ reopening).map
          (fun last =>
            (last.2.chat.registry.tabs,
              last.1.flatMap fun episode => episode.scene.handles)) =
        some ([("left", 2), ("right", 0)], [0, 1, 2, 3]) := by
    decide +kernel
  have ownNumbers :
      (Traffic.replay? ⟨0, 3⟩ ⟨.empty, []⟩ reopening).map
          (fun last =>
            let jobs := jobsOf "left" last.1
            ((last.2.own "left" jobs).chat.registry.tabs,
              (ownEpisodes "left" jobs last.1).flatMap
                fun episode => episode.scene.handles)) =
        some ([("left", 1)], [0, 1]) := by
    decide +kernel
  have isAnswered :
      (Traffic.replay? ⟨0, 3⟩ ⟨.empty, []⟩ reopening).map
          (fun last =>
            ((last.2.follow? ⟨0, 3⟩
                (.session 0
                  (.receive ⟨"M2", ⟨0, 0⟩⟩ .workspaceIsEmpty
                    false))).isSome,
              (Happening.session 0
                (.receive ⟨"M2", ⟨0, 0⟩⟩ .workspaceIsEmpty
                  false)).addressee? last.2)) =
        some (true, some "right") := by
    decide +kernel
  obtain ⟨⟨episodes, traffic⟩, replayed⟩ :=
    Option.isSome_iff_exists.mp isPossible
  rw [replayed] at numbers ownNumbers isAnswered
  obtain ⟨tabs, handles⟩ := Prod.mk.inj (Option.some.inj numbers)
  obtain ⟨ownTabs, ownHandles⟩ :=
    Prod.mk.inj (Option.some.inj ownNumbers)
  obtain ⟨follows, addressed⟩ := Prod.mk.inj (Option.some.inj isAnswered)
  obtain ⟨scene, followed⟩ := Option.isSome_iff_exists.mp follows
  have history :=
    @History.replay ⟨0, 3⟩ _ _ reopening _ .start rfl replayed
  obtain ⟨spares, -, -⟩ := sessions_isolated history "right"
  obtain ⟨-, own, -⟩ := sessions_isolated history "left"
  exact ⟨episodes, traffic, scene, _, replayed, history, tabs, handles, rfl,
    (own _ rfl).1, ownTabs, ownHandles, followed,
    spares answered scene rfl followed addressed⟩

end AssessmentChat
