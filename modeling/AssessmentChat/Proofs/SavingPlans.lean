import AssessmentChat.Proofs.SessionIsolation
import AssessmentChat.Proofs.ShownNotices

namespace AssessmentChat

/-!
# Saving plans

The plan of a session is saved beside the session: a view of it is taken, and what
that view names is fetched and written while the session goes on.  The procedure has
four exits, and what has been done at each of them, or at one of the two points where
it waits, is one case of `SavingStands`.

A saving is spread over the episodes of a history: the command that begins it and the
answers that it gets, with anything else between them.  Put together they are a course
of its procedure, and none of them touches the chat.
-/

/-! ## The courses of a saving -/

/-- Whether a view names an assessment. -/
structure SessionSnapshot.Names
    (snapshot : SessionSnapshot)
    (engagementId : EngagementId)
    (assessmentId : AssessmentId) : Prop where
  engagement : snapshot.engagementId = some engagementId
  assessment : snapshot.assessmentId = some assessmentId

/-- Whether a view names no assessment. -/
def SessionSnapshot.NamesNone (snapshot : SessionSnapshot) : Prop :=
  snapshot.engagementId = none ∨ snapshot.assessmentId = none

theorem SessionSnapshot.names_or_namesNone (snapshot : SessionSnapshot) :
    (∃ engagementId assessmentId, snapshot.Names engagementId assessmentId) ∨
      snapshot.NamesNone := by
  cases engagement : snapshot.engagementId with
  | none =>
      exact .inr (.inl engagement)
  | some engagementId =>
      cases assessment : snapshot.assessmentId with
      | none =>
          exact .inr (.inr assessment)
      | some assessmentId =>
          exact .inl ⟨engagementId, assessmentId, engagement, assessment⟩

theorem SessionSnapshot.NamesNone.not_names
    {snapshot : SessionSnapshot}
    (namesNone : snapshot.NamesNone)
    {engagementId : EngagementId}
    {assessmentId : AssessmentId} :
    ¬ snapshot.Names engagementId assessmentId := by
  rintro ⟨engagement, assessment⟩
  rcases namesNone with none | none
  · rw [none] at engagement
    cases engagement
  · rw [none] at assessment
    cases assessment

/-- The request to write the plan of an assessment where the user wants it. -/
def exportRequest
    (destination : Option String)
    (assessmentId : AssessmentId)
    (content : String) : Request :=
  .exportPlan content (destination.getD (planFileName assessmentId))

/--
How far the saving of the plan that a view names can have got: what has been done,
the request in flight, and what the saving has come to.
-/
inductive SavingStands
    (snapshot : SessionSnapshot)
    (destination : Option String) :
    List Deed → Option Request → Option (Except Fault Unit) → Prop where
  | nothingToSave :
      snapshot.NamesNone →
      SavingStands snapshot destination
        [.said (.plainAnswer Wording.noPlanToDownload)] none (some (.ok ()))
  | downloading
      {engagementId : EngagementId}
      {assessmentId : AssessmentId} :
      snapshot.Names engagementId assessmentId →
      SavingStands snapshot destination
        [.asked (.service (.downloadPlan engagementId assessmentId))]
        (some (.service (.downloadPlan engagementId assessmentId))) none
  | notDownloaded
      {engagementId : EngagementId}
      {assessmentId : AssessmentId}
      (fault : Fault) :
      snapshot.Names engagementId assessmentId →
      SavingStands snapshot destination
        (ServiceCall.exchange (.downloadPlan engagementId assessmentId)
            (.error fault) ++
          [.said (.plainAnswer Wording.downloadFailed)])
        none (some (.error fault))
  | exporting
      {engagementId : EngagementId}
      {assessmentId : AssessmentId}
      (content : String) :
      snapshot.Names engagementId assessmentId →
      SavingStands snapshot destination
        (ServiceCall.exchange (.downloadPlan engagementId assessmentId)
            (.ok content) ++
          [.asked (exportRequest destination assessmentId content)])
        (some (exportRequest destination assessmentId content)) none
  | notExported
      {engagementId : EngagementId}
      {assessmentId : AssessmentId}
      (content : String)
      (fault : Fault) :
      snapshot.Names engagementId assessmentId →
      SavingStands snapshot destination
        (ServiceCall.exchange (.downloadPlan engagementId assessmentId)
            (.ok content) ++
          Request.exchange (exportRequest destination assessmentId content)
            (.error fault) ++
          [.said (.plainAnswer Wording.downloadFailed)])
        none (some (.error fault))
  | saved
      {engagementId : EngagementId}
      {assessmentId : AssessmentId}
      (content : String)
      (locator : ArtifactLocator) :
      snapshot.Names engagementId assessmentId →
      SavingStands snapshot destination
        (ServiceCall.exchange (.downloadPlan engagementId assessmentId)
            (.ok content) ++
          Request.exchange (exportRequest destination assessmentId content)
            (.ok locator) ++
          [.said (.plainAnswer (Wording.planDownloaded locator))])
        none (some (.ok ()))

namespace Chat

variable
  {policy : PollPolicy}
  {snapshot : SessionSnapshot}
  {destination : Option String}
  {engagementId : EngagementId}
  {assessmentId : AssessmentId}
  {deeds : List Deed}
  {activity : Activity (Except Fault Unit)}

/-- What is done with the answer of the store. -/
def concludeSaving :
    Except Fault ArtifactLocator → Procedure (Except Fault Unit)
  | .ok locator =>
      .publish (.plainAnswer (Wording.planDownloaded locator))
        (.finish (.ok ()))
  | .error fault =>
      .publish (.plainAnswer Wording.downloadFailed) (.finish (.error fault))

/-- What is done with the answer of the service. -/
def exportDownloaded
    (destination : Option String)
    (assessmentId : AssessmentId) :
    Except Fault String → Procedure (Except Fault Unit)
  | .ok content =>
      .ask (exportRequest destination assessmentId content) concludeSaving
  | .error fault => concludeSaving (.error fault)

theorem saveCurrentPlan_of_namesNone
    (namesNone : snapshot.NamesNone)
    (destination : Option String) :
    saveCurrentPlan snapshot destination =
      .publish (.plainAnswer Wording.noPlanToDownload)
        (.finish (.ok ())) := by
  unfold saveCurrentPlan
  split
  next engagement assessment =>
    exact absurd ⟨engagement, assessment⟩ namesNone.not_names
  next =>
    rfl

theorem saveCurrentPlan_of_names
    (names : snapshot.Names engagementId assessmentId)
    (destination : Option String) :
    saveCurrentPlan snapshot destination =
      .ask (.service (.downloadPlan engagementId assessmentId))
        (exportDownloaded destination assessmentId) := by
  rw [saveCurrentPlan, names.engagement, names.assessment]
  refine congrArg (Procedure.ask _) (funext fun answer => ?_)
  cases answer with
  | error fault =>
      rfl
  | ok content =>
      refine congrArg (Procedure.ask _) (funext fun stored => ?_)
      cases stored <;> rfl

/-- The answer of the store is told in one way or the other. -/
theorem concludeSaving_reaches
    {stored : Except Fault ArtifactLocator}
    (reaches : (concludeSaving stored).Reaches policy deeds activity) :
    (∃ locator,
        stored = .ok locator ∧
          deeds = [.said (.plainAnswer (Wording.planDownloaded locator))] ∧
          activity = .finished (.ok ())) ∨
      ∃ fault,
        stored = .error fault ∧
          deeds = [.said (.plainAnswer Wording.downloadFailed)] ∧
          activity = .finished (.error fault) := by
  cases stored with
  | ok locator =>
      cases reaches with
      | publish finished =>
          cases finished
          exact .inl ⟨locator, rfl, rfl, rfl⟩
  | error fault =>
      cases reaches with
      | publish finished =>
          cases finished
          exact .inr ⟨fault, rfl, rfl, rfl⟩

/-- The saving of a plan goes one of five ways. -/
theorem saveCurrentPlan_stands_of_names
    (names : snapshot.Names engagementId assessmentId)
    (reaches :
      (saveCurrentPlan snapshot destination).Reaches
        policy deeds activity) :
    SavingStands snapshot destination deeds activity.inFlight?
      activity.outcome? := by
  rw [saveCurrentPlan_of_names names] at reaches
  cases reaches with
  | asking =>
      exact .downloading names
  | answered downloaded exporting =>
      cases downloaded with
      | error fault =>
          have concluding :
              (concludeSaving (.error fault)).Reaches policy _ activity :=
            exporting
          obtain ⟨_, isOk, -⟩ | ⟨_, same, rfl, rfl⟩ :=
            concludeSaving_reaches concluding
          · cases isOk
          · cases same
            exact .notDownloaded fault names
      | ok content =>
          cases exporting with
          | asking =>
              exact .exporting content names
          | answered stored concluding =>
              rw [← List.append_assoc]
              obtain ⟨locator, rfl, rfl, rfl⟩ | ⟨fault, rfl, rfl, rfl⟩ :=
                concludeSaving_reaches concluding
              · exact .saved content locator names
              · exact .notExported content fault names

/-- Every course of a saving is one of the six. -/
theorem saveCurrentPlan_stands
    (reaches :
      (saveCurrentPlan snapshot destination).Reaches
        policy deeds activity) :
    SavingStands snapshot destination deeds activity.inFlight?
      activity.outcome? := by
  obtain ⟨engagementId, assessmentId, names⟩ | namesNone :=
    snapshot.names_or_namesNone
  · exact saveCurrentPlan_stands_of_names names reaches
  · rw [saveCurrentPlan_of_namesNone namesNone] at reaches
    cases reaches with
    | publish finished =>
        cases finished
        exact .nothingToSave namesNone

end Chat

namespace SavingStands

variable
  {snapshot : SessionSnapshot}
  {destination : Option String}
  {deeds : List Deed}
  {request? : Option Request}
  {outcome? : Option (Except Fault Unit)}

/-- A saving is answered once, when it is over. -/
theorem shown_eq
    (stands : SavingStands snapshot destination deeds request? outcome?) :
    ∃ messages : List String,
      shown deeds = messages.map Notice.plainAnswer ∧
        messages.length = outcome?.toList.length := by
  cases stands with
  | downloading | exporting =>
      exact ⟨[], rfl, rfl⟩
  | nothingToSave | notDownloaded | notExported | saved =>
      exact ⟨[_], rfl, rfl⟩

/-- A saving that is not over waits for an answer. -/
theorem request?_isSome
    (stands : SavingStands snapshot destination deeds request? outcome?) :
    request?.isSome = outcome?.isNone := by
  cases stands <;> rfl

end SavingStands

/-! ## Savings in a history -/

/-- What a sight shows to have been done. -/
def Sight.deed? : Sight → Option Deed
  | .shown (.published event) => some (.said event.notice)
  | .shown (.called request) => some (.asked request)
  | _ => none

/-- What a sight shows a saving to have come to. -/
def Sight.saved? : Sight → Option (Nat × Except Fault Unit)
  | .saved number outcome => some (number, outcome)
  | _ => none

/-- The answer that a happening brings. -/
def Happening.brought : Happening → List Deed
  | .reply _ _ request answer => [.answered request answer]
  | _ => []

namespace Episode

/-- Whether an episode begins a saving or brings an answer to it. -/
def isOfSaving (number : Nat) (episode : Episode) : Bool :=
  match episode.happening with
  | .command .. =>
      episode.before.savings.length = number &&
        number < episode.scene.traffic.savings.length
  | .session .. => false
  | .reply replied .. => replied = number

/-- What is done in an episode. -/
def deeds (episode : Episode) : List Deed :=
  episode.happening.brought ++ episode.scene.sights.filterMap Sight.deed?

/-- What savings come to in an episode. -/
def outcomes (episode : Episode) : List (Nat × Except Fault Unit) :=
  episode.scene.sights.filterMap Sight.saved?

end Episode

/-- The episodes of a saving. -/
def ofSaving (number : Nat) (episodes : List Episode) : List Episode :=
  episodes.filter (Episode.isOfSaving number)

/-- What is done for a saving. -/
def savingDeeds (number : Nat) (episodes : List Episode) : List Deed :=
  (ofSaving number episodes).flatMap Episode.deeds

/-- The saving of the plan of an open tab, in the episode that begins it. -/
structure Episode.Begins
    (number : Nat)
    (sessionId : String)
    (session : Session)
    (destination : Option String)
    (episode : Episode) : Prop where
  command :
    ∃ credential moment,
      episode.happening =
        .command (.downloadPlan sessionId destination) credential moment
  opened :
    ∃ place,
      episode.before.chat.registry.find? sessionId = some place ∧
        episode.before.chat.registry.session? place = some session
  number : episode.before.savings.length = number

/-- What the episodes of a saving have made of a procedure, and what is seen of it. -/
structure SavingSoFar
    (policy : PollPolicy)
    (procedure : Procedure (Except Fault Unit))
    (number : Nat)
    (episodes : List Episode)
    (saving : Saving) : Prop where
  course :
    procedure.Reaches policy (episodes.flatMap Episode.deeds)
      saving.activity
  outcomes :
    episodes.flatMap Episode.outcomes =
      saving.activity.outcome?.toList.map (number, ·)
  events :
    episodes.flatMap Episode.events =
      (shown (episodes.flatMap Episode.deeds)).map
        (Event.mk saving.sessionId)

/-- A saving in a history: its beginning and what has come of it. -/
structure SavingCourse
    (policy : PollPolicy)
    (episodes : List Episode)
    (number : Nat)
    (saving : Saving)
    (session : Session)
    (destination : Option String) : Prop where
  begun :
    ∃ earlier episode later,
      episodes = earlier ++ episode :: later ∧
        History policy earlier episode.before ∧
        episode.Begins number saving.sessionId session destination
  soFar :
    SavingSoFar policy (Chat.saveCurrentPlan session.snapshot destination)
      number (ofSaving number episodes) saving

section Sights

variable
  (sessionId : String)
  (number : Nat)
  (stretch : Stretch (Except Fault Unit))

/-- What is seen of a stretch is seen of its deeds and of its end. -/
theorem stretch_sights_filterMap
    (observe : Sight → Option β) :
    (stretch.sights sessionId number).filterMap observe =
      stretch.deeds.filterMap
          (fun deed =>
            (deed.output? sessionId).bind fun output =>
              observe (.shown output)) ++
        (stretch.reached.outcome?.toList.map
          (Sight.saved number)).filterMap observe := by
  rw [Stretch.sights, List.filterMap_append, List.filterMap_map,
    List.filterMap_filterMap]
  cases stretch.reached.outcome? <;> rfl

theorem stretch_sights_deeds :
    (stretch.sights sessionId number).filterMap Sight.deed? =
      stretch.deeds := by
  have seen (deed : Deed) (among : deed ∈ stretch.deeds) :
      ((deed.output? sessionId).bind fun output =>
          (Sight.shown output).deed?) =
        some deed := by
    rcases List.mem_append.mp among with said | asked
    · obtain ⟨notice, -, rfl⟩ := List.mem_map.mp said
      rfl
    · obtain ⟨request, -, rfl⟩ :=
        Option.map_eq_some_iff.mp (Option.mem_toList.mp asked)
      rfl
  rw [stretch_sights_filterMap, List.filterMap_congr seen,
    List.filterMap_some, List.filterMap_map]
  cases stretch.reached.outcome? <;> simp [Sight.deed?]

theorem stretch_sights_outcomes :
    (stretch.sights sessionId number).filterMap Sight.saved? =
      stretch.reached.outcome?.toList.map (number, ·) := by
  have notSaved :
      stretch.deeds.filterMap
          (fun deed =>
            (deed.output? sessionId).bind fun output =>
              (Sight.shown output).saved?) =
        [] := by
    refine List.filterMap_eq_nil_iff.mpr fun deed _ => ?_
    cases deed <;> rfl
  rw [stretch_sights_filterMap, notSaved, List.filterMap_map]
  cases stretch.reached.outcome? <;> rfl

theorem stretch_sights_events :
    (stretch.sights sessionId number).filterMap Sight.event? =
      (shown stretch.deeds).map (Event.mk sessionId) := by
  have seen (deed : Deed) :
      ((deed.output? sessionId).bind fun output =>
          (Sight.shown output).event?) =
        deed.notice?.map (Event.mk sessionId) := by
    cases deed <;> rfl
  simp only [stretch_sights_filterMap, seen, shown, List.map_filterMap]
  cases stretch.reached.outcome? <;> simp [Sight.event?]

end Sights

/-- An activity that gets an answer has not ended. -/
theorem Activity.outcome?_of_receive?
    {policy : PollPolicy}
    {freshName : String}
    {request : Request}
    {answer : request.Answer}
    {activity : Activity α}
    {stretch : Stretch α}
    (received :
      activity.receive? policy freshName request answer = some stretch) :
    activity.outcome? = none := by
  cases activity with
  | finished => cases received
  | asking | pausing | checking => rfl

/-- To save the plan of an open tab is left to be carried out. -/
theorem Chat.handle_downloadPlan
    {chat : Chat}
    {sessionId : String}
    {place : Nat}
    {session : Session}
    (found : chat.registry.find? sessionId = some place)
    (foundSession : chat.registry.session? place = some session)
    (destination : Option String)
    (credential : CredentialState)
    (now : Timestamp) :
    chat.handle (.downloadPlan sessionId destination) credential now =
      ⟨chat, [], [],
        .download sessionId
          (saveCurrentPlan session.snapshot destination)⟩ := by
  simp [handle, downloadPlan, found, foundSession]

namespace Traffic

/-- Only the command to save the plan of an open tab begins a saving. -/
theorem obey_savings
    (traffic : Traffic)
    (command : Command)
    (credential : CredentialState)
    (moment : Moment) :
    (traffic.obey command credential moment).traffic.savings =
        traffic.savings ∨
      ∃ sessionId destination place session,
        command = .downloadPlan sessionId destination ∧
          traffic.chat.registry.find? sessionId = some place ∧
          traffic.chat.registry.session? place = some session := by
  cases comes :
      (traffic.chat.handle command credential moment.now).result with
  | finished outcome =>
      refine .inl ?_
      simp only [obey, comes]
  | download sessionId procedure =>
      obtain ⟨snapshot, destination, rfl, -⟩ := Chat.handle_eq_download comes
      simp only [Chat.handle, Chat.downloadPlan] at comes
      split at comes
      next session opened =>
        obtain ⟨place, found, foundSession⟩ :=
          Option.bind_eq_some_iff.mp opened
        exact .inr ⟨sessionId, destination, place, session, rfl, found,
          foundSession⟩
      next =>
        cases comes

/-- That command always begins one, and does nothing else. -/
theorem obey_download
    {traffic : Traffic}
    {sessionId : String}
    {place : Nat}
    {session : Session}
    (found : traffic.chat.registry.find? sessionId = some place)
    (foundSession : traffic.chat.registry.session? place = some session)
    (destination : Option String)
    (credential : CredentialState)
    (moment : Moment) :
    let stretch :=
      (Chat.saveCurrentPlan session.snapshot destination).advance
        moment.freshName
    traffic.obey (.downloadPlan sessionId destination) credential moment =
      ⟨⟨traffic.chat, traffic.savings ++ [⟨sessionId, stretch.reached⟩]⟩,
        stretch.sights sessionId traffic.savings.length⟩ := by
  simp [obey, Chat.handle_downloadPlan found foundSession]

/-- The answer to a saving touches nothing but the saving. -/
theorem follow?_reply_eq_some
    {policy : PollPolicy}
    {traffic : Traffic}
    {number : Nat}
    {moment : Moment}
    {request : Request}
    {answer : request.Answer}
    {scene : Scene} :
    traffic.follow? policy (.reply number moment request answer) =
        some scene ↔
      ∃ saving stretch,
        traffic.savings[number]? = some saving ∧
          saving.activity.receive? policy moment.freshName request answer =
            some stretch ∧
          scene =
            ⟨⟨traffic.chat,
                traffic.savings.set number
                  ⟨saving.sessionId, stretch.reached⟩⟩,
              stretch.sights saving.sessionId number⟩ := by
  simp only [follow?, Option.bind_eq_some_iff, Option.map_eq_some_iff]
  constructor
  · rintro ⟨saving, found, stretch, received, rfl⟩
    exact ⟨saving, stretch, found, received, rfl⟩
  · rintro ⟨saving, stretch, found, received, rfl⟩
    exact ⟨saving, found, stretch, received, rfl⟩

end Traffic

theorem ofSaving_snoc
    (number : Nat)
    (episodes : List Episode)
    (last : Episode) :
    ofSaving number (episodes ++ [last]) =
      ofSaving number episodes ++
        if last.isOfSaving number then [last] else [] := by
  rw [ofSaving, List.filter_append, List.filter_singleton]
  cases last.isOfSaving number <;> rfl

namespace SavingCourse

variable
  {policy : PollPolicy}
  {episodes : List Episode}
  {number : Nat}
  {saving : Saving}
  {session : Session}
  {destination : Option String}

/-- A saving goes on with what its next episode makes of it. -/
theorem goOn
    (course :
      SavingCourse policy episodes number saving session destination)
    {last : Episode}
    {after : Saving}
    (sameTab : after.sessionId = saving.sessionId)
    (soFar :
      SavingSoFar policy
        (Chat.saveCurrentPlan session.snapshot destination) number
        (ofSaving number (episodes ++ [last])) after) :
    SavingCourse policy (episodes ++ [last]) number after session
      destination := by
  obtain ⟨⟨earlier, episode, later, split, history, begins⟩, -⟩ := course
  refine ⟨⟨earlier, episode, later ++ [last], ?_, history, ?_⟩, soFar⟩
  · rw [split, List.append_assoc, List.cons_append]
  · rw [sameTab]
    exact begins

/-- What does not belong to a saving leaves it where it stands. -/
theorem elsewhere
    (course :
      SavingCourse policy episodes number saving session destination)
    {last : Episode}
    (notOf : last.isOfSaving number = false) :
    SavingCourse policy (episodes ++ [last]) number saving session
      destination := by
  refine course.goOn rfl ?_
  rw [ofSaving_snoc, notOf]
  simpa using course.soFar

end SavingCourse

namespace SavingSoFar

variable
  {policy : PollPolicy}
  {procedure : Procedure (Except Fault Unit)}
  {number : Nat}
  {episodes : List Episode}
  {saving : Saving}

theorem begin
    (procedure : Procedure (Except Fault Unit))
    (number : Nat)
    (sessionId : String)
    {episode : Episode}
    {freshName : String}
    (brought : episode.happening.brought = [])
    (sights :
      episode.scene.sights =
        (procedure.advance freshName).sights sessionId number) :
    SavingSoFar policy procedure number [episode]
      ⟨sessionId, (procedure.advance freshName).reached⟩ := by
  have deeds : episode.deeds = (procedure.advance freshName).deeds := by
    rw [Episode.deeds, brought, sights, stretch_sights_deeds]
    rfl
  refine ⟨?_, ?_, ?_⟩
  · rw [List.flatMap_singleton, deeds]
    exact .advance policy freshName procedure
  · rw [List.flatMap_singleton, Episode.outcomes, sights,
      stretch_sights_outcomes]
  · rw [List.flatMap_singleton, List.flatMap_singleton, Episode.events,
      sights, stretch_sights_events, deeds]

/-- A saving goes on with an answer. -/
theorem receive
    (soFar : SavingSoFar policy procedure number episodes saving)
    {episode : Episode}
    {freshName : String}
    {request : Request}
    {answer : request.Answer}
    {stretch : Stretch (Except Fault Unit)}
    (received :
      saving.activity.receive? policy freshName request answer =
        some stretch)
    (brought : episode.happening.brought = [.answered request answer])
    (sights :
      episode.scene.sights = stretch.sights saving.sessionId number) :
    SavingSoFar policy procedure number (episodes ++ [episode])
      ⟨saving.sessionId, stretch.reached⟩ := by
  obtain ⟨course, outcomes, events⟩ := soFar
  have deeds :
      episode.deeds = .answered request answer :: stretch.deeds := by
    rw [Episode.deeds, brought, sights, stretch_sights_deeds]
    rfl
  have goesOn := course.receive received
  refine ⟨?_, ?_, ?_⟩
  · rw [List.flatMap_append, List.flatMap_singleton, deeds]
    exact goesOn
  · rw [List.flatMap_append, List.flatMap_singleton, outcomes,
      Activity.outcome?_of_receive? received, Episode.outcomes, sights,
      stretch_sights_outcomes]
    rfl
  · rw [List.flatMap_append, List.flatMap_append, List.flatMap_singleton,
      List.flatMap_singleton, events, Episode.events, sights,
      stretch_sights_events, deeds, shown_append, List.map_append]
    rfl

end SavingSoFar

theorem getElem?_concat_eq_some
    {list : List α}
    {last element : α}
    {number : Nat}
    (found : (list ++ [last])[number]? = some element) :
    (number < list.length ∧ list[number]? = some element) ∨
      (number = list.length ∧ element = last) := by
  rw [List.getElem?_append] at found
  split at found
  next inside =>
    exact .inl ⟨inside, found⟩
  next beyond =>
    obtain ⟨isFirst, same⟩ := List.getElem?_eq_some_iff.mp found
    rw [List.length_singleton] at isFirst
    exact .inr ⟨by omega, by simpa using same.symm⟩

/-- What a happening is to the savings of a chat. -/
inductive SavingStep
    (policy : PollPolicy)
    (traffic : Traffic) : Happening → Scene → Prop where
  | elsewhere
      {happening : Happening}
      {scene : Scene} :
      scene.traffic.savings = traffic.savings →
      (∀ number,
        Episode.isOfSaving number ⟨traffic, happening, scene⟩ = false) →
      SavingStep policy traffic happening scene
  | begun
      {sessionId : String}
      {place : Nat}
      {session : Session}
      {destination : Option String}
      {credential : CredentialState}
      {moment : Moment}
      {stretch : Stretch (Except Fault Unit)} :
      traffic.chat.registry.find? sessionId = some place →
      traffic.chat.registry.session? place = some session →
      (Chat.saveCurrentPlan session.snapshot destination).advance
          moment.freshName =
        stretch →
      SavingStep policy traffic
        (.command (.downloadPlan sessionId destination) credential moment)
        ⟨⟨traffic.chat,
            traffic.savings ++ [⟨sessionId, stretch.reached⟩]⟩,
          stretch.sights sessionId traffic.savings.length⟩
  | answered
      {number : Nat}
      {saving : Saving}
      {moment : Moment}
      {request : Request}
      {answer : request.Answer}
      {stretch : Stretch (Except Fault Unit)} :
      traffic.savings[number]? = some saving →
      saving.activity.receive? policy moment.freshName request answer =
        some stretch →
      SavingStep policy traffic (.reply number moment request answer)
        ⟨⟨traffic.chat,
            traffic.savings.set number
              ⟨saving.sessionId, stretch.reached⟩⟩,
          stretch.sights saving.sessionId number⟩

theorem Traffic.savingStep
    {policy : PollPolicy}
    {traffic : Traffic}
    {happening : Happening}
    {scene : Scene}
    (followed : traffic.follow? policy happening = some scene) :
    SavingStep policy traffic happening scene := by
  cases happening with
  | command command credential moment =>
      cases followed
      obtain same | ⟨sessionId, destination, place, session, rfl, found,
          foundSession⟩ := traffic.obey_savings command credential moment
      · refine .elsewhere same fun number => ?_
        simp only [Episode.isOfSaving, same]
        grind
      · rw [Traffic.obey_download found foundSession]
        exact .begun found foundSession rfl
  | session number move =>
      obtain ⟨session, -, goesOn⟩ := Option.bind_eq_some_iff.mp followed
      obtain ⟨after, -, rfl⟩ := Option.map_eq_some_iff.mp goesOn
      exact .elsewhere rfl fun _ => rfl
  | reply number moment request answer =>
      obtain ⟨saving, stretch, found, received, rfl⟩ :=
        Traffic.follow?_reply_eq_some.mp followed
      exact .answered found received

namespace History

variable
  {policy : PollPolicy}
  {episodes : List Episode}
  {traffic : Traffic}

/-- Nothing has been done for a saving that has not been begun. -/
theorem ofSaving_unbegun
    (history : History policy episodes traffic) :
    ∀ number,
      traffic.savings.length ≤ number →
      ofSaving number episodes = [] := by
  induction history with
  | start =>
      intro number _
      rfl
  | @goOn episodes traffic happening scene _ _ followed unbegun =>
      intro number beyond
      rw [ofSaving_snoc]
      cases Traffic.savingStep followed with
      | elsewhere same notOf =>
          rw [same] at beyond
          rw [notOf number, unbegun number beyond]
          rfl
      | begun =>
          simp only [List.length_append, List.length_singleton] at beyond
          rw [unbegun number (by omega)]
          simp only [Episode.isOfSaving]
          grind
      | answered found received =>
          rw [List.length_set] at beyond
          have inside := (List.getElem?_eq_some_iff.mp found).1
          rw [unbegun number beyond]
          simp only [Episode.isOfSaving]
          grind

/-- The command to save the plan of an open tab begins a saving. -/
theorem savingCourse_begun
    (history : History policy episodes traffic)
    {sessionId : String}
    {place : Nat}
    {session : Session}
    (found : traffic.chat.registry.find? sessionId = some place)
    (foundSession : traffic.chat.registry.session? place = some session)
    (destination : Option String)
    (credential : CredentialState)
    (moment : Moment) :
    let stretch :=
      (Chat.saveCurrentPlan session.snapshot destination).advance
        moment.freshName
    SavingCourse policy
      (episodes ++
        [⟨traffic,
          .command (.downloadPlan sessionId destination) credential moment,
          ⟨⟨traffic.chat,
              traffic.savings ++ [⟨sessionId, stretch.reached⟩]⟩,
            stretch.sights sessionId traffic.savings.length⟩⟩])
      traffic.savings.length ⟨sessionId, stretch.reached⟩ session
      destination := by
  intro stretch
  refine
    ⟨⟨episodes, _, [], rfl, history, ⟨credential, moment, rfl⟩,
      ⟨place, found, foundSession⟩, rfl⟩, ?_⟩
  rw [ofSaving_snoc, history.ofSaving_unbegun _ (Nat.le_refl _)]
  simp only [Episode.isOfSaving, List.length_append, List.length_singleton,
    decide_true, Nat.lt_succ_self, Bool.and_self, ↓reduceIte,
    List.nil_append]
  exact .begin _ _ sessionId rfl rfl

/-- Every saving takes a course of its procedure. -/
theorem savingCourse
    (history : History policy episodes traffic) :
    ∀ number saving,
      traffic.savings[number]? = some saving →
      ∃ session destination,
        SavingCourse policy episodes number saving session
          destination := by
  induction history with
  | start =>
      intro number saving begun
      cases begun
  | @goOn episodes traffic happening scene history _ followed
      inductionHypothesis =>
      intro number saving begun
      cases Traffic.savingStep followed with
      | elsewhere same notOf =>
          rw [same] at begun
          obtain ⟨session, destination, course⟩ :=
            inductionHypothesis number saving begun
          exact ⟨session, destination, course.elsewhere (notOf number)⟩
      | @begun sessionId place session destination credential moment stretch
          found foundSession advanced =>
          rcases getElem?_concat_eq_some begun with
            ⟨inside, earlier⟩ | ⟨rfl, rfl⟩
          · obtain ⟨former, formerDestination, course⟩ :=
              inductionHypothesis number saving earlier
            refine ⟨former, formerDestination, course.elsewhere ?_⟩
            simp [Episode.isOfSaving, Nat.ne_of_gt inside]
          · subst advanced
            exact ⟨session, destination,
              history.savingCourse_begun found foundSession destination
                credential moment⟩
      | @answered replied before moment request answer stretch found
          received =>
          by_cases here : replied = number
          · subst here
            obtain ⟨session, destination, course⟩ :=
              inductionHypothesis replied before found
            rw [List.getElem?_set_self
              (List.getElem?_eq_some_iff.mp found).1] at begun
            cases begun
            refine ⟨session, destination, course.goOn rfl ?_⟩
            rw [ofSaving_snoc]
            simp only [Episode.isOfSaving, decide_true, ↓reduceIte]
            exact course.soFar.receive received rfl rfl
          · rw [List.getElem?_set_ne here] at begun
            obtain ⟨session, destination, course⟩ :=
              inductionHypothesis number saving begun
            refine ⟨session, destination, course.elsewhere ?_⟩
            simpa [Episode.isOfSaving] using here

end History

/-- Whatever the answer to the request in flight is, an activity goes on with it. -/
theorem Activity.receive?_isSome
    {activity : Activity α}
    {request : Request}
    (inFlight : activity.inFlight? = some request)
    (policy : PollPolicy)
    (freshName : String)
    (answer : request.Answer) :
    (activity.receive? policy freshName request answer).isSome := by
  cases activity with
  | asking asked next =>
      cases inFlight
      simp [receive?]
  | checking watch =>
      cases inFlight
      simp [receive?]
  | finished | pausing =>
      cases inFlight

namespace History

variable
  {policy : PollPolicy}
  {episodes : List Episode}
  {traffic : Traffic}

theorem followed
    (history : History policy episodes traffic) :
    ∀ episode ∈ episodes,
      episode.before.follow? policy episode.happening =
        some episode.scene := by
  induction history with
  | start =>
      simp
  | goOn _ _ followed inductionHypothesis =>
      intro episode among
      rcases List.mem_append.mp among with earlier | last
      · exact inductionHypothesis episode earlier
      · cases List.mem_singleton.mp last
        exact followed

/-- The episodes of a saving do nothing to the chat. -/
theorem ofSaving_chat
    (history : History policy episodes traffic)
    {number : Nat}
    {episode : Episode}
    (among : episode ∈ ofSaving number episodes) :
    episode.scene.traffic.chat = episode.before.chat := by
  obtain ⟨among, isOf⟩ := List.mem_filter.mp among
  obtain ⟨before, happening, scene⟩ := episode
  have followed : before.follow? policy happening = some scene :=
    history.followed _ among
  cases Traffic.savingStep followed with
  | elsewhere _ notOf =>
      rw [notOf number] at isOf
      cases isOf
  | begun | answered =>
      rfl

end History

/--
A saving leaves the conversation alone.  Whenever a tab is open, its plan can be
saved; the saving goes through one of the courses of `SavingStands` for the view that
the session shows in that moment, whatever else happens meanwhile, and is answered
once, when it is over.  An unfinished saving goes on with any answer to its request.
None of its episodes changes anything in the chat.
-/
theorem download_leaves_conversation_alone
    {policy : PollPolicy}
    {episodes : List Episode}
    {traffic : Traffic}
    (history : History policy episodes traffic) :
    (∀ number saving,
        traffic.savings[number]? = some saving →
        ∃ session destination,
          (∃ earlier episode later,
              episodes = earlier ++ episode :: later ∧
                History policy earlier episode.before ∧
                episode.Begins number saving.sessionId session
                  destination) ∧
            SavingStands session.snapshot destination
              (savingDeeds number episodes) saving.activity.inFlight?
              saving.activity.outcome? ∧
            (∃ messages : List String,
              (ofSaving number episodes).flatMap Episode.events =
                  messages.map
                    (⟨saving.sessionId, .plainAnswer ·⟩) ∧
                messages.length =
                  saving.activity.outcome?.toList.length) ∧
            (ofSaving number episodes).flatMap Episode.outcomes =
              saving.activity.outcome?.toList.map (number, ·)) ∧
      (∀ number,
        ∀ episode ∈ ofSaving number episodes,
          episode.scene.traffic.chat = episode.before.chat) ∧
      (∀ sessionId place session destination credential moment,
        traffic.chat.registry.find? sessionId = some place →
        traffic.chat.registry.session? place = some session →
        ∃ activity sights,
          traffic.follow? policy
              (.command (.downloadPlan sessionId destination) credential
                moment) =
            some
              ⟨⟨traffic.chat,
                  traffic.savings ++ [⟨sessionId, activity⟩]⟩,
                sights⟩) ∧
      ∀ number saving,
        traffic.savings[number]? = some saving →
        saving.activity.outcome? = none →
        ∃ request,
          saving.activity.inFlight? = some request ∧
            ∀ moment answer, ∃ activity sights,
              traffic.follow? policy
                  (.reply number moment request answer) =
                some
                  ⟨⟨traffic.chat,
                      traffic.savings.set number
                        ⟨saving.sessionId, activity⟩⟩,
                    sights⟩ := by
  refine ⟨?_, fun number episode => history.ofSaving_chat, ?_, ?_⟩
  · intro number saving begun
    obtain ⟨session, destination, course⟩ :=
      history.savingCourse number saving begun
    obtain ⟨reaches, outcomes, events⟩ := course.soFar
    have stands := Chat.saveCurrentPlan_stands reaches
    obtain ⟨messages, shown, once⟩ := stands.shown_eq
    refine ⟨session, destination, course.begun, stands,
      ⟨messages, ?_, once⟩, outcomes⟩
    refine events.trans ?_
    rw [shown, List.map_map]
    rfl
  · intro sessionId place session destination credential moment found
      foundSession
    exact ⟨_, _, congrArg some
      (Traffic.obey_download found foundSession destination credential
        moment)⟩
  · intro number saving begun unfinished
    obtain ⟨session, destination, course⟩ :=
      history.savingCourse number saving begun
    have stands := Chat.saveCurrentPlan_stands course.soFar.course
    have waits := stands.request?_isSome
    rw [unfinished] at waits
    obtain ⟨request, inFlight⟩ := Option.isSome_iff_exists.mp waits
    refine ⟨request, inFlight, fun moment answer => ?_⟩
    obtain ⟨stretch, received⟩ :=
      Option.isSome_iff_exists.mp
        (Activity.receive?_isSome inFlight policy moment.freshName answer)
    exact ⟨_, _, Traffic.follow?_reply_eq_some.mpr
      ⟨saving, stretch, begun, received, rfl⟩⟩

/-! ## A tab with a plan -/

/-- The moment at which everything happens to the tab. -/
def onlyMoment : Moment :=
  ⟨"M1", ⟨0, 0⟩⟩

namespace Happening

/-- Something is said in the tab. -/
def saying (text : String) : Happening :=
  .command (.chatMessage "S1" text) .connected onlyMoment

/-- What was said is handled, in a workspace with files. -/
def handling : Happening :=
  .session 0 (.proceed onlyMoment false)

/-- The session of the tab has an answer. -/
def answering
    (request : Request)
    (answer : request.Answer) : Happening :=
  .session 0 (.receive onlyMoment request answer)

/-- The session of the tab has an answer of the service. -/
def serving
    (call : ServiceCall)
    (answer : Except Fault call.Reply) : Happening :=
  answering (.service call) answer

/-- The plan of the tab is to be saved. -/
def saving (destination : Option String) : Happening :=
  .command (.downloadPlan "S1" destination) .connected onlyMoment

end Happening

/-- An assessment is started in the tab and asked about. -/
def planStarted (name : AssessmentId) : List Happening :=
  [.saying "goal", .handling, .saying "go", .handling,
    .answering .workspaceIsEmpty false,
    .serving .createEngagement (.ok ⟨"E1"⟩),
    .serving (.uploadWorkspace "E1") (.ok ()),
    .serving (.startAssessment "E1" "goal go") (.ok ⟨name, .inProgress⟩),
    .session 0 (.elapse onlyMoment)]

/-- The assessment is completed and its plan is shown. -/
def planDelivered (name : AssessmentId) : List Happening :=
  [.serving (.assessmentStatus "E1" name) (.ok ⟨.completed, ""⟩),
    .serving (.downloadPlan "E1" name) (.ok "# Plan"),
    .answering (.storePlan ⟨"S1", name, "# Plan"⟩) (.ok ⟨"plans/P1"⟩)]

/-- A plan is saved twice, with success and without, while the next one is made. -/
def savingMeanwhile : List Happening :=
  planStarted "A1" ++ planDelivered "A1" ++
    [.saying "revise it", .handling,
      .saving none,
      .serving (.deriveIntent "E1" "revise it") (.ok .revision),
      .saying "more",
      .reply 0 onlyMoment (.service (.downloadPlan "E1" "A1"))
        (.ok "# Plan"),
      .saving (some "copy.md"),
      .reply 1 onlyMoment (.service (.downloadPlan "E1" "A1"))
        (.error (.internal "gone")),
      .reply 0 onlyMoment (.exportPlan "# Plan" "RA_PLAN_A1.md")
        (.ok ⟨"RA_PLAN_A1.md"⟩)]

/--
The plan is saved under its own name while an utterance about it is handled and another
one waits.  A second saving fails before the first one is over.
-/
theorem plan_saved_meanwhile :
    ∃ episodes traffic first second,
      History ⟨0, 3⟩ episodes traffic ∧
        traffic.savings[0]? = some first ∧
        first.activity.outcome? = some (.ok ()) ∧
        requests (savingDeeds 0 episodes) =
          [.service (.downloadPlan "E1" "A1"),
            .exportPlan "# Plan" "RA_PLAN_A1.md"] ∧
        (∃ snapshot destination,
          SavingStands snapshot destination (savingDeeds 0 episodes)
            first.activity.inFlight? (some (.ok ()))) ∧
        traffic.savings[1]? = some second ∧
        second.activity.outcome? = some (.error (.internal "gone")) ∧
        (∃ message,
          (ofSaving 1 episodes).flatMap Episode.events =
            [⟨second.sessionId, .plainAnswer message⟩]) ∧
        (∀ number,
          ∀ episode ∈ ofSaving number episodes,
            episode.scene.traffic.chat = episode.before.chat) ∧
        (traffic.chat.registry.sessions.map fun session =>
            session.queue.map QueuedJob.job) =
          [[.utterance "more"]] := by
  have facts :
      (Traffic.replay? ⟨0, 3⟩ ⟨.empty, []⟩ savingMeanwhile).map
          (fun last =>
            (last.2.savings.map fun saving => saving.activity.outcome?,
              requests (savingDeeds 0 last.1),
              last.2.chat.registry.sessions.map fun session =>
                session.queue.map QueuedJob.job)) =
        some
          ([some (.ok ()), some (.error (.internal "gone"))],
            [.service (.downloadPlan "E1" "A1"),
              .exportPlan "# Plan" "RA_PLAN_A1.md"],
            [[.utterance "more"]]) := by
    decide +kernel
  obtain ⟨⟨episodes, traffic⟩, replayed, described⟩ :=
    Option.map_eq_some_iff.mp facts
  obtain ⟨outcomes, described⟩ := Prod.mk.inj described
  obtain ⟨requested, queues⟩ := Prod.mk.inj described
  have history :=
    @History.replay ⟨0, 3⟩ _ _ savingMeanwhile _ .start rfl replayed
  have outcomeAt (number : Nat) :
      (traffic.savings[number]?.map fun saving => saving.activity.outcome?) =
        [some (Except.ok ()), some (.error (.internal "gone"))][number]? := by
    rw [← outcomes, List.getElem?_map]
  obtain ⟨first, foundFirst, firstSaved⟩ :=
    Option.map_eq_some_iff.mp (outcomeAt 0)
  obtain ⟨second, foundSecond, secondFailed⟩ :=
    Option.map_eq_some_iff.mp (outcomeAt 1)
  obtain ⟨savings, spared, -, -⟩ := download_leaves_conversation_alone history
  obtain ⟨session, destination, -, stands, -, -⟩ :=
    savings 0 first foundFirst
  obtain ⟨_, _, -, -, ⟨messages, answered, once⟩, -⟩ :=
    savings 1 second foundSecond
  rw [firstSaved] at stands
  rw [secondFailed] at once
  obtain ⟨message, rfl⟩ := List.length_eq_one_iff.mp once
  exact ⟨_, traffic, first, second, history, foundFirst, firstSaved,
    requested, ⟨session.snapshot, destination, stands⟩, foundSecond, secondFailed,
    ⟨message, answered⟩, spared, queues⟩

end AssessmentChat
