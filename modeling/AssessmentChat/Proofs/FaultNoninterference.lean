import AssessmentChat.Proofs.ChatRun
import AssessmentChat.Proofs.FaultBlindness
import Mathlib.Data.List.Forall2

namespace AssessmentChat

/-!
# What a fault says is kept from the user

Two runs of a chat are compared in which the same happens, but where requests
fail they may fail with whatever faults.  Whatever the faults say, both runs go
through the same states, and the same is seen of them: the same notices, calls
and outcomes in the same order.  A command that saves a plan gives the fault back
that it met, and in that alone the runs can differ.

A session takes no notice of faults at any moment, so the two runs of a session
are one.  Two savings do differ once they have met different faults, and are
alike.
-/

/-- An interaction that takes no notice of faults goes on taking none. -/
theorem Interaction.meet?_faultBlind
    {policy : PollPolicy}
    {interaction next : Interaction α}
    {occurrence : Occurrence}
    (blind : interaction.activity.Alike Eq interaction.activity)
    (met : interaction.meet? policy occurrence = some next) :
    next.activity.Alike Eq next.activity := by
  cases occurrence with
  | toldToStop =>
      cases met
      exact blind
  | woken freshName =>
      obtain ⟨stretch, woken, rfl⟩ := Option.map_eq_some_iff.mp met
      obtain ⟨other, otherWoken, alike⟩ := blind.wake woken
      cases woken.symm.trans otherWoken
      exact alike.reached
  | answered freshName request answer =>
      obtain ⟨stretch, received, rfl⟩ := Option.map_eq_some_iff.mp met
      obtain ⟨other, otherReceived, alike⟩ :=
        blind.receive (.refl request answer) received
      cases received.symm.trans otherReceived
      exact alike.reached

/-- Two moves that differ at most in the fault that answers a request. -/
inductive Move.Alike : Move → Move → Prop where
  | same
      (move : Move) :
      Alike move move
  | receive
      (moment : Moment)
      {request : Request}
      {answer answer' : request.Answer} :
      request.AnsweredAlike answer answer' →
      Alike (.receive moment request answer)
        (.receive moment request answer')

/-- A session that handles its utterance without a look at what faults say. -/
def Session.FaultBlind (session : Session) : Prop :=
  ∀ handle activity,
    session.worker = .interacting handle activity →
    activity.Alike Eq activity

namespace Session.FaultBlind

variable
  {policy : PollPolicy}
  {session : Session}

theorem of_worker
    {other : Session}
    (blind : session.FaultBlind)
    (stands : other.worker = session.worker) :
    other.FaultBlind :=
  fun handle activity handles =>
    blind handle activity (stands.symm.trans handles)

/-- A session that heeds a signal stays blind to faults. -/
theorem heed
    (blind : session.FaultBlind)
    (signal : Signal) :
    (session.heed signal).1.FaultBlind :=
  blind.of_worker (heed_worker session signal)

/-- A session that goes on alike under every fault is blind to faults. -/
theorem of_absorbed
    (session : Session)
    (handle : Nat)
    {stretch : Stretch (Except Fault Conversation)}
    (alike : stretch.Alike Eq stretch) :
    (session.absorb handle stretch).session.FaultBlind := by
  rw [absorb_eq]
  cases stretch.reached.outcome? with
  | some result =>
      intro handle activity handles
      cases handles
  | none =>
      intro handle activity handles
      cases handles
      exact alike.reached

/-- A session that begins an utterance is blind to faults. -/
theorem of_begun
    (session : Session)
    (supplies : Supplies)
    (handle : Nat)
    (utterance : String) :
    (session.beginUtterance supplies handle
      utterance).session.FaultBlind := by
  have alike :=
    (session.conversation.interact_faultBlind utterance
      supplies.now).advance supplies.freshName
  simp only [beginUtterance]
  exact of_absorbed _ handle alike

/-- A session that begins a job is blind to faults. -/
theorem of_beginJob
    (session : Session)
    (supplies : Supplies)
    (queued : QueuedJob)
    (idle : session.worker = .idle) :
    (session.beginJob supplies queued).session.FaultBlind := by
  unfold beginJob
  split
  · split
    · exact of_begun session supplies queued.handle _
    · intro handle activity handles
      cases handles
  · intro handle activity handles
    cases idle.symm.trans handles

/-- A session that moves stays blind to faults. -/
theorem of_move
    {move : Move}
    {after : Session × List Output}
    (blind : session.FaultBlind)
    (moved : session.move? policy move = some after) :
    after.1.FaultBlind := by
  by_cases own : move.isOwn = true
  · cases stands : session.worker with
    | idle =>
        obtain ⟨moment, -, -, ⟨-, rfl⟩ | ⟨-, queued, rest, -, rfl⟩⟩ :=
          move?_idle stands own moved
        · intro handle activity handles
          cases handles
        · exact of_beginJob _ (moment.supplies policy) queued stands
    | gated handle utterance =>
        obtain ⟨moment, -, -, ⟨-, rfl⟩ | rfl⟩ :=
          move?_gated stands own moved
        · intro handle activity handles
          cases handles
        · exact of_begun session (moment.supplies policy) handle utterance
    | interacting handle activity =>
        let interaction : Interaction (Except Fault Conversation) :=
          ⟨[], activity, session.isCancelled⟩
        have handles :
            session.worker = .interacting handle interaction.activity :=
          stands
        obtain ⟨occurrence, answered, stretch, -, -, -, met, rfl⟩ :=
          move?_interacting .awaitingGoal handles rfl own moved
        have reached : stretch.reached.Alike Eq stretch.reached :=
          Interaction.meet?_faultBlind (blind handle activity stands) met
        exact of_absorbed session handle ⟨rfl, rfl, reached⟩
    | stopped =>
        rw [move?_stopped stands own] at moved
        cases moved
  · cases move with
    | signal signal =>
        cases moved
        exact blind.heed signal
    | proceed | elapse | receive =>
        exact absurd rfl own

/-- Alike moves of a session are one transition. -/
theorem move?_alike
    {move other : Move}
    {after : Session × List Output}
    (blind : session.FaultBlind)
    (alike : move.Alike other)
    (moved : session.move? policy move = some after) :
    session.move? policy other = some after := by
  cases alike with
  | same =>
      exact moved
  | @receive moment request answer answer' answers =>
      obtain ⟨reaction, received, rfl⟩ := Option.map_eq_some_iff.mp moved
      cases stands : session.worker with
      | idle | gated | stopped =>
          simp [receive?, stands] at received
      | interacting handle activity =>
          simp only [receive?, stands] at received
          obtain ⟨stretch, taken, rfl⟩ := Option.map_eq_some_iff.mp received
          obtain ⟨stretch', otherTaken, alike⟩ :=
            (blind handle activity stands).receive answers taken
          cases alike.eq
          simp only [move?, receive?, stands]
          exact Option.map_eq_some_iff.mpr
            ⟨_, Option.map_eq_some_iff.mpr ⟨stretch, otherTaken, rfl⟩, rfl⟩

end Session.FaultBlind

/-! ## Two runs of a chat -/

/-- Two happenings that differ at most in the fault that answers a request. -/
inductive Happening.Alike : Happening → Happening → Prop where
  | command
      (command : Command)
      (credential : CredentialState)
      (moment : Moment) :
      Alike (.command command credential moment)
        (.command command credential moment)
  | session
      (number : Nat)
      {move other : Move} :
      move.Alike other →
      Alike (.session number move) (.session number other)
  | reply
      (number : Nat)
      (moment : Moment)
      {request : Request}
      {answer answer' : request.Answer} :
      request.AnsweredAlike answer answer' →
      Alike (.reply number moment request answer)
        (.reply number moment request answer')

/-- Two sights that differ at most in the fault that the saving of a plan met. -/
inductive Sight.Alike : Sight → Sight → Prop where
  | shown
      (output : Output) :
      Alike (.shown output) (.shown output)
  | answered
      (outcome : Except Fault (Option Nat)) :
      Alike (.answered outcome) (.answered outcome)
  | saved
      (number : Nat)
      {outcome other : Except Fault Unit} :
      SameButFault outcome other →
      Alike (.saved number outcome) (.saved number other)

/-- Two scenes that end in one chat, and of which alike sights are seen. -/
structure Scene.Alike (scene other : Scene) : Prop where
  chat :
    scene.traffic.chat = other.traffic.chat
  sights :
    List.Forall₂ Sight.Alike scene.sights other.sights

/-- Two savings that stand at the same point and go on alike. -/
structure Saving.Alike (saving other : Saving) : Prop where
  sessionId :
    saving.sessionId = other.sessionId
  activity :
    saving.activity.Alike SameButFault other.activity

/-- Two chats that are one, with savings beside them that are alike. -/
structure Traffic.Alike (traffic other : Traffic) : Prop where
  chat :
    traffic.chat = other.chat
  blind :
    traffic.chat.Each Session.FaultBlind
  savings :
    List.Forall₂ Saving.Alike traffic.savings other.savings

/-- Traffic in which no request is under way. -/
structure Traffic.AtRest (traffic : Traffic) : Prop where
  sessions :
    traffic.chat.Each fun session =>
      ∀ handle activity, session.worker ≠ .interacting handle activity
  savings :
    traffic.savings = []

theorem Traffic.AtRest.alike
    {traffic : Traffic}
    (rests : traffic.AtRest) :
    traffic.Alike traffic := by
  refine ⟨rfl, ?_, ?_⟩
  · intro session among handle activity handles
    exact absurd handles (rests.sessions session among handle activity)
  · rw [rests.savings]
    exact .nil

theorem Sight.forall₂_shown
    (outputs : List Output) :
    List.Forall₂ Sight.Alike (outputs.map Sight.shown)
      (outputs.map Sight.shown) := by
  refine List.forall₂_same.mpr ?_
  intro sight among
  obtain ⟨output, -, rfl⟩ := List.mem_map.mp among
  exact .shown output

/-- Stretches that are alike do the same. -/
theorem Stretch.Alike.deeds
    {same : α → α → Prop}
    {stretch other : Stretch α}
    (alike : stretch.Alike same other) :
    stretch.deeds = other.deeds := by
  unfold Stretch.deeds
  rw [alike.notices, alike.reached.inFlight?_eq]

/-- Alike savings that have ended are seen to end alike. -/
theorem Activity.Alike.saved
    {activity other : Activity (Except Fault Unit)}
    (alike : activity.Alike SameButFault other)
    (number : Nat) :
    List.Forall₂ Sight.Alike
      (activity.outcome?.map (Sight.saved number)).toList
      (other.outcome?.map (Sight.saved number)).toList := by
  cases alike with
  | finished outcomes =>
      exact .cons (.saved number outcomes) .nil
  | asking | pausing | checking =>
      exact .nil

/-- Of alike stretches of two savings alike sights are seen. -/
theorem Stretch.Alike.sights
    {stretch other : Stretch (Except Fault Unit)}
    (alike : stretch.Alike SameButFault other)
    (sessionId : String)
    (number : Nat) :
    List.Forall₂ Sight.Alike (stretch.sights sessionId number)
      (other.sights sessionId number) := by
  unfold Stretch.sights
  rw [alike.deeds]
  exact List.rel_append (Sight.forall₂_shown _)
    (alike.reached.saved number)

/-- Alike savings have the same numbers, and go on being alike one by one. -/
theorem Saving.Alike.at_number
    {savings others : List Saving}
    {saving : Saving}
    {number : Nat}
    (alike : List.Forall₂ Saving.Alike savings others)
    (found : savings[number]? = some saving) :
    ∃ other,
      others[number]? = some other ∧
        saving.Alike other ∧
        ∀ after after' : Saving,
          after.Alike after' →
          List.Forall₂ Saving.Alike (savings.set number after)
            (others.set number after') := by
  induction alike generalizing number with
  | nil =>
      cases found
  | @cons first other rest others firstAlike restAlike inductionHypothesis =>
      cases number with
      | zero =>
          cases found
          exact ⟨other, rfl, firstAlike, fun _ _ alike =>
            .cons alike restAlike⟩
      | succ position =>
          obtain ⟨other, otherFound, alike, replaced⟩ :=
            inductionHypothesis found
          exact ⟨other, otherFound, alike, fun after after' alike =>
            .cons firstAlike (replaced after after' alike)⟩

namespace Traffic.Alike

variable
  {policy : PollPolicy}
  {traffic other : Traffic}

/-- A command does the same, and alike savings are begun. -/
theorem obey
    (alike : traffic.Alike other)
    (command : Command)
    (credential : CredentialState)
    (moment : Moment) :
    (traffic.obey command credential moment).traffic.Alike
        (other.obey command credential moment).traffic ∧
      List.Forall₂ Sight.Alike
        (traffic.obey command credential moment).sights
        (other.obey command credential moment).sights := by
  have blind :
      (traffic.chat.handle command credential
        moment.now).chat.Each Session.FaultBlind := by
    refine alike.blind.handle ?_ ?_ command credential
    · exact fun session signal blind => blind.heed signal
    · intro sessionId handle activity handles
      cases handles
  simp only [Traffic.obey, ← alike.chat]
  split
  next outcome finishes =>
    refine ⟨⟨rfl, blind, alike.savings⟩, ?_⟩
    exact List.rel_append (Sight.forall₂_shown _)
      (.cons (.answered outcome) .nil)
  next sessionId procedure saves =>
    obtain ⟨snapshot, destination, -, rfl⟩ :=
      Chat.handle_eq_download saves
    have begun :=
      (Chat.saveCurrentPlan_alike snapshot destination).advance
        moment.freshName
    refine ⟨⟨rfl, blind, ?_⟩, ?_⟩
    · exact List.rel_append alike.savings (.cons ⟨rfl, begun.reached⟩ .nil)
    · rw [← alike.savings.length_eq]
      exact List.rel_append (Sight.forall₂_shown _) (begun.sights _ _)

/-- Alike happenings lead alike chats to alike scenes. -/
theorem follow
    {happening happening' : Happening}
    {scene : Scene}
    (alike : traffic.Alike other)
    (happens : happening.Alike happening')
    (followed : traffic.follow? policy happening = some scene) :
    ∃ scene',
      other.follow? policy happening' = some scene' ∧
        scene.traffic.Alike scene'.traffic ∧
        scene.Alike scene' := by
  cases happens with
  | command command credential moment =>
      cases followed
      obtain ⟨after, sights⟩ := alike.obey command credential moment
      exact ⟨_, rfl, after, after.chat, sights⟩
  | @session number move move' moves =>
      obtain ⟨session, found, goesOn⟩ := Option.bind_eq_some_iff.mp followed
      obtain ⟨⟨next, seen⟩, moved, rfl⟩ := Option.map_eq_some_iff.mp goesOn
      have blind : session.FaultBlind := alike.blind.at_number found
      have kept :=
        alike.blind.update number fun _ _ => blind.of_move moved
      refine ⟨_, Option.bind_eq_some_iff.mpr ⟨session, ?_,
        Option.map_eq_some_iff.mpr
          ⟨_, blind.move?_alike moves moved, rfl⟩⟩, ?_, ?_⟩
      · rw [← alike.chat]
        exact found
      · exact ⟨by rw [alike.chat], kept, alike.savings⟩
      · exact ⟨by rw [alike.chat], Sight.forall₂_shown seen⟩
  | @reply number moment request answer answer' answers =>
      obtain ⟨saving, found, goesOn⟩ := Option.bind_eq_some_iff.mp followed
      obtain ⟨stretch, received, rfl⟩ := Option.map_eq_some_iff.mp goesOn
      obtain ⟨saving', otherFound, ⟨sameSession, goOnAlike⟩, replaced⟩ :=
        Saving.Alike.at_number alike.savings found
      obtain ⟨stretch', otherReceived, stretches⟩ :=
        goOnAlike.receive answers received
      refine ⟨_, Option.bind_eq_some_iff.mpr ⟨saving', otherFound,
        Option.map_eq_some_iff.mpr ⟨stretch', otherReceived, rfl⟩⟩, ?_, ?_⟩
      · exact ⟨alike.chat, alike.blind,
          replaced _ _ ⟨sameSession, stretches.reached⟩⟩
      · rw [← sameSession]
        exact ⟨alike.chat, stretches.sights saving.sessionId number⟩

/-- Alike happenings one after another lead alike chats to alike scenes. -/
theorem followAll
    {happenings happenings' : List Happening}
    {scenes : List Scene}
    (alike : traffic.Alike other)
    (happens : List.Forall₂ Happening.Alike happenings happenings')
    (followed : traffic.followAll? policy happenings = some scenes) :
    ∃ scenes',
      other.followAll? policy happenings' = some scenes' ∧
        List.Forall₂ Scene.Alike scenes scenes' := by
  induction happens generalizing traffic other scenes with
  | nil =>
      cases followed
      exact ⟨[], rfl, .nil⟩
  | cons happens _ inductionHypothesis =>
      obtain ⟨scene, first, others⟩ := Option.bind_eq_some_iff.mp followed
      obtain ⟨later, restFollowed, rfl⟩ := Option.map_eq_some_iff.mp others
      obtain ⟨scene', first', afterAlike, scenesAlike⟩ :=
        alike.follow happens first
      obtain ⟨later', restFollowed', laterAlike⟩ :=
        inductionHypothesis afterAlike restFollowed
      refine ⟨scene' :: later', ?_, .cons scenesAlike laterAlike⟩
      exact Option.bind_eq_some_iff.mpr ⟨scene', first',
        Option.map_eq_some_iff.mpr ⟨later', restFollowed', rfl⟩⟩

end Traffic.Alike

/--
What faults say makes no difference to a chat.  Where the same happens in two
runs but for the faults that requests meet, the second run is possible when the
first is, both go through the same chats, sessions and conversations included,
and the same is seen of them step by step, but for the fault that the saving of
a plan gives back.
-/
theorem fault_noninterference
    (policy : PollPolicy)
    {traffic : Traffic}
    (rests : traffic.AtRest)
    {happenings happenings' : List Happening}
    (happens : List.Forall₂ Happening.Alike happenings happenings')
    {scenes : List Scene}
    (followed : traffic.followAll? policy happenings = some scenes) :
    ∃ scenes',
      traffic.followAll? policy happenings' = some scenes' ∧
        List.Forall₂ Scene.Alike scenes scenes' :=
  rests.alike.followAll happens followed

/-- A failed upload looks the same for every fault; a failed saving tells its own. -/
theorem faults_of_upload_and_saving_unseen :
    ∃ (traffic : Traffic)
      (happenings happenings' : List Happening)
      (scenes scenes' : List Scene),
      traffic.AtRest ∧
        List.Forall₂ Happening.Alike happenings happenings' ∧
        traffic.followAll? ⟨0, 3⟩ happenings = some scenes ∧
        traffic.followAll? ⟨0, 3⟩ happenings' = some scenes' ∧
        List.Forall₂ Scene.Alike scenes scenes' ∧
        (scenes.flatMap Scene.sights).getLast? =
          some (.saved 0 (.error (.remoteCall "CreateDownloadUrl" "503"))) ∧
        (scenes'.flatMap Scene.sights).getLast? =
          some (.saved 0 (.error (.internal ""))) := by
  let context : Context :=
    { Context.start "S1" ⟨0, 0⟩ with
      engagementId := some "E1"
      assessmentId := some "A1" }
  let traffic : Traffic :=
    ⟨⟨⟨[.spawn ⟨.awaitingRequirements, context⟩ false], [("S1", 0)]⟩, 0⟩,
      []⟩
  let moment : Moment := ⟨"N1", ⟨1, 0⟩⟩
  let upload : Request := .service (.uploadWorkspace "E1")
  let download : Request := .service (.downloadPlan "E1" "A1")
  let failing (uploadFault downloadFault : Fault) : List Happening :=
    [.command (.downloadPlan "S1" none) .connected moment,
      .session 0 (.signal (.enqueue ⟨0, .utterance "go"⟩)),
      .session 0 (.proceed moment false),
      .session 0 (.receive moment .workspaceIsEmpty false),
      .session 0 (.receive moment upload (.error uploadFault)),
      .reply 0 moment download (.error downloadFault)]
  have rests : traffic.AtRest := by
    refine ⟨?_, rfl⟩
    intro session among handle activity handles
    cases List.mem_singleton.mp among
    cases handles
  have happens :
      List.Forall₂ Happening.Alike
        (failing (.remoteCall "CreateUploadUrl" "503")
          (.remoteCall "CreateDownloadUrl" "503"))
        (failing (.inputOutput "denied") (.internal "")) :=
    .cons (.command _ _ _) <| .cons (.session 0 (.same _)) <|
      .cons (.session 0 (.same _)) <| .cons (.session 0 (.same _)) <|
      .cons (.session 0 (.receive moment (.error _ _))) <|
      .cons (.reply 0 moment (.error _ _)) .nil
  obtain ⟨scenes', followed', alike⟩ :=
    fault_noninterference ⟨0, 3⟩ rests happens rfl
  refine ⟨traffic, _, _, _, scenes', rests, happens, rfl, followed', alike,
    rfl, ?_⟩
  cases followed'
  rfl

end AssessmentChat
