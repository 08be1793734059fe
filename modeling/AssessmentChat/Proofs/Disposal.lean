import AssessmentChat.Proofs.SequentialHandling

namespace AssessmentChat

/-!
# What begins after disposal

A session that has been disposed of finishes the interaction that it handles, and
begins nothing more, with one exception.  An utterance that is held back when the
session is disposed of waits for the gate and for disposal at once.  If the gate
has opened too before the worker looks, the utterance may be let through; it is
told to stop from its beginning, but it is begun.

A job waits in the queue or behind the gate.  It has been begun when it waits no
longer though the worker has not stopped.
-/

/-- Whether an output is an event or a call. -/
def Output.isShown : Output → Bool
  | .published _ | .called _ => true
  | .resolved .. => false

namespace Session

/-- The job that the worker holds back. -/
def held? (session : Session) : Option QueuedJob :=
  match session.worker with
  | .gated handle utterance => some ⟨handle, .utterance utterance⟩
  | _ => none

/-- The jobs that wait to be begun, in order. -/
def awaiting (session : Session) : List QueuedJob :=
  session.held?.toList ++ session.queue

/-- The job that a transition begins. -/
def begun? (before after : Session) : Option QueuedJob :=
  if !after.hasStopped &&
      after.awaiting.length < before.awaiting.length then
    before.awaiting.head?
  else none

/-- The jobs that are begun in the course of some moves. -/
def beginnings
    (policy : PollPolicy)
    (session : Session) : List Move → List QueuedJob
  | [] => []
  | move :: rest =>
      match session.move? policy move with
      | some after =>
          (session.begun? after.1).toList ++ after.1.beginnings policy rest
      | none => []

/-- What is shown is shown by an interaction that is told to stop. -/
def ShownBy
    (policy : PollPolicy)
    (sessionId : String)
    (interaction : Interaction (Except Fault Conversation))
    (seen : List Output) : Prop :=
  ∃ occurrences last,
    interaction.meetAll? policy occurrences = some last ∧
      last.deeds.filterMap (Deed.output? sessionId) =
        interaction.deeds.filterMap (Deed.output? sessionId) ++
          seen.filter Output.isShown

/-- Nothing is shown but by the interaction that the worker handles. -/
def ShowsOwn
    (policy : PollPolicy)
    (session : Session)
    (seen : List Output) : Prop :=
  match session.worker with
  | .interacting _ activity =>
      ShownBy policy session.sessionId ⟨[], activity, true⟩ seen
  | _ => seen.filter Output.isShown = []

/--
Signals come, and when the worker looks the gate is open and lets the utterance
through that it has held back.
-/
inductive LetsThrough
    (handle : Nat)
    (utterance : String)
    (moment : Moment) : Session → List Move → Prop where
  | signal
      {session : Session}
      (signal : Signal)
      {later : List Move} :
      LetsThrough handle utterance moment (session.heed signal).1 later →
      LetsThrough handle utterance moment session (.signal signal :: later)
  | look
      {session : Session}
      (later : List Move) :
      session.worker = .gated handle utterance →
      session.gateOpen = true →
      LetsThrough handle utterance moment session
        (.proceed moment false :: later)

/-! ## What is shown -/

/-- A session shows nothing when it heeds a signal. -/
theorem heed_shows_nothing
    (session : Session)
    (signal : Signal) :
    (session.heed signal).2.filter Output.isShown = [] := by
  cases signal with
  | enqueue queued =>
      simp only [heed, enqueue]
      split <;> rfl
  | cancel | authChanged | dispose | look =>
      rfl

/-- A session shows nothing when it stops. -/
theorem stop_shows_nothing
    (session : Session)
    (held : List Nat) :
    (session.stop held).outputs.filter Output.isShown = [] := by
  rw [List.filter_eq_nil_iff]
  intro output among
  obtain ⟨handle, -, rfl⟩ := List.mem_map.mp among
  nofun

/-- A session shows what a stretch of its interaction publishes. -/
theorem absorb_shows
    (session : Session)
    (handle : Nat)
    (stretch : Stretch (Except Fault Conversation)) :
    (session.absorb handle stretch).outputs.filter Output.isShown =
      stretch.deeds.filterMap (Deed.output? session.sessionId) := by
  have shown :
      (stretch.deeds.filterMap
          (Deed.output? session.sessionId)).filter Output.isShown =
        stretch.deeds.filterMap (Deed.output? session.sessionId) := by
    rw [List.filter_eq_self]
    intro output among
    obtain ⟨deed, -, isOutput⟩ := List.mem_filterMap.mp among
    cases deed <;> cases isOutput <;> rfl
  rw [absorb_outputs, List.filter_append, shown]
  cases stretch.reached.outcome? with
  | none =>
      exact List.append_nil _
  | some result =>
      exact List.append_nil _

/-! ## What is begun -/

/-- A session that has stopped has begun no job. -/
theorem begun?_of_stopped
    {before after : Session}
    (stopped : after.hasStopped = true) :
    before.begun? after = none := by
  simp [begun?, stopped]

/-- No job has begun if those that were waiting still are. -/
theorem begun?_of_awaiting
    {before after : Session}
    (added : List QueuedJob)
    (waits : after.awaiting = before.awaiting ++ added) :
    before.begun? after = none := by
  have asMany :
      ¬ after.awaiting.length < before.awaiting.length := by
    simp [waits]
  simp [begun?, asMany]

/-- The job that has begun is the one that was first in line. -/
theorem begun?_of_head
    {before after : Session}
    {queued : QueuedJob}
    (runs : after.hasStopped = false)
    (waited : before.awaiting = queued :: after.awaiting) :
    before.begun? after = some queued := by
  simp [begun?, runs, waited]

/-- No job begins when a session heeds a signal. -/
theorem heed_begun?
    (session : Session)
    (signal : Signal) :
    session.begun? (session.heed signal).1 = none := by
  have stands := heed_worker session signal
  cases running : session.hasStopped with
  | true =>
      refine begun?_of_stopped ?_
      rw [hasStopped, stands]
      exact running
  | false =>
      have waits :
          (session.heed signal).1.awaiting =
            session.awaiting ++ (Move.signal signal).queued?.toList := by
        unfold awaiting held?
        rw [stands, heed_queue running signal, List.append_assoc]
      exact begun?_of_awaiting _ waits

/-- A stretch of an interaction leaves the jobs in line. -/
theorem absorb_awaiting
    (session : Session)
    (handle : Nat)
    (stretch : Stretch (Except Fault Conversation)) :
    (session.absorb handle stretch).session.awaiting = session.queue := by
  rw [absorb_eq]
  cases stretch.reached.outcome? <;> rfl

/-- After a stretch the utterance has ended, or goes on from where it has come. -/
theorem absorb_worker
    (session : Session)
    (handle : Nat)
    (stretch : Stretch (Except Fault Conversation)) :
    (session.absorb handle stretch).session.worker = .idle ∨
      (session.absorb handle stretch).session.worker =
        .interacting handle stretch.reached := by
  rw [absorb_eq]
  cases stretch.reached.outcome? with
  | some result =>
      exact .inl rfl
  | none =>
      exact .inr rfl

/-- A stretch of an interaction stops no session. -/
theorem absorb_hasStopped
    (session : Session)
    (handle : Nat)
    (stretch : Stretch (Except Fault Conversation)) :
    (session.absorb handle stretch).session.hasStopped = false := by
  unfold hasStopped
  rcases absorb_worker session handle stretch with idle | handles
  · rw [idle]
  · rw [handles]

/-! ## Moves of a disposed session -/

/-- A session that was disposed of stays so, whatever it heeds. -/
theorem heed_stays_disposed
    {session : Session}
    (disposed : session.disposed = true)
    (signal : Signal) :
    (session.heed signal).1.disposed = true := by
  simp [heed_disposed, disposed]

/-- A series of moves is the first one and then the others. -/
theorem moveAll?_cons_eq_some
    {policy : PollPolicy}
    {session last : Session}
    {move : Move}
    {rest : List Move}
    {seen : List Output}
    (moved : session.moveAll? policy (move :: rest) = some (last, seen)) :
    ∃ after others,
      session.move? policy move = some after ∧
        after.1.moveAll? policy rest = some (last, others) ∧
        seen = after.2 ++ others ∧
        session.beginnings policy (move :: rest) =
          (session.begun? after.1).toList ++
            after.1.beginnings policy rest := by
  obtain ⟨after, firstMoved, goesOn⟩ := Option.bind_eq_some_iff.mp moved
  obtain ⟨⟨_, others⟩, restMoved, reached⟩ :=
    Option.map_eq_some_iff.mp goesOn
  cases reached
  exact ⟨after, others, firstMoved, restMoved, rfl, by
    simp [beginnings, firstMoved]⟩

section Disposed

variable
  {policy : PollPolicy}
  {session last : Session}
  {later : List Move}
  {seen : List Output}

/-- A disposed session without an interaction shows and begins nothing. -/
theorem rests_after_disposal
    (disposed : session.disposed = true)
    (rests : session.worker = .idle ∨ session.worker = .stopped)
    (moved : session.moveAll? policy later = some (last, seen)) :
    session.beginnings policy later = [] ∧
      seen.filter Output.isShown = [] := by
  induction later generalizing session seen with
  | nil =>
      cases moved
      exact ⟨rfl, rfl⟩
  | cons move rest inductionHypothesis =>
      obtain ⟨after, others, firstMoved, restMoved, rfl, begins⟩ :=
        moveAll?_cons_eq_some moved
      rw [begins, List.filter_append]
      cases move with
      | signal signal =>
          cases firstMoved
          have disposedStill := heed_stays_disposed disposed signal
          obtain ⟨unbegun, unseen⟩ :=
            inductionHypothesis disposedStill
              (by rw [heed_worker]; exact rests) restMoved
          rw [heed_begun?, unbegun, heed_shows_nothing, unseen]
          exact ⟨rfl, rfl⟩
      | proceed | elapse | receive =>
          rcases rests with idle | stopped
          · obtain ⟨-, -, -, ⟨-, rfl⟩ | ⟨undisposed, -⟩⟩ :=
              move?_idle idle rfl firstMoved
            · have disposedStill :
                  (session.stop []).session.disposed = true :=
                disposed
              obtain ⟨unbegun, unseen⟩ :=
                inductionHypothesis disposedStill (.inr rfl) restMoved
              rw [Reaction.seen, begun?_of_stopped rfl, unbegun,
                stop_shows_nothing, unseen]
              exact ⟨rfl, rfl⟩
            · rw [disposed] at undisposed
              cases undisposed
          · rw [move?_stopped stopped rfl] at firstMoved
            cases firstMoved

/-- A disposed session shows what its interaction does, and begins nothing. -/
theorem goes_on_after_disposal
    {interaction : Interaction (Except Fault Conversation)}
    {handle : Nat}
    (disposed : session.disposed = true)
    (told : interaction.toldToStop = true)
    (stands :
      session.worker = .idle ∨
        session.worker = .interacting handle interaction.activity)
    (moved : session.moveAll? policy later = some (last, seen)) :
    session.beginnings policy later = [] ∧
      ShownBy policy session.sessionId interaction seen := by
  induction later generalizing session interaction seen with
  | nil =>
      cases moved
      exact ⟨rfl, [], interaction, rfl, (List.append_nil _).symm⟩
  | cons move rest inductionHypothesis =>
      rcases stands with idle | handles
      · obtain ⟨unbegun, unseen⟩ :=
          rests_after_disposal disposed (.inl idle) moved
        refine ⟨unbegun, [], interaction, rfl, ?_⟩
        rw [unseen, List.append_nil]
      obtain ⟨after, others, firstMoved, restMoved, rfl, begins⟩ :=
        moveAll?_cons_eq_some moved
      rw [begins]
      cases move with
      | signal signal =>
          cases firstMoved
          have disposedStill := heed_stays_disposed disposed signal
          have handlesStill :=
            (heed_worker session signal).trans handles
          obtain ⟨unbegun, shown⟩ :=
            inductionHypothesis disposedStill told (.inr handlesStill)
              restMoved
          rw [heed_sessionId] at shown
          rw [heed_begun?, unbegun, ShownBy, List.filter_append,
            heed_shows_nothing]
          exact ⟨rfl, shown⟩
      | proceed | elapse | receive =>
          have cancelled : session.isCancelled = true := by
            simp [isCancelled, disposed]
          obtain ⟨occurrence, answered, stretch, -, -, silent, met, rfl⟩ :=
            move?_interacting .awaitingGoal handles
              (told.trans cancelled.symm) rfl firstMoved
          have waits :
              (session.absorb handle stretch).session.awaiting =
                session.awaiting ++ [] := by
            rw [absorb_awaiting, awaiting, held?, handles]
            exact (List.append_nil _).symm
          have disposedStill :=
            (absorb_sameSettings session handle stretch).disposed.trans
              disposed
          have toldStill :
              (interaction.goOn answered stretch).toldToStop = true :=
            told
          obtain ⟨unbegun, occurrences, final, metAll, shown⟩ :=
            inductionHypothesis disposedStill toldStill
              (absorb_worker session handle stretch) restMoved
          rw [Reaction.seen, begun?_of_awaiting _ waits, unbegun]
          refine ⟨rfl, occurrence :: occurrences, final, ?_, ?_⟩
          · exact Option.bind_eq_some_iff.mpr ⟨_, met, metAll⟩
          · rw [(absorb_sameSettings session handle stretch).sessionId]
              at shown
            rw [shown, Interaction.goOn, List.filter_append, absorb_shows,
              List.filterMap_append, List.filterMap_append, silent,
              List.append_nil, List.append_assoc]

/-- A held utterance that is let through is the only job begun, and is all that shows. -/
theorem begins_when_let_through
    {handle : Nat}
    {utterance : String}
    {moment : Moment}
    (disposed : session.disposed = true)
    (through : LetsThrough handle utterance moment session later)
    (moved : session.moveAll? policy later = some (last, seen)) :
    session.beginnings policy later = [⟨handle, .utterance utterance⟩] ∧
      ∃ occurrences final,
        session.conversation.handling? policy (.utterance utterance)
            ⟨moment, true⟩ occurrences =
          some final ∧
        final.deeds.filterMap (Deed.output? session.sessionId) =
          seen.filter Output.isShown := by
  induction through generalizing seen with
  | @signal session signal later through inductionHypothesis =>
      obtain ⟨after, others, firstMoved, restMoved, rfl, begins⟩ :=
        moveAll?_cons_eq_some moved
      cases firstMoved
      have disposedStill := heed_stays_disposed disposed signal
      obtain ⟨only, occurrences, final, handled, shown⟩ :=
        inductionHypothesis disposedStill restMoved
      rw [heed_conversation] at handled
      rw [heed_sessionId] at shown
      rw [begins, heed_begun?, only, List.filter_append,
        heed_shows_nothing]
      exact ⟨rfl, occurrences, final, handled, shown⟩
  | @look session later gated isOpen =>
      obtain ⟨after, others, firstMoved, restMoved, rfl, begins⟩ :=
        moveAll?_cons_eq_some moved
      let interaction : Interaction (Except Fault Conversation) :=
        .start moment.freshName true
          (session.conversation.interact utterance moment.now)
      let stretch :=
        (session.conversation.interact utterance moment.now).advance
          moment.freshName
      let busy : Session :=
        ({ session with
            running := some ⟨session.conversation.phase, false⟩ } :
          Session).publish true
      have reached : after = (busy.absorb handle stretch).seen := by
        simp only [move?, proceed?_gated gated, disposed, isOpen,
          Bool.not_true, Bool.or_false, Bool.and_false, Bool.false_eq_true,
          ↓reduceIte, Option.map_some] at firstMoved
        exact (Option.some.inj firstMoved).symm
      subst reached
      have disposedStill :=
        (absorb_sameSettings busy handle stretch).disposed.trans disposed
      have told : interaction.toldToStop = true := rfl
      obtain ⟨unbegun, occurrences, final, met, shown⟩ :=
        goes_on_after_disposal disposedStill told
          (absorb_worker busy handle stretch) restMoved
      have waited :
          session.awaiting =
            ⟨handle, .utterance utterance⟩ ::
              (busy.absorb handle stretch).session.awaiting := by
        rw [absorb_awaiting, awaiting, held?, gated]
        rfl
      have runs := absorb_hasStopped busy handle stretch
      rw [begins, Reaction.seen, begun?_of_head runs waited, unbegun]
      refine ⟨rfl, occurrences, final, met, ?_⟩
      rw [(absorb_sameSettings busy handle stretch).sessionId] at shown
      rw [List.filter_append, absorb_shows]
      exact shown

/-- A session that lets nothing through stops, whatever else comes to it. -/
theorem begins_nothing_when_held_back
    {handle : Nat}
    {utterance : String}
    (disposed : session.disposed = true)
    (gated : session.worker = .gated handle utterance)
    (notThrough :
      ∀ moment, ¬ LetsThrough handle utterance moment session later)
    (moved : session.moveAll? policy later = some (last, seen)) :
    session.beginnings policy later = [] ∧
      seen.filter Output.isShown = [] := by
  induction later generalizing session seen with
  | nil =>
      cases moved
      exact ⟨rfl, rfl⟩
  | cons move rest inductionHypothesis =>
      obtain ⟨after, others, firstMoved, restMoved, rfl, begins⟩ :=
        moveAll?_cons_eq_some moved
      rw [begins, List.filter_append]
      cases move with
      | signal signal =>
          cases firstMoved
          have disposedStill := heed_stays_disposed disposed signal
          have gatedStill := (heed_worker session signal).trans gated
          have notThroughStill (moment : Moment) :
              ¬ LetsThrough handle utterance moment
                (session.heed signal).1 rest :=
            fun through => notThrough moment (.signal signal through)
          obtain ⟨unbegun, unseen⟩ :=
            inductionHypothesis disposedStill gatedStill notThroughStill
              restMoved
          rw [heed_begun?, unbegun, heed_shows_nothing, unseen]
          exact ⟨rfl, rfl⟩
      | proceed moment disposalFirst =>
          obtain ⟨reaction, proceeded, rfl⟩ :=
            Option.map_eq_some_iff.mp firstMoved
          rw [proceed?_gated gated, disposed, Bool.true_and] at proceeded
          by_cases stops : (disposalFirst || !session.gateOpen) = true
          · rw [if_pos stops] at proceeded
            cases proceeded
            have disposedStill :
                (session.stop [handle]).session.disposed = true :=
              disposed
            obtain ⟨unbegun, unseen⟩ :=
              rests_after_disposal disposedStill (.inr rfl) restMoved
            rw [Reaction.seen, begun?_of_stopped rfl, unbegun,
              stop_shows_nothing, unseen]
            exact ⟨rfl, rfl⟩
          · obtain ⟨rfl, isOpen⟩ :
                disposalFirst = false ∧ session.gateOpen = true := by
              simpa using stops
            exact absurd (.look rest gated isOpen) (notThrough moment)
      | elapse | receive =>
          simp [move?, elapse?, receive?, gated] at firstMoved

end Disposed

end Session

/--
A session that has been disposed of begins nothing more, unless it holds an
utterance back and finds the gate open when it looks.  Otherwise it shows nothing
but what the interaction does that it handles.  An utterance that is let through
is the last one to be begun, and is told to stop from its beginning.
-/
theorem nothing_begins_after_disposal_unless_let_through
    {policy : PollPolicy}
    {first : Conversation}
    {isAuthenticating : Bool}
    {earlier later : List Move}
    {outputs seen : List Output}
    {session last : Session}
    (run :
      Run policy (.spawn first isAuthenticating) earlier outputs session)
    (disposed : .signal .dispose ∈ earlier)
    (moved : session.moveAll? policy later = some (last, seen)) :
    ((∀ handle utterance moment,
          ¬ Session.LetsThrough handle utterance moment session later) →
        session.beginnings policy later = [] ∧
          session.ShowsOwn policy seen) ∧
      ∀ handle utterance moment,
        Session.LetsThrough handle utterance moment session later →
        session.beginnings policy later =
            [⟨handle, .utterance utterance⟩] ∧
          ∃ occurrences final,
            session.conversation.handling? policy (.utterance utterance)
                ⟨moment, true⟩ occurrences =
              some final ∧
            final.deeds.filterMap (Deed.output? session.sessionId) =
              seen.filter Output.isShown := by
  obtain ⟨account⟩ := run.account
  have disposed : session.disposed = true :=
    account.disposed_iff.mpr disposed
  refine ⟨?_, fun _ _ _ through =>
    Session.begins_when_let_through disposed through moved⟩
  intro notThrough
  unfold Session.ShowsOwn
  cases stands : session.worker with
  | idle =>
      exact Session.rests_after_disposal disposed (.inl stands) moved
  | stopped =>
      exact Session.rests_after_disposal disposed (.inr stands) moved
  | gated handle utterance =>
      exact Session.begins_nothing_when_held_back disposed stands
        (notThrough handle utterance) moved
  | interacting handle activity =>
      exact Session.goes_on_after_disposal disposed rfl (.inr stands) moved

/-- A disposed session gets an answer, shows what follows and leaves the next job. -/
theorem nothing_begins_while_one_goes_on :
    ∃ earlier later outputs session last seen,
      Run ⟨0, 3⟩
          (.spawn ⟨.awaitingRequirements, .start "S1" ⟨0, 0⟩⟩ false)
          earlier outputs session ∧
        .signal .dispose ∈ earlier ∧
        session.moveAll? ⟨0, 3⟩ later = some (last, seen) ∧
        session.awaiting = [⟨1, .help⟩] ∧
        session.beginnings ⟨0, 3⟩ later = [] ∧
        session.ShowsOwn ⟨0, 3⟩ seen ∧
        seen.filter Output.isShown ≠ [] := by
  let moment : Moment := ⟨"N1", ⟨1, 0⟩⟩
  let earlier : List Move :=
    [.signal (.enqueue ⟨0, .utterance "go"⟩), .proceed moment false,
      .signal (.enqueue ⟨1, .help⟩), .signal .dispose]
  have run :
      Run ⟨0, 3⟩
        (.spawn ⟨.awaitingRequirements, .start "S1" ⟨0, 0⟩⟩ false)
        earlier _ _ :=
    Run.start.moveAll rfl
  have disposed : .signal .dispose ∈ earlier := by
    simp [earlier]
  obtain ⟨heldBack, -⟩ :=
    @nothing_begins_after_disposal_unless_let_through ⟨0, 3⟩ _ _ earlier
      [.receive moment .workspaceIsEmpty false] _ _ _ _ run disposed rfl
  obtain ⟨unbegun, shows⟩ := heldBack fun _ _ _ through => by
    cases through
  exact ⟨earlier, _, _, _, _, _, run, disposed, rfl, rfl, unbegun, shows,
    nofun⟩

/--
The gate opens, the session is disposed of, and only then the worker looks: the
utterance that was held back is begun, or it is dropped, as the worker chooses.
-/
theorem begins_after_disposal_when_gate_opened :
    ∃ earlier outputs session moment last seen,
      Run ⟨0, 3⟩ (.spawn (.start "S1" ⟨0, 0⟩) true) earlier outputs
          session ∧
        .signal .dispose ∈ earlier ∧
        session.moveAll? ⟨0, 3⟩ [.proceed moment false] =
          some (last, seen) ∧
        session.beginnings ⟨0, 3⟩ [.proceed moment false] =
          [⟨0, .utterance "goal"⟩] ∧
        seen.filter Output.isShown ≠ [] ∧
        session.beginnings ⟨0, 3⟩ [.proceed moment true] = [] := by
  let moment : Moment := ⟨"N1", ⟨1, 0⟩⟩
  let earlier : List Move :=
    [.signal (.enqueue ⟨0, .utterance "goal"⟩), .proceed moment false,
      .signal (.authChanged true), .signal .dispose]
  have run :
      Run ⟨0, 3⟩ (.spawn (.start "S1" ⟨0, 0⟩) true) earlier _ _ :=
    Run.start.moveAll rfl
  exact ⟨earlier, _, _, moment, _, _, run, by simp [earlier], rfl, rfl,
    nofun, rfl⟩

end AssessmentChat
