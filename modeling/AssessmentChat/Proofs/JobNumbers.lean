import AssessmentChat.Proofs.SessionRun

namespace AssessmentChat

/-!
# The numbers of jobs

A session hands the numbers of its jobs back with their results and does nothing
else with them.  A session whose jobs have other numbers makes the same moves, and
all that is seen of it is the same but for the numbers.
-/

/-- A job with another number. -/
def QueuedJob.renumbered (number : Nat → Nat) (queued : QueuedJob) : QueuedJob :=
  { queued with handle := number queued.handle }

/-- A worker whose job has another number. -/
def Worker.renumbered (number : Nat → Nat) : Worker → Worker
  | .gated handle utterance => .gated (number handle) utterance
  | .interacting handle activity => .interacting (number handle) activity
  | .idle => .idle
  | .stopped => .stopped

/-- An output with another number. -/
def Output.renumbered (number : Nat → Nat) : Output → Output
  | .resolved handle outcome => .resolved (number handle) outcome
  | .published event => .published event
  | .called request => .called request

/-- A move that queues its job under another number. -/
def Move.renumbered (number : Nat → Nat) : Move → Move
  | .signal (.enqueue queued) => .signal (.enqueue (queued.renumbered number))
  | move => move

/-- A session whose jobs have other numbers. -/
def Session.renumbered (number : Nat → Nat) (session : Session) : Session :=
  { session with
    queue := session.queue.map (QueuedJob.renumbered number)
    worker := session.worker.renumbered number }

/-- A reaction of a session whose jobs have other numbers. -/
def Reaction.renumbered (number : Nat → Nat) (reaction : Reaction) : Reaction :=
  { reaction with
    session := reaction.session.renumbered number
    outputs := reaction.outputs.map (Output.renumbered number) }

/-- A session and what is seen of it, with other numbers. -/
def renumberedSeen
    (number : Nat → Nat)
    (seen : Session × List Output) : Session × List Output :=
  (seen.1.renumbered number, seen.2.map (Output.renumbered number))

namespace Session

variable
  (number : Nat → Nat)
  (session : Session)

@[simp] theorem renumbered_sessionId :
    (session.renumbered number).sessionId = session.sessionId :=
  rfl

@[simp] theorem renumbered_isCancelled :
    (session.renumbered number).isCancelled = session.isCancelled :=
  rfl

/-- Numbers play no part when the user signs in or out. -/
@[simp] theorem authChanged_renumbered
    (authenticated : Bool) :
    (session.renumbered number).authChanged authenticated =
      (session.authChanged authenticated).renumbered number :=
  rfl

/-- Numbers play no part when a job is told to stop. -/
@[simp] theorem cancel_renumbered :
    (session.renumbered number).cancel = session.cancel.renumbered number := by
  have same : (session.renumbered number).canCancel = session.canCancel :=
    rfl
  unfold cancel
  rw [same]
  split <;> rfl

/-- Numbers play no part when a session is disposed of. -/
@[simp] theorem dispose_renumbered :
    (session.renumbered number).dispose =
      session.dispose.renumbered number :=
  rfl

/-- A job that is put in line keeps its number, whatever the others are. -/
theorem enqueue_renumbered
    (queued : QueuedJob) :
    (session.renumbered number).enqueue (queued.renumbered number) =
      renumberedSeen number (session.enqueue queued) := by
  cases session with
  | mk sessionId conversation queue gateOpen disposed running snapshot
      publications worker =>
      cases worker <;>
        simp [enqueue, renumbered, Worker.renumbered, renumberedSeen,
          Output.renumbered, QueuedJob.renumbered]

/-- The jobs that are given up on disposal are named by their own numbers. -/
theorem stop_renumbered
    (held : List Nat) :
    (session.renumbered number).stop (held.map number) =
      (session.stop held).renumbered number := by
  simp [stop, renumbered, Reaction.renumbered, Worker.renumbered,
    QueuedJob.renumbered, Output.renumbered, Function.comp_def]

/-- What a stretch of an interaction comes to depends on no number. -/
theorem absorb_renumbered
    (handle : Nat)
    (stretch : Stretch (Except Fault Conversation)) :
    (session.renumbered number).absorb (number handle) stretch =
      (session.absorb handle stretch).renumbered number := by
  unfold absorb
  cases stretch.reached with
  | finished result =>
      simp [renumbered, Reaction.renumbered, Worker.renumbered,
        Output.renumbered, commit, publish]
  | asking | pausing | checking =>
      simp [renumbered, Reaction.renumbered, Worker.renumbered,
        Output.renumbered, Activity.inFlight?]

/-- Whether there is such a stretch depends on no number either. -/
theorem map_absorb_renumbered
    (handle : Nat)
    (stretch? : Option (Stretch (Except Fault Conversation))) :
    stretch?.map ((session.renumbered number).absorb (number handle)) =
      (stretch?.map (session.absorb handle)).map
        (Reaction.renumbered number) := by
  cases stretch? with
  | none =>
      rfl
  | some stretch =>
      exact congrArg some (absorb_renumbered number session handle stretch)

/-- An utterance begins alike under every number. -/
theorem beginUtterance_renumbered
    (supplies : Supplies)
    (handle : Nat)
    (utterance : String) :
    (session.renumbered number).beginUtterance supplies (number handle)
        utterance =
      (session.beginUtterance supplies handle utterance).renumbered number :=
  absorb_renumbered number
    (({ session with
        running := some ⟨session.conversation.phase, false⟩ } :
      Session).publish true) handle _

/-- A job begins alike under every number. -/
theorem beginJob_renumbered
    (supplies : Supplies)
    (queued : QueuedJob) :
    (session.renumbered number).beginJob supplies
        (queued.renumbered number) =
      (session.beginJob supplies queued).renumbered number := by
  obtain ⟨handle, job⟩ := queued
  cases job with
  | utterance text =>
      have same : (session.renumbered number).gateOpen = session.gateOpen :=
        rfl
      simp only [beginJob, QueuedJob.renumbered, same]
      split
      · exact beginUtterance_renumbered number session supplies handle text
      · rfl
  | help =>
      rfl

/-- The worker goes on alike, whatever the numbers of the jobs. -/
theorem proceed?_renumbered
    (supplies : Supplies)
    (disposalFirst : Bool) :
    (session.renumbered number).proceed? supplies disposalFirst =
      (session.proceed? supplies disposalFirst).map
        (Reaction.renumbered number) := by
  have cancelled := renumbered_isCancelled number session
  have disposed :
      (session.renumbered number).disposed = session.disposed :=
    rfl
  have gate : (session.renumbered number).gateOpen = session.gateOpen :=
    rfl
  have stops (held : List Nat) := stop_renumbered number session held
  cases stands : session.worker with
  | idle =>
      have standsToo : (session.renumbered number).worker = .idle := by
        simp [renumbered, stands, Worker.renumbered]
      rw [proceed?_idle stands, proceed?_idle standsToo, disposed]
      split
      · exact congrArg some (stops [])
      · cases waiting : session.queue with
        | nil =>
            simp [renumbered, waiting]
        | cons queued rest =>
            have waitingToo :
                (session.renumbered number).queue =
                  queued.renumbered number ::
                    rest.map (QueuedJob.renumbered number) := by
              simp [renumbered, waiting]
            rw [waitingToo]
            exact congrArg some
              (beginJob_renumbered number { session with queue := rest }
                supplies queued)
  | gated handle utterance =>
      have standsToo :
          (session.renumbered number).worker =
            .gated (number handle) utterance := by
        simp [renumbered, stands, Worker.renumbered]
      rw [proceed?_gated stands, proceed?_gated standsToo, disposed, gate]
      split
      · exact congrArg some (stops [handle])
      · split
        · exact congrArg some
            (beginUtterance_renumbered number session supplies handle
              utterance)
        · rfl
  | interacting handle activity =>
      have standsToo :
          (session.renumbered number).worker =
            .interacting (number handle) activity := by
        simp [renumbered, stands, Worker.renumbered]
      simp only [proceed?, stands, standsToo, cancelled]
      split
      · exact map_absorb_renumbered number session handle _
      · rfl
  | stopped =>
      simp [proceed?, renumbered, stands, Worker.renumbered]

/-- A wait is over alike, whatever the numbers of the jobs. -/
theorem elapse?_renumbered
    (supplies : Supplies) :
    (session.renumbered number).elapse? supplies =
      (session.elapse? supplies).map (Reaction.renumbered number) := by
  cases stands : session.worker with
  | interacting handle activity =>
      have standsToo :
          (session.renumbered number).worker =
            .interacting (number handle) activity := by
        simp [renumbered, stands, Worker.renumbered]
      simp only [elapse?, stands, standsToo]
      exact map_absorb_renumbered number session handle _
  | idle | gated | stopped =>
      simp [elapse?, renumbered, stands, Worker.renumbered]

/-- An answer is received alike, whatever the numbers of the jobs. -/
theorem receive?_renumbered
    (supplies : Supplies)
    (request : Request)
    (answer : request.Answer) :
    (session.renumbered number).receive? supplies request answer =
      (session.receive? supplies request answer).map
        (Reaction.renumbered number) := by
  cases stands : session.worker with
  | interacting handle activity =>
      have standsToo :
          (session.renumbered number).worker =
            .interacting (number handle) activity := by
        simp [renumbered, stands, Worker.renumbered]
      simp only [receive?, stands, standsToo]
      exact map_absorb_renumbered number session handle _
  | idle | gated | stopped =>
      simp [receive?, renumbered, stands, Worker.renumbered]

/-- A move of a session whose jobs have other numbers is the same move. -/
theorem move?_renumbered
    (policy : PollPolicy)
    (move : Move) :
    (session.renumbered number).move? policy (move.renumbered number) =
      (session.move? policy move).map (renumberedSeen number) := by
  have seen
      (reaction : Option Reaction) :
      (reaction.map (Reaction.renumbered number)).map Reaction.seen =
        (reaction.map Reaction.seen).map (renumberedSeen number) := by
    rw [Option.map_map, Option.map_map]
    rfl
  cases move with
  | signal signal =>
      cases signal with
      | enqueue queued =>
          exact congrArg some (enqueue_renumbered number session queued)
      | cancel | authChanged | dispose | look =>
          simp [Move.renumbered, move?, heed, renumberedSeen]
  | proceed moment disposalFirst =>
      simp only [Move.renumbered, move?, proceed?_renumbered, seen]
  | elapse moment =>
      simp only [Move.renumbered, move?, elapse?_renumbered, seen]
  | receive moment request answer =>
      simp only [Move.renumbered, move?, receive?_renumbered, seen]

end Session

end AssessmentChat
