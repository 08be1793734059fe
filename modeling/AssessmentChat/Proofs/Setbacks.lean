import AssessmentChat.Proofs.BoundedWaits
import AssessmentChat.Proofs.PlanCancellation

namespace AssessmentChat.Rehearsal

/-!
# Setbacks

A setback is a failing reply that comes in before the reply that a status request
would have got.  A script with setbacks is compared with the script as it was: as
long as no watch sees too many failures in a row, the performance says the same
and asks for the same, except that each setback costs one more status request and
the time that it takes.
-/

/--
Never so many failures in a row as the limit, after some failures before; each
answer is known by whether it fails.
-/
def Bearable (limit : Nat) : Nat → List Bool → Prop
  | _, [] => True
  | failures, true :: later =>
      failures + 1 < limit ∧ Bearable limit (failures + 1) later
  | _, false :: later => Bearable limit 0 later

namespace Reply

/-- Whether a reply reports a failure. -/
def fails (reply : Reply α) : Bool :=
  match reply.outcome with
  | some (.error _) => true
  | _ => false

/--
The replies to the first status requests, each with its setbacks before it.  A
default reply is written out when no other one is left.
-/
def seen : List (List (Reply α)) → List (Reply α) → List (Reply α)
  | [], _ => []
  | setbacks :: later, replies =>
      setbacks ++ next replies :: seen later replies.tail

/-- The replies with setbacks before the first ones. -/
def withSetbacks (setbacks : List (List (Reply α))) (replies : List (Reply α)) :
    List (Reply α) :=
  seen setbacks replies ++ replies.drop setbacks.length

/--
Setbacks before the replies that watches use: they only fail, there is a list of
them for each request, and no watch sees too many failures in a row.
-/
structure Transient
    (limit failures requests : Nat)
    (setbacks : List (List (Reply α)))
    (replies : List (Reply α)) : Prop where
  onlyFail :
    ∀ reply ∈ setbacks.flatten,
      reply.fails = true ∧ reply.cancels = false
  eachRequest :
    setbacks.length = requests
  bearable :
    Bearable limit failures ((seen setbacks replies).map Reply.fails)

/-- The time that setbacks take: the delay before each request and its answer. -/
def timeLost (policy : PollPolicy) : List (Reply α) → Nat
  | [] => 0
  | reply :: rest => policy.interval + reply.delay + timeLost policy rest

end Reply

/--
The setbacks of a performance: for each status request that it would make, the
failing replies that come in before the reply.
-/
structure Setbacks where
  assessment : List (List (Reply AssessmentReport))
  interaction : List (List (Reply InteractionReport))

namespace Setbacks

/-- No setbacks at all. -/
def none : Setbacks :=
  ⟨[], []⟩

/-- A script with setbacks. -/
def into (setbacks : Setbacks) (script : Script) : Script :=
  { script with
    assessmentStatus :=
      Reply.withSetbacks setbacks.assessment script.assessmentStatus
    interactionStatus :=
      Reply.withSetbacks setbacks.interaction script.interactionStatus }

/-- How many setbacks there are. -/
def count (setbacks : Setbacks) : Nat :=
  setbacks.assessment.flatten.length + setbacks.interaction.flatten.length

/-- The time that the setbacks take. -/
def timeLost (policy : PollPolicy) (setbacks : Setbacks) : Nat :=
  Reply.timeLost policy setbacks.assessment.flatten +
    Reply.timeLost policy setbacks.interaction.flatten

/-- How many setbacks come before the reply to a request. -/
def waiting (setbacks : Setbacks) : Request → Nat
  | .service (.assessmentStatus ..) =>
      (setbacks.assessment.headD []).length
  | .service (.interactionStatus ..) =>
      (setbacks.interaction.headD []).length
  | _ => 0

/-- The setbacks that are left once a request has got its reply. -/
def past (setbacks : Setbacks) : Request → Setbacks
  | .service (.assessmentStatus ..) =>
      { setbacks with assessment := setbacks.assessment.tail }
  | .service (.interactionStatus ..) =>
      { setbacks with interaction := setbacks.interaction.tail }
  | _ => setbacks

/-- What is noted down with setbacks: each of them makes its request once more. -/
def echo (setbacks : Setbacks) : List Entry → List Entry
  | [] => []
  | .event event :: later => .event event :: setbacks.echo later
  | .call request :: later =>
      List.replicate (setbacks.waiting request) (.call request) ++
        .call request :: (setbacks.past request).echo later

end Setbacks

/-- Whether an entry is a request of some kind. -/
def Entry.isCall (kind : Request → Bool) : Entry → Bool
  | .call request => kind request
  | .event _ => false

@[simp] theorem Entry.isCall_call
    (kind : Request → Bool)
    (request : Request) :
    (Entry.call request).isCall kind = kind request :=
  rfl

@[simp] theorem Entry.isCall_event
    (kind : Request → Bool)
    (event : Event) :
    (Entry.event event).isCall kind = false :=
  rfl

namespace Setbacks

/--
Setbacks before the replies that a performance uses: they only fail, there is a
list of them for each status request that it makes, and no watch sees too many
failures in a row.
-/
structure Transient
    (policy : PollPolicy)
    (script : Script)
    (entries : List Entry)
    (setbacks : Setbacks) : Prop where
  assessment :
    Reply.Transient (max 1 policy.maxConsecutiveErrors) 0
      (entries.countP (Entry.isCall Request.isAssessmentStatus))
      setbacks.assessment script.assessmentStatus
  interaction :
    Reply.Transient (max 1 policy.maxConsecutiveErrors) 0
      (entries.countP (Entry.isCall Request.isInteractionStatus))
      setbacks.interaction script.interactionStatus

/--
Setbacks that a watch can bear, when so many requests of the last one watched have
failed in a row already.
-/
structure Ahead
    (policy : PollPolicy)
    (watched : Request)
    (failures : Nat)
    (script : Script)
    (diary : List Entry)
    (setbacks : Setbacks) : Prop where
  assessment :
    Reply.Transient (max 1 policy.maxConsecutiveErrors)
      (if watched.isAssessmentStatus then failures else 0)
      (diary.countP (Entry.isCall Request.isAssessmentStatus))
      setbacks.assessment script.assessmentStatus
  interaction :
    Reply.Transient (max 1 policy.maxConsecutiveErrors)
      (if watched.isInteractionStatus then failures else 0)
      (diary.countP (Entry.isCall Request.isInteractionStatus))
      setbacks.interaction script.interactionStatus

end Setbacks

/-! ## One list of replies -/

namespace Reply

variable
  {limit failures requests : Nat}
  {setbacks : List (List (Reply α))}
  {replies : List (Reply α)}

theorem length_withSetbacks
    (setbacks : List (List (Reply α)))
    (replies : List (Reply α)) :
    replies.length + setbacks.flatten.length ≤
      (withSetbacks setbacks replies).length := by
  have seenLength :
      (seen setbacks replies).length =
        setbacks.length + setbacks.flatten.length := by
    induction setbacks generalizing replies with
    | nil =>
        rfl
    | cons first later inductionHypothesis =>
        simp [seen, inductionHypothesis]
        omega
  rw [withSetbacks, List.length_append, seenLength, List.length_drop]
  omega

theorem withSetbacks_cons
    (first : List (Reply α))
    (later : List (List (Reply α)))
    (replies : List (Reply α)) :
    withSetbacks (first :: later) replies =
      first ++ next replies :: withSetbacks later replies.tail := by
  simp [withSetbacks, seen]

theorem fails_eq_true
    {reply : Reply α}
    (fails : reply.fails = true) :
    ∃ fault, reply.outcome = some (.error fault) := by
  unfold Reply.fails at fails
  split at fails
  · exact ⟨_, ‹_›⟩
  · cases fails

/-- A reply fails exactly when its answer is a fault. -/
theorem fails_eq
    (reply : Reply α)
    (default : α) :
    reply.fails = reportsFailure (reply.outcomeOr default) := by
  unfold Reply.fails outcomeOr
  match reply.outcome with
  | none | some (.ok _) | some (.error _) =>
      rfl

theorem Transient.eq_nil
    (transient : Transient limit failures 0 setbacks replies) :
    setbacks = [] :=
  List.length_eq_zero_iff.mp transient.eachRequest

/-- The first setback fails and leaves ones that can be borne. -/
theorem Transient.setback
    {reply : Reply α}
    {first : List (Reply α)}
    {later : List (List (Reply α))}
    (transient :
      Transient limit failures requests ((reply :: first) :: later)
        replies) :
    reply.fails = true ∧ reply.cancels = false ∧ failures + 1 < limit ∧
      Transient limit (failures + 1) requests (first :: later) replies := by
  obtain ⟨onlyFail, eachRequest, bearable⟩ := transient
  obtain ⟨fails, goesOn⟩ := onlyFail reply (by simp)
  simp only [seen, List.cons_append, List.map_cons, fails, Bearable]
    at bearable
  refine ⟨fails, goesOn, bearable.1, ?_, eachRequest, bearable.2⟩
  intro other member
  exact onlyFail other (List.mem_cons_of_mem reply member)

/-- Without a setback in front, the reply is the one that there would have been. -/
theorem Transient.reply
    (transient :
      Transient limit failures (requests + 1) setbacks replies)
    (noneWaits : setbacks.headD [] = []) :
    if (next replies).fails then
      failures + 1 < limit ∧
        Transient limit (failures + 1) requests setbacks.tail replies.tail
    else Transient limit 0 requests setbacks.tail replies.tail := by
  obtain ⟨onlyFail, eachRequest, bearable⟩ := transient
  cases setbacks with
  | nil =>
      cases eachRequest
  | cons first later =>
      cases noneWaits
      have each := Nat.succ.inj eachRequest
      simp only [seen, List.nil_append, List.map_cons] at bearable
      cases fails : (next replies).fails with
      | true =>
          rw [fails] at bearable
          exact ⟨bearable.1, onlyFail, each, bearable.2⟩
      | false =>
          rw [fails] at bearable
          exact ⟨onlyFail, each, bearable⟩

end Reply

/-! ## One request -/

namespace Setbacks

/-- The setbacks without the first one that comes before the reply to a request. -/
def relieved (setbacks : Setbacks) : Request → Setbacks
  | .service (.assessmentStatus ..) =>
      { setbacks with
        assessment :=
          setbacks.assessment.head?.elim [] List.tail ::
            setbacks.assessment.tail }
  | .service (.interactionStatus ..) =>
      { setbacks with
        interaction :=
          setbacks.interaction.head?.elim [] List.tail ::
            setbacks.interaction.tail }
  | _ => setbacks

variable
  {policy : PollPolicy}
  {watched : Request}
  {failures : Nat}
  {script : Script}
  {diary : List Entry}
  {setbacks : Setbacks}

@[simp] theorem none_into
    (script : Script) :
    none.into script = script := by
  simp [none, into, Reply.withSetbacks, Reply.seen]

theorem Ahead.eq_none
    (ahead : setbacks.Ahead policy watched failures script []) :
    setbacks = none := by
  obtain ⟨assessment, interaction⟩ := setbacks
  obtain rfl := ahead.assessment.eq_nil
  obtain rfl := ahead.interaction.eq_nil
  rfl

theorem Transient.ahead
    {entries : List Entry}
    (transient : setbacks.Transient policy script entries)
    (same : entries = diary.reverse)
    (watched : Request) :
    setbacks.Ahead policy watched 0 script diary := by
  subst same
  obtain ⟨assessment, interaction⟩ := transient
  rw [List.countP_reverse] at assessment interaction
  refine ⟨?_, ?_⟩
  · simpa only [ite_self] using assessment
  · simpa only [ite_self] using interaction

/-- Setbacks are replies that are left to be used. -/
theorem remaining_into
    (setbacks : Setbacks)
    (script : Script) :
    Script.surroundings.remaining script + setbacks.count ≤
      Script.surroundings.remaining (setbacks.into script) := by
  have assessment :=
    Reply.length_withSetbacks setbacks.assessment script.assessmentStatus
  have interaction :=
    Reply.length_withSetbacks setbacks.interaction script.interactionStatus
  simp only [Script.surroundings, count, into]
  omega

/-- As long as no watch has seen a failure, it does not matter which one is next. -/
theorem Ahead.atRest
    (ahead : setbacks.Ahead policy watched 0 script diary)
    (other : Request) :
    setbacks.Ahead policy other 0 script diary := by
  obtain ⟨assessment, interaction⟩ := ahead
  simp only [ite_self] at assessment interaction
  refine ⟨?_, ?_⟩
  · simpa only [ite_self] using assessment
  · simpa only [ite_self] using interaction

/-- What is said uses no setback up. -/
theorem Ahead.said
    {sessionId : String}
    {stretch : Stretch α}
    (ahead :
      setbacks.Ahead policy watched failures script
        (Performance.said sessionId stretch ++ diary)) :
    setbacks.Ahead policy watched failures script diary := by
  have silent
      (kind : Request → Bool) :
      (Performance.said sessionId stretch ++ diary).countP
          (Entry.isCall kind) =
        diary.countP (Entry.isCall kind) := by
    have noCall :
        (Performance.said sessionId stretch).countP (Entry.isCall kind) =
          0 := by
      simp [List.countP_eq_zero, Performance.said, Entry.isCall]
    rw [List.countP_append, noCall, Nat.zero_add]
  obtain ⟨assessment, interaction⟩ := ahead
  rw [silent] at assessment interaction
  exact ⟨assessment, interaction⟩

theorem echo_said
    (sessionId : String)
    (stretch : Stretch α)
    (setbacks : Setbacks)
    (diary : List Entry) :
    setbacks.echo (Performance.said sessionId stretch ++ diary) =
      Performance.said sessionId stretch ++ setbacks.echo diary := by
  unfold Performance.said
  induction stretch.notices with
  | nil =>
      rfl
  | cons notice notices inductionHypothesis =>
      simpa [echo] using inductionHypothesis

theorem past_of_not_status
    {request : Request}
    (notStatus : request.isStatus = false)
    (setbacks : Setbacks) :
    setbacks.past request = setbacks := by
  unfold past
  split
  · cases notStatus
  · cases notStatus
  · rfl

theorem waiting_of_not_status
    {request : Request}
    (notStatus : request.isStatus = false)
    (setbacks : Setbacks) :
    setbacks.waiting request = 0 := by
  unfold waiting
  split
  · cases notStatus
  · cases notStatus
  · rfl

/-- All but the status requests is as it would have been. -/
theorem filter_echo
    (setbacks : Setbacks)
    (diary : List Entry) :
    (setbacks.echo diary).filter
        (fun entry => !entry.isCall Request.isStatus) =
      diary.filter fun entry => !entry.isCall Request.isStatus := by
  induction diary generalizing setbacks with
  | nil =>
      rfl
  | cons entry diary inductionHypothesis =>
      cases entry with
      | event event =>
          simp [echo, inductionHypothesis]
      | call request =>
          cases status : request.isStatus with
          | true =>
              simp [echo, status, inductionHypothesis]
          | false =>
              simp [echo, status, waiting_of_not_status status,
                inductionHypothesis]

theorem waiting_add_count_past
    (setbacks : Setbacks)
    (request : Request) :
    setbacks.waiting request + (setbacks.past request).count =
      setbacks.count := by
  have front
      {α : Type}
      (lists : List (List (Reply α))) :
      (lists.headD []).length + lists.tail.flatten.length =
        lists.flatten.length := by
    cases lists <;> simp
  match request with
  | .service (.assessmentStatus ..) =>
      have split := front setbacks.assessment
      simp only [waiting, past, count]
      omega
  | .service (.interactionStatus ..) =>
      have split := front setbacks.interaction
      simp only [waiting, past, count]
      omega
  | .service .createEngagement | .service (.uploadWorkspace _)
  | .service (.startAssessment ..) | .service (.updateAssessment ..)
  | .service (.stopAssessment ..) | .service (.downloadPlan ..)
  | .service (.startInteraction ..) | .service (.deriveIntent ..)
  | .workspaceIsEmpty | .storePlan _ | .exportPlan .. =>
      exact Nat.zero_add _

theorem length_past
    (setbacks : Setbacks)
    (request : Request) :
    (setbacks.past request).assessment.length =
        setbacks.assessment.length -
          (if request.isAssessmentStatus then 1 else 0) ∧
      (setbacks.past request).interaction.length =
        setbacks.interaction.length -
          (if request.isInteractionStatus then 1 else 0) := by
  match request with
  | .service (.assessmentStatus ..) | .service (.interactionStatus ..) =>
      simp [past, Request.isAssessmentStatus, Request.isInteractionStatus]
  | .service .createEngagement | .service (.uploadWorkspace _)
  | .service (.startAssessment ..) | .service (.updateAssessment ..)
  | .service (.stopAssessment ..) | .service (.downloadPlan ..)
  | .service (.startInteraction ..) | .service (.deriveIntent ..)
  | .workspaceIsEmpty | .storePlan _ | .exportPlan .. =>
      exact ⟨rfl, rfl⟩

/-- Each setback is one status request more. -/
theorem countP_echo
    (assessment :
      setbacks.assessment.length =
        diary.countP (Entry.isCall Request.isAssessmentStatus))
    (interaction :
      setbacks.interaction.length =
        diary.countP (Entry.isCall Request.isInteractionStatus)) :
    (setbacks.echo diary).countP (Entry.isCall Request.isStatus) =
      diary.countP (Entry.isCall Request.isStatus) + setbacks.count := by
  induction diary generalizing setbacks with
  | nil =>
      obtain ⟨assessmentLists, interactionLists⟩ := setbacks
      obtain rfl := List.length_eq_zero_iff.mp assessment
      obtain rfl := List.length_eq_zero_iff.mp interaction
      rfl
  | cons entry diary inductionHypothesis =>
      cases entry with
      | event event =>
          simp only [List.countP_cons, Entry.isCall_event,
            Bool.false_eq_true, if_false, Nat.add_zero]
            at assessment interaction
          simpa [echo] using inductionHypothesis assessment interaction
      | call request =>
          simp only [List.countP_cons, Entry.isCall_call]
            at assessment interaction
          have fewer := setbacks.waiting_add_count_past request
          have later :
              ((setbacks.past request).echo diary).countP
                  (Entry.isCall Request.isStatus) =
                diary.countP (Entry.isCall Request.isStatus) +
                  (setbacks.past request).count := by
            refine inductionHypothesis ?_ ?_
            · rw [(setbacks.length_past request).1, assessment]
              exact Nat.add_sub_cancel _ _
            · rw [(setbacks.length_past request).2, interaction]
              exact Nat.add_sub_cancel _ _
          cases status : request.isStatus with
          | true =>
              simp [echo, status, later, List.countP_append, List.countP_replicate]
              omega
          | false =>
              rw [waiting_of_not_status status] at fewer
              simp [echo, status, later, waiting_of_not_status status]
              omega

/-- A request that no setback precedes is answered as it would have been. -/
theorem answer_into
    {request : Request}
    (noneWaits : setbacks.waiting request = 0)
    (script : Script) :
    (setbacks.into script).answer request =
      ((script.answer request).1,
        (setbacks.past request).into (script.answer request).2) := by
  have front
      {α : Type}
      {lists : List (List (Reply α))}
      (empty : (lists.headD []).length = 0)
      (replies : List (Reply α)) :
      Reply.next (Reply.withSetbacks lists replies) = Reply.next replies ∧
        (Reply.withSetbacks lists replies).tail =
          Reply.withSetbacks lists.tail replies.tail := by
    cases lists with
    | nil =>
        simp [Reply.withSetbacks, Reply.seen]
    | cons first later =>
        obtain rfl := List.length_eq_zero_iff.mp empty
        rw [Reply.withSetbacks_cons]
        exact ⟨rfl, rfl⟩
  match request with
  | .service (.assessmentStatus ..) =>
      obtain ⟨same, rest⟩ := front noneWaits script.assessmentStatus
      simp [Script.answer, Script.answerService, into, past, same, rest]
  | .service (.interactionStatus ..) =>
      obtain ⟨same, rest⟩ := front noneWaits script.interactionStatus
      simp [Script.answer, Script.answerService, into, past, same, rest]
  | .service .createEngagement | .service (.uploadWorkspace _)
  | .service (.startAssessment ..) | .service (.updateAssessment ..)
  | .service (.stopAssessment ..) | .service (.downloadPlan ..)
  | .service (.startInteraction ..) | .service (.deriveIntent ..)
  | .workspaceIsEmpty | .storePlan _ | .exportPlan .. =>
      rfl

/-- A request without setbacks costs nothing more. -/
theorem past_of_noneWaits
    {request : Request}
    (noneWaits : setbacks.waiting request = 0)
    (policy : PollPolicy) :
    (setbacks.past request).count = setbacks.count ∧
      (setbacks.past request).timeLost policy = setbacks.timeLost policy := by
  have rest
      {α : Type}
      {lists : List (List (Reply α))}
      (empty : (lists.headD []).length = 0) :
      lists.tail.flatten = lists.flatten := by
    cases lists with
    | nil =>
        rfl
    | cons first later =>
        obtain rfl := List.length_eq_zero_iff.mp empty
        rfl
  unfold past
  split
  · simp [count, timeLost, rest noneWaits]
  · simp [count, timeLost, rest noneWaits]
  · exact ⟨rfl, rfl⟩

/-- A request that is not for a status leaves the setbacks ahead. -/
theorem Ahead.request
    {request : Request}
    (notStatus : request.isStatus = false)
    (ahead :
      setbacks.Ahead policy watched failures script
        (.call request :: diary)) :
    setbacks.Ahead policy watched failures (script.answer request).2
      diary := by
  obtain ⟨notAssessment, notInteraction⟩ :=
    Bool.or_eq_false_iff.mp notStatus
  obtain ⟨assessment, interaction⟩ := ahead
  simp only [List.countP_cons, Entry.isCall, notAssessment, notInteraction,
    Bool.false_eq_true, if_false, Nat.add_zero] at assessment interaction
  match request with
  | .service (.assessmentStatus ..) | .service (.interactionStatus ..) =>
      cases notStatus
  | .service .createEngagement | .service (.uploadWorkspace _)
  | .service (.startAssessment ..) | .service (.updateAssessment ..)
  | .service (.stopAssessment ..) | .service (.downloadPlan ..)
  | .service (.startInteraction ..) | .service (.deriveIntent ..)
  | .workspaceIsEmpty | .storePlan _ | .exportPlan .. =>
      exact ⟨assessment, interaction⟩

/-- The reply to a status request is one failure more in a row, or ends the row. -/
theorem Ahead.reply
    {call : ServiceCall}
    {isTerminal : call.Reply → Bool}
    (watches : WatchesJob call isTerminal)
    (ahead :
      setbacks.Ahead policy (.service call) failures script
        (.call (.service call) :: diary))
    (noneWaits : setbacks.waiting (.service call) = 0) :
    if reportsFailure (script.answer (.service call)).1.answer then
      failures + 1 < max 1 policy.maxConsecutiveErrors ∧
        (setbacks.past (.service call)).Ahead policy (.service call)
          (failures + 1) (script.answer (.service call)).2 diary
    else
      (setbacks.past (.service call)).Ahead policy (.service call) 0
        (script.answer (.service call)).2 diary := by
  obtain ⟨assessment, interaction⟩ := ahead
  cases watches with
  | assessment engagementId assessmentId =>
      simp only [List.countP_cons, Entry.isCall, Request.isAssessmentStatus,
        Request.isInteractionStatus, if_true, Bool.false_eq_true, if_false,
        Nat.add_zero] at assessment interaction
      have replied :=
        assessment.reply (List.length_eq_zero_iff.mp noneWaits)
      rw [Reply.fails_eq _ ⟨.completed, ""⟩] at replied
      change if reportsFailure _ then _ else _
      split
      · rw [if_pos ‹_›] at replied
        exact ⟨replied.1, replied.2, interaction⟩
      · rw [if_neg ‹_›] at replied
        exact ⟨replied, interaction⟩
  | interaction engagementId interactionId =>
      simp only [List.countP_cons, Entry.isCall, Request.isAssessmentStatus,
        Request.isInteractionStatus, if_true, Bool.false_eq_true, if_false,
        Nat.add_zero] at assessment interaction
      have replied :=
        interaction.reply (List.length_eq_zero_iff.mp noneWaits)
      rw [Reply.fails_eq _ ⟨.completed, "Answer"⟩] at replied
      change if reportsFailure _ then _ else _
      split
      · rw [if_pos ‹_›] at replied
        exact ⟨replied.1, assessment, replied.2⟩
      · rw [if_neg ‹_›] at replied
        exact ⟨assessment, replied⟩

theorem exists_first_waiting
    {lists : List (List α)}
    {waiting : Nat}
    (waits : (lists.headD []).length = waiting + 1) :
    ∃ first rest later,
      lists = (first :: rest) :: later ∧ rest.length = waiting := by
  cases lists with
  | nil =>
      cases waits
  | cons head later =>
      cases head with
      | nil =>
          cases waits
      | cons first rest =>
          exact ⟨first, rest, later, rfl, Nat.succ.inj waits⟩

/-- A setback fails, takes its time, and leaves ones that the watch can bear. -/
theorem Ahead.setback
    {call : ServiceCall}
    {isTerminal : call.Reply → Bool}
    {waiting : Nat}
    (watches : WatchesJob call isTerminal)
    (ahead :
      setbacks.Ahead policy (.service call) failures script diary)
    (waits : setbacks.waiting (.service call) = waiting + 1) :
    let relieved := setbacks.relieved (.service call)
    failures + 1 < max 1 policy.maxConsecutiveErrors ∧
      relieved.Ahead policy (.service call) (failures + 1) script diary ∧
      relieved.waiting (.service call) = waiting ∧
      relieved.past (.service call) = setbacks.past (.service call) ∧
      setbacks.count = relieved.count + 1 ∧
      ∃ delay fault,
        (setbacks.into script).answer (.service call) =
            (⟨delay, false, .error fault⟩, relieved.into script) ∧
          setbacks.timeLost policy =
            policy.interval + delay + relieved.timeLost policy := by
  obtain ⟨assessment, interaction⟩ := ahead
  obtain ⟨assessmentLists, interactionLists⟩ := setbacks
  cases watches with
  | assessment engagementId assessmentId =>
      obtain ⟨reply, first, later, rfl, rest⟩ := exists_first_waiting waits
      obtain ⟨fails, notCancels, few, transient⟩ := assessment.setback
      obtain ⟨fault, failed⟩ := Reply.fails_eq_true fails
      refine ⟨few, ⟨transient, interaction⟩, rest, rfl, ?_, reply.delay, fault, ?_, ?_⟩
      · simp [count, relieved]
        omega
      · simp [into, Reply.withSetbacks_cons, Script.answer,
          Script.answerService, Reply.next, Reply.outcomeOr, failed,
          notCancels, relieved]
      · simp [timeLost, Reply.timeLost, relieved]
        omega
  | interaction engagementId interactionId =>
      obtain ⟨reply, first, later, rfl, rest⟩ := exists_first_waiting waits
      obtain ⟨fails, notCancels, few, transient⟩ := interaction.setback
      obtain ⟨fault, failed⟩ := Reply.fails_eq_true fails
      refine ⟨few, ⟨assessment, transient⟩, rest, rfl, ?_, reply.delay, fault, ?_, ?_⟩
      · simp [count, relieved]
        omega
      · simp [into, Reply.withSetbacks_cons, Script.answer,
          Script.answerService, Reply.next, Reply.outcomeOr, failed,
          notCancels, relieved]
      · simp [timeLost, Reply.timeLost, relieved]
        omega

end Setbacks

namespace Performance

/-! ## Setbacks only take time -/

/-- A performance with setbacks ahead, so much later and with other entries. -/
def setBack
    (setbacks : Setbacks)
    (lag : Nat)
    (entries : List Entry)
    (performance : Performance Script) : Performance Script :=
  { performance with
    surroundings := setbacks.into performance.surroundings
    clock := performance.clock + lag
    entries }

variable
  {policy : PollPolicy}
  {sessionId : String}
  {performance : Performance Script}
  {setbacks : Setbacks}

/-- What a stretch says is added to the entries. -/
theorem setBack_absorb
    (sessionId : String)
    (stretch : Stretch α)
    (setbacks : Setbacks)
    (lag : Nat)
    (entries : List Entry)
    (performance : Performance Script) :
    (performance.setBack setbacks lag entries).absorb sessionId stretch =
      (performance.absorb sessionId stretch).setBack setbacks lag
        ((said sessionId stretch).reverse ++ entries) := by
  simp [absorb_eq, setBack]

/-- A request that no setback precedes is answered at its own time. -/
theorem setBack_answered
    {request : Request}
    (noneWaits : setbacks.waiting request = 0)
    (lag : Nat)
    (entries : List Entry)
    (performance : Performance Script) :
    (performance.setBack setbacks lag entries).answered
        Script.surroundings request =
      (performance.answered Script.surroundings request).setBack
        (setbacks.past request) lag (.call request :: entries) := by
  simp [answered, setBack, Script.surroundings,
    Setbacks.answer_into noneWaits, Nat.add_right_comm]

/-- A stretch that says nothing and takes no name changes nothing. -/
theorem absorb_silent
    (sessionId : String)
    (reached : Activity α)
    (performance : Performance σ) :
    performance.absorb sessionId ⟨[], false, reached⟩ = performance :=
  rfl

/-- A request that fails in a watch leads to the next delay. -/
theorem resume_setback
    {watch : Watch α}
    {failures delay : Nat}
    {fault : Fault}
    {relieved : Setbacks}
    (uncancelled : performance.cancelled = false)
    (few : failures + 1 < max 1 policy.maxConsecutiveErrors)
    (answered :
      (setbacks.into performance.surroundings).answer
          (.service watch.call) =
        (⟨delay, false, .error fault⟩,
          relieved.into performance.surroundings))
    (fuel lag : Nat)
    (entries : List Entry) :
    resume Script.surroundings policy sessionId (fuel + 2)
        (.pausing { watch with failures })
        (performance.setBack setbacks lag entries) =
      resume Script.surroundings policy sessionId fuel
        (.pausing { watch with failures := failures + 1 })
        (performance.setBack relieved (lag + (policy.interval + delay))
          (.call (.service watch.call) :: entries)) := by
  have pausing :
      ¬ (performance.setBack setbacks lag entries).cancelled = true := by
    simp [setBack, uncancelled]
  have checked :
      ({ performance.setBack setbacks lag entries with
            clock := performance.clock + lag + policy.interval } :
          Performance Script).answered Script.surroundings
            (.service watch.call) =
        performance.setBack relieved (lag + (policy.interval + delay))
          (.call (.service watch.call) :: entries) := by
    simp [Performance.answered, setBack, Script.surroundings, answered]
    omega
  rw [resume_pausing, if_neg pausing]
  unfold follow Watch.elapse
  rw [absorb_silent, resume_checking]
  change follow _ _ _ _ (Watch.receive policy _ { watch with failures }
      ((setbacks.into performance.surroundings).answer
        (.service watch.call)).1.answer) _ = _
  rw [answered, Watch.receive_of_failure fault few]
  exact congrArg
    (resume Script.surroundings policy sessionId fuel
      (.pausing { watch with failures := failures + 1 })) checked

/-- The setbacks that come before a reply use up their requests and their time. -/
theorem resume_setbacks
    {watch : Watch α}
    {failures waiting : Nat}
    {diary : List Entry}
    (watches : WatchesJob watch.call watch.isTerminal)
    (uncancelled : performance.cancelled = false)
    (ahead :
      setbacks.Ahead policy (.service watch.call) failures
        performance.surroundings diary)
    (waits : setbacks.waiting (.service watch.call) = waiting)
    (fuel lag : Nat)
    (entries : List Entry) :
    ∃ (later : Setbacks) (lost : Nat),
      later.Ahead policy (.service watch.call) (failures + waiting)
          performance.surroundings diary ∧
        later.waiting (.service watch.call) = 0 ∧
        later.past (.service watch.call) =
          setbacks.past (.service watch.call) ∧
        setbacks.count = later.count + waiting ∧
        setbacks.timeLost policy = lost + later.timeLost policy ∧
        resume Script.surroundings policy sessionId (fuel + 2 * waiting)
            (.pausing { watch with failures })
            (performance.setBack setbacks lag entries) =
          resume Script.surroundings policy sessionId fuel
            (.pausing { watch with failures := failures + waiting })
            (performance.setBack later (lag + lost)
              (List.replicate waiting (.call (.service watch.call)) ++
                entries)) := by
  induction waiting generalizing setbacks failures lag entries with
  | zero =>
      exact ⟨setbacks, 0, ahead, waits, rfl, rfl, (Nat.zero_add _).symm, rfl⟩
  | succ waiting inductionHypothesis =>
      obtain ⟨few, relievedAhead, fewerWait, samePast, oneMore, delay, fault,
        answered, time⟩ := ahead.setback watches waits
      obtain ⟨later, lost, laterAhead, noneWaits, past, count, timeLost,
        resumed⟩ :=
        inductionHypothesis relievedAhead fewerWait
          (lag + (policy.interval + delay))
          (.call (.service watch.call) :: entries)
      have failuresAfter : failures + 1 + waiting = failures + (waiting + 1) :=
        Nat.add_right_comm ..
      have calls :
          List.replicate waiting (Entry.call (.service watch.call)) ++
              .call (.service watch.call) :: entries =
            List.replicate (waiting + 1) (.call (.service watch.call)) ++
              entries := by
        rw [List.replicate_succ', List.append_assoc, List.singleton_append]
      refine ⟨later, policy.interval + delay + lost,
        failuresAfter ▸ laterAhead, noneWaits, past.trans samePast, ?_, ?_, ?_⟩
      · omega
      · omega
      · rw [Nat.mul_succ, ← Nat.add_assoc,
          resume_setback uncancelled few answered, resumed, failuresAfter,
          calls, Nat.add_assoc lag]

/-! ## Two runs -/

/-- An activity whose watch has seen so many failures in a row. -/
def withFailures (failures : Nat) : Activity α → Activity α
  | .pausing watch => .pausing { watch with failures }
  | .checking watch => .checking { watch with failures }
  | activity => activity

/--
An activity can go on with setbacks: its watch has seen no more failures than the
one with setbacks, which bears what is ahead.
-/
def Bears
    (policy : PollPolicy)
    (script : Script)
    (diary : List Entry)
    (setbacks : Setbacks)
    (failures : Nat) : Activity α → Prop
  | .finished _ | .asking .. =>
      ∀ watched, setbacks.Ahead policy watched 0 script diary
  | .pausing watch =>
      watch.failures ≤ failures ∧
        setbacks.Ahead policy (.service watch.call) failures script diary
  | .checking watch =>
      watch.failures ≤ failures ∧
        setbacks.Ahead policy (.service watch.call) failures script diary ∧
        setbacks.waiting (.service watch.call) = 0

/--
An activity comes to its result with setbacks as well as without.  The diary is
what is noted down on the way without them.
-/
structure ComesThrough
    (policy : PollPolicy)
    (sessionId : String)
    (fuel : Nat)
    (activity : Activity α)
    (performance : Performance Script)
    (result : α)
    (after : Performance Script)
    (diary : List Entry) : Prop where
  noted :
    after.entries = diary.reverse ++ performance.entries
  same :
    ∀ {setbacks : Setbacks} {failures : Nat} (lag spare : Nat)
        (entries : List Entry),
      Bears policy performance.surroundings diary setbacks failures activity →
      resume Script.surroundings policy sessionId
          (fuel + 2 * setbacks.count + spare)
          (withFailures failures activity)
          (performance.setBack setbacks lag entries) =
        (some result,
          after.setBack .none (lag + setbacks.timeLost policy)
            ((setbacks.echo diary).reverse ++ entries))

variable
  {fuel : Nat}
  {result : α}
  {after : Performance Script}
  {diary : List Entry}

/-- What is said at the beginning of a stretch is said with setbacks, too. -/
theorem ComesThrough.follow
    {stretch : Stretch α}
    (through :
      ComesThrough policy sessionId fuel stretch.reached
        (performance.absorb sessionId stretch) result after diary) :
    after.entries =
        (said sessionId stretch ++ diary).reverse ++ performance.entries ∧
      ∀ {setbacks : Setbacks} {failures : Nat} (lag spare : Nat)
          (entries : List Entry),
        Bears policy performance.surroundings diary setbacks failures
          stretch.reached →
        Performance.follow Script.surroundings policy sessionId
            (fuel + 2 * setbacks.count + spare)
            { stretch with reached := withFailures failures stretch.reached }
            (performance.setBack setbacks lag entries) =
          (some result,
            after.setBack .none (lag + setbacks.timeLost policy)
              ((setbacks.echo
                (said sessionId stretch ++ diary)).reverse ++ entries)) := by
  obtain ⟨noted, same⟩ := through
  rw [absorb_eq] at noted same
  refine ⟨by simp [noted], ?_⟩
  intro setbacks failures lag spare entries bears
  rw [Setbacks.echo_said, List.reverse_append, List.append_assoc,
    ← same lag spare _ bears]
  unfold Performance.follow
  rw [setBack_absorb, absorb_eq]
  rfl

/-- A performance that has not been cancelled at the end never was. -/
theorem uncancelled_of_resume
    {surroundings : Surroundings σ}
    {activity : Activity α}
    {outcome : Option α}
    {performance after : Performance σ}
    (ran :
      resume surroundings policy sessionId fuel activity performance =
        (outcome, after))
    (uncancelled : after.cancelled = false) :
    performance.cancelled = false := by
  induction fuel generalizing activity performance with
  | zero =>
      cases ran
      exact uncancelled
  | succ fuel inductionHypothesis =>
      have followed
          {stretch : Stretch α}
          {performance : Performance σ}
          (ran :
            Performance.follow surroundings policy sessionId fuel stretch
              performance = (outcome, after)) :
          performance.cancelled = false := by
        have absorbed := inductionHypothesis ran
        rw [absorb_eq] at absorbed
        exact absorbed
      cases activity with
      | finished result =>
          cases ran
          exact uncancelled
      | asking request next =>
          exact (Bool.or_eq_false_iff.mp (followed ran)).1
      | pausing watch =>
          rw [resume_pausing] at ran
          split at ran
          · exact followed ran
          · exact (Bool.not_eq_true _).mp ‹_›
      | checking watch =>
          exact (Bool.or_eq_false_iff.mp (followed ran)).1

/-- A procedure that has just come to a point of waiting has seen no failure. -/
theorem withFailures_advance
    (procedure : Procedure α)
    (freshName : String) :
    withFailures 0 (procedure.advance freshName).reached =
      (procedure.advance freshName).reached := by
  induction procedure with
  | finish | ask | watch =>
      rfl
  | publish _ _ inductionHypothesis =>
      exact inductionHypothesis
  | nameStream _ inductionHypothesis =>
      exact inductionHypothesis freshName

theorem bears_advance
    {script : Script}
    (atRest :
      ∀ watched, setbacks.Ahead policy watched 0 script diary)
    (procedure : Procedure α)
    (freshName : String) :
    Bears policy script diary setbacks 0
      (procedure.advance freshName).reached := by
  induction procedure with
  | finish | ask =>
      exact atRest
  | publish _ _ inductionHypothesis =>
      exact inductionHypothesis
  | nameStream _ inductionHypothesis =>
      exact inductionHypothesis freshName
  | watch call isTerminal report next =>
      exact ⟨Nat.le_refl 0, atRest _⟩

theorem Bears.said
    {script : Script}
    {failures : Nat}
    {stretch : Stretch α}
    {activity : Activity β}
    (bears :
      Bears policy script (Performance.said sessionId stretch ++ diary)
        setbacks failures activity) :
    Bears policy script diary setbacks failures activity := by
  cases activity with
  | finished | asking =>
      exact fun watched => (bears watched).said
  | pausing watch =>
      exact ⟨bears.1, bears.2.said⟩
  | checking watch =>
      exact ⟨bears.1, bears.2.1.said, bears.2.2⟩

/-- The answer to a status request means the same to both watches. -/
theorem receive_withFailures
    {watch : Watch α}
    {failures : Nat}
    {script : Script}
    {answer : Except Fault watch.call.Reply}
    (fewer : watch.failures ≤ failures)
    (ahead :
      if reportsFailure answer then
        failures + 1 < max 1 policy.maxConsecutiveErrors ∧
          setbacks.Ahead policy (.service watch.call) (failures + 1) script
            diary
      else
        setbacks.Ahead policy (.service watch.call) 0 script diary)
    (freshName : String) :
    ∃ failuresAfter,
      Watch.receive policy freshName { watch with failures } answer =
          { watch.receive policy freshName answer with
            reached :=
              withFailures failuresAfter
                (watch.receive policy freshName answer).reached } ∧
        Bears policy script diary setbacks failuresAfter
          (watch.receive policy freshName answer).reached := by
  cases answer with
  | ok value =>
      have ahead : setbacks.Ahead policy (.service watch.call) 0 script diary :=
        ahead
      cases terminal : watch.isTerminal value with
      | true =>
          rw [Watch.receive_of_terminal terminal]
          refine ⟨0, ?_, bears_advance ahead.atRest _ _⟩
          rw [withFailures_advance]
          exact Watch.receive_of_terminal terminal
      | false =>
          rw [Watch.receive_of_progress terminal]
          exact ⟨0, Watch.receive_of_progress terminal, Nat.le_refl 0, ahead⟩
  | error fault =>
      obtain ⟨few, ahead⟩ := ahead
      have fewToo :
          watch.failures + 1 < max 1 policy.maxConsecutiveErrors :=
        Nat.lt_of_le_of_lt (Nat.succ_le_succ fewer) few
      rw [Watch.receive_of_failure fault fewToo]
      exact ⟨failures + 1, Watch.receive_of_failure fault few,
        Nat.succ_le_succ fewer, ahead⟩

theorem comesThrough_finished
    (policy : PollPolicy)
    (sessionId : String)
    (fuel : Nat)
    (performance : Performance Script)
    (result : α) :
    ComesThrough policy sessionId (fuel + 1) (.finished result) performance
      result performance [] := by
  refine ⟨rfl, ?_⟩
  intro setbacks failures lag spare entries bears
  obtain rfl := (bears .workspaceIsEmpty).eq_none
  rw [Nat.add_right_comm, Nat.add_right_comm fuel]
  rfl

/-- A request is answered alike; only a watch sees setbacks. -/
theorem comesThrough_asking
    {request : Request}
    {next : request.Answer → Procedure α}
    {stretch : Stretch α}
    (notStatus : request.isStatus = false)
    (advanced :
      stretch =
        (next
            (Script.answer request
              performance.surroundings).1.answer).advance
          (streamName performance.names))
    (through :
      ComesThrough policy sessionId fuel stretch.reached
        ((performance.answered Script.surroundings request).absorb sessionId
          stretch) result after diary) :
    ComesThrough policy sessionId (fuel + 1) (.asking request next)
      performance result after
      (.call request :: (said sessionId stretch ++ diary)) := by
  obtain ⟨noted, same⟩ := through.follow
  refine ⟨by simp [noted, answered], ?_⟩
  intro setbacks failures lag spare entries bears
  have noneWaits := Setbacks.waiting_of_not_status notStatus setbacks
  have past := Setbacks.past_of_not_status notStatus setbacks
  have goesOn :
      Bears policy (Script.answer request performance.surroundings).2
        (said sessionId stretch ++ diary) setbacks 0 stretch.reached := by
    rw [advanced] at bears ⊢
    exact bears_advance
      (fun watched => (bears watched).request notStatus) _ _
  have unchanged : withFailures 0 stretch.reached = stretch.reached := by
    rw [advanced, withFailures_advance]
  have ran := same lag spare (.call request :: entries) goesOn.said
  rw [unchanged, advanced] at ran
  have later :
      fuel + 1 + 2 * setbacks.count + spare =
        fuel + 2 * setbacks.count + spare + 1 := by
    omega
  change resume _ _ _ _ (.asking request next) _ = _
  rw [later, resume_asking, setBack_answered noneWaits, past]
  change Performance.follow _ _ _ _ (Procedure.advance _ (next
    ((setbacks.into performance.surroundings).answer request).1.answer)) _ = _
  rw [Setbacks.answer_into noneWaits]
  refine ran.trans ?_
  simp [advanced, Setbacks.echo, noneWaits, past]

/-- A status request that no setback precedes gets its reply in both runs. -/
theorem comesThrough_checking
    {watch : Watch α}
    {stretch : Stretch α}
    (watches : WatchesJob watch.call watch.isTerminal)
    (received :
      stretch =
        watch.receive policy (streamName performance.names)
          (Script.answer (.service watch.call)
            performance.surroundings).1.answer)
    (through :
      ComesThrough policy sessionId fuel stretch.reached
        ((performance.answered Script.surroundings
          (.service watch.call)).absorb sessionId stretch) result after
        diary) :
    ComesThrough policy sessionId (fuel + 1) (.checking watch) performance
      result after
      (.call (.service watch.call) :: (said sessionId stretch ++ diary)) := by
  obtain ⟨noted, same⟩ := through.follow
  refine ⟨by simp [noted, answered], ?_⟩
  intro setbacks failures lag spare entries bears
  obtain ⟨fewer, ahead, noneWaits⟩ := bears
  obtain ⟨failuresAfter, alike, goesOn⟩ :=
    receive_withFailures fewer (ahead.reply watches noneWaits)
      (streamName performance.names)
  rw [← received] at alike goesOn
  obtain ⟨count, timeLost⟩ := Setbacks.past_of_noneWaits noneWaits policy
  have receivedToo :
      Watch.receive policy
          (streamName (performance.setBack setbacks lag entries).names)
          { watch with failures }
          (Script.surroundings.answer (.service watch.call)
            (performance.setBack setbacks lag entries).surroundings).1.answer =
        { stretch with reached := withFailures failuresAfter stretch.reached } := by
    simp only [Script.surroundings_answer, setBack,
      Setbacks.answer_into noneWaits]
    exact alike
  have ran := same lag spare (.call (.service watch.call) :: entries)
    goesOn.said
  rw [count, timeLost] at ran
  have later :
      fuel + 1 + 2 * setbacks.count + spare =
        fuel + 2 * setbacks.count + spare + 1 := by
    omega
  change resume _ _ _ _ (.checking { watch with failures }) _ = _
  rw [later, resume_checking, setBack_answered noneWaits]
  refine (congrArg (fun stretch => Performance.follow _ _ _ _ stretch _)
    receivedToo).trans (ran.trans ?_)
  simp [Setbacks.echo, noneWaits]

/-- After a delay, the setbacks come first and then the reply. -/
theorem comesThrough_pausing
    {watch : Watch α}
    (watches : WatchesJob watch.call watch.isTerminal)
    (uncancelled : performance.cancelled = false)
    (through :
      ComesThrough policy sessionId fuel (.checking watch)
        { performance with clock := performance.clock + policy.interval }
        result after (.call (.service watch.call) :: diary)) :
    ComesThrough policy sessionId (fuel + 1) (.pausing watch) performance
      result after (.call (.service watch.call) :: diary) := by
  refine ⟨through.noted, ?_⟩
  intro setbacks failures lag spare entries bears
  obtain ⟨fewer, ahead⟩ := bears
  obtain ⟨waiting, waits⟩ :
      ∃ waiting, setbacks.waiting (.service watch.call) = waiting :=
    ⟨_, rfl⟩
  obtain ⟨later, lost, laterAhead, noneWaits, past, count, timeLost,
    resumed⟩ :=
    resume_setbacks watches uncancelled ahead waits
      (fuel + 2 * (setbacks.count - waiting) + spare + 1) lag entries
  have enough :
      fuel + 1 + 2 * setbacks.count + spare =
        fuel + 2 * (setbacks.count - waiting) + spare + 1 + 2 * waiting := by
    omega
  have laterCount : setbacks.count - waiting = later.count := by
    omega
  have pausing :
      ¬ (performance.setBack later (lag + lost)
        (List.replicate waiting (.call (.service watch.call)) ++
          entries)).cancelled = true := by
    simp [setBack, uncancelled]
  have moved :
      ({ performance.setBack later (lag + lost)
            (List.replicate waiting (.call (.service watch.call)) ++
              entries) with
            clock := performance.clock + (lag + lost) + policy.interval } :
          Performance Script) =
        Performance.setBack later (lag + lost)
          (List.replicate waiting (.call (.service watch.call)) ++ entries)
          { performance with clock := performance.clock + policy.interval } := by
    simp only [setBack, Nat.add_right_comm]
  have ran :=
    through.same (lag + lost) spare
      (List.replicate waiting (.call (.service watch.call)) ++ entries)
      ⟨Nat.le_trans fewer (Nat.le_add_right failures waiting), laterAhead,
        noneWaits⟩
  change resume _ _ _ _ (.pausing { watch with failures }) _ = _
  rw [enough, resumed, resume_pausing, if_neg pausing, laterCount]
  refine (congrArg (resume _ _ _ _ (.checking _)) moved).trans
    (ran.trans ?_)
  simp [Setbacks.echo, noneWaits, past, waits, timeLost, Nat.add_assoc]

/-- However a performance goes that nobody cancels, it bears its setbacks. -/
theorem resume_comesThrough
    {activity : Activity α}
    {waits : Nat}
    (bounded : activity.WaitsAtMost waits)
    (ran :
      resume Script.surroundings policy sessionId fuel activity performance =
        (some result, after))
    (uncancelled : after.cancelled = false) :
    ∃ diary,
      ComesThrough policy sessionId fuel activity performance result after
          diary ∧
        ∀ watch, activity = .checking watch →
          ∃ later, diary = .call (.service watch.call) :: later := by
  induction fuel generalizing activity waits performance with
  | zero =>
      cases ran
  | succ fuel inductionHypothesis =>
      have now := uncancelled_of_resume ran uncancelled
      cases bounded with
      | finished finished =>
          cases ran
          exact ⟨[], comesThrough_finished .., nofun⟩
      | asking notStatus bounded =>
          obtain ⟨diary, through, -⟩ :=
            inductionHypothesis ((bounded _).advance _) ran
          exact ⟨_, comesThrough_asking notStatus rfl through, nofun⟩
      | @pausing waits watch watches bounded =>
          rw [resume_pausing, if_neg (by simp [now])] at ran
          obtain ⟨diary, through, checks⟩ :=
            inductionHypothesis (.checking watches bounded) ran
          obtain ⟨later, rfl⟩ := checks watch rfl
          exact ⟨_, comesThrough_pausing watches now through, nofun⟩
      | @checking waits watch watches bounded =>
          rw [resume_checking] at ran
          obtain ⟨diary, through, -⟩ :=
            inductionHypothesis (Watch.receive_waitsAtMost watches bounded _)
              ran
          refine ⟨_, comesThrough_checking watches rfl through, ?_⟩
          intro other same
          cases same
          exact ⟨_, rfl⟩

/-- A procedure that waits a few times comes to the same with setbacks. -/
theorem perform_into
    {procedure : Procedure α}
    {script : Script}
    {clock names : Nat}
    (bounded : procedure.WaitsAtMost 8)
    (ran :
      perform Script.surroundings policy sessionId procedure
          { surroundings := script, clock, names } =
        (some result, after))
    (uncancelled : after.cancelled = false)
    (transient : setbacks.Transient policy script after.entries) :
    perform Script.surroundings policy sessionId procedure
        { surroundings := setbacks.into script, clock, names } =
      (some result,
        { after with
          clock := after.clock + setbacks.timeLost policy
          entries := (setbacks.echo after.entries.reverse).reverse }) := by
  obtain ⟨diary, through, -⟩ :=
    resume_comesThrough (bounded.advance _) ran uncancelled
  obtain ⟨noted, same⟩ := through.follow
  rw [List.append_nil] at noted
  have bears :=
    bears_advance (transient.ahead noted) procedure (streamName names)
  obtain ⟨spare, enough⟩ :=
    Nat.exists_eq_add_of_le (setbacks.remaining_into script)
  have fuel :
      waitsPerUtterance +
          2 * (Script.surroundings.remaining (setbacks.into script) +
            policy.maxConsecutiveErrors + 1) =
        waitsPerUtterance +
            2 * (Script.surroundings.remaining script +
              policy.maxConsecutiveErrors + 1) +
          2 * setbacks.count + 2 * spare := by
    omega
  have ranToo := same 0 (2 * spare) [] bears.said
  rw [withFailures_advance, ← fuel] at ranToo
  refine ranToo.trans ?_
  simp [setBack, noted]

end Performance

end AssessmentChat.Rehearsal
