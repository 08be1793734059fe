import AssessmentChat.Proofs.BoundedWaits
import AssessmentChat.Proofs.PlanCancellation
import AssessmentChat.Proofs.Recollection

namespace AssessmentChat

/-!
# What the service answered

How the watch of a job came out can be read off the statuses that the service
gave for it: the watch went on as long as they said that the job was in
progress, and it was given up after too many failures in a row.  An utterance
also makes requests that it cannot do without; a watch does not come to them.
-/

/-! ## Statuses of jobs -/

/-- The status that a job was said to have, or why nothing was said. -/
def Deed.jobAnswer? : Deed → Option (Except Fault JobStatus)
  | .answered (.service (.assessmentStatus _ _)) answer =>
      some (answer.map AssessmentReport.status)
  | .answered (.service (.interactionStatus _ _)) answer =>
      some (answer.map InteractionReport.status)
  | _ => none

/-- The answers to the requests for the status of a job. -/
def jobAnswers (deeds : List Deed) : List (Except Fault JobStatus) :=
  deeds.filterMap Deed.jobAnswer?

/-- Too many requests for the status of a job have failed in a row. -/
def GivesUp (policy : PollPolicy) (deeds : List Deed) : Prop :=
  max 1 policy.maxConsecutiveErrors ≤ trailingFailures (jobAnswers deeds)

@[simp] theorem jobAnswers_nil :
    jobAnswers [] = [] :=
  rfl

/-- What is said of a job on two ways together is what is said on each. -/
@[simp] theorem jobAnswers_append
    (earlier later : List Deed) :
    jobAnswers (earlier ++ later) = jobAnswers earlier ++ jobAnswers later :=
  List.filterMap_append

@[simp] theorem jobAnswers_cons_said
    (notice : Notice)
    (deeds : List Deed) :
    jobAnswers (.said notice :: deeds) = jobAnswers deeds :=
  rfl

@[simp] theorem jobAnswers_map_said
    (notices : List Notice) :
    jobAnswers (notices.map .said) = [] := by
  simp [jobAnswers, Deed.jobAnswer?]

@[simp] theorem jobAnswers_assessmentStatus
    (engagementId : EngagementId)
    (assessmentId : AssessmentId)
    (answer : Except Fault AssessmentReport) :
    jobAnswers
        (ServiceCall.exchange
          (.assessmentStatus engagementId assessmentId) answer) =
      [answer.map AssessmentReport.status] :=
  rfl

@[simp] theorem jobAnswers_interactionStatus
    (engagementId : EngagementId)
    (interactionId : InteractionId)
    (answer : Except Fault InteractionReport) :
    jobAnswers
        (ServiceCall.exchange
          (.interactionStatus engagementId interactionId) answer) =
      [answer.map InteractionReport.status] :=
  rfl

@[simp] theorem jobAnswers_storePlan
    (plan : PlanArtifact)
    (answer : Except Fault ArtifactLocator) :
    jobAnswers (Request.exchange (.storePlan plan) answer) = [] :=
  rfl

/-- Only requests for a status say something about a job. -/
@[simp] theorem jobAnswers_call
    {call : ServiceCall}
    {answer : Except Fault call.Reply}
    (notAssessment :
      ∀ engagementId assessmentId,
        call ≠ .assessmentStatus engagementId assessmentId)
    (notInteraction :
      ∀ engagementId interactionId,
        call ≠ .interactionStatus engagementId interactionId) :
    jobAnswers (call.exchange answer) = [] := by
  cases call with
  | assessmentStatus engagementId assessmentId =>
      exact absurd rfl (notAssessment engagementId assessmentId)
  | interactionStatus engagementId interactionId =>
      exact absurd rfl (notInteraction engagementId interactionId)
  | _ =>
      rfl

/-- A deed without a request for a status says nothing about a job. -/
theorem Deed.jobAnswer?_eq_none
    {deed : Deed}
    (notStatus :
      ∀ request, deed.request? = some request → request.isStatus = false) :
    deed.jobAnswer? = none := by
  unfold jobAnswer?
  split
  · cases notStatus _ rfl
  · cases notStatus _ rfl
  · rfl

/-- Other requests than those for a status say nothing about a job. -/
theorem jobAnswers_eq_nil
    {deeds : List Deed}
    (notStatus :
      ∀ request ∈ deeds.filterMap Deed.request?,
        request.isStatus = false) :
    jobAnswers deeds = [] := by
  refine List.filterMap_eq_nil_iff.mpr fun deed member => ?_
  refine Deed.jobAnswer?_eq_none fun request isRequest => ?_
  exact notStatus request (List.mem_filterMap.mpr ⟨deed, member, isRequest⟩)

namespace WatchesJob

variable
  {call : ServiceCall}
  {isTerminal : call.Reply → Bool}

/-- A watched request that fails says that nothing is known of the job. -/
theorem jobAnswers_failed
    (watches : WatchesJob call isTerminal)
    (fault : Fault) :
    jobAnswers (call.exchange (.error fault)) = [.error fault] := by
  cases watches <;> rfl

/-- A watched request that is answered says whether the job has ended. -/
theorem jobAnswers_seen
    (watches : WatchesJob call isTerminal)
    (value : call.Reply) :
    ∃ status,
      jobAnswers (call.exchange (.ok value)) = [.ok status] ∧
        status.isTerminal = isTerminal value := by
  cases watches <;> exact ⟨value.status, rfl, rfl⟩

end WatchesJob

/-- A job is still in progress as far as has been said. -/
def InProgress (deeds : List Deed) : Prop :=
  ∀ status, .ok status ∈ jobAnswers deeds → status = .inProgress

/-- A job that has not ended is in progress. -/
theorem JobStatus.eq_inProgress
    {status : JobStatus}
    (notTerminal : status.isTerminal = false) :
    status = .inProgress := by
  cases status <;> first | rfl | cases notTerminal

/-- An assessment that is in progress has not been seen to end. -/
theorem InProgress.unfinished
    {deeds : List Deed}
    {report : AssessmentReport}
    (inProgress : InProgress deeds)
    (answered : .ok report ∈ statusAnswers deeds) :
    report.isTerminal = false := by
  obtain ⟨deed, member, isAnswer⟩ := List.mem_filterMap.mp answered
  unfold Deed.statusAnswer? at isAnswer
  split at isAnswer
  · cases isAnswer
    have status := inProgress report.status
      (List.mem_filterMap.mpr ⟨_, member, rfl⟩)
    rw [AssessmentReport.isTerminal, status]
    rfl
  · cases isAnswer

section Watches

variable
  {policy : PollPolicy}
  {call : ServiceCall}
  {isTerminal : call.Reply → Bool}
  {report : call.Reply → List Notice}
  {watched deeds : List Deed}
  {failures : Nat}

/-- A watch goes on while the job is in progress and few requests have failed. -/
theorem WatchGoesOn.inProgress
    (watches : WatchesJob call isTerminal)
    (goesOn : WatchGoesOn policy call isTerminal report deeds failures) :
    InProgress deeds ∧
      trailingFailures (jobAnswers deeds) = failures ∧
      failures < max 1 policy.maxConsecutiveErrors := by
  induction goesOn with
  | begun =>
      exact ⟨nofun, rfl, by omega⟩
  | @progressed deeds _ value _ notTerminal inductionHypothesis =>
      obtain ⟨status, answered, same⟩ := watches.jobAnswers_seen value
      rw [notTerminal] at same
      refine ⟨?_, ?_, by omega⟩
      · intro other member
        simp only [jobAnswers_append, answered, jobAnswers_map_said,
          List.append_nil, List.mem_append, List.mem_singleton,
          Except.ok.injEq] at member
        rcases member with earlier | rfl
        · exact inductionHypothesis.1 other earlier
        · exact JobStatus.eq_inProgress same
      · rw [jobAnswers_append, jobAnswers_map_said, List.append_nil,
          jobAnswers_append, answered]
        exact trailingFailures_snoc_ok _ _
  | failed fault _ few inductionHypothesis =>
      have answered := watches.jobAnswers_failed fault
      refine ⟨?_, ?_, by omega⟩
      · intro other member
        simp only [jobAnswers_append, answered, List.mem_append,
          List.mem_singleton, reduceCtorEq, or_false] at member
        exact inductionHypothesis.1 other member
      · rw [jobAnswers_append, answered, ← inductionHypothesis.2.1]
        exact trailingFailures_snoc_error _ fault

/-- The watch of a job is neither given up nor has it seen the job end. -/
structure LeftOff (policy : PollPolicy) (deeds : List Deed) : Prop where
  inProgress :
    InProgress deeds
  notGivenUp :
    ¬ GivesUp policy deeds

/-- The watch of a job has seen it end in one way, and in no other. -/
structure SeenToEnd
    (policy : PollPolicy)
    (deeds : List Deed)
    (status : JobStatus) : Prop where
  ends :
    ∀ other, other ≠ .inProgress →
      (.ok other ∈ jobAnswers deeds ↔ other = status)
  notGivenUp :
    ¬ GivesUp policy deeds

/-- Whether a watch is given up depends on what was said of the job only. -/
theorem givesUp_congr
    {policy : PollPolicy}
    {deeds others : List Deed}
    (answers : jobAnswers deeds = jobAnswers others) :
    GivesUp policy deeds ↔ GivesUp policy others := by
  rw [GivesUp, GivesUp, answers]

/-- A watch is not given up before it has asked. -/
@[simp] theorem not_givesUp_nil
    {policy : PollPolicy} :
    ¬ GivesUp policy [] := by
  rw [GivesUp, jobAnswers_nil, Nat.not_le]
  exact Nat.lt_of_lt_of_le Nat.zero_lt_one (Nat.le_max_left ..)

@[simp] theorem givesUp_cons_said
    {policy : PollPolicy}
    {notice : Notice}
    {deeds : List Deed} :
    GivesUp policy (.said notice :: deeds) ↔ GivesUp policy deeds :=
  Iff.rfl

/-- Other requests than those for a status do not count towards giving up. -/
@[simp] theorem givesUp_call_append
    {policy : PollPolicy}
    {call : ServiceCall}
    {answer : Except Fault call.Reply}
    {deeds : List Deed}
    (notAssessment :
      ∀ engagementId assessmentId,
        call ≠ .assessmentStatus engagementId assessmentId)
    (notInteraction :
      ∀ engagementId interactionId,
        call ≠ .interactionStatus engagementId interactionId) :
    GivesUp policy (call.exchange answer ++ deeds) ↔
      GivesUp policy deeds :=
  givesUp_congr (by simp [notAssessment, notInteraction])

/-- How a job was left depends on what was said of it only. -/
theorem leftOff_congr
    {policy : PollPolicy}
    {deeds others : List Deed}
    (answers : jobAnswers deeds = jobAnswers others) :
    LeftOff policy deeds ↔ LeftOff policy others := by
  have inProgress_iff : InProgress deeds ↔ InProgress others := by
    rw [InProgress, InProgress, answers]
  constructor
  · rintro ⟨inProgress, notGivenUp⟩
    exact ⟨inProgress_iff.mp inProgress,
      mt (givesUp_congr answers).mpr notGivenUp⟩
  · rintro ⟨inProgress, notGivenUp⟩
    exact ⟨inProgress_iff.mpr inProgress,
      mt (givesUp_congr answers).mp notGivenUp⟩

/-- A watch has seen the last status request that may fail. -/
theorem WatchGoesOn.givesUp
    (watches : WatchesJob call isTerminal)
    (goesOn :
      WatchGoesOn policy call isTerminal report watched failures)
    (fault : Fault)
    (enough : policy.maxConsecutiveErrors ≤ failures + 1)
    (answers : jobAnswers deeds = jobAnswers watched ++ [.error fault]) :
    InProgress deeds ∧ GivesUp policy deeds := by
  obtain ⟨inProgress, counted, -⟩ := goesOn.inProgress watches
  constructor
  · intro status member
    simp only [answers, List.mem_append, List.mem_singleton,
      reduceCtorEq, or_false] at member
    exact inProgress status member
  · rw [GivesUp, answers, trailingFailures_snoc_error, counted]
    omega

/-- A watch can be left while it goes on. -/
theorem WatchGoesOn.leftOff
    (watches : WatchesJob call isTerminal)
    (goesOn :
      WatchGoesOn policy call isTerminal report watched failures)
    (answers : jobAnswers deeds = jobAnswers watched) :
    LeftOff policy deeds := by
  obtain ⟨inProgress, counted, few⟩ := goesOn.inProgress watches
  constructor
  · rwa [InProgress, answers]
  · rw [GivesUp, answers, counted]
    omega

/-- A watch that goes on until a job ends has seen it end. -/
theorem WatchGoesOn.seenToEnd
    {status : JobStatus}
    (watches : WatchesJob call isTerminal)
    (goesOn :
      WatchGoesOn policy call isTerminal report watched failures)
    (answers : jobAnswers deeds = jobAnswers watched ++ [.ok status]) :
    SeenToEnd policy deeds status := by
  obtain ⟨inProgress, -⟩ := goesOn.inProgress watches
  constructor
  · intro other terminal
    have unseen : .ok other ∉ jobAnswers watched :=
      fun member => terminal (inProgress other member)
    simp [answers, unseen]
  · rw [GivesUp, answers, trailingFailures_snoc_ok]
    omega

end Watches

/-! ## Requests that cannot be done without -/

/-- Whether an utterance cannot be handled without what a request gives. -/
def Request.isVital : Request → Bool
  | .service .createEngagement => true
  | .service (.uploadWorkspace _) => true
  | .service (.startAssessment ..) => true
  | .service (.updateAssessment ..) => true
  | .service (.downloadPlan ..) => true
  | .service (.deriveIntent ..) => true
  | .service (.startInteraction ..) => true
  | .storePlan _ => true
  | _ => false

/-- A request that cannot be done without has failed. -/
def VitalFailure (deeds : List Deed) : Prop :=
  ∃ request answer,
    request.isVital = true ∧
      request.Fails answer ∧
      .answered request answer ∈ deeds

@[simp] theorem vitalFailure_nil :
    ¬ VitalFailure [] := by
  simp [VitalFailure]

/-- A vital request has failed on a way if it has on one of its parts. -/
@[simp] theorem vitalFailure_append
    {earlier later : List Deed} :
    VitalFailure (earlier ++ later) ↔
      VitalFailure earlier ∨ VitalFailure later := by
  simp [VitalFailure, and_or_left, exists_or]

@[simp] theorem vitalFailure_cons_said
    {notice : Notice}
    {deeds : List Deed} :
    VitalFailure (.said notice :: deeds) ↔ VitalFailure deeds := by
  simp [VitalFailure]

@[simp] theorem vitalFailure_map_said
    {notices : List Notice} :
    ¬ VitalFailure (notices.map .said) := by
  simp [VitalFailure]

/-- One request is a vital failure if it is vital and has failed. -/
@[simp] theorem vitalFailure_request
    {request : Request}
    {answer : request.Answer} :
    VitalFailure (request.exchange answer) ↔
      request.isVital = true ∧ request.Fails answer := by
  constructor
  · rintro ⟨asked, given, vital, fails, member⟩
    cases (mem_requestExchange.mp member).resolve_left nofun
    exact ⟨vital, fails⟩
  · rintro ⟨vital, fails⟩
    exact ⟨request, answer, vital, fails, by simp⟩

/-- One operation is a vital failure if it is vital and has failed. -/
@[simp] theorem vitalFailure_call
    {call : ServiceCall}
    {answer : Except Fault call.Reply} :
    VitalFailure (call.exchange answer) ↔
      (Request.service call).isVital = true ∧
        ∃ fault, answer = .error fault :=
  vitalFailure_request

/-- Where no vital request is made none fails. -/
theorem not_vitalFailure
    {deeds : List Deed}
    (notVital :
      ∀ request ∈ deeds.filterMap Deed.request?,
        request.isVital = false) :
    ¬ VitalFailure deeds := by
  rintro ⟨request, answer, vital, -, member⟩
  have contrary :=
    notVital request (List.mem_filterMap.mpr ⟨_, member, rfl⟩)
  rw [vital] at contrary
  cases contrary

/-- The status of a job can be done without. -/
theorem WatchesJob.not_vitalFailure
    {policy : PollPolicy}
    {call : ServiceCall}
    {isTerminal : call.Reply → Bool}
    {report : call.Reply → List Notice}
    {deeds : List Deed}
    {failures : Nat}
    (watches : WatchesJob call isTerminal)
    (goesOn : WatchGoesOn policy call isTerminal report deeds failures) :
    ¬ VitalFailure deeds := by
  refine AssessmentChat.not_vitalFailure fun request member => ?_
  rw [goesOn.request_eq request member]
  cases watches <;> rfl

/-! ## What is done before a watch -/

@[simp] theorem preparation_nil :
    Preparation [] := by
  simp [Preparation]

/-- A way is a preparation if both of its parts are. -/
@[simp] theorem preparation_append
    {earlier later : List Deed} :
    Preparation (earlier ++ later) ↔
      Preparation earlier ∧ Preparation later := by
  simp only [Preparation, List.filterMap_append, List.mem_append,
    or_imp, forall_and]

@[simp] theorem preparation_cons_said
    {notice : Notice}
    {deeds : List Deed} :
    Preparation (.said notice :: deeds) ↔ Preparation deeds :=
  Iff.rfl

/-- One request is a preparation if it is of those that prepare. -/
@[simp] theorem preparation_request
    {request : Request}
    {answer : request.Answer} :
    Preparation (request.exchange answer) ↔
      request.isPreparation = true := by
  simp [Preparation, Request.exchange]

/-- One operation is a preparation if it is of those that prepare. -/
@[simp] theorem preparation_call
    {call : ServiceCall}
    {answer : Except Fault call.Reply} :
    Preparation (call.exchange answer) ↔
      (Request.service call).isPreparation = true :=
  preparation_request

namespace Preparation

variable {deeds : List Deed}

/-- Nothing is said of a job while it is being prepared. -/
theorem jobAnswers_eq_nil
    (preparation : Preparation deeds) :
    jobAnswers deeds = [] := by
  refine AssessmentChat.jobAnswers_eq_nil fun request member => ?_
  have prepares := preparation request member
  unfold Request.isPreparation at prepares
  split at prepares <;> first | rfl | cases prepares

/-- No plan is kept while a job is being prepared. -/
theorem keptPlans_eq_nil
    (preparation : Preparation deeds) :
    keptPlans deeds = [] := by
  have nothingHanded : storings deeds = [] := by
    refine List.filterMap_eq_nil_iff.mpr fun deed member => ?_
    unfold Deed.storing?
    split
    · cases preparation _ (List.mem_filterMap.mpr ⟨_, member, rfl⟩)
    · rfl
  rw [keptPlans, nothingHanded]
  rfl

end Preparation

/-! ## What an utterance asks for -/

/-- The intent that an utterance was said to have. -/
def Deed.intent? : Deed → Option Intent
  | .answered (.service (.deriveIntent _ _)) (.ok intent) => some intent
  | _ => none

/-- The intents that utterances were said to have. -/
def intents (deeds : List Deed) : List Intent :=
  deeds.filterMap Deed.intent?

@[simp] theorem intents_nil :
    intents [] = [] :=
  rfl

/-- The intents that are derived on two ways are those on each. -/
@[simp] theorem intents_append
    (earlier later : List Deed) :
    intents (earlier ++ later) = intents earlier ++ intents later :=
  List.filterMap_append

@[simp] theorem intents_cons_said
    (notice : Notice)
    (deeds : List Deed) :
    intents (.said notice :: deeds) = intents deeds :=
  rfl

@[simp] theorem intents_deriveIntent
    (engagementId : EngagementId)
    (input : String)
    (answer : Except Fault Intent) :
    intents
        (ServiceCall.exchange (.deriveIntent engagementId input) answer) =
      answer.toOption.toList := by
  cases answer <;> rfl

/-- No intent is given without a request for one. -/
theorem intents_eq_nil
    {deeds : List Deed}
    (quiet :
      ∀ request ∈ deeds.filterMap Deed.request?, ∀ engagementId input,
        request ≠ .service (.deriveIntent engagementId input)) :
    intents deeds = [] := by
  refine List.filterMap_eq_nil_iff.mpr fun deed member => ?_
  unfold Deed.intent?
  split
  · exact absurd rfl
      (quiet _ (List.mem_filterMap.mpr ⟨_, member, rfl⟩) _ _)
  · rfl

/-- Only the derivation of an intent tells one. -/
@[simp] theorem intents_call
    {call : ServiceCall}
    {answer : Except Fault call.Reply}
    (quiet :
      ∀ engagementId input, call ≠ .deriveIntent engagementId input) :
    intents (call.exchange answer) = [] :=
  intents_eq_nil (by simpa [ServiceCall.exchange, Request.exchange] using quiet)

end AssessmentChat
