import AssessmentChat.Proofs.ServiceAnswers

namespace AssessmentChat

/-!
# What an utterance shows

An interaction shows a placeholder while it waits, a stream of progress texts
and an answer that can be rated.  Whichever way it ends, the placeholder is
cleared; the stream is a text of its own followed by what the service reported,
in that order; and an answer can be rated exactly if it is a plan that was kept
or the response to a question.
-/

/-! ## Notices and reports -/

/-- The notice that a deed publishes. -/
def Deed.notice? : Deed → Option Notice
  | .said notice => some notice
  | _ => none

/-- The notices that are published. -/
def shown (deeds : List Deed) : List Notice :=
  deeds.filterMap Deed.notice?

/-- The text that a notice puts into the chat input. -/
def Notice.placeholder? : Notice → Option String
  | .placeholder text => some text
  | _ => none

/-- The stream that a notice writes to, and what it writes. -/
def Notice.streamed? : Notice → Option (String × String)
  | .answerStream streamId text => some (streamId, text)
  | _ => none

/-- The answer that a notice puts to the vote. -/
def Notice.votable? : Notice → Option String
  | .answer message _ true => some message
  | _ => none

/-- The texts that are put into the chat input. -/
def placeholders (deeds : List Deed) : List String :=
  (shown deeds).filterMap Notice.placeholder?

/-- What is written to streams. -/
def streamed (deeds : List Deed) : List (String × String) :=
  (shown deeds).filterMap Notice.streamed?

/-- The answers that are put to the vote. -/
def votableAnswers (deeds : List Deed) : List String :=
  (shown deeds).filterMap Notice.votable?

/-- What an answer to a status request lets be shown. -/
def Deed.observed? : Deed → Option String
  | .answered (.service (.assessmentStatus _ _)) (.ok report) =>
      if report.detail.isEmpty then none else some report.detail
  | .answered (.service (.interactionStatus _ _)) (.ok report) =>
      if report.isTerminal then none else some report.status.name
  | _ => none

/-- What the answers to status requests let be shown. -/
def observedTexts (deeds : List Deed) : List String :=
  deeds.filterMap Deed.observed?

/-- The response that completes a question. -/
def Deed.response? : Deed → Option String
  | .answered (.service (.interactionStatus _ _)) (.ok report) =>
      if report.status = .completed then some report.response else none
  | _ => none

/-- The responses to questions that have completed. -/
def responses (deeds : List Deed) : List String :=
  deeds.filterMap Deed.response?

/-! ### Deeds put together -/

@[simp] theorem shown_nil :
    shown [] = [] :=
  rfl

/-- What is shown on two ways together is what is shown on each. -/
@[simp] theorem shown_append
    (earlier later : List Deed) :
    shown (earlier ++ later) = shown earlier ++ shown later :=
  List.filterMap_append

@[simp] theorem shown_cons_said
    (notice : Notice)
    (deeds : List Deed) :
    shown (.said notice :: deeds) = notice :: shown deeds :=
  rfl

@[simp] theorem shown_map_said
    (notices : List Notice) :
    shown (notices.map .said) = notices := by
  induction notices with
  | nil =>
      rfl
  | cons notice rest inductionHypothesis =>
      rw [List.map_cons, shown_cons_said, inductionHypothesis]

/-- A request shows nothing. -/
@[simp] theorem shown_request
    (request : Request)
    (answer : request.Answer) :
    shown (request.exchange answer) = [] :=
  rfl

/-- An operation shows nothing. -/
@[simp] theorem shown_call
    (call : ServiceCall)
    (answer : Except Fault call.Reply) :
    shown (call.exchange answer) = [] :=
  rfl

/-- What is streamed on two ways together is what is streamed on each. -/
@[simp] theorem streamed_append
    (earlier later : List Deed) :
    streamed (earlier ++ later) = streamed earlier ++ streamed later := by
  simp [streamed, List.filterMap_append]

/-- The placeholders of two ways together are those of each. -/
@[simp] theorem placeholders_append
    (earlier later : List Deed) :
    placeholders (earlier ++ later) =
      placeholders earlier ++ placeholders later := by
  simp [placeholders, List.filterMap_append]

/-- The answers to vote on of two ways together are those of each. -/
@[simp] theorem votableAnswers_append
    (earlier later : List Deed) :
    votableAnswers (earlier ++ later) =
      votableAnswers earlier ++ votableAnswers later := by
  simp [votableAnswers, List.filterMap_append]

@[simp] theorem observedTexts_nil :
    observedTexts [] = [] :=
  rfl

/-- The texts observed on two ways together are those observed on each. -/
@[simp] theorem observedTexts_append
    (earlier later : List Deed) :
    observedTexts (earlier ++ later) =
      observedTexts earlier ++ observedTexts later :=
  List.filterMap_append

@[simp] theorem observedTexts_cons_said
    (notice : Notice)
    (deeds : List Deed) :
    observedTexts (.said notice :: deeds) = observedTexts deeds :=
  rfl

@[simp] theorem observedTexts_map_said
    (notices : List Notice) :
    observedTexts (notices.map .said) = [] := by
  simp [observedTexts, Deed.observed?]

@[simp] theorem responses_nil :
    responses [] = [] :=
  rfl

/-- The responses given on two ways together are those given on each. -/
@[simp] theorem responses_append
    (earlier later : List Deed) :
    responses (earlier ++ later) = responses earlier ++ responses later :=
  List.filterMap_append

@[simp] theorem responses_cons_said
    (notice : Notice)
    (deeds : List Deed) :
    responses (.said notice :: deeds) = responses deeds :=
  rfl

@[simp] theorem responses_map_said
    (notices : List Notice) :
    responses (notices.map .said) = [] := by
  simp [responses, Deed.response?]

/-- Nothing is observed where nothing is said about a job. -/
theorem observedTexts_eq_nil
    {deeds : List Deed}
    (unanswered : jobAnswers deeds = []) :
    observedTexts deeds = [] := by
  refine List.filterMap_eq_nil_iff.mpr fun deed member => ?_
  have noAnswer := List.filterMap_eq_nil_iff.mp unanswered deed member
  unfold Deed.observed?
  split
  · cases noAnswer
  · cases noAnswer
  · rfl

/-- A question has no response while it is in progress. -/
theorem responses_eq_nil
    {deeds : List Deed}
    (inProgress : InProgress deeds) :
    responses deeds = [] := by
  refine List.filterMap_eq_nil_iff.mpr fun deed member => ?_
  unfold Deed.response?
  split
  next report =>
    have status := inProgress report.status
      (List.mem_filterMap.mpr ⟨_, member, rfl⟩)
    rw [status]
    rfl
  next =>
    rfl

/-- A job of which nothing was said is in progress. -/
theorem inProgress_of_unanswered
    {deeds : List Deed}
    (unanswered : jobAnswers deeds = []) :
    InProgress deeds := by
  intro status member
  rw [unanswered] at member
  cases member

/-- A request observes the text of its answer, if it is one that has a text. -/
@[simp] theorem observedTexts_request
    (request : Request)
    (answer : request.Answer) :
    observedTexts (request.exchange answer) =
      (Deed.answered request answer).observed?.toList := by
  unfold Request.exchange observedTexts
  rw [List.filterMap_cons_none rfl, List.filterMap_cons]
  cases (Deed.answered request answer).observed? <;> rfl

@[simp] theorem observedTexts_call
    (call : ServiceCall)
    (answer : Except Fault call.Reply) :
    observedTexts (call.exchange answer) =
      (Deed.answered (.service call) answer).observed?.toList :=
  observedTexts_request _ _

/-- A request gives the response of its answer, if it is one that has one. -/
@[simp] theorem responses_request
    (request : Request)
    (answer : request.Answer) :
    responses (request.exchange answer) =
      (Deed.answered request answer).response?.toList := by
  unfold Request.exchange responses
  rw [List.filterMap_cons_none rfl, List.filterMap_cons]
  cases (Deed.answered request answer).response? <;> rfl

@[simp] theorem responses_call
    (call : ServiceCall)
    (answer : Except Fault call.Reply) :
    responses (call.exchange answer) =
      (Deed.answered (.service call) answer).response?.toList :=
  responses_request _ _

/-! ## Watches -/

/-- A watch that reports what it observes shows that and nothing else. -/
theorem WatchGoesOn.shown_eq
    {policy : PollPolicy}
    {call : ServiceCall}
    {isTerminal : call.Reply → Bool}
    {report : call.Reply → List Notice}
    {streamId : String}
    {deeds : List Deed}
    {failures : Nat}
    (reports :
      ∀ value,
        isTerminal value = false →
        report value =
          (observedTexts (call.exchange (.ok value))).map
            (.answerStream streamId))
    (goesOn : WatchGoesOn policy call isTerminal report deeds failures) :
    shown deeds = (observedTexts deeds).map (.answerStream streamId) := by
  induction goesOn with
  | begun =>
      rfl
  | @progressed _ _ value _ notTerminal inductionHypothesis =>
      simp only [shown_append, shown_call, shown_map_said,
        observedTexts_append, observedTexts_map_said, List.append_nil,
        List.map_append, inductionHypothesis, reports value notTerminal]
  | failed fault _ _ inductionHypothesis =>
      have unseen :
          (Deed.answered (.service call) (.error fault)).observed? =
            none := by
        cases call <;> rfl
      simp [inductionHypothesis, unseen]

namespace Conversation

variable
  {policy : PollPolicy}
  {utterance streamId : String}
  {deeds : List Deed}
  {context : Context}
  {engagementId : EngagementId}
  {assessmentId : AssessmentId}
  {next : Conversation}

/-- The progress of an assessment is the text of the report, unless it is empty. -/
theorem assessmentProgress_eq
    (report : AssessmentReport) :
    assessmentProgress streamId report =
      (if report.detail = "" then none
        else some report.detail).toList.map (.answerStream streamId) := by
  by_cases empty : report.detail = "" <;>
    simp [assessmentProgress, empty]

end Conversation

/-! ## Interactions that show a stream -/

/-- A stream streams its texts under its own name. -/
@[simp] theorem streamed?_stream
    (streamId : String)
    (texts : List String) :
    (texts.map (Notice.answerStream streamId)).filterMap
        Notice.streamed? =
      texts.map (streamId, ·) := by
  simp [List.filterMap_map, Function.comp_def, Notice.streamed?]

/-- A stream sets no placeholder. -/
@[simp] theorem placeholder?_stream
    (streamId : String)
    (texts : List String) :
    (texts.map (Notice.answerStream streamId)).filterMap
        Notice.placeholder? = [] := by
  simp [Notice.placeholder?]

/-- A stream gives no answer to vote on. -/
@[simp] theorem votable?_stream
    (streamId : String)
    (texts : List String) :
    (texts.map (Notice.answerStream streamId)).filterMap
        Notice.votable? = [] := by
  simp [Notice.votable?]

/-- What an interaction with a stream has shown by its end. -/
structure Shows
    (deeds : List Deed)
    (streamId : String)
    (texts : List String) : Prop where
  cleared :
    (placeholders deeds).getLast? = some ""
  stream :
    streamed deeds = texts.map (streamId, ·)
  votes :
    votableAnswers deeds =
      (keptPlans deeds).map (fun kept => kept.plan.content) ++
        responses deeds
  once :
    (votableAnswers deeds).length ≤ 1

/-- An interaction that ends before it watches anything only clears up. -/
theorem Shows.cleared_only
    {streamId : String} :
    Shows [.said .clearedPlaceholder] streamId [] :=
  ⟨rfl, rfl, rfl, Nat.zero_le 1⟩

/-- A stream opens with a text before anything is watched. -/
theorem Shows.after
    {earlier deeds : List Deed}
    {streamId opening : String}
    {texts : List String}
    (shows : Shows deeds streamId texts)
    (opens : streamed earlier = [(streamId, opening)])
    (unvoted : votableAnswers earlier = [])
    (nothingKept : keptPlans earlier = [])
    (noResponses : responses earlier = []) :
    Shows (earlier ++ deeds) streamId (opening :: texts) := by
  constructor
  · rw [placeholders_append, List.getLast?_append, shows.cleared]
    rfl
  · rw [streamed_append, opens, shows.stream]
    rfl
  · rw [votableAnswers_append, unvoted, shows.votes, keptPlans_append,
      nothingKept, responses_append, noResponses]
    rfl
  · rw [votableAnswers_append, unvoted]
    exact shows.once

/-- The last text of a stream, when its watch is left off. -/
def Farewell
    (policy : PollPolicy)
    (deeds : List Deed)
    (text : String)
    (closing : List String) : Prop :=
  closing = [] ∨ closing = [text] ∧ LeftOff policy deeds

/-- Whether a watch is left off depends on what is said about its job. -/
theorem Farewell.congr
    {policy : PollPolicy}
    {deeds others : List Deed}
    {text : String}
    {closing : List String}
    (farewell : Farewell policy deeds text closing)
    (answers : jobAnswers others = jobAnswers deeds) :
    Farewell policy others text closing := by
  refine farewell.imp_right ?_
  rintro ⟨same, leftOff⟩
  exact ⟨same, (leftOff_congr answers).mpr leftOff⟩

/-- Notices around a stream, with what they put to the vote. -/
theorem Shows.of_shown
    {deeds : List Deed}
    {streamId : String}
    {observed closing : List String}
    (head tail : List Notice)
    (vote : Option String)
    (same :
      shown deeds =
        head ++ observed.map (.answerStream streamId) ++ tail)
    (notStreamed : head.filterMap Notice.streamed? = [])
    (unvoted : head.filterMap Notice.votable? = [])
    (cleared : tail.filterMap Notice.placeholder? = [""])
    (closes :
      tail.filterMap Notice.streamed? = closing.map (streamId, ·))
    (votes : tail.filterMap Notice.votable? = vote.toList)
    (earned :
      (keptPlans deeds).map (fun kept => kept.plan.content) ++
          responses deeds =
        vote.toList) :
    Shows deeds streamId (observed ++ closing) := by
  have voted : votableAnswers deeds = vote.toList := by
    rw [votableAnswers, same, List.filterMap_append,
      List.filterMap_append, unvoted, votable?_stream, votes]
    rfl
  constructor
  · rw [placeholders, same, List.filterMap_append, cleared]
    exact List.getLast?_concat
  · rw [streamed, same, List.filterMap_append, List.filterMap_append,
      notStreamed, streamed?_stream, closes, List.map_append,
      List.nil_append]
  · rw [voted, earned]
  · rw [voted]
    cases vote <;> simp

namespace Conversation

variable
  {policy : PollPolicy}
  {utterance streamId : String}
  {deeds : List Deed}
  {context : Context}
  {engagementId : EngagementId}
  {assessmentId : AssessmentId}
  {next : Conversation}

/-- While an assessment goes on, its stream has the texts that were observed. -/
theorem AssessmentGoesOn.shows
    {watched : List Deed}
    {failures : Nat}
    (goesOn :
      AssessmentGoesOn policy streamId engagementId assessmentId
        watched failures) :
    shown watched =
        (observedTexts watched).map (.answerStream streamId) ∧
      storings watched = [] ∧
      responses watched = [] := by
  have watches := WatchesJob.assessment engagementId assessmentId
  obtain ⟨inProgress, -⟩ := goesOn.inProgress watches
  refine ⟨goesOn.shown_eq fun report _ => ?_, goesOn.storings_eq_nil,
    responses_eq_nil inProgress⟩
  simp [assessmentProgress_eq, Deed.observed?]

/-- A plan ends with the observed texts on its stream and a farewell at most. -/
theorem PlanEnding.shows
    (ending :
      PlanEnding policy context streamId engagementId assessmentId
        deeds next) :
    ∃ closing,
      Farewell policy deeds Wording.cancellingPlan closing ∧
        Shows deeds streamId (observedTexts deeds ++ closing) := by
  have watches := WatchesJob.assessment engagementId assessmentId
  cases ending with
  | exhausted fault goesOn enough =>
      obtain ⟨shows, nothingKept, noResponses⟩ := goesOn.shows
      refine ⟨[], .inl rfl, ?_⟩
      refine .of_shown
        [.placeholder Wording.generatingPlanPlaceholder]
        [.clearedPlaceholder] none
        ?_ rfl rfl rfl rfl rfl ?_
      · simp [shows, Deed.observed?]
      · simp [keptPlans, nothingKept, noResponses, Deed.response?]
  | stopped answer goesOn =>
      obtain ⟨shows, nothingKept, noResponses⟩ := goesOn.shows
      refine ⟨[Wording.cancellingPlan],
        .inr ⟨rfl, goesOn.leftOff watches (by simp)⟩, ?_⟩
      refine .of_shown
        [.placeholder Wording.generatingPlanPlaceholder]
        [.answerStream streamId Wording.cancellingPlan,
          .plainAnswer Wording.planCancelled, .clearedPlaceholder] none
        ?_ rfl rfl rfl rfl rfl ?_
      · simp [shows, Deed.observed?]
      · simp [keptPlans, nothingKept, noResponses, Deed.response?]
  | @notCompleted _ _ report message goesOn ended =>
      obtain ⟨shows, nothingKept, noResponses⟩ := goesOn.shows
      refine ⟨[], .inl rfl, ?_⟩
      refine .of_shown
        [.placeholder Wording.generatingPlanPlaceholder]
        [.plainAnswer message, .clearedPlaceholder] none
        ?_ rfl rfl rfl rfl rfl ?_
      · simpa [shows, Deed.observed?] using assessmentProgress_eq report
      · simp [keptPlans, nothingKept, noResponses, Deed.response?]
  | @completed _ delivery _ report _ goesOn status delivered =>
      obtain ⟨shows, nothingKept, noResponses⟩ := goesOn.shows
      refine ⟨[], .inl rfl, ?_⟩
      cases delivered with
      | notDownloaded fault | notStored content fault =>
          refine .of_shown
            [.placeholder Wording.generatingPlanPlaceholder]
            [.clearedPlaceholder] none
            ?_ rfl rfl rfl rfl rfl ?_
          · simpa [shows, Deed.observed?] using assessmentProgress_eq report
          · simp [keptPlans, nothingKept, noResponses, Deed.response?,
              Storing.kept?, Except.toOption]
      | delivered content locator =>
          refine .of_shown
            [.placeholder Wording.generatingPlanPlaceholder]
            [.votableAnswer content,
              .suggestion (Wording.planReady locator)
                Wording.planFollowUps,
              .clearedPlaceholder] (some content)
            ?_ rfl rfl rfl rfl rfl ?_
          · simpa [shows, Deed.observed?] using assessmentProgress_eq report
          · simp [keptPlans, nothingKept, noResponses, Deed.response?,
              Storing.kept?, Except.toOption]

/-- While a response is awaited, its stream has the texts that were observed. -/
theorem responseWatch_shows
    {interactionId : InteractionId}
    {watched : List Deed}
    {failures : Nat}
    (goesOn :
      WatchGoesOn policy (.interactionStatus engagementId interactionId)
        InteractionReport.isTerminal (interactionProgress streamId)
        watched failures) :
    shown watched =
        (observedTexts watched).map (.answerStream streamId) ∧
      storings watched = [] ∧
      responses watched = [] := by
  have watches := WatchesJob.interaction engagementId interactionId
  obtain ⟨inProgress, -⟩ := goesOn.inProgress watches
  refine ⟨goesOn.shown_eq fun report notTerminal => ?_,
    goesOn.storings_eq_nil, responses_eq_nil inProgress⟩
  simp [interactionProgress, Deed.observed?, notTerminal]

/-- Only the response of a question that has completed can be rated. -/
theorem responseNotices_eq
    {report : InteractionReport}
    (terminal : report.isTerminal = true) :
    (responseNotices report).filterMap Notice.placeholder? = [] ∧
      (responseNotices report).filterMap Notice.streamed? = [] ∧
      (responseNotices report).filterMap Notice.votable? =
        (if report.status = .completed then some report.response
          else none).toList := by
  unfold responseNotices
  cases status : report.status with
  | inProgress =>
      rw [InteractionReport.isTerminal, status] at terminal
      cases terminal
  | completed | failed | cancelled =>
      exact ⟨rfl, rfl, rfl⟩

/-- A response ends with the observed texts on its stream and a farewell at most. -/
theorem ResponseEnding.shows
    {interactionId : InteractionId}
    (ending :
      ResponseEnding policy context streamId engagementId interactionId
        deeds next) :
    ∃ closing,
      Farewell policy deeds Wording.responseCancelled closing ∧
        Shows deeds streamId (observedTexts deeds ++ closing) := by
  have watches := WatchesJob.interaction engagementId interactionId
  cases ending with
  | exhausted fault goesOn enough =>
      obtain ⟨shows, nothingKept, noResponses⟩ := responseWatch_shows goesOn
      refine ⟨[], .inl rfl, ?_⟩
      refine .of_shown [] [.clearedPlaceholder] none
        ?_ rfl rfl rfl rfl rfl ?_
      · simp [shows, Deed.observed?]
      · simp [keptPlans, nothingKept, noResponses, Deed.response?]
  | stopped goesOn =>
      obtain ⟨shows, nothingKept, noResponses⟩ := responseWatch_shows goesOn
      refine ⟨[Wording.responseCancelled],
        .inr ⟨rfl, goesOn.leftOff watches (by simp)⟩, ?_⟩
      refine .of_shown []
        [.answerStream streamId Wording.responseCancelled,
          .clearedPlaceholder] none
        ?_ rfl rfl rfl rfl rfl ?_
      · simp [shows]
      · simp [keptPlans, nothingKept, noResponses]
  | @answered _ _ report goesOn terminal =>
      obtain ⟨shows, nothingKept, noResponses⟩ := responseWatch_shows goesOn
      obtain ⟨notPlaced, notStreamed, voted⟩ := responseNotices_eq terminal
      refine ⟨[], .inl rfl, ?_⟩
      refine .of_shown []
        (responseNotices report ++ [.clearedPlaceholder])
        (if report.status = .completed then some report.response else none)
        ?_ rfl rfl ?_ ?_ ?_ ?_
      · simp [shows, Deed.observed?, terminal]
      · simp [List.filterMap_append, notPlaced]
        rfl
      · simp [List.filterMap_append, notStreamed]
        rfl
      · simp [List.filterMap_append, voted]
        rfl
      · simp [keptPlans, nothingKept, noResponses, Deed.response?]

end Conversation

end AssessmentChat
