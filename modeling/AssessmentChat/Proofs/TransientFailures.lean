import AssessmentChat.Proofs.Setbacks
import AssessmentChat.Proofs.WatchTimetable

namespace AssessmentChat.Rehearsal

/-!
# Transient failures

Failures that come in before the answers to status requests leave no trace but the
requests and the time that they cost, unless there are too many of them in a row.
This holds of an utterance, whose script gets setbacks, and of a watch by itself,
which may go on for ever.
-/

/-- Bearable answers never end in too many failures. -/
theorem Bearable.trailingFailures_lt
    {limit failures : Nat}
    {answers seen : List (Except Fault α)}
    (bearable : Bearable limit failures (answers.map reportsFailure))
    (earlier : List (Except Fault α))
    (counted : trailingFailures earlier = failures)
    (few : failures < limit)
    (isPrefix : seen <+: answers) :
    trailingFailures (earlier ++ seen) < limit := by
  induction answers generalizing earlier failures seen with
  | nil =>
      rw [List.prefix_nil.mp isPrefix, List.append_nil, counted]
      exact few
  | cons answer answers inductionHypothesis =>
      cases seen with
      | nil =>
          rw [List.append_nil, counted]
          exact few
      | cons first seen =>
          obtain ⟨rfl, restPrefix⟩ := List.cons_prefix_cons.mp isPrefix
          rw [List.append_cons]
          cases first with
          | error fault =>
              refine inductionHypothesis bearable.2 _ ?_ bearable.1 restPrefix
              rw [trailingFailures_snoc_error, counted]
          | ok value =>
              refine inductionHypothesis bearable _ ?_
                (Nat.zero_lt_of_lt few) restPrefix
              rw [trailingFailures_snoc_ok]

namespace WatchPlan

/-! ## A watch with setbacks -/

/--
Which request of a plan a request with setbacks comes before or is, and how many of
its setbacks have passed.
-/
def place (setbacks : Nat → List (Fetch α)) : Nat → Nat × Nat
  | 0 => (0, 0)
  | request + 1 =>
      let (index, passed) := place setbacks request
      if passed < (setbacks index).length then (index, passed + 1)
      else (index + 1, 0)

/-- A plan with setbacks before its requests. -/
def withSetbacks
    (setbacks : Nat → List (Fetch α))
    (plan : WatchPlan α) : WatchPlan α :=
  { plan with
    fetch := fun request =>
      let (index, passed) := place setbacks request
      (setbacks index)[passed]?.getD (plan.fetch index) }

/-- The setbacks before the first requests. -/
def setbacksBefore
    (setbacks : Nat → List (Fetch α))
    (requests : Nat) : List (Fetch α) :=
  (List.range requests).flatMap setbacks

/-- How many requests there are with the setbacks. -/
def requestsWith
    (setbacks : Nat → List (Fetch α))
    (requests : Nat) : Nat :=
  requests + (setbacksBefore setbacks requests).length

/-- The time that setbacks take: the delay before each request and its answer. -/
def timeLost (plan : WatchPlan α) : List (Fetch α) → Nat
  | [] => 0
  | fetch :: rest => plan.policy.interval + fetch.duration + plan.timeLost rest

/--
Setbacks before the first requests: they only fail, and the watch never sees too
many failures in a row.
-/
structure Transient
    (plan : WatchPlan α)
    (setbacks : Nat → List (Fetch α))
    (requests : Nat) : Prop where
  onlyFail :
    ∀ index, ∀ fetch ∈ setbacks index,
      reportsFailure fetch.outcome = true ∧ fetch.cancels = false
  bearable :
    Bearable (max 1 plan.policy.maxConsecutiveErrors) 0
      (((plan.withSetbacks setbacks).outcomes
        (requestsWith setbacks requests)).map reportsFailure)

variable
  {plan : WatchPlan α}
  {setbacks : Nat → List (Fetch α)}
  {requests begun : Nat}
  {told : Bool}

@[simp] theorem withSetbacks_policy
    (plan : WatchPlan α)
    (setbacks : Nat → List (Fetch α)) :
    (plan.withSetbacks setbacks).policy = plan.policy :=
  rfl

theorem timeLost_append
    (plan : WatchPlan α)
    (earlier later : List (Fetch α)) :
    plan.timeLost (earlier ++ later) =
      plan.timeLost earlier + plan.timeLost later := by
  induction earlier with
  | nil =>
      exact (Nat.zero_add _).symm
  | cons fetch rest inductionHypothesis =>
      simp only [List.cons_append, timeLost, inductionHypothesis,
        Nat.add_assoc]

theorem timeLost_singleton
    (plan : WatchPlan α)
    (fetch : Fetch α) :
    plan.timeLost [fetch] = plan.policy.interval + fetch.duration :=
  rfl

theorem setbacksBefore_succ
    (setbacks : Nat → List (Fetch α))
    (requests : Nat) :
    setbacksBefore setbacks (requests + 1) =
      setbacksBefore setbacks requests ++ setbacks requests := by
  simp [setbacksBefore, List.range_succ]

theorem requestsWith_succ
    (setbacks : Nat → List (Fetch α))
    (requests : Nat) :
    requestsWith setbacks (requests + 1) =
      requestsWith setbacks requests + (setbacks requests).length + 1 := by
  simp only [requestsWith, setbacksBefore_succ, List.length_append]
  omega

theorem requestsWith_mono
    (setbacks : Nat → List (Fetch α))
    {fewer more : Nat}
    (le : fewer ≤ more) :
    requestsWith setbacks fewer ≤ requestsWith setbacks more := by
  induction le with
  | refl =>
      exact Nat.le_refl _
  | step _ inductionHypothesis =>
      rw [requestsWith_succ]
      omega

/-- The setbacks before a request come one after the other. -/
theorem place_add
    {start index passed : Nat}
    (begins : place setbacks start = (index, 0))
    (upTo : passed ≤ (setbacks index).length) :
    place setbacks (start + passed) = (index, passed) := by
  induction passed with
  | zero =>
      exact begins
  | succ passed inductionHypothesis =>
      rw [← Nat.add_assoc, place, inductionHypothesis (Nat.le_of_lt upTo)]
      exact if_pos upTo

/-- Behind the setbacks before the first requests and these, the next ones begin. -/
theorem place_requestsWith
    (setbacks : Nat → List (Fetch α))
    (requests : Nat) :
    place setbacks (requestsWith setbacks requests) = (requests, 0) := by
  induction requests with
  | zero =>
      rfl
  | succ requests inductionHypothesis =>
      rw [requestsWith_succ, place,
        place_add inductionHypothesis (Nat.le_refl _)]
      exact if_neg (Nat.lt_irrefl _)

/-- Each request is a setback before one of the plan, or the one itself. -/
theorem exists_place
    (setbacks : Nat → List (Fetch α))
    (request : Nat) :
    ∃ index passed,
      request = requestsWith setbacks index + passed ∧
        passed ≤ (setbacks index).length := by
  induction request with
  | zero =>
      exact ⟨0, 0, rfl, Nat.zero_le _⟩
  | succ request inductionHypothesis =>
      obtain ⟨index, passed, rfl, upTo⟩ := inductionHypothesis
      by_cases last : passed < (setbacks index).length
      · exact ⟨index, passed + 1, rfl, last⟩
      · refine ⟨index + 1, 0, ?_, Nat.zero_le _⟩
        rw [requestsWith_succ]
        omega

theorem fetch_setback
    (plan : WatchPlan α)
    {index passed : Nat}
    (before : passed < (setbacks index).length) :
    (plan.withSetbacks setbacks).fetch
        (requestsWith setbacks index + passed) =
      (setbacks index)[passed] := by
  simp [withSetbacks,
    place_add (place_requestsWith setbacks index) (Nat.le_of_lt before),
    before]

theorem fetch_request
    (plan : WatchPlan α)
    (setbacks : Nat → List (Fetch α))
    (index : Nat) :
    (plan.withSetbacks setbacks).fetch
        (requestsWith setbacks index + (setbacks index).length) =
      plan.fetch index := by
  simp [withSetbacks,
    place_add (place_requestsWith setbacks index) (Nat.le_refl _)]

/-! ## What the requests find with setbacks -/

theorem outcomes_add
    (plan : WatchPlan α)
    {index passed : Nat}
    (upTo : passed ≤ (setbacks index).length) :
    (plan.withSetbacks setbacks).outcomes
        (requestsWith setbacks index + passed) =
      (plan.withSetbacks setbacks).outcomes (requestsWith setbacks index) ++
        ((setbacks index).take passed).map Fetch.outcome := by
  induction passed with
  | zero =>
      simp
  | succ passed inductionHypothesis =>
      rw [← Nat.add_assoc, outcomes_succ,
        inductionHypothesis (Nat.le_of_lt upTo), fetch_setback plan upTo,
        List.append_assoc, List.take_add_one, List.map_append,
        List.getElem?_eq_getElem upTo]
      rfl

theorem outcomes_requestsWith_succ
    (plan : WatchPlan α)
    (setbacks : Nat → List (Fetch α))
    (requests : Nat) :
    (plan.withSetbacks setbacks).outcomes
        (requestsWith setbacks (requests + 1)) =
      (plan.withSetbacks setbacks).outcomes
          (requestsWith setbacks requests) ++
        (setbacks requests).map Fetch.outcome ++
          [(plan.fetch requests).outcome] := by
  rw [requestsWith_succ, outcomes_succ, fetch_request,
    outcomes_add plan (Nat.le_refl _), List.take_length]

theorem delayFrom_add
    (plan : WatchPlan α)
    (begun : Nat)
    {index passed : Nat}
    (upTo : passed ≤ (setbacks index).length) :
    (plan.withSetbacks setbacks).delayFrom begun
        (requestsWith setbacks index + passed) =
      (plan.withSetbacks setbacks).delayFrom begun
          (requestsWith setbacks index) +
        plan.timeLost ((setbacks index).take passed) := by
  induction passed with
  | zero =>
      simp [timeLost]
  | succ passed inductionHypothesis =>
      rw [← Nat.add_assoc, delayFrom, inductionHypothesis (Nat.le_of_lt upTo),
        fetch_setback plan upTo, List.take_add_one,
        List.getElem?_eq_getElem upTo, Option.toList_some, timeLost_append,
        timeLost_singleton, withSetbacks_policy]
      omega

/-- The delay before a request begins so much later as its setbacks have taken. -/
theorem delayFrom_requestsWith
    (plan : WatchPlan α)
    (setbacks : Nat → List (Fetch α))
    (begun requests : Nat) :
    (plan.withSetbacks setbacks).delayFrom begun
        (requestsWith setbacks requests) =
      plan.delayFrom begun requests +
        plan.timeLost (setbacksBefore setbacks requests) := by
  induction requests with
  | zero =>
      rfl
  | succ requests inductionHypothesis =>
      rw [requestsWith_succ, delayFrom, fetch_request,
        delayFrom_add plan begun (Nat.le_refl _), inductionHypothesis,
        List.take_length, setbacksBefore_succ, delayFrom, timeLost_append,
        withSetbacks_policy]
      omega

/-- Setbacks find no value. -/
theorem Transient.setback_error
    (transient : plan.Transient setbacks requests)
    {index : Nat}
    {outcome : Except Fault α}
    (member : outcome ∈ (setbacks index).map Fetch.outcome) :
    ∃ fault, outcome = .error fault := by
  obtain ⟨fetch, inSetbacks, rfl⟩ := List.mem_map.mp member
  have fails := (transient.onlyFail index fetch inSetbacks).1
  cases found : fetch.outcome with
  | ok value =>
      rw [found] at fails
      cases fails
  | error fault =>
      exact ⟨fault, rfl⟩

/-- What is reported with setbacks is what is reported without. -/
theorem Transient.reports_eq
    (transient : plan.Transient setbacks requests)
    (count : Nat) :
    (plan.withSetbacks setbacks).reports (requestsWith setbacks count) =
      plan.reports count := by
  induction count with
  | zero =>
      rfl
  | succ count inductionHypothesis =>
      have silent :
          ((setbacks count).map Fetch.outcome).filterMap plan.progress? =
            [] := by
        refine List.filterMap_eq_nil_iff.mpr ?_
        intro outcome member
        obtain ⟨fault, rfl⟩ := transient.setback_error member
        rfl
      have same :
          (plan.withSetbacks setbacks).progress? = plan.progress? :=
        rfl
      rw [reports_succ, ← inductionHypothesis, reports, reports, same,
        outcomes_requestsWith_succ, List.filterMap_append,
        List.filterMap_append, silent, List.append_nil,
        List.filterMap_cons, List.filterMap_nil]
      cases plan.progress? (plan.fetch count).outcome <;> rfl

/-- There are no fewer failures in a row with setbacks than without. -/
theorem Transient.trailingFailures_le
    (transient : plan.Transient setbacks requests)
    (count : Nat) :
    trailingFailures (plan.outcomes count) ≤
      trailingFailures
        ((plan.withSetbacks setbacks).outcomes
          (requestsWith setbacks count)) := by
  induction count with
  | zero =>
      exact Nat.le_refl 0
  | succ count inductionHypothesis =>
      rw [outcomes_requestsWith_succ, outcomes_succ]
      cases (plan.fetch count).outcome with
      | ok value =>
          rw [trailingFailures_snoc_ok]
          exact Nat.zero_le _
      | error fault =>
          have fail :
              ∀ outcome ∈ ((setbacks count).map Fetch.outcome).reverse,
                reportsFailure outcome = true := by
            intro outcome member
            obtain ⟨fault, rfl⟩ :=
              transient.setback_error (List.mem_reverse.mp member)
            rfl
          rw [trailingFailures_snoc_error, trailingFailures_snoc_error]
          refine Nat.succ_le_succ (Nat.le_trans inductionHypothesis ?_)
          unfold trailingFailures
          rw [List.reverse_append, List.takeWhile_append_of_pos fail,
            List.length_append]
          exact Nat.le_add_left ..

theorem NeverCancelled.withSetbacks
    (never : plan.NeverCancelled told)
    (transient : plan.Transient setbacks requests) :
    (plan.withSetbacks setbacks).NeverCancelled told := by
  refine ⟨never.notTold, never.notOutside, ?_, never.notByReport⟩
  intro request
  obtain ⟨index, passed, rfl, upTo⟩ := exists_place setbacks request
  by_cases before : passed < (setbacks index).length
  · rw [fetch_setback plan before]
    exact (transient.onlyFail index _ (List.getElem_mem before)).2
  · obtain rfl : passed = (setbacks index).length := by
      omega
    rw [fetch_request]
    exact never.notByRequest index

/-- A watch with setbacks never sees too many failures in a row. -/
theorem Transient.trailingFailures_lt
    (transient : plan.Transient setbacks requests)
    {count : Nat}
    (upTo : count ≤ requestsWith setbacks requests) :
    trailingFailures ((plan.withSetbacks setbacks).outcomes count) <
      max 1 plan.policy.maxConsecutiveErrors := by
  have isPrefix :
      (plan.withSetbacks setbacks).outcomes count <+:
        (plan.withSetbacks setbacks).outcomes
          (requestsWith setbacks requests) := by
    obtain ⟨more, upTo⟩ := Nat.exists_eq_add_of_le upTo
    rw [outcomes, outcomes, upTo, List.range_add, List.map_append]
    exact List.prefix_append ..
  exact transient.bearable.trailingFailures_lt [] rfl
    (Nat.lt_of_lt_of_le Nat.zero_lt_one (Nat.le_max_left ..)) isPrefix

/-- Only a terminal value ends a watch that bears its setbacks. -/
theorem Transient.not_endsAt_of_error
    (transient : plan.Transient setbacks requests)
    {request : Nat}
    {fault : Fault}
    (early : request < requestsWith setbacks requests)
    (found :
      ((plan.withSetbacks setbacks).fetch request).outcome =
        .error fault) :
    ¬ (plan.withSetbacks setbacks).EndsAt request := by
  have few := transient.trailingFailures_lt early
  rw [outcomes_succ, found, trailingFailures_snoc_error] at few
  rw [endsAt_of_error found]
  exact Nat.ne_of_lt few

/-- With setbacks the watch ends with no request before the one that ends it. -/
theorem Transient.goesOn
    {count request : Nat}
    (transient : plan.Transient setbacks requests)
    (goesOn : ∀ index < count, ¬ plan.EndsAt index)
    (early :
      request < requestsWith setbacks count + (setbacks count).length)
    (seen : request < requestsWith setbacks requests) :
    ¬ (plan.withSetbacks setbacks).EndsAt request := by
  cases found :
      ((plan.withSetbacks setbacks).fetch request).outcome with
  | error fault =>
      exact transient.not_endsAt_of_error seen found
  | ok value =>
      obtain ⟨index, passed, rfl, upTo⟩ := exists_place setbacks request
      by_cases before : passed < (setbacks index).length
      · rw [fetch_setback plan before] at found
        obtain ⟨fault, fails⟩ :=
          transient.setback_error
            (List.mem_map_of_mem (List.getElem_mem before))
        rw [fails] at found
        cases found
      · obtain rfl : passed = (setbacks index).length := by
          omega
        have inPlan : index < count := by
          refine Nat.lt_of_not_le fun later => ?_
          have behind :=
            requestsWith_mono setbacks (Nat.succ_le_succ later)
          rw [requestsWith_succ, requestsWith_succ] at behind
          omega
        rw [endsAt_of_ok found]
        rw [fetch_request] at found
        exact (not_congr (endsAt_of_ok found)).mp (goesOn index inPlan)

/-- With setbacks the watch ends with the same request, and comes to the same. -/
theorem Transient.ends
    {last : Nat}
    (transient : plan.Transient setbacks (last + 1))
    (ends : plan.EndsAt last) :
    let request := requestsWith setbacks last + (setbacks last).length
    (plan.withSetbacks setbacks).EndsAt request ∧
      (plan.withSetbacks setbacks).ending request = plan.ending last := by
  have found := fetch_request plan setbacks last
  cases outcome : (plan.fetch last).outcome with
  | ok value =>
      rw [endsAt_of_ok outcome] at ends
      rw [← found] at outcome
      refine ⟨(endsAt_of_ok outcome).mpr ends, ?_⟩
      rw [ending, ending, ← found, outcome]
  | error fault =>
      have few := transient.trailingFailures_lt (Nat.le_refl _)
      have more := transient.trailingFailures_le (last + 1)
      rw [endsAt_of_error outcome] at ends
      rw [outcomes_succ, outcome, trailingFailures_snoc_error] at more
      omega

/-- Either no request ends the watch so far, or one is the first to end it. -/
theorem endsAt_first_or_goesOn
    (plan : WatchPlan α)
    (count : Nat) :
    (∃ last < count,
        plan.EndsAt last ∧ ∀ index < last, ¬ plan.EndsAt index) ∨
      ∀ index < count, ¬ plan.EndsAt index := by
  induction count with
  | zero =>
      exact .inr fun _ early => absurd early (Nat.not_lt_zero _)
  | succ count inductionHypothesis =>
      rcases inductionHypothesis with ⟨last, early, first⟩ | goesOn
      · exact .inl ⟨last, Nat.lt_succ_of_lt early, first⟩
      · by_cases ends : plan.EndsAt count
        · exact .inl ⟨count, Nat.lt_succ_self count, ends, goesOn⟩
        · refine .inr fun index early => ?_
          rcases Nat.lt_succ_iff_lt_or_eq.mp early with before | rfl
          · exact goesOn index before
          · exact ends

/-- A watch that nobody cancels comes to the same with setbacks. -/
theorem run_withSetbacks
    (begun fuel : Nat)
    (never : plan.NeverCancelled told)
    (transient :
      plan.Transient setbacks
        (plan.run fuel (plan.beginning begun told)).2.fetches) :
    let first := plan.run fuel (plan.beginning begun told)
    let second :=
      (plan.withSetbacks setbacks).run (requestsWith setbacks fuel)
        (plan.beginning begun told)
    second.1 = first.1 ∧
      second.2.reported = first.2.reported ∧
      second.2.fetches = requestsWith setbacks first.2.fetches ∧
      second.2.clock =
        first.2.clock +
          plan.timeLost (setbacksBefore setbacks first.2.fetches) := by
  have notCancelled := never.cancelledBefore_eq begun
  have notCancelledToo :=
    (never.withSetbacks transient).cancelledBefore_eq begun
  rcases plan.endsAt_first_or_goesOn fuel with
    ⟨last, early, ends, least⟩ | goesOn
  · obtain ⟨-, comesTo⟩ :=
      run_last ends least fun index _ => notCancelled index
    obtain ⟨result, fetches, reported, clock⟩ := comesTo fuel early
    rw [fetches] at transient
    obtain ⟨endsToo, sameEnding⟩ := transient.ends ends
    have next := requestsWith_succ setbacks last
    have enough :
        requestsWith setbacks (last + 1) ≤ requestsWith setbacks fuel :=
      requestsWith_mono setbacks early
    obtain ⟨-, comesToToo⟩ :=
      run_last endsToo
        (fun index earlier => transient.goesOn least earlier (by omega))
        fun index _ => notCancelledToo index
    obtain ⟨resultToo, fetchesToo, reportedToo, clockToo⟩ :=
      comesToToo (requestsWith setbacks fuel) (by omega)
    rw [← next] at fetchesToo reportedToo
    have delayed := delayFrom_requestsWith plan setbacks begun (last + 1)
    rw [next] at delayed
    refine ⟨?_, ?_, ?_, ?_⟩
    · rw [result, ← sameEnding]
      exact resultToo
    · refine List.reverse_inj.mp ?_
      rw [reported, ← transient.reports_eq]
      exact reportedToo
    · rw [fetches]
      exact fetchesToo
    · rw [clock, fetches]
      exact clockToo.trans delayed
  · have ran :=
      run_add (fun index earlier => ⟨goesOn index earlier, notCancelled index⟩)
        0
    rw [Nat.add_zero, run] at ran
    rw [ran] at transient ⊢
    have undisturbedToo :
        (plan.withSetbacks setbacks).Undisturbed begun told
          (requestsWith setbacks fuel) :=
      fun index earlier =>
        ⟨transient.goesOn goesOn
            (Nat.lt_of_lt_of_le earlier (Nat.le_add_right ..)) earlier,
          notCancelledToo index⟩
    have ranToo := run_add undisturbedToo 0
    rw [Nat.add_zero, run] at ranToo
    refine ⟨?_, ?_, ?_, ?_⟩
    · exact (congrArg (·.1) ranToo).trans rfl
    · refine (congrArg (·.2.reported) ranToo).trans ?_
      exact congrArg List.reverse (transient.reports_eq fuel)
    · exact (congrArg (·.2.fetches) ranToo).trans rfl
    · exact (congrArg (·.2.clock) ranToo).trans
        (delayFrom_requestsWith plan setbacks begun fuel)

end WatchPlan

/--
Transient failures leave no trace.  An utterance always comes to a result, and it
comes to the same one when failing replies are put in before the replies that its
status requests use, any number of them anywhere, as long as no watch sees too
many failures in a row: it leaves the same conversation and the same replies, names
the same streams, publishes the same events and makes the same calls.  Each failure
only makes its status request once more, in its place, and takes its time.  A watch
by itself, at an end or still under way, stands at the same result and has reported
the same values.
-/
theorem transient_failures_leave_no_trace
    (policy : PollPolicy)
    (sessionId utterance : String)
    (conversation : Conversation)
    (now : Timestamp)
    (script : Script)
    (clock names : Nat)
    (setbacks : Setbacks)
    (plan : WatchPlan α)
    (begun fuel : Nat)
    (told : Bool)
    (failures : Nat → List (Fetch α)) :
    (let perform (script : Script) :=
      Performance.perform Script.surroundings policy sessionId
        (conversation.interact utterance now)
        { surroundings := script, clock, names }
    let first := perform script
    first.1.isSome = true ∧
      (first.2.cancelled = false →
        setbacks.Transient policy script first.2.entries →
        let entries := (setbacks.echo first.2.entries.reverse).reverse
        perform (setbacks.into script) =
            (first.1,
              { first.2 with
                clock := first.2.clock + setbacks.timeLost policy
                entries }) ∧
          (entries.filter fun entry => !entry.isCall Request.isStatus) =
            (first.2.entries.filter fun entry =>
              !entry.isCall Request.isStatus) ∧
          entries.countP (Entry.isCall Request.isStatus) =
            first.2.entries.countP (Entry.isCall Request.isStatus) +
              setbacks.count)) ∧
    (let first := plan.run fuel (plan.beginning begun told)
    let second :=
      (plan.withSetbacks failures).run
        (WatchPlan.requestsWith failures fuel) (plan.beginning begun told)
    plan.NeverCancelled told →
      plan.Transient failures first.2.fetches →
      second.1 = first.1 ∧
        second.2.reported = first.2.reported ∧
        second.2.fetches =
          WatchPlan.requestsWith failures first.2.fetches ∧
        second.2.clock =
          first.2.clock +
            plan.timeLost
              (WatchPlan.setbacksBefore failures first.2.fetches)) := by
  have bounded :
      (conversation.interact utterance now).WaitsAtMost 8 :=
    (conversation.interact_waitsAtMost utterance now).mono (by decide)
  refine ⟨?_, ?_⟩
  · obtain ⟨result, found⟩ :=
      Performance.perform_finishes policy sessionId bounded
        { surroundings := script, clock, names }
    obtain ⟨after, ran⟩ :
        ∃ after,
          Performance.perform Script.surroundings policy sessionId
              (conversation.interact utterance now)
              { surroundings := script, clock, names } =
            (some result, after) :=
      ⟨_, Prod.ext found rfl⟩
    simp only [ran]
    refine ⟨rfl, ?_⟩
    intro uncancelled transient
    refine
      ⟨Performance.perform_into bounded ran uncancelled transient, ?_, ?_⟩
    · rw [List.filter_reverse, Setbacks.filter_echo, List.filter_reverse,
        List.reverse_reverse]
    · have each := transient.ahead (List.reverse_reverse _).symm
        .workspaceIsEmpty
      rw [List.countP_reverse,
        Setbacks.countP_echo each.assessment.eachRequest
          each.interaction.eachRequest,
        List.countP_reverse]
  · intro first second never transient
    exact WatchPlan.run_withSetbacks begun fuel never transient

/-- A conversation in which a question about the plan can be asked. -/
def discussed : Conversation :=
  ⟨.discussingPlan, (Context.start "s" ⟨0, 0⟩).withEngagement "E"⟩

/-- A question whose answer is not there at the first look. -/
def unhurried : Script where
  deriveIntent := [{ outcome := some (.ok .question) }]
  interactionStatus := [{ outcome := some (.ok ⟨.inProgress, ""⟩) }]

/-- Failures before the first look and twice before the second one. -/
def hiccups : Setbacks where
  assessment := []
  interaction :=
    let hiccup : Reply InteractionReport :=
      { delay := 2, outcome := some (.error (.internal "down")) }
    [[hiccup], [hiccup, hiccup]]

/-- A watch of a value that counts up and is terminal when it has come to one. -/
def countingUp : WatchPlan Nat where
  policy := ⟨5, 3⟩
  isTerminal := fun value => value = 1
  fetch := fun index => { duration := 1, outcome := .ok index }

/-- More failures before each request. -/
def moreHiccups (index : Nat) : List (Fetch Nat) :=
  List.replicate (index + 1) { duration := 2, outcome := .error (.internal "down") }

/-- A performance of the question. -/
def whyAsked (script : Script) :
    Option (Except Fault Conversation) × Performance Script :=
  Performance.perform Script.surroundings ⟨5, 3⟩ "s"
    (discussed.interact "why?" ⟨0, 0⟩)
    { surroundings := script, clock := 0, names := 0 }

/-- Three failures cost three requests and their time. -/
theorem hiccups_leave_no_trace :
    ((whyAsked (hiccups.into unhurried)).1 = (whyAsked unhurried).1 ∧
      (whyAsked unhurried).2.clock = 10 ∧
      (whyAsked (hiccups.into unhurried)).2.clock = 31 ∧
      (whyAsked (hiccups.into unhurried)).2.entries.countP
        (Entry.isCall Request.isStatus) = 5) ∧
    (let second :=
      (countingUp.withSetbacks moreHiccups).run
        (WatchPlan.requestsWith moreHiccups 2) (countingUp.beginning 0 false)
    second.1 = some (.ok (.terminal 1)) ∧
      second.2.reported = [0] ∧
      second.2.fetches = 5 ∧
      second.2.clock = 33) := by
  have bearsHiccups :
      hiccups.Transient ⟨5, 3⟩ unhurried (whyAsked unhurried).2.entries := by
    refine ⟨⟨by decide, rfl, trivial⟩, ⟨by decide, rfl, ?_⟩⟩
    simp [Bearable, Reply.seen, hiccups, unhurried, Reply.fails, Reply.next]
  have bearsMore : countingUp.Transient moreHiccups 2 := by
    refine ⟨?_, ?_⟩
    · intro index fetch member
      obtain ⟨-, rfl⟩ := List.mem_replicate.mp member
      exact ⟨rfl, rfl⟩
    · exact ⟨by decide, by decide, by decide, trivial⟩
  obtain ⟨⟨-, utterance⟩, watch⟩ :=
    transient_failures_leave_no_trace ⟨5, 3⟩ "s" "why?" discussed ⟨0, 0⟩
      unhurried 0 0 hiccups countingUp 0 2 false moreHiccups
  obtain ⟨same, -, count⟩ := utterance rfl bearsHiccups
  obtain ⟨result, reported, fetches, clock⟩ :=
    watch ⟨rfl, rfl, fun _ => rfl, rfl⟩ bearsMore
  refine ⟨⟨(congrArg (·.1) same).trans rfl, rfl,
    (congrArg (·.2.clock) same).trans rfl, ?_⟩,
    result, reported, fetches, clock⟩
  rw [show whyAsked (hiccups.into unhurried) = _ from same]
  exact count

end AssessmentChat.Rehearsal
