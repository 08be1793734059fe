import AssessmentChat.Proofs.PlanCancellation
import AssessmentChat.Rehearsal.Watching

namespace AssessmentChat.Rehearsal

/-!
# The timetable of a watch

What the requests of a watch find and how long they take says everything about
it: when each request starts, which one is the last, what the watch comes to and
what it reports.  A cancellation takes effect before the first request that would
start later, and not before: a request in flight is never cut short, and it ends
the watch as if nothing had happened.

The loop is compared with this timetable.  Up to the last request, the loop stands
where the timetable says.
-/

namespace WatchPlan

variable (plan : WatchPlan α)

/-! ## The timetable -/

/-- What the first requests find. -/
def outcomes (count : Nat) : List (Except Fault α) :=
  (List.range count).map fun index => (plan.fetch index).outcome

/-- The value of a request that a watch reports. -/
def progress? : Except Fault α → Option α
  | .ok value => if plan.isTerminal value then none else some value
  | .error _ => none

/-- What is reported of the first requests, in order. -/
def reports (count : Nat) : List α :=
  (plan.outcomes count).filterMap plan.progress?

/--
Whether a request ends the watch: its value is terminal, or it is the last of so
many failures in a row that the watch is given up.
-/
def EndsAt (index : Nat) : Prop :=
  match (plan.fetch index).outcome with
  | .ok value => plan.isTerminal value = true
  | .error _ =>
      trailingFailures (plan.outcomes (index + 1)) =
        max 1 plan.policy.maxConsecutiveErrors

/-- What a watch comes to that ends with a request. -/
def ending (index : Nat) : Except Fault (PollOutcome α) :=
  match (plan.fetch index).outcome with
  | .ok value => .ok (.terminal value)
  | .error fault =>
      .error
        (.pollExhausted (max 1 plan.policy.maxConsecutiveErrors)
          fault.message)

/-- When the delay before a request begins. -/
def delayFrom (plan : WatchPlan α) (begun : Nat) : Nat → Nat
  | 0 => begun
  | index + 1 =>
      plan.delayFrom begun index + plan.policy.interval +
        (plan.fetch index).duration

/-- When a request starts. -/
def startOf (begun index : Nat) : Nat :=
  plan.delayFrom begun index + plan.policy.interval

/-- Whether one of the first reports tells the watch to stop. -/
def toldByReport (count : Nat) : Bool :=
  plan.cancelOnReport.any fun report => 1 ≤ report && report ≤ count

/-- Whether the watch has been told to stop when the delay before a request begins. -/
def toldBefore (told : Bool) (index : Nat) : Bool :=
  told || (List.range index).any (fun earlier => (plan.fetch earlier).cancels) ||
    plan.toldByReport (plan.reports index).length

/-- Whether the watch is cancelled before a request starts. -/
def cancelledBefore (begun : Nat) (told : Bool) (index : Nat) : Bool :=
  plan.toldBefore told index ||
    plan.cancelAt.any fun time =>
      time < plan.startOf begun index ||
        (plan.cancelFirst && time = plan.startOf begun index)

/-- When a watch notices that it was cancelled before a request. -/
def noticedAt (begun : Nat) (told : Bool) (index : Nat) : Nat :=
  if plan.toldBefore told index then plan.delayFrom begun index
  else max (plan.delayFrom begun index) (plan.cancelAt.getD 0)

/-- A watch whose delay before a request begins. -/
def stateAfter (begun : Nat) (told : Bool) (count : Nat) : WatchState α where
  clock := plan.delayFrom begun count
  failures := trailingFailures (plan.outcomes count)
  fetches := count
  reported := (plan.reports count).reverse
  cancelled := plan.toldBefore told count

/-- The first requests neither end the watch nor come after its cancellation. -/
def Undisturbed (begun : Nat) (told : Bool) (count : Nat) : Prop :=
  ∀ index < count,
    ¬ plan.EndsAt index ∧ plan.cancelledBefore begun told index = false

/-- Nobody ever cancels the watch. -/
structure NeverCancelled (told : Bool) : Prop where
  notTold : told = false
  notOutside : plan.cancelAt = none
  notByRequest : ∀ index, (plan.fetch index).cancels = false
  notByReport : plan.cancelOnReport = none

/-! ## The loop -/

/-- The watch begins, told to stop already or not. -/
def beginning (_plan : WatchPlan α) (begun : Nat) (told : Bool) : WatchState α :=
  { clock := begun, cancelled := told }

/-- The loop comes to a request and starts it when the timetable says. -/
def StartsOnTime (begun : Nat) (told : Bool) (index : Nat) : Prop :=
  ∃ state,
    plan.run index (plan.beginning begun told) = (none, state) ∧
      state.fetches = index ∧
      plan.delay state = .elapsed (plan.startOf begun index)

/--
The loop comes to a result at a time, after so many requests, and has reported
what there was to report of them.
-/
def ComesTo
    (begun : Nat)
    (told : Bool)
    (fuel : Nat)
    (result : Except Fault (PollOutcome α))
    (fetches clock : Nat) : Prop :=
  let ended := plan.run fuel (plan.beginning begun told)
  ended.1 = some result ∧
    ended.2.fetches = fetches ∧
    ended.2.reported.reverse = plan.reports fetches ∧
    ended.2.clock = clock

/-! ## One request more -/

theorem outcomes_succ (count : Nat) :
    plan.outcomes (count + 1) =
      plan.outcomes count ++ [(plan.fetch count).outcome] := by
  simp [outcomes, List.range_succ]

theorem reports_succ (count : Nat) :
    plan.reports (count + 1) =
      plan.reports count ++
        (plan.progress? (plan.fetch count).outcome).toList := by
  simp only [reports, outcomes_succ, List.filterMap_append,
    List.filterMap_cons, List.filterMap_nil]
  cases plan.progress? (plan.fetch count).outcome <;> rfl

theorem toldByReport_zero :
    plan.toldByReport 0 = false := by
  unfold toldByReport
  cases plan.cancelOnReport with
  | none =>
      rfl
  | some report =>
      simp only [Option.any_some, ← Bool.decide_and, decide_eq_false_iff_not]
      omega

theorem toldByReport_succ (count : Nat) :
    plan.toldByReport (count + 1) =
      (plan.toldByReport count || plan.cancelOnReport = some (count + 1)) := by
  unfold toldByReport
  cases plan.cancelOnReport with
  | none =>
      simp
  | some report =>
      simp only [Option.any_some, Option.some.injEq, ← Bool.decide_and,
        ← Bool.decide_or, decide_eq_decide]
      omega

/-- A watch is told to stop by its request, or by the report that follows. -/
theorem toldBefore_succ (told : Bool) (count : Nat) :
    plan.toldBefore told (count + 1) =
      (plan.toldBefore told count || (plan.fetch count).cancels ||
        (plan.progress? (plan.fetch count).outcome).isSome &&
          plan.cancelOnReport = some ((plan.reports count).length + 1)) := by
  simp only [toldBefore, reports_succ, List.range_succ, List.any_append,
    List.any_cons, List.any_nil, Bool.or_false, List.length_append]
  cases plan.progress? (plan.fetch count).outcome with
  | none =>
      simp only [Option.toList_none, List.length_nil, Nat.add_zero,
        Option.isSome_none, Bool.false_and, Bool.or_false]
      ac_rfl
  | some value =>
      simp only [Option.toList_some, List.length_singleton,
        toldByReport_succ, Option.isSome_some, Bool.true_and]
      ac_rfl

variable
  {plan}
  {begun : Nat}
  {told : Bool}
  {count : Nat}

theorem endsAt_of_ok
    {value : α}
    (found : (plan.fetch count).outcome = .ok value) :
    plan.EndsAt count ↔ plan.isTerminal value = true := by
  simp [EndsAt, found]

theorem endsAt_of_error
    {fault : Fault}
    (found : (plan.fetch count).outcome = .error fault) :
    plan.EndsAt count ↔
      trailingFailures (plan.outcomes count) + 1 =
        max 1 plan.policy.maxConsecutiveErrors := by
  simp [EndsAt, found, outcomes_succ, trailingFailures_snoc_error]

/-- A watch that goes on has not seen too many failures in a row. -/
theorem Undisturbed.trailingFailures_lt
    (undisturbed : plan.Undisturbed begun told count) :
    trailingFailures (plan.outcomes count) <
      max 1 plan.policy.maxConsecutiveErrors := by
  induction count with
  | zero =>
      exact Nat.lt_of_lt_of_le Nat.zero_lt_one (Nat.le_max_left ..)
  | succ count inductionHypothesis =>
      have before :=
        inductionHypothesis fun index earlier =>
          undisturbed index (Nat.lt_succ_of_lt earlier)
      have goesOn := (undisturbed count (Nat.lt_succ_self count)).1
      rw [outcomes_succ]
      cases found : (plan.fetch count).outcome with
      | ok value =>
          rw [trailingFailures_snoc_ok]
          exact Nat.lt_of_lt_of_le Nat.zero_lt_one (Nat.le_max_left ..)
      | error fault =>
          rw [endsAt_of_error found] at goesOn
          rw [trailingFailures_snoc_error]
          omega

/-- A request starts on time unless the watch is cancelled before. -/
theorem delay_stateAfter
    (plan : WatchPlan α)
    (begun : Nat)
    (told : Bool)
    (count : Nat) :
    plan.delay (plan.stateAfter begun told count) =
      if plan.cancelledBefore begun told count then
        .cancelled (plan.noticedAt begun told count)
      else .elapsed (plan.startOf begun count) := by
  simp only [delay, stateAfter, cancelledBefore, noticedAt, startOf]
  by_cases toldAlready : plan.toldBefore told count = true
  · simp [toldAlready]
  obtain never | ⟨time, outside⟩ := Option.eq_none_or_eq_some plan.cancelAt
  · simp [toldAlready, never]
  by_cases passed : time < plan.delayFrom begun count
  · have early :
        time < plan.delayFrom begun count + plan.policy.interval := by
      omega
    simp [toldAlready, outside, passed, early,
      Nat.max_eq_left (Nat.le_of_lt passed)]
  · simp [toldAlready, outside, passed,
      Nat.max_eq_right (Nat.le_of_not_lt passed)]
    congr

/-- The answer to a request ends the watch where the timetable ends. -/
theorem judge_of_endsAt
    (ends : plan.EndsAt count) :
    ∃ result,
      plan.policy.judge plan.isTerminal
          (trailingFailures (plan.outcomes count))
          (plan.fetch count).outcome =
        .ended result ∧
      result.map .terminal = plan.ending count := by
  cases found : (plan.fetch count).outcome with
  | ok value =>
      rw [endsAt_of_ok found] at ends
      exact ⟨.ok value, by simp [PollPolicy.judge, ends], by
        simp [ending, found, Except.map]⟩
  | error fault =>
      rw [endsAt_of_error found] at ends
      have enough :
          plan.policy.maxConsecutiveErrors ≤
            trailingFailures (plan.outcomes count) + 1 := by
        omega
      refine ⟨_, if_pos enough, ?_⟩
      simp [ending, found, ends, Except.map]

/-- Otherwise the watch goes on, with what there is to report. -/
theorem judge_of_not_endsAt
    (undisturbed : plan.Undisturbed begun told count)
    (goesOn : ¬ plan.EndsAt count) :
    plan.policy.judge plan.isTerminal
        (trailingFailures (plan.outcomes count))
        (plan.fetch count).outcome =
      .goesOn (trailingFailures (plan.outcomes (count + 1)))
        (plan.progress? (plan.fetch count).outcome) := by
  rw [outcomes_succ]
  cases found : (plan.fetch count).outcome with
  | ok value =>
      rw [endsAt_of_ok found] at goesOn
      simp [PollPolicy.judge, progress?, goesOn, trailingFailures_snoc_ok]
  | error fault =>
      rw [endsAt_of_error found] at goesOn
      have few := undisturbed.trailingFailures_lt
      have notEnough :
          ¬ plan.policy.maxConsecutiveErrors ≤
            trailingFailures (plan.outcomes count) + 1 := by
        omega
      simp [PollPolicy.judge, progress?, notEnough,
        trailingFailures_snoc_error]

/-! ## The loop keeps to the timetable -/

/-- A request that is neither the last nor cancelled leads on to the next delay. -/
theorem run_step
    (undisturbed : plan.Undisturbed begun told (count + 1))
    (fuel : Nat) :
    plan.run (fuel + 1) (plan.stateAfter begun told count) =
      plan.run fuel (plan.stateAfter begun told (count + 1)) := by
  obtain ⟨goesOn, notCancelled⟩ :=
    undisturbed count (Nat.lt_succ_self count)
  have before : plan.Undisturbed begun told count :=
    fun index earlier => undisturbed index (Nat.lt_succ_of_lt earlier)
  rw [run, delay_stateAfter, notCancelled]
  simp only [stateAfter, judge_of_not_endsAt before goesOn,
    toldBefore_succ, reports_succ]
  cases plan.progress? (plan.fetch count).outcome with
  | none =>
      simp [delayFrom, startOf]
  | some value =>
      simp [delayFrom, startOf, report]

/-- Up to the last request, the loop stands where the timetable says. -/
theorem run_add
    (undisturbed : plan.Undisturbed begun told count)
    (fuel : Nat) :
    plan.run (count + fuel) (plan.beginning begun told) =
      plan.run fuel (plan.stateAfter begun told count) := by
  induction count generalizing fuel with
  | zero =>
      have starts :
          plan.stateAfter begun told 0 = plan.beginning begun told := by
        simp [stateAfter, beginning, delayFrom, outcomes, reports, toldBefore,
          toldByReport_zero, trailingFailures]
      rw [starts, Nat.zero_add]
  | succ count inductionHypothesis =>
      have before : plan.Undisturbed begun told count :=
        fun index earlier => undisturbed index (Nat.lt_succ_of_lt earlier)
      rw [Nat.succ_add_eq_add_succ, inductionHypothesis before]
      exact run_step undisturbed fuel

/-- A request that the watch comes to starts on time. -/
theorem run_starts
    (undisturbed : plan.Undisturbed begun told count)
    (notCancelled : plan.cancelledBefore begun told count = false) :
    plan.StartsOnTime begun told count := by
  refine ⟨plan.stateAfter begun told count, ?_, rfl, ?_⟩
  · exact run_add undisturbed 0
  · rw [delay_stateAfter, notCancelled]
    rfl

/-- A watch that is not cancelled before its last request ends with it. -/
theorem run_ends
    {fuel : Nat}
    (undisturbed : plan.Undisturbed begun told count)
    (notCancelled : plan.cancelledBefore begun told count = false)
    (ends : plan.EndsAt count)
    (enough : count < fuel) :
    plan.ComesTo begun told fuel (plan.ending count) (count + 1)
      (plan.startOf begun count + (plan.fetch count).duration) := by
  obtain ⟨more, rfl⟩ := Nat.exists_eq_add_of_lt enough
  obtain ⟨result, judged, same⟩ := judge_of_endsAt ends
  have silent : plan.reports (count + 1) = plan.reports count := by
    rw [reports_succ]
    cases found : (plan.fetch count).outcome with
    | ok value =>
        rw [endsAt_of_ok found] at ends
        simp [progress?, ends]
    | error fault =>
        simp [progress?]
  unfold ComesTo
  rw [Nat.add_assoc, run_add undisturbed, run, delay_stateAfter, notCancelled]
  simp [stateAfter, judged, same, silent]

/-- A watch that is cancelled before a request makes no request more. -/
theorem run_cancelled
    {fuel : Nat}
    (undisturbed : plan.Undisturbed begun told count)
    (cancelled : plan.cancelledBefore begun told count = true)
    (enough : count < fuel) :
    plan.ComesTo begun told fuel (.ok .cancelled) count
      (plan.noticedAt begun told count) := by
  obtain ⟨more, rfl⟩ := Nat.exists_eq_add_of_lt enough
  unfold ComesTo
  rw [Nat.add_assoc, run_add undisturbed, run, delay_stateAfter, cancelled]
  simp [stateAfter]

/-- A watch that no request ends goes on as long as it may. -/
theorem run_goesOn
    (undisturbed : plan.Undisturbed begun told count) :
    (plan.run count (plan.beginning begun told)).1 = none := by
  have reached := run_add undisturbed 0
  rw [Nat.add_zero] at reached
  rw [reached]
  rfl

theorem NeverCancelled.cancelledBefore_eq
    (never : plan.NeverCancelled told)
    (begun index : Nat) :
    plan.cancelledBefore begun told index = false := by
  obtain ⟨rfl, notOutside, notByRequest, notByReport⟩ := never
  simp [cancelledBefore, toldBefore, toldByReport, notOutside, notByRequest,
    notByReport]

/-- The last request of a watch and what comes of it, if nothing stops it before. -/
theorem run_last
    {last : Nat}
    (ends : plan.EndsAt last)
    (least : ∀ index < last, ¬ plan.EndsAt index)
    (notCancelled :
      ∀ index ≤ last, plan.cancelledBefore begun told index = false) :
    (∀ index ≤ last, plan.StartsOnTime begun told index) ∧
      ∀ fuel, last < fuel →
        plan.ComesTo begun told fuel (plan.ending last) (last + 1)
          (plan.startOf begun last + (plan.fetch last).duration) := by
  have undisturbed : plan.Undisturbed begun told last :=
    fun index earlier =>
      ⟨least index earlier, notCancelled index (Nat.le_of_lt earlier)⟩
  constructor
  · intro index upToLast
    refine run_starts ?_ (notCancelled index upToLast)
    exact fun before earlier =>
      undisturbed before (Nat.lt_of_lt_of_le earlier upToLast)
  · intro fuel enough
    exact run_ends undisturbed (notCancelled last (Nat.le_refl last)) ends
      enough

end WatchPlan

/--
A watch keeps exactly to its timetable.  One that nobody cancels makes its
requests on time up to the first one that ends it, comes to what that request
found, and has reported every value before that was not terminal; without such a
request it goes on for ever.  One that is cancelled makes no request that would
start later.  If a request before has ended it, in flight or not when the
cancellation came, it comes to what that request found.  Otherwise it is cancelled,
at once in a delay and as soon as the request is over that was in flight.
-/
theorem watch_keeps_to_timetable
    (plan : WatchPlan α)
    (begun : Nat)
    (told : Bool) :
    (plan.NeverCancelled told →
      (∀ last,
        plan.EndsAt last →
        (∀ index < last, ¬ plan.EndsAt index) →
        (∀ index ≤ last, plan.StartsOnTime begun told index) ∧
          ∀ fuel, last < fuel →
            plan.ComesTo begun told fuel (plan.ending last) (last + 1)
              (plan.startOf begun last + (plan.fetch last).duration)) ∧
      ((∀ index, ¬ plan.EndsAt index) →
        ∀ fuel,
          (plan.run fuel (plan.beginning begun told)).1 = none ∧
            plan.StartsOnTime begun told fuel)) ∧
    ∀ later,
      plan.cancelledBefore begun told later = true →
      (∀ index < later,
        plan.cancelledBefore begun told index = false) →
      (∀ index < later, ∀ time,
        plan.cancelAt = some time →
        plan.startOf begun index ≤ time) ∧
      (∀ last < later,
        plan.EndsAt last →
        (∀ index < last, ¬ plan.EndsAt index) →
        (∀ index ≤ last, plan.StartsOnTime begun told index) ∧
          ∀ fuel, last < fuel →
            plan.ComesTo begun told fuel (plan.ending last) (last + 1)
              (plan.startOf begun last + (plan.fetch last).duration)) ∧
      ((∀ index < later, ¬ plan.EndsAt index) →
        (∀ index < later, plan.StartsOnTime begun told index) ∧
          ∀ fuel, later < fuel →
            plan.ComesTo begun told fuel (.ok .cancelled) later
              (plan.noticedAt begun told later)) := by
  refine ⟨?_, ?_⟩
  · intro never
    have notCancelled := never.cancelledBefore_eq begun
    refine ⟨?_, ?_⟩
    · intro last ends least
      exact WatchPlan.run_last ends least fun index _ => notCancelled index
    · intro goesOn fuel
      have undisturbed : plan.Undisturbed begun told fuel :=
        fun index _ => ⟨goesOn index, notCancelled index⟩
      exact ⟨WatchPlan.run_goesOn undisturbed,
        WatchPlan.run_starts undisturbed (notCancelled fuel)⟩
  · intro later cancelled before
    refine ⟨?_, ?_, ?_⟩
    · intro index earlier time outside
      have notCancelled := before index earlier
      simp only [WatchPlan.cancelledBefore, outside, Option.any_some,
        Bool.or_eq_false_iff, decide_eq_false_iff_not] at notCancelled
      exact Nat.le_of_not_lt notCancelled.2.1
    · intro last earlier ends least
      exact WatchPlan.run_last ends least fun index upToLast =>
        before index (Nat.lt_of_le_of_lt upToLast earlier)
    · intro goesOn
      have undisturbed : plan.Undisturbed begun told later :=
        fun index earlier => ⟨goesOn index earlier, before index earlier⟩
      constructor
      · intro index earlier
        refine WatchPlan.run_starts ?_ (before index earlier)
        exact fun first beforeIndex =>
          undisturbed first (Nat.lt_trans beforeIndex earlier)
      · intro fuel enough
        exact WatchPlan.run_cancelled undisturbed cancelled enough

/-- A watch whose second request succeeds and whose other ones all fail. -/
def flickering (cancelAt : Option Nat) : WatchPlan Nat where
  policy := ⟨5, 2⟩
  isTerminal := fun _ => false
  fetch index :=
    { duration := 1
      outcome := if index = 1 then .ok 7 else .error (.internal "down") }
  cancelAt := cancelAt

/-- It is given up after two failures in a row, unless a delay before is cut short. -/
theorem flickering_watch_keeps_to_timetable :
    (flickering none).NeverCancelled false ∧
      (flickering none).ComesTo 0 false 9
        (.error (.pollExhausted 2 "Internal error: down")) 4 24 ∧
      (flickering (some 13)).cancelledBefore 0 false 2 = true ∧
      (flickering (some 13)).ComesTo 0 false 9 (.ok .cancelled) 2 13 := by
  have goesOn (cancelAt : Option Nat) :
      ∀ index < 3, ¬ (flickering cancelAt).EndsAt index := by
    intro index early
    match index, early with
    | 0, _ | 2, _ => exact (by decide : ¬ 1 = 2)
    | 1, _ => exact Bool.false_ne_true
  have never : (flickering none).NeverCancelled false :=
    ⟨rfl, rfl, fun _ => rfl, rfl⟩
  obtain ⟨uncancelled, -⟩ := watch_keeps_to_timetable (flickering none) 0 false
  obtain ⟨ended, -⟩ := uncancelled never
  obtain ⟨-, cancelled⟩ :=
    watch_keeps_to_timetable (flickering (some 13)) 0 false
  obtain ⟨-, -, notEnded⟩ :=
    cancelled 2 rfl fun index early => by
      match index, early with
      | 0, _ | 1, _ => rfl
  obtain ⟨-, noticed⟩ :=
    notEnded fun index early => goesOn (some 13) index (Nat.lt_succ_of_lt early)
  exact ⟨never, (ended 3 rfl (goesOn none)).2 9 (by decide), rfl,
    noticed 9 (by decide)⟩

end AssessmentChat.Rehearsal
