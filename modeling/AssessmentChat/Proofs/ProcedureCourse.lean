import AssessmentChat.Procedure

namespace AssessmentChat

/-!
# Courses of procedures

A procedure is a tree of every possible course.  `Procedure.Reaches` singles out
one course through it: what has been done so far and where the procedure stands.
It knows nothing of sessions, clocks or cancellation, so what holds of every
course holds of every way in which an utterance can be handled.

`Procedure.Yields` is a course that has come to its end.  It is taken apart along
the steps that procedures are written in.
-/

/-- One thing that is done while a procedure is carried out. -/
inductive Deed
  | said (notice : Notice)
  | asked (request : Request)
  | answered (request : Request) (answer : request.Answer)

/-- What is done in a stretch, the request at its end included. -/
def Stretch.deeds (stretch : Stretch α) : List Deed :=
  stretch.notices.map .said ++ (stretch.reached.inFlight?.map .asked).toList

/-- A request together with its answer. -/
def Request.exchange
    (request : Request)
    (answer : request.Answer) : List Deed :=
  [.asked request, .answered request answer]

/-- A call to the service together with its answer. -/
def ServiceCall.exchange
    (call : ServiceCall)
    (answer : Except Fault call.Reply) : List Deed :=
  (Request.service call).exchange answer

section Watching

variable
  (policy : PollPolicy)
  (call : ServiceCall)
  (isTerminal : call.Reply → Bool)
  (report : call.Reply → List Notice)

/--
How far a watch can get while it goes on: what has been done, and how many
status requests in a row have failed by then.
-/
inductive WatchGoesOn : List Deed → Nat → Prop where
  | begun :
      WatchGoesOn [] 0
  | progressed
      {deeds : List Deed}
      {failures : Nat}
      {value : call.Reply} :
      WatchGoesOn deeds failures →
      isTerminal value = false →
      WatchGoesOn
        (deeds ++ call.exchange (.ok value) ++ (report value).map .said) 0
  | failed
      {deeds : List Deed}
      {failures : Nat}
      (fault : Fault) :
      WatchGoesOn deeds failures →
      failures + 1 < policy.maxConsecutiveErrors →
      WatchGoesOn (deeds ++ call.exchange (.error fault)) (failures + 1)

/-- How a watch can end: what has been done by then, and the outcome. -/
inductive WatchEnds :
    List Deed → Except Fault (PollOutcome call.Reply) → Prop where
  | cancelled
      {deeds : List Deed}
      {failures : Nat} :
      WatchGoesOn policy call isTerminal report deeds failures →
      WatchEnds deeds (.ok .cancelled)
  | terminal
      {deeds : List Deed}
      {failures : Nat}
      {value : call.Reply} :
      WatchGoesOn policy call isTerminal report deeds failures →
      isTerminal value = true →
      WatchEnds (deeds ++ call.exchange (.ok value)) (.ok (.terminal value))
  | exhausted
      {deeds : List Deed}
      {failures : Nat}
      {fault : Fault} :
      WatchGoesOn policy call isTerminal report deeds failures →
      policy.maxConsecutiveErrors ≤ failures + 1 →
      WatchEnds (deeds ++ call.exchange (.error fault))
        (.error (.pollExhausted (failures + 1) fault.message))

end Watching

namespace Activity

/-- The result of a procedure that has come to its end. -/
def outcome? : Activity α → Option α
  | .finished result => some result
  | _ => none

theorem outcome?_eq_some
    {activity : Activity α}
    {result : α} :
    activity.outcome? = some result ↔ activity = .finished result := by
  cases activity <;> simp [outcome?]

/-- A request in flight goes on with an answer to it and with no other. -/
theorem receive?_asking_eq_some
    {policy : PollPolicy}
    {freshName : String}
    {request asked : Request}
    {answer : request.Answer}
    {next : asked.Answer → Procedure α}
    {stretch : Stretch α} :
    (Activity.asking asked next).receive? policy freshName request answer =
        some stretch ↔
      ∃ same : request = asked,
        stretch = (next (answer.cast same)).advance freshName := by
  simp only [receive?]
  split
  next same =>
    simp [same, eq_comm]
  next different =>
    simp [different]

/-- A status request goes on with an answer to it and with no other. -/
theorem receive?_checking_eq_some
    {policy : PollPolicy}
    {freshName : String}
    {request : Request}
    {answer : request.Answer}
    {watch : Watch α}
    {stretch : Stretch α} :
    (Activity.checking watch).receive? policy freshName request answer =
        some stretch ↔
      ∃ same : request = .service watch.call,
        stretch = watch.receive policy freshName (answer.cast same) := by
  simp only [receive?]
  split
  next same =>
    simp [same, eq_comm]
  next different =>
    simp [different]

end Activity

namespace Procedure

/-- A course of a procedure: what has been done, and where the procedure stands. -/
inductive Reaches (policy : PollPolicy) :
    Procedure α → List Deed → Activity α → Prop where
  | finish
      (result : α) :
      Reaches policy (.finish result) [] (.finished result)
  | publish
      {notice : Notice}
      {next : Procedure α}
      {deeds : List Deed}
      {reached : Activity α} :
      Reaches policy next deeds reached →
      Reaches policy (.publish notice next) (.said notice :: deeds) reached
  | nameStream
      (name : String)
      {next : String → Procedure α}
      {deeds : List Deed}
      {reached : Activity α} :
      Reaches policy (next name) deeds reached →
      Reaches policy (.nameStream next) deeds reached
  | asking
      (request : Request)
      (next : request.Answer → Procedure α) :
      Reaches policy (.ask request next) [.asked request]
        (.asking request next)
  | answered
      {request : Request}
      {next : request.Answer → Procedure α}
      (answer : request.Answer)
      {deeds : List Deed}
      {reached : Activity α} :
      Reaches policy (next answer) deeds reached →
      Reaches policy (.ask request next)
        (request.exchange answer ++ deeds) reached
  | pausing
      {call : ServiceCall}
      {isTerminal : call.Reply → Bool}
      {report : call.Reply → List Notice}
      {deeds : List Deed}
      {failures : Nat}
      (next : Except Fault (PollOutcome call.Reply) → Procedure α) :
      WatchGoesOn policy call isTerminal report deeds failures →
      Reaches policy (.watch call isTerminal report next) deeds
        (.pausing ⟨call, isTerminal, report, failures, next⟩)
  | checking
      {call : ServiceCall}
      {isTerminal : call.Reply → Bool}
      {report : call.Reply → List Notice}
      {deeds : List Deed}
      {failures : Nat}
      (next : Except Fault (PollOutcome call.Reply) → Procedure α) :
      WatchGoesOn policy call isTerminal report deeds failures →
      Reaches policy (.watch call isTerminal report next)
        (deeds ++ [.asked (.service call)])
        (.checking ⟨call, isTerminal, report, failures, next⟩)
  | ended
      {call : ServiceCall}
      {isTerminal : call.Reply → Bool}
      {report : call.Reply → List Notice}
      {next : Except Fault (PollOutcome call.Reply) → Procedure α}
      {watched deeds : List Deed}
      {outcome : Except Fault (PollOutcome call.Reply)}
      {reached : Activity α} :
      WatchEnds policy call isTerminal report watched outcome →
      Reaches policy (next outcome) deeds reached →
      Reaches policy (.watch call isTerminal report next)
        (watched ++ deeds) reached

variable {policy : PollPolicy}

namespace Reaches

/-- A procedure reaches the first point where it has to wait. -/
theorem advance
    (policy : PollPolicy)
    (freshName : String)
    (procedure : Procedure α) :
    procedure.Reaches policy
      (procedure.advance freshName).deeds
      (procedure.advance freshName).reached := by
  induction procedure with
  | finish result =>
      exact .finish result
  | publish notice next inductionHypothesis =>
      exact .publish inductionHypothesis
  | nameStream next inductionHypothesis =>
      exact .nameStream freshName (inductionHypothesis freshName)
  | ask request next =>
      exact .asking request next
  | watch call isTerminal report next =>
      exact .pausing next .begun

/-- A course goes on when a delay is over or cut short. -/
theorem wake
    {procedure : Procedure α}
    {deeds : List Deed}
    {activity : Activity α}
    {freshName : String}
    {cancelled : Bool}
    {stretch : Stretch α}
    (reaches : procedure.Reaches policy deeds activity)
    (woken : activity.wake? freshName cancelled = some stretch) :
    procedure.Reaches policy (deeds ++ stretch.deeds) stretch.reached := by
  induction reaches with
  | finish | asking | checking =>
      simp [Activity.wake?] at woken
  | publish _ inductionHypothesis =>
      exact .publish (inductionHypothesis woken)
  | nameStream name _ inductionHypothesis =>
      exact .nameStream name (inductionHypothesis woken)
  | answered answer _ inductionHypothesis =>
      rw [List.append_assoc]
      exact .answered answer (inductionHypothesis woken)
  | pausing next goesOn =>
      cases cancelled with
      | false =>
          cases woken
          exact .checking next goesOn
      | true =>
          cases woken
          exact .ended (.cancelled goesOn) (advance policy freshName _)
  | ended ends _ inductionHypothesis =>
      rw [List.append_assoc]
      exact .ended ends (inductionHypothesis woken)

/-- A watch goes on or ends with the answer to a status request. -/
theorem receive_watched
    {call : ServiceCall}
    {isTerminal : call.Reply → Bool}
    {report : call.Reply → List Notice}
    {next : Except Fault (PollOutcome call.Reply) → Procedure α}
    {deeds : List Deed}
    {failures : Nat}
    {freshName : String}
    {answer : Except Fault call.Reply}
    (goesOn :
      WatchGoesOn policy call isTerminal report deeds failures) :
    (Procedure.watch call isTerminal report next).Reaches policy
      (deeds ++ call.exchange answer ++
        (Watch.receive policy freshName
          ⟨call, isTerminal, report, failures, next⟩ answer).deeds)
      (Watch.receive policy freshName
        ⟨call, isTerminal, report, failures, next⟩ answer).reached := by
  cases answer with
  | ok value =>
      cases seen : isTerminal value with
      | true =>
          simp only [Watch.receive, PollPolicy.judge, seen]
          exact .ended (.terminal goesOn seen) (advance policy freshName _)
      | false =>
          simp only [Watch.receive, PollPolicy.judge, seen,
            Bool.false_eq_true, ↓reduceIte]
          simpa [Stretch.deeds, Activity.inFlight?] using
            Reaches.pausing next (goesOn.progressed seen)
  | error fault =>
      by_cases enough : policy.maxConsecutiveErrors ≤ failures + 1
      · simp only [Watch.receive, PollPolicy.judge, enough, ↓reduceIte]
        exact .ended (.exhausted goesOn enough) (advance policy freshName _)
      · simp only [Watch.receive, PollPolicy.judge, enough, ↓reduceIte]
        simpa [Stretch.deeds, Activity.inFlight?] using
          Reaches.pausing next
            (goesOn.failed fault (Nat.lt_of_not_le enough))

/-- A course goes on with the answer to the request in flight. -/
theorem receive
    {procedure : Procedure α}
    {deeds : List Deed}
    {activity : Activity α}
    {freshName : String}
    {request : Request}
    {answer : request.Answer}
    {stretch : Stretch α}
    (reaches : procedure.Reaches policy deeds activity)
    (received :
      activity.receive? policy freshName request answer = some stretch) :
    procedure.Reaches policy
      (deeds ++ .answered request answer :: stretch.deeds)
      stretch.reached := by
  induction reaches with
  | finish | pausing =>
      simp [Activity.receive?] at received
  | publish _ inductionHypothesis =>
      exact .publish (inductionHypothesis received)
  | nameStream name _ inductionHypothesis =>
      exact .nameStream name (inductionHypothesis received)
  | asking asked next =>
      obtain ⟨rfl, rfl⟩ := Activity.receive?_asking_eq_some.mp received
      exact .answered answer (advance policy freshName _)
  | answered answer _ inductionHypothesis =>
      rw [List.append_assoc]
      exact .answered answer (inductionHypothesis received)
  | checking next goesOn =>
      obtain ⟨rfl, rfl⟩ := Activity.receive?_checking_eq_some.mp received
      rw [List.append_assoc]
      simpa [ServiceCall.exchange, Request.exchange] using
        receive_watched goesOn
  | ended ends _ inductionHypothesis =>
      rw [List.append_assoc]
      exact .ended ends (inductionHypothesis received)

end Reaches

/-- A course that has come to its end. -/
def Yields
    (policy : PollPolicy)
    (procedure : Procedure α)
    (deeds : List Deed)
    (result : α) : Prop :=
  procedure.Reaches policy deeds (.finished result)

namespace Yields

variable {deeds : List Deed}

theorem of_pure
    {value result : α}
    (yields : (pure value : Procedure α).Yields policy deeds result) :
    deeds = [] ∧ result = value := by
  cases yields
  exact ⟨rfl, rfl⟩

/-- A notice is published before anything else is done. -/
theorem of_say_bind
    {notice : Notice}
    {next : Unit → Procedure α}
    {result : α}
    (yields : (say notice >>= next).Yields policy deeds result) :
    ∃ rest,
      (next ()).Yields policy rest result ∧
        deeds = .said notice :: rest := by
  cases yields with
  | publish finished =>
      exact ⟨_, finished, rfl⟩

/-- Notices are published before anything else is done. -/
theorem of_sayAll_bind
    {notices : List Notice}
    {next : Unit → Procedure α}
    {result : α}
    (yields : (sayAll notices >>= next).Yields policy deeds result) :
    ∃ rest,
      (next ()).Yields policy rest result ∧
        deeds = notices.map .said ++ rest := by
  induction notices generalizing deeds with
  | nil =>
      exact ⟨deeds, yields, rfl⟩
  | cons notice others inductionHypothesis =>
      cases yields with
      | publish othersYield =>
          obtain ⟨rest, finished, rfl⟩ := inductionHypothesis othersYield
          exact ⟨rest, finished, rfl⟩

/-- Naming a stream is not seen. -/
theorem of_streamName_bind
    {next : String → Procedure α}
    {result : α}
    (yields : (streamName >>= next).Yields policy deeds result) :
    ∃ streamId, (next streamId).Yields policy deeds result := by
  cases yields with
  | nameStream streamId finished =>
      exact ⟨streamId, finished⟩

/-- A request is answered before anything else is done. -/
theorem of_request_bind
    {asked : Request}
    {next : asked.Answer → Procedure α}
    {result : α}
    (yields : (request asked >>= next).Yields policy deeds result) :
    ∃ answer rest,
      (next answer).Yields policy rest result ∧
        deeds = asked.exchange answer ++ rest := by
  cases yields with
  | answered answer finished =>
      exact ⟨answer, _, finished, rfl⟩

/-- A call is answered before anything else is done. -/
theorem of_call_bind
    {asked : ServiceCall}
    {next : Except Fault asked.Reply → Procedure α}
    {result : α}
    (yields : (call asked >>= next).Yields policy deeds result) :
    ∃ answer rest,
      (next answer).Yields policy rest result ∧
        deeds = asked.exchange answer ++ rest := by
  cases yields with
  | answered answer finished =>
      exact ⟨answer, _, finished, rfl⟩

/-- A watch comes to its end before anything else is done. -/
theorem of_watchJob_bind
    {asked : ServiceCall}
    {isTerminal : asked.Reply → Bool}
    {report : asked.Reply → List Notice}
    {next : Except Fault (PollOutcome asked.Reply) → Procedure α}
    {result : α}
    (yields :
      (watchJob asked isTerminal report >>= next).Yields
        policy deeds result) :
    ∃ watched outcome rest,
      WatchEnds policy asked isTerminal report watched outcome ∧
        (next outcome).Yields policy rest result ∧
        deeds = watched ++ rest := by
  cases yields with
  | ended ends finished =>
      exact ⟨_, _, _, ends, finished, rfl⟩

/-- A call that can end a sequence is answered before anything else is done. -/
theorem of_call_except_bind
    {asked : ServiceCall}
    {next : asked.Reply → ExceptT Fault Procedure α}
    {result : Except Fault α}
    (yields :
      (ExceptT.mk (call asked) >>= next).run.Yields
        policy deeds result) :
    (∃ fault,
      deeds = asked.exchange (.error fault) ∧
        result = .error fault) ∨
      ∃ reply rest,
        (next reply).run.Yields policy rest result ∧
          deeds = asked.exchange (.ok reply) ++ rest := by
  have sequence :
      (call asked >>= ExceptT.bindCont next).Yields
        policy deeds result := yields
  obtain ⟨answer, rest, remaining, rfl⟩ := sequence.of_call_bind
  cases answer with
  | error fault =>
      obtain ⟨rfl, rfl⟩ := of_pure remaining
      exact .inl ⟨fault, List.append_nil _, rfl⟩
  | ok reply =>
      exact .inr ⟨reply, rest, remaining, rfl⟩

/-- A sequence yields what its second part yields after the first one. -/
theorem of_bind
    {first : Procedure α}
    {next : α → Procedure β}
    {result : β}
    (yields : (first >>= next).Yields policy deeds result) :
    ∃ middle firstDeeds restDeeds,
      first.Yields policy firstDeeds middle ∧
        (next middle).Yields policy restDeeds result ∧
        deeds = firstDeeds ++ restDeeds := by
  induction first generalizing deeds with
  | finish middle =>
      exact ⟨middle, [], deeds, .finish middle, yields, rfl⟩
  | publish notice rest inductionHypothesis =>
      cases yields with
      | publish restYields =>
          obtain ⟨middle, firstDeeds, restDeeds, firstYields,
              nextYields, rfl⟩ := inductionHypothesis restYields
          exact ⟨middle, _, restDeeds, .publish firstYields,
            nextYields, rfl⟩
  | nameStream rest inductionHypothesis =>
      cases yields with
      | nameStream name restYields =>
          obtain ⟨middle, firstDeeds, restDeeds, firstYields,
              nextYields, rfl⟩ := inductionHypothesis name restYields
          exact ⟨middle, _, restDeeds, .nameStream name firstYields,
            nextYields, rfl⟩
  | ask asked rest inductionHypothesis =>
      cases yields with
      | answered answer restYields =>
          obtain ⟨middle, firstDeeds, restDeeds, firstYields,
              nextYields, rfl⟩ := inductionHypothesis answer restYields
          exact ⟨middle, _, restDeeds, .answered answer firstYields,
            nextYields, (List.append_assoc ..).symm⟩
  | watch asked isTerminal report rest inductionHypothesis =>
      cases yields with
      | @ended _ _ _ _ _ _ outcome _ ends restYields =>
          obtain ⟨middle, firstDeeds, restDeeds, firstYields,
              nextYields, rfl⟩ := inductionHypothesis outcome restYields
          exact ⟨middle, _, restDeeds, .ended ends firstYields,
            nextYields, (List.append_assoc ..).symm⟩

/-- A changed result is yielded by the course of the unchanged one. -/
theorem of_map
    {change : α → β}
    {procedure : Procedure α}
    {result : β}
    (yields : (change <$> procedure).Yields policy deeds result) :
    ∃ unchanged,
      procedure.Yields policy deeds unchanged ∧
        result = change unchanged := by
  have sequence :
      (procedure >>= fun unchanged => pure (change unchanged)).Yields
        policy deeds result := yields
  obtain ⟨unchanged, firstDeeds, restDeeds, procedureYields,
      finished, rfl⟩ := sequence.of_bind
  obtain ⟨rfl, rfl⟩ := of_pure finished
  exact ⟨unchanged, by simpa using procedureYields, rfl⟩

/-- A step that can fail ends a sequence, or the sequence goes on after it. -/
theorem of_except_bind
    {first : ExceptT Fault Procedure α}
    {next : α → ExceptT Fault Procedure β}
    {result : Except Fault β}
    (yields : (first >>= next).run.Yields policy deeds result) :
    (∃ fault,
      first.run.Yields policy deeds (.error fault) ∧
        result = .error fault) ∨
      ∃ middle firstDeeds restDeeds,
        first.run.Yields policy firstDeeds (.ok middle) ∧
          (next middle).run.Yields policy restDeeds result ∧
          deeds = firstDeeds ++ restDeeds := by
  have sequence :
      (first.run >>= ExceptT.bindCont next).Yields
        policy deeds result := yields
  obtain ⟨middle, firstDeeds, restDeeds, firstYields,
      nextYields, rfl⟩ := sequence.of_bind
  cases middle with
  | error fault =>
      obtain ⟨rfl, rfl⟩ := of_pure nextYields
      exact .inl ⟨fault, by simpa using firstYields, rfl⟩
  | ok middle =>
      exact .inr ⟨middle, firstDeeds, restDeeds, firstYields,
        nextYields, rfl⟩

end Yields

end Procedure

end AssessmentChat
