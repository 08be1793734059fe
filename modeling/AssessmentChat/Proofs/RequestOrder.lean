import AssessmentChat.Proofs.ServiceAnswers

namespace AssessmentChat

/-!
# Requests in order

What can be asked depends on what was done before, and what may be asked after a
failure on the request that failed.  `EachAsked` says the first of every request
and `EachFailure` the second of every request that fails.  Both are shown part
by part, and they hold by any moment of what holds at the end.
-/

/-- What holds of every request, given what has been done before it. -/
def EachAsked
    (holds : List Deed → Request → Prop)
    (deeds : List Deed) : Prop :=
  ∀ earlier request later,
    deeds = earlier ++ .asked request :: later →
    holds earlier request

/-- What holds of every request that fails, given the requests after it. -/
def EachFailure (holds : Request → List Request → Prop) : List Deed → Prop
  | [] => True
  | .said _ :: later => EachFailure holds later
  | .asked _ :: later => EachFailure holds later
  | .answered request answer :: later =>
      (request.Fails answer → holds request (requests later)) ∧
        EachFailure holds later

/-- A deed is among the first ones or among the others. -/
theorem append_eq_append_cons
    {first second earlier later : List Deed}
    {deed : Deed}
    (shape : first ++ second = earlier ++ deed :: later) :
    (∃ between,
        first = earlier ++ deed :: between ∧ later = between ++ second) ∨
      ∃ between,
        earlier = first ++ between ∧ second = between ++ deed :: later := by
  rcases List.append_eq_append_iff.mp shape with
    ⟨between, rfl, inSecond⟩ | ⟨between, rfl, rest⟩
  · exact .inr ⟨between, rfl, inSecond⟩
  · cases between with
    | nil =>
        exact .inr ⟨[], by simp, rest.symm⟩
    | cons other between =>
        obtain ⟨rfl, rfl⟩ := List.cons.inj rest
        exact .inl ⟨between, rfl, rfl⟩

namespace EachAsked

variable
  {holds : List Deed → Request → Prop}
  {earlier later deeds : List Deed}

/-- What holds when each request is asked holds on two ways together. -/
theorem append
    (first : EachAsked holds earlier)
    (second :
      EachAsked (fun between => holds (earlier ++ between)) later) :
    EachAsked holds (earlier ++ later) := by
  intro before request after shape
  rcases append_eq_append_cons shape with
    ⟨between, inEarlier, -⟩ | ⟨between, rfl, inLater⟩
  · exact first before request between inEarlier
  · exact second between request after inLater

/-- What holds of every request holds of those made by any moment. -/
theorem of_append
    (each : EachAsked holds (earlier ++ later)) :
    EachAsked holds earlier := by
  intro before request after shape
  refine each before request (after ++ later) ?_
  rw [shape, List.append_assoc, List.cons_append]

/-- What does not get lost can be shown part by part. -/
theorem append_of_mono
    (mono :
      ∀ before between request,
        holds between request → holds (before ++ between) request)
    (first : EachAsked holds earlier)
    (second : EachAsked holds later) :
    EachAsked holds (earlier ++ later) :=
  first.append fun before request after shape =>
    mono _ _ _ (second before request after shape)

/-- What holds of each request, whatever came before, holds when it is asked. -/
theorem of_forall
    (each : ∀ request ∈ requests deeds, ∀ earlier, holds earlier request) :
    EachAsked holds deeds := by
  intro before request after shape
  refine each request ?_ before
  simp [shape, requests, Deed.asked?]

/-- One request is asked when nothing came before. -/
theorem exchange
    {request : Request}
    (asked : holds [] request)
    (answer : request.Answer) :
    EachAsked holds (request.exchange answer) := by
  intro before other after shape
  cases before with
  | nil =>
      cases shape
      exact asked
  | cons deed rest =>
      obtain ⟨-, answered⟩ := List.cons.inj shape
      cases rest with
      | nil =>
          cases answered
      | cons next others =>
          obtain ⟨-, nothing⟩ := List.cons.inj answered
          simp at nothing

end EachAsked

section EachFailure

variable {holds : Request → List Request → Prop}

@[simp] theorem eachFailure_nil :
    EachFailure holds [] :=
  trivial

@[simp] theorem eachFailure_cons_said
    {notice : Notice}
    {deeds : List Deed} :
    EachFailure holds (.said notice :: deeds) ↔ EachFailure holds deeds :=
  Iff.rfl

/-- A failure on the first of two ways is followed by the requests of the second. -/
@[simp] theorem eachFailure_append
    {earlier later : List Deed} :
    EachFailure holds (earlier ++ later) ↔
      EachFailure
          (fun request rest => holds request (rest ++ requests later))
          earlier ∧
        EachFailure holds later := by
  induction earlier with
  | nil =>
      simp [EachFailure]
  | cons deed rest inductionHypothesis =>
      cases deed with
      | said | asked =>
          exact inductionHypothesis
      | answered request answer =>
          simp only [List.cons_append, EachFailure, requests_append,
            inductionHypothesis, and_assoc]

@[simp] theorem eachFailure_map_said
    {notices : List Notice} :
    EachFailure holds (notices.map .said) := by
  induction notices with
  | nil =>
      trivial
  | cons notice rest inductionHypothesis =>
      exact inductionHypothesis

/-- One request that fails is followed by none. -/
@[simp] theorem eachFailure_request
    {request : Request}
    {answer : request.Answer} :
    EachFailure holds (request.exchange answer) ↔
      (request.Fails answer → holds request []) := by
  simp [Request.exchange, EachFailure]

/-- One operation that fails is followed by none. -/
@[simp] theorem eachFailure_call
    {call : ServiceCall}
    {answer : Except Fault call.Reply} :
    EachFailure holds (call.exchange answer) ↔
      ∀ fault, answer = .error fault → holds (.service call) [] := by
  simp [ServiceCall.exchange, Request.Fails]

/-- What follows from what holds at each failure holds there too. -/
theorem EachFailure.mono
    {implied : Request → List Request → Prop}
    {deeds : List Deed}
    (each : EachFailure holds deeds)
    (implies : ∀ request rest, holds request rest → implied request rest) :
    EachFailure implied deeds := by
  induction deeds with
  | nil =>
      trivial
  | cons deed rest inductionHypothesis =>
      cases deed with
      | said | asked =>
          exact inductionHypothesis each
      | answered request answer =>
          exact ⟨fun fails => implies _ _ (each.1 fails),
            inductionHypothesis each.2⟩

end EachFailure

@[simp] theorem requests_request
    (request : Request)
    (answer : request.Answer) :
    requests (request.exchange answer) = [request] :=
  rfl

/-! ## Requests after a failure -/

/-- What can be asked after a request that failed. -/
def MayFollow (failed : Request) (rest : List Request) : Prop :=
  rest = [] ∨
    failed.isStatus = true ∧
      ∀ next ∈ rest.head?, next.isStatus = true ∨ next.isStop = true

namespace MayFollow

/-- Nothing may follow every failure. -/
@[simp] theorem nothing
    (failed : Request) :
    MayFollow failed [] :=
  .inl rfl

/-- If requests may follow a failure, so may the first of them. -/
theorem of_prefix
    {failed : Request}
    {rest more : List Request}
    (follows : MayFollow failed (rest ++ more)) :
    MayFollow failed rest := by
  cases rest with
  | nil =>
      exact .inl rfl
  | cons next others =>
      exact .inr (follows.resolve_left nofun)

end MayFollow

/-- While a watch goes on, failures are followed by further status requests. -/
theorem WatchGoesOn.mayFollow
    {policy : PollPolicy}
    {call : ServiceCall}
    {isTerminal : call.Reply → Bool}
    {report : call.Reply → List Notice}
    {deeds : List Deed}
    {failures : Nat}
    {rest : List Request}
    (isStatus : (Request.service call).isStatus = true)
    (goesOn : WatchGoesOn policy call isTerminal report deeds failures)
    (next :
      ∀ next ∈ rest.head?, next.isStatus = true ∨ next.isStop = true) :
    EachFailure (fun failed between => MayFollow failed (between ++ rest))
      deeds := by
  have status :
      ∀ next ∈ (Request.service call :: rest).head?,
        next.isStatus = true ∨ next.isStop = true := by
    rintro _ ⟨⟩
    exact .inl isStatus
  induction goesOn generalizing rest with
  | begun =>
      trivial
  | progressed _ _ inductionHypothesis =>
      simpa using inductionHypothesis status (by simpa using .inl isStatus)
  | failed fault _ _ inductionHypothesis =>
      refine eachFailure_append.mpr ⟨?_, ?_⟩
      · simpa using inductionHypothesis status (by simpa using .inl isStatus)
      · exact eachFailure_call.mpr fun _ _ => .inr ⟨isStatus, next⟩

end AssessmentChat
