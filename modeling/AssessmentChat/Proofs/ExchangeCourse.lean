import AssessmentChat.Http.Exchange
import Mathlib.Data.List.Forall2

namespace AssessmentChat.Http

/-!
# The course of an exchange

Given one response after another, an exchange sends its requests in turn and ends with a
result.  Exchanges that go on alike, whatever is answered, take courses that are alike.
-/

namespace Exchange

variable
  {network : Request → State → Option Response × State}
  {similar : Request → Request → Prop}

/-! ## Courses -/

/--
The requests that an exchange sends and the result that it ends with, if it is given one
response after another, and none when there are no more.
-/
def course : Exchange α → List (Option Response) → List Request × α
  | .finish result, _ => ([], result)
  | .send request next, responses =>
      let (later, result) :=
        (next responses.head?.join).course responses.tail
      (request :: later, result)

/-- The course of two exchanges in turn, the second with the responses that are left. -/
theorem course_bind
    (first : Exchange α)
    (next : α → Exchange β)
    (responses : List (Option Response)) :
    (first >>= next).course responses =
      let requests := (first.course responses).1
      let rest :=
        (next (first.course responses).2).course
          (responses.drop requests.length)
      (requests ++ rest.1, rest.2) := by
  induction first generalizing responses with
  | finish =>
      rfl
  | send request rest inductionHypothesis =>
      change
        (Exchange.send request fun response => rest response >>= next).course
          responses = _
      simp only [course, inductionHypothesis]
      simp

section OnSuccess

variable
  (first : Exchange (Except ε α))
  (next : α → Exchange (Except ε β))
  (responses : List (Option Response))

/-- What is left for the exchange after the first one. -/
theorem course_onSuccess :
    (first.onSuccess next).course responses =
      let requests := (first.course responses).1
      match (first.course responses).2 with
      | .error failure => (requests, .error failure)
      | .ok value =>
          let rest :=
            (next value).course (responses.drop requests.length)
          (requests ++ rest.1, rest.2) := by
  rw [onSuccess, course_bind]
  cases result : (first.course responses).2 with
  | error failure =>
      exact congrArg (·, _) (List.append_nil _)
  | ok value =>
      rfl

/-- Two exchanges in turn end well exactly if both do. -/
theorem onSuccess_eq_ok
    {result : β} :
    ((first.onSuccess next).course responses).2 = .ok result ↔
      ∃ value,
        (first.course responses).2 = .ok value ∧
          ((next value).course
              (responses.drop (first.course responses).1.length)).2 =
            .ok result := by
  rw [course_onSuccess]
  cases (first.course responses).2 <;> simp

/-- Two exchanges in turn fail as the first one does, or as the second one. -/
theorem onSuccess_eq_error
    {failure : ε} :
    ((first.onSuccess next).course responses).2 = .error failure ↔
      (first.course responses).2 = .error failure ∨
        ∃ value,
          (first.course responses).2 = .ok value ∧
            ((next value).course
                (responses.drop (first.course responses).1.length)).2 =
              .error failure := by
  rw [course_onSuccess]
  cases (first.course responses).2 <;> simp

/-- What is sent is not changed by what is made of the outcome. -/
theorem requests_onSuccess
    (outcome : α → Except ε β) :
    ((first.onSuccess fun value => .finish (outcome value)).course
        responses).1 =
      (first.course responses).1 := by
  rw [course_onSuccess]
  cases (first.course responses).2 with
  | error failure =>
      rfl
  | ok value =>
      exact List.append_nil _

end OnSuccess

/-- What is asked over a network, beside the state of the network. -/
def listening
    (network : Request → State → Option Response × State)
    (request : Request)
    (heard : State × List Request) : Option Response × State × List Request :=
  let (response, after) := network request heard.1
  (response, after, heard.2 ++ [request])

/-- Whatever the network, every run over it is a course of the exchange. -/
theorem run_listening
    (network : Request → State → Option Response × State)
    (exchange : Exchange α)
    (state : State)
    (heard : List Request) :
    ∃ responses after,
      exchange.run (listening network) (state, heard) =
        ((exchange.course responses).2, after,
          heard ++ (exchange.course responses).1) := by
  induction exchange generalizing state heard with
  | finish result =>
      exact ⟨[], state, by simp [run, course]⟩
  | send request next inductionHypothesis =>
      obtain ⟨responses, after, ran⟩ :=
        inductionHypothesis (network request state).1
          (network request state).2 (heard ++ [request])
      refine ⟨(network request state).1 :: responses, after, ?_⟩
      simp [run, listening, course, ran]

/-- A network that gives one response after another, whatever is asked. -/
def replaying
    (_ : Request)
    (responses : List (Option Response)) :
    Option Response × List (Option Response) :=
  (responses.head?.join, responses.tail)

/-- Every course of an exchange is a run, over a network that gives these responses. -/
theorem run_replaying
    (exchange : Exchange α)
    (responses : List (Option Response)) :
    exchange.run replaying responses =
      ((exchange.course responses).2,
        responses.drop (exchange.course responses).1.length) := by
  induction exchange generalizing responses with
  | finish result =>
      rfl
  | send request next inductionHypothesis =>
      simp [run, replaying, course, inductionHypothesis]

/-! ## Exchanges that go on alike -/

/-- Exchanges that send similar requests and end with one result, whatever is answered. -/
inductive Alike
    (similar : Request → Request → Prop) : Exchange α → Exchange α → Prop where
  | finish
      (result : α) :
      Alike similar (.finish result) (.finish result)
  | send
      {request twin : Request}
      {next nextOfTwin : Option Response → Exchange α} :
      similar request twin →
      (∀ response, Alike similar (next response) (nextOfTwin response)) →
      Alike similar (.send request next) (.send twin nextOfTwin)

namespace Alike

/-- Exchanges that are alike go on alike. -/
theorem bind
    {first twin : Exchange α}
    {next nextOfTwin : α → Exchange β}
    (alike : Alike similar first twin)
    (onward :
      ∀ result, Alike similar (next result) (nextOfTwin result)) :
    Alike similar (first >>= next) (twin >>= nextOfTwin) := by
  induction alike with
  | finish result =>
      exact onward result
  | send same _ inductionHypothesis =>
      exact .send same inductionHypothesis

/-- Exchanges that are alike go on alike after a success. -/
theorem onSuccess
    {first twin : Exchange (Except ε α)}
    {next nextOfTwin : α → Exchange (Except ε β)}
    (alike : Alike similar first twin)
    (onward : ∀ value, Alike similar (next value) (nextOfTwin value)) :
    Alike similar (first.onSuccess next) (twin.onSuccess nextOfTwin) := by
  refine alike.bind ?_
  intro result
  cases result with
  | error failure =>
      exact .finish _
  | ok value =>
      exact onward value

/-- Requests to one address are answered alike, whether or not they can be built. -/
theorem response
    {built : Except Flaw Request}
    {first second : Request → Request}
    (same :
      ∀ request,
        built = .ok request →
        similar (first request) (second request) ∧
          (first request).url = (second request).url) :
    Alike similar (.response (built.map first))
      (.response (built.map second)) := by
  cases built with
  | error flaw =>
      exact .finish _
  | ok request =>
      obtain ⟨similarNow, sameAddress⟩ := same request rfl
      refine .send similarNow ?_
      intro answer
      rw [sameAddress]
      exact .finish _

/-- Exchanges that go on alike take courses that are alike. -/
theorem course
    {exchange twin : Exchange α}
    (alike : Alike similar exchange twin)
    (responses : List (Option Response)) :
    List.Forall₂ similar (exchange.course responses).1
        (twin.course responses).1 ∧
      (exchange.course responses).2 = (twin.course responses).2 := by
  induction alike generalizing responses with
  | finish result =>
      exact ⟨.nil, rfl⟩
  | send same _ inductionHypothesis =>
      obtain ⟨later, result⟩ :=
        inductionHypothesis responses.head?.join responses.tail
      exact ⟨.cons same later, result⟩

end Alike

end Exchange

end AssessmentChat.Http
