import AssessmentChat.Proofs.ExchangeCourse
import AssessmentChat.Proofs.ReplyFields
import AssessmentChat.Proofs.SentRequests

namespace AssessmentChat

/-!
# How single exchanges end

An errand that can be sent is sent once.  It comes to a response that is a success, or it
fails with what went wrong.  From this follows what asking the service comes to, and what
becomes of a workspace that is sent or of a plan that is fetched.
-/

namespace Http

variable
  {tables : Tables}
  {errand : Errand}
  {answer : Option Response}

/-- The response to an errand arrives and is a success. -/
structure Received
    (tables : Tables)
    (errand : Errand)
    (answer : Option Response)
    (response : Response) : Prop where
  sent : ∃ request, errand.Sends tables request
  arrived : answer = some response
  success : 200 ≤ response.status ∧ response.status < 300

/-- What goes wrong with an errand that gets no response, or one that is no success. -/
inductive GoesWrong
    (tables : Tables)
    (errand : Errand)
    (answer : Option Response) : String → Prop where
  | unsent
      {cause : String} :
      errand.Unsendable tables cause →
      GoesWrong tables errand answer cause
  | unanswered
      {request : Request} :
      errand.Sends tables request →
      answer = none →
      GoesWrong tables errand answer
        s!"error sending request for url ({request.url})"
  | refused
      {request : Request}
      {response : Response} :
      errand.Sends tables request →
      answer = some response →
      ¬ (200 ≤ response.status ∧ response.status < 300) →
      GoesWrong tables errand answer
        ("HTTP " ++ statusLine response.status ++ ": " ++
          (response.text? tables).getD "")

/-- The value of the body, if all of it arrived and it has one. -/
def Response.json? (response : Response) : Option Json :=
  response.content? >>= Json.ofBytes?

/-- A response is a success if its status is in the two hundreds. -/
theorem isSuccess_iff
    {response : Response} :
    response.isSuccess ↔ 200 ≤ response.status ∧ response.status < 300 := by
  simp [Response.isSuccess]

section Unbuilt

variable
  {flaw : Flaw}
  (unbuilt : errand.build tables = .error flaw)

include unbuilt

/-- An errand whose request cannot be built is not sent. -/
theorem not_sends_of_error
    (request : Request) :
    ¬ errand.Sends tables request := by
  intro sends
  rw [Errand.build_eq_ok.mpr sends] at unbuilt
  cases unbuilt

/-- An errand that cannot be sent goes wrong in one way only. -/
theorem goesWrong_iff_of_error
    {cause : String} :
    GoesWrong tables errand answer cause ↔ cause = flaw.message := by
  constructor
  · intro failed
    cases failed with
    | unsent unsendable =>
        obtain ⟨same, built, rfl⟩ := Errand.build_eq_error.mpr unsendable
        rw [unbuilt] at built
        cases built
        rfl
    | unanswered sends | refused sends =>
        exact absurd sends (not_sends_of_error unbuilt _)
  · rintro rfl
    exact .unsent (Errand.unsendable_of_build unbuilt)

end Unbuilt

section Built

variable
  {request : Request}
  (built : errand.build tables = .ok request)

include built

/-- An errand that is sent goes wrong for want of an answer, or of a success. -/
theorem goesWrong_iff_of_ok
    {cause : String} :
    GoesWrong tables errand answer cause ↔
      (answer = none ∧
          cause = s!"error sending request for url ({request.url})") ∨
        ∃ response,
          answer = some response ∧
            ¬ (200 ≤ response.status ∧ response.status < 300) ∧
            cause =
              "HTTP " ++ statusLine response.status ++ ": " ++
                (response.text? tables).getD "" := by
  have sends := Errand.build_eq_ok.mp built
  have only (other : Request) (sendsToo : errand.Sends tables other) :
      other = request :=
    Except.ok.inj ((Errand.build_eq_ok.mpr sendsToo).symm.trans built)
  constructor
  · intro failed
    cases failed with
    | unsent unsendable =>
        obtain ⟨flaw, unbuilt, -⟩ := Errand.build_eq_error.mpr unsendable
        cases unbuilt.symm.trans built
    | unanswered sendsToo unanswered =>
        cases only _ sendsToo
        exact .inl ⟨unanswered, rfl⟩
    | refused _ arrived refused =>
        exact .inr ⟨_, arrived, refused, rfl⟩
  · rintro (⟨unanswered, rfl⟩ | ⟨response, arrived, refused, rfl⟩)
    · exact .unanswered sends unanswered
    · exact .refused sends arrived refused

end Built

/-- A request that is built is sent once, and the next response is that to it. -/
theorem Exchange.course_response
    (built : Except Flaw Request)
    (responses : List (Option Response)) :
    (Exchange.response built).course responses =
      (built.toOption.toList,
        built.bind fun request =>
          responses.head?.join.elim (.error (.unsent request.url)) .ok) := by
  cases built <;> rfl

end Http

namespace ServiceClient

open Http

variable
  {client : ServiceClient}
  {call : ServiceCall}
  {tables : Tables}
  {errand : Errand}
  {responses : List (Option Response)}

/-! ## One exchange -/

/-- An errand is sent once, unless it cannot be. -/
theorem successful_requests :
    ((successful tables call (errand.build tables)).course responses).1 =
      (errand.build tables).toOption.toList := by
  rw [successful, Exchange.course_bind, Exchange.course_response]
  cases (errand.build tables).bind _ with
  | error flaw =>
      exact List.append_nil _
  | ok response =>
      dsimp only
      split <;> exact List.append_nil _

/-- An errand succeeds exactly if the response to it does. -/
theorem successful_eq_ok
    {response : Response} :
    ((successful tables call (errand.build tables)).course responses).2 =
        .ok response ↔
      Received tables errand responses.head?.join response := by
  rw [successful, Exchange.course_bind, Exchange.course_response]
  cases built : errand.build tables with
  | error flaw =>
      refine ⟨nofun, ?_⟩
      rintro ⟨⟨request, sends⟩, -, -⟩
      exact absurd sends (not_sends_of_error built request)
  | ok request =>
      cases answered : responses.head?.join with
      | none =>
          constructor
          · rintro ⟨⟩
          · rintro ⟨-, ⟨⟩, -⟩
      | some arrived =>
          dsimp only [Except.bind, Option.elim]
          split
          next success =>
            constructor
            · rintro ⟨⟩
              exact ⟨⟨request, Errand.build_eq_ok.mp built⟩, rfl,
                isSuccess_iff.mp success⟩
            · rintro ⟨-, ⟨⟩, -⟩
              rfl
          next refused =>
            refine ⟨nofun, ?_⟩
            rintro ⟨-, ⟨⟩, success⟩
            exact absurd (isSuccess_iff.mpr success) refused

/-- An errand fails exactly if it goes wrong, and with what went wrong. -/
theorem successful_eq_error
    {fault : Fault} :
    ((successful tables call (errand.build tables)).course responses).2 =
        .error fault ↔
      ∃ cause,
        GoesWrong tables errand responses.head?.join cause ∧
          fault = .remoteCall call.endpoint cause := by
  rw [successful, Exchange.course_bind, Exchange.course_response]
  cases built : errand.build tables with
  | error flaw =>
      simp only [goesWrong_iff_of_error built, exists_eq_left]
      exact ⟨fun failed => (Except.error.inj failed).symm,
        fun failed => congrArg Except.error failed.symm⟩
  | ok request =>
      simp only [goesWrong_iff_of_ok built]
      cases answered : responses.head?.join with
      | none =>
          constructor
          · rintro ⟨⟩
            exact ⟨_, .inl ⟨rfl, rfl⟩, rfl⟩
          · rintro ⟨_, ⟨-, rfl⟩ | ⟨_, ⟨⟩, _⟩, rfl⟩
            rfl
      | some arrived =>
          dsimp only [Except.bind, Option.elim]
          split
          next success =>
            refine ⟨nofun, ?_⟩
            rintro ⟨_, ⟨⟨⟩, _⟩ | ⟨_, ⟨⟩, refused, -⟩, -⟩
            exact absurd (isSuccess_iff.mp success) refused
          next refused =>
            rw [isSuccess_iff] at refused
            constructor
            · rintro ⟨⟩
              exact ⟨_, .inr ⟨_, rfl, refused, rfl⟩, rfl⟩
            · rintro ⟨_, ⟨⟨⟩, _⟩ | ⟨_, ⟨⟩, _, rfl⟩, rfl⟩
              rfl

/-! ## Asking the service -/

/-- What the body of a request for an operation holds. -/
def asked
    (client : ServiceClient)
    (call : ServiceCall) : List (String × Json) :=
  call.parameters.map (fun (name, value) => (name, .text value)) ++
    [("clientMetadata",
      .record
        [("clientName", .text client.description.name),
          ("clientVersion", .text client.description.version)])]

/-- What is to be asked of the service for an operation. -/
def asking (client : ServiceClient) (call : ServiceCall) : Errand where
  method := .post
  address := client.endpoint ++ "/" ++ call.endpoint
  token := (client.identity.bind Identity.token).or client.configuredToken
  contentType := some "application/json"
  body := (Json.record (client.asked call)).compact.toUTF8

/-- The token of the identity comes before that of the settings. -/
theorem token_eq
    (client : ServiceClient) :
    client.token =
      (client.identity.bind Identity.token).or client.configuredToken := by
  rw [token]
  cases client.identity.bind Identity.token <;> rfl

/-- The request for an operation is built as it is to be asked for. -/
theorem request_eq
    (client : ServiceClient)
    (call : ServiceCall) :
    client.request call = (client.asking call).build client.tables := by
  rw [request, token_eq]
  rfl

/-- The body of the response to an operation is a value. -/
def Hears
    (client : ServiceClient)
    (call : ServiceCall)
    (answer : Option Response)
    (json : Json) : Prop :=
  ∃ response,
    Received client.tables (client.asking call) answer response ∧
      response.json? = some json

/-- What goes wrong when the service is asked for an operation. -/
inductive AskingFails
    (client : ServiceClient)
    (call : ServiceCall)
    (answer : Option Response) : Fault → Prop where
  | unheard
      {cause : String} :
      GoesWrong client.tables (client.asking call) answer cause →
      AskingFails client call answer (.remoteCall call.endpoint cause)
  | misunderstood
      {response : Response} :
      Received client.tables (client.asking call) answer response →
      (∀ json,
        response.json? = some json →
        (∀ reply, ¬ call.Tells json reply) ∧
          ∀ address, ¬ call.HandsOut json address) →
      AskingFails client call answer
        (.remoteCall call.endpoint
          "malformed response: error decoding response body")

/-- The service has handed out an address for the second step of an operation. -/
def HandsOut
    (client : ServiceClient)
    (call : ServiceCall)
    (answer : Option Response)
    (address : String) : Prop :=
  ∃ json, client.Hears call answer json ∧ call.HandsOut json address

section Asking

variable
  {read : Json → Option α}

/-- The service is asked once, unless that cannot be sent. -/
theorem invoke_requests
    (client : ServiceClient)
    (call : ServiceCall)
    (read : Json → Option α)
    (responses : List (Option Response)) :
    ((client.invoke call read).course responses).1 =
      ((client.asking call).build client.tables).toOption.toList := by
  rw [invoke, request_eq]
  exact (Exchange.requests_onSuccess _ _ _).trans successful_requests

/-- The service has answered with a value exactly if one can be read from what is heard. -/
theorem invoke_eq_ok
    {value : α} :
    ((client.invoke call read).course responses).2 = .ok value ↔
      ∃ json,
        client.Hears call responses.head?.join json ∧
          read json = some value := by
  rw [invoke, request_eq, Exchange.onSuccess_eq_ok]
  simp only [successful_eq_ok]
  constructor
  · rintro ⟨response, received, result⟩
    cases told : response.content? >>= Json.ofBytes? >>= read with
    | none =>
        rw [told] at result
        cases result
    | some same =>
        rw [told] at result
        cases result
        obtain ⟨json, found, means⟩ := Option.bind_eq_some_iff.mp told
        exact ⟨json, ⟨response, received, found⟩, means⟩
  · rintro ⟨json, ⟨response, received, found⟩, means⟩
    have told :
        response.content? >>= Json.ofBytes? >>= read = some value :=
      Option.bind_eq_some_iff.mpr ⟨json, found, means⟩
    refine ⟨response, received, ?_⟩
    rw [told]
    rfl

/-- Asking fails exactly if nothing is heard, or nothing that the operation needs. -/
theorem invoke_eq_error_iff
    (reads :
      ∀ json,
        read json = none ↔
          (∀ reply, ¬ call.Tells json reply) ∧
            ∀ address, ¬ call.HandsOut json address)
    {fault : Fault} :
    ((client.invoke call read).course responses).2 = .error fault ↔
      client.AskingFails call responses.head?.join fault := by
  rw [invoke, request_eq, Exchange.onSuccess_eq_error]
  simp only [successful_eq_ok, successful_eq_error]
  constructor
  · rintro (⟨cause, failed, rfl⟩ | ⟨response, received, result⟩)
    · exact .unheard failed
    · cases told : response.content? >>= Json.ofBytes? >>= read with
      | some value =>
          rw [told] at result
          cases result
      | none =>
          rw [told] at result
          cases result
          refine .misunderstood received ?_
          intro json found
          exact (reads json).mp (Option.bind_eq_none_iff.mp told json found)
  · intro fails
    cases fails with
    | unheard failed =>
        exact .inl ⟨_, failed, rfl⟩
    | @misunderstood response received nothing =>
        have told :
            response.content? >>= Json.ofBytes? >>= read = none :=
          Option.bind_eq_none_iff.mpr fun json found =>
            (reads json).mpr (nothing json found)
        refine .inr ⟨_, received, ?_⟩
        rw [told]
        rfl

end Asking

/-! ## Sending a workspace, fetching a plan -/

/-- What is to be asked of the address that a workspace is sent to. -/
def sending (address : String) (content : ByteArray) : Errand where
  method := .put
  address
  contentType := some "application/octet-stream"
  body := content

/-- What is to be asked of the address that a plan is fetched from. -/
def fetching (address : String) : Errand where
  method := .get
  address

theorem putting_eq
    (address : String)
    (content : ByteArray) :
    putting tables address content = (sending address content).build tables :=
  rfl

theorem getting_eq
    (address : String) :
    getting tables address = (fetching address).build tables :=
  rfl

variable
  {package : Except Fault ByteArray}

/-- A workspace is sent exactly if it could be packed and the response is a success. -/
theorem deliver_eq_ok
    {address : String}
    {reply : Unit} :
    ((deliver tables call package address).course responses).2 = .ok reply ↔
      ∃ content response,
        package = .ok content ∧
          Received tables (sending address content) responses.head?.join
            response := by
  cases package with
  | error fault =>
      exact ⟨nofun, nofun⟩
  | ok content =>
      rw [deliver, putting_eq, Exchange.onSuccess_eq_ok]
      simp only [successful_eq_ok]
      constructor
      · rintro ⟨response, received, -⟩
        exact ⟨content, response, rfl, received⟩
      · rintro ⟨_, response, ⟨⟩, received⟩
        exact ⟨response, received, rfl⟩

/-- Sending a workspace fails with the fault of packing it, or as the exchange does. -/
theorem deliver_eq_error
    {address : String}
    {fault : Fault} :
    ((deliver tables call package address).course responses).2 = .error fault ↔
      package = .error fault ∨
        ∃ content cause,
          package = .ok content ∧
            GoesWrong tables (sending address content) responses.head?.join
              cause ∧
            fault = .remoteCall call.endpoint cause := by
  cases package with
  | error cause =>
      constructor
      · rintro ⟨⟩
        exact .inl rfl
      · rintro (⟨⟨⟩⟩ | ⟨_, _, ⟨⟩, _⟩)
        rfl
  | ok content =>
      rw [deliver, putting_eq, Exchange.onSuccess_eq_error]
      simp only [successful_eq_ok, successful_eq_error]
      constructor
      · rintro (⟨cause, failed, rfl⟩ | ⟨_, _, ⟨⟩⟩)
        exact .inr ⟨content, cause, rfl, failed, rfl⟩
      · rintro (⟨⟨⟩⟩ | ⟨_, cause, ⟨⟩, failed, rfl⟩)
        exact .inl ⟨cause, failed, rfl⟩

/-- A workspace is sent by one request at most. -/
theorem deliver_requests
    (address : String) :
    ((deliver tables call package address).course responses).1 =
      (package.toOption.bind fun content =>
        ((sending address content).build tables).toOption).toList := by
  cases package with
  | error fault =>
      rfl
  | ok content =>
      rw [deliver, putting_eq]
      exact (Exchange.requests_onSuccess _ _ _).trans successful_requests

/-- A plan is fetched exactly if the response is a success and has a text. -/
theorem fetch_eq_ok
    {address content : String} :
    ((fetch tables call address).course responses).2 = .ok content ↔
      ∃ response,
        Received tables (fetching address) responses.head?.join response ∧
          response.text? tables = some content := by
  rw [fetch, getting_eq, Exchange.onSuccess_eq_ok]
  simp only [successful_eq_ok]
  refine exists_congr fun response => and_congr_right fun _ => ?_
  cases text : response.text? tables with
  | none =>
      exact ⟨nofun, nofun⟩
  | some arrived =>
      constructor <;> rintro ⟨⟩ <;> rfl

/-- Fetching a plan fails as the exchange does, or for want of a text. -/
theorem fetch_eq_error
    {address : String}
    {fault : Fault} :
    ((fetch tables call address).course responses).2 = .error fault ↔
      (∃ cause,
        GoesWrong tables (fetching address) responses.head?.join cause ∧
          fault = .remoteCall call.endpoint cause) ∨
        ∃ response,
          Received tables (fetching address) responses.head?.join response ∧
            response.text? tables = none ∧
            fault =
              .remoteCall call.endpoint "error decoding response body" := by
  rw [fetch, getting_eq, Exchange.onSuccess_eq_error]
  simp only [successful_eq_ok, successful_eq_error]
  refine or_congr_right
    (exists_congr fun response => and_congr_right fun _ => ?_)
  cases text : response.text? tables with
  | none =>
      constructor
      · rintro ⟨⟩
        exact ⟨rfl, rfl⟩
      · rintro ⟨-, rfl⟩
        rfl
  | some arrived =>
      exact ⟨nofun, nofun⟩

/-- A plan is fetched by one request at most. -/
theorem fetch_requests
    (address : String) :
    ((fetch tables call address).course responses).1 =
      ((fetching address).build tables).toOption.toList := by
  rw [fetch, getting_eq]
  exact (Exchange.requests_onSuccess _ _ _).trans successful_requests

/-! ## Going on from an address -/

/-- When an address is handed out, the first response has been taken. -/
theorem HandsOut.drop_eq_tail
    {address : String}
    (handsOut : client.HandsOut call responses.head?.join address)
    (read : Json → Option α) :
    responses.drop ((client.invoke call read).course responses).1.length =
      responses.tail := by
  obtain ⟨json, ⟨response, ⟨⟨request, sends⟩, -, -⟩, -⟩, -⟩ := handsOut
  rw [invoke_requests, Errand.build_eq_ok.mpr sends]
  exact List.drop_one

section TwoSteps

variable
  {read : Json → Option String}
  (hands :
    ∀ json address,
      read json = some address ↔ call.HandsOut json address)

include hands

/-- An address is read exactly if the service has handed it out. -/
theorem handsOut_iff
    {address : String} :
    ((client.invoke call read).course responses).2 = .ok address ↔
      client.HandsOut call responses.head?.join address := by
  rw [invoke_eq_ok]
  simp only [HandsOut, hands]

variable
  (next : String → Exchange (Except Fault β))

/-- The second step goes on from the address, with the responses that are left. -/
theorem twoSteps_eq_ok
    {result : β} :
    (((client.invoke call read).onSuccess next).course responses).2 =
        .ok result ↔
      ∃ address,
        client.HandsOut call responses.head?.join address ∧
          ((next address).course responses.tail).2 = .ok result := by
  rw [Exchange.onSuccess_eq_ok]
  refine exists_congr fun address => ?_
  rw [handsOut_iff hands]
  refine and_congr_right fun handsOut => ?_
  rw [handsOut.drop_eq_tail]

/-- Two steps fail as the first one does, or as the second one from the address. -/
theorem twoSteps_eq_error
    (tellsNothing : ∀ json reply, ¬ call.Tells json reply)
    {fault : Fault} :
    (((client.invoke call read).onSuccess next).course responses).2 =
        .error fault ↔
      client.AskingFails call responses.head?.join fault ∨
        ∃ address,
          client.HandsOut call responses.head?.join address ∧
            ((next address).course responses.tail).2 = .error fault := by
  have unread (json : Json) :
      read json = none ↔
        (∀ reply, ¬ call.Tells json reply) ∧
          ∀ address, ¬ call.HandsOut json address := by
    rw [Option.eq_none_iff_forall_ne_some]
    simp [hands, tellsNothing]
  rw [Exchange.onSuccess_eq_error, invoke_eq_error_iff unread]
  refine or_congr_right (exists_congr fun address => ?_)
  rw [handsOut_iff hands]
  refine and_congr_right fun handsOut => ?_
  rw [handsOut.drop_eq_tail]

/-- A second step that sends one request at most adds that one. -/
theorem twoSteps_requests
    (client : ServiceClient)
    (responses : List (Option Response))
    {second : String → Option Http.Request}
    (sends :
      ∀ address,
        ((next address).course responses.tail).1 =
          (second address).toList) :
    ∃ onward : Option Http.Request,
      (((client.invoke call read).onSuccess next).course responses).1 =
          ((client.asking call).build client.tables).toOption.toList ++ onward.toList ∧
        ∀ request,
          onward = some request ↔
            ∃ address,
              client.HandsOut call responses.head?.join address ∧
                second address = some request := by
  simp only [← handsOut_iff hands]
  rw [Exchange.course_onSuccess, invoke_requests]
  cases result : ((client.invoke call read).course responses).2 with
  | error fault =>
      exact ⟨none, (List.append_nil _).symm, by simp⟩
  | ok address =>
      have left :=
        ((handsOut_iff hands).mp result).drop_eq_tail read
      rw [invoke_requests] at left
      refine ⟨second address, ?_, by simp⟩
      dsimp only
      rw [left, sends]

end TwoSteps

end ServiceClient

end AssessmentChat
