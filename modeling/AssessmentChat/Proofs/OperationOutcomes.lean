import AssessmentChat.Proofs.BodyTexts
import AssessmentChat.Proofs.SingleExchanges
import AssessmentChat.Proofs.WireForms
import Mathlib.Data.List.DropRight

namespace AssessmentChat

/-!
# How operations end

An operation asks the service once, and two of them go on at an address that is handed
out.  It succeeds if every response on its way is a success and says what is needed.
Otherwise it fails as a call of that operation, with what went wrong, unless it is the
workspace that could not be read.
-/

namespace ServiceClient

open Http

variable
  {client : ServiceClient}
  {call : ServiceCall}
  {package : Except Fault ByteArray}
  {responses : List (Option Response)}

/-! ## Whole operations -/

/-- How an operation succeeds: every response on its way is a success and says enough. -/
inductive Succeeds
    (client : ServiceClient)
    (package : Except Fault ByteArray)
    (responses : List (Option Response)) :
    (call : ServiceCall) → call.Reply → Prop where
  | told
      {call : ServiceCall}
      {json : Json}
      {reply : call.Reply} :
      client.Hears call responses.head?.join json →
      call.Tells json reply →
      Succeeds client package responses call reply
  | uploaded
      {engagementId : EngagementId}
      {address : String}
      {content : ByteArray}
      {response : Response} :
      client.HandsOut (.uploadWorkspace engagementId)
        responses.head?.join address →
      package = .ok content →
      Received client.tables (sending address content)
        responses.tail.head?.join response →
      Succeeds client package responses (.uploadWorkspace engagementId) ()
  | fetched
      {engagementId : EngagementId}
      {assessmentId : AssessmentId}
      {address content : String}
      {response : Response} :
      client.HandsOut (.downloadPlan engagementId assessmentId)
        responses.head?.join address →
      Received client.tables (fetching address) responses.tail.head?.join
        response →
      response.text? client.tables = some content →
      Succeeds client package responses
        (.downloadPlan engagementId assessmentId) content

/-- How an operation fails, and with what. -/
inductive Fails
    (client : ServiceClient)
    (package : Except Fault ByteArray)
    (responses : List (Option Response)) :
    ServiceCall → Fault → Prop where
  | asking
      {call : ServiceCall}
      {fault : Fault} :
      client.AskingFails call responses.head?.join fault →
      Fails client package responses call fault
  | unpacked
      {engagementId : EngagementId}
      {address : String}
      {fault : Fault} :
      client.HandsOut (.uploadWorkspace engagementId)
        responses.head?.join address →
      package = .error fault →
      Fails client package responses (.uploadWorkspace engagementId) fault
  | undelivered
      {engagementId : EngagementId}
      {address cause : String}
      {content : ByteArray} :
      client.HandsOut (.uploadWorkspace engagementId)
        responses.head?.join address →
      package = .ok content →
      GoesWrong client.tables (sending address content)
        responses.tail.head?.join cause →
      Fails client package responses (.uploadWorkspace engagementId)
        (.remoteCall "CreateUploadUrl" cause)
  | unfetched
      {engagementId : EngagementId}
      {assessmentId : AssessmentId}
      {address cause : String} :
      client.HandsOut (.downloadPlan engagementId assessmentId)
        responses.head?.join address →
      GoesWrong client.tables (fetching address) responses.tail.head?.join
        cause →
      Fails client package responses
        (.downloadPlan engagementId assessmentId)
        (.remoteCall "CreateDownloadUrl" cause)
  | cutShort
      {engagementId : EngagementId}
      {assessmentId : AssessmentId}
      {address : String}
      {response : Response} :
      client.HandsOut (.downloadPlan engagementId assessmentId)
        responses.head?.join address →
      Received client.tables (fetching address) responses.tail.head?.join
        response →
      response.text? client.tables = none →
      Fails client package responses
        (.downloadPlan engagementId assessmentId)
        (.remoteCall "CreateDownloadUrl" "error decoding response body")

/-- An operation ends with what it succeeds with, or else with what it fails with. -/
structure EndsAsAnswered
    (client : ServiceClient)
    (package : Except Fault ByteArray)
    (responses : List (Option Response))
    (call : ServiceCall)
    (result : Except Fault call.Reply) : Prop where
  ok :
    ∀ reply,
      result = .ok reply ↔ client.Succeeds package responses call reply
  error :
    ∀ fault,
      result = .error fault ↔ client.Fails package responses call fault

/-! ## Operations of one step -/

/-- An operation of one step ends as the answer of the service says. -/
theorem oneStep_ends
    {read : Json → Option call.Reply}
    (reads : ∀ json reply, read json = some reply ↔ call.Tells json reply)
    (handsNothing : ∀ json address, ¬ call.HandsOut json address) :
    client.EndsAsAnswered package responses call
      ((client.invoke call read).course responses).2 := by
  have unread (json : Json) :
      read json = none ↔
        (∀ reply, ¬ call.Tells json reply) ∧
          ∀ address, ¬ call.HandsOut json address := by
    rw [Option.eq_none_iff_forall_ne_some]
    simp [reads, handsNothing]
  constructor
  · intro reply
    rw [invoke_eq_ok]
    constructor
    · rintro ⟨json, hears, means⟩
      exact .told hears ((reads json reply).mp means)
    · intro succeeds
      cases succeeds with
      | told hears tells =>
          exact ⟨_, hears, (reads _ reply).mpr tells⟩
      | uploaded handsOut | fetched handsOut =>
          obtain ⟨json, -, handed⟩ := handsOut
          exact absurd handed (handsNothing json _)
  · intro fault
    rw [invoke_eq_error_iff unread]
    constructor
    · exact .asking
    · intro fails
      cases fails with
      | asking fails =>
          exact fails
      | unpacked handsOut | undelivered handsOut | unfetched handsOut
      | cutShort handsOut =>
          obtain ⟨json, -, handed⟩ := handsOut
          exact absurd handed (handsNothing json _)

/-! ## Operations of two steps -/

/-- A workspace is sent, or not, as the two responses on its way say. -/
theorem upload_ends
    (engagementId : EngagementId) :
    client.EndsAsAnswered package responses (.uploadWorkspace engagementId)
      ((client.upload package engagementId).course responses).2 := by
  have hands (json : Json) (address : String) :=
    @ServiceCall.handsOut_uploadAddress json address engagementId
  have tellsNothing (json : Json) (reply : Unit) :
      ¬ ServiceCall.Tells json (.uploadWorkspace engagementId) reply :=
    not_false
  constructor
  · intro reply
    rw [upload, twoSteps_eq_ok hands]
    simp only [deliver_eq_ok]
    constructor
    · rintro ⟨address, handsOut, content, response, packed, received⟩
      exact .uploaded handsOut packed received
    · intro succeeds
      cases succeeds with
      | told _ tells =>
          exact absurd tells (tellsNothing _ _)
      | uploaded handsOut packed received =>
          exact ⟨_, handsOut, _, _, packed, received⟩
  · intro fault
    rw [upload, twoSteps_eq_error hands _ tellsNothing]
    simp only [deliver_eq_error]
    constructor
    · rintro (fails | ⟨address, handsOut, unpacked |
        ⟨content, cause, packed, failed, rfl⟩⟩)
      · exact .asking fails
      · exact .unpacked handsOut unpacked
      · exact .undelivered handsOut packed failed
    · intro fails
      cases fails with
      | asking fails =>
          exact .inl fails
      | unpacked handsOut unpacked =>
          exact .inr ⟨_, handsOut, .inl unpacked⟩
      | undelivered handsOut packed failed =>
          exact .inr ⟨_, handsOut, .inr ⟨_, _, packed, failed, rfl⟩⟩

/-- A plan is fetched, or not, as the two responses on its way say. -/
theorem download_ends
    (engagementId : EngagementId)
    (assessmentId : AssessmentId) :
    client.EndsAsAnswered package responses
      (.downloadPlan engagementId assessmentId)
      ((client.download engagementId assessmentId).course responses).2 := by
  have hands (json : Json) (address : String) :=
    @ServiceCall.handsOut_downloadAddress json address engagementId
      assessmentId
  have tellsNothing (json : Json) (reply : String) :
      ¬ ServiceCall.Tells json (.downloadPlan engagementId assessmentId)
        reply :=
    not_false
  constructor
  · intro reply
    rw [download, twoSteps_eq_ok hands]
    simp only [fetch_eq_ok]
    constructor
    · rintro ⟨address, handsOut, response, received, text⟩
      exact .fetched handsOut received text
    · intro succeeds
      cases succeeds with
      | told _ tells =>
          exact absurd tells (tellsNothing _ _)
      | fetched handsOut received text =>
          exact ⟨_, handsOut, _, received, text⟩
  · intro fault
    rw [download, twoSteps_eq_error hands _ tellsNothing]
    simp only [fetch_eq_error]
    constructor
    · rintro (fails | ⟨address, handsOut, ⟨cause, failed, rfl⟩ |
        ⟨response, received, cutShort, rfl⟩⟩)
      · exact .asking fails
      · exact .unfetched handsOut failed
      · exact .cutShort handsOut received cutShort
    · intro fails
      cases fails with
      | asking fails =>
          exact .inl fails
      | unfetched handsOut failed =>
          exact .inr ⟨_, handsOut, .inl ⟨_, failed, rfl⟩⟩
      | cutShort handsOut received cutShort =>
          exact .inr ⟨_, handsOut, .inr ⟨_, received, cutShort, rfl⟩⟩

/-! ## Every operation -/

/-- How an operation ends, whatever is answered. -/
theorem perform_ends
    (client : ServiceClient)
    (package : Except Fault ByteArray)
    (call : ServiceCall)
    (responses : List (Option Response)) :
    client.EndsAsAnswered package responses call
      ((client.perform package call).course responses).2 := by
  cases call with
  | createEngagement =>
      exact oneStep_ends (fun _ _ => ServiceCall.tells_engagement)
        fun _ _ => not_false
  | uploadWorkspace engagementId =>
      exact upload_ends engagementId
  | startAssessment engagementId input =>
      exact oneStep_ends (fun _ _ => ServiceCall.tells_startedAssessment)
        fun _ _ => not_false
  | updateAssessment engagementId assessmentId input =>
      exact oneStep_ends (fun _ _ => ServiceCall.tells_jobStatus)
        fun _ _ => not_false
  | stopAssessment engagementId assessmentId =>
      exact oneStep_ends (fun _ _ => ServiceCall.tells_jobStatus)
        fun _ _ => not_false
  | assessmentStatus engagementId assessmentId =>
      exact oneStep_ends (fun _ _ => ServiceCall.tells_assessmentReport)
        fun _ _ => not_false
  | downloadPlan engagementId assessmentId =>
      exact download_ends engagementId assessmentId
  | startInteraction engagementId input =>
      exact oneStep_ends (fun _ _ => ServiceCall.tells_startedInteraction)
        fun _ _ => not_false
  | interactionStatus engagementId interactionId =>
      exact oneStep_ends (fun _ _ => ServiceCall.tells_interactionReport)
        fun _ _ => not_false
  | deriveIntent engagementId input =>
      exact oneStep_ends (fun _ _ => ServiceCall.tells_intent)
        fun _ _ => not_false

/-- Only a workspace that could not be read fails otherwise than as a call. -/
theorem Fails.remoteCall_or
    {fault : Fault}
    (fails : client.Fails package responses call fault) :
    (∃ cause, fault = .remoteCall call.endpoint cause) ∨
      package = .error fault := by
  cases fails with
  | asking fails =>
      cases fails <;> exact .inl ⟨_, rfl⟩
  | unpacked _ unpacked =>
      exact .inr unpacked
  | undelivered | unfetched | cutShort =>
      exact .inl ⟨_, rfl⟩

/-- An operation that is refused fails with the status and the text of the response. -/
theorem Fails.of_refused
    {request : Http.Request}
    {response : Response}
    {text : String}
    (sends : (client.asking call).Sends client.tables request)
    (answered : responses.head?.join = some response)
    (refused : ¬ (200 ≤ response.status ∧ response.status < 300))
    (spells : response.Spells client.tables text) :
    client.Fails package responses call
      (.remoteCall call.endpoint
        ("HTTP " ++ statusLine response.status ++ ": " ++ text)) := by
  have failed := GoesWrong.refused sends answered refused
  rw [spells.text?_eq] at failed
  exact .asking (.unheard failed)

/-- A plan is fetched as the text of the response from where it is. -/
theorem Succeeds.of_spells
    {engagementId : EngagementId}
    {assessmentId : AssessmentId}
    {address text : String}
    {response : Response}
    (handsOut :
      client.HandsOut (.downloadPlan engagementId assessmentId)
        responses.head?.join address)
    (received :
      Received client.tables (fetching address) responses.tail.head?.join
        response)
    (spells : response.Spells client.tables text) :
    client.Succeeds package responses
      (.downloadPlan engagementId assessmentId) text :=
  .fetched handsOut received spells.text?_eq

/-! ## What is sent -/

/-- The request that an operation sends on to an address that is handed out. -/
inductive GoesOn
    (client : ServiceClient)
    (package : Except Fault ByteArray)
    (answer : Option Response) : ServiceCall → Http.Request → Prop where
  | put
      {engagementId : EngagementId}
      {address : String}
      {content : ByteArray}
      {request : Http.Request} :
      client.HandsOut (.uploadWorkspace engagementId) answer address →
      package = .ok content →
      (sending address content).Sends client.tables request →
      GoesOn client package answer (.uploadWorkspace engagementId) request
  | get
      {engagementId : EngagementId}
      {assessmentId : AssessmentId}
      {address : String}
      {request : Http.Request} :
      client.HandsOut (.downloadPlan engagementId assessmentId) answer
        address →
      (fetching address).Sends client.tables request →
      GoesOn client package answer (.downloadPlan engagementId assessmentId)
        request

theorem toOption_eq_some
    {built : Except ε α}
    {value : α} :
    built.toOption = some value ↔ built = .ok value := by
  cases built <;> simp [Except.toOption]

/-- A request for the operation at most, and then one that goes on from it at most. -/
theorem perform_requests
    (client : ServiceClient)
    (package : Except Fault ByteArray)
    (call : ServiceCall)
    (responses : List (Option Response)) :
    ∃ onward : Option Http.Request,
      ((client.perform package call).course responses).1 =
          ((client.asking call).build client.tables).toOption.toList ++
            onward.toList ∧
        ∀ request,
          onward = some request ↔
            client.GoesOn package responses.head?.join call request := by
  cases call
  case uploadWorkspace engagementId =>
    have hands (json : Json) (address : String) :=
      @ServiceCall.handsOut_uploadAddress json address engagementId
    obtain ⟨onward, sent, goesOn⟩ :=
      twoSteps_requests hands (deliver _ _ package) client responses
        deliver_requests
    refine ⟨onward, sent, fun request => (goesOn request).trans ?_⟩
    simp only [Option.bind_eq_some_iff, toOption_eq_some,
      Errand.build_eq_ok]
    constructor
    · rintro ⟨address, handsOut, content, packed, sends⟩
      exact .put handsOut packed sends
    · intro goesOn
      cases goesOn with
      | put handsOut packed sends =>
          exact ⟨_, handsOut, _, packed, sends⟩
  case downloadPlan engagementId assessmentId =>
    have hands (json : Json) (address : String) :=
      @ServiceCall.handsOut_downloadAddress json address engagementId
        assessmentId
    obtain ⟨onward, sent, goesOn⟩ :=
      twoSteps_requests hands (fetch _ _) client responses fetch_requests
    refine ⟨onward, sent, fun request => (goesOn request).trans ?_⟩
    simp only [toOption_eq_some, Errand.build_eq_ok]
    constructor
    · rintro ⟨address, handsOut, sends⟩
      exact .get handsOut sends
    · intro goesOn
      cases goesOn with
      | get handsOut sends =>
          exact ⟨_, handsOut, sends⟩
  all_goals
    refine ⟨none, ?_, fun request => ⟨nofun, nofun⟩⟩
    exact (invoke_requests _ _ _ _).trans (List.append_nil _).symm

/-- A request that asks the service for an operation. -/
structure Asks
    (client : ServiceClient)
    (call : ServiceCall)
    (request : Http.Request) : Prop where
  posted : request.method = .post
  toOperation :
    ∃ address,
      Url.parse? client.tables.internationalName?
            (client.endpoint ++ "/" ++ call.endpoint) =
          some address ∧
        request.url = address.text
  asJson : request.contentType = some "application/json"
  holds : Json.ofBytes? request.body = some (.record (client.asked call))
  distinct : ((client.asked call).map Prod.fst).Nodup

/-- What is asked is made of texts in records, two levels deep. -/
theorem isPlain_asked
    (client : ServiceClient)
    (call : ServiceCall) :
    Json.IsPlain False 2 (.record (client.asked call)) := by
  refine .record ?_
  intro field among
  rcases List.mem_append.mp among with parameter | description
  · obtain ⟨_, -, rfl⟩ := List.mem_map.mp parameter
    exact .text _
  · obtain rfl := List.mem_singleton.mp description
    refine .record ?_
    intro field among
    rcases List.mem_pair.mp among with rfl | rfl
    · exact .text _
    · exact .text _

/-- The request for an operation can be read as what is asked. -/
theorem asks_of_sends
    {request : Http.Request}
    (sends : (client.asking call).Sends client.tables request) :
    client.Asks call request := by
  obtain ⟨address, leads, -, -, rfl⟩ := sends
  have holds :
      Json.ofBytes? (Json.record (client.asked call)).compact.toUTF8 =
        some (.record (client.asked call)) := by
    rw [Json.ofBytes?_toUTF8]
    exact Json.parse?_compact (client.isPlain_asked call).isSound
  have distinct : ((client.asked call).map Prod.fst).Nodup := by
    cases call <;> simp [asked, ServiceCall.parameters]
  exact ⟨rfl, ⟨address, leads, rfl⟩, rfl, holds, distinct⟩

end ServiceClient

/-! ## The endpoint -/

/-- A text is a trimmed one and then slashes, of which none is left in the trimmed one. -/
structure TrimsSlashes (text trimmed : String) : Prop where
  slashes : ∃ count, text.toList = trimmed.toList ++ .replicate count '/'
  noneLeft : trimmed.toList.getLast? ≠ some '/'

/-- A text without its final slashes is trimmed. -/
theorem trimsSlashes_withoutFinalSlashes
    (text : String) :
    TrimsSlashes text (withoutFinalSlashes text) := by
  have kept :
      (withoutFinalSlashes text).toList =
        text.toList.rdropWhile (· = '/') :=
    String.toList_ofList
  constructor
  · obtain ⟨count, areSlashes⟩ :
        ∃ count,
          text.toList.rtakeWhile (· = '/') = .replicate count '/' := by
      refine ⟨_, List.eq_replicate_of_mem fun letter among => ?_⟩
      simpa using List.mem_rtakeWhile_imp among
    refine ⟨count, ?_⟩
    rw [kept, ← areSlashes]
    exact List.rdropWhile_append_rtakeWhile.symm
  · rw [kept]
    intro last
    have some : text.toList.rdropWhile (· = '/') ≠ [] := by
      intro none
      rw [none] at last
      cases last
    rw [List.getLast?_eq_some_getLast some] at last
    have notSlash := List.rdropWhile_last_not _ _ some
    exact notSlash (decide_eq_true (Option.some.inj last))

/--
An operation is asked for once, below the endpoint of the settings without the slashes at
its end: exactly if that is an address of the web and the token can stand in a header.  It
ends with what the service tells exactly if every response on its way is a success and
says what is needed, and otherwise as a call of the operation that failed, with what went
wrong first; a workspace that cannot be read fails as it did.
-/
theorem operation_ends_as_answered
    (settings : RemoteSettings)
    (identity : Option Identity)
    (tables : Http.Tables)
    (package : Except Fault ByteArray)
    (call : ServiceCall)
    (responses : List (Option Http.Response)) :
    let client := ServiceClient.ofSettings settings identity tables
    let course := (client.perform package call).course responses
    TrimsSlashes settings.endpoint client.endpoint ∧
      (∃ first onward : Option Http.Request,
        course.1 = first.toList ++ onward.toList ∧
          (∀ request,
            first = some request ↔
              (client.asking call).Sends tables request) ∧
          (∀ request, first = some request → client.Asks call request) ∧
          ∀ request,
            onward = some request ↔
              client.GoesOn package responses.head?.join call request) ∧
      (∀ reply,
        course.2 = .ok reply ↔
          client.Succeeds package responses call reply) ∧
      (∀ fault,
        course.2 = .error fault ↔
          client.Fails package responses call fault) ∧
      ∀ fault,
        course.2 = .error fault →
          (∃ cause, fault = .remoteCall call.endpoint cause) ∨
            package = .error fault := by
  intro client course
  have ends := client.perform_ends package call responses
  obtain ⟨onward, sent, goesOn⟩ :=
    client.perform_requests package call responses
  have first (request : Http.Request) :
      ((client.asking call).build tables).toOption = some request ↔
        (client.asking call).Sends tables request :=
    ServiceClient.toOption_eq_some.trans Http.Errand.build_eq_ok
  refine ⟨trimsSlashes_withoutFinalSlashes _,
    ⟨_, onward, sent, first, ?_, goesOn⟩, ends.ok, ends.error, ?_⟩
  · intro request sends
    exact ServiceClient.asks_of_sends ((first request).mp sends)
  · intro fault failed
    exact ((ends.error fault).mp failed).remoteCall_or

/-! ## A plan that is fetched -/

/-- Settings whose endpoint has slashes at its end. -/
def slashedSettings : RemoteSettings where
  endpoint := "http://service.test/api//"
  identityToken := some "beta"

/-- The service hands out the address of a plan. -/
def planAddressed : Http.Response where
  status := 200
  body := "\x7b\"s3url\":\"https://files.test/plan\"\x7d".toUTF8

/-- The plan is there, in units of two bytes. -/
def planFound : Http.Response where
  status := 200
  body := ⟨#[0xFF, 0xFE, 0x23, 0x00, 0x3D, 0xD8, 0x00, 0xDE]⟩

/-- The plan is not to be had. -/
def planRefused : Http.Response where
  status := 503
  body := "later".toUTF8

/-- A plan is fetched from where the service says that it is, or is not to be had there. -/
theorem plan_fetched_or_refused :
    let client := ServiceClient.ofSettings slashedSettings none
    let call : ServiceCall := .downloadPlan "E1" "A1"
    let package : Except Fault ByteArray := .ok .empty
    let found := [some planAddressed, some planFound]
    let refused := [some planAddressed, some planRefused]
    let requests := ((client.perform package call).course found).1
    requests.map (fun request => (request.method, request.url)) =
        [(.post, "http://service.test/api/CreateDownloadUrl"),
          (.get, "https://files.test/plan")] ∧
      requests.map (·.body) =
        [("\x7b\"engagementId\":\"E1\",\"assessmentId\":\"A1\"," ++
            "\"contentType\":\"text/markdown\",\"clientMetadata\":" ++
            "\x7b\"clientName\":\"refassist\"," ++
            "\"clientVersion\":\"0.1.0\"\x7d\x7d").toUTF8,
          .empty] ∧
      client.Succeeds package found call "#😀" ∧
      client.Fails package refused call
        (.remoteCall "CreateDownloadUrl"
          "HTTP 503 Service Unavailable: later") := by
  have whenFound :=
    operation_ends_as_answered slashedSettings none .plain (.ok .empty)
      (.downloadPlan "E1" "A1") [some planAddressed, some planFound]
  have whenRefused :=
    operation_ends_as_answered slashedSettings none .plain (.ok .empty)
      (.downloadPlan "E1" "A1") [some planAddressed, some planRefused]
  obtain ⟨-, -, succeeds, -, -⟩ := whenFound
  obtain ⟨-, -, -, fails, -⟩ := whenRefused
  dsimp only [ServiceCall.Reply] at succeeds fails
  exact ⟨by decide +kernel, by decide +kernel,
    (succeeds _).mp (by decide +kernel), (fails _).mp (by decide +kernel)⟩

end AssessmentChat
