import AssessmentChat.Proofs.ExchangeCourse
import AssessmentChat.Proofs.SingleExchanges

namespace AssessmentChat

/-!
# The token reaches the service only

Two clients that differ in nothing but their tokens send the same requests and end with
the same results, whatever is answered.  The token is a header of the requests that are
posted to the service; what is sent to addresses that the service hands out has none.
-/

namespace Http

/-- A request with a token in addition. -/
def Request.withToken (request : Request) (token : Option String) : Request :=
  { request with
    authorization := request.authorization ++ (token.map bearer).toList }

/-- What is to be asked without the token. -/
def Errand.withoutToken (errand : Errand) : Errand :=
  { errand with token := none }

/-- A token that a header can hold adds that header and changes nothing else. -/
theorem Errand.build_of_hasHeader
    {errand : Errand}
    (tables : Tables)
    (valid : errand.HasHeader) :
    errand.build tables =
      (errand.withoutToken.build tables).map (·.withToken errand.token) := by
  by_cases leads : ∃ url, errand.LeadsTo tables url
  · obtain ⟨url, leads⟩ := leads
    have leadsBare : errand.withoutToken.LeadsTo tables url :=
      leads
    have holdsBare : (errand.withoutToken.token.map bearer).all isHeaderValue :=
      rfl
    rw [build_of_leadsTo leads, build_of_leadsTo leadsBare,
      if_pos (hasHeader_iff.mpr valid), if_pos holdsBare]
    split_ifs
    · simp [Except.map, Request.withToken, withoutToken, authorizationFor]
    · rfl
    · rfl
  · have nowhere : ∀ url, ¬ errand.LeadsTo tables url :=
      not_exists.mp leads
    have nowhereBare : ∀ url, ¬ errand.withoutToken.LeadsTo tables url :=
      nowhere
    rw [build_of_noAddress nowhere, build_of_noAddress nowhereBare]
    rfl

theorem authorizationFor_none_append
    (address : Url)
    (token : Option String) :
    authorizationFor address none ++ (token.map bearer).toList =
      authorizationFor address token := by
  simp [authorizationFor]

/-- The credentials that an address carries are shown as no token is. -/
theorem bearer_notMem_authorizationFor_none
    (address : Url)
    (token : String) :
    bearer token ∉ authorizationFor address none := by
  intro member
  have isBasic : ∃ credentials, bearer token = basic credentials := by
    cases found : address.credentials with
    | none =>
        simp [authorizationFor, found] at member
    | some credentials =>
        exact ⟨credentials, by simpa [authorizationFor, found] using member⟩
  obtain ⟨credentials, same⟩ := isBasic
  have letters := congrArg (fun text => text.toList[1]?) same
  simp [bearer, basic, String.toList_append] at letters

end Http

namespace ServiceClient

open Http

/-- A request whose response must be a success goes on as the request does. -/
theorem alike_successful
    {similar : Http.Request → Http.Request → Prop}
    {built twinBuilt : Except Flaw Http.Request}
    {tables : Tables}
    {call : ServiceCall}
    (alike : Exchange.Alike similar (.response built) (.response twinBuilt)) :
    Exchange.Alike similar (successful tables call built)
      (successful tables call twinBuilt) := by
  refine alike.bind ?_
  intro received
  cases received with
  | error flaw =>
      exact .finish _
  | ok response =>
      dsimp only
      split
      · exact .finish _
      · exact .finish _

/-- The values of the authorization header with the token of a client. -/
def headerFor (client : ServiceClient) (address : Url) : List String :=
  authorizationFor address
    ((client.identity.bind Identity.token).or client.configuredToken)

/--
Two requests of clients for one operation that differ in the token at most: it is in what
is posted to the service, and nowhere else.
-/
structure TokenApart
    (client other : ServiceClient)
    (call : ServiceCall)
    (request twin : Http.Request) : Prop where
  method : twin.method = request.method
  url : twin.url = request.url
  contentType : twin.contentType = request.contentType
  body : twin.body = request.body
  posted :
    request.method = .post →
    ∃ address,
      Url.parse? client.tables.internationalName?
            (client.endpoint ++ "/" ++ call.endpoint) =
          some address ∧
        request.url = address.text ∧
        request.authorization = client.headerFor address ∧
        twin.authorization = other.headerFor address
  handedOut :
    request.method ≠ .post →
    twin.authorization = request.authorization ∧
      ∀ token, bearer token ∉ request.authorization

variable
  {client other : ServiceClient}
  {call : ServiceCall}

/-- A request to an address that was handed out is the same for every client. -/
theorem TokenApart.of_handedOut
    {tables : Tables}
    {errand : Errand}
    {request : Http.Request}
    (notPosted : errand.method ≠ .post)
    (noToken : errand.token = none)
    (built : errand.build tables = .ok request) :
    TokenApart client other call request request := by
  obtain ⟨url, -, -, -, rfl⟩ := Errand.build_eq_ok.mp built
  refine ⟨rfl, rfl, rfl, rfl, ?_, ?_⟩
  · intro posted
    exact absurd posted notPosted
  · intro _
    rw [noToken]
    exact ⟨rfl, bearer_notMem_authorizationFor_none url⟩

/-- What is asked of an address that was handed out is the same for every client. -/
theorem alike_handedOut
    {errand : Errand}
    (tables : Tables)
    (notPosted : errand.method ≠ .post)
    (noToken : errand.token = none) :
    Exchange.Alike (TokenApart client other call)
      (successful tables call (errand.build tables))
      (successful tables call (errand.build tables)) := by
  refine alike_successful ?_
  cases built : errand.build tables with
  | error flaw =>
      exact .finish _
  | ok request =>
      exact .send (.of_handedOut notPosted noToken built) fun _ => .finish _

/-- A workspace is sent alike for every client. -/
theorem alike_deliver
    (tables : Tables)
    (package : Except Fault ByteArray)
    (address : String) :
    Exchange.Alike (TokenApart client other call)
      (deliver tables call package address)
      (deliver tables call package address) := by
  cases package with
  | error fault =>
      exact .finish _
  | ok content =>
      have notPosted : (sending address content).method ≠ .post := nofun
      exact (alike_handedOut tables notPosted rfl).onSuccess
        fun _ => .finish _

/-- A plan is fetched alike for every client. -/
theorem alike_fetch
    (tables : Tables)
    (address : String) :
    Exchange.Alike (TokenApart client other call)
      (fetch tables call address) (fetch tables call address) := by
  have notPosted : (fetching address).method ≠ .post := nofun
  exact (alike_handedOut tables notPosted rfl).onSuccess fun _ => .finish _

/-- Clients that differ in nothing but tokens that a header can hold. -/
structure DifferInToken (client other : ServiceClient) : Prop where
  endpoint : other.endpoint = client.endpoint
  description : other.description = client.description
  tables : other.tables = client.tables
  valid : ∀ token, client.token = some token → isHeaderValue token
  validOfOther : ∀ token, other.token = some token → isHeaderValue token

namespace DifferInToken

variable
  (differ : client.DifferInToken other)

include differ

/-- What the clients ask of the service is the same but for the tokens. -/
theorem withoutToken_asking
    (call : ServiceCall) :
    (other.asking call).withoutToken = (client.asking call).withoutToken := by
  simp [asking, asked, Errand.withoutToken, differ.endpoint,
    differ.description]

/-- The clients ask the service alike. -/
theorem alike_request
    (call : ServiceCall) :
    Exchange.Alike (TokenApart client other call)
      (.response (client.request call)) (.response (other.request call)) := by
  have valid : (client.asking call).HasHeader := by
    intro token isToken
    refine isHeaderValue_iff.mp (differ.valid token ?_)
    exact client.token_eq.trans isToken
  have validOfOther : (other.asking call).HasHeader := by
    intro token isToken
    refine isHeaderValue_iff.mp (differ.validOfOther token ?_)
    exact other.token_eq.trans isToken
  rw [request_eq, request_eq, differ.tables,
    Errand.build_of_hasHeader client.tables valid,
    Errand.build_of_hasHeader client.tables validOfOther,
    differ.withoutToken_asking]
  refine .response ?_
  intro bare built
  obtain ⟨url, leads, -, -, rfl⟩ := Errand.build_eq_ok.mp built
  refine ⟨⟨rfl, rfl, rfl, rfl, ?_, ?_⟩, rfl⟩
  · intro _
    exact ⟨url, leads, rfl, authorizationFor_none_append url _,
      authorizationFor_none_append url _⟩
  · intro notPosted
    exact absurd rfl notPosted

/-- The service tells the clients alike. -/
theorem alike_invoke
    (call : ServiceCall)
    (read : Json → Option α) :
    Exchange.Alike (TokenApart client other call) (client.invoke call read)
      (other.invoke call read) := by
  rw [invoke, invoke, differ.tables]
  exact (alike_successful (differ.alike_request call)).onSuccess
    fun _ => .finish _

/-- Every operation goes on alike for both clients. -/
theorem alike_perform
    (package : Except Fault ByteArray)
    (call : ServiceCall) :
    Exchange.Alike (TokenApart client other call) (client.perform package call)
      (other.perform package call) := by
  cases call
  case uploadWorkspace engagementId =>
    rw [perform, perform, upload, upload, differ.tables]
    exact (differ.alike_invoke _ _).onSuccess (alike_deliver _ package)
  case downloadPlan engagementId assessmentId =>
    rw [perform, perform, download, download, differ.tables]
    exact (differ.alike_invoke _ _).onSuccess (alike_fetch _)
  all_goals
    exact differ.alike_invoke _ _

end DifferInToken

end ServiceClient

/--
Clients that differ in nothing but their tokens send the same requests and end with the
same result, whatever is answered.  The requests that are posted to the service carry the
token of their client, that of the identity before that of the settings; all others are
the same for both clients, and carry no token.
-/
theorem token_reaches_service_only
    {client other : ServiceClient}
    (differ : client.DifferInToken other)
    (package : Except Fault ByteArray)
    (call : ServiceCall)
    (responses : List (Option Http.Response)) :
    let course := (client.perform package call).course responses
    let courseOfOther := (other.perform package call).course responses
    List.Forall₂ (client.TokenApart other call) course.1 courseOfOther.1 ∧
      course.2 = courseOfOther.2 :=
  (differ.alike_perform package call).course responses

/-! ## A plan that is fetched from elsewhere -/

/-- A client with the token of an identity and one of the settings. -/
def identifiedClient : ServiceClient where
  endpoint := "http://service.test"
  configuredToken := some "beta"
  identity := some (.connected (some "alpha"))

/-- A client with a token of the settings only. -/
def configuredClient : ServiceClient where
  endpoint := "http://service.test"
  configuredToken := some "beta"

/-- The service hands out an address, and a plan is there. -/
def planElsewhere : List (Option Http.Response) :=
  [some {
      status := 200
      body := "\x7b\"s3url\":\"https://files.test/plan\"\x7d".toUTF8 },
    some { status := 200, body := "# Plan".toUTF8 }]

/-- Either client shows its token to the service, and none to where the plan is. -/
theorem token_kept_from_where_plan_is :
    let call : ServiceCall := .downloadPlan "E1" "A1"
    let course :=
      (identifiedClient.perform (.ok .empty) call).course planElsewhere
    let courseOfOther :=
      (configuredClient.perform (.ok .empty) call).course planElsewhere
    identifiedClient.DifferInToken configuredClient ∧
      (List.Forall₂ (identifiedClient.TokenApart configuredClient call)
          course.1 courseOfOther.1 ∧
        course.2 = courseOfOther.2) ∧
      course.1.map (·.authorization) = [["Bearer alpha"], []] ∧
      courseOfOther.1.map (·.authorization) = [["Bearer beta"], []] := by
  have differ : identifiedClient.DifferInToken configuredClient := by
    refine ⟨rfl, rfl, rfl, ?_, ?_⟩
    · rintro token ⟨⟩
      decide
    · rintro token ⟨⟩
      decide
  exact ⟨differ, token_reaches_service_only differ _ _ _,
    by decide +kernel, by decide +kernel⟩

end AssessmentChat
