import AssessmentChat.Config
import AssessmentChat.Credential
import AssessmentChat.Http.Exchange
import AssessmentChat.Request
import AssessmentChat.Wire.Workflow

namespace AssessmentChat

/-!
# The client of the assessment service

Every operation is posted to its own address below the endpoint, with its
parameters and a description of the client.  Workspaces and plans travel by
addresses that the service hands out; these requests carry no token.
-/

/-- What the service is told about the client. -/
structure ClientDescription where
  name : String := "refassist"
  version : String := "0.1.0"
deriving Repr, DecidableEq

/-- The description on the wire. -/
def ClientDescription.toJson (description : ClientDescription) : Json :=
  .record
    [("clientName", .text description.name), ("clientVersion", .text description.version)]

/-- How the service is reached and what it is told. -/
structure ServiceClient where
  /-- The endpoint without slashes at its end. -/
  endpoint : String
  description : ClientDescription := {}
  /-- The token of the settings. -/
  configuredToken : Option String := none
  /-- The user's identity, whose token comes first. -/
  identity : Option Identity := none
  tables : Http.Tables := .plain

/-- A text without the slashes at its end. -/
def withoutFinalSlashes (text : String) : String :=
  String.ofList ((text.toList.reverse.dropWhile (· = '/')).reverse)

/-- The parameters of an operation, in order. -/
def ServiceCall.parameters : ServiceCall → List (String × String)
  | .createEngagement => []
  | .uploadWorkspace engagementId => [("engagementId", engagementId)]
  | .startAssessment engagementId input =>
      [("engagementId", engagementId), ("chatMessage", input), ("outputType", "markdown")]
  | .updateAssessment engagementId assessmentId input =>
      [("engagementId", engagementId), ("assessmentId", assessmentId), ("chatMessage", input)]
  | .stopAssessment engagementId assessmentId =>
      [("engagementId", engagementId), ("assessmentId", assessmentId)]
  | .assessmentStatus engagementId assessmentId =>
      [("engagementId", engagementId), ("assessmentId", assessmentId)]
  | .downloadPlan engagementId assessmentId =>
      [("engagementId", engagementId), ("assessmentId", assessmentId),
        ("contentType", "text/markdown")]
  | .startInteraction engagementId input =>
      [("engagementId", engagementId), ("chatMessage", input)]
  | .interactionStatus engagementId interactionId =>
      [("engagementId", engagementId), ("interactionId", interactionId)]
  | .deriveIntent engagementId input =>
      [("engagementId", engagementId), ("chatMessage", input)]

/-! ## What the service answers -/

namespace ServiceReply

/-- The address to which a workspace is sent. -/
def uploadAddress? (json : Json) : Option String := do
  let record ← json.record? [["PresignedUrl", "presignedUrl"]]
  record.required "PresignedUrl" Json.text?

/-- The address from which a plan is fetched. -/
def downloadAddress? (json : Json) : Option String := do
  let record ← json.record? [["s3url", "downloadUrl"]]
  record.required "s3url" Json.text?

/-- The assessment that was started. -/
def startedAssessment? (json : Json) : Option StartedAssessment := do
  let record ← json.record? [["assessmentId"], ["workflowStatus"]]
  return ⟨← record.required "assessmentId" Json.text?,
    ← record.required "workflowStatus" Wire.ofJson?⟩

/-- The status of a job. -/
def jobStatus? (json : Json) : Option JobStatus := do
  let record ← json.record? [["workflowStatus"]]
  record.required "workflowStatus" Wire.ofJson?

/-- One look at an assessment. -/
def assessmentReport? (json : Json) : Option AssessmentReport := do
  let record ← json.record? [["workflowStatus"], ["assessmentStatus"]]
  return ⟨← record.required "workflowStatus" Wire.ofJson?,
    ← record.withDefault "assessmentStatus" "" Json.text?⟩

/-- The interaction that was started. -/
def startedInteraction? (json : Json) : Option StartedInteraction := do
  let record ← json.record? [["interactionId"], ["workflowStatus"]]
  return ⟨← record.required "interactionId" Json.text?,
    ← record.required "workflowStatus" Wire.ofJson?⟩

/-- One look at an interaction. -/
def interactionReport? (json : Json) : Option InteractionReport := do
  let record ← json.record? [["workflowStatus"], ["response"]]
  return ⟨← record.required "workflowStatus" Wire.ofJson?,
    ← record.withDefault "response" "" Json.text?⟩

/-- The intent of a follow-up. -/
def intent? (json : Json) : Option Intent := do
  let record ← json.record? [["userIntent", "intent"]]
  record.required "userIntent" Wire.ofJson?

end ServiceReply

namespace ServiceClient

open Http

/-- A client that is set up as the settings say. -/
def ofSettings (settings : RemoteSettings) (identity : Option Identity)
    (tables : Tables := .plain) : ServiceClient where
  endpoint := withoutFinalSlashes settings.endpoint
  configuredToken := settings.identityToken
  identity
  tables

/-- The token that is sent: the user's, or else that of the settings. -/
def token (client : ServiceClient) : Option String :=
  (client.identity.bind Identity.token).orElse fun _ => client.configuredToken

/-- The address of an operation. -/
def address (client : ServiceClient) (call : ServiceCall) : String :=
  client.endpoint ++ "/" ++ call.endpoint

/-- The body that asks for an operation. -/
def body (client : ServiceClient) (call : ServiceCall) : Json :=
  .record
    (call.parameters.map (fun (name, value) => (name, .text value)) ++
      [("clientMetadata", client.description.toJson)])

/-- The request for an operation. -/
def request (client : ServiceClient) (call : ServiceCall) : Except Flaw Http.Request :=
  Http.Request.build client.tables .post (client.address call) client.token
    (some "application/json") (client.body call).compact.toUTF8

/-- The response to a request of an operation, which must be a success. -/
def successful (tables : Tables) (call : ServiceCall) (built : Except Flaw Http.Request) :
    Exchange (Except Fault Response) := do
  match ← Exchange.response built with
  | .error flaw => return .error (.remoteCall call.endpoint flaw.message)
  | .ok response =>
      if response.isSuccess then return .ok response
      else
        let text := (response.text? tables).getD ""
        return .error (.remoteCall call.endpoint s!"HTTP {statusLine response.status}: {text}")

/-- What the service answers to an operation, read from the body of its response. -/
def invoke (client : ServiceClient) (call : ServiceCall) (read : Json → Option α) :
    Exchange (Except Fault α) :=
  (successful client.tables call (client.request call)).onSuccess fun response =>
    return match response.content? >>= Json.ofBytes? >>= read with
    | some value => .ok value
    | none =>
        .error (.remoteCall call.endpoint s!"malformed response: {Flaw.unreadable.message}")

/-- The request that sends the bytes of a workspace to an address. -/
def putting (tables : Tables) (address : String) (content : ByteArray) :
    Except Flaw Http.Request :=
  Http.Request.build tables .put address none (some "application/octet-stream") content

/-- The request that fetches a plan from an address. -/
def getting (tables : Tables) (address : String) : Except Flaw Http.Request :=
  Http.Request.build tables .get address none none .empty

/-- Sends a workspace to an address. -/
def deliver (tables : Tables) (call : ServiceCall) (package : Except Fault ByteArray)
    (address : String) : Exchange (Except Fault Unit) :=
  match package with
  | .error fault => return .error fault
  | .ok content =>
      (successful tables call (putting tables address content)).onSuccess fun _ =>
        return .ok ()

/-- Fetches a plan from an address. -/
def fetch (tables : Tables) (call : ServiceCall) (address : String) :
    Exchange (Except Fault String) :=
  (successful tables call (getting tables address)).onSuccess fun response =>
    return match response.text? tables with
    | some content => .ok content
    | none => .error (.remoteCall call.endpoint Flaw.unreadable.message)

/-- Sends a workspace to the address that the service hands out. -/
def upload (client : ServiceClient) (package : Except Fault ByteArray)
    (engagementId : EngagementId) : Exchange (Except Fault Unit) :=
  let call : ServiceCall := .uploadWorkspace engagementId
  (client.invoke call ServiceReply.uploadAddress?).onSuccess
    (deliver client.tables call package)

/-- Fetches a plan from the address that the service hands out. -/
def download (client : ServiceClient) (engagementId : EngagementId)
    (assessmentId : AssessmentId) : Exchange (Except Fault String) :=
  let call : ServiceCall := .downloadPlan engagementId assessmentId
  (client.invoke call ServiceReply.downloadAddress?).onSuccess
    (fetch client.tables call)

/-- The exchange for an operation, given the bytes of the workspace. -/
def perform (client : ServiceClient) (package : Except Fault ByteArray) :
    (call : ServiceCall) → Exchange (Except Fault call.Reply)
  | .createEngagement => client.invoke .createEngagement Wire.ofJson?
  | .uploadWorkspace engagementId => client.upload package engagementId
  | .startAssessment engagementId input =>
      client.invoke (.startAssessment engagementId input) ServiceReply.startedAssessment?
  | .updateAssessment engagementId assessmentId input =>
      client.invoke (.updateAssessment engagementId assessmentId input) ServiceReply.jobStatus?
  | .stopAssessment engagementId assessmentId =>
      client.invoke (.stopAssessment engagementId assessmentId) ServiceReply.jobStatus?
  | .assessmentStatus engagementId assessmentId =>
      client.invoke (.assessmentStatus engagementId assessmentId)
        ServiceReply.assessmentReport?
  | .downloadPlan engagementId assessmentId => client.download engagementId assessmentId
  | .startInteraction engagementId input =>
      client.invoke (.startInteraction engagementId input) ServiceReply.startedInteraction?
  | .interactionStatus engagementId interactionId =>
      client.invoke (.interactionStatus engagementId interactionId)
        ServiceReply.interactionReport?
  | .deriveIntent engagementId input =>
      client.invoke (.deriveIntent engagementId input) ServiceReply.intent?

end ServiceClient

end AssessmentChat
