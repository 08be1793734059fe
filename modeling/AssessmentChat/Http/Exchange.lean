import AssessmentChat.Http.Tables
import AssessmentChat.Http.Url
import AssessmentChat.Text.Base64

namespace AssessmentChat.Http

/-!
# Exchanges with servers

What is sent to a server, what comes back, and what can go wrong in between.  An
exchange is a tree of every possible course: which request is sent next depends
on the responses so far.
-/

/-- What is done with an address. -/
inductive Method
  | get
  | post
  | put
deriving Repr, DecidableEq

/-- The name of a method. -/
def Method.name : Method → String
  | .get => "GET"
  | .post => "POST"
  | .put => "PUT"

/-- A request as it is sent. -/
structure Request where
  method : Method
  url : String
  /-- The values of the authorization header. -/
  authorization : List String
  contentType : Option String
  body : ByteArray

/-- A response as it arrives. -/
structure Response where
  status : Nat
  body : ByteArray
  /-- What kind of content the body is said to be. -/
  contentType : Option String := none
  /-- Whether the whole body arrived. -/
  complete : Bool := true

/-- Why there is no response, or none that can be read. -/
inductive Flaw
  /-- The request could not be built, with its address where it has one. -/
  | unbuilt (url : Option String)
  /-- The connection was closed without a response. -/
  | unsent (url : String)
  /-- The body was cut short or is not what it should be. -/
  | unreadable
deriving Repr, DecidableEq

/-- The text of a flaw. -/
def Flaw.message : Flaw → String
  | .unbuilt none => "builder error"
  | .unbuilt (some url) => s!"builder error for url ({url})"
  | .unsent url => s!"error sending request for url ({url})"
  | .unreadable => "error decoding response body"

/-! ## Building requests -/

/-- Whether a header may hold a text: it may not hold control characters but tabs. -/
def isHeaderValue (value : String) : Bool :=
  value.toList.all fun character =>
    character = '\t' || (character.toNat ≥ 0x20 && character.toNat ≠ 0x7F)

/-- The authorization header for credentials that an address carries. -/
def basic (credentials : String × Option String) : String :=
  let name := Percent.decode credentials.1.toList
  let password := Percent.decode (credentials.2.getD "").toList
  "Basic " ++ Base64.encode ⟨(name ++ 58 :: password).toArray⟩

/-- The authorization header for a token. -/
def bearer (token : String) : String :=
  "Bearer " ++ token

/-- A request to an address, with a token if one is given. -/
def Request.build (tables : Tables) (method : Method) (address : String)
    (token contentType : Option String) (body : ByteArray) : Except Flaw Request :=
  match Url.parse? tables.internationalName? address with
  | none => .error (.unbuilt none)
  | some url =>
      let tokenHeader := token.map bearer
      if !url.hasHost then .error (.unbuilt (some url.text))
      else if !tokenHeader.all isHeaderValue then .error (.unbuilt none)
      else if (url.scheme ≠ "http" ∧ url.scheme ≠ "https") ∨ !url.isSendable then
        .error (.unbuilt (some url.text))
      else
        .ok
          { method, url := url.text
            authorization := (url.credentials.map basic).toList ++ tokenHeader.toList
            contentType, body }

/-! ## Reading responses -/

/-- The registered reasons of status codes. -/
def reasons : List (Nat × String) :=
  [(100, "Continue"), (101, "Switching Protocols"), (102, "Processing"), (200, "OK"),
    (201, "Created"), (202, "Accepted"), (203, "Non Authoritative Information"),
    (204, "No Content"), (205, "Reset Content"), (206, "Partial Content"),
    (207, "Multi-Status"), (208, "Already Reported"), (226, "IM Used"),
    (300, "Multiple Choices"), (301, "Moved Permanently"), (302, "Found"), (303, "See Other"),
    (304, "Not Modified"), (305, "Use Proxy"), (307, "Temporary Redirect"),
    (308, "Permanent Redirect"), (400, "Bad Request"), (401, "Unauthorized"),
    (402, "Payment Required"), (403, "Forbidden"), (404, "Not Found"),
    (405, "Method Not Allowed"), (406, "Not Acceptable"),
    (407, "Proxy Authentication Required"), (408, "Request Timeout"), (409, "Conflict"),
    (410, "Gone"), (411, "Length Required"), (412, "Precondition Failed"),
    (413, "Payload Too Large"), (414, "URI Too Long"), (415, "Unsupported Media Type"),
    (416, "Range Not Satisfiable"), (417, "Expectation Failed"), (418, "I'm a teapot"),
    (421, "Misdirected Request"), (422, "Unprocessable Entity"), (423, "Locked"),
    (424, "Failed Dependency"), (425, "Too Early"), (426, "Upgrade Required"),
    (428, "Precondition Required"), (429, "Too Many Requests"),
    (431, "Request Header Fields Too Large"), (451, "Unavailable For Legal Reasons"),
    (500, "Internal Server Error"), (501, "Not Implemented"), (502, "Bad Gateway"),
    (503, "Service Unavailable"), (504, "Gateway Timeout"), (505, "HTTP Version Not Supported"),
    (506, "Variant Also Negotiates"), (507, "Insufficient Storage"), (508, "Loop Detected"),
    (510, "Not Extended"), (511, "Network Authentication Required")]

/-- A status code with its registered reason. -/
def statusLine (status : Nat) : String :=
  s!"{status} " ++ (reasons.lookup status).getD "<unknown status code>"

namespace Response

/-- Whether the request succeeded. -/
def isSuccess (response : Response) : Bool :=
  200 ≤ response.status && response.status < 300

/-- The body, if all of it arrived. -/
def content? (response : Response) : Option ByteArray :=
  if response.complete then some response.body else none

/-- How the body is read as text unless a mark before it says so: by its charset, or UTF-8. -/
def decoding (tables : Tables) (response : Response) : List UInt8 → String :=
  (response.contentType.bind tables.charset?).getD Utf8.decode

/-- The body as text, if all of it arrived. -/
def text? (tables : Tables) (response : Response) : Option String :=
  response.content?.map fun body =>
    decodeMarked (response.decoding tables) body.data.toList

end Response

/-! ## Exchanges -/

/-- Requests and what is done with their responses; a closed connection gives none. -/
inductive Exchange (α : Type) : Type
  | finish (result : α)
  | send (request : Request) (next : Option Response → Exchange α)

namespace Exchange

/-- One exchange after another. -/
def andThen : Exchange α → (α → Exchange β) → Exchange β
  | .finish result, next => next result
  | .send request rest, next => .send request fun response => (rest response).andThen next

instance : Monad Exchange where
  pure := .finish
  bind := andThen

/-- One exchange after another, unless the first one ends with a failure. -/
def onSuccess (first : Exchange (Except ε α)) (next : α → Exchange (Except ε β)) :
    Exchange (Except ε β) := do
  match ← first with
  | .error failure => return .error failure
  | .ok value => next value

/-- The response to a request, or what went wrong. -/
def response (built : Except Flaw Request) : Exchange (Except Flaw Response) :=
  match built with
  | .error flaw => .finish (.error flaw)
  | .ok request =>
      .send request fun response => .finish (response.elim (.error (.unsent request.url)) .ok)

/-- Runs an exchange over a network with a state. -/
def run (network : Request → σ → Option Response × σ) : Exchange α → σ → α × σ
  | .finish result, state => (result, state)
  | .send request next, state =>
      let (response, state) := network request state
      (next response).run network state

end Exchange

/-- A network on which every connection is closed. -/
def closedNetwork (_ : Request) (state : σ) : Option Response × σ :=
  (none, state)

end AssessmentChat.Http
