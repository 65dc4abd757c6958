import StudySession.Gateway.Fault
import StudySession.Gateway.Url
import StudySession.Json.Parser
import StudySession.Upload.Session

/-!
# Calls on a storage gateway

A `Gateway` is a store behind a web address. `Gateway.request` says which request a call makes and
`Gateway.reply` what the response to it means; `Gateway.perform` puts the two around a connection.
-/

namespace StudySession

/-- The methods of requests. -/
inductive HttpMethod where
  | post
  | put
  | delete
  deriving DecidableEq, Repr

def HttpMethod.name : HttpMethod → String
  | post => "POST"
  | put => "PUT"
  | delete => "DELETE"

/-- What a request carries. -/
inductive HttpBody where
  | empty
  | bytes (body : ByteArray)
  | document (body : Json)

/-- A request. -/
structure HttpRequest where
  method : HttpMethod
  url : Url
  /-- The type of what it carries, where it names one. -/
  contentType? : Option String
  payload : HttpBody

/-- A response. -/
structure HttpResponse where
  status : Nat
  headers : List (String × String)
  body : String
  deriving DecidableEq, Repr

/-- A store behind a web address. -/
structure Gateway where
  /-- The address, without slashes at its end. -/
  endpoint : String
  bucket : String
  deriving DecidableEq, Repr

namespace Gateway

def new (endpoint bucket : String) : Gateway :=
  ⟨String.ofList (endpoint.toList.reverse.dropWhile (· == '/')).reverse, bucket⟩

def ofConfig (config : UploadConfig) : Except GatewayFault Gateway :=
  match config.endpoint with
  | some endpoint => .ok (new endpoint config.bucket)
  | none => .error .notConfigured

/-- The address of an object, before it is read. -/
def objectUrl (g : Gateway) (key : String) : String := g.endpoint ++ "/" ++ g.bucket ++ "/" ++ key

/-- Whether a text can be the value of a header: it holds no control but the tab. -/
def isHeaderValue (s : String) : Bool :=
  s.toList.all fun c => (decide (32 ≤ c.toNat) && c.toNat != 127) || c == '\t'

/-- The parts of a completion, as they are sent. -/
def partList (parts : List CompletedPart) : Json :=
  .ofFields [("Parts", .arr (parts.map fun p =>
    .ofFields [("PartNumber", .ofNat p.number), ("ETag", .str p.eTag)]))]

def address (text : String) : Except GatewayFault Url :=
  match Url.parse? text with
  | some url => .ok url
  | none => .error .badAddress

def request (g : Gateway) : StoreCall → Except GatewayFault HttpRequest
  | .create key contentType => do
    let url ← address (g.objectUrl key ++ "?uploads")
    if isHeaderValue contentType then .ok ⟨.post, url, some contentType, .empty⟩
    else .error .badContentType
  | .part key id number body => do
    let url ← address (g.objectUrl key)
    let pairs := [("partNumber", toString number), ("uploadId", id)]
    .ok ⟨.put, url.withForm pairs, none, .bytes body⟩
  | .complete key id parts => do
    let url ← address (g.objectUrl key)
    let url := url.withForm [("uploadId", id)]
    .ok ⟨.post, url, some "application/json", .document (partList parts)⟩
  | .abort key id => do
    let url ← address (g.objectUrl key)
    .ok ⟨.delete, url.withForm [("uploadId", id)], none, .empty⟩

/-- The value of the first header of a name in lower case, without the blanks around it. -/
def header? (name : String) (headers : List (String × String)) : Option String :=
  (headers.find? fun h => h.1.toLower == name).map fun h =>
    let isOuter (c : Char) : Bool := c == ' ' || c == '\t'
    String.ofList (trimEnds isOuter h.2.toList)

/-- The tag of a stored part: a header of visible ASCII characters, blanks and tabs. -/
def tag? (headers : List (String × String)) : Option String :=
  (header? "etag" headers).filter fun value =>
    isHeaderValue value && value.toList.all fun c => decide (c.toNat < 127)

/-- The id of a created upload: the one field of a record, under its name or alone in an array. It
may be given only once. -/
def uploadId? (body : String) : Option String := do
  let id ←
    match ← Json.parse? body with
    | .arr [id] => some id
    | .obj fields =>
      let all ← Json.parseFields? body
      if (all.filter (·.1 == "UploadId")).length = 1 then Dict.get? fields "UploadId" else none
    | _ => none
  id.str?

/-- What the response to a call means: the id of a created upload, the tag of a part, and an empty
text for the other two. -/
def reply (call : StoreCall) (response : HttpResponse) : Except GatewayFault String :=
  if 200 ≤ response.status ∧ response.status < 300 then
    match call with
    | .create _ _ => (uploadId? response.body).elim (.error .noUploadId) .ok
    | .part _ _ number _ => (tag? response.headers).elim (.error (.noTag number)) .ok
    | .complete _ _ _ | .abort _ _ => .ok ""
  else .error (.status response.status response.body)

/-- Makes a call over a connection, which may fail to bring a response. -/
def perform (g : Gateway) (connection : HttpRequest → Option HttpResponse) (call : StoreCall) :
    Except GatewayFault String := do
  let request ← g.request call
  match connection request with
  | some response => reply call response
  | none => .error .unreachable

end Gateway

end StudySession
