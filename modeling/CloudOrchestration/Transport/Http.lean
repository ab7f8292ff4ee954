import CloudOrchestration.Transport.Identity
import CloudOrchestration.Transport.Url
/-!
# Requests over HTTP

A transport puts the address of the subscription in front of the path of a
request and sends it along with the version of the interface. Nothing is
tried again and nothing judged here. What becomes of the request lies with
the peer; that a request got no answer at all is told apart from all other
faults, since only then reading is tried again.
-/

namespace CloudOrchestration

-- bytes are compared as the core library does, whatever other instances are in scope
attribute [local instance (high)] ByteArray.instDecidableEq

/-- How requests reach the provider. -/
structure HttpTransport where
  base : String
  apiVersion : String
  /-- The certificate and the key, if there are any. -/
  identity : Option String

/-- A request as it goes out. -/
structure OutgoingRequest where
  method : Method
  url : String
  headers : List (String × String)
  body : Option ByteArray
  deriving DecidableEq

/-- What becomes of a request at the other end. -/
inductive Peer where
  /-- Nobody listens. -/
  | unreachable
  /-- The connection is closed without an answer. -/
  | closing
  /-- No answer comes in time. -/
  | silent
  /-- The answer ends before its announced length. -/
  | truncating
  | answering (status : UInt16) (headers : List (String × ByteArray)) (body : ByteArray)

namespace HttpTransport

/-- The header with the version of the interface. -/
def versionHeader : String := "x-ms-version"

/-- The header with the identifier of an operation. -/
def requestIdHeader : String := "x-ms-request-id"

def dropSlashes (s : String) : String :=
  String.ofList (s.toList.reverse.dropWhile (· == '/')).reverse

/-- The transport that settings describe. -/
def ofSettings (files : Files) (s : Settings) : Except Fault HttpTransport := do
  return {
    base := dropSlashes s.endpoint ++ "/" ++ s.subscription
    apiVersion := s.apiVersion
    identity := ← Identity.load files s }

/-- Whether a text can be the value of a header: no control but the tab. -/
def isHeaderValue (s : String) : Bool :=
  s.toList.all fun c => c == '\t' || (0x20 ≤ c.toNat && c.toNat != 0x7F)

/-- The request as it goes out. -/
def prepare (t : HttpTransport) (q : Request) : Except Fault OutgoingRequest :=
  let url := t.base ++ q.path
  if Url.isReachable url && isHeaderValue t.apiVersion then .ok {
    method := q.method
    url
    headers := [(versionHeader, t.apiVersion), ("content-type", q.contentType.text)]
    body := q.body }
  else .error .http

/-- The value of a header of visible characters. -/
def visible? (value : ByteArray) : Option String :=
  if value.toList.all fun b => b == 0x09 || (0x20 ≤ b && b < 0x7F) then
    String.fromUTF8? value
  else none

/-- The first header of a name counts. -/
def requestId? (headers : List (String × ByteArray)) : Option String :=
  match headers.find? fun h => h.1.toLower == requestIdHeader with
  | some (_, value) => visible? value
  | none => none

/-- What comes of a request. -/
def receive (q : Request) : Peer → Except Fault Response
  | .unreachable => .error (.connection s!"{q.method.text} {q.path}: connection refused")
  | .closing => .error (.connection s!"{q.method.text} {q.path}: connection closed")
  | .silent => .error (.connection s!"{q.method.text} {q.path}: timed out")
  | .truncating => .error .http
  | .answering status headers body => .ok { status, requestId := requestId? headers, body }

/-- **Send a request**, once. -/
def send (t : HttpTransport) (peer : Peer) (q : Request) : Except Fault Response := do
  let _ ← t.prepare q
  receive q peer

end HttpTransport

end CloudOrchestration
