/-!
# Requests and answers

A request has a path below the root of the subscription. Only requests that
read leave the provider's state as it is. An answer carries the identifier of
the operation that an accepted change has started.
-/

namespace CloudOrchestration

-- bytes are compared as the core library does, whatever other instances are in scope
attribute [local instance (high)] ByteArray.instDecidableEq

inductive Method where
  | get
  | post
  | put
  | delete
  deriving DecidableEq, Repr

namespace Method

def text : Method → String
  | .get => "GET"
  | .post => "POST"
  | .put => "PUT"
  | .delete => "DELETE"

def ofText? : String → Option Method
  | "GET" => some .get
  | "POST" => some .post
  | "PUT" => some .put
  | "DELETE" => some .delete
  | _ => none

@[simp] theorem ofText?_text (m : Method) : ofText? m.text = some m := by cases m <;> rfl

/-- Whether a request of this method may change the provider's state. -/
def isMutating (m : Method) : Bool := m != .get

end Method

inductive ContentType where
  | xml
  | json
  | plain
  deriving DecidableEq, Repr

namespace ContentType

def text : ContentType → String
  | .xml => "application/xml"
  | .json => "application/json"
  | .plain => "text/plain"

end ContentType

/-- A request. Without a body it is labelled as markup. -/
structure Request where
  method : Method
  path : String
  body : Option ByteArray := none
  contentType : ContentType := .xml
  deriving DecidableEq

namespace Request

/-- The request that reads a path. -/
def read (path : String) : Request := { method := .get, path }

def isMutating (r : Request) : Bool := r.method.isMutating

end Request

/-- An answer of the provider. -/
structure Response where
  status : UInt16
  requestId : Option String
  body : ByteArray
  deriving DecidableEq

namespace Response

def isSuccess (r : Response) : Bool := 200 ≤ r.status && r.status < 300

end Response

end CloudOrchestration
