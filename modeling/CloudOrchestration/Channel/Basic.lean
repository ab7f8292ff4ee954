import CloudOrchestration.Cadence
import CloudOrchestration.Verdict
import CloudOrchestration.Workflow.Polling
/-!
# Channels

A channel sends requests and judges their answers. A read that gets no answer
is tried a fixed number of times. A change is never sent again for want of an
answer, since the provider may have accepted it; but while the provider
answers that another change is in flight it is sent again until the
deadline. As with waiting for a state, the number of tries is known at the
start, and both loops recurse on it.
-/

namespace CloudOrchestration

/-- A call: a workflow that sends requests to the provider. -/
abbrev Call (α : Type) := Workflow Request (Except Fault Response) α

structure Channel where
  wire : Wire
  cadence : Cadence

namespace Channel

open Workflow

variable {α : Type}

/-- The interval between two tries. -/
def interval (c : Channel) : Nat := c.cadence.interval.toNat

/-- How often a read is tried; at least once. -/
def attempts (c : Channel) : Nat := max 1 c.cadence.attempts.toNat

/-! ## Reading -/

/-- The fault of a read that got no answer. -/
def unanswered (c : Channel) (path failure : String) : Call α :=
  fail (.timeout (.unanswered path c.attempts failure))

/-- Try a read once. Without an answer, and before the deadline, go on as
`again` says. -/
def tryRead (c : Channel) (path : String) (deadline : Deadline)
    (again : String → Call Response) : Call Response := do
  match ← ask (Request.read path) with
  | .ok r => pure r
  | .error (.connection failure) =>
    if deadline.isExpired (← now) then c.unanswered path failure else again failure
  | .error fault => fail fault

/-- Try a read, and so many times again. -/
def readAgain (c : Channel) (path : String) (deadline : Deadline) : Nat → Call Response
  | 0 => c.tryRead path deadline (c.unanswered path)
  | retries + 1 => c.tryRead path deadline fun _ => do
    sleep deadline c.interval
    readAgain c path deadline retries

/-- The answer to a read. -/
def fetch (c : Channel) (path : String) (deadline : Deadline) : Call Response :=
  c.readAgain path deadline (c.attempts - 1)

/-- **Read a document.** Any answer but a success is a fault. -/
def get [Document α] (c : Channel) (path : String) (deadline : Deadline) : Call α := do
  match c.wire.judge (← c.fetch path deadline) with
  | .success r => ofExcept (c.wire.read r.body)
  | .conflict r | .fatal r => fail (.api r)

/-- **Read a document that may be absent.** The status 404 and the code for
a missing resource both say that it is. -/
def getOptional [Document α] (c : Channel) (path : String) (deadline : Deadline) :
    Call (Option α) := do
  let r ← c.fetch path deadline
  if r.status = 404 then pure none
  else
    match c.wire.judge r with
    | .success r => some <$> ofExcept (c.wire.read r.body)
    | .conflict r => fail (.api r)
    | .fatal r => if r.isMissing then pure none else fail (.api r)

/-! ## Changing -/

/-- The fault of a change that was put off until the deadline. -/
def conflicting (q : Request) (last : Rejection) : Call α :=
  fail (.timeout (.conflicting q.method q.path last))

/-- Send a change once. When the provider puts it off before the deadline, go
on as `again` says. -/
def trySubmit (c : Channel) (q : Request) (deadline : Deadline)
    (again : Rejection → Call String) : Call String := do
  match c.wire.judge (← ofExcept (← ask q)) with
  | .success r =>
    match r.requestId with
    | some id => pure id
    | none => fail (.protocol (.noRequestId q.method q.path))
  | .conflict r => if deadline.isExpired (← now) then conflicting q r else again r
  | .fatal r => fail (.api r)

/-- Send a change, and so many times again. -/
def submitAgain (c : Channel) (q : Request) (deadline : Deadline) : Nat → Call String
  | 0 => c.trySubmit q deadline (conflicting q)
  | retries + 1 => c.trySubmit q deadline fun _ => do
    sleep deadline c.interval
    submitAgain c q deadline retries

/-- **Send a change**, and answer the identifier of the operation that it
started. -/
def submit (c : Channel) (q : Request) (deadline : Deadline) : Call String := do
  c.submitAgain q deadline (deadline.waitsLeft (← now) c.interval)

/-- Send a document to create something. -/
def post [Document α] (c : Channel) (path : String) (a : α) (deadline : Deadline) :
    Call String := do
  let body ← ofExcept (c.wire.write a)
  c.submit { method := .post, path, body, contentType := c.wire.contentType } deadline

/-- Send a document to replace something, under a label of its own. -/
def put [Document α] (c : Channel) (path : String) (a : α) (contentType : ContentType)
    (deadline : Deadline) : Call String := do
  let body ← ofExcept (c.wire.write a)
  c.submit { method := .put, path, body, contentType } deadline

def delete (c : Channel) (path : String) (deadline : Deadline) : Call String :=
  c.submit { method := .delete, path } deadline

end Channel

end CloudOrchestration
