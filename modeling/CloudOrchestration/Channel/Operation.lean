import CloudOrchestration.Channel.Basic
import CloudOrchestration.Document.OperationReport
/-!
# Operations

A change that was accepted goes on as an operation. Its report is looked at
until it says that the operation has succeeded or failed; a failure is final.
-/

namespace CloudOrchestration

namespace Channel

open Workflow

variable {α : Type}

/-- Where the provider reports on an operation. -/
def operationPath (id : String) : String := "/operations/" ++ id

/-- The end of an operation, if the report tells of one. -/
def operationEnd (r : OperationReport) : Readiness (Except Rejection Unit) :=
  match r.outcome? with
  | some outcome => .ready outcome
  | none => .pending OperationState.inProgress.text

/-- **Wait for the end of an operation.** -/
def awaitOperation (c : Channel) (id : String) (deadline : Deadline) : Call Unit := do
  let outcome ← awaitState deadline c.interval ("operation " ++ id)
    (c.get (operationPath id) deadline) operationEnd
  match outcome with
  | .ok _ => pure ()
  | .error r => fail (.operationFailed r)

/-- Send a document to create something, and wait until that is done. -/
def create [Document α] (c : Channel) (path : String) (a : α) (deadline : Deadline) :
    Call Unit := do
  c.awaitOperation (← c.post path a deadline) deadline

/-- Send a document to replace something, and wait until that is done. -/
def replace [Document α] (c : Channel) (path : String) (a : α) (contentType : ContentType)
    (deadline : Deadline) : Call Unit := do
  c.awaitOperation (← c.put path a contentType deadline) deadline

/-- Delete something, and wait until that is done. -/
def remove (c : Channel) (path : String) (deadline : Deadline) : Call Unit := do
  c.awaitOperation (← c.delete path deadline) deadline

end Channel

end CloudOrchestration
