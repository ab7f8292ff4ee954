import CloudOrchestration.Document.Rejection
/-!
# Reports on operations

A change that the provider accepted goes on as an operation, on which it
reports when asked. An operation that failed has a rejection to show; where
the report lacks it, one is made up from the status code.
-/

namespace CloudOrchestration

/-- How far an operation has got. -/
inductive OperationState where
  | inProgress
  | succeeded
  | failed
  deriving DecidableEq, Repr

namespace OperationState

def text : OperationState → String
  | .inProgress => "InProgress"
  | .succeeded => "Succeeded"
  | .failed => "Failed"

def ofText? : String → Option OperationState
  | "InProgress" => some .inProgress
  | "Succeeded" => some .succeeded
  | "Failed" => some .failed
  | _ => none

@[simp] theorem ofText?_text (s : OperationState) : ofText? s.text = some s := by cases s <;> rfl

instance : Document OperationState where
  encode s := .str s.text
  decode v := do ofText? (← Document.variant? v)

end OperationState

/-- What the provider says about an operation. -/
structure OperationReport where
  id : String
  state : OperationState
  httpStatus : Option UInt16
  error : Option Rejection
  deriving DecidableEq, Repr

namespace OperationReport

instance : Document OperationReport where
  encode r := .object [
    Document.member "ID" r.id,
    Document.member "Status" r.state,
    Document.member "HttpStatusCode" r.httpStatus,
    Document.member "Error" r.error]
  decode v := do
    let ms ← v.fields? ["ID", "Status", "HttpStatusCode", "Error"]
    return {
      id := ← ms.required "ID"
      state := ← ms.required "Status"
      httpStatus := ← ms.optional "HttpStatusCode"
      error := ← ms.optional "Error" }

/-- Why the operation failed, for a report that says it did. -/
def failure (r : OperationReport) : Rejection :=
  match r.error with
  | some error => error
  | none => {
      code := match r.httpStatus with
        | some status => toString status.toNat
        | none => "Unknown"
      message := "operation " ++ r.id ++ " failed without an error document" }

/-- How the operation ended: `none` while it goes on. -/
def outcome? (r : OperationReport) : Option (Except Rejection Unit) :=
  match r.state with
  | .inProgress => none
  | .succeeded => some (.ok ())
  | .failed => some (.error r.failure)

end OperationReport

end CloudOrchestration
