import CloudOrchestration.Document.Basic
/-!
# Rejections

The document a provider sends along with an answer that is no success, and
inside the report of an operation that failed. Two codes are told apart:
another change is in flight, and the thing asked for does not exist.
-/

namespace CloudOrchestration

/-- Why the provider refused. -/
structure Rejection where
  code : String
  message : String
  deriving DecidableEq, Repr

namespace Rejection

/-- The code for "another change is in flight, try again". -/
def conflictCode : String := "ConflictError"

/-- The code for a resource that does not exist. -/
def missingCode : String := "ResourceNotFound"

def isConflict (r : Rejection) : Bool := r.code == conflictCode

def isMissing (r : Rejection) : Bool := r.code == missingCode

def text (r : Rejection) : String := r.code ++ ": " ++ r.message

instance : Document Rejection where
  encode r := .object [Document.member "Code" r.code, Document.member "Message" r.message]
  decode v := do
    let ms ← v.fields? ["Code", "Message"]
    return {
      code := ← ms.required "Code"
      message := ← ms.defaulted "Message" "" }

end Rejection

end CloudOrchestration
