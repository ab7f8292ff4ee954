import CloudOrchestration.Document.Basic
/-!
# What a call did

Calls that bring about a state first look whether it holds already.
`Action.unchanged` says that it did, so that nothing was asked of the
provider.
-/

namespace CloudOrchestration

/-- The effect of a call that may have nothing to do. -/
inductive Action where
  | create
  | update
  | delete
  | unchanged
  deriving DecidableEq, Repr

namespace Action

/-- The word for an action in messages. -/
def text : Action → String
  | .create => "create"
  | .update => "update"
  | .delete => "delete"
  | .unchanged => "no-op"

/-- Whether anything was asked of the provider. -/
def isChange (a : Action) : Bool := a != .unchanged

/-- The name of an action in documents. -/
def name : Action → String
  | .create => "create"
  | .update => "update"
  | .delete => "delete"
  | .unchanged => "no_op"

def ofName? : String → Option Action
  | "create" => some .create
  | "update" => some .update
  | "delete" => some .delete
  | "no_op" => some .unchanged
  | _ => none

@[simp] theorem ofName?_name (a : Action) : ofName? a.name = some a := by cases a <;> rfl

instance : Document Action where
  encode a := .str a.name
  decode v := do ofName? (← Document.variant? v)

end Action

end CloudOrchestration
