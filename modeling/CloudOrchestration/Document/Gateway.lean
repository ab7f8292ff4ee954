import CloudOrchestration.Document.Basic
/-!
# Gateways and addresses

What the provider says about the gateway of a virtual network and about an
address in it, and what is sent to set up a gateway and its key.
-/

namespace CloudOrchestration

inductive GatewayState where
  | notProvisioned
  | provisioning
  | provisioned
  | deprovisioning
  deriving DecidableEq, Repr

namespace GatewayState

def text : GatewayState → String
  | .notProvisioned => "NotProvisioned"
  | .provisioning => "Provisioning"
  | .provisioned => "Provisioned"
  | .deprovisioning => "Deprovisioning"

def ofText? : String → Option GatewayState
  | "NotProvisioned" => some .notProvisioned
  | "Provisioning" => some .provisioning
  | "Provisioned" => some .provisioned
  | "Deprovisioning" => some .deprovisioning
  | _ => none

@[simp] theorem ofText?_text (s : GatewayState) : ofText? s.text = some s := by cases s <;> rfl

instance : Document GatewayState where
  encode s := .str s.text
  decode v := do ofText? (← Document.variant? v)

end GatewayState

structure GatewayInfo where
  state : GatewayState
  vip : Option String
  deriving DecidableEq, Repr

instance : Document GatewayInfo where
  encode g := .object [
    Document.member "State" g.state,
    Document.memberIfSome "VIPAddress" g.vip]
  decode v := do
    let ms ← v.fields? ["State", "VIPAddress"]
    return {
      state := ← ms.required "State"
      vip := ← ms.optional "VIPAddress" }

/-- What is sent to create a gateway. -/
structure GatewayOrder where
  kind : String
  deriving DecidableEq, Repr

instance : Document GatewayOrder where
  encode o := .object [Document.member "GatewayType" o.kind]
  decode v := do return ⟨← (← v.fields? ["GatewayType"]).required "GatewayType"⟩

/-- The key that both ends of a connection share. -/
structure SharedKey where
  value : String
  deriving DecidableEq, Repr

instance : Document SharedKey where
  encode k := .object [Document.member "Value" k.value]
  decode v := do return ⟨← (← v.fields? ["Value"]).required "Value"⟩

/-- Whether an address is free, and addresses that are. -/
structure Availability where
  isAvailable : Bool
  addresses : List String
  deriving DecidableEq, Repr

instance : Document Availability where
  encode a := .object [
    Document.member "IsAvailable" a.isAvailable,
    Document.member "AvailableAddresses" a.addresses]
  decode v := do
    let ms ← v.fields? ["IsAvailable", "AvailableAddresses"]
    return {
      isAvailable := ← ms.required "IsAvailable"
      addresses := ← ms.defaulted "AvailableAddresses" [] }

end CloudOrchestration
