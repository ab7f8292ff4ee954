import CloudOrchestration.Document.Basic
/-!
# Provisioned machines
-/

namespace CloudOrchestration

/-- Where a machine runs and how it is reached. -/
structure Machine where
  role : String
  service : String
  deployment : String
  privateAddress : Option String
  publicAddress : Option String
  deriving DecidableEq, Repr

/-- An array has all five members: an address that is not known is `null` there. -/
instance : Document Machine where
  encode m := .object [
    Document.member "id" m.role,
    Document.member "cloud_service_name" m.service,
    Document.member "deployment_name" m.deployment,
    Document.member "private_ip" m.privateAddress,
    Document.member "public_ip" m.publicAddress]
  decode v := do
    let ms ← v.fields? ["id", "cloud_service_name", "deployment_name", "private_ip", "public_ip"] 5
    return {
      role := ← ms.required "id"
      service := ← ms.required "cloud_service_name"
      deployment := ← ms.required "deployment_name"
      privateAddress := ← ms.optional "private_ip"
      publicAddress := ← ms.optional "public_ip" }

end CloudOrchestration
