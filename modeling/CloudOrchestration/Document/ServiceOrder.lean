import CloudOrchestration.Document.Basic
/-!
# Orders for new services

A cloud service and a storage account are asked for in the same words.
-/

namespace CloudOrchestration

/-- What is sent to create a cloud service or a storage account. -/
structure ServiceOrder where
  name : String
  label : String
  affinityGroup : String
  deriving DecidableEq, Repr

instance : Document ServiceOrder where
  encode o := .object [
    Document.member "ServiceName" o.name,
    Document.member "Label" o.label,
    Document.member "AffinityGroup" o.affinityGroup]
  decode v := do
    let ms ← v.fields? ["ServiceName", "Label", "AffinityGroup"]
    return {
      name := ← ms.required "ServiceName"
      label := ← ms.required "Label"
      affinityGroup := ← ms.required "AffinityGroup" }

end CloudOrchestration
