import CloudOrchestration.Document.Listing
/-!
# Storage accounts
-/

namespace CloudOrchestration

structure StorageAccount where
  name : String
  affinityGroup : Option String
  deriving DecidableEq, Repr

instance : Document StorageAccount where
  encode a := .object [
    Document.member "ServiceName" a.name,
    Document.memberIfSome "AffinityGroup" a.affinityGroup]
  decode v := do
    let ms ← v.fields? ["ServiceName", "AffinityGroup"]
    return {
      name := ← ms.required "ServiceName"
      affinityGroup := ← ms.optional "AffinityGroup" }

abbrev StorageAccounts := Listing "StorageServices" StorageAccount

namespace StorageAccounts

def contains (accounts : StorageAccounts) (name : String) : Bool :=
  accounts.items.any (·.name == name)

end StorageAccounts

end CloudOrchestration
