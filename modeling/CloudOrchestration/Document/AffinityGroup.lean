import CloudOrchestration.Document.Listing
/-!
# Affinity groups

An affinity group keeps services and storage of one subscription close
together.
-/

namespace CloudOrchestration

structure AffinityGroup where
  name : String
  label : String
  location : String
  deriving DecidableEq, Repr

instance : Document AffinityGroup where
  encode g := .object [
    Document.member "Name" g.name,
    Document.member "Label" g.label,
    Document.member "Location" g.location]
  decode v := do
    let ms ← v.fields? ["Name", "Label", "Location"]
    return {
      name := ← ms.required "Name"
      label := ← ms.defaulted "Label" ""
      location := ← ms.defaulted "Location" "" }

abbrev AffinityGroups := Listing "AffinityGroups" AffinityGroup

namespace AffinityGroups

def contains (groups : AffinityGroups) (name : String) : Bool :=
  groups.items.any (·.name == name)

end AffinityGroups

end CloudOrchestration
