import CloudOrchestration.Document.Basic
/-!
# Listings

Many documents hold one list and nothing else. They differ in the key it
stands under, which is part of their type; a missing list is empty.
-/

namespace CloudOrchestration

/-- A document with one list under a key. -/
structure Listing (key : String) (α : Type) where
  items : List α := []
  deriving DecidableEq, Repr

instance {key : String} {α : Type} [Document α] : Document (Listing key α) where
  encode l := .object [Document.member key l.items]
  decode v := do return ⟨← (← v.fields? [key]).defaulted key []⟩

end CloudOrchestration
