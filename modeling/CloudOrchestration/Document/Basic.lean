import CloudOrchestration.Json.Basic
/-!
# Documents

A document type says how its values are written as JSON and which JSON
denotes one. Objects are read through `Members.find?` alone, so members that
a document does not know are ignored. A member is required, or it has a
fallback that stands for it when it is missing; an optional member is one
whose fallback is `none`, and there `null` is `none` too.

A document is written as an object, but it is also read from an array of its
members without their keys (`Json.fields?`).
-/

namespace CloudOrchestration

class Document (α : Type) where
  encode : α → Json
  decode : Json → Option α

export Document (encode decode)

namespace Document

instance : Document Json := ⟨id, some⟩

instance : Document String where
  encode := .str
  decode
    | .str s => some s
    | _ => none

instance : Document Bool where
  encode := .bool
  decode
    | .bool b => some b
    | _ => none

/-- The natural number below a bound that a value denotes. Numbers with a
fraction or an exponent are not natural, whatever their value. -/
def natBelow (bound : Nat) : Json → Option Nat
  | .int n => if 0 ≤ n ∧ n < bound then some n.toNat else none
  | _ => none

instance : Document UInt8 where
  encode n := .int n.toNat
  decode v := (natBelow UInt8.size v).map UInt8.ofNat

instance : Document UInt16 where
  encode n := .int n.toNat
  decode v := (natBelow UInt16.size v).map UInt16.ofNat

instance : Document UInt32 where
  encode n := .int n.toNat
  decode v := (natBelow UInt32.size v).map UInt32.ofNat

instance : Document UInt64 where
  encode n := .int n.toNat
  decode v := (natBelow UInt64.size v).map UInt64.ofNat

/-- Absence is `null`. -/
instance {α : Type} [Document α] : Document (Option α) where
  encode
    | none => .null
    | some a => encode a
  decode
    | .null => some none
    | v => (decode v).map some

instance {α : Type} [Document α] : Document (List α) where
  encode items := .arr (items.map encode)
  decode v := do (← v.items?).mapM decode

/-- The name of a variant without content: a string, or an object with that
name as its one key and `null` under it. -/
def variant? : Json → Option String
  | .str name => some name
  | .obj [(name, .null)] => some name
  | _ => none

/-! ## Writing members -/

/-- A member that is always written. -/
def member {α : Type} [Document α] (key : String) (a : α) : String × Option Json :=
  (key, some (encode a))

/-- A member that is left out when there is nothing to write. -/
def memberIfSome {α : Type} [Document α] (key : String) (a : Option α) : String × Option Json :=
  (key, a.map encode)

end Document

/-! ## Reading members -/

namespace Members

variable {α : Type} [Document α]

/-- A member that has to be there. -/
def required (ms : Members) (key : String) : Option α := do
  decode (← ms.find? key)

/-- A member that may be missing, and what stands for it then. -/
def defaulted (ms : Members) (key : String) (fallback : α) : Option α :=
  match ms.find? key with
  | none => some fallback
  | some v => decode v

/-- A member that may be missing or `null`. -/
def optional (ms : Members) (key : String) : Option (Option α) :=
  ms.defaulted key none

end Members

end CloudOrchestration
