import CloudOrchestration.Json.Binary64
/-!
# JSON values

Integers and finite binary64 numbers are told apart, and the members of an
object are kept in the order of their keys. `Members.insert` keeps that order,
a later value replacing an earlier one of the same key. Documents read an object, or
an array in its place, as members (`Json.fields?`), and each of these by its key
(`Members.find?`).
-/

namespace CloudOrchestration

inductive Json where
  | null
  | bool (b : Bool)
  | int (n : Int)
  | float (x : Binary64)
  | str (s : String)
  | arr (items : List Json)
  | obj (members : List (String × Json))

/-- The members of an object, in the order of their keys. -/
abbrev Members := List (String × Json)

namespace Members

/-- The value of a member. -/
def find? : Members → String → Option Json
  | [], _ => none
  | (k, v) :: rest, key => if k = key then some v else find? rest key

/-- Put a member at its place in the order of keys; a member of the same key
is replaced. -/
def insert (key : String) (value : Json) : Members → Members
  | [] => [(key, value)]
  | (k, v) :: rest =>
    if key = k then (key, value) :: rest
    else if key < k then (key, value) :: (k, v) :: rest
    else (k, v) :: insert key value rest

/-- The members given, in any order; of equal keys the last counts. -/
def ofList (entries : List (String × Json)) : Members :=
  entries.foldl (fun ms entry => insert entry.1 entry.2 ms) []

@[simp] theorem find?_nil (key : String) : find? [] key = none := rfl

/-- **An insertion is read back, and changes no other member.** -/
theorem find?_insert (ms : Members) (key : String) (value : Json) (key' : String) :
    (insert key value ms).find? key' = if key = key' then some value else ms.find? key' := by
  induction ms with
  | nil => simp [insert, find?]
  | cons entry rest ih =>
    obtain ⟨k, v⟩ := entry
    simp only [insert]
    split
    · subst_vars
      simp only [find?]
      split <;> rfl
    · split
      · simp [find?]
      · simp only [find?, ih]
        split
        · split
          · subst_vars; contradiction
          · rfl
        · rfl

end Members

namespace Json

/-- The members of an object; other values have none. -/
def members? : Json → Option Members
  | .obj ms => some ms
  | _ => none

/-- **The members of a record**, whose keys have an order. An object has them under
the keys. An array has them in their order, no more than there are keys; the last
may be left out, as far as `least` allows. -/
def fields? (keys : List String) (v : Json) (least : Nat := 0) : Option Members :=
  match v with
  | .arr items =>
    if least ≤ items.length ∧ items.length ≤ keys.length then some (keys.zip items) else none
  | v => v.members?

@[simp] theorem fields?_obj (keys : List String) (ms : Members) (least : Nat) :
    (obj ms).fields? keys least = some ms := rfl

/-- **What a record is**: an object, or an array that is long enough and not too long. -/
theorem fields?_eq_some {keys : List String} {v : Json} {least : Nat} {ms : Members} :
    v.fields? keys least = some ms ↔
      v = .obj ms ∨ ∃ items, v = .arr items ∧ least ≤ items.length ∧
        items.length ≤ keys.length ∧ keys.zip items = ms := by
  cases v with
  | arr items => simp [fields?, and_assoc]
  | obj ms' => simp
  | null | bool | int | float | str => simp [fields?, members?]

/-- The part of a value that says of which kind it is, and the value without regard
to that: the member under a key, or the first item of an array. -/
def tagged? (key : String) : Json → Option (Json × Json)
  | .obj ms => (Members.find? ms key).map (·, .obj ms)
  | .arr (tag :: items) => some (tag, .arr items)
  | _ => none

/-- The items of an array; other values have none. -/
def items? : Json → Option (List Json)
  | .arr items => some items
  | _ => none

/-- An object of the entries that hold a value. -/
def object (entries : List (String × Option Json)) : Json :=
  .obj (Members.ofList (entries.filterMap fun entry => entry.2.map (entry.1, ·)))

end Json

end CloudOrchestration
