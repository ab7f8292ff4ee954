import CloudOrchestration.Json.Basic
/-!
# Places in a value

A place is the way from a value to one of its parts, through members and items
(`Json.at?`). A value shows another at a place if it has the same there, apart
from what is further down (`Json.Shows`), and covers it if it shows all that is
in it (`Json.Covers`). So a value covers another that it has grown from.
-/

namespace CloudOrchestration

namespace Json

/-- A step from a value to one of its parts. -/
inductive Step where
  | member (key : String)
  | item (n : Nat)
  deriving DecidableEq, Repr

/-- The steps that lead to a part of a value. -/
abbrev Place := List Step

/-- The part of a value that a step leads to. -/
def part? : Json → Step → Option Json
  | obj ms, .member key => Members.find? ms key
  | arr items, .item n => items[n]?
  | obj _, .item _ | arr _, .member _ => none
  | null, _ | bool _, _ | int _, _ | float _, _ | str _, _ => none

/-- **What is at a place.** -/
def at? : Json → Place → Option Json
  | v, [] => some v
  | v, s :: p => (v.part? s).bind (at? · p)

/-- A value without its parts. -/
def shell : Json → Json
  | arr _ => arr []
  | obj _ => obj []
  | null => null
  | bool b => bool b
  | int n => int n
  | float x => float x
  | str s => str s

/-- **A value shows another at a place** if that is what it has there, apart from
its parts. -/
def Shows (w : Json) (p : Place) (x : Json) : Prop := ∃ y, w.at? p = some y ∧ y.shell = x.shell

/-- **A value covers another** if it shows all that is in it. -/
def Covers (w v : Json) : Prop := ∀ p x, v.at? p = some x → w.Shows p x

variable {v w w' x : Json} {s : Step} {p : Place}

theorem eq_null_of_shell (h : v.shell = null) : v = null := by
  cases v <;> first | rfl | cases h

theorem at?_cons_eq_some : v.at? (s :: p) = some x ↔ ∃ y, v.part? s = some y ∧ y.at? p = some x :=
  Option.bind_eq_some_iff

theorem shows_cons (hpart : w.part? s = some v) (h : v.Shows p x) : w.Shows (s :: p) x := by
  obtain ⟨y, hy, hshell⟩ := h
  exact ⟨y, at?_cons_eq_some.2 ⟨v, hpart, hy⟩, hshell⟩

/-- Nothing is at a place in `null`, but itself. -/
theorem ne_null_of_at? (h : v.at? p = some x) (hx : x ≠ null) : v ≠ null := by
  rintro rfl
  cases p with
  | nil =>
    cases h
    exact hx rfl
  | cons s p => cases s <;> cases h

theorem Shows.covers (h : w.Shows p x) (hw : w'.Covers w) : w'.Shows p x := by
  obtain ⟨y, hy, hshell⟩ := h
  obtain ⟨z, hz, hshell'⟩ := hw p y hy
  exact ⟨z, hz, hshell'.trans hshell⟩

theorem covers_refl (v : Json) : v.Covers v := fun _ x hx => ⟨x, hx, rfl⟩

/-- **It is enough to look at the parts.** -/
theorem covers_of_parts (hshell : w.shell = v.shell)
    (h : ∀ s x, v.part? s = some x → ∃ y, w.part? s = some y ∧ y.Covers x) : w.Covers v := by
  intro p x hx
  cases p with
  | nil =>
    cases hx
    exact ⟨w, rfl, hshell⟩
  | cons s p =>
    obtain ⟨y, hy, hx⟩ := at?_cons_eq_some.1 hx
    obtain ⟨z, hz, hcovers⟩ := h s y hy
    exact shows_cons hz (hcovers p x hx)

/-- An array covers another if each of its items covers the one in its place. -/
theorem covers_arr {items items' : List Json}
    (h : ∀ (n : Nat) x, items[n]? = some x → ∃ y : Json, items'[n]? = some y ∧ y.Covers x) :
    (arr items').Covers (arr items) := by
  refine covers_of_parts rfl fun s x hx => ?_
  cases s with
  | member key => cases hx
  | item n => exact h n x hx

/-- An object covers another if it has its members, and each covers the one of
the same key. -/
theorem covers_obj {ms ms' : Members}
    (h : ∀ key x, ms.find? key = some x → ∃ y, ms'.find? key = some y ∧ y.Covers x) :
    (obj ms').Covers (obj ms) := by
  refine covers_of_parts rfl fun s x hx => ?_
  cases s with
  | member key => exact h key x hx
  | item n => cases hx

end Json

end CloudOrchestration
