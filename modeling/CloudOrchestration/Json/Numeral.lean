import CloudOrchestration.Json.Basic
/-!
# Numerals

A numeral is read in two steps. `Numeral.read` takes its text apart, and
`Numeral.value?` says which number the parts denote: an integer where sign,
digits and range allow it, otherwise a binary64 number. Digits are kept in
the significand while it stays below `2 ^ 64`; the significand is rounded
once and scaled by powers of ten, each step rounded.
-/

namespace CloudOrchestration

-- powers are those of the core library, whatever other instances are in scope
attribute [local instance (high)] instPowNat

namespace Json

/-- What is read off the front of a text, and the text that is left. -/
abbrev Reader (α : Type) := List Char → Option (α × List Char)

/-- The parts of a numeral. An absent fraction has no digits. -/
structure Numeral where
  negative : Bool
  whole : List Char
  fraction : List Char
  /-- Whether the exponent is negative, and its digits. -/
  exponent : Option (Bool × List Char)

namespace Numeral

/-- Digits off the front; at least one. -/
def readDigits : Reader (List Char) := fun cs =>
  match cs.takeWhile Char.isDigit with
  | [] => none
  | ds => some (ds, cs.dropWhile Char.isDigit)

/-- The digits before the point; a zero stands alone. -/
def readWhole : Reader (List Char) := fun cs => do
  let (ds, rest) ← readDigits cs
  match ds with
  | '0' :: _ :: _ => none
  | _ => some (ds, rest)

/-- The digits after a point, if there is a point. -/
def readFraction : Reader (List Char)
  | '.' :: rest => readDigits rest
  | cs => some ([], cs)

/-- Sign and digits of an exponent, if there is one. -/
def readExponent : Reader (Option (Bool × List Char)) := fun cs =>
  match cs with
  | c :: rest =>
    if c = 'e' ∨ c = 'E' then
      let (negative, rest) := match rest with
        | '-' :: rest => (true, rest)
        | '+' :: rest => (false, rest)
        | rest => (false, rest)
      (readDigits rest).map fun (ds, rest) => (some (negative, ds), rest)
    else some (none, cs)
  | [] => some (none, [])

/-- A numeral off the front of a text. -/
def read : Reader Numeral := fun cs => do
  let (negative, cs) := match cs with
    | '-' :: rest => (true, rest)
    | cs => (false, cs)
  let (whole, cs) ← readWhole cs
  let (fraction, cs) ← readFraction cs
  let (exponent, cs) ← readExponent cs
  return (⟨negative, whole, fraction, exponent⟩, cs)

/-! ## The number a numeral denotes -/

/-- The greatest significand. -/
def significandBound : Nat := 2 ^ (64 : Nat)

/-- Append digits to a significand while it stays below the bound; the
digits that do not fit are left. -/
def absorb (significand : Nat) : List Char → Nat × List Char
  | [] => (significand, [])
  | d :: ds =>
    let next := 10 * significand + (d.toNat - '0'.toNat)
    if next < significandBound then absorb next ds else (significand, d :: ds)

/-- The greatest power of ten that is a finite number. -/
def maxPower : Nat := 308

/-- Divide by a power of ten, in steps of the greatest finite one. -/
def scaleDown (m : Magnitude) (e : Nat) : Option Magnitude :=
  if e ≤ maxPower then do m.div? (← Magnitude.ofRatio? (10 ^ e) 1)
  else if m.isZero then some m
  else do scaleDown (← m.div? (← Magnitude.ofRatio? (10 ^ maxPower) 1)) (e - maxPower)
termination_by e
decreasing_by simp only [maxPower] at *; omega

/-- `significand · 10 ^ e`, or `none` where that is no finite number. -/
def scale (significand : Nat) (e : Int) : Option Magnitude := do
  let m ← Magnitude.ofRatio? significand 1
  if 0 ≤ e then
    if e ≤ maxPower then m.mul? (← Magnitude.ofRatio? (10 ^ e.toNat) 1)
    else if m.isZero then some m
    else none
  else scaleDown m (-e).toNat

/-- **The number.** Without fraction and exponent it is an integer if it lies
in the range of the signed or the unsigned 64-bit words; minus zero is not
one. -/
def value? (n : Numeral) : Option Json := do
  let (s, dropped) := absorb 0 n.whole
  if n.fraction.isEmpty ∧ n.exponent.isNone ∧ dropped.isEmpty then
    if !n.negative then some (.int s)
    else if 0 < s ∧ s ≤ 2 ^ (63 : Nat) then some (.int (-(s : Int)))
    else some (.float ⟨true, ← Magnitude.ofRatio? s 1⟩)
  else
    let (s, left) := absorb s n.fraction
    let shift : Int := (dropped.length : Int) - ((n.fraction.length : Int) - (left.length : Int))
    let e : Int := match n.exponent with
      | none => 0
      | some (negative, ds) =>
        let size := Nat.ofDigitChars 10 ds 0
        if negative then -(size : Int) else size
    some (.float ⟨n.negative, ← scale s (shift + e)⟩)

end Numeral

end Json

end CloudOrchestration
