import CloudOrchestration.Text.Unsigned
import CloudOrchestration.Yaml.Basic
/-!
# Reading scalars as values

A plain scalar may stand for a number or for nothing. Numbers are decimal
without zeros in front, or have a radix of sixteen, eight or two that is
named in front of the digits.
-/

namespace CloudOrchestration

namespace Yaml

/-- The digits after a letter that names their radix. -/
def ofRadix? : List Char → Option Nat
  | '0' :: 'x' :: digits => Unsigned.ofDigits? 16 digits
  | '0' :: 'o' :: digits => Unsigned.ofDigits? 8 digits
  | '0' :: 'b' :: digits => Unsigned.ofDigits? 2 digits
  | _ => none

/-- A decimal numeral; a zero in front stands alone. -/
def ofDecimal? (digits : List Char) : Option Nat :=
  match digits with
  | '0' :: _ :: _ => none
  | digits => Unsigned.ofDigits? 10 digits

namespace Node

/-- The number below a bound that a node denotes. -/
def unsigned? (bound : Nat) : Node → Option Nat
  | .scalar true text => do
    let digits := Unsigned.dropPlus text.toList
    let n ← ofRadix? digits <|> ofDecimal? digits
    if n < bound then some n else none
  | _ => none

/-- The text of a scalar, whatever it looks like. -/
def text? : Node → Option String
  | .scalar _ text => some text
  | _ => none

/-- Whether a node stands for nothing. -/
def isNull : Node → Bool
  | .scalar true text => ["", "~", "null", "Null", "NULL"].contains text
  | _ => false

/-- The text of a scalar that may stand for nothing. -/
def optionalText? (n : Node) : Option (Option String) :=
  if n.isNull then some none else n.text?.map some

end Node

end Yaml

end CloudOrchestration
