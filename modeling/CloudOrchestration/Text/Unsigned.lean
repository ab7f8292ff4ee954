/-!
# Unsigned numerals

A numeral in a given radix has at least one digit and nothing else; letters
continue the digits in either case. `parse?` reads a decimal one below a
bound, with an optional plus sign.
-/

namespace CloudOrchestration

namespace Unsigned

/-- The value of a digit, letters standing for ten and above. -/
def digitValue (c : Char) : Nat :=
  if '0' ≤ c ∧ c ≤ '9' then c.toNat - '0'.toNat
  else if 'a' ≤ c ∧ c ≤ 'z' then c.toNat - 'a'.toNat + 10
  else if 'A' ≤ c ∧ c ≤ 'Z' then c.toNat - 'A'.toNat + 10
  else 36

/-- The number whose digits the characters are. -/
def ofDigits? (radix : Nat) (cs : List Char) : Option Nat :=
  if cs.isEmpty ∨ cs.any (radix ≤ digitValue ·) then none
  else some (cs.foldl (fun n c => radix * n + digitValue c) 0)

/-- The characters after a plus sign, if they start with one. -/
def dropPlus : List Char → List Char
  | '+' :: cs => cs
  | cs => cs

/-- **A decimal numeral below a bound.** -/
def parse? (bound : Nat) (s : String) : Option Nat := do
  let n ← ofDigits? 10 (dropPlus s.toList)
  if n < bound then some n else none

end Unsigned

end CloudOrchestration
