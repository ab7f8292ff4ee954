/-!
# Blank text

The characters with the property White_Space. A text of nothing else is
blank.
-/

namespace CloudOrchestration

namespace Text

/-- The ranges of the property White_Space. -/
def blankRanges : List (Nat × Nat) :=
  [(0x09, 0x0D), (0x20, 0x20), (0x85, 0x85), (0xA0, 0xA0), (0x1680, 0x1680), (0x2000, 0x200A),
   (0x2028, 0x2029), (0x202F, 0x202F), (0x205F, 0x205F), (0x3000, 0x3000)]

/-- Whether a number lies in one of the ranges. -/
def inRanges (ranges : List (Nat × Nat)) (n : Nat) : Bool :=
  ranges.any fun r => r.1 ≤ n && n ≤ r.2

def isBlank (c : Char) : Bool := inRanges blankRanges c.toNat

/-- Whether a text has nothing but blank characters. -/
def isBlankText (s : String) : Bool := s.toList.all isBlank

/-- The property has twenty-five characters, all below U+10000. -/
example : ((blankRanges.map fun r => r.2 - r.1 + 1).sum) = 25 := rfl

end Text

end CloudOrchestration
