/-!
# Finite binary64 numbers, exactly

A finite binary64 number is a sign, a significand below `2 ^ 53` and an
exponent of two. Everything here is arithmetic on naturals: rounding the
ratio of two naturals to the nearest representable magnitude
(`Magnitude.ofRatio?`), the product and quotient of two magnitudes, each
rounded once, and the shortest decimal that rounds back (`shortest`).
-/

namespace CloudOrchestration

-- powers are those of the core library, whatever other instances are in scope
attribute [local instance (high)] instPowNat

/-- A magnitude `significand · 2 ^ exponent`. -/
structure Magnitude where
  significand : Nat
  exponent : Int
  deriving DecidableEq, Repr

namespace Magnitude

/-- The least exponent: the spacing of the subnormal numbers. -/
def minExponent : Int := -1074

/-- The greatest exponent of a finite number. -/
def maxExponent : Int := 971

def zero : Magnitude := ⟨0, minExponent⟩

def isZero (m : Magnitude) : Bool := m.significand == 0

/-- The value as a ratio of naturals. -/
def ratio (m : Magnitude) : Nat × Nat :=
  if 0 ≤ m.exponent then (m.significand * 2 ^ m.exponent.toNat, 1)
  else (m.significand, 2 ^ (-m.exponent).toNat)

/-- `num / den` times a power of two, as a ratio of naturals. -/
def shift (num den : Nat) (e : Int) : Nat × Nat :=
  if 0 ≤ e then (num * 2 ^ e.toNat, den) else (num, den * 2 ^ (-e).toNat)

/-- **Round half to even.** The natural nearest to `num / den`, the even one
of two that are equally near. -/
def roundHalfEven (num den : Nat) : Nat :=
  let q := num / den
  let r := num % den
  if 2 * r < den then q
  else if den < 2 * r then q + 1
  else if q % 2 = 0 then q
  else q + 1

/-- The exponent `e` with `2 ^ e ≤ num / den < 2 ^ (e + 1)`, for a positive
ratio. The logarithms of the parts leave two candidates. -/
def floorLog2 (num den : Nat) : Int :=
  let e : Int := (num.log2 : Int) - (den.log2 : Int)
  let (n, d) := shift num den (-e)
  if d ≤ n then e else e - 1

/-- **The nearest finite magnitude to `num / den`**, ties to the even
significand; `none` beyond the greatest one. -/
def ofRatio? (num den : Nat) : Option Magnitude :=
  if num = 0 then some zero
  else
    let e := max (floorLog2 num den - 52) minExponent
    let (n, d) := shift num den (-e)
    let s := roundHalfEven n d
    let (s, e) := if s = 2 ^ (53 : Nat) then (2 ^ (52 : Nat), e + 1) else (s, e)
    if maxExponent < e then none else some ⟨s, e⟩

/-- The product, rounded once. -/
def mul? (a b : Magnitude) : Option Magnitude :=
  let (n, d) := a.ratio
  let (n', d') := b.ratio
  ofRatio? (n * n') (d * d')

/-- The quotient by a positive magnitude, rounded once. -/
def div? (a b : Magnitude) : Option Magnitude :=
  let (n, d) := a.ratio
  let (n', d') := b.ratio
  ofRatio? (n * d') (d * n')

/-! ## The shortest decimal -/

/-- The ends of the interval of reals that round to the magnitude, as
numerators over one common denominator with the value itself:
`(low, value, high, den)`. Below a power of two the spacing halves, so the
lower end is nearer there. -/
def interval (m : Magnitude) : Nat × Nat × Nat × Nat :=
  let (n, d) := shift 1 4 m.exponent
  let below := if m.significand = 2 ^ (52 : Nat) ∧ minExponent < m.exponent then 1 else 2
  ((4 * m.significand - below) * n, 4 * m.significand * n, (4 * m.significand + 2) * n, d)

/-- The exponent `p` with `10 ^ (p - 1) ≤ num / den < 10 ^ p`, for a positive
ratio. -/
def decimalPoint (num den : Nat) : Int :=
  let p : Int := ((Nat.toDigits 10 num).length : Int) - ((Nat.toDigits 10 den).length : Int)
  -- the lengths leave two candidates
  let reached :=
    if 0 ≤ p then decide (den * 10 ^ p.toNat ≤ num) else decide (den ≤ num * 10 ^ (-p).toNat)
  if reached then p + 1 else p

/-- The points of the decimal grid with spacing `10 ^ (point - digits)` on
either side of `num / den`: the one that rounds back and is the nearer, the
even one of two equally near, or `none` when neither rounds back. -/
def onGrid (m : Magnitude) (point : Int) (digits : Nat) : Option Nat :=
  let (low, value, high, den) := m.interval
  let e : Int := point - digits
  -- one grid step is `step / den` of the common scale
  let (scale, step) :=
    if 0 ≤ e then (1, den * 10 ^ e.toNat) else (10 ^ (-e).toNat, den)
  let lo := value * scale / step
  let hi := lo + 1
  let inside := fun g : Nat =>
    let x := g * step
    if m.significand % 2 = 0 then low * scale ≤ x && x ≤ high * scale
    else low * scale < x && x < high * scale
  let fromLo := value * scale - lo * step
  let fromHi := hi * step - value * scale
  match inside lo, inside hi with
  | false, false => none
  | true, false => some lo
  | false, true => some hi
  | true, true =>
    if fromLo < fromHi then some lo
    else if fromHi < fromLo then some hi
    else if lo % 2 = 0 then some lo
    else some hi

/-- The first grid, from `digits` on, with a point that rounds back. -/
def firstGrid (m : Magnitude) (point : Int) : Nat → Nat → Nat × Nat
  | digits, 0 => (0, digits)
  | digits, fuel + 1 =>
    match m.onGrid point digits with
    | some g => (g, digits)
    | none => firstGrid m point (digits + 1) fuel

/-- **The shortest decimal that rounds back**, nearest to the value among the
shortest: digits `ds` without trailing zeros and the position `p` of the
point, for `0.ds · 10 ^ p`. Seventeen digits always suffice. -/
def shortest (m : Magnitude) : List Char × Int :=
  let (_, value, _, den) := m.interval
  let point := decimalPoint value den
  let (g, digits) := firstGrid m point 1 17
  let ds := Nat.toDigits 10 g
  -- a carry into a new first digit moves the point
  (ds.reverse.dropWhile (· == '0') |>.reverse, point + (ds.length : Int) - (digits : Int))

end Magnitude

/-- A finite binary64 number. Zero has a sign too. -/
structure Binary64 where
  negative : Bool
  magnitude : Magnitude
  deriving DecidableEq, Repr

namespace Binary64

/-- The exponents that are written positionally: from five places after the
point to sixteen before it. -/
def isPositional (point : Int) : Bool := -5 < point && point ≤ 16

/-- **The text of a magnitude.** The fewest digits that read back,
positional with at least one digit on either side of the point where
`isPositional`, otherwise one digit before the point and an exponent. -/
def magnitudeText (m : Magnitude) : List Char :=
  if m.isZero then "0.0".toList
  else
    let (ds, point) := m.shortest
    if isPositional point then
      if point ≤ 0 then
        "0.".toList ++ List.replicate (-point).toNat '0' ++ ds
      else
        let n := point.toNat
        if ds.length ≤ n then ds ++ List.replicate (n - ds.length) '0' ++ ".0".toList
        else ds.take n ++ '.' :: ds.drop n
    else
      let e := point - 1
      let mark := 'e' :: (if e < 0 then ['-'] else []) ++ Nat.toDigits 10 e.natAbs
      match ds with
      | [] => mark
      | [d] => d :: mark
      | d :: rest => d :: '.' :: rest ++ mark

/-- The text of a number; the sign of zero is kept. -/
def text (x : Binary64) : List Char :=
  (if x.negative then ['-'] else []) ++ magnitudeText x.magnitude

end Binary64

end CloudOrchestration
