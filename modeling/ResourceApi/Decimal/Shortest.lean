import ResourceApi.Decimal.Binary64

/-!
# Shortest decimals

The decimal written for a double is the one with the fewest digits among those that read back as it, and of these the
nearest. Grids of one, two and more digits are tried in turn; on each only the two neighbours of the exact value can
be the nearest, so the first grid on which one of them reads back decides.
-/

namespace ResourceApi

/-- A decimal `coefficient * 10 ^ exponent`. -/
structure Decimal where
  coefficient : Nat
  exponent : Int
  deriving DecidableEq

namespace Binary64

/-- The exact magnitude and the two ends of the interval of reals that round to it, in units of `2 ^ (-1076)`. The
gap to the next lower double is half as wide at a power of two. -/
def interval (x : Binary64) : Nat × Nat × Nat :=
  let unit := Nat.pow 2 x.scale
  let value := 4 * x.mantissa * unit
  let below := if x.mantissa = leastNormal ∧ 0 < x.scale then unit else 2 * unit
  (value - below, value, value + 2 * unit)

/-- The units of `interval` in one. -/
def unitsPerOne : Nat := Nat.pow 2 1076

/-- The power of ten of the leading digit. -/
def leadingExponent (x : Binary64) : Int :=
  let (_, value, _) := x.interval
  if unitsPerOne ≤ value then ((Nat.toDigits 10 (value / unitsPerOne)).length : Int) - 1
  else -((Nat.toDigits 10 (unitsPerOne / value)).length : Int)

/-- The multiple of `10 ^ exponent` nearest to a non-zero magnitude, if one reads back as it; of two equally near
ones the even. -/
def onGrid? (x : Binary64) (exponent : Int) : Option Nat :=
  let (low, value, high) := x.interval
  let up := Nat.pow 10 (-exponent).toNat
  let step := unitsPerOne * Nat.pow 10 exponent.toNat
  let reads (c : Nat) : Bool :=
    if x.mantissa % 2 = 0 then decide (low * up ≤ c * step) && decide (c * step ≤ high * up)
    else decide (low * up < c * step) && decide (c * step < high * up)
  let floor := value * up / step
  let nearest := roundDiv (value * up) step
  let other := if nearest = floor then floor + 1 else floor
  if reads nearest then some nearest
  else if reads other then some other
  else none

/-- Drop the trailing zeros of a coefficient. -/
def stripZeros : (fuel : Nat) → Decimal → Decimal
  | 0, d => d
  | fuel + 1, d =>
    if d.coefficient % 10 = 0 then stripZeros fuel ⟨d.coefficient / 10, d.exponent + 1⟩ else d

/-- The shortest decimal of the magnitude of a double. Seventeen digits always read back. -/
def shortest (x : Binary64) : Decimal :=
  if x.isZero then ⟨0, 0⟩
  else
    let lead := x.leadingExponent
    let found := (List.range 17).findSome? fun (more : Nat) =>
      let exponent := lead - (more : Int)
      (x.onGrid? exponent).map fun c => (⟨c, exponent⟩ : Decimal)
    match found with
    | some d => stripZeros 17 d
    | none => ⟨0, 0⟩

end Binary64

/-- How a decimal is laid out as text. -/
structure Decimal.Layout where
  /-- The least power of ten of the leading digit that is written without an exponent. -/
  leastPlain : Int
  /-- The first power of ten of the leading digit that is written with an exponent. -/
  firstScientific : Int

/-- Write the digits of a decimal: plain with at least one digit on each side of the point, or one digit before the
point and a signed exponent. -/
def Decimal.layOut (layout : Decimal.Layout) (d : Decimal) : List Char :=
  let digits := Nat.toDigits 10 d.coefficient
  let lead := d.exponent + digits.length - 1
  if layout.leastPlain ≤ lead ∧ lead < layout.firstScientific then
    if 0 ≤ d.exponent then digits ++ List.replicate d.exponent.toNat '0' ++ ['.', '0']
    else if 0 ≤ lead then digits.take (lead.toNat + 1) ++ '.' :: digits.drop (lead.toNat + 1)
    else ['0', '.'] ++ List.replicate (-lead - 1).toNat '0' ++ digits
  else
    let mantissa := match digits with
      | [] => []
      | [d] => [d]
      | d :: more => d :: '.' :: more
    let sign := if lead < 0 then '-' else '+'
    mantissa ++ 'e' :: sign :: Nat.toDigits 10 lead.natAbs

end ResourceApi
