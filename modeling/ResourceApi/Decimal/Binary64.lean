/-!
# Double-width binary numbers

A finite double is an integer mantissa times a power of two. `ofRatio?` rounds a ratio of natural numbers to the
nearest double, ties to the even mantissa, and product and quotient are that rounding applied to the exact result.
All of it is arithmetic on natural numbers.
-/

namespace ResourceApi

/-- The least mantissa of 53 bits. -/
def Binary64.leastNormal : Nat := 0x10000000000000

/-- The least number that has more bits than a mantissa. -/
def Binary64.pastMantissa : Nat := 0x20000000000000

/-- The parts of which a double may consist: the mantissa has at most 53 bits, fewer than 53 only at the least
scale, and the scale is a finite one. So each magnitude has one pair of parts. -/
def Binary64.Canonical (mantissa scale : Nat) : Prop :=
  mantissa < pastMantissa ∧ scale ≤ 2045 ∧ (scale = 0 ∨ leastNormal ≤ mantissa)

instance (mantissa scale : Nat) : Decidable (Binary64.Canonical mantissa scale) :=
  inferInstanceAs (Decidable (_ ∧ _ ∧ (_ ∨ _)))

/-- A finite double: its sign, and its magnitude `mantissa * 2 ^ scale / 2 ^ 1074`. -/
structure Binary64 where
  /-- Whether the sign is set; zero has a sign too. -/
  negative : Bool
  /-- The integer mantissa. -/
  mantissa : Nat
  /-- The power of two, counted from the least one. -/
  scale : Nat
  canonical : Binary64.Canonical mantissa scale
  deriving DecidableEq

namespace Binary64

/-- A double of given parts, if they are canonical. -/
def ofParts? (negative : Bool) (mantissa scale : Nat) : Option Binary64 :=
  if h : Canonical mantissa scale then some ⟨negative, mantissa, scale, h⟩ else none

/-- Zero with a sign. -/
def zero (negative : Bool) : Binary64 :=
  ⟨negative, 0, 0, by decide⟩

/-- Whether a double is zero of either sign. -/
def isZero (x : Binary64) : Bool :=
  x.mantissa == 0

/-- Equality of value: the two zeros are equal. -/
def sameValue (x y : Binary64) : Bool :=
  x.mantissa == y.mantissa && x.scale == y.scale && (x.negative == y.negative || x.isZero)

/-- A quotient rounded to the nearest integer, a half to the even one. -/
def roundDiv (num den : Nat) : Nat :=
  let q := num / den
  let r := num % den
  if 2 * r > den ∨ (2 * r = den ∧ q % 2 = 1) then q + 1 else q

/-- The double nearest to a ratio; none if that is past the greatest double. -/
def ofRatio? (negative : Bool) (num den : Nat) : Option Binary64 :=
  let units := num * Nat.pow 2 1074
  let scale := (units / den).log2 - 52
  let mantissa := roundDiv units (den * Nat.pow 2 scale)
  if mantissa = pastMantissa then ofParts? negative leastNormal (scale + 1) else ofParts? negative mantissa scale

/-- The product of the magnitudes, with the sign of the first. -/
def mul? (x y : Binary64) : Option Binary64 :=
  ofRatio? x.negative (x.mantissa * y.mantissa * Nat.pow 2 (x.scale + y.scale)) (Nat.pow 2 2148)

/-- The quotient of the magnitudes, with the sign of the first. -/
def div? (x y : Binary64) : Option Binary64 :=
  ofRatio? x.negative (x.mantissa * Nat.pow 2 x.scale) (y.mantissa * Nat.pow 2 y.scale)

/-- The double nearest to a power of ten. -/
def powTen? (k : Nat) : Option Binary64 :=
  ofRatio? false (Nat.pow 10 k) 1

/-- Divide by a power of ten, in steps of at most `10 ^ 308`, each rounded. -/
def divPowTen? (x : Binary64) (k : Nat) : Option Binary64 :=
  if k ≤ 308 then (powTen? k).bind x.div?
  else if x.isZero then some x
  else ((powTen? 308).bind x.div?).bind fun y => divPowTen? y (k - 308)
termination_by k

/-- A significand times a power of ten, as readers of numbers commonly compute it: the significand is rounded to a
double and multiplied or divided by the double nearest to the power, which rounds once more. So the result can lie a
unit beside the nearest double. None if it is past the greatest double. -/
def ofDecimal? (negative : Bool) (significand : Nat) (exponent : Int) : Option Binary64 :=
  (ofRatio? negative significand 1).bind fun x =>
    match exponent with
    | .ofNat k =>
      if k ≤ 308 then (powTen? k).bind x.mul?
      else if x.isZero then some x
      else none
    | .negSucc k => divPowTen? x (k + 1)

end Binary64

end ResourceApi
