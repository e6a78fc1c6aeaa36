/-
BindingPipeline/Decimal/Double.lean

Nonnegative binary64 numbers as exact values, and rounding to the nearest of them.  A number is a
mantissa of at most 53 bits times a power of two, so its text can be computed in integers.
-/
namespace BindingPipeline.Decimal

/-- The number `mantissa · 2 ^ exponent`. -/
structure Double where
  mantissa : Nat
  exponent : Int
  deriving DecidableEq, Repr, Inhabited

/-- The quotient, rounded to the nearest integer; of two as near, the even one. -/
def divideToEven (num den : Nat) : Nat :=
  let q := num / den
  let r := num % den
  if 2 * r > den ∨ (2 * r = den ∧ q % 2 = 1) then q + 1 else q

/-- The fraction `num / den · 2 ^ shift` as numerator and denominator. -/
def scale (num den : Nat) (shift : Int) : Nat × Nat :=
  if shift ≥ 0 then (num * Nat.pow 2 shift.toNat, den) else (num, den * Nat.pow 2 (-shift).toNat)

/-- The smallest mantissa of 53 bits. -/
def hiddenBit : Nat := 4503599627370496

namespace Double

/-- The smallest exponent of a binary64 number. -/
def minExponent : Int := -1074

/-- The largest exponent of a binary64 number. -/
def maxExponent : Int := 971

def zero : Double := ⟨0, minExponent⟩

/-- Does the number equal zero? -/
def isZero (d : Double) : Bool := d.mantissa == 0

/-- The exponent at which a fraction has a mantissa of 53 bits, or the smallest exponent. -/
def exponentFor (num den : Nat) : Int :=
  let guess : Int := (num.log2 : Int) - (den.log2 : Int) - 53
  let (n, d) := scale num den (-guess)
  max minExponent (if n / d ≥ 2 * hiddenBit then guess + 1 else guess)

/-- The number nearest to `num / den`; none if it lies beyond the largest. -/
def ofRatio? (num den : Nat) : Option Double :=
  if num = 0 then some zero
  else
    let e := exponentFor num den
    let (n, d) := scale num den (-e)
    let m := divideToEven n d
    let rounded : Double := if m = 2 * hiddenBit then ⟨hiddenBit, e + 1⟩ else ⟨m, e⟩
    if rounded.exponent > maxExponent then none else some rounded

/-- The exact value as numerator and denominator. -/
def ratio (d : Double) : Nat × Nat := scale d.mantissa 1 d.exponent

/-- The product, rounded. -/
def mul? (a b : Double) : Option Double :=
  ofRatio? (a.ratio.1 * b.ratio.1) (a.ratio.2 * b.ratio.2)

/-- The quotient by a number other than zero, rounded. -/
def div? (a b : Double) : Option Double :=
  ofRatio? (a.ratio.1 * b.ratio.2) (a.ratio.2 * b.ratio.1)

end Double

end BindingPipeline.Decimal
