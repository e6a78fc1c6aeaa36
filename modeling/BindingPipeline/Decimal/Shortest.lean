/-
BindingPipeline/Decimal/Shortest.lean

The fewest decimal digits that read back as a given binary64 number, and of those the nearest to it.
All comparisons are between integers.
-/
import BindingPipeline.Decimal.Double

namespace BindingPipeline.Decimal

/-- Digits behind the point, with the power of ten that the whole is multiplied by: `0.d₁d₂… · 10 ^ point`. -/
structure Digits where
  digits : List Char
  point : Int
  deriving DecidableEq, Repr, Inhabited

/-- The digits of a positive integer times a power of ten, without zeros at the end. -/
def Digits.ofNat (n : Nat) (power : Int) : Digits :=
  let cs := Nat.toDigits 10 n
  ⟨(cs.reverse.dropWhile (· == '0')).reverse, power + cs.length⟩

/-- The fraction `num / den · 10 ^ power` as numerator and denominator. -/
def scaleTen (num den : Nat) (power : Int) : Nat × Nat :=
  if power ≥ 0 then (num * Nat.pow 10 power.toNat, den)
  else (num, den * Nat.pow 10 (-power).toNat)

/-- The numbers that read back as `value` lie between `low` and `high`, all over one denominator; the
ends count if `closed`. -/
structure Interval where
  low : Nat
  value : Nat
  high : Nat
  denominator : Nat
  closed : Bool

/-- The interval of a positive number.  Below a power of two the neighbour is only half as far. -/
def Double.interval (d : Double) : Interval :=
  let (n, q) := d.ratio
  let (u, w) := scale 1 1 d.exponent
  let unit := u * (q / w)
  let below := if d.mantissa = hiddenBit ∧ d.exponent > Double.minExponent then unit else 2 * unit
  ⟨4 * n - below, 4 * n, 4 * n + 2 * unit, 4 * q, d.mantissa % 2 = 0⟩

/-- Is the number `num / den` in the interval? -/
def Interval.has (i : Interval) (num den : Nat) : Bool :=
  let x := num * i.denominator
  if i.closed then i.low * den ≤ x && x ≤ i.high * den
  else i.low * den < x && x < i.high * den

/-- The point of the grid of multiples of `10 ^ power` that lies in the interval and is nearest to the
value. -/
def Interval.onGrid? (i : Interval) (power : Int) : Option Nat :=
  let (n, d) := scaleTen i.value i.denominator (-power)
  let below := n / d
  let inside (k : Nat) : Bool :=
    let (num, den) := scaleTen k 1 power
    i.has num den
  match inside below, inside (below + 1) with
  | true, true => some (divideToEven n d)
  | true, false => some below
  | false, true => some (below + 1)
  | false, false => none

/-- The number of digits in front of the point of `num / den`, negative if zeros follow it. -/
def pointOf (num den : Nat) : Int :=
  let guess : Int := (((num.log2 : Int) - (den.log2 : Int)) * 30103).fdiv 100000 - 1
  let covers (p : Int) : Bool := let (n, d) := scaleTen num den (-p); n < d
  if covers guess then guess
  else if covers (guess + 1) then guess + 1
  else if covers (guess + 2) then guess + 2
  else guess + 3

/-- The shortest digits of a number. -/
def Double.shortest (d : Double) : Digits :=
  if d.isZero then ⟨['0'], 1⟩
  else
    let i := d.interval
    let p := pointOf i.value i.denominator
    let withDigits? (k : Nat) : Option Digits :=
      let power := p - (k : Int) - 1
      (i.onGrid? power).map (Digits.ofNat · power)
    ((List.range 17).findSome? withDigits?).getD ⟨['0'], 1⟩

end BindingPipeline.Decimal
