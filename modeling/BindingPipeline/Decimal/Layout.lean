/-
BindingPipeline/Decimal/Layout.lean

How digits are written: with a decimal point in its place, or as a mantissa with an exponent.  Which
numbers are written positionally is the choice of the one who writes.
-/
import BindingPipeline.Decimal.Shortest

namespace BindingPipeline.Decimal

/-- The points at which a number is written without an exponent. -/
structure Layout where
  positional : Int → Bool

/-- Every number is written in full. -/
def Layout.full : Layout := ⟨fun _ => true⟩

/-- Numbers from `10 ^ -5` up to below `10 ^ 16` are written in full. -/
def Layout.moderate : Layout := ⟨fun p => -5 < p && p ≤ 16⟩

/-- The digits around a decimal point, with at least one on either side. -/
def Digits.inPlace (d : Digits) : List Char :=
  if d.point ≤ 0 then
    '0' :: '.' :: List.replicate (-d.point).toNat '0' ++ d.digits
  else
    let p := d.point.toNat
    if p < d.digits.length then d.digits.take p ++ '.' :: d.digits.drop p
    else d.digits ++ List.replicate (p - d.digits.length) '0' ++ ['.', '0']

/-- One digit in front of the point, and the exponent with its sign. -/
def Digits.withExponent (d : Digits) : List Char :=
  let e := d.point - 1
  d.digits.take 1 ++ (if d.digits.length > 1 then '.' :: d.digits.drop 1 else []) ++
    'e' :: (if e < 0 then '-' else '+') :: Nat.toDigits 10 e.natAbs

/-- The text of a number, whose sign is given apart. -/
def Layout.render (l : Layout) (negative : Bool) (d : Double) : String :=
  let ds := d.shortest
  String.ofList ((if negative then ['-'] else []) ++
    if l.positional ds.point then ds.inPlace else ds.withExponent)

end BindingPipeline.Decimal
