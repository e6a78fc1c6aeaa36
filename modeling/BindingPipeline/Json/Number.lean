/-
BindingPipeline/Json/Number.lean

The number that a numeral stands for.  A plain numeral that fits a 64-bit word is an integer.  Every
other one is a binary64 number, computed from the leading digits that fit a word and a power of
ten, each rounded on its own.
-/
import BindingPipeline.Decimal.Double
import BindingPipeline.Json.Value

namespace BindingPipeline.Json

open Decimal (Double)

/-- A number as it is understood. -/
inductive Number
  | natural (n : Nat)
  | negative (n : Int)
  | float (negative : Bool) (magnitude : Double)
  deriving DecidableEq, Repr

/-- The first natural number that does not fit a word of 64 bits. -/
def wordBound : Nat := 18446744073709551616

/-- The longest beginning of a number that fits a word, and the count of the digits behind it. -/
def leadingWord (n : Nat) : Nat × Nat :=
  if n < wordBound then (n, 0)
  else
    let (m, dropped) := leadingWord (n / 10)
    (m, dropped + 1)
termination_by n
decreasing_by
  rename_i h
  have : 0 < n := by unfold wordBound at h; omega
  exact Nat.div_lt_self this (by decide)

/-- The digits behind the point that still fit the word, and their count; the first that does not
ends it. -/
def extendWord (m taken : Nat) : List Digit → Nat × Nat
  | [] => (m, taken)
  | d :: ds => if m * 10 + d.val < wordBound then extendWord (m * 10 + d.val) (taken + 1) ds else (m, taken)

/-- The largest exponent that is computed with, the largest number of 31 bits. -/
def maxExponent : Nat := 2147483647

/-- An exponent, or the count of the digits that follow where it grows too large. -/
def readExponent (e : Nat) : List Digit → Except Nat Nat
  | [] => .ok e
  | d :: ds =>
    if e * 10 + d.val > maxExponent then .error ds.length else readExponent (e * 10 + d.val) ds

/-- A power of ten up to the 308th, rounded. -/
def powerOfTen (k : Nat) : Double := (Double.ofRatio? (Nat.pow 10 k) 1).getD Double.zero

/-- A number divided by the 308th power of ten as often as a negative exponent below −308 asks for,
until nothing is left of it. -/
def divideDown (f : Double) (e : Int) : Double :=
  if f.isZero then Double.zero
  else if e < -308 then
    divideDown ((f.div? (powerOfTen 308)).getD Double.zero) (e + 308)
  else (f.div? (powerOfTen e.natAbs)).getD Double.zero
termination_by (-e).toNat

/-- A word times a power of ten; none if that is too large. -/
def scaleWord? (m : Nat) (e : Int) : Option Double :=
  let f := (Double.ofRatio? m 1).getD Double.zero
  if f.isZero then some Double.zero
  else if e > 308 then none
  else if e ≥ 0 then f.mul? (powerOfTen e.toNat)
  else some (divideDown f e)

/-- The number that a numeral stands for.  When it is out of range, the count of the numeral's digits
behind the place where that shows. -/
def Numeral.number (n : Numeral) : Except Nat Number :=
  if n.isPlain ∧ n.whole < wordBound ∧ n.negative = false then .ok (.natural n.whole)
  else if n.isPlain ∧ 0 < n.whole ∧ n.whole ≤ 9223372036854775808 then .ok (.negative (-(n.whole : Int)))
  else
    -- Digits that no longer fit the word only move the point.
    let (m, dropped) := leadingWord n.whole
    let (m, taken) := extendWord m 0 n.fraction
    let start : Int := dropped - taken
    let finish (e : Int) : Except Nat Number :=
      match scaleWord? m e with
      | some f => .ok (.float n.negative f)
      | none => .error 0
    match n.exponent with
    | none => finish start
    | some x =>
      let falls := x.sign == some true
      match readExponent x.first.val x.more with
      | .ok e => finish (if falls then start - e else start + e)
      -- An exponent out of range leaves nothing of the number, or too much of it.
      | .error left => if m = 0 ∨ falls then .ok (.float n.negative Double.zero) else .error left

end BindingPipeline.Json
