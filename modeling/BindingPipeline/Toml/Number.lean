/-
BindingPipeline/Toml/Number.lean

Numbers and dates.  Integers fit 64 bits with a sign; floating-point numbers are rounded to the nearest
binary64 number, and one that is too large is refused.
-/
import BindingPipeline.Toml.Token
import BindingPipeline.Toml.Value

namespace BindingPipeline.Toml

open Decimal (Double)

/-- Digits at the front of a text, between two of which an underscore may stand. -/
def digitsBehind (isDigit : Char → Bool) : List Char → List Char × List Char
  | '_' :: c :: r =>
    if isDigit c then (c :: (digitsBehind isDigit r).1, (digitsBehind isDigit r).2)
    else ([], '_' :: c :: r)
  | c :: r =>
    if isDigit c then (c :: (digitsBehind isDigit r).1, (digitsBehind isDigit r).2) else ([], c :: r)
  | [] => ([], [])

/-- At least one digit, the first of which no underscore precedes. -/
def digitRun (isDigit : Char → Bool) : Reader (List Char)
  | c :: r =>
    if isDigit c then some (c :: (digitsBehind isDigit r).1, (digitsBehind isDigit r).2) else none
  | [] => none

/-- The number that digits spell in a base. -/
def valueIn (base : Nat) (ds : List Char) : Nat :=
  Text.ofDigits base (ds.filterMap Text.hexDigit?)

/-- A sign, if one is written; a minus is `true`. -/
def sign : List Char → Bool × List Char
  | '+' :: r => (false, r)
  | '-' :: r => (true, r)
  | r => (false, r)

/-- Decimal digits without a superfluous zero in front. -/
def wholePart : Reader (List Char)
  | '0' :: r => some (['0'], r)
  | s => digitRun Char.isDigit s

/-! ### Floating-point numbers -/

/-- The number that digits times a power of ten round to; none if it is too large. -/
def roundDecimal? (digits : Nat) (power : Int) : Option Double :=
  let magnitude := ((Nat.toDigits 10 digits).length : Int) + power
  if digits = 0 ∨ magnitude < -400 then some Double.zero
  else if magnitude > 400 then none
  else
    let (n, d) := Decimal.scaleTen digits 1 power
    Double.ofRatio? n d

/-- The exponent, if its mark follows. -/
def exponentPart : Reader (Option Int)
  | c :: r =>
    if c = 'e' ∨ c = 'E' then do
      let (negative, r) := sign r
      let (ds, r) ← digitRun Char.isDigit r
      let n : Int := valueIn 10 ds
      some (some (if negative then -n else n), r)
    else some (none, c :: r)
  | [] => some (none, [])

/-- A number with a point or an exponent or both. -/
def decimal : Reader Float := fun s => do
  let (negative, r) := sign s
  let (whole, r) ← wholePart r
  let (fraction, r) ← match r with
    | '.' :: r => digitRun Char.isDigit r
    | r => some ([], r)
  let (exponent, r) ← exponentPart r
  if fraction.isEmpty && exponent.isNone then none
  else
    let power := exponent.getD 0 - fraction.length
    match roundDecimal? (valueIn 10 (whole ++ fraction)) power with
    | some d => some (.finite negative d, r)
    | none => if negative then some (.infinite true, r) else none

/-- An infinity, or what is no number. -/
def specialFloat : Reader Float := fun s =>
  let (negative, r) := sign s
  match r with
  | 'i' :: 'n' :: 'f' :: r => some (.infinite negative, r)
  | 'n' :: 'a' :: 'n' :: r => some (.nan, r)
  | _ => none

/-! ### Integers -/

/-- An integer of 64 bits with a sign. -/
def wordInteger? (n : Int) : Option Int :=
  if -9223372036854775808 ≤ n ∧ n ≤ 9223372036854775807 then some n else none

/-- An integer in any of the four bases; only a decimal one may have a sign. -/
def integer : Reader Int := fun s =>
  let based (base : Nat) (isDigit : Char → Bool) (r : List Char) : Option (Int × List Char) := do
    let (ds, r) ← digitRun isDigit r
    some (← wordInteger? (valueIn base ds), r)
  match s with
  | '0' :: 'x' :: r => based 16 (fun c => (Text.hexDigit? c).isSome) r
  | '0' :: 'o' :: r => based 8 (fun c => 48 ≤ c.toNat && c.toNat < 56) r
  | '0' :: 'b' :: r => based 2 (fun c => c == '0' || c == '1') r
  | s => do
    let (negative, r) := sign s
    let (ds, r) ← wholePart r
    let n : Int := valueIn 10 ds
    some (← wordInteger? (if negative then -n else n), r)

/-! ### Dates -/

/-- A number of exactly that many digits within bounds. -/
def fixedNumber (count low high : Nat) : Reader Nat := fun s =>
  let ds := s.take count
  let n := valueIn 10 ds
  if ds.length = count ∧ ds.all Char.isDigit ∧ low ≤ n ∧ n ≤ high then some (n, s.drop count) else none

/-- One given character. -/
def mark (c : Char) : Reader Unit
  | d :: r => if c = d then some ((), r) else none
  | [] => none

/-- The number of days of a month. -/
def daysOf (year month : Nat) : Nat :=
  if month = 2 then
    if year % 4 = 0 ∧ (year % 100 ≠ 0 ∨ year % 400 = 0) then 29 else 28
  else if month = 4 ∨ month = 6 ∨ month = 9 ∨ month = 11 then 30
  else 31

/-- A day of the calendar. -/
def calendarDay : Reader Unit := do
  let year ← fixedNumber 4 0 9999
  mark '-'
  let month ← fixedNumber 2 1 12
  mark '-'
  let _ ← fixedNumber 2 1 (daysOf year month)

/-- A time of the day, perhaps with a fraction of a second. -/
def clockTime : Reader Unit := do
  let _ ← fixedNumber 2 0 23
  mark ':'
  let _ ← fixedNumber 2 0 59
  mark ':'
  let _ ← fixedNumber 2 0 60
  let s ← get
  match s with
  | '.' :: r =>
    if (r.takeWhile Char.isDigit).isEmpty then failure else set (r.dropWhile Char.isDigit)
  | _ => pure ()

/-- The offset of a time zone. -/
def zone : Reader Unit
  | 'Z' :: r => some ((), r)
  | 'z' :: r => some ((), r)
  | c :: r =>
    if c = '+' ∨ c = '-' then
      (do
        let _ ← fixedNumber 2 0 23
        mark ':'
        let _ ← fixedNumber 2 0 59) r
    else none
  | [] => none

/-- The text behind a date, a time, or both. -/
def afterDate? (s : List Char) : Option (List Char) :=
  match calendarDay s with
  | some (_, c :: r) =>
    if c = 'T' ∨ c = 't' ∨ c = ' ' then
      match clockTime r with
      | some (_, r) =>
        match zone r with
        | some (_, r) => some r
        | none => some r
      | none => some (c :: r)
    else some (c :: r)
  | some (_, []) => some []
  | none => (clockTime s).map Prod.snd

/-- A number or date. -/
def number : Reader Value := fun s =>
  match afterDate? s with
  | some r => some (.date, r)
  | none =>
    match specialFloat s with
    | some (f, r) => some (.float f, r)
    | none =>
      match decimal s with
      | some (f, r) => some (.float f, r)
      | none => do
        let (n, r) ← integer s
        some (.integer n, r)

end BindingPipeline.Toml
