/-
BindingPipeline/Json/Value.lean

JSON documents as values.  A number is kept as it is written, because whether it counts as an
integer depends on its spelling, and an object keeps all its members in their order, because a
repeated key may matter to the one who reads it.
-/
namespace BindingPipeline.Json

/-- A decimal digit. -/
abbrev Digit := Fin 10

/-- The exponent of a number: its mark, its sign if one is written, and at least one digit. -/
structure Exponent where
  capital : Bool
  sign : Option Bool
  first : Digit
  more : List Digit
  deriving DecidableEq, Repr

/-- A number as it is written.  No digits after the point means that there is no point; a sign that
is `true` is a minus. -/
structure Numeral where
  negative : Bool
  whole : Nat
  fraction : List Digit
  exponent : Option Exponent
  deriving DecidableEq, Repr

/-- The numeral of a natural number. -/
def Numeral.ofNat (n : Nat) : Numeral := ⟨false, n, [], none⟩

/-- Is the number written without point and exponent? -/
def Numeral.isPlain (n : Numeral) : Bool := n.fraction.isEmpty && n.exponent.isNone

/-- A JSON value. -/
inductive Value
  | null
  | bool (b : Bool)
  | number (n : Numeral)
  | text (s : String)
  | list (items : List Value)
  | object (members : List (String × Value))
  deriving Repr, Inhabited

end BindingPipeline.Json
