/-
BindingPipeline/Toml/Value.lean

TOML documents as values.  A table keeps its entries in the order in which the document first names
them.  Of a date only its presence is kept, since nothing in a manifest may be one.
-/
import BindingPipeline.Decimal.Layout

namespace BindingPipeline.Toml

open Decimal (Double)

/-- A floating-point number. -/
inductive Float
  | finite (negative : Bool) (magnitude : Double)
  | infinite (negative : Bool)
  | nan
  deriving DecidableEq, Repr

/-- The text of a floating-point number, always in full. -/
def Float.render : Float → String
  | finite negative d => Decimal.Layout.full.render negative d
  | infinite negative => if negative then "-inf" else "inf"
  | nan => "NaN"

/-- A TOML value. -/
inductive Value
  | text (s : String)
  | integer (n : Int)
  | float (f : Float)
  | bool (b : Bool)
  | date
  | list (items : List Value)
  | table (entries : List (String × Value))
  deriving Repr, Inhabited

/-- The entries of a table, in order. -/
abbrev Table := List (String × Value)

end BindingPipeline.Toml
