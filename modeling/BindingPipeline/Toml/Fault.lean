/-
BindingPipeline/Toml/Fault.lean

What can be wrong with a document: that it is no TOML at all, or that its values have not the shape
that is asked of them.
-/
import BindingPipeline.Text.Quoted
import BindingPipeline.Toml.Value

namespace BindingPipeline.Toml

/-- A value as a complaint names it. -/
inductive Found
  | text (s : String)
  | integer (n : Int)
  | float (f : Float)
  | bool (b : Bool)
  | sequence
  | map
  deriving DecidableEq, Repr

/-- The name of a value in a complaint.  A date counts as a map. -/
def Value.found : Value → Found
  | text s => .text s
  | integer n => .integer n
  | float f => .float f
  | bool b => .bool b
  | date => .map
  | list _ => .sequence
  | table _ => .map

/-- The wording of what is found. -/
def Found.message : Found → String
  | text s => "string " ++ Text.quoted s
  | integer n => "integer `" ++ toString n ++ "`"
  | float f => "floating point `" ++ f.render ++ "`"
  | bool b => "boolean `" ++ (if b then "true" else "false") ++ "`"
  | sequence => "sequence"
  | map => "map"

/-- A value has not the shape that is asked of it. -/
inductive Misfit
  | mismatch (found : Found) (wanted : String)
  | missing (field : String)
  | tooShort (count : Nat) (wanted : String)
  | unknownVariant (name : String) (first second : String)
  | noStringOrTable
  | noElement
  | tooManyElements
  | noTable (kind : String)
  | notEmpty (kind : String)
  deriving DecidableEq, Repr

/-- The wording of a misfit. -/
def Misfit.message : Misfit → String
  | mismatch found wanted => "invalid type: " ++ found.message ++ ", expected " ++ wanted
  | missing field => "missing field `" ++ field ++ "`"
  | tooShort count wanted => "invalid length " ++ toString count ++ ", expected " ++ wanted
  | unknownVariant name first second =>
    "unknown variant `" ++ name ++ "`, expected `" ++ first ++ "` or `" ++ second ++ "`"
  | noStringOrTable => "wanted string or table"
  | noElement => "wanted exactly 1 element, found 0 elements"
  | tooManyElements => "wanted exactly 1 element, more than 1 element"
  | noTable kind => "expected table, found " ++ kind
  | notEmpty kind => "expected empty " ++ kind

/-- What is wrong with a document. -/
inductive Fault
  | malformed
  | misfit (m : Misfit)
  deriving DecidableEq, Repr

/-- The wording of a fault: a heading, and the misfit on a line of its own. -/
def Fault.message : Fault → String
  | malformed => "TOML parse error"
  | misfit m => "TOML parse error\n" ++ m.message

end BindingPipeline.Toml
