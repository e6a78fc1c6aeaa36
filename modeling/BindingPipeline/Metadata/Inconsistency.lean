/-
BindingPipeline/Metadata/Inconsistency.lean

Type names that a module uses and does not list.  Each is reported once for every record that uses
it, in the order in which the record's signatures first mention it.
-/
import BindingPipeline.Metadata.Module

namespace BindingPipeline.Metadata

/-- An operation uses a type that the module does not list. -/
structure UndeclaredType where
  op : String
  typeName : String
  deriving DecidableEq, Repr

/-- The wording of the finding. -/
def UndeclaredType.message (u : UndeclaredType) : String :=
  "op " ++ u.op ++ " uses type " ++ u.typeName ++ " missing from the type list"

/-- The names without the later occurrences of one that has come before. -/
def firstOccurrences (seen : List String) : List String → List String
  | [] => []
  | t :: ts =>
    if t ∈ seen then firstOccurrences seen ts else t :: firstOccurrences (t :: seen) ts

/-- The findings for one record. -/
def Record.undeclared (r : Record) (declared : List String) : List UndeclaredType :=
  (firstOccurrences [] (r.signatures.flatten.filter (· ∉ declared))).map (⟨r.name, ·⟩)

/-- All findings, in the order of the keys. -/
def Module.inconsistencies (m : Module) : List UndeclaredType :=
  m.ops.values.flatMap (·.undeclared m.types)

/-- The first finding, if there is one. -/
def Module.firstInconsistency? (m : Module) : Option UndeclaredType := m.inconsistencies.head?

end BindingPipeline.Metadata
