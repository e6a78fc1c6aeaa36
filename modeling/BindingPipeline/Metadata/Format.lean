/-
BindingPipeline/Metadata/Format.lean

The formats in which a module can be written.
-/
namespace BindingPipeline.Metadata

/-- A written format. -/
inductive Format
  | python
  | json
  deriving DecidableEq, Repr, Inhabited

/-- The name of the format. -/
def Format.name : Format → String
  | python => "python"
  | json => "json"

/-- The format that a name asks for. -/
def Format.ofName? (s : String) : Option Format :=
  if s = "python" ∨ s = "py" then some python
  else if s = "json" then some json
  else none

/-- The version of the layout, which the written text carries. -/
def formatVersion : Nat := 1

@[simp] theorem Format.ofName?_name (f : Format) : Format.ofName? f.name = some f := by
  cases f <;> decide

end BindingPipeline.Metadata
