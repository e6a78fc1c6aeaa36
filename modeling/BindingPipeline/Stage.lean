/-
BindingPipeline/Stage.lean

The stages of a package build, in the order in which they take their turns.
-/
namespace BindingPipeline

/-- A stage of the build. -/
inductive Stage
  | buildExt
  | buildPy
  | buildClib
  | buildScripts
  deriving DecidableEq, Repr

namespace Stage

/-- All stages, in order. -/
def all : List Stage := [buildExt, buildPy, buildClib, buildScripts]

/-- The name of the stage. -/
def name : Stage → String
  | buildExt => "build_ext"
  | buildPy => "build_py"
  | buildClib => "build_clib"
  | buildScripts => "build_scripts"

/-- The stage of a name. -/
def ofName? (s : String) : Option Stage := all.find? fun g => g.name == s

@[simp] theorem mem_all (g : Stage) : g ∈ all := by cases g <;> simp [all]

@[simp] theorem ofName?_name (g : Stage) : ofName? g.name = some g := by cases g <;> rfl

end Stage

end BindingPipeline
