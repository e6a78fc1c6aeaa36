/-
BindingPipeline/Manifest/Config.lean

What a manifest says: where the sources are, where the generated files go, how the package is named, which
optional rules are checked, and what the build stages do.
-/
import BindingPipeline.Metadata.Compile
import BindingPipeline.Metadata.Format

namespace BindingPipeline.Manifest

/-- The files that the pipeline reads. -/
structure Sources where
  template : Path
  header : Path
  opcodes : Path
  types : Path
  extra : List Path
  deriving DecidableEq, Repr

/-- The files that the pipeline writes. -/
structure Outputs where
  interface : Path
  metadata : Path
  format : Metadata.Format
  deriving DecidableEq, Repr

/-- The files that are written where the manifest names no others. -/
def Outputs.default : Outputs := ⟨⟨"bridge.i"⟩, ⟨"_info.py"⟩, .python⟩

/-- The package into which the written files are put. -/
structure Package where
  name : String
  buildLib : Path
  deriving DecidableEq, Repr

/-- The package of a manifest that names none. -/
def Package.default : Package := ⟨"bridge", ⟨"build/lib"⟩⟩

/-- The optional rules. -/
structure Checks where
  checkArity : Bool
  strictTypes : Bool
  deriving DecidableEq, Repr

/-- No optional rule is checked unless the manifest asks for it. -/
def Checks.default : Checks := ⟨false, false⟩

/-- The rules for a single operation. -/
def Checks.rules (c : Checks) : Metadata.Rules := ⟨c.checkArity⟩

/-- The words of the command of each stage; no words, no command. -/
structure StageCommands where
  buildExt : List String
  buildPy : List String
  buildClib : List String
  buildScripts : List String
  deriving DecidableEq, Repr

/-- No stage has a command. -/
def StageCommands.default : StageCommands := ⟨[], [], [], []⟩

/-- The words for a stage. -/
def StageCommands.words (c : StageCommands) : Stage → List String
  | .buildExt => c.buildExt
  | .buildPy => c.buildPy
  | .buildClib => c.buildClib
  | .buildScripts => c.buildScripts

/-- The commands with those of one stage replaced. -/
def StageCommands.withWords (c : StageCommands) (g : Stage) (ws : List String) : StageCommands :=
  match g with
  | .buildExt => { c with buildExt := ws }
  | .buildPy => { c with buildPy := ws }
  | .buildClib => { c with buildClib := ws }
  | .buildScripts => { c with buildScripts := ws }

/-- The command of a stage, if it has one. -/
def StageCommands.get? (c : StageCommands) (g : Stage) : Option (List String) :=
  match c.words g with
  | [] => none
  | ws => some ws

/-- All that a manifest says. -/
structure Config where
  sources : Sources
  outputs : Outputs
  package : Package
  catalog : Checks
  stages : StageCommands
  deriving DecidableEq, Repr

end BindingPipeline.Manifest
