/-
BindingPipeline/Build/Roots.lean

The directories that relative paths of a manifest start from: sources lie under one, and what is built
goes under the build root or, without one, under the working directory.
-/
import BindingPipeline.Path

namespace BindingPipeline.Build

/-- The directories that a build works between. -/
structure Roots where
  sourceRoot : Path
  workDir : Path
  buildRoot : Option Path
  deriving DecidableEq, Repr

namespace Roots

/-- The directory under which files are written. -/
def outputRoot (r : Roots) : Path := r.buildRoot.getD r.workDir

/-- The path of a source. -/
def source (r : Roots) (rel : Path) : Path := r.sourceRoot.join rel

/-- The path of a built file. -/
def build (r : Roots) (rel : Path) : Path := r.outputRoot.join rel

end Roots

end BindingPipeline.Build
