/-
BindingPipeline/Build/Timestamp.lean

Generated files carry the time of the latest of their sources, so a file is out of date exactly when one
of its sources is later than the file itself.
-/
import BindingPipeline.Session

namespace BindingPipeline.Build

/-- The latest time of some paths, and at least the epoch. -/
def latest (ps : List Path) : Action Time :=
  ps.foldlM (fun newest p => do return newest.later (← Action.modified p)) Time.epoch

/-- Is an output missing, or earlier than one of its inputs? -/
def isStale (output : Path) (inputs : List Path) : Action Bool := do
  let newest ← latest inputs
  tryCatch (do return decide ((← Action.modified output) < newest)) fun
    | .notFound _ => return true
    | e => throw e

end BindingPipeline.Build
