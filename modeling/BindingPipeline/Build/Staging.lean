/-
BindingPipeline/Build/Staging.lean

Artifacts copied into the directory of the package, each under its own file name and with the time that it
has.
-/
import BindingPipeline.Build.Timestamp

namespace BindingPipeline.Build

/-- Where artifacts are staged, which ones, and whether this is only a rehearsal. -/
structure Staging where
  directory : Path
  artifacts : List Path
  isDryRun : Bool
  deriving DecidableEq, Repr

/-- A file copied over another.  The target is emptied before the source is read; every refusal counts as
one on the source. -/
def copyFile (source target : Path) : Action Unit := do
  let bytes (s : Session) : Except SystemError ByteArray :=
    match s.files.find s.cwd source with
    | .ok (_, .file bytes _) => .ok bytes
    | .ok (_, .directory _) => .error .notRegular
    | .error e => .error e
  let _ ← Action.ask source bytes
  Action.change source fun s => s.files.write s.cwd s.now target ByteArray.empty
  let contents ← Action.ask source bytes
  Action.change source fun s => s.files.write s.cwd s.now target contents

namespace Staging

/-- Where an artifact is staged. -/
def destination (st : Staging) (artifact : Path) : Except Error Path :=
  match artifact.fileName? with
  | some name => .ok (st.directory.join ⟨name⟩)
  | none => .error (.onPath artifact .noFileName)

/-- One artifact staged; where it goes is reported. -/
def stageOne (st : Staging) (artifact : Path) : Action Path := do
  let target ← Action.lift (st.destination artifact)
  if st.isDryRun then return target
  let t ← Action.modified artifact
  copyFile artifact target
  Action.stamp target t
  return target

/-- All artifacts staged in order.  A rehearsal touches nothing. -/
def stageAll (st : Staging) : Action (List Path) := do
  if !st.isDryRun then Action.makeDirectories st.directory
  st.artifacts.mapM st.stageOne

end Staging

end BindingPipeline.Build
