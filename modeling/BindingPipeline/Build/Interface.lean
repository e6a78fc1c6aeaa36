/-
BindingPipeline/Build/Interface.lean

The interface description: the template followed by the header.  The output is emptied before the
sources are opened, and stamped when it is complete.
-/
import BindingPipeline.Build.Device
import BindingPipeline.Build.Timestamp

namespace BindingPipeline.Build

/-- The contents of a source that goes into an output.  A directory can be opened but not copied, and
that is a failure of the output. -/
def sourceBytes (source output : Path) : Action ByteArray := fun s =>
  match s.files.find s.cwd source with
  | .ok (_, .file bytes _) => (.ok bytes, s)
  | .ok (_, .directory _) => (.error (.onPath output .isDirectory), s)
  | .error e => (.error (.onPath source e), s)

/-- The output with the contents of one more source behind those that it has. -/
def appendSourceOn (d : Device) (output : Path) (written : ByteArray) (source : Path) : Action ByteArray := do
  let bytes ← d.grant (.openSource source) (sourceBytes source output)
  d.fill output (written ++ bytes)
  return written ++ bytes

/-- The interface description written; its time is reported. -/
def assembleOn (d : Device) (template header output : Path) : Action Time := do
  let t ← latest [template, header]
  Action.makeParent output
  d.create output
  let _ ← [template, header].foldlM (appendSourceOn d output) ByteArray.empty
  d.stamp output t
  return t

/-- The interface description on a sound device. -/
def assemble (template header output : Path) : Action Time := assembleOn .sound template header output

end BindingPipeline.Build
