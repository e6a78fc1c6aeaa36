/-
BindingPipeline/Build/Device.lean

What a file is made on.  The tree alone does not decide whether a file can be opened, filled and stamped: a disk can
be full or broken, and a file can be someone else's.  A device says which requests meet a refusal; it may look
at all that has been done so far.  On a sound device none does.

Only the making of a file asks the device.  What comes before (the look at the times, the reading of the
catalogs, the directories above) the tree itself refuses often enough, and it touches no file.
-/
import BindingPipeline.Session

namespace BindingPipeline.Build

/-- What is asked of a device when a file is made. -/
inductive Need
  | create (output : Path)
  | openSource (source : Path)
  | fill (output : Path)
  | stamp (output : Path)
  deriving DecidableEq, Repr

/-- The path on which a refusal is a failure. -/
def Need.path : Need → Path
  | create output => output
  | openSource source => source
  | fill output => output
  | stamp output => output

/-- The refusals of a device, and how many of the bytes that a file is filled with it takes before it refuses
the others. -/
structure Device where
  refusal? : Need → Session → Option SystemError
  room : Path → Session → Nat

namespace Device

/-- A device that refuses nothing. -/
def sound : Device := ⟨fun _ _ => none, fun _ _ => 0⟩

variable {α : Type} (d : Device)

/-- An action that is done if the device grants what it needs. -/
def grant (need : Need) (a : Action α) : Action α := fun s =>
  match d.refusal? need s with
  | none => a s
  | some e => (.error (.onPath need.path e), s)

/-- A file created, or emptied if it is there. -/
def create (output : Path) : Action Unit := d.grant (.create output) (Action.write output ByteArray.empty)

/-- A file filled with new contents.  A refusal leaves the first of the bytes. -/
def fill (output : Path) (bytes : ByteArray) : Action Unit := fun s =>
  match d.refusal? (.fill output) s with
  | none => Action.write output bytes s
  | some e =>
    let (_, s) := Action.write output (bytes.extract 0 (d.room output s)) s
    (.error (.onPath output e), s)

/-- A file created and filled. -/
def write (output : Path) (bytes : ByteArray) : Action Unit := d.grant (.create output) (d.fill output bytes)

/-- Another time for a file. -/
def stamp (output : Path) (t : Time) : Action Unit := d.grant (.stamp output) (Action.stamp output t)

end Device

end BindingPipeline.Build
