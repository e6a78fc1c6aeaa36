/-
BindingPipeline/Session.lean

A run sees a file tree from a working directory at a point in time, and writes to two streams.  An action
changes this and may fail; what it has changed before it fails stays changed.
-/
import BindingPipeline.Error
import BindingPipeline.FileSystem.Change

namespace BindingPipeline

/-- What a run works on. -/
structure Session where
  files : FileSystem
  cwd : Place
  now : Time
  output : String
  complaints : String

/-- An action on a session. -/
abbrev Action (α : Type) := ExceptT Error (StateM Session) α

namespace Action

/-- A question about a path, to which a refusal is a failure of the action. -/
def ask {α : Type} (p : Path) (question : Session → Except SystemError α) : Action α := fun s =>
  match question s with
  | .ok a => (.ok a, s)
  | .error e => (.error (.onPath p e), s)

/-- A single change of the file tree. -/
def change (p : Path) (f : Session → Except SystemError FileSystem) : Action Unit := fun s =>
  match f s with
  | .ok fs => (.ok (), { s with files := fs })
  | .error e => (.error (.onPath p e), s)

/-- A result that needs no session. -/
def lift {α : Type} (r : Except Error α) : Action α := fun s => (r, s)

/-- When a path was modified. -/
def modified (p : Path) : Action Time := ask p fun s => s.files.modified s.cwd p

/-- The contents of a file as text. -/
def readText (p : Path) : Action String := ask p fun s => s.files.readText s.cwd p

/-- New contents for a file. -/
def write (p : Path) (bytes : ByteArray) : Action Unit :=
  change p fun s => s.files.write s.cwd s.now p bytes

/-- Another time for a file. -/
def stamp (p : Path) (t : Time) : Action Unit := change p fun s => s.files.setModified s.cwd p t

/-- A directory with all those above it. -/
def makeDirectories (p : Path) : Action Unit := fun s =>
  match s.files.makeDirectories s.cwd s.now p with
  | (.ok (), fs) => (.ok (), { s with files := fs })
  | (.error e, fs) => (.error (.onPath p e), { s with files := fs })

/-- The directory above a path, if it has one. -/
def makeParent (p : Path) : Action Unit :=
  match p.parent? with
  | some d => makeDirectories d
  | none => return ()

/-- Text on the standard output. -/
def print (t : String) : Action Unit := fun s => (.ok (), { s with output := s.output ++ t })

end Action

end BindingPipeline
