/-
BindingPipeline/FileSystem/Change.lean

Reading and changing a tree through paths.  Every single change is made whole or not at all.
-/
import BindingPipeline.FileSystem.Lookup

namespace BindingPipeline.FileSystem

variable (fs : FileSystem) (cwd : Place)

/-- The contents of a file. -/
def readBytes (p : Path) : Except SystemError ByteArray := do
  match ← fs.find cwd p with
  | (_, .file bytes _) => .ok bytes
  | (_, .directory _) => .error .isDirectory

/-- The contents of a file as text. -/
def readText (p : Path) : Except SystemError String := do
  match String.fromUTF8? (← fs.readBytes cwd p) with
  | some t => .ok t
  | none => .error .invalidText

/-- When what a path leads to was modified. -/
def modified (p : Path) : Except SystemError Time := do
  let (_, n) ← fs.find cwd p
  .ok n.modified

/-- The tree with a file of these contents at a place.  A file that is there gets them, and its directory is
not modified by that. -/
def fill (now : Time) (q : Place) (bytes : ByteArray) : FileSystem :=
  if (fs.node? q).isSome then fs.put q (.file bytes now) else fs.make now q (.file bytes now)

/-- A file with new contents and the time of `now`; it is made if it is not there. -/
def write (now : Time) (p : Path) (bytes : ByteArray) : Except SystemError FileSystem := do
  let r ← route cwd p
  let q ← fs.newPlace cwd p .isDirectory
  if r.wantsDirectory || (fs.node? q).any Node.isDirectory then .error .isDirectory
  else .ok (fs.fill now q bytes)

/-- A file with another time, which must be there. -/
def setModified (p : Path) (t : Time) : Except SystemError FileSystem := do
  match ← fs.find cwd p with
  | (q, .file bytes _) => .ok (fs.put q (.file bytes t))
  | (_, .directory _) => .error .isDirectory

/-- A new directory, where nothing may be yet. -/
def makeDirectory (now : Time) (p : Path) : Except SystemError FileSystem := do
  let q ← fs.newPlace cwd p .alreadyThere
  match fs.node? q with
  | none => .ok (fs.make now q (.directory now))
  | some _ => .error .alreadyThere

/-- A path and all paths above it, from below; the empty path is not among them. -/
def ancestors : Nat → Path → List Path
  | 0, _ => []
  | n + 1, p =>
    if p.text = "" then []
    else p :: (match p.parent? with
      | some q => ancestors n q
      | none => [])

/-- The first of some paths made a directory, after those behind it where they are missing.  What has
been made stays, even if a later step fails. -/
def makeAll (cwd : Place) (now : Time) : List Path → FileSystem → Except SystemError Unit × FileSystem
  | [], fs => (.ok (), fs)
  | p :: ps, fs =>
    match fs.makeDirectory cwd now p with
    | .ok fs => (.ok (), fs)
    | .error .notFound =>
      match makeAll cwd now ps fs with
      | (.error e, fs) => (.error e, fs)
      | (.ok (), fs) =>
        match fs.makeDirectory cwd now p with
        | .ok fs => (.ok (), fs)
        | .error e => (if fs.isDirectory cwd p then .ok () else .error e, fs)
    | .error e => (if fs.isDirectory cwd p then .ok () else .error e, fs)

/-- A directory with all directories above it, as far as they are missing. -/
def makeDirectories (now : Time) (p : Path) : Except SystemError Unit × FileSystem :=
  makeAll cwd now (ancestors (p.text.length + 1) p) fs

end BindingPipeline.FileSystem
