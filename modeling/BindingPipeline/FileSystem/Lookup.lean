/-
BindingPipeline/FileSystem/Lookup.lean

What a path means in a tree: the place that it leads to, starting from a working directory, or the
reason why it leads nowhere.
-/
import BindingPipeline.FileSystem.Basic
import BindingPipeline.Path
import BindingPipeline.SystemError

namespace BindingPipeline.FileSystem

/-- The number of bytes that the name of a file may have. -/
def nameLimit : Nat := 255

/-- The number of bytes that a path may not reach. -/
def pathLimit : Nat := 4096

/-- One name followed from a place, which must be a directory. -/
def step (fs : FileSystem) (here : Place) (name : String) : Except SystemError Place :=
  match fs.node? here with
  | none => .error .notFound
  | some (.file _ _) => .error .notDirectory
  | some (.directory _) =>
    if name = "." then .ok here
    else if name = ".." then .ok here.dropLast
    else if name.utf8ByteSize > nameLimit then .error .nameTooLong
    else .ok (here ++ [name])

/-- Names followed one after the other. -/
def walk (fs : FileSystem) : Place → List String → Except SystemError Place
  | here, [] => .ok here
  | here, name :: names => do fs.walk (← fs.step here name) names

/-- A path that can be followed: where it starts, and its names up to the last one; a path that ends in
a slash asks for a directory. -/
structure Route where
  start : Place
  names : List String
  wantsDirectory : Bool
  deriving DecidableEq, Repr

/-- The route of a path from a working directory. -/
def route (cwd : Place) (p : Path) : Except SystemError Route :=
  if p.text.toList.contains '\x00' then .error .zeroInName
  else if p.text = "" then .error .notFound
  else if p.text.utf8ByteSize ≥ pathLimit then .error .nameTooLong
  else
    .ok ⟨if p.isAbsolute then [] else cwd,
      ((Path.parts p.text.toList).filter (· ≠ [])).map String.ofList,
      p.text.toList.getLast? = some '/'⟩

/-- The place that a path leads to.  Nothing needs to be there, unless the path goes on. -/
def place (fs : FileSystem) (cwd : Place) (p : Path) : Except SystemError Place := do
  let r ← route cwd p
  fs.walk r.start (r.names ++ if r.wantsDirectory then ["."] else [])

/-- What a path leads to. -/
def find (fs : FileSystem) (cwd : Place) (p : Path) : Except SystemError (Place × Node) := do
  let q ← fs.place cwd p
  match fs.node? q with
  | some n => .ok (q, n)
  | none => .error .notFound

/-- Does the path lead to a directory? -/
def isDirectory (fs : FileSystem) (cwd : Place) (p : Path) : Bool :=
  match fs.find cwd p with
  | .ok (_, n) => n.isDirectory
  | .error _ => false

/-- The place at which a path would have something made.  The last name must be a proper one: `special`
is the refusal of a path that ends in the root, in `.` or in `..`. -/
def newPlace (fs : FileSystem) (cwd : Place) (p : Path) (special : SystemError) :
    Except SystemError Place := do
  let r ← route cwd p
  match r.names.getLast? with
  | none => .error special
  | some name =>
    let parent ← fs.walk r.start r.names.dropLast
    let q ← fs.step parent name
    if name = "." ∨ name = ".." then .error special else .ok q

end BindingPipeline.FileSystem
