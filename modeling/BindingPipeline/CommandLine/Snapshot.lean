/-
BindingPipeline/CommandLine/Snapshot.lean

A file tree written down as JSON, so that a whole run is a function of its words and one text: a list of
files, each with its path, its text and the second in which it was modified.
-/
import BindingPipeline.Build.CommandRunner
import BindingPipeline.Json.Record

namespace BindingPipeline.CommandLine

open Json (Shape)

/-- A file of a snapshot. -/
structure FileEntry where
  path : Path
  text : String
  modified : UInt32
  deriving DecidableEq, Repr

/-- A file of which some values may not have been read yet. -/
structure FileEntry.Draft where
  path : Option String
  text : Option String
  modified : Option UInt32

/-- The file of a full draft. -/
def FileEntry.Draft.build? (d : FileEntry.Draft) : Option FileEntry := do
  return ⟨⟨← d.path⟩, ← d.text, ← d.modified⟩

/-- Files of a snapshot. -/
def FileEntry.shape : Shape FileEntry.Draft FileEntry where
  title := "a file"
  fields :=
    [⟨"path", [], (·.path.isSome), fun d s => do
        let (v, s) ← Json.textValue s
        .ok ({ d with path := some v }, s)⟩,
      ⟨"text", [], (·.text.isSome), fun d s => do
        let (v, s) ← Json.textValue s
        .ok ({ d with text := some v }, s)⟩,
      ⟨"modified", [], (·.modified.isSome), fun d s => do
        let (v, s) ← Json.wordValue s
        .ok ({ d with modified := some v }, s)⟩]
  blank := ⟨none, none, none⟩
  build? := FileEntry.Draft.build?

/-- A file put into a tree, with the directories above it. -/
def FileEntry.place (e : FileEntry) : Action Unit := do
  Action.makeParent e.path
  Action.write e.path e.text.toUTF8
  Action.stamp e.path (Time.ofSeconds e.modified.toNat 0)

/-- The working directory of a snapshot. -/
def snapshotDir : Place := ["work"]

/-- The session that a snapshot describes, at a time; or what is wrong with the text or with one of its
files. -/
def Session.ofSnapshot (now : Time) (text : String) : Except String Session :=
  let start : Session := ⟨FileSystem.empty.put snapshotDir (.directory now), snapshotDir, now, "", ""⟩
  match (Json.listValue FileEntry.shape.read).document text with
  | .error d => .error d.message
  | .ok entries =>
    match entries.forM FileEntry.place start with
    | (.ok (), s) => .ok s
    | (.error e, _) => .error e.message

/-- How programs are started from a snapshot: no file of it is executable, and there are no others. -/
def snapshotLauncher : Build.Launcher := fun words dir _ s =>
  let program := words.headD ""
  if program.toList.contains '/' then
    match s.files.find dir ⟨program⟩ with
    | .ok _ => (.error .permissionDenied, s)
    | .error e => (.error e, s)
  else (.error .notFound, s)

end BindingPipeline.CommandLine
