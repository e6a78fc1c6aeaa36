/-
BindingPipeline/Build/CommandRunner.lean

The runner that carries out the commands of a manifest, one program for each stage.  Which programs there are
and what they do is no part of the pipeline: a launcher starts them.
-/
import BindingPipeline.Build.Pipeline

namespace BindingPipeline.Build

/-- The variable in which a stage command finds the output root. -/
def buildRootVariable : String := "NUMWELD_BUILD_ROOT"

/-- How a program is started: by its words, in a directory and with some variables.  It makes something of the
session and ends, or it does not start. -/
abbrev Launcher :=
  List String → Place → List (String × String) → Session → Except SystemError ExitStatus × Session

/-- Commands, the directory in which they run, the variables that they find set, and what starts them. -/
structure CommandRunner where
  commands : Manifest.StageCommands
  cwd : Path
  bindings : List (String × String)
  launch : Launcher

namespace CommandRunner

/-- Does the stage have a command? -/
def hasWork (r : CommandRunner) (g : Stage) : Bool := (r.commands.get? g).isSome

/-- A program started.  The texts that it is to have and its directory are looked at before. -/
def start (r : CommandRunner) (words : List String) : StateM Session (Except SystemError ExitStatus) :=
  fun s =>
    let texts := words ++ r.cwd.text :: r.bindings.flatMap fun v => [v.1, v.2]
    if texts.any fun t => t.toList.contains '\x00' then (.error .zeroInText, s)
    else
      match s.files.find s.cwd r.cwd with
      | .error e => (.error e, s)
      | .ok (_, .file _ _) => (.error .notDirectory, s)
      | .ok (dir, .directory _) => r.launch words dir r.bindings s

/-- The command of a stage run.  Without one there is nothing to do. -/
def run (r : CommandRunner) (g : Stage) : Action Unit := fun s =>
  match r.commands.get? g with
  | none => (.ok (), s)
  | some words =>
    let program := words.headD ""
    match r.start words s with
    | (.ok status, s) =>
      (if status.isSuccess then .ok () else .error (.stageFailed g (.ended program status)), s)
    | (.error e, s) => (.error (.stageFailed g (.notStarted program e)), s)

/-- The runner of the commands, which keeps no state. -/
def toRunner (r : CommandRunner) : Runner Unit where
  hasWork := fun _ g => r.hasWork g
  run := fun g => Turn.ofAction (r.run g)

end CommandRunner

/-- The runner of a plan: its commands, in the source root. -/
def Plan.commandRunner (p : Plan) (launch : Launcher) : CommandRunner :=
  ⟨p.config.stages, p.roots.sourceRoot, [(buildRootVariable, p.roots.outputRoot.text)], launch⟩

end BindingPipeline.Build
