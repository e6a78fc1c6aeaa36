/-
BindingPipeline/CommandLine/Run.lean

A command line carried out: the manifest is loaded, the plan made, the request done, and what came of it
printed.  A failure is printed with what was being done and with all causes behind it; words that only ask
for help are answered before any file is looked at.
-/
import BindingPipeline.Build.CommandRunner
import BindingPipeline.CommandLine.Help

namespace BindingPipeline.CommandLine

open Build (Launcher Plan Roots Outcome Report)

/-! ### Failures -/

/-- A failure, with what was being done. -/
structure Failure where
  context : String
  error : Error
  deriving DecidableEq, Repr

/-- The lines of a text; those behind the first are indented. -/
def indented (blanks : String) (t : String) : String :=
  String.ofList (t.toList.flatMap fun c => if c == '\n' then '\n' :: blanks.toList else [c])

/-- The report on a failure.  A single cause stands alone, and several are numbered. -/
def Failure.report (f : Failure) : String :=
  let causes := match f.error.cause? with
    | none => "    " ++ indented "    " f.error.message ++ "\n"
    | some cause =>
      "    0: " ++ indented "       " f.error.message ++ "\n    1: " ++ indented "       " cause ++ "\n"
  "Error: " ++ f.context ++ "\n\nCaused by:\n" ++ causes

/-- An action of which a failure can say what was being done. -/
abbrev Task (α : Type) := ExceptT Failure (StateM Session) α

/-- An action done for a purpose. -/
def Task.of {α : Type} (context : String) (a : Action α) : Task α := fun s =>
  match a s with
  | (.ok x, s) => (.ok x, s)
  | (.error e, s) => (.error ⟨context, e⟩, s)

/-- A line on the standard output. -/
def say (t : String) : Task Unit := fun s => (.ok (), { s with output := s.output ++ t ++ "\n" })

/-! ### The plan -/

/-- The path of the working directory. -/
def workDir (cwd : Place) : Path := ⟨"/" ++ String.intercalate "/" cwd⟩

/-- The directory from which sources are resolved: the one that holds the manifest. -/
def sourceRoot (work manifest : Path) : Path :=
  match manifest.parent? with
  | none => work
  | some d => if d.text = "" then work else work.join d

/-- The plan of a request. -/
def loadPlan (r : Request) : Task Plan := do
  let config ← Task.of ("loading manifest " ++ r.config.text) (Build.loadConfig r.config)
  let s ← get
  let work := workDir s.cwd
  let roots : Roots := ⟨sourceRoot work r.config, work, r.buildRoot.map work.join⟩
  return { Plan.ofConfig config roots with manifest := some r.config }

/-! ### Requests -/

/-- The wording of what became of a stage. -/
def outcomeText : Outcome → String
  | .ran => "ran"
  | .skipped => "skipped (no work)"
  | .dryRun => "not run (dry run)"

/-- The lines of a report. -/
def reportLines (isDryRun : Bool) (r : Report) : List String :=
  r.stages.map (fun (g, outcome) => padded 14 g.name ++ " " ++ outcomeText outcome) ++
    r.staged.map fun p => (if isDryRun then "would stage " else "staged ") ++ p.text

/-- Both files generated, and their paths printed. -/
def generate (p : Plan) : Task Unit := do
  let a ← Task.of "generating binding artifacts" p.generate
  say a.interface.text
  say a.metadata.text

/-- The package built, or only rehearsed, and the stages reported. -/
def build (launch : Launcher) (p : Plan) (isDryRun : Bool) : Task Unit := do
  let p := { p with isDryRun }
  let turn : Action Report := fun s =>
    let (result, (_, s)) := p.build (p.commandRunner launch).toRunner ((), s)
    (result, s)
  let r ← Task.of "building package" turn
  (reportLines isDryRun r).forM say

/-- The module printed as it would be written, in the format of the manifest unless another is named. -/
def inspect (p : Plan) (format : Option Metadata.Format) : Task Unit := do
  let m ← Task.of "compiling catalogs" p.compile
  let text := (format.getD p.config.outputs.format).encode m
  modify fun s => { s with output := s.output ++ text }

/-- Whether the two files are up to date. -/
def status (p : Plan) : Task Unit := do
  let files ← Task.of "checking generated files" p.status
  files.forM fun (path, isStale) =>
    say (padded 10 (if isStale then "stale" else "up to date") ++ " " ++ path.text)

/-- A request carried out. -/
def perform (launch : Launcher) (r : Request) : Task Unit := do
  let p ← loadPlan r
  match r.verb with
  | .generate => generate p
  | .build isDryRun => build launch p isDryRun
  | .inspect format => inspect p format
  | .status => status p

/-- A command line carried out: the exit code, and the session behind it. -/
def run (launch : Launcher) (words : List String) (s : Session) : Nat × Session :=
  match Request.ofWords words with
  | .error .misuse => (2, s)
  | .error (.help topic) => (0, { s with output := s.output ++ topic.text })
  | .ok r =>
    match perform launch r s with
    | (.ok (), s) => (0, s)
    | (.error f, s) => (1, { s with complaints := s.complaints ++ f.report })

end BindingPipeline.CommandLine
