/-
BindingPipeline/Build/Stages.lean

The build stages in their order.  A runner says which stages have work and does it; it may keep a state of
its own and change the session.  Right after the first stage, whether it had work or not, the
artifacts are staged.
-/
import BindingPipeline.Build.Staging

namespace BindingPipeline.Build

/-- An action of a runner that keeps a state. -/
abbrev Turn (σ α : Type) := ExceptT Error (StateM (σ × Session)) α

/-- An action in which the runner has no part. -/
def Turn.ofAction {σ α : Type} (a : Action α) : Turn σ α := fun (r, s) =>
  let (result, s) := a s
  (result, (r, s))

/-- What carries out the stages. -/
structure Runner (σ : Type) where
  hasWork : σ → Stage → Bool
  run : Stage → Turn σ Unit

/-- What became of a stage. -/
inductive Outcome
  | ran
  | skipped
  | dryRun
  deriving DecidableEq, Repr

/-- What became of the stages, and where the artifacts are. -/
structure Report where
  stages : List (Stage × Outcome)
  staged : List Path
  deriving DecidableEq, Repr

/-- A failure as one of a stage; one that names a stage already stays as it is. -/
def ofStage (g : Stage) : Error → Error
  | .stageFailed g' fault => .stageFailed g' fault
  | e => .stageFailed g (.raised e.message)

variable {σ : Type}

/-- A stage carried out, and what became of it. -/
def Runner.take (runner : Runner σ) (isDryRun : Bool) (g : Stage) : Turn σ Outcome := fun (r, s) =>
  if isDryRun then (.ok .dryRun, (r, s))
  else if runner.hasWork r g then
    match runner.run g (r, s) with
    | (.ok (), rs) => (.ok .ran, rs)
    | (.error e, rs) => (.error (ofStage g e), rs)
  else (.ok .skipped, (r, s))

namespace Staging

/-- The stages that are still to come, with what is reported so far. -/
def takeTurns (st : Staging) (runner : Runner σ) : List Stage → Report → Turn σ Report
  | [], report => return report
  | g :: gs, report => do
    let outcome ← runner.take st.isDryRun g
    -- Staging follows the first stage, whether that had work or not.
    let staged ←
      if g = .buildExt then Turn.ofAction st.stageAll else pure report.staged
    st.takeTurns runner gs ⟨report.stages ++ [(g, outcome)], staged⟩

/-- All stages. -/
def orchestrate (st : Staging) (runner : Runner σ) : Turn σ Report :=
  st.takeTurns runner Stage.all ⟨[], []⟩

end Staging

end BindingPipeline.Build
