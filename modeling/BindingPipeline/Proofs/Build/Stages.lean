/-
BindingPipeline/Proofs/Build/Stages.lean

The stages of a build, for a runner of which nothing is known but what it keeps.  A stage is taken by the
runner, which may do to the session what it likes; only staging, right behind the first stage, is known.

`Runner.Keeps` says that a property of the session survives every stage that the runner carries out.  Then
it survives a row of stages (`Staging.takeTurns_keeps`), and a build that succeeds falls into three parts
(`Staging.orchestrate_eq_ok`): the first stage, staging, and the other stages.
-/
import BindingPipeline.Build.Pipeline
import BindingPipeline.Proofs.Build.Staging

namespace BindingPipeline.Build

variable {σ α : Type} {s s' : Session} {r r' : σ} {runner : Runner σ} {report report' : Report}

/-! ### Turns -/

theorem Turn.ofAction_eq_ok_iff {a : Action α} {x : α} :
    Turn.ofAction a (r, s) = (.ok x, (r', s')) ↔ a s = (.ok x, s') ∧ r' = r := by
  show ((a s).1, (r, (a s).2)) = ((.ok x, (r', s')) : Except Error α × σ × Session) ↔ _
  rcases a s with ⟨result, last⟩
  simp [Id, eq_comm, and_comm, and_assoc]

namespace Runner

/-- A property of the session that survives every stage that the runner carries out. -/
def Keeps (runner : Runner σ) (P : Session → Prop) : Prop :=
  ∀ g r s, P s → P (runner.run g (r, s)).2.2

/-- What becomes of a stage that is taken without a failure. -/
theorem take_eq_ok {isDryRun : Bool} {g : Stage} {outcome : Outcome}
    (h : runner.take isDryRun g (r, s) = (.ok outcome, (r', s'))) :
    (isDryRun = true ∧ outcome = .dryRun ∧ r' = r ∧ s' = s) ∨
    (isDryRun = false ∧ runner.hasWork r g = false ∧ outcome = .skipped ∧ r' = r ∧ s' = s) ∨
    (isDryRun = false ∧ runner.hasWork r g = true ∧ outcome = .ran ∧
      runner.run g (r, s) = (.ok (), (r', s'))) := by
  unfold take at h
  cases isDryRun with
  | true =>
    cases h
    exact .inl ⟨rfl, rfl, rfl, rfl⟩
  | false =>
    simp only [Bool.false_eq_true, if_false] at h
    cases hwork : runner.hasWork r g with
    | false =>
      rw [hwork] at h
      cases h
      exact .inr (.inl ⟨rfl, rfl, rfl, rfl, rfl⟩)
    | true =>
      rw [hwork, if_pos rfl] at h
      rcases hrun : runner.run g (r, s) with ⟨e | ⟨⟩, rs⟩
      · rw [hrun] at h
        cases h
      · rw [hrun] at h
        cases h
        exact .inr (.inr ⟨rfl, rfl, rfl, rfl⟩)

theorem Keeps.take {P : Session → Prop} (hkeeps : runner.Keeps P) {isDryRun : Bool} {g : Stage}
    {outcome : Outcome} (h : runner.take isDryRun g (r, s) = (.ok outcome, (r', s'))) (hs : P s) :
    P s' := by
  rcases take_eq_ok h with ⟨-, -, -, rfl⟩ | ⟨-, -, -, -, rfl⟩ | ⟨-, -, -, hrun⟩
  · exact hs
  · exact hs
  · have hkept := hkeeps g r s hs
    rw [hrun] at hkept
    exact hkept

end Runner

/-! ### Rows of stages -/

namespace Staging

variable {st : Staging}

/-- The first stage of a row is taken, staging follows it if it is the one for that, and then come the
other stages. -/
theorem takeTurns_cons_eq_ok {g : Stage} {gs : List Stage}
    (h : st.takeTurns runner (g :: gs) report (r, s) = (.ok report', (r', s'))) :
    ∃ outcome staged r₁ s₁ s₂, runner.take st.isDryRun g (r, s) = (.ok outcome, (r₁, s₁)) ∧
      (g = .buildExt ∧ st.stageAll s₁ = (.ok staged, s₂) ∨
        g ≠ .buildExt ∧ staged = report.staged ∧ s₂ = s₁) ∧
      st.takeTurns runner gs ⟨report.stages ++ [(g, outcome)], staged⟩ (r₁, s₂) =
        (.ok report', (r', s')) := by
  unfold takeTurns at h
  rw [state_bind_eq_ok_iff] at h
  obtain ⟨outcome, ⟨r₁, s₁⟩, htake, h⟩ := h
  by_cases hext : g = .buildExt
  · rw [if_pos hext, state_bind_eq_ok_iff] at h
    obtain ⟨staged, ⟨r₂, s₂⟩, hstaging, hrest⟩ := h
    obtain ⟨hall, rfl⟩ := Turn.ofAction_eq_ok_iff.1 hstaging
    exact ⟨outcome, staged, r₂, s₁, s₂, htake, .inl ⟨hext, hall⟩, hrest⟩
  · rw [if_neg hext] at h
    exact ⟨outcome, report.staged, r₁, s₁, s₁, htake, .inr ⟨hext, rfl, rfl⟩, h⟩

/-- Behind staging the report of it stands, and what the runner keeps is kept. -/
theorem takeTurns_keeps {gs : List Stage} (hgs : .buildExt ∉ gs)
    (h : st.takeTurns runner gs report (r, s) = (.ok report', (r', s'))) :
    report'.staged = report.staged ∧ ∀ P, runner.Keeps P → P s → P s' := by
  induction gs generalizing report r s with
  | nil =>
    obtain ⟨rfl, hsame⟩ := state_pure_eq_ok_iff.1 h
    obtain ⟨rfl, rfl⟩ := Prod.mk.inj hsame
    exact ⟨rfl, fun _ _ hs => hs⟩
  | cons g gs ih =>
    obtain ⟨hg, hgs⟩ := List.ne_and_not_mem_of_not_mem_cons hgs
    obtain ⟨outcome, staged, r₁, s₁, s₂, htake, hstaging, hrest⟩ := takeTurns_cons_eq_ok h
    rcases hstaging with ⟨hext, -⟩ | ⟨-, rfl, rfl⟩
    · exact absurd hext.symm hg
    · obtain ⟨hstaged, hkept⟩ := ih hgs hrest
      exact ⟨hstaged, fun P hkeeps hs => hkept P hkeeps (hkeeps.take htake hs)⟩

/-- **The three parts of a build that succeeds**: the first stage, staging, and the other stages.  The
report names what has been staged. -/
theorem orchestrate_eq_ok (h : st.orchestrate runner (r, s) = (.ok report, (r', s'))) :
    ∃ s₁ s₂, (∀ P, runner.Keeps P → P s → P s₁) ∧ st.stageAll s₁ = (.ok report.staged, s₂) ∧
      ∀ P, runner.Keeps P → P s₂ → P s' := by
  obtain ⟨outcome, staged, r₁, s₁, s₂, htake, hstaging, hrest⟩ := takeTurns_cons_eq_ok h
  rcases hstaging with ⟨-, hall⟩ | ⟨hext, -⟩
  · obtain ⟨rfl, hkept⟩ := takeTurns_keeps (by decide) hrest
    exact ⟨s₁, s₂, fun P hkeeps hs => hkeeps.take htake hs, hall, hkept⟩
  · exact absurd rfl hext

end Staging

/-- A build that succeeds has generated both files, and then has gone through the stages. -/
theorem Plan.build_eq_ok {p : Plan} (h : p.build runner (r, s) = (.ok report, (r', s'))) :
    ∃ a s₁, p.generate s = (.ok a, s₁) ∧
      (p.staging a).orchestrate runner (r, s₁) = (.ok report, (r', s')) := by
  unfold build at h
  rw [state_bind_eq_ok_iff] at h
  obtain ⟨a, ⟨r₁, s₁⟩, hgenerate, hstages⟩ := h
  obtain ⟨hrun, rfl⟩ := Turn.ofAction_eq_ok_iff.1 hgenerate
  exact ⟨a, s₁, hrun, hstages⟩

end BindingPipeline.Build
