/-
BindingPipeline/Proofs/Build/Rehearsal.lean

A rehearsal tells what the stages would come to.  Nothing is asked of the runner, and of the artifacts only
their file names; so what comes of a rehearsal is known before anything is looked at, and it agrees with
every run for real that succeeds, whatever that meets and does.

Design.  The two runs go through one loop, and part where a stage is taken and where an artifact is
staged.  In a rehearsal each of these is a constant (`Runner.take_of_rehearsal`,
`Staging.stageAll_of_rehearsal`).  Of a run for real nothing is needed but that it has staged
(`Staging.orchestrate_eq_ok`), since the destinations that it reports are those that the names give.

Main result: `Staging.rehearsal_predicts`.
-/
import BindingPipeline.Proofs.Build.Delivery
import BindingPipeline.Proofs.Build.Protocol

namespace BindingPipeline.Build

variable {σ : Type} {x : σ × Session} {runner : Runner σ} {st : Staging} {report : Report}

theorem Runner.take_of_rehearsal (runner : Runner σ) (g : Stage) (x : σ × Session) :
    runner.take true g x = (.ok .dryRun, x) := rfl

namespace Staging

/-- In a rehearsal no stage is taken, but staging keeps its turn. -/
theorem takeTurns_cons_of_rehearsal (hdry : st.isDryRun = true) (g : Stage) (gs : List Stage) :
    st.takeTurns runner (g :: gs) report x =
      ((if g = .buildExt then Turn.ofAction st.stageAll else pure report.staged) >>= fun staged =>
        st.takeTurns runner gs ⟨report.stages ++ [(g, .dryRun)], staged⟩) x := by
  rw [takeTurns, hdry, state_bind_apply, Runner.take_of_rehearsal]
  by_cases hext : g = .buildExt
  · simp only [if_pos hext]
  · simp only [if_neg hext]

/-- The stages behind staging are only named. -/
theorem takeTurns_of_rehearsal (hdry : st.isDryRun = true) {gs : List Stage} (hgs : .buildExt ∉ gs) :
    st.takeTurns runner gs report x =
      (.ok ⟨report.stages ++ gs.map (·, .dryRun), report.staged⟩, x) := by
  induction gs generalizing report with
  | nil =>
    rw [List.map_nil, List.append_nil]
    rfl
  | cons g gs ih =>
    obtain ⟨hg, hgs⟩ := List.ne_and_not_mem_of_not_mem_cons hgs
    rw [takeTurns_cons_of_rehearsal hdry, if_neg (Ne.symm hg), pure_bind, ih hgs, List.map_cons,
      List.append_assoc, List.singleton_append]

/-- What comes of a rehearsal: every stage is named, and every artifact has a destination or the first one
without a file name is the failure. -/
def rehearsal (st : Staging) : Except Error Report := do
  return ⟨Stage.all.map (·, .dryRun), ← st.artifacts.mapM st.destination⟩

theorem orchestrate_of_rehearsal (hdry : st.isDryRun = true) (runner : Runner σ) (x : σ × Session) :
    st.orchestrate runner x = (st.rehearsal, x) := by
  have hrest : Stage.buildExt ∉ [Stage.buildPy, Stage.buildClib, Stage.buildScripts] := by decide
  have hall : Stage.all = .buildExt :: [.buildPy, .buildClib, .buildScripts] := rfl
  unfold orchestrate rehearsal
  rw [hall, takeTurns_cons_of_rehearsal hdry, if_pos rfl, state_bind_apply, Turn.ofAction_apply,
    stageAll_of_rehearsal hdry]
  cases st.artifacts.mapM st.destination with
  | error e => rfl
  | ok dests => exact takeTurns_of_rehearsal hdry hrest

theorem rehearsal_eq_ok_iff : st.rehearsal = .ok report ↔ report.stages = Stage.all.map (·, .dryRun) ∧
    List.Forall₂ (fun artifact dest => st.destination artifact = .ok dest) st.artifacts report.staged := by
  unfold rehearsal
  simp only [bind_eq_ok_iff, pure_eq_ok_iff, mapM_eq_ok_iff]
  constructor
  · rintro ⟨dests, hdests, rfl⟩
    exact ⟨rfl, hdests⟩
  · rintro ⟨hstages, hdests⟩
    exact ⟨report.staged, hdests, by rw [← hstages]⟩

/-- An artifact has a destination exactly if it has a file name. -/
theorem exists_destination_iff (artifact : Path) :
    (∃ dest, st.destination artifact = .ok dest) ↔ artifact.fileName? ≠ none := by
  simp only [destination_eq_ok_iff, Option.ne_none_iff_exists']
  constructor
  · rintro ⟨-, name, hname, -⟩
    exact ⟨name, hname⟩
  · rintro ⟨name, hname⟩
    exact ⟨_, name, hname, rfl⟩

theorem rehearsal_eq_error_iff {e : Error} : st.rehearsal = .error e ↔ ∃ artifact,
    FirstWithout (fun a => a.fileName? ≠ none) st.artifacts artifact ∧ e = .io artifact .noFileName := by
  have hmapM : st.rehearsal = .error e ↔ st.artifacts.mapM st.destination = .error e := by
    unfold rehearsal
    rw [bind_eq_error_iff]
    refine or_iff_left ?_
    rintro ⟨dests, -, hpure⟩
    exact nomatch hpure
  rw [hmapM, mapM_eq_error_iff exists_destination_iff]
  refine exists_congr fun artifact => and_congr_right fun ⟨_, _, _, _, hnameless⟩ => ?_
  have hfails : st.destination artifact = .error (.io artifact .noFileName) := by
    unfold destination
    rw [not_not.1 hnameless]
    rfl
  rw [hfails, Except.error.injEq, eq_comm]

/-- **A rehearsal predicts the run for real.**  Its result does not depend on the runner or on the session,
and it leaves both as they are.  It succeeds exactly if every artifact has a file name, and then names
all stages, in order, and the destinations of the artifacts; else the failure is that of the first
artifact without one.  Where the run for real succeeds, with any runner and in any session, the rehearsal
does, and it names what has been staged. -/
theorem rehearsal_predicts (st : Staging) : ∃ result : Except Error Report,
    (∀ {σ : Type} (runner : Runner σ) (x : σ × Session),
      { st with isDryRun := true }.orchestrate runner x = (result, x)) ∧
    (∀ {σ : Type} (runner : Runner σ) (r : σ) (s : Session),
      ({ st with isDryRun := true }.orchestrate runner.recorded ((r, []), s)).2.1.2 = []) ∧
    (∀ report, result = .ok report ↔ report.stages = Stage.all.map (·, .dryRun) ∧
      List.Forall₂ (fun artifact dest => st.destination artifact = .ok dest) st.artifacts report.staged) ∧
    (∀ e, result = .error e ↔ ∃ artifact,
      FirstWithout (fun a => a.fileName? ≠ none) st.artifacts artifact ∧ e = .io artifact .noFileName) ∧
    ∀ {σ : Type} (runner : Runner σ) (x y : σ × Session) (report : Report),
      { st with isDryRun := false }.orchestrate runner x = (.ok report, y) →
        result = .ok ⟨Stage.all.map (·, .dryRun), report.staged⟩ := by
  have hdry : ∀ {σ : Type} (runner : Runner σ) (x : σ × Session),
      { st with isDryRun := true }.orchestrate runner x = (st.rehearsal, x) :=
    orchestrate_of_rehearsal rfl
  refine ⟨st.rehearsal, hdry, fun runner r s => by rw [hdry], fun report => rehearsal_eq_ok_iff,
    fun e => rehearsal_eq_error_iff, ?_⟩
  rintro σ runner ⟨r, s⟩ ⟨r', s'⟩ report hrun
  obtain ⟨s₁, s₂, -, hstaged, -⟩ := orchestrate_eq_ok hrun
  have hdests := destinations_of_stageAll hstaged
  exact rehearsal_eq_ok_iff.2 ⟨rfl, hdests⟩

/-- An artifact that has a file name, and two that have none. -/
def nameless : Staging := ⟨⟨"lib"⟩, [⟨"head.i"⟩, ⟨"gen/.."⟩, ⟨"/"⟩], false⟩

/-- The build of the small plan is predicted, and so is the failure for an artifact without a name. -/
theorem small_predicted :
    (∃ made, (Plan.small.delivery.orchestrate Plan.idle ((), made)).1 =
        .ok ⟨Stage.all.map (·, .skipped),
          [⟨"./out/build/lib/bridge/_info.py"⟩, ⟨"./out/build/lib/bridge/bridge.i"⟩]⟩ ∧
      { Plan.small.delivery with isDryRun := true }.orchestrate Plan.idle ((), made) =
        (.ok ⟨Stage.all.map (·, .dryRun),
          [⟨"./out/build/lib/bridge/_info.py"⟩, ⟨"./out/build/lib/bridge/bridge.i"⟩]⟩, ((), made))) ∧
    { nameless with isDryRun := true }.orchestrate Plan.idle ((), Plan.smallSession ⟨9⟩ []) =
      (.error (.io ⟨"gen/.."⟩ .noFileName), ((), Plan.smallSession ⟨9⟩ [])) := by
  have hresult := Plan.small_build
  rcases hbuild : Plan.small.build Plan.idle ((), Plan.smallSession ⟨9⟩ []) with ⟨result, r', s'⟩
  rw [hbuild] at hresult
  obtain rfl : result = .ok _ := hresult
  obtain ⟨a, made, hgenerate, hstages⟩ := Plan.build_eq_ok hbuild
  rw [Plan.staging_eq hgenerate] at hstages
  obtain ⟨result, hdry, -, -, -, hpredicts⟩ := rehearsal_predicts Plan.small.delivery
  obtain ⟨result', hdry', -, -, hfails, -⟩ := rehearsal_predicts nameless
  have hfirst : FirstWithout (fun a => a.fileName? ≠ none) nameless.artifacts ⟨"gen/.."⟩ :=
    ⟨[⟨"head.i"⟩], [⟨"/"⟩], rfl, by decide, by decide⟩
  refine ⟨⟨made, by rw [hstages], ?_⟩, ?_⟩
  · rw [hdry, hpredicts Plan.idle _ _ _ hstages]
  · rw [hdry', (hfails _).2 ⟨_, hfirst, rfl⟩]

end Staging

end BindingPipeline.Build
