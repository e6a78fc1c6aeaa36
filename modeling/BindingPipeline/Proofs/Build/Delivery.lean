/-
BindingPipeline/Proofs/Build/Delivery.lean

What a build delivers.  Staging names a copy by the directory of the package and the file name of the
artifact, and compares the two files with nothing.  Where all of them are different, a build that succeeds
has delivered both generated files, whatever the runner does elsewhere.  Where two of them are one, it
succeeds as well: a file that is staged onto itself is emptied before it is read, and of two artifacts with
one file name the second takes the place of the first.

Main results:

* `Staging.orchestrate_delivers`: a row of stages delivers files that are kept apart from their copies.
* `Plan.build_delivers`: so does a build.
* `Plan.not_delivers_shared_place`: two builds that succeed without having delivered both files.
-/
import BindingPipeline.Proofs.Build.Failure
import BindingPipeline.Proofs.Build.Stages

namespace BindingPipeline.Build

open FileSystem

variable {σ : Type} {s s' made : Session} {r r' : σ} {runner : Runner σ} {report : Report} {cwd : Place}

/-! ### Delivered files -/

/-- What a path held in one session it holds in the other, and a second path holds it there too. -/
def Delivered (made s' : Session) (artifact copy : Path) : Prop :=
  ∃ bytes t, made.Holds artifact bytes t ∧ s'.Holds artifact bytes t ∧ s'.Holds copy bytes t

theorem Delivered.fileAt_eq {artifact copy : Path} (h : Delivered made s' artifact copy) :
    s'.fileAt artifact = made.fileAt artifact ∧ s'.fileAt copy = made.fileAt artifact := by
  obtain ⟨bytes, t, hmade, hartifact, hcopy⟩ := h
  rw [hmade.fileAt, hartifact.fileAt, hcopy.fileAt]
  exact ⟨rfl, rfl⟩

/-- Whatever the runner does, the files that some paths hold stay there. -/
structure Runner.LeavesAlone (runner : Runner σ) (cwd : Place) (paths : List Path) : Prop where
  stays : runner.Keeps fun s => s.cwd = cwd
  holds : ∀ path ∈ paths, ∀ bytes t, runner.Keeps fun s => s.cwd = cwd ∧ s.Holds path bytes t

namespace Staging

variable {st : Staging}

/-- Where an artifact is staged if it has a file name. -/
def copyOf (st : Staging) (artifact : Path) : Path :=
  st.directory.join ⟨artifact.fileName?.getD ""⟩

/-- The copies of all artifacts. -/
def copies (st : Staging) : List Path := st.artifacts.map st.copyOf

theorem copies_of_destinations {artifacts dests : List Path}
    (h : List.Forall₂ (fun artifact dest => st.destination artifact = .ok dest) artifacts dests) :
    dests = artifacts.map st.copyOf := by
  induction h with
  | nil => rfl
  | cons hdest _ ih =>
    obtain ⟨name, hname, rfl⟩ := destination_eq_ok_iff.1 hdest
    rw [List.map_cons, ← ih, copyOf, hname]
    rfl

/-- All copies are different files, and none is an artifact. -/
structure KeepsApart (st : Staging) (cwd : Place) : Prop where
  nodup : (st.copies.map (target cwd)).Nodup
  apart : ∀ artifact ∈ st.artifacts, ∀ copy ∈ st.copies, target cwd artifact ≠ target cwd copy

/-- **Artifacts that are kept apart from their copies are delivered** if all stages succeed. -/
theorem orchestrate_delivers (hreal : st.isDryRun = false) (hapart : st.KeepsApart s.cwd)
    (halone : runner.LeavesAlone s.cwd (st.artifacts ++ st.copies))
    (hheld : ∀ artifact ∈ st.artifacts, ∃ bytes t, s.Holds artifact bytes t)
    (h : st.orchestrate runner (r, s) = (.ok report, (r', s'))) :
    List.Forall₂ (Delivered s s') st.artifacts report.staged := by
  obtain ⟨s₁, s₂, hbefore, hall, hbehind⟩ := orchestrate_eq_ok h
  obtain ⟨mid, hmake, hstages⟩ := stageAll_eq_ok hreal hall
  have hcopies : report.staged = st.copies := copies_of_destinations hstages.destinations
  have hcwd₁ : s₁.cwd = s.cwd := hbefore _ halone.stays rfl
  have hcwd : mid.cwd = s.cwd := hmake.cwd.trans hcwd₁
  have hcwd₂ : s₂.cwd = s.cwd := hstages.within.cwd.trans hcwd
  -- staging finds the artifacts as they were at the start, and what it leaves is there at the end
  have hfound : ∀ artifact ∈ st.artifacts, ∀ bytes t,
      s.Holds artifact bytes t → mid.Holds artifact bytes t := by
    intro artifact hmem bytes t hholds
    have hkept := hbefore _ (halone.holds artifact (List.mem_append_left _ hmem) bytes t) ⟨rfl, hholds⟩
    exact hkept.2.within hmake (Set.notMem_empty _)
  have hlast : ∀ path ∈ st.artifacts ++ st.copies, ∀ bytes t,
      s₂.Holds path bytes t → s'.Holds path bytes t :=
    fun path hmem bytes t hholds => (hbehind _ (halone.holds path hmem bytes t) ⟨hcwd₂, hholds⟩).2
  have hcopied := hstages.holds (by rw [hcwd, hcopies]; exact hapart.nodup)
    (by rw [hcwd, hcopies]; exact hapart.apart)
  rw [hcopies, copies, List.forall₂_map_right_iff, List.forall₂_same] at hcopied ⊢
  intro artifact hmem
  obtain ⟨bytes, t, hholds⟩ := hheld artifact hmem
  have hmid := hfound artifact hmem bytes t hholds
  refine ⟨bytes, t, hholds, hlast _ (List.mem_append_left _ hmem) _ _ (hmid.within hstages.within ?_),
    hlast _ (List.mem_append_right _ (List.mem_map_of_mem hmem)) _ _ (hcopied artifact hmem _ _ hmid)⟩
  -- no copy has been written over the artifact
  rintro ⟨copy, hcopy, heq⟩
  rw [hcwd] at heq
  exact hapart.apart artifact hmem copy (hcopies ▸ hcopy) heq

end Staging

namespace Plan

variable {p : Plan} {a : Artifacts}

/-- How a build stages the generated files, the metadata module first. -/
def delivery (p : Plan) : Staging := ⟨p.stagingDir, [p.metadataPath, p.interfacePath], p.isDryRun⟩

theorem staging_eq (h : p.generate s = (.ok a, s')) : p.staging a = p.delivery := by
  obtain ⟨-, -, -, -, -, -, -, -, -, rfl⟩ := generate_steps h
  rfl

/-- Both files are there when generating has succeeded, each with the time that is reported. -/
theorem holds_of_generate (h : p.generate s = (.ok a, s')) :
    (∃ bytes, s'.Holds p.metadataPath bytes a.metadataStamp) ∧
      ∃ bytes t, s'.Holds p.interfacePath bytes t := by
  obtain ⟨m', -, hmodule⟩ := metadata_of_generate h
  obtain ⟨m, t, mid, t', last, -, hinterface, hmetadata, hemit, -⟩ := generate_steps h
  have hsecond := metadataStepOn_within.of_eq hmetadata
  have hlast : last.Within s' ∅ ∅ := emitDirectives_within.of_eq hemit
  obtain ⟨bytes, hbytes⟩ := holds_of_assembleOn hinterface
  obtain ⟨bytes', t'', hstays⟩ := hbytes.stays hsecond
  exact ⟨⟨_, hmodule⟩, bytes', t'', hstays.within hlast (Set.notMem_empty _)⟩

/-- If a build succeeds, it has delivered what it has generated: the report names a copy of the metadata
module and one of the interface description. -/
def Delivers (p : Plan) (runner : Runner σ) (r : σ) (s : Session) : Prop :=
  ∀ report r' s', p.build runner (r, s) = (.ok report, (r', s')) →
    ∃ a made, p.generate s = (.ok a, made) ∧
      List.Forall₂ (Delivered made s') [p.metadataPath, p.interfacePath] report.staged

/-- **A build delivers both files**, if they and their copies are four different files. -/
theorem build_delivers (hreal : p.isDryRun = false) (hapart : p.delivery.KeepsApart s.cwd)
    (halone : runner.LeavesAlone s.cwd (p.delivery.artifacts ++ p.delivery.copies)) :
    p.Delivers runner r s := by
  intro report r' s' hbuild
  obtain ⟨a, made, hgenerate, hstages⟩ := build_eq_ok hbuild
  have hcwd : made.cwd = s.cwd := (generate_within.of_eq hgenerate).cwd
  obtain ⟨⟨bytes, hmetadata⟩, hinterface⟩ := holds_of_generate hgenerate
  rw [staging_eq hgenerate] at hstages
  refine ⟨a, made, hgenerate, Staging.orchestrate_delivers hreal ?_ ?_ ?_ hstages⟩
  · rwa [hcwd]
  · rwa [hcwd]
  · exact List.forall_mem_cons.2 ⟨⟨bytes, _, hmetadata⟩, List.forall_mem_singleton.2 hinterface⟩

/-! ### Small builds -/

/-- A runner that has nothing to do. -/
def idle : Runner Unit := ⟨fun _ _ => false, fun _ => pure ()⟩

theorem idle_leavesAlone (cwd : Place) (paths : List Path) : idle.LeavesAlone cwd paths :=
  ⟨fun _ _ _ hs => hs, fun _ _ _ _ _ _ _ hs => hs⟩

theorem small_build : (small.build idle ((), smallSession ⟨9⟩ [])).1 =
    .ok ⟨Stage.all.map (·, .skipped),
      [⟨"./out/build/lib/bridge/_info.py"⟩, ⟨"./out/build/lib/bridge/bridge.i"⟩]⟩ := by
  decide +kernel

theorem small_delivers :
    (small.build idle ((), smallSession ⟨9⟩ [])).1.toOption.isSome ∧
    small.Delivers idle () (smallSession ⟨9⟩ []) :=
  ⟨by rw [small_build]; rfl, build_delivers rfl ⟨by decide +kernel, by decide +kernel⟩ (idle_leavesAlone _ _)⟩

/-- What was generated is what the paths of the report hold, if it has been delivered. -/
theorem Delivers.staged (hdelivers : p.Delivers runner r s)
    (h : (p.build runner (r, s)).1 = .ok report) :
    [p.metadataPath, p.interfacePath].map (p.generate s).2.fileAt =
      report.staged.map (p.build runner (r, s)).2.2.fileAt := by
  rcases hbuild : p.build runner (r, s) with ⟨result, r', s'⟩
  rw [hbuild] at h
  obtain rfl : result = .ok report := h
  obtain ⟨a, made, hgenerate, hfiles⟩ := hdelivers report r' s' hbuild
  rw [hgenerate, ← List.forall₂_eq_eq_eq, List.forall₂_map_left_iff, List.forall₂_map_right_iff]
  exact hfiles.imp fun _ _ h => h.fileAt_eq.2.symm

/-- `small` with the directory of the package where the generated files are. -/
def selfStaged : Plan := { small with config.package := ⟨".", ⟨"."⟩⟩ }

/-- `small` with outputs in two directories that have one file name. -/
def namesakes : Plan := { small with config.outputs := ⟨⟨"gen/api"⟩, ⟨"info/api"⟩, .python⟩ }

/-- The build succeeds, but two files that it makes are one. -/
theorem not_delivers_shared_place :
    (∀ cwd paths, idle.LeavesAlone cwd paths) ∧
    (selfStaged.isDryRun = false ∧ ¬ selfStaged.Delivers idle () (smallSession ⟨9⟩ []) ∧
      ∀ path ∈ [selfStaged.metadataPath, selfStaged.interfacePath],
        ((selfStaged.build idle ((), smallSession ⟨9⟩ [])).2.2.fileAt path).map Prod.fst =
          some ByteArray.empty) ∧
    namesakes.isDryRun = false ∧ ¬ namesakes.Delivers idle () (smallSession ⟨9⟩ []) := by
  have hself : (selfStaged.build idle ((), smallSession ⟨9⟩ [])).1 =
      .ok ⟨Stage.all.map (·, .skipped), [⟨"./out/././_info.py"⟩, ⟨"./out/././bridge.i"⟩]⟩ := by
    decide +kernel
  have hnames : (namesakes.build idle ((), smallSession ⟨9⟩ [])).1 =
      .ok ⟨Stage.all.map (·, .skipped),
        [⟨"./out/build/lib/bridge/api"⟩, ⟨"./out/build/lib/bridge/api"⟩]⟩ := by
    decide +kernel
  refine ⟨idle_leavesAlone, ⟨rfl, fun hdelivers => ?_, by decide +kernel⟩, rfl, fun hdelivers => ?_⟩
  · exact absurd (hdelivers.staged hself) (by decide +kernel)
  · exact absurd (hdelivers.staged hnames) (by decide +kernel)

end Plan

end BindingPipeline.Build
