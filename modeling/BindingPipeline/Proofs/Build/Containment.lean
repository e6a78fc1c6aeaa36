/-
BindingPipeline/Proofs/Build/Containment.lean

Where a run writes.  If the paths of a configuration go down only (`Plan.Descends`), all that is written
lies below the output root, whatever its spelling is and wherever the run stops, and all that is staged lies
right in the staging directory.

Design.  The bounds of the steps are known already in terms of the outputs; what is added here is where the
outputs are, which is a matter of paths alone (`FileSystem.target_join`).  One case stands apart: an output
without names is the root itself, but there no file can be written (`FileSystem.not_writable_join`), so the
steps are bounded by the places at which one can be (`Action.makeFile_within`).  For a build the runner must
leave the tree alone (`Runner.TouchesNoFiles`).

Main result: `Plan.outputs_contained`.
-/
import BindingPipeline.Build.CommandRunner
import BindingPipeline.Proofs.Build.Regeneration
import BindingPipeline.Proofs.FileSystem.Below

namespace BindingPipeline.Build

open FileSystem

variable {σ : Type} {s s' : Session} {cwd : Place} {D : Set Place}

/-! ### Staging -/

namespace Staging

variable {st : Staging} {artifact dest : Path}

/-- The places right in the directory. -/
def insidePlaces (st : Staging) (cwd : Place) : Set Place :=
  {q | ∃ name, q = target cwd st.directory ++ [name]}

/-- The path is a file name in the directory, and the place is right in that of the directory. -/
def Contains (st : Staging) (cwd : Place) (dest : Path) : Prop :=
  ∃ name, dest = st.directory.join ⟨name⟩ ∧ target cwd dest = target cwd st.directory ++ [name]

theorem contains_of_destination (cwd : Place) (h : st.destination artifact = .ok dest) :
    st.Contains cwd dest := by
  obtain ⟨name, hname, rfl⟩ := destination_eq_ok_iff.1 h
  exact ⟨name, rfl, target_join_fileName hname⟩

theorem stageOne_within : (st.stageOne artifact).Within cwd (st.insidePlaces cwd) D := by
  unfold stageOne
  cases hdest : st.destination artifact with
  | error e => exact fun s _ => .refl s _ _
  | ok dest =>
    obtain ⟨name, -, hplace⟩ := contains_of_destination cwd hdest
    have hinside : {target cwd dest} ⊆ st.insidePlaces cwd := Set.singleton_subset_iff.2 ⟨name, hplace⟩
    rw [Action.lift_bind]
    split
    · exact (Action.Reads.pure dest).within
    · refine (Action.Reads.ask _ _).within.bind fun t => ?_
      exact (copyFile_within.mono hinside subset_rfl).bind fun _ =>
        ((Action.stamp_within t).mono hinside subset_rfl).bind fun _ => (Action.Reads.pure dest).within

/-- Wherever it stops, staging writes right in the directory, and makes that and those above it. -/
theorem stageAll_within : st.stageAll.Within cwd (st.insidePlaces cwd)
    (insert (target cwd st.directory) (placesAbove cwd st.directory)) := by
  have hcopies : (st.artifacts.mapM st.stageOne).Within cwd (st.insidePlaces cwd)
      (insert (target cwd st.directory) (placesAbove cwd st.directory)) :=
    Action.Within.mapM fun artifact _ => stageOne_within
  unfold stageAll
  split
  · exact (Action.makeDirectories_within _).bind fun _ => hcopies
  · exact hcopies

theorem contains_of_stageAll {dests : List Path} (cwd : Place) (h : st.stageAll s = (.ok dests, s')) :
    ∀ dest ∈ dests, st.Contains cwd dest := by
  intro dest hmem
  obtain ⟨artifact, -, hdest⟩ := exists_mem_of_forall₂ (destinations_of_stageAll h).flip hmem
  exact contains_of_destination cwd hdest

end Staging

/-! ### Runs -/

namespace Plan

variable {p : Plan} {runner : Runner σ} {r : σ} {report : Report}

/-- All that the configuration says about outputs goes down only. -/
structure Descends (p : Plan) : Prop where
  interface : p.config.outputs.interface.Descends
  metadata : p.config.outputs.metadata.Descends
  buildLib : p.config.package.buildLib.Descends
  package : (Path.mk p.config.package.name).Descends

/-- The places below the output root. -/
def filePlaces (p : Plan) (cwd : Place) : Set Place :=
  {q | ∃ ns, ns ≠ [] ∧ q = target cwd p.roots.outputRoot ++ ns}

/-- The output root with the places below it, and those of the paths above it. -/
def directoryPlaces (p : Plan) (cwd : Place) : Set Place :=
  {q | target cwd p.roots.outputRoot <+: q} ∪ placesAbove cwd p.roots.outputRoot

/-- From one session to the other files have been written below the output root only, and directories made
there, at the root itself and above it. -/
def KeepsToRoot (p : Plan) (s s' : Session) : Prop :=
  s.files.ChangesOnly s'.files (p.filePlaces s.cwd) (p.directoryPlaces s.cwd)

theorem writablePlaces_build {rel : Path} (h : rel.Descends) :
    writablePlaces cwd (p.roots.build rel) ⊆ p.filePlaces cwd := by
  rintro q ⟨rfl, fs, hwritable⟩
  refine ⟨rel.names, fun hnames => ?_, target_join h⟩
  exact not_writable_join h.relative hnames hwritable

theorem placesAbove_build {rel : Path} (h : rel.Descends) :
    placesAbove cwd (p.roots.build rel) ⊆ p.directoryPlaces cwd := placesAbove_join h

/-- Generating writes below the output root. -/
theorem generate_within_root (h : p.Descends) :
    p.generate.Within cwd (p.filePlaces cwd) (p.directoryPlaces cwd) := by
  apply generate_within_of_steps
  · exact assemble_within_writable.mono (writablePlaces_build h.interface) (placesAbove_build h.interface)
  · exact fun m =>
      writeMetadata_within_writable.mono (writablePlaces_build h.metadata) (placesAbove_build h.metadata)

/-- The directory of the package is two steps below the output root. -/
theorem target_stagingDir (h : p.Descends) : target cwd p.stagingDir =
    target cwd p.roots.outputRoot ++ (p.config.package.buildLib.names ++
      (Path.mk p.config.package.name).names) := by
  have hbuildLib : target cwd (p.roots.build p.config.package.buildLib) =
      target cwd p.roots.outputRoot ++ p.config.package.buildLib.names := target_join h.buildLib
  unfold stagingDir
  rw [target_join h.package, hbuildLib, List.append_assoc]

/-- Staging makes its directories at the output root, below it and above it. -/
theorem directories_of_stageAll (h : p.Descends) :
    insert (target cwd p.stagingDir) (placesAbove cwd p.stagingDir) ⊆ p.directoryPlaces cwd := by
  refine Set.insert_subset (.inl ⟨_, (target_stagingDir h).symm⟩) ?_
  refine (placesAbove_join h.package).trans (Set.union_subset ?_ (placesAbove_build h.buildLib))
  -- what is below the first of the two steps is below the root
  intro q hq
  left
  have hbelow : target cwd p.roots.outputRoot <+: target cwd (p.roots.build p.config.package.buildLib) :=
    ⟨_, (target_join h.buildLib).symm⟩
  exact hbelow.trans hq

/-- Staging writes below the output root. -/
theorem stageAll_within_root (h : p.Descends) :
    p.delivery.stageAll.Within cwd (p.filePlaces cwd) (p.directoryPlaces cwd) := by
  refine Staging.stageAll_within.mono ?_ (directories_of_stageAll h)
  rintro q ⟨name, rfl⟩
  refine ⟨p.config.package.buildLib.names ++ (Path.mk p.config.package.name).names ++ [name],
    List.concat_ne_nil _ _, ?_⟩
  show target cwd p.stagingDir ++ [name] = _
  rw [target_stagingDir h, List.append_assoc]

theorem generate_keepsToRoot (h : p.Descends) (s : Session) : p.KeepsToRoot s (p.generate s).2 :=
  (generate_within_root h s rfl).files

/-- A build keeps to the root if its runner touches no files, whatever comes of it. -/
theorem build_keepsToRoot (h : p.Descends) (htouches : runner.TouchesNoFiles) (r : σ) (s : Session) :
    p.KeepsToRoot s (p.build runner (r, s)).2.2 := by
  have hmade := generate_within_root h s rfl
  -- the stages go on in the same working directory
  have hkept : (p.build runner (r, s)).2.2.cwd = s.cwd ∧ p.KeepsToRoot s (p.build runner (r, s)).2.2 := by
    unfold build
    refine state_bind_preserves (P := fun x : σ × Session => x.2.cwd = s.cwd ∧ p.KeepsToRoot s x.2)
      ?_ ?_
    · rw [Turn.ofAction_apply]
      dsimp only
      exact ⟨hmade.cwd, hmade.files⟩
    rintro a ⟨r', mid⟩ hturn hmid
    rw [staging_eq (Turn.ofAction_eq_ok_iff.1 hturn).1]
    refine Staging.takeTurns_preserves (P := fun z => z.cwd = s.cwd ∧ p.KeepsToRoot s z)
      (htouches.keeps ?_) ?_ Stage.all hmid
    · rintro z z' hfiles hcwd ⟨hz, hbound⟩
      refine ⟨hcwd.trans hz, ?_⟩
      unfold KeepsToRoot
      rw [hfiles]
      exact hbound
    · rintro z ⟨hz, hbound⟩
      have hstaged := stageAll_within_root h z hz
      exact ⟨hstaged.cwd.trans hz, hbound.trans hstaged.files⟩
  exact hkept.2

/-- What a build reports as staged is right in the directory of the package. -/
theorem contains_of_build {s : Session} (cwd : Place) (h : (p.build runner (r, s)).1 = .ok report) :
    ∀ dest ∈ report.staged, p.delivery.Contains cwd dest := by
  rcases hbuild : p.build runner (r, s) with ⟨result, r', s'⟩
  rw [hbuild] at h
  obtain rfl : result = .ok report := h
  obtain ⟨a, made, hgenerate, hstages⟩ := build_eq_ok hbuild
  rw [staging_eq hgenerate] at hstages
  obtain ⟨s₁, s₂, -, hall, -⟩ := Staging.orchestrate_eq_ok hstages
  exact Staging.contains_of_stageAll cwd hall

/-! ### The working directory of a plan -/

/-- The plan between other directories: what is built without a build root goes here. -/
def inWorkDir (p : Plan) (dir : Path) : Plan := { p with roots.workDir := dir }

/-- Whatever is done with the one plan, it comes to the same with the other. -/
structure RunsLike (p p' : Plan) : Prop where
  compile : p.compile = p'.compile
  generate : p.generate = p'.generate
  status : p.status = p'.status
  build : ∀ {σ : Type} (runner : Runner σ), p.build runner = p'.build runner
  commandRunner : p.commandRunner = p'.commandRunner

/-- With a build root the working directory is in no path. -/
theorem inWorkDir_runsLike {root : Path} (hroot : p.roots.buildRoot = some root) (dir : Path) :
    (p.inWorkDir dir).RunsLike p := by
  obtain ⟨config, ⟨sourceRoot, workDir, buildRoot⟩, manifest, watched, emits, dry⟩ := p
  obtain rfl : buildRoot = some root := hroot
  exact ⟨rfl, rfl, rfl, fun _ => rfl, rfl⟩

/-- **Outputs stay under the output root**, if what the configuration says about them goes down only.

However generating ends, files have been changed below the root only, and directories made at the root,
below it or above it; so it is with a build whose runner touches no files.  Where staging stops makes no
difference either: it writes right in the directory of the package, and so are all destinations that a build
reports.  What is above the root is so by its spelling, which without `..` means that it is above its place.
If there is a build root, the working directory makes no difference to anything. -/
theorem outputs_contained (h : p.Descends) (s : Session) :
    p.KeepsToRoot s (p.generate s).2 ∧
    (∀ {σ : Type} (runner : Runner σ) (r : σ), runner.TouchesNoFiles →
      p.KeepsToRoot s (p.build runner (r, s)).2.2 ∧
      ∀ report, (p.build runner (r, s)).1 = .ok report →
        ∀ dest ∈ report.staged, p.delivery.Contains s.cwd dest) ∧
    p.delivery.stageAll.Within s.cwd (p.delivery.insidePlaces s.cwd) (p.directoryPlaces s.cwd) ∧
    (".." ∉ p.roots.outputRoot.names →
      ∀ q ∈ placesAbove s.cwd p.roots.outputRoot, q <+: target s.cwd p.roots.outputRoot) ∧
    ∀ root, p.roots.buildRoot = some root → ∀ dir, (p.inWorkDir dir).RunsLike p := by
  refine ⟨generate_keepsToRoot h s, fun runner r htouches => ⟨?_, fun report => ?_⟩, ?_, ?_, ?_⟩
  · exact build_keepsToRoot h htouches r s
  · exact contains_of_build s.cwd
  · exact Staging.stageAll_within.mono subset_rfl (directories_of_stageAll h)
  · exact fun hup q hq => prefix_of_mem_placesAbove hup hq
  · exact fun root hroot dir => inWorkDir_runsLike hroot dir

/-- `small` with its output root as a build root. -/
def rooted : Plan := { small with roots := ⟨⟨""⟩, ⟨"work"⟩, some ⟨"./out"⟩⟩ }

theorem rooted_descends : rooted.Descends :=
  ⟨⟨rfl, by decide⟩, ⟨rfl, by decide⟩, ⟨rfl, by decide⟩, ⟨rfl, by decide⟩⟩

/-- The build of `rooted` is that of `small`. -/
theorem rooted_contained :
    rooted.KeepsToRoot (smallSession ⟨9⟩ []) (rooted.generate (smallSession ⟨9⟩ [])).2 ∧
    rooted.KeepsToRoot (smallSession ⟨9⟩ []) (rooted.build idle ((), smallSession ⟨9⟩ [])).2.2 ∧
    (∀ dest ∈ [⟨"./out/build/lib/bridge/_info.py"⟩, ⟨"./out/build/lib/bridge/bridge.i"⟩],
      rooted.delivery.Contains [] dest) ∧
    (∀ q ∈ placesAbove [] ⟨"./out"⟩, q <+: ["out"]) ∧
    (rooted.inWorkDir ⟨"elsewhere"⟩).RunsLike rooted := by
  obtain ⟨hgenerate, hbuild, -, habove, hdir⟩ := outputs_contained rooted_descends (smallSession ⟨9⟩ [])
  obtain ⟨hkeeps, hstaged⟩ := hbuild idle () idle_touchesNoFiles
  have hsame : rooted.build idle = small.build idle := rfl
  refine ⟨hgenerate, hkeeps, ?_, habove (by decide), hdir ⟨"./out"⟩ rfl ⟨"elsewhere"⟩⟩
  exact hstaged _ (by rw [hsame, small_build])

end Plan

end BindingPipeline.Build
