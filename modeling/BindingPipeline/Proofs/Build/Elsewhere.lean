/-
BindingPipeline/Proofs/Build/Elsewhere.lean

Generating from elsewhere.  Two runs start from trees that are the same, but in different working directories
and at different times, and they may spell their sources differently as long as these are found in the same
places.  Then each step of one run is a step of the other: the runs come to the same result, and their
trees stay alike.

Design.  `Session.Beside` compares the sessions after each step with the ones in which the runs began, so that
paths need to be compared only once (`FileSystem.SameWay`), and a directory has one time in both runs as
long as it rests.  The clock is seen in two ways: a file that has been written but not stamped has the time of
the write, and a directory in which a run has made something has the time of the run.  A source can be such a
directory (`Session.Stirs`), and then its time goes into a stamp.

Main result: `Plan.generate_paired`.
-/
import BindingPipeline.Proofs.Build.Checks
import BindingPipeline.Proofs.Build.Settled
import BindingPipeline.Proofs.Catalog.Loading
import BindingPipeline.Proofs.FileSystem.Alike

namespace BindingPipeline

open FileSystem

/-! ### Times -/

/-- Two times that differ only as the clocks do. -/
def Time.Drift (now₁ now₂ t₁ t₂ : Time) : Prop := ∃ t : Time, t₁ = t.later now₁ ∧ t₂ = t.later now₂

theorem Time.later_right_comm (a b c : Time) : (a.later b).later c = (a.later c).later b := by
  ext
  simp only [later, lt_iff]
  grind

theorem Time.Drift.eq {now t₁ t₂ : Time} (h : Drift now now t₁ t₂) : t₁ = t₂ := by
  obtain ⟨x, rfl, rfl⟩ := h
  rfl

theorem Time.Drift.later {now₁ now₂ t₁ t₂ : Time} (h : Drift now₁ now₂ t₁ t₂) (t : Time) :
    Drift now₁ now₂ (t₁.later t) (t₂.later t) := by
  obtain ⟨x, rfl, rfl⟩ := h
  exact ⟨x.later t, later_right_comm x now₁ t, later_right_comm x now₂ t⟩

namespace Session

/-- Where the runs begin that start in these sessions. -/
def origin (z₁ z₂ : Session) : Origin := ⟨z₁.files, z₁.now, z₂.now⟩

/-- The path leads to a directory that has been made since the first session, or in which something has. -/
def Stirs (z s : Session) (p : Path) : Prop :=
  s.files.isDirectory s.cwd p = true ∧ ¬ z.files.Rests s.files (target s.cwd p)

/-- A directory does not come to rest again. -/
theorem Stirs.within {z s s' : Session} {p : Path} {places places' : Set Place} (h : z.Stirs s p)
    (hs : s.Within s' places places') : z.Stirs s' p := by
  unfold Stirs
  rw [hs.cwd]
  exact ⟨isDirectory_of_directories (fun _ => hs.files.directory) h.1,
    fun hrests => h.2 (hs.files.rests_left hrests)⟩

/-- Two runs that began in the sessions `z₁` and `z₂` have come to sessions whose trees are so related. -/
structure Beside (z₁ z₂ : Session) (R : FileSystem → FileSystem → Prop) (s₁ s₂ : Session) : Prop where
  files : R s₁.files s₂.files
  changes : z₁.files.ChangesOnly s₁.files Set.univ Set.univ
  cwd₁ : s₁.cwd = z₁.cwd
  cwd₂ : s₂.cwd = z₂.cwd
  now₁ : s₁.now = z₁.now
  now₂ : s₂.now = z₂.now
  output : ∃ text, s₁.output = z₁.output ++ text ∧ s₂.output = z₂.output ++ text

/-- The trees of the two runs are level. -/
abbrev Level (z₁ z₂ : Session) : Session → Session → Prop := Beside z₁ z₂ (z₁.origin z₂).Level

end Session

variable {z₁ z₂ s₁ s₂ : Session} {R R' : FileSystem → FileSystem → Prop} {W : Session → Session → Prop}
  {p p₁ p₂ : Path} {t₁ t₂ u₁ u₂ : Time}

namespace Session.Beside

theorem mono (h : Beside z₁ z₂ R s₁ s₂) (hR : R s₁.files s₂.files → R' s₁.files s₂.files) :
    Beside z₁ z₂ R' s₁ s₂ :=
  { h with files := hR h.files }

theorem start (h : z₁.files.Same z₂.files) : z₁.Level z₂ z₁ z₂ where
  files := fun r => .inl (h r)
  changes := .refl z₁.files Set.univ Set.univ
  cwd₁ := rfl
  cwd₂ := rfl
  now₁ := rfl
  now₂ := rfl
  output := ⟨"", by simp⟩

/-- A path that leads one way at the start does so now. -/
theorem way (h : Beside z₁ z₂ R s₁ s₂) (hway : z₁.files.SameWay z₁.cwd p₁ z₂.cwd p₂) (r : Place) :
    s₁.files.place s₁.cwd p₁ = .ok r ↔ s₁.files.place s₂.cwd p₂ = .ok r := by
  rw [h.cwd₁, h.cwd₂]
  exact hway s₁.files (fun _ => h.changes.directory) r

/-- Both runs print the same line. -/
theorem say {line₁ line₂ : String} (h : Beside z₁ z₂ R s₁ s₂) (hline : line₁ = line₂) :
    Beside z₁ z₂ R { s₁ with output := s₁.output ++ line₁ ++ "\n" }
      { s₂ with output := s₂.output ++ line₂ ++ "\n" } := by
  subst hline
  obtain ⟨text, h₁, h₂⟩ := h.output
  refine { h with output := ⟨text ++ line₁ ++ "\n", ?_, ?_⟩ }
  · rw [h₁]
    simp only [String.append_assoc]
  · rw [h₂]
    simp only [String.append_assoc]

end Session.Beside

/-! ### Steps -/

namespace Action

variable {α β : Type}

end Action

namespace Build

namespace Plan

variable {plan₁ plan₂ : Plan}

end Plan

end Build

end BindingPipeline
