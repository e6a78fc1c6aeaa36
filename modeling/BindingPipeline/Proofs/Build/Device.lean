/-
BindingPipeline/Proofs/Build/Device.lean

What a refusal of a device leaves.  A step that succeeds has met no refusal, so it is the step of a sound device
(`Device.grant_eq_ok`, `Device.fill_eq_ok`), and so is a row of such steps (`Action.Follows`).  A step that is
refused has done nothing, unless it was filling a file: then the file has the first of the bytes
(`Device.fill_eq_error`).

The places at which anything changes are those of the step, granted or not.
-/
import BindingPipeline.Build.Device
import BindingPipeline.Proofs.Session

namespace BindingPipeline

/-! ### Actions that follow one another -/

namespace Action

variable {α β : Type} {a b : Action α} {f g : α → Action β}

/-- Where the first action succeeds, the second does the same. -/
def Follows (a b : Action α) : Prop := ∀ s x s', a s = (.ok x, s') → b s = (.ok x, s')

theorem Follows.refl (a : Action α) : a.Follows a := fun _ _ _ h => h

theorem Follows.bind (h : a.Follows b) (hf : ∀ x, (f x).Follows (g x)) : (a >>= f).Follows (b >>= g) := by
  intro s y s' hrun
  obtain ⟨x, mid, hfirst, hbehind⟩ := bind_eq_ok_iff.1 hrun
  exact bind_eq_ok_iff.2 ⟨x, mid, h s x mid hfirst, hf x mid y s' hbehind⟩

theorem Follows.foldlM {γ : Type} {f g : γ → α → Action γ} (h : ∀ x y, (f x y).Follows (g x y)) (l : List α) :
    ∀ x, (l.foldlM f x).Follows (l.foldlM g x) := by
  induction l with
  | nil => exact fun x => Follows.refl (pure x)
  | cons y l ih =>
    intro x
    rw [List.foldlM_cons, List.foldlM_cons]
    exact (h x y).bind ih

end Action

namespace Build.Device

open FileSystem

variable {α : Type} {d : Device} {need : Need} {a : Action α} {s s' : Session} {cwd : Place} {W D : Set Place}
  {output : Path} {bytes : ByteArray} {t : Time} {e : Error}

/-- The device refuses what is needed, and that is the failure. -/
def Refuses (d : Device) (need : Need) (s : Session) (e : Error) : Prop :=
  ∃ cause, d.refusal? need s = some cause ∧ e = .onPath need.path cause

/-- The device lets a file be created and refuses what is needed next, and that is the failure. -/
def BreaksOff (d : Device) (e : Error) : Prop :=
  ∃ need s, (∀ output, need ≠ .create output) ∧ d.Refuses need s e

theorem not_breaksOff_sound : ¬ sound.BreaksOff e := by
  rintro ⟨need, s, -, cause, hcause, -⟩
  cases hcause

/-! ### Success -/

theorem grant_eq_ok {x : α} (h : d.grant need a s = (.ok x, s')) : a s = (.ok x, s') := by
  unfold grant at h
  split at h
  · exact h
  · cases h

theorem fill_eq_ok {u : Unit} (h : d.fill output bytes s = (.ok u, s')) :
    Action.write output bytes s = (.ok u, s') := by
  unfold fill at h
  split at h
  · exact h
  · cases h

theorem create_eq_ok {u : Unit} (h : d.create output s = (.ok u, s')) :
    Action.write output ByteArray.empty s = (.ok u, s') :=
  grant_eq_ok h

theorem write_eq_ok {u : Unit} (h : d.write output bytes s = (.ok u, s')) :
    Action.write output bytes s = (.ok u, s') :=
  fill_eq_ok (grant_eq_ok h)

theorem stamp_eq_ok {u : Unit} (h : d.stamp output t s = (.ok u, s')) : Action.stamp output t s = (.ok u, s') :=
  grant_eq_ok h

theorem grant_follows : (d.grant need a).Follows (sound.grant need a) := fun _ _ _ => grant_eq_ok

theorem fill_follows : (d.fill output bytes).Follows (sound.fill output bytes) := fun _ _ _ => fill_eq_ok

theorem write_follows : (d.write output bytes).Follows (sound.write output bytes) := fun _ _ _ => write_eq_ok

/-! ### Failure -/

theorem grant_eq_error (h : d.grant need a s = (.error e, s')) :
    d.Refuses need s e ∧ s' = s ∨ a s = (.error e, s') := by
  unfold grant at h
  split at h
  · exact .inr h
  · rename_i cause hcause
    cases h
    exact .inl ⟨⟨cause, hcause, rfl⟩, rfl⟩

/-- A write that fails finds no place to write at. -/
theorem not_writable_of_write {refused : Error} (h : Action.write output bytes s = (.error refused, s')) :
    s' = s ∧ ¬ s.files.Writable s.cwd output := by
  obtain ⟨hsame, refusal, hrefusal⟩ := Action.change_eq_error h
  refine ⟨hsame, fun hwritable => ?_⟩
  rw [write_eq_ok_iff.2 ⟨hwritable, rfl⟩] at hrefusal
  cases hrefusal

/-- A file that cannot be filled has the first of the bytes if the device refuses the others. -/
theorem fill_eq_error (h : d.fill output bytes s = (.error e, s')) :
    s' = s ∧ ¬ s.files.Writable s.cwd output ∨ d.Refuses (.fill output) s e ∧
      ∃ part rest, bytes = part ++ rest ∧ Action.write output part s = (.ok (), s') := by
  unfold fill at h
  split at h
  · exact .inl (not_writable_of_write h)
  · rename_i cause hcause
    rcases hwrite : Action.write output (bytes.extract 0 (d.room output s)) s with ⟨e' | ⟨⟩, mid⟩
    · simp only [hwrite] at h
      cases h
      exact .inl (not_writable_of_write hwrite)
    · simp only [hwrite] at h
      cases h
      exact .inr ⟨⟨cause, hcause, rfl⟩, _, bytes.extract (d.room output s) bytes.size, by simp, hwrite⟩

theorem create_eq_error (h : d.create output s = (.error e, s')) : s' = s := by
  rcases grant_eq_error h with ⟨-, hsame⟩ | hwrite
  · exact hsame
  · exact (Action.change_eq_error hwrite).1

theorem write_eq_error (h : d.write output bytes s = (.error e, s')) :
    s' = s ∨ d.Refuses (.fill output) s e ∧
      ∃ part rest, bytes = part ++ rest ∧ Action.write output part s = (.ok (), s') := by
  rcases grant_eq_error h with ⟨-, hsame⟩ | hfill
  · exact .inl hsame
  · exact (fill_eq_error hfill).imp_left And.left

/-! ### Bounds -/

theorem grant_within (h : a.Within cwd W D) : (d.grant need a).Within cwd W D := by
  intro s hs
  unfold grant
  split
  · exact h s hs
  · exact .refl s W D

theorem fill_within (bytes : ByteArray) : (d.fill output bytes).Within cwd {target cwd output} D := by
  intro s hs
  unfold fill
  split
  · exact Action.write_within bytes s hs
  · exact Action.write_within _ s hs

theorem stamp_within (t : Time) : (d.stamp output t).Within cwd {target cwd output} D :=
  grant_within (Action.stamp_within t)

theorem create_within : (d.create output).Within cwd {target cwd output} D := grant_within (Action.write_within _)

theorem write_within (bytes : ByteArray) : (d.write output bytes).Within cwd {target cwd output} D :=
  grant_within (fill_within bytes)

end Build.Device

end BindingPipeline
