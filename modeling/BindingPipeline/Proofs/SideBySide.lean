/-
BindingPipeline/Proofs/SideBySide.lean

Two computations side by side.  They are compared step by step: as long as both succeed their results and
states are related, and where one fails the other one does too (`Together`, and `Paired` where a state is passed
on).  Why they fail is not compared.
-/
import BindingPipeline.Proofs.Results

namespace BindingPipeline

variable {ε ε' α α' β β' γ δ σ : Type}

/-! ### Results -/

/-- Both fail, or both succeed with related results. -/
inductive Together (R : α → β → Prop) : Except ε α → Except ε' β → Prop
  | ok {a : α} {b : β} (h : R a b) : Together R (.ok a) (.ok b)
  | error (e : ε) (e' : ε') : Together R (.error e) (.error e')

namespace Together

variable {R : α → β → Prop} {S : α' → β' → Prop}

theorem of_iff {x : Except ε α} {y : Except ε' α} (h : ∀ a, x = .ok a ↔ y = .ok a) : Together Eq x y := by
  rcases x with e | a
  · rcases y with e' | b
    · exact .error e e'
    · exact nomatch (h b).2 rfl
  · rw [(h a).1 rfl]
    exact .ok rfl

theorem refl (x : Except ε α) : Together Eq x x := of_iff fun _ => Iff.rfl

theorem both {x : Except ε α} {y : Except ε' β} (h : Together R x y) :
    (∃ e e', x = .error e ∧ y = .error e') ∨ ∃ a b, x = .ok a ∧ y = .ok b ∧ R a b := by
  cases h with
  | ok h => exact .inr ⟨_, _, rfl, rfl, h⟩
  | error e e' => exact .inl ⟨e, e', rfl, rfl⟩

theorem mapError {x : Except ε α} {y : Except ε' β} (h : Together R x y) (f : ε → γ) (g : ε' → δ) :
    Together R (x.mapError f) (y.mapError g) := by
  cases h with
  | ok h => exact .ok h
  | error e e' => exact .error (f e) (g e')

theorem bind {x : Except ε α} {y : Except ε' β} {f : α → Except ε α'} {g : β → Except ε' β'}
    (h : Together R x y) (hf : ∀ a b, R a b → Together S (f a) (g b)) : Together S (x >>= f) (y >>= g) := by
  cases h with
  | ok h => exact hf _ _ h
  | error e e' => exact .error e e'

end Together

/-! ### Steps that change a state -/

/-- Both fail with related states, or both succeed with related results and states. -/
inductive Paired (V : α → β → σ → σ → Prop) (W : σ → σ → Prop) :
    Except ε α × σ → Except ε' β × σ → Prop
  | ok {x : α} {y : β} {s t : σ} (h : V x y s t) : Paired V W (.ok x, s) (.ok y, t)
  | error {e : ε} {e' : ε'} {s t : σ} (h : W s t) : Paired V W (.error e, s) (.error e', t)

namespace Paired

variable {V : α → β → σ → σ → Prop} {V' : α' → β' → σ → σ → Prop} {W W' : σ → σ → Prop} {s t : σ}

theorem both {a : Except ε α × σ} {b : Except ε' β × σ} (h : Paired V W a b) :
    (∃ x y s t, a = (.ok x, s) ∧ b = (.ok y, t) ∧ V x y s t) ∨
      ∃ e e' s t, a = (.error e, s) ∧ b = (.error e', t) ∧ W s t := by
  cases h with
  | ok h => exact .inl ⟨_, _, _, _, rfl, rfl, h⟩
  | error h => exact .inr ⟨_, _, _, _, rfl, rfl, h⟩

/-- Less may be known of failures. -/
theorem mono {a : Except ε α × σ} {b : Except ε' β × σ} (h : Paired V W a b) (hW : ∀ s t, W s t → W' s t) :
    Paired V W' a b := by
  cases h with
  | ok h => exact .ok h
  | error h => exact .error (hW _ _ h)

/-- Steps that stay side by side make runs that do. -/
theorem bind {a : ExceptT ε (StateM σ) α} {b : ExceptT ε (StateM σ) β} {f : α → ExceptT ε (StateM σ) α'}
    {g : β → ExceptT ε (StateM σ) β'} (h : Paired V W (a s) (b t))
    (hf : ∀ x y s' t', a s = (.ok x, s') → b t = (.ok y, t') → V x y s' t' → Paired V' W (f x s') (g y t')) :
    Paired V' W ((a >>= f) s) ((b >>= g) t) := by
  rcases h.both with ⟨x, y, s', t', ha, hb, h⟩ | ⟨e, e', s', t', ha, hb, h⟩
  · rw [state_bind_apply, state_bind_apply, ha, hb]
    exact hf x y s' t' ha hb h
  · rw [state_bind_apply, state_bind_apply, ha, hb]
    exact .error h

/-- Walks along two lists stay side by side if each pair of steps does. -/
theorem foldlM {P : α → β → Prop} {V : γ → δ → σ → σ → Prop} {f : γ → α → ExceptT ε (StateM σ) γ}
    {g : δ → β → ExceptT ε (StateM σ) δ} {xs : List α} {ys : List β} {c : γ} {d : δ}
    (hstep : ∀ x y, P x y → ∀ c d s t, V c d s t → Paired V W (f c x s) (g d y t))
    (hlists : List.Forall₂ P xs ys) (h : V c d s t) : Paired V W (xs.foldlM f c s) (ys.foldlM g d t) := by
  induction hlists generalizing c d s t with
  | nil => exact .ok h
  | cons hxy _ ih =>
    rw [List.foldlM_cons, List.foldlM_cons]
    exact (hstep _ _ hxy c d s t h).bind fun c' d' s' t' _ _ h' => ih h'

end Paired

end BindingPipeline
