/-
BindingPipeline/Proofs/Results.lean

Computations that may fail, seen from their success.  A chain of steps succeeds exactly when every
step does, and a traversal exactly when it does at each element; the results then stand side by side
with what they were made of.  A traversal that fails does so at the first element that does
(`FirstWithout`).  Steps that also change a state pass it on, and the first one that fails leaves it as
the state of the chain.
-/
import BindingPipeline.Error
import Mathlib.Data.List.Forall2

namespace BindingPipeline

variable {ε α β : Type}

/-! ### Chains -/

theorem bind_eq_ok_iff {x : Except ε α} {f : α → Except ε β} {b : β} :
    (x >>= f) = .ok b ↔ ∃ a, x = .ok a ∧ f a = .ok b := by
  rcases x with e | a
  · simp [bind, Except.bind]
  · simp [bind, Except.bind]

theorem pure_eq_ok_iff {a b : α} : (pure a : Except ε α) = .ok b ↔ a = b := by
  simp [pure, Except.pure]

theorem bind_eq_error_iff {x : Except ε α} {f : α → Except ε β} {e : ε} :
    (x >>= f) = .error e ↔ x = .error e ∨ ∃ a, x = .ok a ∧ f a = .error e := by
  rcases x with e' | a
  · simp [bind, Except.bind]
  · simp [bind, Except.bind]

theorem mapError_eq_ok_iff {ε' : Type} {x : Except ε α} {f : ε → ε'} {a : α} :
    x.mapError f = .ok a ↔ x = .ok a := by
  rcases x with e | b
  · simp [Except.mapError]
  · simp [Except.mapError]

theorem mapError_eq_error_iff {ε' : Type} {x : Except ε α} {f : ε → ε'} {e' : ε'} :
    x.mapError f = .error e' ↔ ∃ e, x = .error e ∧ f e = e' := by
  rcases x with e | b
  · simp [Except.mapError]
  · simp [Except.mapError]

/-! ### Steps that change a state -/

section State

variable {σ : Type} {a : ExceptT ε (StateM σ) α} {f : α → ExceptT ε (StateM σ) β} {s s' : σ}

theorem state_bind_apply : (a >>= f) s = match a s with
    | (.ok x, s') => f x s'
    | (.error e, s') => (.error e, s') := by
  show ExceptT.bindCont f (a s).1 (a s).2 = _
  rcases a s with ⟨e | x, s'⟩
  · rfl
  · rfl

/-- A sequence succeeds if its steps do. -/
theorem state_bind_eq_ok_iff {y : β} :
    (a >>= f) s = (.ok y, s') ↔ ∃ x mid, a s = (.ok x, mid) ∧ f x mid = (.ok y, s') := by
  rw [state_bind_apply]
  -- an outcome is a pair behind `Id`
  rcases a s with ⟨e | x, mid⟩
  · simp [Id]
  · simp [Id]

/-- A sequence fails at its first step or behind it. -/
theorem state_bind_eq_error_iff {e : ε} :
    (a >>= f) s = (.error e, s') ↔
      a s = (.error e, s') ∨ ∃ x mid, a s = (.ok x, mid) ∧ f x mid = (.error e, s') := by
  rw [state_bind_apply]
  rcases a s with ⟨e | x, mid⟩
  · simp [Id]
  · simp [Id]

/-- What the first step leaves true, and the second step does not undo, is true behind both, whether they
succeed or not. -/
theorem state_bind_preserves {P : σ → Prop} (ha : P (a s).2)
    (hf : ∀ x mid, a s = (.ok x, mid) → P mid → P (f x mid).2) : P ((a >>= f) s).2 := by
  rw [state_bind_apply]
  rcases hrun : a s with ⟨e | x, mid⟩
  · rw [hrun] at ha
    exact ha
  · rw [hrun] at ha
    exact hf x mid hrun ha

theorem state_pure_eq_ok_iff {x y : α} :
    (pure x : ExceptT ε (StateM σ) α) s = (.ok y, s') ↔ y = x ∧ s' = s := by
  show ((.ok x, s) : Except ε α × σ) = (.ok y, s') ↔ _
  simp [eq_comm]

/-- What succeeds is not handled. -/
theorem state_tryCatch_of_ok {handle : ε → ExceptT ε (StateM σ) α} {x : α} (h : a s = (.ok x, s')) :
    tryCatch a handle s = (.ok x, s') := by
  have hrun : tryCatch a handle s = (match (a s).1 with
      | .ok x => (pure (.ok x) : StateM σ (Except ε α))
      | .error e => handle e) (a s).2 := rfl
  rw [hrun, h]
  rfl

end State

/-! ### Traversals -/

/-- A traversal succeeds exactly with the results at its elements, in their order. -/
theorem mapM_eq_ok_iff {f : α → Except ε β} {as : List α} {bs : List β} :
    as.mapM f = .ok bs ↔ List.Forall₂ (fun a b => f a = .ok b) as bs := by
  induction as generalizing bs with
  | nil => rw [List.mapM_nil, pure_eq_ok_iff, List.forall₂_nil_left_iff, eq_comm]
  | cons a as ih =>
    simp only [List.mapM_cons, bind_eq_ok_iff, pure_eq_ok_iff, ih, List.forall₂_cons_left_iff]
    constructor
    · rintro ⟨b, hb, bs', hbs', rfl⟩
      exact ⟨b, bs', hb, hbs', rfl⟩
    · rintro ⟨b, bs', hb, hbs', rfl⟩
      exact ⟨b, hb, bs', hbs', rfl⟩

/-- The element is the first one of the list without the property. -/
def FirstWithout (p : α → Prop) (as : List α) (a : α) : Prop :=
  ∃ before after, as = before ++ a :: after ∧ (∀ b ∈ before, p b) ∧ ¬ p a

section FirstWithout

variable {p : α → Prop} {as : List α} {a b : α}

theorem not_firstWithout_nil : ¬ FirstWithout p [] a := by
  rintro ⟨before, after, hnil, -⟩
  simp at hnil

theorem firstWithout_cons :
    FirstWithout p (b :: as) a ↔ (b = a ∧ ¬ p a) ∨ p b ∧ FirstWithout p as a := by
  constructor
  · rintro ⟨before, after, hsplit, hbefore, ha⟩
    cases before with
    | nil => exact .inl ⟨(List.cons.inj hsplit).1, ha⟩
    | cons b' before =>
      obtain ⟨rfl, rfl⟩ := List.cons.inj hsplit
      obtain ⟨hb, hbefore⟩ := List.forall_mem_cons.1 hbefore
      exact .inr ⟨hb, before, after, rfl, hbefore, ha⟩
  · rintro (⟨rfl, ha⟩ | ⟨hb, before, after, rfl, hbefore, ha⟩)
    · exact ⟨[], as, rfl, List.forall_mem_nil _, ha⟩
    · exact ⟨b :: before, after, rfl, List.forall_mem_cons.2 ⟨hb, hbefore⟩, ha⟩

end FirstWithout

/-- Each element has the property behind those that come before it. -/
def EachBehind (p : List α → α → Prop) (as : List α) : Prop :=
  ∀ before a after, as = before ++ a :: after → p before a

theorem eachBehind_nil {p : List α → α → Prop} : EachBehind p [] := by
  intro before a after hnil
  simp at hnil

theorem eachBehind_cons {p : List α → α → Prop} {a : α} {as : List α} :
    EachBehind p (a :: as) ↔ p [] a ∧ EachBehind (fun before => p (a :: before)) as := by
  constructor
  · intro h
    refine ⟨h [] a as rfl, fun before b after hsplit => ?_⟩
    exact h (a :: before) b after (congrArg (a :: ·) hsplit)
  · rintro ⟨ha, has⟩ before b after hsplit
    cases before with
    | nil =>
      obtain ⟨rfl, -⟩ := List.cons.inj hsplit
      exact ha
    | cons a' before =>
      obtain ⟨rfl, hrest⟩ := List.cons.inj hsplit
      exact has before b after hrest

/-- A traversal fails at the first element at which it does not succeed. -/
theorem mapM_eq_error_iff {f : α → Except ε β} {p : α → Prop} (hp : ∀ a, (∃ b, f a = .ok b) ↔ p a)
    {as : List α} {e : ε} : as.mapM f = .error e ↔ ∃ a, FirstWithout p as a ∧ f a = .error e := by
  have hfails : ∀ {a}, f a = .error e → ¬ p a := by
    intro a ha hpa
    obtain ⟨b, hb⟩ := (hp a).2 hpa
    exact nomatch hb.symm.trans ha
  induction as with
  | nil => exact ⟨nofun, fun ⟨_, h, _⟩ => absurd h not_firstWithout_nil⟩
  | cons a as ih =>
    rw [List.mapM_cons, bind_eq_error_iff]
    constructor
    · rintro (ha | ⟨b, hb, hrest⟩)
      · exact ⟨a, firstWithout_cons.2 (.inl ⟨rfl, hfails ha⟩), ha⟩
      · rcases bind_eq_error_iff.1 hrest with hrest | ⟨bs, -, hpure⟩
        · obtain ⟨a', hfirst, ha'⟩ := ih.1 hrest
          exact ⟨a', firstWithout_cons.2 (.inr ⟨(hp a).1 ⟨b, hb⟩, hfirst⟩), ha'⟩
        · exact nomatch hpure
    · rintro ⟨a', hfirst, ha'⟩
      rcases firstWithout_cons.1 hfirst with ⟨rfl, -⟩ | ⟨hpa, hfirst⟩
      · exact .inl ha'
      · obtain ⟨b, hb⟩ := (hp a).2 hpa
        exact .inr ⟨b, hb, bind_eq_error_iff.2 (.inl (ih.2 ⟨a', hfirst, ha'⟩))⟩

/-- Partners can be found for all elements of a list exactly if each one has some. -/
theorem exists_forall₂_iff {R : α → β → Prop} {as : List α} :
    (∃ bs, List.Forall₂ R as bs) ↔ ∀ a ∈ as, ∃ b, R a b := by
  induction as with
  | nil => simp
  | cons a as ih =>
    simp only [List.forall₂_cons_left_iff, List.forall_mem_cons, ← ih]
    constructor
    · rintro ⟨_, b, bs, hb, hbs, rfl⟩
      exact ⟨⟨b, hb⟩, bs, hbs⟩
    · rintro ⟨⟨b, hb⟩, bs, hbs⟩
      exact ⟨b :: bs, b, bs, hb, hbs, rfl⟩

theorem forall₂_eq_and_iff {p : α → Prop} {as bs : List α} :
    List.Forall₂ (fun a b => b = a ∧ p a) as bs ↔ bs = as ∧ ∀ a ∈ as, p a := by
  induction as generalizing bs with
  | nil => simp
  | cons a as ih =>
    simp only [List.forall₂_cons_left_iff, ih, List.forall_mem_cons]
    constructor
    · rintro ⟨b, bs, ⟨rfl, hb⟩, ⟨rfl, hbs⟩, rfl⟩
      exact ⟨rfl, hb, hbs⟩
    · rintro ⟨rfl, hb, hbs⟩
      exact ⟨a, as, ⟨rfl, hb⟩, ⟨rfl, hbs⟩, rfl⟩

theorem exists_mem_of_forall₂ {R : α → β → Prop} {as : List α} {bs : List β}
    (h : List.Forall₂ R as bs) {a : α} (ha : a ∈ as) : ∃ b ∈ bs, R a b := by
  induction h with
  | nil => cases ha
  | cons hab _ ih =>
    rcases List.mem_cons.1 ha with rfl | ha
    · exact ⟨_, List.mem_cons_self, hab⟩
    · obtain ⟨b, hb, hab⟩ := ih ha
      exact ⟨b, List.mem_cons_of_mem _ hb, hab⟩

end BindingPipeline
