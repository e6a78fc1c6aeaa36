/-
BindingPipeline/Proofs/Text/Lowercase.lean

Lowercasing a text in parts.  Only two characters keep it from being the lowercasing of its parts: a capital I
with a dot makes the text longer, and a capital sigma looks at both sides.  The length of the lowercase
does not depend on where it stands (`length_lowerFrom`), and a text is lowercased behind another one as it
is alone unless a sigma in it closes a word of the other (`lowerFrom_eq_lowercase_iff`).
-/
import BindingPipeline.Text.Lowercase
import Mathlib.Data.List.TakeWhile

namespace BindingPipeline.Text

/-! ### Characters -/

theorem length_lowerAt (before : List Char) (c : Char) (after : List Char) :
    (lowerAt before c after).length = 1 + if c == 'İ' then 1 else 0 := by
  unfold lowerAt
  by_cases hsigma : c = 'Σ'
  · subst hsigma
    rfl
  · rw [if_neg hsigma]
    by_cases hdot : c = 'İ'
    · simp [hdot]
    · simp [hdot]

/-- A character is lowercased alike in two places unless it is a sigma that ends a word in one of them. -/
theorem lowerAt_eq_iff {b₁ b₂ : List Char} {c : Char} {after : List Char} :
    lowerAt b₁ c after = lowerAt b₂ c after ↔
      (c = 'Σ' → endsWord b₁ after = endsWord b₂ after) := by
  unfold lowerAt
  by_cases hsigma : c = 'Σ'
  · have hforms : ∀ x y : Bool, [if x then 'ς' else 'σ'] = [if y then 'ς' else 'σ'] ↔ x = y := by decide
    rw [if_pos hsigma, if_pos hsigma, forall_prop_of_true hsigma]
    exact hforms _ _
  · simp [hsigma]

/-! ### Texts -/

/-- The lowercase of a text in two parts ends with that of the second part behind the first. -/
theorem lowerFrom_append (before xs ys : List Char) :
    ∃ front, lowerFrom before (xs ++ ys) = front ++ lowerFrom (xs.reverse ++ before) ys ∧
      front.length = xs.length + xs.count 'İ' := by
  induction xs generalizing before with
  | nil => exact ⟨[], rfl, rfl⟩
  | cons x xs ih =>
    obtain ⟨front, hfront, hlength⟩ := ih (x :: before)
    refine ⟨lowerAt before x (xs ++ ys) ++ front, ?_, ?_⟩
    · rw [List.cons_append, lowerFrom, hfront, List.append_assoc, List.reverse_cons, List.append_assoc,
        List.singleton_append]
    · rw [List.length_append, hlength, length_lowerAt, List.length_cons, List.count_cons]
      omega

theorem length_lowerFrom (before cs : List Char) :
    (lowerFrom before cs).length = cs.length + cs.count 'İ' := by
  obtain ⟨front, hfront, hlength⟩ := lowerFrom_append before cs []
  rw [List.append_nil] at hfront
  rw [hfront, List.length_append, hlength]
  rfl

theorem lowercase_eq_nil_iff {cs : List Char} : lowercase cs = [] ↔ cs = [] := by
  constructor
  · intro h
    have hlength := length_lowerFrom [] cs
    rw [← lowercase, h, List.length_nil] at hlength
    exact List.length_eq_zero_iff.1 (by omega)
  · rintro rfl
    rfl

/-- A text is lowercased alike behind two others exactly if all its sigmas are. -/
theorem lowerFrom_eq_iff {b₁ b₂ cs : List Char} :
    lowerFrom b₁ cs = lowerFrom b₂ cs ↔ ∀ passed after, cs = passed ++ 'Σ' :: after →
      endsWord (passed.reverse ++ b₁) after = endsWord (passed.reverse ++ b₂) after := by
  induction cs generalizing b₁ b₂ with
  | nil => simp [lowerFrom]
  | cons c cs ih =>
    have hlength : (lowerAt b₁ c cs).length = (lowerAt b₂ c cs).length := by
      rw [length_lowerAt, length_lowerAt]
    have hsplit : lowerFrom b₁ (c :: cs) = lowerFrom b₂ (c :: cs) ↔
        lowerAt b₁ c cs = lowerAt b₂ c cs ∧ lowerFrom (c :: b₁) cs = lowerFrom (c :: b₂) cs :=
      ⟨fun h => List.append_inj h hlength, fun h => congrArg₂ (· ++ ·) h.1 h.2⟩
    rw [hsplit, lowerAt_eq_iff, ih]
    constructor
    · rintro ⟨hhead, htail⟩ passed after heq
      cases passed with
      | nil =>
        obtain ⟨rfl, rfl⟩ := List.cons.inj heq
        exact hhead rfl
      | cons d passed =>
        obtain ⟨rfl, rfl⟩ := List.cons.inj heq
        simpa using htail passed after rfl
    · intro h
      refine ⟨fun hsigma => h [] cs (congrArg (· :: cs) hsigma), fun passed after heq => ?_⟩
      simpa using h (c :: passed) after (congrArg (c :: ·) heq)

/-! ### Sigmas -/

/-- Characters that are passed over do not matter, and nothing matters behind another one. -/
theorem reachesCased_append (xs ys : List Char) :
    reachesCased (xs ++ ys) = if xs.all isCaseIgnorable then reachesCased ys else reachesCased xs := by
  unfold reachesCased
  by_cases hall : xs.all isCaseIgnorable = true
  · rw [if_pos hall, List.dropWhile_append_of_pos (List.all_eq_true.1 hall)]
  · have hstopped : xs.dropWhile isCaseIgnorable ≠ [] := by
      rwa [Ne, List.dropWhile_eq_nil_iff, ← List.all_eq_true]
    obtain ⟨c, rest, hrest⟩ := List.exists_cons_of_ne_nil hstopped
    rw [if_neg hall, List.dropWhile_append, hrest]
    rfl

/-- A sigma of the second part ends a word of which all cased letters before it are in the first part, which
is reversed. -/
def ClosesWord (before cs : List Char) : Prop :=
  reachesCased before = true ∧ ∃ passed after, cs = passed ++ 'Σ' :: after ∧
    passed.all isCaseIgnorable = true ∧ reachesCased after = false

/-- A text is lowercased behind another one as it is alone, unless it closes a word of the other. -/
theorem lowerFrom_eq_lowercase_iff {before cs : List Char} :
    lowerFrom before cs = lowercase cs ↔ ¬ ClosesWord before cs := by
  unfold lowercase
  simp only [lowerFrom_eq_iff, endsWord, reachesCased_append, List.all_reverse]
  constructor
  · rintro h ⟨hbefore, passed, after, rfl, hpassed, hafter⟩
    have hsame := h passed after rfl
    rw [if_pos hpassed, if_pos hpassed, hbefore, hafter] at hsame
    exact absurd hsame (by decide)
  · intro h passed after heq
    by_cases hpassed : passed.all isCaseIgnorable = true
    · rw [if_pos hpassed, if_pos hpassed]
      -- either no word begins before the text, or it goes on behind the sigma
      cases hafter : reachesCased after with
      | true => rw [Bool.not_true, Bool.and_false, Bool.and_false]
      | false =>
        cases hbefore : reachesCased before with
        | true => exact absurd ⟨hbefore, passed, after, heq, hpassed, hafter⟩ h
        | false => rfl
    · rw [if_neg hpassed, if_neg hpassed]

end BindingPipeline.Text
