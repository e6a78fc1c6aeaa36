/-
BindingPipeline/Proofs/Json/Skip.lean

A written value is passed over, whatever it is: what is left is what follows it.

Design.  The passing is a machine with a stack of open brackets.  `Passes n p q` says that `n` steps lead
from `p` to `q`, none of them from a place where all is done, so that steps of a part can be put behind each
other whatever brackets are open around it.  The count is kept below twice the length of what is passed,
because the machine is given so many steps and no more.
-/
import BindingPipeline.Json.Skip
import BindingPipeline.Proofs.Json.Token

namespace BindingPipeline.Json

variable {s s' t : List Char} {v : Value} {vs : List Value} {ms : List (String × Value)}

namespace Passing

variable {p q r : Passing} {n k : Nat} {bs : List Bracket}

/-- That many steps lead from one place to another. -/
inductive Passes : Nat → Passing → Passing → Prop
  | refl (p : Passing) : Passes 0 p p
  | step {n : Nat} {p q r : Passing} :
      p.isDone = false → p.step = .ok q → Passes n q r → Passes (n + 1) p r

theorem Passes.trans (h : Passes n p q) (h' : Passes k q r) : Passes (n + k) p r := by
  induction h with
  | refl =>
    rw [Nat.zero_add]
    exact h'
  | step hdone hstep _ ih =>
    rw [Nat.add_right_comm]
    exact .step hdone hstep (ih h')

/-- Steps to an end, if there are enough of them. -/
theorem run_of_passes (h : Passes n p q) (hdone : q.isDone = true) (hfuel : n ≤ k) :
    p.run k = .ok q.rest := by
  induction h generalizing k with
  | refl p =>
    cases k with
    | zero => rfl
    | succ k =>
      unfold run
      rw [if_pos hdone]
  | step hgoing hstep _ ih =>
    obtain ⟨k, rfl⟩ : ∃ k', k = k' + 1 := ⟨k - 1, by omega⟩
    unfold run
    rw [hgoing, if_neg Bool.false_ne_true, hstep]
    exact ih hdone (by omega)

/-! ### Whole values -/

/-- What may come next in front of an element or member. -/
def turnOf (isFirst : Bool) : Turn := if isFirst then .first else .next

/-- A scalar is passed over in one step. -/
theorem passes_of_step (h : step ⟨.value, bs, s⟩ = .ok ⟨.next, bs, t⟩) :
    Passes 1 ⟨.value, bs, s⟩ ⟨.next, bs, t⟩ :=
  .step rfl h (.refl _)

/-- The closing bracket is passed over. -/
theorem step_closing {b : Bracket} (hblanks : Blanks s (b.closing :: t)) (isFirst : Bool) :
    step ⟨turnOf isFirst, b :: bs, s⟩ = .ok ⟨.next, bs, t⟩ := by
  have hskip : skipBlanks s = b.closing :: t := hblanks.skip (by cases b <;> rfl)
  unfold step turnOf
  cases isFirst with
  | true => simp only [if_true, hskip]
  | false => simp only [Bool.false_eq_true, if_false, hskip, if_true]

/-- An element or member is entered: its comma is passed over if it is not the first. -/
theorem step_separated (b : Bracket) (bs : List Bracket) {c : Char} {isFirst : Bool}
    (h : Separated isFirst s (c :: t)) (hc : isBlank c = false) (hclosing : c ≠ b.closing) : ∃ s',
      step ⟨turnOf isFirst, b :: bs, s⟩ = enter b bs s' ∧ Blanks s' (c :: t) ∧
        s'.length + (if isFirst then 0 else 1) ≤ s.length := by
  cases h with
  | first hblanks =>
    have hskip := hblanks.skip hc
    refine ⟨c :: t, ?_, .refl _, hblanks.length_le⟩
    unfold step turnOf
    simp only [if_true, hskip, if_neg hclosing]
  | more hcomma hblanks =>
    have hskip := hcomma.skip (by decide)
    have hne : ',' ≠ b.closing := by cases b <;> decide
    refine ⟨_, ?_, hblanks, hcomma.length_le⟩
    unfold step turnOf
    simp only [Bool.false_eq_true, if_false, hskip, if_neg hne, if_true]

theorem step_bool {b : Bool} {s' t : List Char} (hblanks : Blanks s' (renderBool b ++ t)) (bs : List Bracket) :
    step ⟨.value, bs, s'⟩ = .ok ⟨.next, bs, t⟩ := by
  cases b with
  | true =>
    have hskip : skipBlanks s' = 't' :: 'r' :: 'u' :: 'e' :: t := hblanks.skip (by decide)
    unfold step
    rw [hskip]
    simp only [word_true, bind, Except.bind]
  | false =>
    have hskip : skipBlanks s' = 'f' :: 'a' :: 'l' :: 's' :: 'e' :: t := hblanks.skip (by decide)
    unfold step
    rw [hskip]
    simp only [word_false, bind, Except.bind]

theorem step_number {n : Numeral} {s' t : List Char} (ht : Delimited t) (hblanks : Blanks s' (n.render ++ t))
    (bs : List Bracket) : step ⟨.value, bs, s'⟩ = .ok ⟨.next, bs, t⟩ := by
  obtain ⟨c, r, hrender, hbegins⟩ := n.render_begins
  have hnumeral := numeral_render .badNumber n ht
  rw [hrender, List.cons_append] at hnumeral hblanks
  have hskip := hblanks.skip (show (Value.number n).Begins c from hbegins).ne.1
  unfold step
  rw [hskip]
  simp only
  split
  -- no word, no string and no bracket begins like a number
  iterate 6 exact absurd hbegins (by decide)
  rw [if_pos hbegins]
  unfold skipNumber
  rw [hnumeral]
  rfl

mutual

/-- A written value is passed over, whatever brackets are open around it. -/
theorem passes_of_written {v : Value} {s t : List Char} (h : Written v s t) (ht : Delimited t)
    (bs : List Bracket) : ∃ n, n + 2 * t.length ≤ 2 * s.length ∧
      ∀ s', Blanks s' s → Passes n ⟨.value, bs, s'⟩ ⟨.next, bs, t⟩ := by
  cases h with
  | null =>
    refine ⟨1, by simp; omega, fun s' hblanks => passes_of_step ?_⟩
    unfold step
    rw [hblanks.skip (by decide)]
    simp only [word_null, bind, Except.bind]
  | bool b =>
    refine ⟨1, ?_, fun s' hblanks => passes_of_step (step_bool hblanks bs)⟩
    cases b <;> simp [renderBool] <;> omega
  | number n =>
    refine ⟨1, ?_, fun s' hblanks => passes_of_step (step_number ht hblanks bs)⟩
    obtain ⟨c, r, hrender, -⟩ := n.render_begins
    rw [hrender]
    simp
    omega
  | @text k s _ hchars =>
    refine ⟨1, ?_, fun s' hblanks => passes_of_step ?_⟩
    · have hlength := hchars.length_lt
      simp only [List.length_cons]
      omega
    · unfold step
      rw [hblanks.skip (by decide)]
      simp only [skipText_of_written hchars, bind, Except.bind]
  | @list vs s _ hitems =>
    obtain ⟨n, hn, hpasses⟩ := passes_of_items hitems bs
    refine ⟨n + 1, ?_, fun s' hblanks => .step rfl ?_ hpasses⟩
    · simp at hn ⊢
      omega
    · unfold step
      rw [hblanks.skip (by decide)]
      rfl
  | @object ms s _ hmembers =>
    obtain ⟨n, hn, hpasses⟩ := passes_of_members hmembers bs
    refine ⟨n + 1, ?_, fun s' hblanks => .step rfl ?_ hpasses⟩
    · simp at hn ⊢
      omega
    · unfold step
      rw [hblanks.skip (by decide)]
      rfl

/-- The elements of a list are passed over with the closing bracket. -/
theorem passes_of_items {isFirst : Bool} {vs : List Value} {s t : List Char}
    (h : WrittenItems isFirst vs s t) (bs : List Bracket) :
    ∃ n, n + 2 * t.length ≤ 2 * s.length + (if isFirst then 1 else 0) ∧
      Passes n ⟨turnOf isFirst, .list :: bs, s⟩ ⟨.next, bs, t⟩ := by
  cases h with
  | nil hblanks =>
    have hlength := hblanks.length_le
    refine ⟨1, ?_, .step (by cases isFirst <;> rfl) (step_closing hblanks isFirst) (.refl _)⟩
    simp at hlength
    omega
  | @cons _ v vs _ s₁ s₂ _ hseparated hvalue hrest =>
    obtain ⟨n, hn, hfirst⟩ := passes_of_written hvalue hrest.delimited (.list :: bs)
    obtain ⟨k, hk, hitems⟩ := passes_of_items hrest bs
    obtain ⟨c, r, rfl, hbegins⟩ := hvalue.begins
    obtain ⟨hblank, -, hclosing, -⟩ := hbegins.ne
    obtain ⟨s', hstep, hblanks, hlength⟩ :=
      step_separated .list bs hseparated hblank hclosing
    refine ⟨n + k + 1, ?_, .step (by cases isFirst <;> rfl) hstep ((hfirst s' hblanks).trans hitems)⟩
    have hle := hblanks.length_le
    cases isFirst with
    | true =>
      simp at hk hlength ⊢
      omega
    | false =>
      simp at hk hlength ⊢
      omega

/-- The members of an object are passed over with the closing bracket. -/
theorem passes_of_members {isFirst : Bool} {ms : List (String × Value)} {s t : List Char}
    (h : WrittenMembers isFirst ms s t) (bs : List Bracket) :
    ∃ n, n + 2 * t.length ≤ 2 * s.length + (if isFirst then 1 else 0) ∧
      Passes n ⟨turnOf isFirst, .object :: bs, s⟩ ⟨.next, bs, t⟩ := by
  cases h with
  | nil hblanks =>
    have hlength := hblanks.length_le
    refine ⟨1, ?_, .step (by cases isFirst <;> rfl) (step_closing hblanks isFirst) (.refl _)⟩
    simp at hlength
    omega
  | @cons _ k v ms _ s₁ s₂ s₃ s₄ s₅ _ hseparated hname hcolon hblanks hvalue hrest =>
    obtain ⟨n, hn, hfirst⟩ := passes_of_written hvalue hrest.delimited (.object :: bs)
    obtain ⟨j, hj, hmembers⟩ := passes_of_members hrest bs
    obtain ⟨s', hstep, hquote, hlength⟩ :=
      step_separated .object bs hseparated (by decide) (by decide)
    have hskip := hquote.skip (by decide)
    have henter : enter .object bs s' = .ok ⟨.value, .object :: bs, s₃⟩ := by
      unfold enter skipName
      simp only [hskip, skipText_of_written hname, hcolon.skip (by decide), bind, Except.bind]
    rw [henter] at hstep
    refine ⟨n + j + 1, ?_, .step (by cases isFirst <;> rfl) hstep ((hfirst s₃ hblanks).trans hmembers)⟩
    have hbefore := hname.length_lt
    have hcolon := hcolon.length_le
    have hafter := hblanks.length_le
    have hquote := hquote.length_le
    simp only [List.length_cons, Bool.false_eq_true, if_false, Nat.add_zero] at hj hcolon hquote hlength ⊢
    omega

end

end Passing

/-- **A written value is passed over**, and what follows it is left. -/
theorem skipValue_of_written (h : Written v s t) (ht : Delimited t) (hblanks : Blanks s' s) :
    skipValue s' = .ok ((), t) := by
  obtain ⟨n, hn, hpasses⟩ := Passing.passes_of_written h ht []
  have hlength := hblanks.length_le
  have hrun := Passing.run_of_passes (hpasses s' hblanks) rfl
    (show n ≤ 2 * s'.length + 2 by omega)
  unfold skipValue
  rw [hrun]
  rfl

end BindingPipeline.Json
