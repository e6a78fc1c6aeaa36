/-
BindingPipeline/Proofs/Text/Lowered.lean

Texts that are in lowercase already.  A character is low if lowercasing leaves it alone wherever it stands.  What
lowercasing gives is made of low characters only (`isLow_of_mem_lowerFrom`), so doing it again changes
nothing.  The reason lies in the table of runs: no run leads to a member of a run, nor to the one character
that has two for its lowercase (`clears_lowerRuns`).  Of two runs this is seen from their ends and strides,
without a look at their members.

Main results: `lowercase_eq_self_iff`, `lowercase_lowercase`.
-/
import BindingPipeline.Proofs.Text.Lowercase

namespace BindingPipeline.Text

/-! ### Runs -/

namespace LowerRun

/-- The character is a member of the run. -/
def Has (r : LowerRun) (c : Char) : Prop :=
  r.first ≤ c.toNat ∧ c.toNat ≤ r.last ∧ (c.toNat - r.first) % r.stride = 0

/-- The code point that the first member leads to. -/
def low (r : LowerRun) : Nat := (r.first + r.offset).toNat

/-- The code point that the last member leads to. -/
def high (r : LowerRun) : Nat := (r.last + r.offset).toNat

/-- Does the run lead to code points that are characters? -/
def leadsToChars (r : LowerRun) : Bool :=
  decide (0 ≤ r.first + r.offset) && (r.high.blt 0xD800 || Nat.blt 0xDFFF r.low && r.high.blt 0x110000)

/-- Does what the first run leads to stand before the second one, behind it, or between its members? -/
def clears (r r' : LowerRun) : Bool :=
  r.high.blt r'.first || r'.last.blt r.low ||
    r'.stride == 2 && (r.stride == 2 || r.first == r.last) && (r.low + r'.first) % 2 == 1

variable {r r' : LowerRun} {c d : Char}

theorem image?_eq_some_iff :
    r.image? c = some d ↔ r.Has c ∧ d = Char.ofNat (c.toNat + r.offset).toNat := by
  unfold image? Has
  split
  · rename_i hhas
    rw [Option.some.injEq, eq_comm, and_iff_right hhas]
  · rename_i hhas
    simp only [reduceCtorEq, false_iff, not_and]
    exact fun h => absurd h hhas

theorem image?_eq_none_iff : r.image? c = none ↔ ¬ r.Has c := by
  unfold image? Has
  split
  · rename_i hhas
    simp only [reduceCtorEq, false_iff, not_not]
    exact hhas
  · rename_i hhas
    exact iff_of_true rfl hhas

/-- What a run leads to is no member of a run that it clears. -/
theorem not_has_of_clears (hchars : r.leadsToChars = true) (hclears : r.clears r' = true)
    (h : r.image? c = some d) : ¬ r'.Has d := by
  obtain ⟨⟨hfirst, hlast, hstride⟩, rfl⟩ := image?_eq_some_iff.1 h
  simp only [leadsToChars, low, high, Bool.and_eq_true, Bool.or_eq_true, decide_eq_true_eq, Nat.blt_eq] at hchars
  simp only [clears, low, high, Bool.and_eq_true, Bool.or_eq_true, Nat.blt_eq, beq_iff_eq] at hclears
  have hvalid : (c.toNat + r.offset).toNat.isValidChar := by
    unfold Nat.isValidChar
    omega
  have hcode : (Char.ofNat (c.toNat + r.offset).toNat).toNat = (c.toNat + r.offset).toNat := by
    rw [Char.ofNat, dif_pos hvalid]
    rfl
  rintro ⟨hfirst', hlast', hstride'⟩
  rw [hcode] at hfirst' hlast' hstride'
  rcases hclears with (hbefore | hbehind) | ⟨⟨htwo, hmembers⟩, hodd⟩
  · omega
  · omega
  · -- all that the run leads to is odd where the members of the other one are even
    rw [htwo] at hstride'
    rcases hmembers with hboth | hsingle
    · rw [hboth] at hstride
      omega
    · omega

end LowerRun

/-- The capital I with a dot as a run. -/
def dottedRun : LowerRun := ⟨0x130, 0x130, 1, 0⟩

/-- No run leads to a member of a run. -/
theorem clears_lowerRuns :
    (lowerRuns.all fun r => r.leadsToChars && (dottedRun :: lowerRuns).all r.clears) = true := by
  decide +kernel

/-! ### Characters -/

/-- Lowercasing leaves the character alone, wherever it stands. -/
structure IsLow (c : Char) : Prop where
  sigma : c ≠ 'Σ'
  dotted : c ≠ 'İ'
  fixed : lowerChar c = c

variable {before after cs : List Char} {c d : Char}

theorem lowerChar_eq_self (h : ∀ r ∈ lowerRuns, ¬ r.Has c) : lowerChar c = c := by
  have hnone : lowerRuns.findSome? (·.image? c) = none :=
    List.findSome?_eq_none_iff.2 fun r hr => LowerRun.image?_eq_none_iff.2 (h r hr)
  unfold lowerChar
  rw [hnone, Option.getD_none]

/-- What a run leads to is low. -/
theorem isLow_of_image? {r : LowerRun} (hr : r ∈ lowerRuns) (h : r.image? c = some d) : IsLow d := by
  have hclears := List.all_eq_true.1 clears_lowerRuns r hr
  rw [Bool.and_eq_true, List.all_eq_true] at hclears
  have hout : ∀ r' ∈ dottedRun :: lowerRuns, ¬ r'.Has d :=
    fun r' hr' => LowerRun.not_has_of_clears hclears.1 (hclears.2 r' hr') h
  obtain ⟨hdotted, hruns⟩ := List.forall_mem_cons.1 hout
  refine ⟨?_, ?_, lowerChar_eq_self hruns⟩
  · rintro rfl
    exact hruns ⟨0x3A3, 0x3AB, 1, 32⟩ (by decide) ⟨by decide, by decide, by decide⟩
  · rintro rfl
    exact hdotted ⟨by decide, by decide, by decide⟩

theorem isLow_lowerChar (hsigma : c ≠ 'Σ') (hdotted : c ≠ 'İ') : IsLow (lowerChar c) := by
  rcases hfound : lowerRuns.findSome? (·.image? c) with - | d
  · have hself : lowerChar c = c := by
      unfold lowerChar
      rw [hfound, Option.getD_none]
    rw [hself]
    exact ⟨hsigma, hdotted, hself⟩
  · obtain ⟨r, hr, hd⟩ := List.exists_of_findSome?_eq_some hfound
    have himage : lowerChar c = d := by
      unfold lowerChar
      rw [hfound, Option.getD_some]
    rw [himage]
    exact isLow_of_image? hr hd

theorem isLow_of_mem_lowerAt (h : d ∈ lowerAt before c after) : IsLow d := by
  unfold lowerAt at h
  split at h
  · split at h
    · obtain rfl := List.mem_singleton.1 h
      exact ⟨by decide, by decide, by decide⟩
    · obtain rfl := List.mem_singleton.1 h
      exact ⟨by decide, by decide, by decide⟩
  · split at h
    · rcases List.mem_cons.1 h with rfl | h
      · exact ⟨by decide, by decide, by decide⟩
      · obtain rfl := List.mem_singleton.1 h
        exact ⟨by decide, by decide, by decide⟩
    · rename_i hsigma hdotted
      obtain rfl := List.mem_singleton.1 h
      exact isLow_lowerChar hsigma hdotted

theorem IsLow.lowerAt_eq (h : IsLow c) : lowerAt before c after = [c] := by
  unfold lowerAt
  rw [if_neg h.sigma, if_neg h.dotted, h.fixed]

/-! ### Texts -/

/-- **What lowercasing gives is made of low characters.** -/
theorem isLow_of_mem_lowerFrom (h : d ∈ lowerFrom before cs) : IsLow d := by
  induction cs generalizing before with
  | nil => cases h
  | cons c after ih =>
    rcases List.mem_append.1 h with h | h
    · exact isLow_of_mem_lowerAt h
    · exact ih h

theorem lowerFrom_eq_self (h : ∀ c ∈ cs, IsLow c) : lowerFrom before cs = cs := by
  induction cs generalizing before with
  | nil => rfl
  | cons c after ih =>
    obtain ⟨hc, hafter⟩ := List.forall_mem_cons.1 h
    rw [lowerFrom, hc.lowerAt_eq, ih hafter, List.singleton_append]

/-- **A text is in lowercase exactly if it is made of low characters.** -/
theorem lowercase_eq_self_iff : lowercase cs = cs ↔ ∀ c ∈ cs, IsLow c := by
  constructor
  · intro h c hc
    rw [← h] at hc
    exact isLow_of_mem_lowerFrom hc
  · exact lowerFrom_eq_self

theorem lowercase_lowercase (cs : List Char) : lowercase (lowercase cs) = lowercase cs :=
  lowercase_eq_self_iff.2 fun _ hc => isLow_of_mem_lowerFrom hc

end BindingPipeline.Text
