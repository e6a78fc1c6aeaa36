/-
BindingPipeline/Text/Blank.lean

White space in the sense of Unicode, and a text without the white space at its two ends.
-/
import BindingPipeline.Text.Ranges

namespace BindingPipeline.Text

/-- The characters with the property `White_Space`. -/
def blanks : Ranges :=
  [(0x9, 0xD), (0x20, 0x20), (0x85, 0x85), (0xA0, 0xA0), (0x1680, 0x1680),
  (0x2000, 0x200A), (0x2028, 0x2029), (0x202F, 0x202F), (0x205F, 0x205F), (0x3000, 0x3000)]

/-- Is the character white space? -/
def isBlank (c : Char) : Bool := blanks.has c

/-- The text without white space at either end. -/
def trim (cs : List Char) : List Char :=
  ((cs.dropWhile isBlank).reverse.dropWhile isBlank).reverse

@[simp] theorem trim_nil : trim [] = [] := rfl

variable {cs core : List Char}

/-- A text is what trimming leaves of it, between white space. -/
theorem exists_eq_append_trim (cs : List Char) : ∃ before after,
    (∀ c ∈ before, isBlank c = true) ∧ (∀ c ∈ after, isBlank c = true) ∧ cs = before ++ trim cs ++ after := by
  have hblank : ∀ ds : List Char, ∀ c ∈ ds.takeWhile isBlank, isBlank c = true := by
    intro ds c hc
    exact List.all_eq_true.1 (List.all_takeWhile (l := ds)) c hc
  refine ⟨cs.takeWhile isBlank, ((cs.dropWhile isBlank).reverse.takeWhile isBlank).reverse, hblank cs,
    fun c hc => hblank _ c (List.mem_reverse.1 hc), ?_⟩
  unfold trim
  rw [List.append_assoc, ← List.reverse_append, List.takeWhile_append_dropWhile, List.reverse_reverse,
    List.takeWhile_append_dropWhile]

/-- Nothing is dropped from the front of a text that does not begin in white space. -/
theorem dropWhile_isBlank_append (hcore : core ≠ []) (first : ∀ c ∈ core.head?, isBlank c = false) :
    (core ++ cs).dropWhile isBlank = core ++ cs := by
  cases core with
  | nil => exact absurd rfl hcore
  | cons c core => rw [List.cons_append, List.dropWhile_cons, first c rfl, if_neg Bool.false_ne_true]

/-- Trimming leaves a text that neither begins nor ends in white space exactly of what has it between white
space. -/
theorem trim_eq_iff (hcore : core ≠ []) (first : ∀ c ∈ core.head?, isBlank c = false)
    (last : ∀ c ∈ core.getLast?, isBlank c = false) : trim cs = core ↔ ∃ before after,
      (∀ c ∈ before, isBlank c = true) ∧ (∀ c ∈ after, isBlank c = true) ∧ cs = before ++ core ++ after := by
  constructor
  · rintro rfl
    exact exists_eq_append_trim cs
  · rintro ⟨before, after, hbefore, hafter, rfl⟩
    have hreverse : core.reverse.dropWhile isBlank = core.reverse := by
      have hfirst : ∀ c ∈ core.reverse.head?, isBlank c = false := by rwa [List.head?_reverse]
      rw [← List.append_nil core.reverse]
      exact dropWhile_isBlank_append (mt List.reverse_eq_nil_iff.1 hcore) hfirst
    have hafter' : ∀ c ∈ after.reverse, isBlank c = true := fun c hc => hafter c (List.mem_reverse.1 hc)
    rw [trim, List.append_assoc, List.dropWhile_append_of_pos hbefore, dropWhile_isBlank_append hcore first,
      List.reverse_append, List.dropWhile_append_of_pos hafter', hreverse, List.reverse_reverse]

end BindingPipeline.Text
