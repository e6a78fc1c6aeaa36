/-
BindingPipeline/Proofs/Catalog/Name.lean

Derived names, and the order of two steps.  A name is what is left behind the lead when the whole code has been
lowercased; what the lead is there for is the lowercase of what stands behind it in the code itself
(`strippedName?`).  The two differ in two ways only.  The lead is counted when a capital I with a dot in it
has become two characters, so that one character too few is taken off; and a sigma behind the lead
looks at what stands before it.

Main result: `deriveName?_eq_strippedName?_iff`.
-/
import BindingPipeline.Catalog.Operation
import BindingPipeline.Proofs.Text.Lowercase

namespace BindingPipeline.Catalog

open Text (lowercase lowerFrom lowerFrom_append length_lowerFrom ClosesWord)

/-- The characters of the code that are its lead. -/
def lead (opcode : String) : List Char := opcode.toList.take opcodeLead

/-- The characters behind the lead. -/
def stem (opcode : String) : List Char := opcode.toList.drop opcodeLead

/-- The lowercase of what stands behind the lead, if anything does. -/
def strippedName? (opcode : String) : Option String :=
  if opcode.toList.length ≤ opcodeLead then none else some (String.ofList (lowercase (stem opcode)))

variable {opcode : String}

theorem lead_append_stem (opcode : String) : lead opcode ++ stem opcode = opcode.toList :=
  List.take_append_drop opcodeLead opcode.toList

theorem stem_eq_nil_iff : stem opcode = [] ↔ opcode.toList.length ≤ opcodeLead := List.drop_eq_nil_iff

theorem strippedName?_eq_none_iff : strippedName? opcode = none ↔ stem opcode = [] := by
  simp [strippedName?, stem_eq_nil_iff]

theorem strippedName?_eq_some_iff {name : String} :
    strippedName? opcode = some name ↔ name ≠ "" ∧ lowercase (stem opcode) = name.toList := by
  by_cases hstem : stem opcode = []
  · rw [strippedName?_eq_none_iff.2 hstem, hstem]
    simp only [reduceCtorEq, false_iff, not_and]
    exact fun hname hempty => hname (String.toList_eq_nil_iff.1 hempty.symm)
  · unfold strippedName?
    rw [if_neg (mt stem_eq_nil_iff.2 hstem)]
    constructor
    · rintro ⟨⟩
      refine ⟨fun hempty => hstem (Text.lowercase_eq_nil_iff.1 ?_), String.toList_ofList.symm⟩
      rw [← String.toList_ofList (l := lowercase (stem opcode)), hempty]
      rfl
    · rintro ⟨-, hname⟩
      rw [hname, String.ofList_toList]

/-- The two names are the same exactly if the lowercase behind the lead is that of the stem. -/
theorem deriveName?_eq_strippedName?_iff_drop : deriveName? opcode = strippedName? opcode ↔
    (lowercase opcode.toList).drop opcodeLead = lowercase (stem opcode) := by
  constructor
  · intro h
    rcases hname : strippedName? opcode with - | name
    · rw [hname, deriveName?_eq_none_iff, ← List.drop_eq_nil_iff] at h
      rw [h, strippedName?_eq_none_iff.1 hname]
      rfl
    · rw [hname] at h
      exact (deriveName?_eq_some_iff.1 h).2.trans (strippedName?_eq_some_iff.1 hname).2.symm
  · intro h
    refine Option.ext fun name => ?_
    rw [deriveName?_eq_some_iff, strippedName?_eq_some_iff, h]

/-- Behind a lead there is the lowercase of the stem if the lead keeps its length and its last word. -/
theorem drop_lowercase_eq_iff (hstem : stem opcode ≠ []) :
    (lowercase opcode.toList).drop opcodeLead = lowercase (stem opcode) ↔
      'İ' ∉ lead opcode ∧ ¬ ClosesWord (lead opcode).reverse (stem opcode) := by
  have hlead : (lead opcode).length = opcodeLead :=
    List.length_take_of_le (Nat.le_of_not_le (mt stem_eq_nil_iff.2 hstem))
  obtain ⟨front, hfront, hlength⟩ := lowerFrom_append [] (lead opcode) (stem opcode)
  rw [lead_append_stem, List.append_nil] at hfront
  rw [hlead] at hlength
  have hdrop : 'İ' ∉ lead opcode →
      (lowercase opcode.toList).drop opcodeLead = lowerFrom (lead opcode).reverse (stem opcode) := by
    intro hnot
    rw [List.count_eq_zero_of_not_mem hnot, Nat.add_zero] at hlength
    rw [lowercase, hfront, ← hlength, List.drop_left]
  constructor
  · intro h
    -- a character that becomes two makes what is left too long
    have hnot : 'İ' ∉ lead opcode := by
      have hlengths := congrArg List.length h
      rw [lowercase, hfront, List.length_drop, List.length_append, hlength, lowercase, length_lowerFrom,
        length_lowerFrom] at hlengths
      exact List.count_eq_zero.1 (by omega)
    exact ⟨hnot, Text.lowerFrom_eq_lowercase_iff.1 ((hdrop hnot).symm.trans h)⟩
  · rintro ⟨hnot, hword⟩
    rw [hdrop hnot, Text.lowerFrom_eq_lowercase_iff.2 hword]

/-- **The lead is counted in the lowercase.**  The name is the lowercase of what stands behind the lead, except
where the lead has a capital I with a dot, of which lowercasing makes two characters, or where a sigma
behind the lead closes a word that begins in it.  In a code that is no longer than the lead even when it is
lowercased, no name is left either way. -/
theorem deriveName?_eq_strippedName?_iff (opcode : String) :
    deriveName? opcode = strippedName? opcode ↔
      opcode.toList.length + opcode.toList.count 'İ' ≤ opcodeLead ∨
      'İ' ∉ lead opcode ∧ ¬ ClosesWord (lead opcode).reverse (stem opcode) := by
  rw [deriveName?_eq_strippedName?_iff_drop]
  by_cases hstem : stem opcode = []
  · have hlead : lead opcode = opcode.toList := by rw [← lead_append_stem, hstem, List.append_nil]
    rw [hstem, hlead, Text.lowercase_nil, List.drop_eq_nil_iff, lowercase, length_lowerFrom]
    refine ⟨Or.inl, ?_⟩
    rintro (hcount | ⟨hnot, -⟩)
    · exact hcount
    · rw [List.count_eq_zero_of_not_mem hnot]
      exact stem_eq_nil_iff.1 hstem
  · have hlong : ¬ opcode.toList.length ≤ opcodeLead := mt stem_eq_nil_iff.2 hstem
    rw [drop_lowercase_eq_iff hstem]
    exact (or_iff_right (by omega)).symm

set_option maxRecDepth 2000 in
/-- A lead that becomes longer is not taken off as a whole, even where there is nothing behind it, and a
final sigma comes of a word in the lead. -/
theorem not_strips_lead : ¬ (∀ opcode, deriveName? opcode = strippedName? opcode) ∧
    deriveName? "İB_ADD" = some "_add" ∧ strippedName? "İB_ADD" = some "add" ∧
    deriveName? "İB_" = some "_" ∧ strippedName? "İB_" = none ∧
    deriveName? "BHXΣ" = some "ς" ∧ strippedName? "BHXΣ" = some "σ" := by
  have hderived : deriveName? "İB_" = some "_" := by decide
  have hstripped : strippedName? "İB_" = none := by decide
  refine ⟨fun h => ?_, by decide, by decide, hderived, hstripped, by decide, by decide⟩
  have hsame := h "İB_"
  rw [hderived, hstripped] at hsame
  cases hsame

end BindingPipeline.Catalog
