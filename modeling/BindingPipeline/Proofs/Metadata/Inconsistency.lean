/-
BindingPipeline/Proofs/Metadata/Inconsistency.lean

The names that a module uses and does not list.  A record's findings are the first occurrences of its
undeclared names, so they hold every such name (`mem_firstOccurrences`) and come in the order in which the
names are first mentioned, without repetition (`inOrder_firstOccurrences`).  There are none exactly if the
module is consistent (`Module.inconsistencies_eq_nil_iff`).

Design.  Order is said by where a name is first mentioned, and not by the pass that looks for it.  Which names
there are and in which order determines a list of names (`InOrder.eq_of_mem_iff`), so a description of the
findings that says both is met by no other list.

Main result: `Module.inconsistencies_exact`.
-/
import BindingPipeline.Metadata.Inconsistency
import Mathlib.Data.List.Forall2
import Mathlib.Data.List.Nodup

namespace BindingPipeline.Metadata

/-! ### First occurrences -/

variable {seen ts : List String} {t : String}

theorem mem_firstOccurrences : t ∈ firstOccurrences seen ts ↔ t ∈ ts ∧ t ∉ seen := by
  induction ts generalizing seen with
  | nil => simp [firstOccurrences]
  | cons u ts ih =>
    unfold firstOccurrences
    split
    · rename_i hseen
      rw [ih, List.mem_cons]
      refine and_congr_left fun hnew => (or_iff_right ?_).symm
      rintro rfl
      exact hnew hseen
    · rename_i hnew
      rw [List.mem_cons, ih, List.mem_cons, List.mem_cons]
      by_cases htu : t = u
      · subst htu
        simp [hnew]
      · simp [htu]

variable {mentions names names' : List String} {u : String}

/-- The names come in the order in which they are first mentioned, so none of them comes twice. -/
def InOrder (mentions names : List String) : Prop :=
  names.Pairwise fun t u => mentions.idxOf t < mentions.idxOf u

/-- One more mention in front makes no difference to other names. -/
theorem InOrder.cons (h : InOrder mentions names) (hnew : u ∉ names) : InOrder (u :: mentions) names := by
  refine List.Pairwise.imp_of_mem (fun ht ht' hlt => ?_) h
  rw [List.idxOf_cons_ne _ (ne_of_mem_of_not_mem ht hnew).symm,
    List.idxOf_cons_ne _ (ne_of_mem_of_not_mem ht' hnew).symm]
  exact Nat.succ_lt_succ hlt

theorem InOrder.nodup (h : InOrder mentions names) : names.Nodup := by
  refine List.Pairwise.imp (fun hlt heq => ?_) h
  rw [heq] at hlt
  exact absurd hlt (Nat.lt_irrefl _)

/-- The order leaves no choice: the same names are the same list. -/
theorem InOrder.eq_of_mem_iff (h : InOrder mentions names) (h' : InOrder mentions names')
    (hmem : ∀ t, t ∈ names ↔ t ∈ names') : names = names' := by
  refine List.Perm.eq_of_pairwise (fun t u _ _ htu hut => ?_) h h' ?_
  · exact absurd htu (Nat.lt_asymm hut)
  · exact (List.perm_ext_iff_of_nodup h.nodup h'.nodup).2 hmem

/-- Whichever mentions are passed over, first occurrences come in the order of all mentions. -/
theorem inOrder_firstOccurrences (p : String → Bool) (seen ts : List String) :
    InOrder ts (firstOccurrences seen (ts.filter p)) := by
  induction ts generalizing seen with
  | nil => exact List.Pairwise.nil
  | cons u ts ih =>
    by_cases hpass : p u = true
    · rw [List.filter_cons_of_pos hpass]
      unfold firstOccurrences
      split
      · rename_i hseen
        exact (ih seen).cons fun hmem => (mem_firstOccurrences.1 hmem).2 hseen
      · have hrest : u ∉ firstOccurrences (u :: seen) (ts.filter p) :=
          fun hmem => (mem_firstOccurrences.1 hmem).2 List.mem_cons_self
        refine List.pairwise_cons.2 ⟨fun t ht => ?_, (ih (u :: seen)).cons hrest⟩
        -- the head is mentioned before everything else
        rw [List.idxOf_cons_self, List.idxOf_cons_ne _ (ne_of_mem_of_not_mem ht hrest).symm]
        exact Nat.succ_pos _
    · rw [List.filter_cons_of_neg hpass]
      refine (ih seen).cons fun hmem => ?_
      exact hpass (List.mem_filter.1 (mem_firstOccurrences.1 hmem).1).2

/-! ### Records and modules -/

variable {r : Record} {m : Module} {declared : List String}

/-- The names are all those that the record's signatures mention and that are not declared, in the order in
which the signatures, read from left to right, first mention them. -/
structure Record.HasUndeclared (r : Record) (declared names : List String) : Prop where
  mem_iff : ∀ t, t ∈ names ↔ (∃ sig ∈ r.signatures, t ∈ sig) ∧ t ∉ declared
  inOrder : InOrder r.signatures.flatten names

theorem Record.hasUndeclared_firstOccurrences (r : Record) (declared : List String) :
    r.HasUndeclared declared (firstOccurrences [] (r.signatures.flatten.filter (· ∉ declared))) := by
  refine ⟨fun t => ?_, inOrder_firstOccurrences _ _ _⟩
  rw [mem_firstOccurrences, List.mem_filter, List.mem_flatten, decide_eq_true_eq]
  exact and_iff_left List.not_mem_nil

theorem Record.mem_undeclared {finding : UndeclaredType} :
    finding ∈ r.undeclared declared ↔
      finding.op = r.name ∧ (∃ sig ∈ r.signatures, finding.typeName ∈ sig) ∧
        finding.typeName ∉ declared := by
  unfold Record.undeclared
  simp only [List.mem_map, (r.hasUndeclared_firstOccurrences declared).mem_iff]
  constructor
  · rintro ⟨t, ⟨hsig, hnot⟩, rfl⟩
    exact ⟨rfl, hsig, hnot⟩
  · rintro ⟨hop, hsig, hnot⟩
    rcases finding with ⟨op, t⟩
    obtain rfl : op = r.name := hop
    exact ⟨t, ⟨hsig, hnot⟩, rfl⟩

theorem Record.undeclared_eq_nil_iff :
    r.undeclared declared = [] ↔ ∀ sig ∈ r.signatures, ∀ t ∈ sig, t ∈ declared := by
  rw [List.eq_nil_iff_forall_not_mem]
  constructor
  · intro hnone sig hsig t ht
    by_contra hnot
    exact hnone ⟨r.name, t⟩ (Record.mem_undeclared.2 ⟨rfl, ⟨sig, hsig, ht⟩, hnot⟩)
  · intro hall finding hmem
    obtain ⟨-, ⟨sig, hsig, ht⟩, hnot⟩ := Record.mem_undeclared.1 hmem
    exact hnot (hall sig hsig _ ht)

theorem Record.nodup_undeclared (r : Record) (declared : List String) :
    (r.undeclared declared).Nodup := by
  refine (r.hasUndeclared_firstOccurrences declared).inOrder.nodup.map ?_
  intro t u heq
  exact congrArg UndeclaredType.typeName heq

/-- The findings for a record are its undeclared names under its own name, and no other list is. -/
theorem Record.undeclared_eq_iff {findings : List UndeclaredType} :
    r.undeclared declared = findings ↔
      ∃ names, r.HasUndeclared declared names ∧ findings = names.map (⟨r.name, ·⟩) := by
  have hfound := r.hasUndeclared_firstOccurrences declared
  constructor
  · rintro rfl
    exact ⟨_, hfound, rfl⟩
  · rintro ⟨names, hnames, rfl⟩
    have hmem : ∀ t, t ∈ names ↔ t ∈ firstOccurrences [] (r.signatures.flatten.filter (· ∉ declared)) :=
      fun t => (hnames.mem_iff t).trans (hfound.mem_iff t).symm
    rw [hnames.inOrder.eq_of_mem_iff hfound.inOrder hmem]
    rfl

/-- Every type name in a signature is one of the module's types. -/
def Module.Consistent (m : Module) : Prop :=
  ∀ r ∈ m.ops.values, ∀ sig ∈ r.signatures, ∀ t ∈ sig, t ∈ m.types

theorem Module.inconsistencies_eq_nil_iff : m.inconsistencies = [] ↔ m.Consistent := by
  unfold Module.inconsistencies Module.Consistent
  rw [List.flatMap_eq_nil_iff]
  exact forall₂_congr fun r _ => Record.undeclared_eq_nil_iff

theorem Module.firstInconsistency?_eq_none_iff : m.firstInconsistency? = none ↔ m.Consistent := by
  unfold Module.firstInconsistency?
  rw [List.head?_eq_none_iff, Module.inconsistencies_eq_nil_iff]

/-- **The findings are exact.**  They are those of the records one after the other, in the order of the keys:
for each record, under the name that the record has, every type name that its signatures mention and that
the module does not list, once and in the order of first mention, whatever has been found for other records.
No other list is of that form.  No finding is reported exactly if the module lists every name in every
signature, and else it is the first one. -/
theorem Module.inconsistencies_exact (m : Module) :
    m.ops.keys.Pairwise (· < ·) ∧
    (∀ findings, m.inconsistencies = findings ↔ ∃ parts : List (List UndeclaredType),
      List.Forall₂ (fun r part => ∃ names, r.HasUndeclared m.types names ∧ part = names.map (⟨r.name, ·⟩))
        m.ops.values parts ∧ findings = parts.flatten) ∧
    (m.firstInconsistency? = none ↔ m.Consistent) ∧
    ∀ finding, m.firstInconsistency? = some finding ↔
      ¬ m.Consistent ∧ m.inconsistencies.head? = some finding := by
  refine ⟨List.pairwise_map.2 m.ops.increasing, fun findings => ?_,
    Module.firstInconsistency?_eq_none_iff, fun finding => ?_⟩
  · have hparts : ∀ parts, List.Forall₂ (fun r part => r.undeclared m.types = part) m.ops.values parts ↔
        m.ops.values.map (·.undeclared m.types) = parts := by
      intro parts
      rw [← List.forall₂_map_left_iff (R := (· = ·)), List.forall₂_eq_eq_eq]
    simp only [← Record.undeclared_eq_iff, hparts, exists_eq_left']
    unfold Module.inconsistencies
    rw [List.flatMap_def, eq_comm]
  · refine ⟨fun hfirst => ⟨fun hm => ?_, hfirst⟩, And.right⟩
    rw [Module.firstInconsistency?_eq_none_iff.2 hm] at hfirst
    cases hfirst

/-- Two records of one name, under different keys: what is found for the one is found for the other again. -/
example : (⟨.ofList [("add", ⟨"op", 2, [["x", "y"], ["z", "x"]]⟩), ("mul", ⟨"op", 1, [["x"]]⟩)], ["y"]⟩ :
    Module).inconsistencies = [⟨"op", "x"⟩, ⟨"op", "z"⟩, ⟨"op", "x"⟩] := by decide

end BindingPipeline.Metadata
