/-
BindingPipeline/Proofs/Metadata/Naming.lean

Names are in normal form.  What a code gives is a part of a lowercase text, so lowercasing the name leaves it as
it is, and it is also the name of the code that has it behind any other lead.  A table of records by name
therefore holds lowercase keys only, and operations whose codes differ in nothing but their case
share a key, which a table has once.

Main result: `names_normal`.
-/
import BindingPipeline.Proofs.Metadata.Compilation
import BindingPipeline.Proofs.Text.Lowered

namespace BindingPipeline

open Text (lowercase lowerFrom IsLow)

namespace Catalog

variable {opcode name lead : String}

/-! ### Names -/

theorem isLow_of_deriveName? (h : deriveName? opcode = some name) : ∀ c ∈ name.toList, IsLow c := by
  intro c hc
  rw [← (deriveName?_eq_some_iff.1 h).2] at hc
  exact Text.isLow_of_mem_lowerFrom (List.mem_of_mem_drop hc)

/-- A lowercase text is the name of every code that has it behind a lead, if the lead keeps its length. -/
theorem deriveName?_append (hname : name ≠ "") (hlow : ∀ c ∈ name.toList, IsLow c)
    (hlength : lead.toList.length = opcodeLead) (hlead : 'İ' ∉ lead.toList) :
    deriveName? (lead ++ name) = some name := by
  obtain ⟨front, hfront, hcount⟩ := Text.lowerFrom_append [] lead.toList name.toList
  rw [List.count_eq_zero_of_not_mem hlead, Nat.add_zero, hlength] at hcount
  rw [deriveName?_eq_some_iff, String.toList_append, lowercase, hfront, ← hcount, List.drop_left]
  exact ⟨hname, Text.lowerFrom_eq_self hlow⟩

/-- A character that has a lowercase of one character is not the one that has two. -/
theorem notMem_of_length_lowercase {cs : List Char} (h : ∀ c ∈ cs, (lowercase [c]).length = 1) :
    'İ' ∉ cs := by
  intro hmem
  exact absurd (h 'İ' hmem) (by decide)

end Catalog

namespace Metadata

open Catalog (Operation TypeEntry deriveName? opcodeLead)

variable {rules : Rules} {operations : List Operation} {types : List TypeEntry}

/-! ### Keys -/

/-- The key is not empty, in lowercase, and the name of its record. -/
structure Module.HasNormalKey (m : Module) (key : String) : Prop where
  nonempty : key ≠ ""
  low : lowercase key.toList = key.toList
  named : ∃ r, m.ops.get? key = some r ∧ r.name = key

theorem Module.Describes.hasNormalKey {m : Module} (h : m.Describes operations types) {key : String}
    (hkey : key ∈ m.ops.keys) : m.HasNormalKey key := by
  obtain ⟨o, ho, hname⟩ := (h.keys key).1 hkey
  obtain ⟨r, hr, hnamed, -⟩ := h.records o ho key hname
  exact ⟨(Catalog.deriveName?_eq_some_iff.1 hname).1,
    Text.lowercase_eq_self_iff.2 (Catalog.isLow_of_deriveName? hname), r, hr, hnamed⟩

/-- Operations that compile have codes that differ in more than their case. -/
theorem Compilable.distinct_lowercase (h : Compilable rules operations types) :
    (offered operations).Pairwise fun o o' => lowercase o.opcode.toList ≠ lowercase o'.opcode.toList := by
  refine h.distinct.imp fun {o o'} hnames hcodes => hnames ?_
  unfold Operation.name? deriveName?
  rw [hcodes]

/-- **Derived names are in normal form.**  The name of a code is not empty, it is its own lowercase, and it is the
name of the code that it makes behind any lead of characters that each have a lowercase of one character.
So the keys of a compiled module are lowercase texts, each the name of its record, and among the
operations that compile no two codes are the same in lowercase. -/
theorem names_normal (rules : Rules) (operations : List Operation) (types : List TypeEntry) :
    (∀ opcode name, deriveName? opcode = some name →
      name ≠ "" ∧ lowercase name.toList = name.toList ∧
        ∀ lead : String, lead.toList.length = opcodeLead →
          (∀ c ∈ lead.toList, (lowercase [c]).length = 1) → deriveName? (lead ++ name) = some name) ∧
    ∀ m, compile rules operations types = .ok m →
      (∀ key ∈ m.ops.keys, m.HasNormalKey key) ∧
        (offered operations).Pairwise fun o o' =>
          lowercase o.opcode.toList ≠ lowercase o'.opcode.toList := by
  constructor
  · intro opcode name hname
    have hnonempty : name ≠ "" := (Catalog.deriveName?_eq_some_iff.1 hname).1
    have hlow := Catalog.isLow_of_deriveName? hname
    refine ⟨hnonempty, Text.lowercase_eq_self_iff.2 hlow, fun lead hlength hsingle => ?_⟩
    exact Catalog.deriveName?_append hnonempty hlow hlength (Catalog.notMem_of_length_lowercase hsingle)
  · intro m hm
    exact ⟨fun key hkey => (describes_of_compile hm).hasNormalKey hkey,
      (exists_compile_iff.1 ⟨m, hm⟩).distinct_lowercase⟩

set_option maxRecDepth 2000 in
/-- A final sigma stays final behind a lead that is not cased, and behind one that is. -/
theorem greek_names_normal :
    deriveName? "BH_ΟΔΟΣ" = some "οδος" ∧ deriveName? "BH_οδος" = some "οδος" ∧
      deriveName? "ΣΣΣοδος" = some "οδος" ∧
    ∃ m, compile .lenient [⟨"BH_ΟΔΟΣ", 1, [], true, false⟩] [] = .ok m ∧ m.HasNormalKey "οδος" := by
  have hname : deriveName? "BH_ΟΔΟΣ" = some "οδος" := by decide
  have hcompile : compile .lenient [⟨"BH_ΟΔΟΣ", 1, [], true, false⟩] [] =
      .ok ⟨Table.empty.insert "οδος" ⟨"οδος", 1, []⟩, []⟩ := by decide
  obtain ⟨hnames, hkeys⟩ := names_normal .lenient [⟨"BH_ΟΔΟΣ", 1, [], true, false⟩] []
  obtain ⟨-, -, hleads⟩ := hnames _ _ hname
  have hbare : ∀ c ∈ ['B', 'H', '_'], (lowercase [c]).length = 1 := by
    simp only [List.forall_mem_cons]
    exact ⟨by decide, by decide, by decide, List.forall_mem_nil _⟩
  have hcased : ∀ c ∈ ['Σ', 'Σ', 'Σ'], (lowercase [c]).length = 1 := by
    simp only [List.forall_mem_cons]
    exact ⟨by decide, by decide, by decide, List.forall_mem_nil _⟩
  refine ⟨hname, hleads "BH_" (by decide) hbare, hleads "ΣΣΣ" (by decide) hcased, _, hcompile, ?_⟩
  exact (hkeys _ hcompile).1 "οδος" (by decide)

end Metadata

end BindingPipeline
