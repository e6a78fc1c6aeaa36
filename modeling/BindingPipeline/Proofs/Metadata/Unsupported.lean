/-
BindingPipeline/Proofs/Metadata/Unsupported.lean

Compiled modules are inconsistent only where the host lacks a type.  A name in a signature stands for the text
of one entry of the type catalog.  If the entry has a host type, that is in the module's list, whichever other
entries there are; if it has none, the text is `unknown`, which no entry can put on the list, because no host
type is spelled so.  A record has therefore at most one finding, and has it exactly if a name in its
operation's signatures is decided by an entry without a host type (`UsesUnsupported`).

All that is asked of the type catalog is that its host types come from spellings (`Catalog.Spelled`), as they
do in every catalog that is read from a text (`Catalog.spelled_of_readTypes`).

Main result: `inconsistencies_of_compile`.
-/
import BindingPipeline.Proofs.Catalog.Types
import BindingPipeline.Proofs.Metadata.Compilation
import BindingPipeline.Proofs.Metadata.Inconsistency

namespace BindingPipeline.Metadata

open Catalog (HostType Operation Spelled TypeEntry)

variable {rules : Rules} {operations : List Operation} {types : List TypeEntry}
variable {m : Module} {o : Operation} {r : Record}

/-- The host lacks the type of the name: the entry that decides about it says so. -/
def IsUnsupported (types : List TypeEntry) (canonical : String) : Prop :=
  ∃ e, Decides types canonical e ∧ e.host = .unsupported

/-- A name in the operation's signatures is one whose type the host lacks. -/
def UsesUnsupported (types : List TypeEntry) (o : Operation) : Prop :=
  ∃ sig ∈ o.types, ∃ canonical ∈ sig, IsUnsupported types canonical

/-! ### Names and their texts -/

theorem mem_hostNames {text : String} :
    text ∈ Catalog.hostNames types ↔ ∃ e ∈ types, e.host = .named text := by
  unfold Catalog.hostNames
  rw [List.mem_filterMap]
  refine exists_congr fun e => and_congr_right fun _ => ?_
  rcases e.host with name | -
  · simp [HostType.name?]
  · simp [HostType.name?]

theorem unknownText_notMem_hostNames (hspelled : Spelled types) :
    HostType.unknownText ∉ Catalog.hostNames types := by
  intro hmem
  obtain ⟨e, he, hhost⟩ := mem_hostNames.1 hmem
  obtain ⟨text, htext⟩ := hspelled e he
  rw [hhost] at htext
  -- a host type of that spelling is no name
  have hsame : text = HostType.unknownText := by
    rw [← HostType.text_ofText text, ← htext]
    rfl
  rw [hsame] at htext
  exact nomatch htext

/-- The text of a name is undeclared exactly if the host lacks the type, and then it is `unknown`. -/
theorem StandsFor.notMem_hostNames_iff (hspelled : Spelled types) {canonical text : String}
    (h : StandsFor types canonical text) :
    text ∉ Catalog.hostNames types ↔ IsUnsupported types canonical ∧ text = HostType.unknownText := by
  obtain ⟨e, he, rfl⟩ := h
  constructor
  · intro hnot
    rcases hhost : e.host with name | -
    · -- the entry itself puts its host type on the list
      obtain ⟨before, after, rfl, -⟩ := he
      rw [hhost] at hnot
      exact absurd (mem_hostNames.2 ⟨e, by simp, hhost⟩) hnot
    · exact ⟨⟨e, he, hhost⟩, rfl⟩
  · rintro ⟨-, htext⟩
    rw [htext]
    exact unknownText_notMem_hostNames hspelled

theorem IsUnsupported.text_eq {canonical text : String} (h : IsUnsupported types canonical)
    (htext : StandsFor types canonical text) : text = HostType.unknownText := by
  obtain ⟨e, he, hhost⟩ := h
  have hstands : StandsFor types canonical HostType.unknownText := ⟨e, he, by rw [hhost]; rfl⟩
  exact standsFor_unique htext hstands

/-! ### Records -/

/-- What a record is reported for: `unknown`, if its operation uses a type that the host lacks, and nothing
else. -/
theorem Record.Describes.mem_undeclared_iff (hspelled : Spelled types) (h : r.Describes o types)
    {finding : UndeclaredType} :
    finding ∈ r.undeclared (Catalog.hostNames types) ↔
      finding = ⟨r.name, HostType.unknownText⟩ ∧ UsesUnsupported types o := by
  rw [Record.mem_undeclared]
  constructor
  · rintro ⟨hop, ⟨sig', hsig', htext⟩, hnot⟩
    obtain ⟨sig, hsig, hall⟩ := exists_mem_of_forall₂ h.signatures.flip hsig'
    obtain ⟨canonical, hcanonical, hstands⟩ := exists_mem_of_forall₂ hall.flip htext
    obtain ⟨hunsupported, hunknown⟩ := (StandsFor.notMem_hostNames_iff hspelled hstands).1 hnot
    refine ⟨?_, sig, hsig, canonical, hcanonical, hunsupported⟩
    rcases finding with ⟨op, text⟩
    rw [show op = r.name from hop, show text = HostType.unknownText from hunknown]
  · rintro ⟨rfl, sig, hsig, canonical, hcanonical, hunsupported⟩
    obtain ⟨sig', hsig', hall⟩ := exists_mem_of_forall₂ h.signatures hsig
    obtain ⟨text, htext, hstands⟩ := exists_mem_of_forall₂ hall hcanonical
    obtain rfl := hunsupported.text_eq hstands
    exact ⟨rfl, ⟨sig', hsig', htext⟩, unknownText_notMem_hostNames hspelled⟩

theorem Record.Describes.undeclared_of_uses (hspelled : Spelled types) (h : r.Describes o types)
    (huses : UsesUnsupported types o) :
    r.undeclared (Catalog.hostNames types) = [⟨r.name, HostType.unknownText⟩] := by
  rw [← List.perm_singleton, List.perm_ext_iff_of_nodup (r.nodup_undeclared _) (List.nodup_singleton _)]
  intro finding
  rw [h.mem_undeclared_iff hspelled, List.mem_singleton]
  exact and_iff_left huses

theorem Record.Describes.undeclared_eq_nil_iff (hspelled : Spelled types) (h : r.Describes o types) :
    r.undeclared (Catalog.hostNames types) = [] ↔ ¬ UsesUnsupported types o := by
  constructor
  · intro hnil huses
    rw [h.undeclared_of_uses hspelled huses] at hnil
    cases hnil
  · intro hnot
    refine List.eq_nil_iff_forall_not_mem.2 fun finding hmem => ?_
    exact hnot ((h.mem_undeclared_iff hspelled).1 hmem).2

/-! ### Modules -/

/-- The keys of the records that have findings, in their order. -/
def Module.inconsistentKeys (m : Module) : List String :=
  (m.ops.entries.filter fun e => e.2.undeclared m.types ≠ []).map Prod.fst

theorem Module.mem_inconsistentKeys {k : String} :
    k ∈ m.inconsistentKeys ↔ ∃ r, m.ops.get? k = some r ∧ r.undeclared m.types ≠ [] := by
  simp [Module.inconsistentKeys, Table.get?_eq_some_iff]

theorem Module.increasing_inconsistentKeys (m : Module) : m.inconsistentKeys.Pairwise (· < ·) :=
  List.pairwise_map.2 (m.ops.increasing.filter _)

theorem Module.Describes.types_eq (h : m.Describes operations types) :
    m.types = Catalog.hostNames types :=
  h.hosts.trans hostNames_eq.symm

/-- What is under a key of a described module belongs to an offered operation of that name. -/
theorem Module.Describes.exists_offered (h : m.Describes operations types) {k : String}
    (hget : m.ops.get? k = some r) :
    ∃ o ∈ offered operations, o.name? = some k ∧ r.name = k ∧ r.Describes o types := by
  obtain ⟨o, ho, hk⟩ := (h.keys k).1 (Table.mem_keys_iff.2 ⟨r, hget⟩)
  obtain ⟨r', hr', hname, hdesc⟩ := h.records o ho k hk
  obtain rfl := Option.some.inj (hget.symm.trans hr')
  exact ⟨o, ho, hk, hname, hdesc⟩

theorem Module.Describes.mem_inconsistentKeys_iff (hspelled : Spelled types)
    (h : m.Describes operations types) (ho : o ∈ offered operations) {k : String} (hk : o.name? = some k) :
    k ∈ m.inconsistentKeys ↔ UsesUnsupported types o := by
  obtain ⟨r, hget, -, hr⟩ := h.records o ho k hk
  have hnonempty := not_congr (hr.undeclared_eq_nil_iff hspelled)
  rw [not_not] at hnonempty
  rw [Module.mem_inconsistentKeys, h.types_eq, hget, ← hnonempty]
  simp only [Option.some.injEq, exists_eq_left']

/-- Lists of at most one element each, put behind each other. -/
theorem flatMap_eq_map_filter {α β : Type} [DecidableEq β] {f : α → List β} {g : α → β} {as : List α}
    (h : ∀ a ∈ as, f a ≠ [] → f a = [g a]) : as.flatMap f = (as.filter (f · ≠ [])).map g := by
  induction as with
  | nil => rfl
  | cons a as ih =>
    obtain ⟨ha, has⟩ := List.forall_mem_cons.1 h
    rw [List.flatMap_cons, ih has]
    by_cases hnil : f a = []
    · simp [hnil]
    · rw [List.filter_cons_of_pos (by simpa using hnil), List.map_cons, ha hnil]
      rfl

/-- Every key with findings has one, and it says `unknown`. -/
theorem Module.Describes.inconsistencies_eq (hspelled : Spelled types)
    (h : m.Describes operations types) :
    m.inconsistencies = m.inconsistentKeys.map (⟨·, HostType.unknownText⟩) := by
  unfold Module.inconsistencies Module.inconsistentKeys Table.values
  rw [List.flatMap_map, List.map_map]
  apply flatMap_eq_map_filter
  rintro ⟨k, r⟩ he hnonempty
  obtain ⟨o, -, -, rfl, hr⟩ := h.exists_offered (Table.get?_eq_some_iff.2 he)
  rw [h.types_eq] at hnonempty ⊢
  apply hr.undeclared_of_uses hspelled
  by_contra hnot
  exact hnonempty ((hr.undeclared_eq_nil_iff hspelled).2 hnot)

/-- **Compiled modules are inconsistent only through types that the host lacks.**  The findings are, in the
order of the keys, one for each offered operation that uses such a type, which says `unknown`; there is none
if no offered operation does. -/
theorem inconsistencies_of_compile (hspelled : Spelled types)
    (h : compile rules operations types = .ok m) :
    (∃ names : List String, m.inconsistencies = names.map (⟨·, HostType.unknownText⟩) ∧
      names.Pairwise (· < ·) ∧
      (∀ k ∈ names, ∃ o ∈ offered operations, o.name? = some k) ∧
      ∀ o ∈ offered operations, ∀ k, o.name? = some k → (k ∈ names ↔ UsesUnsupported types o)) ∧
    (m.firstInconsistency? = none ↔ ∀ o ∈ offered operations, ¬ UsesUnsupported types o) := by
  have hdesc := describes_of_compile h
  have hoffered : ∀ k ∈ m.inconsistentKeys, ∃ o ∈ offered operations, o.name? = some k := by
    intro k hk
    obtain ⟨r, hget, -⟩ := Module.mem_inconsistentKeys.1 hk
    obtain ⟨o, ho, hname, -⟩ := hdesc.exists_offered hget
    exact ⟨o, ho, hname⟩
  have huses : ∀ o ∈ offered operations, ∀ k, o.name? = some k →
      (k ∈ m.inconsistentKeys ↔ UsesUnsupported types o) :=
    fun o ho k hk => hdesc.mem_inconsistentKeys_iff hspelled ho hk
  have hfindings := hdesc.inconsistencies_eq hspelled
  refine ⟨⟨_, hfindings, m.increasing_inconsistentKeys, hoffered, huses⟩, ?_⟩
  unfold Module.firstInconsistency?
  rw [List.head?_eq_none_iff, hfindings, List.map_eq_nil_iff, List.eq_nil_iff_forall_not_mem]
  constructor
  · intro hnone o ho huse
    obtain ⟨k, hk⟩ := (exists_compile_iff.1 ⟨m, h⟩).named o ho
    exact hnone k ((huses o ho k hk).2 huse)
  · intro hnone k hk
    obtain ⟨o, ho, hname⟩ := hoffered k hk
    exact hnone o ho ((huses o ho k hname).1 hk)

/-- A catalog in which the last of two entries decides: `A` is named and then unsupported, `B` the other way
round, and two names share a host type. -/
def repetitiveTypes : List TypeEntry :=
  [⟨"A", .named "a"⟩, ⟨"B", .unsupported⟩, ⟨"C", .named "a"⟩, ⟨"A", .unsupported⟩, ⟨"B", .named "b"⟩]

/-- Operations of which the first and the last use the name `A`, and the hidden one too. -/
def repetitiveOperations : List Operation :=
  [⟨"BH_SUB", 2, [["C", "A"], ["A", "A"]], true, false⟩, ⟨"BH_NEG", 1, [["B"], ["C"]], true, false⟩,
    ⟨"BH_FREE", 1, [["A"]], false, true⟩, ⟨"BH_ADD", 2, [["A", "B"]], true, false⟩]

/-- The module of the two catalogs. -/
def repetitiveModule : Module where
  ops := Table.ofList [("sub", ⟨"sub", 2, [["a", "unknown"], ["unknown", "unknown"]]⟩),
    ("neg", ⟨"neg", 1, [["b"], ["a"]]⟩), ("add", ⟨"add", 2, [["unknown", "b"]]⟩)]
  types := ["a", "a", "b"]

/-- The two operations have a finding each, in the order of their names. -/
theorem repetitive_inconsistencies :
    Spelled repetitiveTypes ∧
    compile .lenient repetitiveOperations repetitiveTypes = .ok repetitiveModule ∧
    repetitiveModule.inconsistencies = [⟨"add", "unknown"⟩, ⟨"sub", "unknown"⟩] ∧
    ¬ ∀ o ∈ offered repetitiveOperations, ¬ UsesUnsupported repetitiveTypes o := by
  have hspelled : Spelled repetitiveTypes := by decide
  have hcompile : compile .lenient repetitiveOperations repetitiveTypes = .ok repetitiveModule := rfl
  obtain ⟨-, hnone⟩ := inconsistencies_of_compile hspelled hcompile
  refine ⟨hspelled, hcompile, rfl, ?_⟩
  rw [← hnone]
  exact nofun

end BindingPipeline.Metadata
