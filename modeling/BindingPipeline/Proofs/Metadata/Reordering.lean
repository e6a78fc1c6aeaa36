/-
BindingPipeline/Proofs/Metadata/Reordering.lean

The order of the catalogs does not matter to what is compiled.  Operations that are not offered may stand
anywhere, and those that are offered in any order; entries of the type catalog may be put in another order if
no canonical name occurs twice, since then it is never the order that decides which entry a name stands for.

Design.  The compiler stops at the first fault, so two runs that fail may fail with different errors, and
nothing is said of these (`Agree`).  Neither is a run compared with the other step by step: the conditions
under which catalogs compile (`Compilable`) and the module that they describe (`Module.Describes`) mention no
order, and it is enough that these carry over from one list to the other.

Main result: `compile_reordered`.
-/
import BindingPipeline.Metadata.Encode
import BindingPipeline.Proofs.Metadata.Compilation

namespace BindingPipeline.Metadata

open Catalog (Operation TypeEntry)

variable {rules : Rules} {operations operations' : List Operation} {types types' : List TypeEntry}
variable {m m' : Module} {R : Module → Module → Prop}

/-! ### Runs that agree -/

/-- Both runs succeed or both fail, and the modules that they make are related. -/
structure Agree (R : Module → Module → Prop) (x y : Except Error Module) : Prop where
  succeed : (∃ m, x = .ok m) ↔ ∃ m', y = .ok m'
  related : ∀ m m', x = .ok m → y = .ok m' → R m m'

/-- Runs agree if the conditions on their catalogs do and the modules described are related. -/
theorem agree_of_describes
    (hconditions : Compilable rules operations types ↔ Compilable rules operations' types')
    (hmodules : ∀ m m', m.Describes operations types → m'.Describes operations' types' → R m m') :
    Agree R (compile rules operations types) (compile rules operations' types') where
  succeed := by rw [exists_compile_iff, exists_compile_iff, hconditions]
  related := by
    intro m m' hm hm'
    exact hmodules m m' (describes_of_compile hm) (describes_of_compile hm')

/-! ### Operations -/

theorem Compilable.permOperations (h : Compilable rules operations types)
    (hperm : (offered operations).Perm (offered operations')) : Compilable rules operations' types where
  named := fun o ho => h.named o (hperm.mem_iff.2 ho)
  distinct := (hperm.pairwise_iff fun hne => hne.symm).1 h.distinct
  known := fun o ho => h.known o (hperm.mem_iff.2 ho)
  arity := fun hc o ho => h.arity hc o (hperm.mem_iff.2 ho)

theorem Module.Describes.permOperations (h : m.Describes operations types)
    (hperm : (offered operations).Perm (offered operations')) : m.Describes operations' types where
  hosts := h.hosts
  keys := by
    intro k
    rw [h.keys k]
    exact exists_congr fun o => and_congr_left fun _ => hperm.mem_iff
  records := fun o ho => h.records o (hperm.mem_iff.2 ho)

/-! ### Types -/

/-- Where no canonical name occurs twice, every entry decides about its own. -/
theorem decides_iff_of_nodup (hnodup : (types.map (·.canonical)).Nodup) {canonical : String}
    {e : TypeEntry} : Decides types canonical e ↔ e ∈ types ∧ e.canonical = canonical := by
  constructor
  · rintro ⟨before, after, rfl, he, -⟩
    exact ⟨by simp, he⟩
  · rintro ⟨hmem, he⟩
    obtain ⟨before, after, rfl⟩ := List.append_of_mem hmem
    refine ⟨before, after, rfl, he, fun e' he' hsame => ?_⟩
    rw [List.map_append, List.map_cons] at hnodup
    obtain ⟨hnot, -⟩ := List.nodup_cons.1 (List.nodup_append.1 hnodup).2.1
    apply hnot
    rw [he, ← hsame]
    exact List.mem_map_of_mem he'

theorem StandsFor.perm (hnodup : (types.map (·.canonical)).Nodup) (hperm : types.Perm types')
    {canonical text : String} (h : StandsFor types canonical text) : StandsFor types' canonical text := by
  have hnodup' : (types'.map (·.canonical)).Nodup := (hperm.map _).nodup_iff.1 hnodup
  obtain ⟨e, he, rfl⟩ := h
  obtain ⟨hmem, hcanonical⟩ := (decides_iff_of_nodup hnodup).1 he
  exact ⟨e, (decides_iff_of_nodup hnodup').2 ⟨hperm.mem_iff.1 hmem, hcanonical⟩, rfl⟩

theorem Compilable.permTypes (h : Compilable rules operations types) (hperm : types.Perm types') :
    Compilable rules operations types' where
  named := h.named
  distinct := h.distinct
  known := by
    intro o ho sig hsig canonical hcanonical
    obtain ⟨e, he, hsame⟩ := h.known o ho sig hsig canonical hcanonical
    exact ⟨e, hperm.mem_iff.1 he, hsame⟩
  arity := h.arity

/-- The records stay as they are, and the list of types is that of the other catalog. -/
theorem Module.Describes.permTypes (h : m.Describes operations types)
    (hnodup : (types.map (·.canonical)).Nodup) (hperm : types.Perm types') :
    Module.Describes ⟨m.ops, Catalog.hostNames types'⟩ operations types' where
  hosts := hostNames_eq
  keys := h.keys
  records := by
    intro o ho k hk
    obtain ⟨r, hr, hname, hdesc⟩ := h.records o ho k hk
    refine ⟨r, hr, hname, hdesc.name, hdesc.nop, ?_⟩
    exact hdesc.signatures.imp fun _ _ hsig => hsig.imp fun _ _ hstands => hstands.perm hnodup hperm

/-! ### The theorem -/

/-- **The order of the catalogs does not matter, and neither does what is hidden.**  With other operations of
which the same ones are offered, in whatever order and whatever stands between them, compiling succeeds or
fails as before, and makes the same module, of which each format writes the same text.  With the entries of
a type catalog without repeated names in another order, it succeeds or fails as before and makes the same
records, with the types in another order. -/
theorem compile_reordered (rules : Rules) (operations : List Operation) (types : List TypeEntry) :
    (∀ operations', (offered operations).Perm (offered operations') →
      Agree (fun m m' => m = m' ∧ ∀ f : Format, f.encode m = f.encode m')
        (compile rules operations types) (compile rules operations' types)) ∧
    ∀ types', (types.map (·.canonical)).Nodup → types.Perm types' →
      Agree (fun m m' => m.ops = m'.ops ∧ m.types.Perm m'.types)
        (compile rules operations types) (compile rules operations types') := by
  constructor
  · intro operations' hperm
    apply agree_of_describes
    · exact ⟨fun h => h.permOperations hperm, fun h => h.permOperations hperm.symm⟩
    · intro m m' hm hm'
      obtain rfl : m = m' := (hm.permOperations hperm).unique hm'
      exact ⟨rfl, fun f => rfl⟩
  · intro types' hnodup hperm
    apply agree_of_describes
    · exact ⟨fun h => h.permTypes hperm, fun h => h.permTypes hperm.symm⟩
    · intro m m' hm hm'
      -- both modules are described by the second catalog, once the types are put in its order
      obtain rfl : ⟨m.ops, Catalog.hostNames types'⟩ = m' := (hm.permTypes hnodup hperm).unique hm'
      refine ⟨rfl, ?_⟩
      rw [hm.hosts, ← hostNames_eq]
      exact hperm.filterMap _

/-- Two operations that are offered, with a hidden one of an unknown type between them. -/
def mixedOperations : List Operation :=
  [⟨"BH_SUB", 2, [["B", "A"]], true, false⟩, ⟨"FREE", 1, [["C"]], false, true⟩,
    ⟨"BH_ADD", 2, [["A", "A"], ["B", "B"]], true, false⟩]

/-- The same two the other way round, with other hidden ones around them. -/
def mixedOperations' : List Operation :=
  [⟨"BH_ADD", 2, [["A", "A"], ["B", "B"]], true, false⟩, ⟨"BH_SUB", 2, [["B", "A"]], true, false⟩,
    ⟨"BH_SUB", 3, [["A"]], false, false⟩]

/-- The types of the two operations, one of which the host lacks. -/
def mixedTypes : List TypeEntry :=
  [⟨"A", .named "a"⟩, ⟨"B", .unsupported⟩, ⟨"D", .named "d"⟩]

/-- The catalogs compile, and in the other order they agree with it. -/
theorem mixed_reordered :
    (∃ m, compile .lenient mixedOperations mixedTypes = .ok m) ∧
    Agree (fun m m' => m = m' ∧ ∀ f : Format, f.encode m = f.encode m')
      (compile .lenient mixedOperations mixedTypes) (compile .lenient mixedOperations' mixedTypes) ∧
    Agree (fun m m' => m.ops = m'.ops ∧ m.types.Perm m'.types)
      (compile .lenient mixedOperations mixedTypes)
      (compile .lenient mixedOperations mixedTypes.reverse) := by
  obtain ⟨hoperations, htypes⟩ := compile_reordered .lenient mixedOperations mixedTypes
  have hnodup : (mixedTypes.map (·.canonical)).Nodup := by decide
  refine ⟨⟨_, rfl⟩, ?_, ?_⟩
  · apply hoperations
    show [_, _].Perm [_, _]
    exact List.Perm.swap _ _ _
  · exact htypes _ hnodup (List.reverse_perm _).symm

end BindingPipeline.Metadata
