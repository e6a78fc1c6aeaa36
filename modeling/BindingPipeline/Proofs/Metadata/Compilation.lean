/-
BindingPipeline/Proofs/Metadata/Compilation.lean

Which catalogs compile, and to what.  The compiler takes the offered operations one by one and stops
at the first fault; here it is compared with a description that knows neither order nor accumulator:

* `Compilable` names the conditions on the two catalogs, each on its own;
* `Module.Describes` says what a module has to hold, key by key.

Main result: `compile_iff_describes`.  The catalogs compile exactly if they meet the conditions, and the module
is the one that is described.  The loop is opened once, in `foldlM_addOperation_eq_ok_iff`: its
invariant is that the table holds the records so far, under names that differ.
-/
import BindingPipeline.Metadata.Compile
import BindingPipeline.Proofs.Metadata.Table
import BindingPipeline.Proofs.Results

namespace BindingPipeline.Metadata

open Catalog (Operation TypeEntry HostType)

variable {rules : Rules} {operations : List Operation} {types : List TypeEntry}

/-! ### The description -/

/-- The operations that become records, in the catalog's order. -/
def offered (operations : List Operation) : List Operation := operations.filter (·.isExposed)

/-- The entry is the last one of its canonical name, and so decides about it. -/
def Decides (types : List TypeEntry) (canonical : String) (e : TypeEntry) : Prop :=
  ∃ before after, types = before ++ e :: after ∧ e.canonical = canonical ∧
    ∀ e' ∈ after, e'.canonical ≠ canonical

/-- The text stands for the canonical name in a translated signature. -/
def StandsFor (types : List TypeEntry) (canonical text : String) : Prop :=
  ∃ e, Decides types canonical e ∧ text = e.host.text

/-- The conditions under which two catalogs compile. -/
structure Compilable (rules : Rules) (operations : List Operation) (types : List TypeEntry) :
    Prop where
  named : ∀ o ∈ offered operations, ∃ name, o.name? = some name
  distinct : (offered operations).Pairwise fun o o' => o.name? ≠ o'.name?
  known : ∀ o ∈ offered operations, ∀ sig ∈ o.types, ∀ canonical ∈ sig,
    ∃ e ∈ types, e.canonical = canonical
  arity : rules.checkArity = true →
    ∀ o ∈ offered operations, ∀ sig ∈ o.types, sig.length = o.nop.toNat

/-- The record says what the catalogs say of the operation: signature by signature and name by name
in the same order. -/
structure Record.Describes (r : Record) (o : Operation) (types : List TypeEntry) : Prop where
  name : o.name? = some r.name
  nop : r.nop = o.nop
  signatures : List.Forall₂ (List.Forall₂ (StandsFor types)) o.types r.signatures

/-- The module holds what the catalogs say. -/
structure Module.Describes (m : Module) (operations : List Operation) (types : List TypeEntry) :
    Prop where
  hosts : m.types = (types.filter fun e => e.host ≠ .unsupported).map (·.host.text)
  keys : ∀ k, k ∈ m.ops.keys ↔ ∃ o ∈ offered operations, o.name? = some k
  records : ∀ o ∈ offered operations, ∀ k, o.name? = some k →
    ∃ r, m.ops.get? k = some r ∧ r.name = k ∧ r.Describes o types

/-! ### The type catalog -/

theorem lookUp?_eq_some_iff {canonical : String} {h : HostType} :
    Catalog.lookUp? types canonical = some h ↔ ∃ e, Decides types canonical e ∧ e.host = h := by
  unfold Catalog.lookUp?
  simp only [Option.map_eq_some_iff, List.find?_eq_some_iff_append, beq_iff_eq]
  constructor
  · rintro ⟨e, ⟨he, after, before, hrev, hafter⟩, rfl⟩
    refine ⟨e, ⟨before.reverse, after.reverse, ?_, he, ?_⟩, rfl⟩
    · rw [← List.reverse_reverse types, hrev]
      simp
    · simpa using hafter
  · rintro ⟨e, ⟨before, after, rfl, he, hafter⟩, rfl⟩
    exact ⟨e, ⟨he, after.reverse, before.reverse, by simp, by simpa using hafter⟩, rfl⟩

theorem hostText_eq_ok_iff {opcode canonical text : String} :
    hostText types opcode canonical = .ok text ↔ StandsFor types canonical text := by
  unfold hostText StandsFor
  rcases hl : Catalog.lookUp? types canonical with - | h
  · simp only [reduceCtorEq, false_iff]
    rintro ⟨e, he, -⟩
    exact absurd (hl.symm.trans (lookUp?_eq_some_iff.2 ⟨e, he, rfl⟩)) (by simp)
  · obtain ⟨e, he, rfl⟩ := lookUp?_eq_some_iff.1 hl
    simp only [Except.ok.injEq]
    constructor
    · rintro rfl
      exact ⟨e, he, rfl⟩
    · rintro ⟨e', he', rfl⟩
      have := hl.symm.trans (lookUp?_eq_some_iff.2 ⟨e', he', rfl⟩)
      rw [Option.some.inj this]

/-- A canonical name stands for at most one text. -/
theorem standsFor_unique : Relator.RightUnique (StandsFor types) := by
  intro c t t' h h'
  have ht : hostText types "" c = .ok t := hostText_eq_ok_iff.2 h
  have ht' : hostText types "" c = .ok t' := hostText_eq_ok_iff.2 h'
  exact Except.ok.inj (ht.symm.trans ht')

/-- Some text stands for a canonical name exactly if the catalog lists the name. -/
theorem exists_standsFor_iff {canonical : String} :
    (∃ text, StandsFor types canonical text) ↔ ∃ e ∈ types, e.canonical = canonical := by
  constructor
  · rintro ⟨_, e, ⟨before, after, rfl, he, -⟩, -⟩
    exact ⟨e, by simp, he⟩
  · rintro ⟨e, he, hc⟩
    rcases hl : Catalog.lookUp? types canonical with - | h
    · have := List.find?_eq_none.1 (Option.map_eq_none_iff.1 hl) e (List.mem_reverse.2 he)
      exact absurd hc (by simpa using this)
    · obtain ⟨e', he', -⟩ := lookUp?_eq_some_iff.1 hl
      exact ⟨_, e', he', rfl⟩

theorem hostNames_eq :
    Catalog.hostNames types =
      (types.filter fun e => e.host ≠ .unsupported).map (·.host.text) := by
  induction types with
  | nil => rfl
  | cons e types ih =>
    rcases e with ⟨c, n | -⟩
    · simpa [Catalog.hostNames, HostType.name?, HostType.text] using ih
    · simpa [Catalog.hostNames, HostType.name?] using ih

/-! ### One operation -/

theorem translate_eq_ok_iff {o : Operation} {sig sig' : List String} :
    translate rules types o sig = .ok sig' ↔
      (rules.checkArity = true → sig.length = o.nop.toNat) ∧
        List.Forall₂ (StandsFor types) sig sig' := by
  unfold translate
  split
  · rename_i h
    simp [h.1, h.2]
  · rename_i h
    rw [mapM_eq_ok_iff]
    simp only [hostText_eq_ok_iff, iff_and_self]
    intro _ hc
    exact not_not.1 fun hne => h ⟨hc, hne⟩

theorem recordOf_eq_ok_iff {o : Operation} {r : Record} :
    recordOf rules types o = .ok r ↔
      (rules.checkArity = true → ∀ sig ∈ o.types, sig.length = o.nop.toNat) ∧
        r.Describes o types := by
  unfold recordOf
  rcases hn : o.name? with - | name
  · simp only [reduceCtorEq, false_iff]
    rintro ⟨-, hr⟩
    exact absurd (hn.symm.trans hr.name) (by simp)
  · simp only [bind_eq_ok_iff, pure_eq_ok_iff, mapM_eq_ok_iff, translate_eq_ok_iff]
    constructor
    · rintro ⟨sigs, hs, rfl⟩
      rw [List.forall₂_and_left] at hs
      exact ⟨fun hc sig hsig => hs.1 sig hsig hc, hn, rfl, hs.2⟩
    · rintro ⟨hc, hr⟩
      refine ⟨r.signatures, ?_, ?_⟩
      · rw [List.forall₂_and_left]
        exact ⟨fun sig hsig h => hc h sig hsig, hr.signatures⟩
      · obtain ⟨rname, rnop, rsigs⟩ := r
        have hname := Option.some.inj (hn.symm.trans hr.name)
        have hnop := hr.nop
        subst hname hnop
        rfl

/-- The record of an operation is determined by the catalogs. -/
theorem Record.Describes.unique {o : Operation} {r r' : Record} (h : r.Describes o types)
    (h' : r'.Describes o types) : r = r' := by
  have hname := Option.some.inj (h.name.symm.trans h'.name)
  have hsigs := standsFor_unique.forall₂.forall₂ h.signatures h'.signatures
  obtain ⟨n, p, s⟩ := r
  obtain ⟨n', p', s'⟩ := r'
  have hnop : p = p' := h.nop.trans h'.nop.symm
  subst hname hsigs hnop
  rfl

/-! ### The loop -/

/-- A step adds the record of the operation, under a name that is new. -/
theorem addOperation_eq_ok_iff {o : Operation} {t t' : Table Record} :
    addOperation rules types t o = .ok t' ↔
      ∃ r, recordOf rules types o = .ok r ∧ r.name ∉ t.keys ∧ t' = t.insert r.name r := by
  simp only [addOperation, bind_eq_ok_iff]
  refine exists_congr fun r => and_congr_right fun _ => ?_
  rw [← Table.contains_iff]
  by_cases hc : t.contains r.name = true
  · simp [hc]
  · rw [if_neg hc, pure_eq_ok_iff, eq_comm]
    simp [hc]

/-- The table after a run: each operation has its record, the names differ from one another and from
those that were there, and every record is put under its name. -/
theorem foldlM_addOperation_eq_ok_iff {os : List Operation} {t t' : Table Record} :
    os.foldlM (addOperation rules types) t = .ok t' ↔
      ∃ rs, List.Forall₂ (fun o r => recordOf rules types o = .ok r) os rs ∧
        (rs.map Record.name).Nodup ∧ (∀ r ∈ rs, r.name ∉ t.keys) ∧
          t' = t.insertAll Record.name rs := by
  induction os generalizing t with
  | nil =>
    simp only [List.foldlM_nil, pure_eq_ok_iff, List.forall₂_nil_left_iff]
    constructor
    · rintro rfl
      exact ⟨[], rfl, by simp, by simp, rfl⟩
    · rintro ⟨rs, rfl, -, -, rfl⟩
      rfl
  | cons o os ih =>
    simp only [List.foldlM_cons, bind_eq_ok_iff, addOperation_eq_ok_iff, ih, List.forall₂_cons_left_iff]
    constructor
    · rintro ⟨_, ⟨r, hr, hnew, rfl⟩, rs, hrs, hnodup, hfresh, rfl⟩
      refine ⟨r :: rs, ⟨r, rs, hr, hrs, rfl⟩, ?_, ?_, rfl⟩
      · -- the later names differ from this one, since it was in the table by then
        refine List.nodup_cons.2 ⟨?_, hnodup⟩
        intro hmem
        obtain ⟨r', hr', heq⟩ := List.mem_map.1 hmem
        exact hfresh r' hr' (Table.mem_keys_insert.2 (.inl heq))
      · refine List.forall_mem_cons.2 ⟨hnew, fun r' hr' hk => ?_⟩
        exact hfresh r' hr' (Table.mem_keys_insert.2 (.inr hk))
    · rintro ⟨_, ⟨r, rs, hr, hrs, rfl⟩, hnodup, hfresh, rfl⟩
      obtain ⟨hnot, hnodup⟩ := List.nodup_cons.1 hnodup
      obtain ⟨hnew, hfresh⟩ := List.forall_mem_cons.1 hfresh
      refine ⟨_, ⟨r, hr, hnew, rfl⟩, rs, hrs, hnodup, fun r' hr' hk => ?_, rfl⟩
      rcases Table.mem_keys_insert.1 hk with heq | hk
      · exact hnot (heq ▸ List.mem_map_of_mem hr')
      · exact hfresh r' hr' hk

/-! ### The module -/

/-- The conditions on single operations, together: every operation has a record. -/
theorem exists_recordOf_iff :
    (∀ o ∈ offered operations, ∃ r, recordOf rules types o = .ok r) ↔
      (∀ o ∈ offered operations, ∃ name, o.name? = some name) ∧
        (∀ o ∈ offered operations, ∀ sig ∈ o.types, ∀ canonical ∈ sig,
          ∃ e ∈ types, e.canonical = canonical) ∧
        (rules.checkArity = true →
          ∀ o ∈ offered operations, ∀ sig ∈ o.types, sig.length = o.nop.toNat) := by
  constructor
  · intro h
    refine ⟨fun o ho => ?_, fun o ho => ?_, fun hc o ho => ?_⟩ <;>
      obtain ⟨r, hr⟩ := h o ho <;>
      obtain ⟨harity, hr⟩ := recordOf_eq_ok_iff.1 hr
    · exact ⟨_, hr.name⟩
    · intro sig hsig canonical hcan
      obtain ⟨sigs, hsigs⟩ := exists_forall₂_iff.1 ⟨_, hr.signatures⟩ sig hsig
      exact exists_standsFor_iff.1 (exists_forall₂_iff.1 ⟨_, hsigs⟩ canonical hcan)
    · exact harity hc
  · rintro ⟨hnamed, hknown, harity⟩ o ho
    obtain ⟨name, hname⟩ := hnamed o ho
    have hsigs : ∃ sigs, List.Forall₂ (List.Forall₂ (StandsFor types)) o.types sigs := by
      refine exists_forall₂_iff.2 fun sig hsig => exists_forall₂_iff.2 fun canonical hcan => ?_
      exact exists_standsFor_iff.2 (hknown o ho sig hsig canonical hcan)
    obtain ⟨sigs, hsigs⟩ := hsigs
    exact ⟨⟨name, o.nop, sigs⟩, recordOf_eq_ok_iff.2
      ⟨fun hc => harity hc o ho, hname, rfl, hsigs⟩⟩

/-- Records that belong to operations carry the names of the operations. -/
theorem map_name_of_describes {os : List Operation} {rs : List Record}
    (h : List.Forall₂ (fun o r => recordOf rules types o = .ok r) os rs) :
    os.map (·.name?) = (rs.map Record.name).map some := by
  induction h with
  | nil => rfl
  | cons hr _ ih =>
    simp only [List.map_cons, ih, (recordOf_eq_ok_iff.1 hr).2.name]

/-- What a module is that has been compiled: a record for each offered operation, with names that
differ, and the names of the host's types. -/
theorem compile_eq_ok_iff {m : Module} :
    compile rules operations types = .ok m ↔
      ∃ rs, List.Forall₂ (fun o r => recordOf rules types o = .ok r) (offered operations) rs ∧
        (rs.map Record.name).Nodup ∧
          m = ⟨Table.empty.insertAll Record.name rs, Catalog.hostNames types⟩ := by
  unfold compile
  simp only [bind_eq_ok_iff, pure_eq_ok_iff]
  constructor
  · rintro ⟨t, ht, rfl⟩
    obtain ⟨rs, hrs, hnodup, -, rfl⟩ := foldlM_addOperation_eq_ok_iff.1 ht
    exact ⟨rs, hrs, hnodup, rfl⟩
  · rintro ⟨rs, hrs, hnodup, rfl⟩
    exact ⟨_, foldlM_addOperation_eq_ok_iff.2 ⟨rs, hrs, hnodup, by simp, rfl⟩, rfl⟩

variable (rules) in
/-- Making a record with the optional rule checked is making it unchecked, of an operation that keeps the
rule. -/
theorem recordOf_eq_ok_iff_lenient {o : Operation} {r : Record} :
    recordOf rules types o = .ok r ↔
      (rules.checkArity = true → ∀ sig ∈ o.types, sig.length = o.nop.toNat) ∧
        recordOf .lenient types o = .ok r := by
  have hlenient : ¬ Rules.lenient.checkArity = true := Bool.false_ne_true
  rw [recordOf_eq_ok_iff, recordOf_eq_ok_iff]
  refine and_congr_right fun _ => (and_iff_right ?_).symm
  intro hc
  exact absurd hc hlenient

/-- The optional rule only refuses: what is compiled with it is what is compiled without. -/
theorem compile_eq_ok_iff_lenient {m : Module} :
    compile rules operations types = .ok m ↔
      compile .lenient operations types = .ok m ∧
        (rules.checkArity = true →
          ∀ o ∈ offered operations, ∀ sig ∈ o.types, sig.length = o.nop.toNat) := by
  have hrecords : ∀ rs, List.Forall₂ (fun o r => recordOf rules types o = .ok r) (offered operations) rs ↔
      (∀ o ∈ offered operations, rules.checkArity = true → ∀ sig ∈ o.types, sig.length = o.nop.toNat) ∧
        List.Forall₂ (fun o r => recordOf .lenient types o = .ok r) (offered operations) rs := by
    intro rs
    simp only [recordOf_eq_ok_iff_lenient rules, List.forall₂_and_left]
  simp only [compile_eq_ok_iff, hrecords]
  constructor
  · rintro ⟨rs, ⟨harity, hrs⟩, hnodup, rfl⟩
    exact ⟨⟨rs, hrs, hnodup, rfl⟩, fun hc o ho => harity o ho hc⟩
  · rintro ⟨⟨rs, hrs, hnodup, rfl⟩, harity⟩
    exact ⟨rs, ⟨fun o ho hc => harity hc o ho, hrs⟩, hnodup, rfl⟩

theorem exists_compile_iff :
    (∃ m, compile rules operations types = .ok m) ↔ Compilable rules operations types := by
  constructor
  · rintro ⟨m, hm⟩
    obtain ⟨rs, hrs, hnodup, -⟩ := compile_eq_ok_iff.1 hm
    obtain ⟨hnamed, hknown, harity⟩ := exists_recordOf_iff.1 (exists_forall₂_iff.1 ⟨rs, hrs⟩)
    refine ⟨hnamed, ?_, hknown, harity⟩
    have h : ((offered operations).map (·.name?)).Nodup := by
      rw [map_name_of_describes hrs]
      exact hnodup.map fun _ _ => Option.some.inj
    exact List.pairwise_map.1 h
  · rintro ⟨hnamed, hdistinct, hknown, harity⟩
    obtain ⟨rs, hrs⟩ := exists_forall₂_iff.2 (exists_recordOf_iff.2 ⟨hnamed, hknown, harity⟩)
    refine ⟨_, compile_eq_ok_iff.2 ⟨rs, hrs, ?_, rfl⟩⟩
    have h : ((offered operations).map (·.name?)).Nodup := List.pairwise_map.2 hdistinct
    rw [map_name_of_describes hrs] at h
    exact h.of_map

/-- A compiled module holds what the catalogs say. -/
theorem describes_of_compile {m : Module} (h : compile rules operations types = .ok m) :
    m.Describes operations types := by
  obtain ⟨rs, hrs, hnodup, rfl⟩ := compile_eq_ok_iff.1 h
  have hnames : ∀ k, (∃ r ∈ rs, r.name = k) ↔ ∃ o ∈ offered operations, o.name? = some k := by
    intro k
    have := congrArg (some k ∈ ·) (map_name_of_describes hrs)
    simpa using this.symm
  refine ⟨hostNames_eq, fun k => ?_, fun o ho k hk => ?_⟩
  · rw [Table.mem_keys_insertAll, ← hnames]
    simp
  · obtain ⟨r, hr, hor⟩ := exists_mem_of_forall₂ hrs ho
    have hdesc := (recordOf_eq_ok_iff.1 hor).2
    obtain rfl := Option.some.inj (hdesc.name.symm.trans hk)
    exact ⟨r, Table.get?_insertAll hnodup hr, rfl, hdesc⟩

/-- Catalogs describe one module only. -/
theorem Module.Describes.unique {m m' : Module} (h : m.Describes operations types)
    (h' : m'.Describes operations types) : m = m' := by
  refine Module.ext (Table.ext_get? fun k => ?_) (h.hosts.trans h'.hosts.symm)
  -- a key is that of an offered operation, or is in neither table
  by_cases hk : ∃ o ∈ offered operations, o.name? = some k
  · obtain ⟨o, ho, hok⟩ := hk
    obtain ⟨r, hr, -, hrd⟩ := h.records o ho k hok
    obtain ⟨r', hr', -, hrd'⟩ := h'.records o ho k hok
    rw [hr, hr', hrd.unique hrd']
  · rw [Table.get?_eq_none_iff.2 fun hmem => hk ((h.keys k).1 hmem),
      Table.get?_eq_none_iff.2 fun hmem => hk ((h'.keys k).1 hmem)]

/-- **The compiler is its description.**  It succeeds exactly on the catalogs that meet the
conditions, and its module is the one that holds what they say. -/
theorem compile_iff_describes (rules : Rules) (operations : List Operation) (types : List TypeEntry) :
    ((∃ m, compile rules operations types = .ok m) ↔ Compilable rules operations types) ∧
      ∀ m, compile rules operations types = .ok m ↔
        Compilable rules operations types ∧ m.Describes operations types := by
  refine ⟨exists_compile_iff, fun m => ⟨fun h => ?_, ?_⟩⟩
  · exact ⟨exists_compile_iff.1 ⟨m, h⟩, describes_of_compile h⟩
  · rintro ⟨hc, hm⟩
    obtain ⟨m', hm'⟩ := exists_compile_iff.2 hc
    rw [hm', (describes_of_compile hm').unique hm]

end BindingPipeline.Metadata
