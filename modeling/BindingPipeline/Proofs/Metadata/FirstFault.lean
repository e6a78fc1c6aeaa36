/-
BindingPipeline/Proofs/Metadata/FirstFault.lean

Which fault is reported of catalogs that do not compile.  There may be several at once, in several operations
and at several places of one.  What is reported is the first one in an order that is said here without the
compiler:

* `Admissible` says that an operation breaks no rule behind the operations that were offered before it;
* `FirstFault` says which fault an operation is reported for: its name comes first, then its signatures one
  by one, each with its length before the names in it, and last the repetition of a name.

Main result: `compile_eq_error_iff`.  The error is that of the first offered operation that is not admissible.
The step of the loop is described in `addOperation_eq_error_iff`, and the run by induction on the operations;
the invariant is that the keys of the table are the names so far (`KeysOf`), so that a name can be repeated
only by an operation that was offered.
-/
import BindingPipeline.Proofs.Metadata.Compilation

namespace BindingPipeline.Metadata

open Catalog (Operation TypeEntry)

variable {rules : Rules} {operations : List Operation} {types : List TypeEntry}
variable {o : Operation} {earlier : List Operation} {e : Error}

/-! ### Rules and faults -/

/-- The catalog has an entry for the canonical name. -/
def Listed (types : List TypeEntry) (canonical : String) : Prop := ∃ e ∈ types, e.canonical = canonical

/-- The signature breaks no rule: its length is the one asked for, and its names are listed. -/
structure SignatureFits (rules : Rules) (types : List TypeEntry) (o : Operation) (sig : List String) :
    Prop where
  length : rules.checkArity = true → sig.length = o.nop.toNat
  listed : ∀ canonical ∈ sig, Listed types canonical

/-- What a signature is reported for: its length, or else the leftmost of its names that is not listed. -/
inductive SignatureFault (rules : Rules) (types : List TypeEntry) (o : Operation) (sig : List String) :
    Error → Prop
  | arity : rules.checkArity = true → sig.length ≠ o.nop.toNat →
      SignatureFault rules types o sig (.invalidOperation o.opcode (.arity o.nop.toNat sig.length))
  | unlisted {canonical : String} : (rules.checkArity = true → sig.length = o.nop.toNat) →
      FirstWithout (Listed types) sig canonical →
      SignatureFault rules types o sig (.unknownType o.opcode canonical)

/-- The operation breaks no rule behind these: it has a name, which is new, and its signatures fit. -/
structure Admissible (rules : Rules) (types : List TypeEntry) (earlier : List Operation) (o : Operation) :
    Prop where
  named : ∃ name, o.name? = some name
  signatures : ∀ sig ∈ o.types, SignatureFits rules types o sig
  fresh : ∀ o' ∈ earlier, o'.name? ≠ o.name?

/-- What an operation is reported for behind these: that it has no name, or else the first of its signatures
that does not fit, or else that its name is there already. -/
inductive FirstFault (rules : Rules) (types : List TypeEntry) (earlier : List Operation) (o : Operation) :
    Error → Prop
  | nameless : o.name? = none →
      FirstFault rules types earlier o (.invalidOperation o.opcode (.tooShort Catalog.opcodeLead))
  | signature {sig : List String} {e : Error} : (∃ name, o.name? = some name) →
      FirstWithout (SignatureFits rules types o) o.types sig → SignatureFault rules types o sig e →
      FirstFault rules types earlier o e
  | repeated {name : String} : o.name? = some name → (∀ sig ∈ o.types, SignatureFits rules types o sig) →
      (∃ o' ∈ earlier, o'.name? = some name) →
      FirstFault rules types earlier o (.duplicateOperation name)

/-- An operation is reported only if it breaks a rule. -/
theorem FirstFault.not_admissible (h : FirstFault rules types earlier o e) :
    ¬ Admissible rules types earlier o := by
  intro hok
  cases h with
  | nameless hnone =>
    obtain ⟨name, hname⟩ := hok.named
    exact nomatch hnone.symm.trans hname
  | signature _ hfirst _ =>
    obtain ⟨before, after, hsplit, -, hnot⟩ := hfirst
    apply hnot
    apply hok.signatures
    simp [hsplit]
  | repeated hname _ hbefore =>
    obtain ⟨o', ho', hname'⟩ := hbefore
    exact hok.fresh o' ho' (hname'.trans hname.symm)

/-! ### One operation -/

theorem exists_hostText_iff {opcode canonical : String} :
    (∃ text, hostText types opcode canonical = .ok text) ↔ Listed types canonical := by
  simp only [hostText_eq_ok_iff]
  exact exists_standsFor_iff

theorem hostText_eq_error_iff {opcode canonical : String} :
    hostText types opcode canonical = .error e ↔
      ¬ Listed types canonical ∧ e = .unknownType opcode canonical := by
  have hlisted : (∃ text, hostText types opcode canonical = .ok text) ↔ Listed types canonical :=
    exists_hostText_iff
  rw [← hlisted]
  unfold hostText
  rcases Catalog.lookUp? types canonical with - | host
  · simp [eq_comm]
  · simp

theorem exists_translate_iff {sig : List String} :
    (∃ sig', translate rules types o sig = .ok sig') ↔ SignatureFits rules types o sig := by
  simp only [translate_eq_ok_iff, exists_and_left, exists_forall₂_iff, exists_standsFor_iff]
  exact ⟨fun ⟨hlength, hlisted⟩ => ⟨hlength, hlisted⟩, fun ⟨hlength, hlisted⟩ => ⟨hlength, hlisted⟩⟩

theorem translate_eq_error_iff {sig : List String} :
    translate rules types o sig = .error e ↔ SignatureFault rules types o sig e := by
  unfold translate
  split
  · rename_i hlength
    constructor
    · rintro ⟨⟩
      exact .arity hlength.1 hlength.2
    · rintro (- | ⟨hfits, -⟩)
      · rfl
      · exact absurd (hfits hlength.1) hlength.2
  · rename_i hlength
    have hfits : rules.checkArity = true → sig.length = o.nop.toNat :=
      fun hc => not_not.1 fun hne => hlength ⟨hc, hne⟩
    rw [mapM_eq_error_iff fun _ => exists_hostText_iff]
    constructor
    · rintro ⟨canonical, hfirst, hfault⟩
      obtain ⟨-, rfl⟩ := hostText_eq_error_iff.1 hfault
      exact .unlisted hfits hfirst
    · rintro (⟨hc, hne⟩ | ⟨-, hfirst⟩)
      · exact absurd (hfits hc) hne
      · obtain ⟨before, after, hsplit, hbefore, hnot⟩ := hfirst
        exact ⟨_, ⟨before, after, hsplit, hbefore, hnot⟩, hostText_eq_error_iff.2 ⟨hnot, rfl⟩⟩

/-- Making the record of an operation fails at its name or at one of its signatures. -/
theorem recordOf_eq_error_iff :
    recordOf rules types o = .error e ↔
      (o.name? = none ∧ e = .invalidOperation o.opcode (.tooShort Catalog.opcodeLead)) ∨
        (∃ name, o.name? = some name) ∧
          ∃ sig, FirstWithout (SignatureFits rules types o) o.types sig ∧
            SignatureFault rules types o sig e := by
  unfold recordOf
  rcases o.name? with - | name
  · simp [eq_comm]
  · simp only [bind_eq_error_iff, mapM_eq_error_iff fun _ => exists_translate_iff, translate_eq_error_iff]
    constructor
    · rintro (hfault | ⟨_, -, hpure⟩)
      · exact .inr ⟨⟨name, rfl⟩, hfault⟩
      · exact nomatch hpure
    · rintro (⟨hnone, -⟩ | ⟨-, hfault⟩)
      · exact nomatch hnone
      · exact .inl hfault

/-- The record of an operation can be made exactly if the operation has a name and its signatures fit. -/
theorem exists_recordOf_iff_fits {name : String} :
    (∃ r, recordOf rules types o = .ok r ∧ r.name = name) ↔
      o.name? = some name ∧ ∀ sig ∈ o.types, SignatureFits rules types o sig := by
  constructor
  · rintro ⟨r, hr, rfl⟩
    obtain ⟨harity, hdesc⟩ := recordOf_eq_ok_iff.1 hr
    refine ⟨hdesc.name, fun sig hsig => ?_⟩
    obtain ⟨sig', hsig'⟩ := exists_forall₂_iff.1 ⟨_, hdesc.signatures⟩ sig hsig
    exact exists_translate_iff.1 ⟨sig', translate_eq_ok_iff.2 ⟨fun hc => harity hc sig hsig, hsig'⟩⟩
  · rintro ⟨hname, hfits⟩
    obtain ⟨sigs, hsigs⟩ := exists_forall₂_iff.2 fun sig hsig => exists_translate_iff.2 (hfits sig hsig)
    refine ⟨⟨name, o.nop, sigs⟩, ?_, rfl⟩
    unfold recordOf
    rw [hname]
    exact bind_eq_ok_iff.2 ⟨sigs, mapM_eq_ok_iff.2 hsigs, rfl⟩

/-! ### The loop -/

/-- The keys of the table are the names of the operations. -/
def KeysOf (t : Table Record) (os : List Operation) : Prop :=
  ∀ k, k ∈ t.keys ↔ ∃ o ∈ os, o.name? = some k

variable {t t' : Table Record}

theorem keysOf_empty : KeysOf Table.empty [] := by
  intro k
  simp

/-- A step succeeds exactly with an operation that is admissible. -/
theorem exists_addOperation_iff (ht : KeysOf t earlier) :
    (∃ t', addOperation rules types t o = .ok t') ↔ Admissible rules types earlier o := by
  simp only [addOperation_eq_ok_iff]
  constructor
  · rintro ⟨_, r, hr, hnew, -⟩
    obtain ⟨hname, hfits⟩ := exists_recordOf_iff_fits.1 ⟨r, hr, rfl⟩
    refine ⟨⟨_, hname⟩, hfits, fun o' ho' hsame => ?_⟩
    exact hnew ((ht _).2 ⟨o', ho', hsame.trans hname⟩)
  · rintro ⟨⟨name, hname⟩, hfits, hfresh⟩
    obtain ⟨r, hr, rfl⟩ := exists_recordOf_iff_fits.2 ⟨hname, hfits⟩
    refine ⟨_, r, hr, fun hmem => ?_, rfl⟩
    obtain ⟨o', ho', hname'⟩ := (ht _).1 hmem
    exact hfresh o' ho' (hname'.trans hname.symm)

/-- The keys are then the names of one operation more. -/
theorem keysOf_addOperation (ht : KeysOf t earlier) (h : addOperation rules types t o = .ok t') :
    KeysOf t' (earlier ++ [o]) := by
  obtain ⟨r, hr, -, rfl⟩ := addOperation_eq_ok_iff.1 h
  have hname := (recordOf_eq_ok_iff.1 hr).2.name
  intro k
  rw [Table.mem_keys_insert, ht k]
  simp only [List.mem_append, List.mem_singleton, or_and_right, exists_or, exists_eq_left, hname,
    Option.some.injEq, eq_comm (a := k)]
  exact or_comm

/-- A step fails with the first fault of its operation. -/
theorem addOperation_eq_error_iff (ht : KeysOf t earlier) :
    addOperation rules types t o = .error e ↔ FirstFault rules types earlier o e := by
  unfold addOperation
  rw [bind_eq_error_iff, recordOf_eq_error_iff]
  constructor
  · rintro ((⟨hnone, rfl⟩ | ⟨hname, sig, hfirst, hfault⟩) | ⟨r, hr, hrest⟩)
    · exact .nameless hnone
    · exact .signature hname hfirst hfault
    · -- the record can be made, so only its name can be at fault
      obtain ⟨hname, hfits⟩ := exists_recordOf_iff_fits.1 ⟨r, hr, rfl⟩
      split at hrest
      · rename_i hmem
        cases hrest
        exact .repeated hname hfits ((ht _).1 (Table.contains_iff.1 hmem))
      · exact nomatch hrest
  · intro hfault
    cases hfault with
    | nameless hnone => exact .inl (.inl ⟨hnone, rfl⟩)
    | signature hname hfirst hfault => exact .inl (.inr ⟨hname, _, hfirst, hfault⟩)
    | repeated hname hfits hbefore =>
      obtain ⟨r, hr, rfl⟩ := exists_recordOf_iff_fits.2 ⟨hname, hfits⟩
      refine .inr ⟨r, hr, ?_⟩
      rw [if_pos (Table.contains_iff.2 ((ht _).2 hbefore))]

/-- A run fails at the first operation that is not admissible behind those before it. -/
theorem foldlM_addOperation_eq_error_iff {os : List Operation} (ht : KeysOf t earlier) :
    os.foldlM (addOperation rules types) t = .error e ↔
      ∃ before o after, os = before ++ o :: after ∧
        EachBehind (fun b => Admissible rules types (earlier ++ b)) before ∧
          FirstFault rules types (earlier ++ before) o e := by
  induction os generalizing earlier t with
  | nil =>
    constructor
    · exact nofun
    · rintro ⟨before, o, after, hnil, -⟩
      simp at hnil
  | cons o os ih =>
    rw [List.foldlM_cons, bind_eq_error_iff, addOperation_eq_error_iff ht]
    constructor
    · rintro (hfault | ⟨t', hstep, hrest⟩)
      · refine ⟨[], o, os, rfl, eachBehind_nil, ?_⟩
        rwa [List.append_nil]
      · obtain ⟨before, o', after, rfl, hbefore, hfault⟩ := (ih (keysOf_addOperation ht hstep)).1 hrest
        have hok : Admissible rules types earlier o := (exists_addOperation_iff ht).1 ⟨t', hstep⟩
        simp only [List.append_assoc, List.singleton_append] at hbefore hfault
        refine ⟨o :: before, o', after, rfl, eachBehind_cons.2 ⟨?_, hbefore⟩, hfault⟩
        rwa [List.append_nil]
    · rintro ⟨before, o', after, hsplit, hbefore, hfault⟩
      cases before with
      | nil =>
        obtain ⟨rfl, rfl⟩ := List.cons.inj hsplit
        rw [List.append_nil] at hfault
        exact .inl hfault
      | cons _ before =>
        obtain ⟨rfl, rfl⟩ := List.cons.inj hsplit
        obtain ⟨hok, hbefore⟩ := eachBehind_cons.1 hbefore
        rw [List.append_nil] at hok
        obtain ⟨t', hstep⟩ := (exists_addOperation_iff ht).2 hok
        refine .inr ⟨t', hstep, (ih (keysOf_addOperation ht hstep)).2 ⟨before, o', after, rfl, ?_, ?_⟩⟩
        · simpa only [List.append_assoc, List.singleton_append] using hbefore
        · simpa only [List.append_assoc, List.singleton_append] using hfault

/-- **The first violation is reported.**  Compiling fails with an error exactly if among the offered operations
there is one that breaks a rule behind those before it, these break none, and the error is its first fault. -/
theorem compile_eq_error_iff (rules : Rules) (operations : List Operation) (types : List TypeEntry)
    (e : Error) :
    compile rules operations types = .error e ↔
      ∃ earlier o later, offered operations = earlier ++ o :: later ∧
        (∀ before o' between, earlier = before ++ o' :: between → Admissible rules types before o') ∧
        ¬ Admissible rules types earlier o ∧ FirstFault rules types earlier o e := by
  have hrun : compile rules operations types = .error e ↔
      (offered operations).foldlM (addOperation rules types) Table.empty = .error e := by
    unfold compile
    rw [bind_eq_error_iff]
    exact or_iff_left fun ⟨_, _, hpure⟩ => nomatch hpure
  rw [hrun, foldlM_addOperation_eq_error_iff keysOf_empty]
  constructor
  · rintro ⟨earlier, o, later, hsplit, hearlier, hfault⟩
    exact ⟨earlier, o, later, hsplit, hearlier, hfault.not_admissible, hfault⟩
  · rintro ⟨earlier, o, later, hsplit, hearlier, -, hfault⟩
    exact ⟨earlier, o, later, hsplit, hearlier, hfault⟩

-- a name that is not listed comes before a name that is there already, and before an operation without one
example : compile .lenient
    [⟨"BH_ADD", 1, [["A"]], true, false⟩, ⟨"BH_SUB", 1, [["Z"]], true, true⟩,
      ⟨"bh_add", 1, [["A", "A"], ["A", "X", "Y"], ["Z"]], true, false⟩, ⟨"BH_", 1, [], true, false⟩]
    [⟨"A", .named "a"⟩] = .error (.unknownType "bh_add" "X") := rfl

end BindingPipeline.Metadata
