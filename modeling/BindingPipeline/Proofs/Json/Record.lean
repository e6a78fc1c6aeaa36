/-
BindingPipeline/Proofs/Json/Record.lean

Which objects and lists are records.  An object is one exactly if each field is given once, whatever else
there is and in whatever order; a list is one exactly if it has the values of all fields, in their order and
no others.

Design.  `Slots` says what the fields of a shape have to do with each other, which is nothing: each one has a
slot of its own in the draft, and a record is made of what fills the slots.  So a walk along the members can
be followed slot by slot (`Slots.steps_iff`), and the two forms of a record come to the same: one value for
each field.  A new kind of records needs no walk of its own, only its slots.
-/
import BindingPipeline.Json.Record
import BindingPipeline.Proofs.Json.Reader
import BindingPipeline.Proofs.Json.Skip

namespace BindingPipeline.Json

variable {δ α κ : Type}

/-- All names of a field. -/
def Field.names (f : Field δ) : List String := f.name :: f.aliases

/-- Where each field goes by one name of its own, a name belongs to one field. -/
theorem Field.eq_of_mem_names {field : κ → Field δ} {label : κ → String} {k j : κ} {name : String}
    (hnames : ∀ k, (field k).names = [label k]) (hlabel : Function.Injective label)
    (hk : name ∈ (field k).names) (hj : name ∈ (field j).names) : k = j := by
  rw [hnames, List.mem_singleton] at hk hj
  exact hlabel (hk.symm.trans hj)

/-- The values that an object has under some names. -/
def valuesUnder (names : List String) (ms : List (String × Value)) : List Value :=
  (ms.filter fun m => m.1 ∈ names).map Prod.snd

theorem valuesUnder_cons_of_mem {names : List String} {name : String} {v : Value}
    {ms : List (String × Value)} (h : name ∈ names) :
    valuesUnder names ((name, v) :: ms) = v :: valuesUnder names ms := by
  simp [valuesUnder, h]

theorem valuesUnder_cons_of_not_mem {names : List String} {name : String} {v : Value}
    {ms : List (String × Value)} (h : name ∉ names) :
    valuesUnder names ((name, v) :: ms) = valuesUnder names ms := by
  simp [valuesUnder, h]

namespace Shape

/-- The fields of a shape, known by keys.  Each fills a slot of its own, and a record is made of what fills
all of them. -/
structure Slots {δ α : Type} (shape : Shape δ α) (κ : Type) (β : κ → Type) where
  keys : List κ
  nodup_keys : keys.Nodup
  mem_keys : ∀ k, k ∈ keys
  field : κ → Field δ
  fields_eq : shape.fields = keys.map field
  eq_of_mem_names : ∀ {k j name}, name ∈ (field k).names → name ∈ (field j).names → k = j
  slot : (k : κ) → δ → Option (β k)
  fill : (k : κ) → β k → δ → δ
  Means : (k : κ) → Value → β k → Prop
  make : ((k : κ) → β k) → α
  isGiven_eq : ∀ k d, (field k).isGiven d = (slot k d).isSome
  reads : ∀ k d, Reads ((field k).read d) fun v d' => ∃ x, Means k v x ∧ d' = fill k x d
  slot_fill : ∀ k x d, slot k (fill k x d) = some x
  slot_fill_ne : ∀ {k j} x d, k ≠ j → slot k (fill j x d) = slot k d
  slot_blank : ∀ k, slot k shape.blank = none
  build?_eq_some_iff : ∀ {d a}, shape.build? d = some a ↔ ∃ x, (∀ k, slot k d = some (x k)) ∧ a = make x

variable {β : κ → Type} {shape : Shape δ α}
variable {s t r : List Char} {vs : List Value} {ms : List (String × Value)} {d d' : δ} {a : α}

theorem finish_eq_ok_iff : shape.finish d s = .ok (a, r) ↔ shape.build? d = some a ∧ r = s := by
  unfold finish
  cases shape.build? d with
  | none => exact ⟨nofun, fun h => nomatch h.1⟩
  | some b => simp only [Except.ok.injEq, Prod.mk.injEq, Option.some.injEq, eq_comm]

namespace Slots

variable (K : Slots shape κ β) {x : (k : κ) → β k}

/-- The key of the field that goes by a name. -/
def key? (name : String) : Option κ :=
  K.keys.find? fun k => (K.field k).name == name || (K.field k).aliases.contains name

theorem field?_eq (name : String) : shape.field? name = (K.key? name).map K.field := by
  unfold Shape.field? key?
  rw [K.fields_eq, List.find?_map]
  rfl

theorem key?_eq_some_iff {name : String} {k : κ} : K.key? name = some k ↔ name ∈ (K.field k).names := by
  have hnames : ∀ k, ((K.field k).name == name || (K.field k).aliases.contains name) = true ↔
      name ∈ (K.field k).names := by
    intro k
    simp only [Bool.or_eq_true, beq_iff_eq, List.contains_iff_mem, Field.names, List.mem_cons]
    rw [eq_comm]
  have hfound : ∀ {k}, K.key? name = some k → name ∈ (K.field k).names := by
    intro k hkey
    unfold key? at hkey
    have hp := List.find?_some hkey
    exact (hnames k).1 hp
  constructor
  · exact hfound
  · intro hk
    cases hkey : K.key? name with
    | none => exact absurd ((hnames k).2 hk) (List.find?_eq_none.1 hkey k (K.mem_keys k))
    | some j => rw [K.eq_of_mem_names hk (hfound hkey)]

/-! ### Objects -/

/-- What a member does to a draft: unknown ones do nothing, and the slot of a known one must be empty. -/
def Step (name : String) (v : Value) (d d' : δ) : Prop :=
  match K.key? name with
  | none => d' = d
  | some k => K.slot k d = none ∧ ∃ x, K.Means k v x ∧ d' = K.fill k x d

theorem readsMember_member : ReadsMember shape.member K.Step := by
  intro name d v s s₁ s₂ t hcolon hblanks hv ht d' r
  unfold member Step
  rw [K.field?_eq]
  cases K.key? name with
  | none =>
    have hskip := skipValue_of_written hv ht hblanks
    simp only [Option.map_none, colon_of_blanks hcolon, hskip, bind, Except.bind, Except.ok.injEq,
      Prod.mk.injEq, eq_comm]
  | some k =>
    simp only [Option.map_some, K.isGiven_eq]
    cases K.slot k d with
    | some x => simp
    | none =>
      simp only [Option.isSome_none, Bool.false_eq_true, if_false, colon_of_blanks hcolon, true_and]
      exact K.reads k d hv ht hblanks d' r

/-- The values to come are right for a slot: there are none if it is filled, and else there is one. -/
def Completes (k : κ) (filled : Option (β k)) (vs : List Value) (x : β k) : Prop :=
  filled = some x ∧ vs = [] ∨ filled = none ∧ ∃ v, vs = [v] ∧ K.Means k v x

/-- One member is a step of one slot. -/
theorem step_iff {name : String} {v : Value} :
    (∃ d₁, K.Step name v d d₁ ∧ ∀ k, K.Completes k (K.slot k d₁) (valuesUnder (K.field k).names ms) (x k)) ↔
      ∀ k, K.Completes k (K.slot k d) (valuesUnder (K.field k).names ((name, v) :: ms)) (x k) := by
  unfold Step
  cases hkey : K.key? name with
  | none =>
    have hvalues : ∀ k,
        valuesUnder (K.field k).names ((name, v) :: ms) = valuesUnder (K.field k).names ms := by
      intro k
      apply valuesUnder_cons_of_not_mem
      rw [← K.key?_eq_some_iff, hkey]
      exact nofun
    simp only [hvalues, exists_eq_left]
  | some j =>
    have hj := K.key?_eq_some_iff.1 hkey
    have hother : ∀ {k}, k ≠ j →
        valuesUnder (K.field k).names ((name, v) :: ms) = valuesUnder (K.field k).names ms := by
      intro k hk
      apply valuesUnder_cons_of_not_mem
      exact fun hmem => hk (K.eq_of_mem_names hmem hj)
    simp only
    constructor
    · rintro ⟨_, ⟨hempty, y, hmeans, rfl⟩, h⟩ k
      by_cases hk : k = j
      · -- the member fills its slot, so no other value may follow
        subst hk
        rw [valuesUnder_cons_of_mem hj]
        rcases h k with ⟨hy, hnil⟩ | ⟨hnone, -⟩
        · rw [K.slot_fill] at hy
          obtain rfl := Option.some.inj hy
          rw [hnil]
          exact .inr ⟨hempty, v, rfl, hmeans⟩
        · rw [K.slot_fill] at hnone
          cases hnone
      · rw [hother hk, ← K.slot_fill_ne y d hk]
        exact h k
    · intro h
      -- a filled slot would have no value to come, and the member is one
      have hslot := h j
      rw [valuesUnder_cons_of_mem hj] at hslot
      rcases hslot with ⟨-, hnil⟩ | ⟨hempty, w, hone, hmeans⟩
      · cases hnil
      · obtain ⟨rfl, hnil⟩ := List.cons.inj hone
        refine ⟨_, ⟨hempty, x j, hmeans, rfl⟩, fun k => ?_⟩
        by_cases hk : k = j
        · subst hk
          exact .inl ⟨K.slot_fill k (x k) d, hnil⟩
        · rw [K.slot_fill_ne _ d hk, ← hother hk]
          exact h k

/-- A walk along the members fills all slots exactly if it does so for each slot on its own. -/
theorem steps_iff : (∃ d', Steps K.Step ms d d' ∧ ∀ k, K.slot k d' = some (x k)) ↔
    ∀ k, K.Completes k (K.slot k d) (valuesUnder (K.field k).names ms) (x k) := by
  induction ms generalizing d with
  | nil =>
    constructor
    · rintro ⟨_, ⟨⟩, hfull⟩ k
      exact .inl ⟨hfull k, rfl⟩
    · intro h
      refine ⟨d, .nil d, fun k => ?_⟩
      rcases h k with ⟨hfull, -⟩ | ⟨-, v, hv, -⟩
      · exact hfull
      · cases hv
  | cons m ms ih =>
    obtain ⟨name, v⟩ := m
    rw [← K.step_iff]
    constructor
    · rintro ⟨d', ⟨⟩, hfull⟩
      rename_i d₁ hstep hsteps
      exact ⟨d₁, hstep, ih.1 ⟨d', hsteps, hfull⟩⟩
    · rintro ⟨d₁, hstep, h⟩
      obtain ⟨d', hsteps, hfull⟩ := ih.2 h
      exact ⟨d', .cons hstep hsteps, hfull⟩

/-- An object is a record exactly if it has one value for each field. -/
theorem ofMembers_eq_ok_iff (h : WrittenMembers true ms s t) :
    shape.ofMembers s = .ok (a, r) ↔
      (∃ x, (∀ k, ∃ v, valuesUnder (K.field k).names ms = [v] ∧ K.Means k v (x k)) ∧ a = K.make x) ∧
        r = t := by
  have hmembers : ∀ d r', members shape.member true (s.length + 1) shape.blank s = .ok (d, r') ↔
      Steps K.Step ms shape.blank d ∧ r' = '\x7d' :: t :=
    fun d r' => members_eq_ok_iff K.readsMember_member h (Nat.lt_succ_of_le h.count_le)
  have hblank : ∀ {x : (k : κ) → β k},
      (∀ k, K.Completes k (K.slot k shape.blank) (valuesUnder (K.field k).names ms) (x k)) ↔
        ∀ k, ∃ v, valuesUnder (K.field k).names ms = [v] ∧ K.Means k v (x k) := by
    intro x
    simp only [Completes, K.slot_blank, reduceCtorEq, false_and, false_or, true_and]
  unfold ofMembers
  rw [inBracket_eq_ok_iff, reader_bind_eq_ok_iff]
  constructor
  · rintro ⟨d, s₁, hd, hok⟩
    obtain ⟨hsteps, rfl⟩ := (hmembers d s₁).1 hd
    obtain ⟨a', s₂, hfinish, hok⟩ := reader_bind_eq_ok_iff.1 hok
    obtain ⟨hbuild, rfl⟩ := finish_eq_ok_iff.1 hfinish
    obtain ⟨_, s₃, hend, hok⟩ := reader_bind_eq_ok_iff.1 hok
    rw [endObject_closing (.refl _)] at hend
    cases hend
    obtain ⟨rfl, rfl⟩ := reader_pure_eq_ok_iff.1 hok
    obtain ⟨x, hfull, hmake⟩ := K.build?_eq_some_iff.1 hbuild
    exact ⟨⟨x, hblank.1 (K.steps_iff.1 ⟨d, hsteps, hfull⟩), hmake⟩, rfl⟩
  · rintro ⟨⟨x, hvalues, hmake⟩, rfl⟩
    obtain ⟨d, hsteps, hfull⟩ := K.steps_iff.2 (hblank.2 hvalues)
    have hbuild := K.build?_eq_some_iff.2 ⟨x, hfull, hmake⟩
    have hfinish := finish_eq_ok_iff.2 ⟨hbuild, (rfl : '\x7d' :: r = _)⟩
    refine ⟨d, _, (hmembers d _).2 ⟨hsteps, rfl⟩, reader_bind_eq_ok_iff.2 ⟨a, _, hfinish, ?_⟩⟩
    refine reader_bind_eq_ok_iff.2 ⟨(), r, endObject_closing (.refl _), ?_⟩
    exact reader_pure_eq_ok_iff.2 ⟨rfl, rfl⟩

/-! ### Lists -/

/-- Values are put into the slots of the fields, one after another. -/
inductive Places : List κ → List Value → δ → δ → Prop
  | nil (d : δ) : Places [] [] d d
  | cons {k : κ} {ks : List κ} {v : Value} {vs : List Value} {x : β k} {d d' : δ} :
      K.Means k v x → Places ks vs (K.fill k x d) d' → Places (k :: ks) (v :: vs) d d'

/-- Slots that are filled one after another keep what they are filled with. -/
theorem places_iff {ks : List κ} (hnodup : ks.Nodup) :
    (∃ d', K.Places ks vs d d' ∧ ∀ k, K.slot k d' = some (x k)) ↔
      (∀ k ∉ ks, K.slot k d = some (x k)) ∧ List.Forall₂ (fun k v => K.Means k v (x k)) ks vs := by
  -- the slots behind are filled later, so the induction is told which ones those are
  induction ks generalizing vs d with
  | nil =>
    constructor
    · rintro ⟨_, ⟨⟩, hfull⟩
      exact ⟨fun k _ => hfull k, .nil⟩
    · rintro ⟨hfull, ⟨⟩⟩
      exact ⟨d, .nil d, fun k => hfull k List.not_mem_nil⟩
  | cons j ks ih =>
    obtain ⟨hj, hnodup⟩ := List.nodup_cons.1 hnodup
    constructor
    · rintro ⟨d', ⟨⟩, hfull⟩
      rename_i v vs y hmeans hplaces
      obtain ⟨hkept, hall⟩ := (ih hnodup).1 ⟨d', hplaces, hfull⟩
      have hy : some y = some (x j) := by rw [← K.slot_fill j y d, hkept j hj]
      obtain rfl := Option.some.inj hy
      refine ⟨fun k hk => ?_, .cons hmeans hall⟩
      obtain ⟨hne, hk⟩ := not_or.1 (List.mem_cons.not.1 hk)
      rw [← K.slot_fill_ne (x j) d hne]
      exact hkept k hk
    · rintro ⟨hkept, ⟨⟩⟩
      rename_i v vs hmeans hall
      have hfilled : ∀ k ∉ ks, K.slot k (K.fill j (x j) d) = some (x k) := by
        intro k hk
        by_cases hne : k = j
        · subst hne
          exact K.slot_fill k (x k) d
        · rw [K.slot_fill_ne _ d hne]
          exact hkept k (List.mem_cons.not.2 (not_or.2 ⟨hne, hk⟩))
      obtain ⟨d', hplaces, hfull⟩ := (ih hnodup).2 ⟨hfilled, hall⟩
      exact ⟨d', .cons hmeans hplaces, hfull⟩

/-- The fields are read as long as there are elements; some may be left. -/
theorem places_of_positional {ks : List κ} (count : Nat) (h : WrittenItems (count == 0) vs s t)
    (hok : shape.positional (ks.map K.field) count d s = .ok (d', r)) :
    ∃ vs₁ vs₂, vs = vs₁ ++ vs₂ ∧ K.Places ks vs₁ d d' ∧ WrittenItems (count + ks.length == 0) vs₂ r t := by
  induction ks generalizing vs count s d with
  | nil =>
    obtain ⟨rfl, rfl⟩ : d = d' ∧ s = r := Prod.mk.inj (Except.ok.inj hok)
    exact ⟨[], vs, rfl, .nil d, h⟩
  | cons k ks ih =>
    rw [List.map_cons, positional] at hok
    cases h with
    | nil hblanks =>
      rw [moreElements_closing hblanks] at hok
      cases hok
    | cons hseparated hvalue hrest =>
      obtain ⟨c, r', rfl, hbegins⟩ := hvalue.begins
      rw [moreElements_of_separated hseparated hbegins.ne.1 hbegins.ne.2.2.1] at hok
      change ((K.field k).read d (c :: r') >>= fun p =>
        shape.positional (ks.map K.field) (count + 1) p.1 p.2) = .ok (d', r) at hok
      obtain ⟨⟨d₁, s₁⟩, hread, hok⟩ := bind_eq_ok_iff.1 hok
      obtain ⟨⟨y, hmeans, rfl⟩, rfl⟩ := (K.reads k d hvalue hrest.delimited (.refl _) d₁ s₁).1 hread
      obtain ⟨vs₁, vs₂, rfl, hplaces, hleft⟩ := ih (count + 1) hrest hok
      refine ⟨_ :: vs₁, vs₂, rfl, .cons hmeans hplaces, ?_⟩
      rw [List.length_cons, ← Nat.add_assoc, Nat.add_right_comm]
      exact hleft

/-- As many elements as fields are read up to the closing bracket. -/
theorem positional_of_places {ks : List κ} (count : Nat) (h : WrittenItems (count == 0) vs s t)
    (hplaces : K.Places ks vs d d') :
    ∃ r, shape.positional (ks.map K.field) count d s = .ok (d', r) ∧ Blanks r (']' :: t) := by
  induction hplaces generalizing count s with
  | nil d =>
    cases h with
    | nil hblanks => exact ⟨s, rfl, hblanks⟩
  | @cons k ks v vs y d d' hmeans _ ih =>
    cases h with
    | cons hseparated hvalue hrest =>
      obtain ⟨c, r', rfl, hbegins⟩ := hvalue.begins
      have hread := (K.reads k d hvalue hrest.delimited (.refl _) _ _).2 ⟨⟨y, hmeans, rfl⟩, rfl⟩
      obtain ⟨r, hok, hblanks⟩ := ih (count + 1) hrest
      refine ⟨r, ?_, hblanks⟩
      rw [List.map_cons, positional, moreElements_of_separated hseparated hbegins.ne.1 hbegins.ne.2.2.1]
      show ((K.field k).read d (c :: r') >>= fun p =>
        shape.positional (ks.map K.field) (count + 1) p.1 p.2) = .ok (d', r)
      exact bind_eq_ok_iff.2 ⟨_, hread, hok⟩

/-- A list is a record exactly if it has the values of all fields in their order. -/
theorem ofElements_eq_ok_iff (h : WrittenItems true vs s t) :
    shape.ofElements s = .ok (a, r) ↔
      (∃ x, List.Forall₂ (fun k v => K.Means k v (x k)) K.keys vs ∧ a = K.make x) ∧ r = t := by
  have hplaces : ∀ {x : (k : κ) → β k},
      (∃ d, K.Places K.keys vs shape.blank d ∧ ∀ k, K.slot k d = some (x k)) ↔
        List.Forall₂ (fun k v => K.Means k v (x k)) K.keys vs := by
    intro x
    rw [K.places_iff K.nodup_keys]
    exact and_iff_right fun k hk => absurd (K.mem_keys k) hk
  unfold ofElements
  rw [inBracket_eq_ok_iff, reader_bind_eq_ok_iff, K.fields_eq]
  constructor
  · rintro ⟨d, s₁, hd, hok⟩
    obtain ⟨vs₁, vs₂, hvs, hsome, hleft⟩ := K.places_of_positional 0 h hd
    obtain ⟨a', s₂, hfinish, hclose⟩ := reader_bind_eq_ok_iff.1 hok
    obtain ⟨hbuild, rfl⟩ := finish_eq_ok_iff.1 hfinish
    obtain ⟨_, s₃, hend, hpure⟩ := reader_bind_eq_ok_iff.1 hclose
    obtain ⟨rfl, rfl⟩ := endList_eq_ok hleft hend
    obtain ⟨rfl, rfl⟩ := reader_pure_eq_ok_iff.1 hpure
    obtain ⟨x, hfull, hmake⟩ := K.build?_eq_some_iff.1 hbuild
    rw [List.append_nil] at hvs
    subst hvs
    exact ⟨⟨x, hplaces.1 ⟨d, hsome, hfull⟩, hmake⟩, rfl⟩
  · rintro ⟨⟨x, hvalues, hmake⟩, rfl⟩
    obtain ⟨d, hall, hfull⟩ := hplaces.2 hvalues
    obtain ⟨s₁, hd, hblanks⟩ := K.positional_of_places 0 h hall
    have hbuild := K.build?_eq_some_iff.2 ⟨x, hfull, hmake⟩
    refine ⟨d, s₁, hd, reader_bind_eq_ok_iff.2 ⟨a, s₁, finish_eq_ok_iff.2 ⟨hbuild, rfl⟩, ?_⟩⟩
    refine reader_bind_eq_ok_iff.2 ⟨(), r, endList_closing hblanks, ?_⟩
    exact reader_pure_eq_ok_iff.2 ⟨rfl, rfl⟩

/-! ### Records -/

/-- What a value gives the fields, in either form of a record. -/
inductive Gives (x : (k : κ) → β k) : Value → Prop
  | object {ms : List (String × Value)} :
      (∀ k, ∃ v, valuesUnder (K.field k).names ms = [v] ∧ K.Means k v (x k)) → Gives x (.object ms)
  | list {vs : List Value} : List.Forall₂ (fun k v => K.Means k v (x k)) K.keys vs → Gives x (.list vs)

/-- **A record is read exactly from one value for each of its fields.** -/
theorem reads_read : Reads shape.read fun v a => ∃ x, K.Gives x v ∧ a = K.make x := by
  intro v s s' t hv _ hblanks a r
  obtain ⟨c, r', hskip, rfl, hbegins⟩ := hv.skip hblanks
  unfold read
  rw [hskip]
  split
  · contradiction
  · rename_i heq
    cases heq
    obtain ⟨vs, rfl⟩ := begins_bracket_iff.1 hbegins
    cases hv with
    | list hitems =>
      rw [K.ofElements_eq_ok_iff hitems]
      constructor
      · rintro ⟨⟨x, hall, rfl⟩, rfl⟩
        exact ⟨⟨x, .list hall, rfl⟩, rfl⟩
      · rintro ⟨⟨x, hgives, rfl⟩, rfl⟩
        cases hgives with
        | list hall => exact ⟨⟨x, hall, rfl⟩, rfl⟩
  · rename_i heq
    cases heq
    obtain ⟨ms, rfl⟩ := begins_brace_iff.1 hbegins
    cases hv with
    | object hmembers =>
      rw [K.ofMembers_eq_ok_iff hmembers]
      constructor
      · rintro ⟨⟨x, hall, rfl⟩, rfl⟩
        exact ⟨⟨x, .object hall, rfl⟩, rfl⟩
      · rintro ⟨⟨x, hgives, rfl⟩, rfl⟩
        cases hgives with
        | object hall => exact ⟨⟨x, hall, rfl⟩, rfl⟩
  · rename_i hbracket hbrace
    constructor
    · exact fun hok => absurd hok refuse_ne_ok
    · rintro ⟨⟨x, ⟨⟩, rfl⟩, -⟩
      · exact absurd (by rw [show c = '\x7b' from hbegins]) (hbrace r')
      · exact absurd (by rw [show c = '[' from hbegins]) (hbracket r')

end Slots

end Shape

end BindingPipeline.Json
