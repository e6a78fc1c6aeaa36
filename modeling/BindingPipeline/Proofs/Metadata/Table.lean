/-
BindingPipeline/Proofs/Metadata/Table.lean

A table is what its look-ups say: two tables that answer alike at every key are equal.  Main
statements: `Table.get?_eq_some_iff` (a look-up finds the entries and nothing else), `Table.ext_get?`,
`get?_ofList` (of several values under one key the last counts), and `get?_insertAll`, which says what a
table holds after many entries with different keys.
-/
import BindingPipeline.Metadata.Table
import Mathlib.Data.List.Nodup
import Mathlib.Data.List.Perm.Basic

namespace BindingPipeline.Metadata.Table

variable {α : Type}

/-! ### Look-ups and entries -/

theorem nodup_keys (t : Table α) : t.keys.Nodup := by
  have h : t.keys.Pairwise (· < ·) := List.pairwise_map.2 t.increasing
  refine h.imp ?_
  intro a b hlt heq
  exact Std.lt_irrefl (heq ▸ hlt)

/-- Among entries with different keys, the first one under a key is the only one. -/
theorem find?_eq_some_iff {es : List (String × α)} (hes : (es.map Prod.fst).Nodup) {k : String} {v : α} :
    (es.find? (·.1 == k)).map Prod.snd = some v ↔ (k, v) ∈ es := by
  constructor
  · intro h
    obtain ⟨⟨k', v'⟩, he, rfl⟩ := Option.map_eq_some_iff.1 h
    have hk : k' = k := by simpa using List.find?_some he
    exact hk ▸ List.mem_of_find?_eq_some he
  · intro h
    rcases he : es.find? (·.1 == k) with - | ⟨k', v'⟩
    · simpa using List.find?_eq_none.1 he _ h
    · have hk : k' = k := by simpa using List.find?_some he
      have h' : (k', v') ∈ es := List.mem_of_find?_eq_some he
      have hv : (k', v') = (k, v) := List.inj_on_of_nodup_map hes h' h hk
      rw [he, Option.map_some, (Prod.mk.inj hv).2]

theorem get?_eq_some_iff {t : Table α} {k : String} {v : α} :
    t.get? k = some v ↔ (k, v) ∈ t.entries := find?_eq_some_iff t.nodup_keys

theorem mem_keys_iff {t : Table α} {k : String} : k ∈ t.keys ↔ ∃ v, t.get? k = some v := by
  simp [keys, get?_eq_some_iff]

theorem get?_eq_none_iff {t : Table α} {k : String} : t.get? k = none ↔ k ∉ t.keys := by
  rw [mem_keys_iff, Option.eq_none_iff_forall_ne_some]
  simp

/-- Tables that answer alike are equal: the order of the entries is no choice. -/
theorem ext_get? {t t' : Table α} (h : ∀ k, t.get? k = t'.get? k) : t = t' := by
  have hmem : ∀ e, e ∈ t.entries ↔ e ∈ t'.entries := by
    rintro ⟨k, v⟩
    rw [← get?_eq_some_iff, ← get?_eq_some_iff, h]
  have hperm : t.entries.Perm t'.entries :=
    (List.perm_ext_iff_of_nodup t.nodup_keys.of_map t'.nodup_keys.of_map).2 hmem
  refine Table.ext (hperm.eq_of_pairwise ?_ t.increasing t'.increasing)
  intro a b _ _ hab hba
  exact absurd (Std.lt_trans hab hba) Std.lt_irrefl

/-! ### Lists of entries -/

/-- The last value that a list has under a key. -/
def lastUnder (k : String) (es : List (String × α)) : Option α := (es.reverse.find? (·.1 == k)).map Prod.snd

/-- Of several values under a key, a table has the last. -/
theorem get?_ofList (es : List (String × α)) (k : String) : (ofList es).get? k = lastUnder k es := by
  have hfold : ∀ (es : List (String × α)) (t : Table α),
      (es.foldl (fun t e => t.insert e.1 e.2) t).get? k = (lastUnder k es).or (t.get? k) := by
    intro es
    induction es with
    | nil => exact fun t => rfl
    | cons e es ih =>
      intro t
      -- what comes later is found first
      have hlast : lastUnder k (e :: es) = (lastUnder k es).or (if e.1 = k then some e.2 else none) := by
        unfold lastUnder
        rw [List.reverse_cons, List.find?_append, Option.map_or]
        by_cases he : e.1 = k <;> simp [he]
      rw [List.foldl_cons, ih, get?_insert, hlast, Option.or_assoc]
      by_cases he : e.1 = k <;> simp [he]
  show (es.foldl (fun t e => t.insert e.1 e.2) empty).get? k = _
  rw [hfold, get?_empty, Option.or_none]

/-- A table is what its entries make. -/
theorem ofList_entries (t : Table α) : ofList t.entries = t := by
  refine ext_get? fun k => Option.ext fun v => ?_
  have hnodup : (t.entries.reverse.map Prod.fst).Nodup := by
    rw [List.map_reverse, List.nodup_reverse]
    exact t.nodup_keys
  rw [get?_ofList, get?_eq_some_iff]
  show (t.entries.reverse.find? (·.1 == k)).map Prod.snd = some v ↔ _
  rw [find?_eq_some_iff hnodup, List.mem_reverse]

/-! ### Many entries -/

/-- The table with all values of a list, each under its own key. -/
def insertAll (key : α → String) (t : Table α) (vs : List α) : Table α :=
  vs.foldl (fun t v => t.insert (key v) v) t

variable {key : α → String}

theorem mem_keys_insertAll {t : Table α} {vs : List α} {k : String} :
    k ∈ (t.insertAll key vs).keys ↔ k ∈ t.keys ∨ ∃ v ∈ vs, key v = k := by
  induction vs generalizing t with
  | nil => simp [insertAll]
  | cons v vs ih =>
    rw [insertAll, List.foldl_cons, ← insertAll, ih, mem_keys_insert]
    simp only [List.exists_mem_cons_iff, eq_comm (a := k)]
    tauto

/-- With keys that differ, every value is found again under its key. -/
theorem get?_insertAll {t : Table α} {vs : List α} (hvs : (vs.map key).Nodup) {v : α}
    (hv : v ∈ vs) : (t.insertAll key vs).get? (key v) = some v := by
  have keep : ∀ {us : List α} {t : Table α} {k : String}, (∀ u ∈ us, key u ≠ k) →
      (t.insertAll key us).get? k = t.get? k := by
    intro us
    induction us with
    | nil => intro t k _; rfl
    | cons u us ih =>
      intro t k hus
      obtain ⟨hu, hus⟩ := List.forall_mem_cons.1 hus
      rw [insertAll, List.foldl_cons, ← insertAll, ih hus, get?_insert, if_neg hu]
  induction vs generalizing t with
  | nil => cases hv
  | cons u us ih =>
    obtain ⟨hu, hus⟩ := List.nodup_cons.1 hvs
    rw [insertAll, List.foldl_cons, ← insertAll]
    rcases List.mem_cons.1 hv with rfl | hv
    · rw [keep, get?_insert, if_pos rfl]
      intro w hw heq
      exact hu (heq ▸ List.mem_map_of_mem hw)
    · exact ih hus hv

end BindingPipeline.Metadata.Table
