/-
BindingPipeline/Metadata/Table.lean

Tables from texts to values, kept in the order of their keys.  The order is part of the type, so a
table is determined by what it holds: two tables with the same entries are equal.
-/
namespace BindingPipeline.Metadata

/-- The entries with one more put in its place; an entry with the same key is replaced. -/
def putEntry {α : Type} (k : String) (v : α) : List (String × α) → List (String × α)
  | [] => [(k, v)]
  | e :: es =>
    if k < e.1 then (k, v) :: e :: es
    else if k = e.1 then (k, v) :: es
    else e :: putEntry k v es

/-- Are the keys strictly increasing? -/
def Increasing {α : Type} (es : List (String × α)) : Prop := es.Pairwise fun a b => a.1 < b.1

theorem mem_putEntry {α : Type} {k : String} {v : α} {es : List (String × α)} {x : String × α}
    (h : x ∈ putEntry k v es) : x = (k, v) ∨ x ∈ es := by
  induction es with
  | nil => simpa [putEntry] using h
  | cons e es ih =>
    unfold putEntry at h
    split at h
    · simpa using h
    · split at h
      · rcases List.mem_cons.1 h with h | h
        · exact .inl h
        · exact .inr (List.mem_cons_of_mem _ h)
      · rcases List.mem_cons.1 h with h | h
        · exact .inr (h ▸ List.mem_cons_self)
        · exact (ih h).imp_right (List.mem_cons_of_mem _)

theorem Increasing.putEntry {α : Type} {k : String} {v : α} {es : List (String × α)}
    (h : Increasing es) : Increasing (putEntry k v es) := by
  induction es with
  | nil => exact List.pairwise_singleton _ _
  | cons e es ih =>
    obtain ⟨below, rest⟩ := List.pairwise_cons.1 h
    unfold Metadata.putEntry
    split
    · rename_i less
      refine List.pairwise_cons.2 ⟨fun x hx => ?_, h⟩
      rcases List.mem_cons.1 hx with rfl | hx
      · exact less
      · exact Std.lt_trans less (below x hx)
    · split
      · rename_i same
        subst same
        exact List.pairwise_cons.2 ⟨below, rest⟩
      · rename_i notLess notSame
        have more : e.1 < k := by
          rcases Std.lt_trichotomy k e.1 with h | h | h
          · exact absurd h notLess
          · exact absurd h notSame
          · exact h
        refine List.pairwise_cons.2 ⟨fun x hx => ?_, ih rest⟩
        rcases mem_putEntry hx with rfl | hx
        · exact more
        · exact below x hx

/-- A table in the order of its keys. -/
@[ext] structure Table (α : Type) where
  entries : List (String × α)
  increasing : Increasing entries

namespace Table

variable {α : Type}

instance [DecidableEq α] : DecidableEq (Table α) := fun a b =>
  decidable_of_iff (a.entries = b.entries) Table.ext_iff.symm

/-- The table without entries. -/
def empty : Table α := ⟨[], List.Pairwise.nil⟩

instance : Inhabited (Table α) := ⟨empty⟩

/-- The table with one more entry; an entry with the same key is replaced. -/
def insert (t : Table α) (k : String) (v : α) : Table α :=
  ⟨putEntry k v t.entries, t.increasing.putEntry⟩

/-- The table of a list of entries; of several with one key the last counts. -/
def ofList (es : List (String × α)) : Table α := es.foldl (fun t e => t.insert e.1 e.2) empty

/-- The keys, in order. -/
def keys (t : Table α) : List String := t.entries.map Prod.fst

/-- The values, in the order of their keys. -/
def values (t : Table α) : List α := t.entries.map Prod.snd

/-- The value of a key. -/
def get? (t : Table α) (k : String) : Option α := (t.entries.find? (·.1 == k)).map Prod.snd

/-- Does the table have the key? -/
def contains (t : Table α) (k : String) : Bool := t.entries.any (·.1 == k)

@[simp] theorem keys_empty : (empty : Table α).keys = [] := rfl

@[simp] theorem get?_empty (k : String) : (empty : Table α).get? k = none := rfl

theorem contains_iff {t : Table α} {k : String} : t.contains k = true ↔ k ∈ t.keys := by
  simp [contains, keys]

theorem get?_insert (t : Table α) (k k' : String) (v : α) :
    (t.insert k v).get? k' = if k = k' then some v else t.get? k' := by
  obtain ⟨es, inc⟩ := t
  simp only [insert, get?]
  induction es with
  | nil => by_cases h : k = k' <;> simp [putEntry, h]
  | cons e es ih =>
    obtain ⟨below, rest⟩ := List.pairwise_cons.1 inc
    unfold putEntry
    split
    · by_cases h : k = k' <;> simp [List.find?_cons, h]
    · split
      · rename_i same
        by_cases h : k = k'
        · simp [h]
        · have : e.1 ≠ k' := same ▸ h
          simp [h, this]
      · rename_i notSame
        by_cases he : e.1 = k'
        · have : k ≠ k' := fun h => notSame (h.trans he.symm)
          simp [he, this]
        · simpa [List.find?_cons, he] using ih rest

theorem mem_keys_insert {t : Table α} {k k' : String} {v : α} :
    k' ∈ (t.insert k v).keys ↔ k' = k ∨ k' ∈ t.keys := by
  obtain ⟨es, inc⟩ := t
  simp only [insert, keys]
  induction es with
  | nil => simp [putEntry]
  | cons e es ih =>
    obtain ⟨below, rest⟩ := List.pairwise_cons.1 inc
    unfold putEntry
    split
    · simp
    · split
      · rename_i same
        simp [same]
      · have := ih rest
        simp only [List.map_cons, List.mem_cons, this]
        constructor
        · rintro (h | h | h)
          · exact .inr (.inl h)
          · exact .inl h
          · exact .inr (.inr h)
        · rintro (h | h | h)
          · exact .inr (.inl h)
          · exact .inl h
          · exact .inr (.inr h)

end Table

end BindingPipeline.Metadata
