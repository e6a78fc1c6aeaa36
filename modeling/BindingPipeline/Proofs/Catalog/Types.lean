/-
BindingPipeline/Proofs/Catalog/Types.lean

Which documents are type catalogs, and what is in all of them.  An entry describes a type
(`TypeEntry.Described`) if it is an object with one text under the two names of each field, whatever else it
has, or the list of the two texts; and a document is a catalog exactly if all its entries describe types,
which are then read in their order.

Of every catalog that is read, the host types come from spellings (`spelled_of_readTypes`), so none is a name
that is spelled like the lack of a type; and nothing else is needed for a catalog to be read again as it is
(`readTypes_renderTypes`).

Which documents are catalogs can also be said without the types: each entry gives two texts (`Names`), and the
lack of a type is one spelling of the second.

Main results: `readTypes_eq_ok_iff`, `spelled_of_readTypes`, `typeCatalog_exact`.
-/
import BindingPipeline.Proofs.Catalog.Operations
import BindingPipeline.Proofs.Json.Invariant

namespace BindingPipeline.Catalog

open Json (Reads Shape Value WrittenDocument Yields valuesUnder)

/-! ### Entries -/

namespace TypeEntry

/-- The fields of a type entry. -/
inductive Key
  | canonical
  | host
  deriving DecidableEq

/-- The field of a key. -/
def field (k : Key) : Json.Field Draft :=
  shape.fields.get ⟨k.ctorIdx, by cases k <;> decide⟩

/-- The slots of a type entry's draft; both hold texts. -/
def slots : Shape.Slots shape Key fun _ => String where
  keys := [.canonical, .host]
  nodup_keys := by decide
  mem_keys := by
    intro k
    cases k <;> decide
  field := field
  fields_eq := rfl
  eq_of_mem_names := by
    -- the two fields have no name in common
    intro k j name hk hj
    cases k <;> cases j
    case canonical.canonical => rfl
    case host.host => rfl
    all_goals simp only [field, shape, Key.ctorIdx, List.get, Json.Field.names, List.mem_cons,
      List.not_mem_nil, or_false] at hk hj
    all_goals rcases hk with rfl | rfl <;> simp at hj
  slot
    | .canonical => (·.canonical)
    | .host => (·.host)
  fill
    | .canonical => fun x d => { d with canonical := some x }
    | .host => fun x d => { d with host := some x }
  Means _ v x := v = .text x
  make x := ⟨x .canonical, HostType.ofText (x .host)⟩
  isGiven_eq := by
    intro k d
    cases k <;> rfl
  reads := by
    intro k d
    cases k with
    | canonical => exact Json.reads_textValue.map fun x => { d with canonical := some x }
    | host => exact Json.reads_textValue.map fun x => { d with host := some x }
  slot_fill := by
    intro k x d
    cases k <;> rfl
  slot_fill_ne := by
    intro k j x d hne
    cases k <;> cases j <;> first | rfl | exact absurd rfl hne
  slot_blank := by
    intro k
    cases k <;> rfl
  build?_eq_some_iff := by
    intro d e
    constructor
    · intro hbuild
      obtain ⟨_ | canonical, _ | host⟩ := d
      all_goals cases hbuild
      refine ⟨fun | .canonical => canonical | .host => host, fun k => ?_, rfl⟩
      cases k <;> rfl
    · rintro ⟨x, hfull, rfl⟩
      obtain ⟨canonical, host⟩ := d
      obtain rfl : canonical = some (x .canonical) := hfull .canonical
      obtain rfl : host = some (x .host) := hfull .host
      rfl

/-- The entries that describe a type.  The host is spelled by a text. -/
inductive Described (e : TypeEntry) : Value → Prop
  | object {ms : List (String × Value)} {host : String} :
      valuesUnder ["enum", "canonical"] ms = [.text e.canonical] →
      valuesUnder ["numpy", "host"] ms = [.text host] → e.host = HostType.ofText host →
      Described e (.object ms)
  | list {host : String} :
      e.host = HostType.ofText host → Described e (.list [.text e.canonical, .text host])

theorem described_iff {e : TypeEntry} {v : Value} :
    (∃ x, slots.Gives x v ∧ e = slots.make x) ↔ e.Described v := by
  constructor
  · rintro ⟨x, hgives, rfl⟩
    cases hgives with
    | object h =>
      obtain ⟨_, hcanonical, rfl⟩ := h .canonical
      obtain ⟨_, hhost, rfl⟩ := h .host
      exact .object hcanonical hhost rfl
    | list h =>
      have hall : List.Forall₂ (fun k (v : Value) => v = .text (x k)) [Key.canonical, .host] _ := h
      simp only [List.forall₂_cons_left_iff, List.forall₂_nil_left_iff] at hall
      obtain ⟨_, _, rfl, ⟨_, _, rfl, rfl, rfl⟩, rfl⟩ := hall
      exact .list rfl
  · intro h
    cases h with
    | @object ms host hcanonical hhost hspelled =>
      refine ⟨fun | .canonical => e.canonical | .host => host, .object fun k => ?_, ?_⟩
      · cases k with
        | canonical => exact ⟨_, hcanonical, rfl⟩
        | host => exact ⟨_, hhost, rfl⟩
      · show e = ⟨e.canonical, HostType.ofText host⟩
        rw [← hspelled]
    | @list host hspelled =>
      refine ⟨fun | .canonical => e.canonical | .host => host, .list (.cons rfl (.cons rfl .nil)), ?_⟩
      show e = ⟨e.canonical, HostType.ofText host⟩
      rw [← hspelled]

end TypeEntry

/-! ### Documents -/

variable {vs : List Value} {text : String} {types : List TypeEntry}

/-- The types of a document are those that its entries describe. -/
theorem readTypes_eq_ok_iff (h : WrittenDocument (.list vs) text) :
    readTypes text = .ok types ↔ List.Forall₂ (fun v e => e.Described v) vs types := by
  have hentry : Reads TypeEntry.shape.read fun v (e : TypeEntry) => e.Described v :=
    TypeEntry.slots.reads_read.congr fun _ _ => TypeEntry.described_iff
  exact hentry.listDocument_eq_ok_iff h

/-- The types of a file, with what is wrong with it blamed on it. -/
theorem loadTypes_of_readText {s : Session} {origin : Path} (h : s.files.readText s.cwd origin = .ok text) :
    Build.loadTypes origin s = match readTypes text with
      | .ok types => (.ok types, s)
      | .error d => (.error (.malformedCatalog origin (.text d)), s) := by
  unfold Build.loadTypes
  rw [readText_bind h]
  cases readTypes text with
  | error d => rfl
  | ok types => rfl

/-! ### Host types -/

/-- Every host type of the catalog comes from a spelling. -/
def Spelled (types : List TypeEntry) : Prop := ∀ e ∈ types, ∃ host, e.host = HostType.ofText host

/-- A host type that comes from a spelling comes from its own. -/
theorem HostType.exists_ofText_iff {h : HostType} : (∃ host, h = ofText host) ↔ ofText h.text = h := by
  constructor
  · rintro ⟨host, rfl⟩
    rw [text_ofText]
  · exact fun heq => ⟨_, heq.symm⟩

instance : Decidable (Spelled types) :=
  decidable_of_iff (∀ e ∈ types, HostType.ofText e.host.text = e.host)
    (forall₂_congr fun _ _ => HostType.exists_ofText_iff.symm)

/-- All catalogs that are read, from whatever text, have host types that come from spellings. -/
theorem spelled_of_readTypes (h : readTypes text = .ok types) : Spelled types := by
  have hentry : Yields TypeEntry.shape.read fun e => ∃ host, e.host = HostType.ofText host := by
    intro s e r hok
    -- nothing is asked of the draft, since its host is a text that has not been looked at
    obtain ⟨⟨_ | canonical, _ | host⟩, -, hbuild⟩ :=
      Shape.yields_read (I := fun _ => True) (fun _ _ _ _ _ _ _ _ => trivial) trivial hok
    all_goals cases hbuild
    exact ⟨host, rfl⟩
  exact hentry.listValue.document h

theorem TypeEntry.described_toValue {e : TypeEntry} (h : ∃ host, e.host = HostType.ofText host) :
    e.Described e.toValue :=
  .object rfl rfl (HostType.exists_ofText_iff.1 h).symm

/-- The text of a type catalog is read as the catalog. -/
theorem readTypes_renderTypes (h : Spelled types) : readTypes (renderTypes types) = .ok types := by
  unfold renderTypes
  rw [readTypes_eq_ok_iff (Json.writtenDocument_compact _), List.forall₂_map_left_iff, List.forall₂_same]
  exact fun e he => TypeEntry.described_toValue (h e he)

/-! ### Catalogs -/

/-- The entries that give a type these two texts: objects with one text under the two names of each field,
whatever else they have, and lists of the two texts. -/
inductive TypeEntry.Names (canonical host : String) : Value → Prop
  | object {ms : List (String × Value)} :
      valuesUnder ["enum", "canonical"] ms = [.text canonical] →
      valuesUnder ["numpy", "host"] ms = [.text host] → Names canonical host (.object ms)
  | list : Names canonical host (.list [.text canonical, .text host])

theorem HostType.eq_ofText_iff {h : HostType} {host : String} : h = ofText host ↔
    host = "unknown" ∧ h = .unsupported ∨ host ≠ "unknown" ∧ h = .named host := by
  unfold ofText unknownText
  by_cases hunknown : host = "unknown"
  · rw [if_pos hunknown]
    simp [hunknown]
  · rw [if_neg hunknown]
    simp [hunknown]

theorem TypeEntry.described_iff_names {e : TypeEntry} {v : Value} :
    e.Described v ↔ ∃ host, Names e.canonical host v ∧ e.host = HostType.ofText host := by
  constructor
  · intro h
    cases h with
    | object hcanonical hhost hspelled => exact ⟨_, .object hcanonical hhost, hspelled⟩
    | list hspelled => exact ⟨_, .list, hspelled⟩
  · rintro ⟨host, hnames, hspelled⟩
    cases hnames with
    | object hcanonical hhost => exact .object hcanonical hhost hspelled
    | list => exact .list hspelled

/-- An entry describes some type exactly if it gives two texts. -/
theorem TypeEntry.exists_described_iff {v : Value} :
    (∃ e : TypeEntry, e.Described v) ↔ ∃ canonical host, Names canonical host v := by
  simp only [described_iff_names]
  constructor
  · rintro ⟨e, host, hnames, -⟩
    exact ⟨e.canonical, host, hnames⟩
  · rintro ⟨canonical, host, hnames⟩
    exact ⟨⟨canonical, HostType.ofText host⟩, host, hnames, rfl⟩

/-- A document is read exactly if all its entries give two texts. -/
theorem exists_readTypes_iff (h : WrittenDocument (.list vs) text) :
    (∃ types, readTypes text = .ok types) ↔ ∀ v ∈ vs, ∃ canonical host, TypeEntry.Names canonical host v := by
  simp only [readTypes_eq_ok_iff h, exists_forall₂_iff, TypeEntry.exists_described_iff]

theorem loadTypes_eq_ok_iff_of_readText {s : Session} {origin : Path}
    (h : s.files.readText s.cwd origin = .ok text) :
    Build.loadTypes origin s = (.ok types, s) ↔ readTypes text = .ok types := by
  rw [loadTypes_of_readText h]
  cases readTypes text with
  | error d => exact ⟨nofun, nofun⟩
  | ok types' => simp [Id]

/-- A file whose text is not read is refused by its name. -/
theorem loadTypes_of_not_read {s : Session} {origin : Path} (h : s.files.readText s.cwd origin = .ok text)
    (hnot : ¬ ∃ types, readTypes text = .ok types) :
    ∃ d, Build.loadTypes origin s = (.error (.malformedCatalog origin (.text d)), s) := by
  rw [loadTypes_of_readText h]
  cases hresult : readTypes text with
  | error d => exact ⟨d, rfl⟩
  | ok types => exact absurd ⟨types, hresult⟩ hnot

/-- **Type catalogs are accepted exactly, and come back as they are written.**  A document of entries is accepted
if and only if each entry gives two texts.  Then there is one type for each entry, in their order, and the
host lacks it exactly if the second text says so; otherwise the file is refused by its name.  A catalog whose
host types come from spellings is what is read of its text. -/
theorem typeCatalog_exact (h : WrittenDocument (.list vs) text) :
    ((∃ types, readTypes text = .ok types) ↔ ∀ v ∈ vs, ∃ canonical host, TypeEntry.Names canonical host v) ∧
    (∀ types, readTypes text = .ok types ↔ List.Forall₂ (fun v e => ∃ host,
      TypeEntry.Names e.canonical host v ∧
        (host = "unknown" ∧ e.host = .unsupported ∨ host ≠ "unknown" ∧ e.host = .named host)) vs types) ∧
    (∀ (s : Session) (origin : Path), s.files.readText s.cwd origin = .ok text →
      (∀ types, Build.loadTypes origin s = (.ok types, s) ↔ readTypes text = .ok types) ∧
      ((∃ v ∈ vs, ∀ canonical host, ¬ TypeEntry.Names canonical host v) →
        ∃ d, Build.loadTypes origin s = (.error (.malformedCatalog origin (.text d)), s))) ∧
    ∀ types, Spelled types → readTypes (renderTypes types) = .ok types := by
  refine ⟨exists_readTypes_iff h, fun types => ?_, fun s origin hread => ?_, fun types => readTypes_renderTypes⟩
  · rw [readTypes_eq_ok_iff h]
    simp only [TypeEntry.described_iff_names, HostType.eq_ofText_iff]
  · refine ⟨fun types => loadTypes_eq_ok_iff_of_readText hread, ?_⟩
    rintro ⟨v, hv, hnone⟩
    apply loadTypes_of_not_read hread
    intro hok
    obtain ⟨canonical, host, hnames⟩ := (exists_readTypes_iff h).1 hok v hv
    exact hnone canonical host hnames

/-- Two entries: an object with its fields under their other names, in another order and with some more members,
and a list whose host type is lacking. -/
def aliasEntries : List Value :=
  [.object [("doc", .null), ("host", .text "int32"), ("doc", .list [.null]), ("canonical", .text "BH_INT32")],
    .list [.text "BH_UNKNOWN", .text "unknown"]]

/-- The types that the entries describe. -/
def aliasTypes : List TypeEntry := [⟨"BH_INT32", .named "int32"⟩, ⟨"BH_UNKNOWN", .unsupported⟩]

/-- An entry with one of its fields under both names. -/
def twiceNamedEntry : Value :=
  .object [("enum", .text "BH_BOOL"), ("numpy", .text "bool"), ("canonical", .text "BH_BOOL")]

/-- Both entries are loaded, and with a third one that has a field under both its names, even with the same text,
the file is refused.  The types are also what is read of the text that they are written to. -/
theorem alias_typeCatalog :
    Build.loadTypes ⟨"ops"⟩ (catalogSession aliasEntries) = (.ok aliasTypes, catalogSession aliasEntries) ∧
    (∃ d, Build.loadTypes ⟨"ops"⟩ (catalogSession (aliasEntries ++ [twiceNamedEntry])) =
      (.error (.malformedCatalog ⟨"ops"⟩ (.text d)), catalogSession (aliasEntries ++ [twiceNamedEntry]))) ∧
    readTypes (renderTypes aliasTypes) = .ok aliasTypes := by
  have hwritten (vs : List Value) := Json.writtenDocument_compact (.list vs)
  obtain ⟨-, hentries, hload, hrender⟩ := typeCatalog_exact (hwritten aliasEntries)
  obtain ⟨-, -, hrefused, -⟩ := typeCatalog_exact (hwritten (aliasEntries ++ [twiceNamedEntry]))
  refine ⟨?_, ?_, hrender aliasTypes (by decide)⟩
  · have hread := catalogSession_readText aliasEntries
    refine ((hload _ _ hread).1 aliasTypes).2 ((hentries aliasTypes).2 (.cons ?_ (.cons ?_ .nil)))
    · exact ⟨"int32", .object rfl rfl, .inr ⟨by decide, rfl⟩⟩
    · exact ⟨"unknown", .list, .inl ⟨rfl, rfl⟩⟩
  · have hread := catalogSession_readText (aliasEntries ++ [twiceNamedEntry])
    refine (hrefused _ _ hread).2 ⟨twiceNamedEntry, by simp, fun canonical host hnames => ?_⟩
    cases hnames with
    | object hcanonical _ => exact nomatch (List.cons.inj hcanonical).2

end BindingPipeline.Catalog
