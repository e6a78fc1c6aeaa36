/-
BindingPipeline/Proofs/Metadata/Reading.lean

Which texts are modules, and that a module is read back from what is written of it.  A value describes a
module (`Module.Described`) if it gives the operations and the types, each once, whatever else it has; the
operations are an object whose members all describe records, and under a repeated key the last one counts.
A text is read exactly as the module that its value describes (`readModule_eq_ok_iff`).  The compact form is
one of these texts, for every module, so that writing after reading changes nothing any more.
-/
import BindingPipeline.Metadata.Document
import BindingPipeline.Metadata.Reading
import BindingPipeline.Proofs.Json.Record
import BindingPipeline.Proofs.Metadata.Table

namespace BindingPipeline.Metadata

open Json (MembersMean Numeral ObjectMeans Reads Shape Value WrittenDocument valuesUnder)

theorem reads_textList : Reads (Json.listValue Json.textValue) fun v ts => v = textList ts :=
  (Json.reads_listValue Json.reads_textValue).congr fun _ _ => Json.listMeans_eq_iff

theorem reads_signatures : Reads (Json.listValue (Json.listValue Json.textValue))
    fun v sigs => v = .list (sigs.map textList) :=
  (Json.reads_listValue reads_textList).congr fun _ _ => Json.listMeans_eq_iff

/-! ### Records -/

namespace Record

/-- The fields of a record. -/
inductive Key
  | name
  | nop
  | signatures
  deriving DecidableEq

namespace Key

/-- What a field holds. -/
@[reducible] def Part : Key → Type
  | name => String
  | nop => UInt32
  | signatures => List (List String)

/-- What a value means for a field. -/
def Means : (k : Key) → Value → k.Part → Prop
  | name, v, x => v = .text x
  | nop, v, x => v = .number (Numeral.ofNat x.toNat)
  | signatures, v, x => v = .list (x.map textList)

/-- The name of a field in a document. -/
def label : Key → String
  | name => "name"
  | nop => "nop"
  | signatures => "type_sig"

theorem label_injective {k j : Key} (h : k.label = j.label) : k = j := by
  cases k <;> cases j <;> first | rfl | simp [label] at h

end Key

/-- The part of a record that a field holds. -/
def part (r : Record) : (k : Key) → k.Part
  | .name => r.name
  | .nop => r.nop
  | .signatures => r.signatures

/-- The field of a key. -/
def field (k : Key) : Json.Field Draft :=
  shape.fields.get ⟨k.ctorIdx, by cases k <;> decide⟩

theorem names_field (k : Key) : (field k).names = [k.label] := by
  cases k <;> rfl

/-- The slots of a record's draft. -/
def slots : Shape.Slots shape Key Key.Part where
  keys := [.name, .nop, .signatures]
  nodup_keys := by decide
  mem_keys := by
    intro k
    cases k <;> decide
  field := field
  fields_eq := rfl
  eq_of_mem_names := Json.Field.eq_of_mem_names names_field fun _ _ => Key.label_injective
  slot
    | .name => (·.name)
    | .nop => (·.nop)
    | .signatures => (·.signatures)
  fill
    | .name => fun x d => { d with name := some x }
    | .nop => fun x d => { d with nop := some x }
    | .signatures => fun x d => { d with signatures := some x }
  Means := Key.Means
  make x := ⟨x .name, x .nop, x .signatures⟩
  isGiven_eq := by
    intro k d
    cases k <;> rfl
  reads := by
    intro k d
    cases k with
    | name => exact Json.reads_textValue.map fun x => { d with name := some x }
    | nop => exact Json.reads_wordValue.map fun x => { d with nop := some x }
    | signatures => exact reads_signatures.map fun x => { d with signatures := some x }
  slot_fill := by
    intro k x d
    cases k <;> rfl
  slot_fill_ne := by
    intro k j x d hne
    cases k <;> cases j <;> first | rfl | exact absurd rfl hne
  slot_blank := by
    intro k
    cases k <;> rfl
  build?_eq_some_iff := by
    intro d r
    constructor
    · intro hbuild
      obtain ⟨_ | name, _ | nop, _ | signatures⟩ := d
      all_goals cases hbuild
      refine ⟨part ⟨name, nop, signatures⟩, fun k => ?_, rfl⟩
      cases k <;> rfl
    · rintro ⟨x, hfull, rfl⟩
      obtain ⟨name, nop, signatures⟩ := d
      obtain rfl : name = some (x .name) := hfull .name
      obtain rfl : nop = some (x .nop) := hfull .nop
      obtain rfl : signatures = some (x .signatures) := hfull .signatures
      rfl

/-- The values that describe a record: each of its parts is spelled in one way, but an object may have other
members as well, and may have all of them in any order. -/
inductive Described (r : Record) : Value → Prop
  | object {ms : List (String × Value)} :
      valuesUnder ["name"] ms = [.text r.name] →
      valuesUnder ["nop"] ms = [.number (Numeral.ofNat r.nop.toNat)] →
      valuesUnder ["type_sig"] ms = [.list (r.signatures.map textList)] → Described r (.object ms)
  | list : Described r
      (.list [.text r.name, .number (Numeral.ofNat r.nop.toNat), .list (r.signatures.map textList)])

/-- A record is read from what describes it. -/
theorem reads_read : Reads shape.read fun v r => r.Described v := by
  refine slots.reads_read.congr fun v r => ?_
  constructor
  · rintro ⟨x, hgives, rfl⟩
    cases hgives with
    | object h =>
      obtain ⟨_, ha, rfl⟩ := h .name
      obtain ⟨_, hb, rfl⟩ := h .nop
      obtain ⟨_, hc, rfl⟩ := h .signatures
      exact .object ha hb hc
    | list h =>
      have hall : List.Forall₂ (fun k v => k.Means v (x k)) [Key.name, .nop, .signatures] _ := h
      simp only [List.forall₂_cons_left_iff, List.forall₂_nil_left_iff] at hall
      obtain ⟨_, _, rfl, ⟨_, _, rfl, ⟨_, _, rfl, rfl, rfl⟩, rfl⟩, rfl⟩ := hall
      exact .list
  · intro h
    refine ⟨r.part, ?_, rfl⟩
    cases h with
    | object ha hb hc =>
      refine .object fun k => ?_
      cases k with
      | name => exact ⟨_, ha, rfl⟩
      | nop => exact ⟨_, hb, rfl⟩
      | signatures => exact ⟨_, hc, rfl⟩
    | list => exact .list (.cons rfl (.cons rfl (.cons rfl .nil)))

/-- What is written of a record describes it. -/
theorem described_toValue (r : Record) : r.Described r.toValue := .object rfl rfl rfl

end Record

/-! ### Operations -/

/-- An object describes a table if its members describe records; the table has the last one under each
key. -/
def Table.Described (t : Table Record) (v : Value) : Prop :=
  ∃ ms rs, v = .object ms ∧ MembersMean (fun v r => r.Described v) ms rs ∧
    ∀ k, t.get? k = Table.lastUnder k rs

theorem Table.described_iff {t : Table Record} {v : Value} :
    (∃ rs, ObjectMeans (fun v (r : Record) => r.Described v) v rs ∧ t = .ofList rs) ↔ t.Described v := by
  constructor
  · rintro ⟨rs, ⟨ms, rfl, hall⟩, rfl⟩
    exact ⟨ms, rs, rfl, hall, fun k => get?_ofList rs k⟩
  · rintro ⟨ms, rs, rfl, hall, hlast⟩
    refine ⟨rs, ⟨ms, rfl, hall⟩, ext_get? fun k => ?_⟩
    rw [hlast, get?_ofList]

/-- What is written of a table describes it. -/
theorem Table.described_toValue (t : Table Record) : t.Described t.toValue := by
  refine described_iff.1 ⟨t.entries, ⟨_, rfl, ?_⟩, (ofList_entries t).symm⟩
  unfold MembersMean
  rw [List.forall₂_map_left_iff, List.forall₂_same]
  exact fun e _ => ⟨rfl, e.2.described_toValue⟩

/-! ### Modules -/

namespace Module

/-- The fields of a module. -/
inductive Key
  | ops
  | types
  deriving DecidableEq

namespace Key

/-- What a field holds until all members are read. -/
@[reducible] def Part : Key → Type
  | ops => List (String × Record)
  | types => List String

/-- What a value means for a field. -/
def Means : (k : Key) → Value → k.Part → Prop
  | ops, v, x => ObjectMeans (fun v r => r.Described v) v x
  | types, v, x => v = textList x

/-- The name of a field in a document. -/
def label : Key → String
  | ops => "ops"
  | types => "types"

theorem label_injective {k j : Key} (h : k.label = j.label) : k = j := by
  cases k <;> cases j <;> first | rfl | simp [label] at h

end Key

/-- What the fields hold, together. -/
def parts (ops : List (String × Record)) (types : List String) : (k : Key) → k.Part
  | .ops => ops
  | .types => types

/-- The field of a key. -/
def field (k : Key) : Json.Field Draft :=
  shape.fields.get ⟨k.ctorIdx, by cases k <;> decide⟩

theorem names_field (k : Key) : (field k).names = [k.label] := by
  cases k <;> rfl

/-- The slots of a module's draft. -/
def slots : Shape.Slots shape Key Key.Part where
  keys := [.ops, .types]
  nodup_keys := by decide
  mem_keys := by
    intro k
    cases k <;> decide
  field := field
  fields_eq := rfl
  eq_of_mem_names := Json.Field.eq_of_mem_names names_field fun _ _ => Key.label_injective
  slot
    | .ops => (·.ops)
    | .types => (·.types)
  fill
    | .ops => fun x d => { d with ops := some x }
    | .types => fun x d => { d with types := some x }
  Means := Key.Means
  make x := ⟨.ofList (x .ops), x .types⟩
  isGiven_eq := by
    intro k d
    cases k <;> rfl
  reads := by
    intro k d
    cases k with
    | ops => exact (Json.reads_objectValue Record.reads_read).map fun x => { d with ops := some x }
    | types => exact reads_textList.map fun x => { d with types := some x }
  slot_fill := by
    intro k x d
    cases k <;> rfl
  slot_fill_ne := by
    intro k j x d hne
    cases k <;> cases j <;> first | rfl | exact absurd rfl hne
  slot_blank := by
    intro k
    cases k <;> rfl
  build?_eq_some_iff := by
    intro d m
    constructor
    · intro hbuild
      obtain ⟨_ | ops, _ | types⟩ := d
      all_goals cases hbuild
      refine ⟨parts ops types, fun k => ?_, rfl⟩
      cases k <;> rfl
    · rintro ⟨x, hfull, rfl⟩
      obtain ⟨ops, types⟩ := d
      obtain rfl : ops = some (x .ops) := hfull .ops
      obtain rfl : types = some (x .types) := hfull .types
      rfl

/-- The values that describe a module: an object with the operations and the types, each once, or the list
of the two. -/
inductive Described (m : Module) : Value → Prop
  | object {ms : List (String × Value)} {ops : Value} :
      valuesUnder ["ops"] ms = [ops] → m.ops.Described ops →
      valuesUnder ["types"] ms = [textList m.types] → Described m (.object ms)
  | list {ops : Value} : m.ops.Described ops → Described m (.list [ops, textList m.types])

/-- A module is read from what describes it. -/
theorem reads_read : Reads shape.read fun v m => m.Described v := by
  refine slots.reads_read.congr fun v m => ?_
  constructor
  · rintro ⟨x, hgives, rfl⟩
    cases hgives with
    | object h =>
      obtain ⟨_, ha, hops⟩ := h .ops
      obtain ⟨_, hb, rfl⟩ := h .types
      exact .object ha (Table.described_iff.1 ⟨x .ops, hops, rfl⟩) hb
    | list h =>
      have hall : List.Forall₂ (fun k v => k.Means v (x k)) [Key.ops, .types] _ := h
      simp only [List.forall₂_cons_left_iff, List.forall₂_nil_left_iff] at hall
      obtain ⟨_, _, hops, ⟨_, _, rfl, rfl, rfl⟩, rfl⟩ := hall
      exact .list (Table.described_iff.1 ⟨x .ops, hops, rfl⟩)
  · intro h
    cases h with
    | object ha hops hb =>
      obtain ⟨rs, hmeans, hrs⟩ := Table.described_iff.2 hops
      refine ⟨parts rs m.types, .object fun k => ?_, Module.ext hrs rfl⟩
      cases k with
      | ops => exact ⟨_, ha, hmeans⟩
      | types => exact ⟨_, hb, rfl⟩
    | list hops =>
      obtain ⟨rs, hmeans, hrs⟩ := Table.described_iff.2 hops
      exact ⟨parts rs m.types, .list (.cons hmeans (.cons rfl .nil)), Module.ext hrs rfl⟩

/-- What is written of a module describes it. -/
theorem described_toValue (m : Module) : m.Described m.toValue :=
  .object rfl m.ops.described_toValue rfl

end Module

/-- **A text is read exactly as the module that its value describes.** -/
theorem readModule_eq_ok_iff {v : Value} {text : String} {m : Module} (h : WrittenDocument v text) :
    readModule text = .ok m ↔ m.Described v := by
  unfold readModule
  rw [Module.reads_read.document_eq_ok_iff h]

theorem readModule_compact (m : Module) : readModule m.compact = .ok m :=
  (readModule_eq_ok_iff (Json.writtenDocument_compact m.toValue)).2 m.described_toValue

/-- No two modules have one compact form, since a text is read as one module at most. -/
theorem Module.compact_injective : Function.Injective Module.compact := by
  intro m m' h
  have hread := readModule_compact m
  rw [h, readModule_compact m'] at hread
  exact (Except.ok.inj hread).symm

/-- **Writing a module and reading it are inverse.**  Every module is read back from its compact form.  A
text is read as a module exactly if its value describes that module, with its members in any order, with
others besides them, and with keys that repeat.  Whatever text a module was read from, its compact form is
then read as that module again and written as that form again; only that module has the form. -/
theorem module_round_trip :
    (∀ m : Module, readModule m.compact = .ok m) ∧
    (∀ (v : Value) (text : String), WrittenDocument v text →
      ∀ m : Module, readModule text = .ok m ↔ m.Described v) ∧
    ∀ (text : String) (m : Module), readModule text = .ok m →
      (∃ m', readModule m.compact = .ok m' ∧ m' = m ∧ m'.compact = m.compact) ∧
      ∀ m', m'.compact = m.compact → m' = m := by
  refine ⟨readModule_compact, fun v text h m => readModule_eq_ok_iff h, fun text m _ => ⟨?_, ?_⟩⟩
  · exact ⟨m, readModule_compact m, rfl, rfl⟩
  · exact fun m' h => Module.compact_injective h

/-- A document with its members in another order, with some that nobody knows, and with one key twice. -/
def redundant : Value :=
  .object [("types", .list [.text "BH_INT32"]), ("version", .list [.null, .object []]),
    ("ops", .object
      [("add", .list [.text "add", .number (.ofNat 0), .list []]),
        ("add", .object [("nop", .number (.ofNat 4294967295)), ("doc", .bool true),
          ("type_sig", .list [.list [.text "BH_INT32\n"], .list []]), ("name", .text "BH_ADD")])])]

/-- The record that its second "add" describes. -/
def redundantRecord : Record := ⟨"BH_ADD", 4294967295, [["BH_INT32\n"], []]⟩

/-- The module that it describes. -/
def redundantModule : Module := ⟨.ofList [("add", redundantRecord)], ["BH_INT32"]⟩

theorem redundant_described : redundantModule.Described redundant := by
  refine .object rfl ⟨_, [("add", ⟨"add", 0, []⟩), ("add", redundantRecord)], rfl, ?_, fun k => ?_⟩ rfl
  · have hfirst : Record.Described ⟨"add", 0, []⟩ (.list [.text "add", .number (.ofNat 0), .list []]) := .list
    exact .cons ⟨rfl, hfirst⟩ (.cons ⟨rfl, .object rfl rfl rfl⟩ .nil)
  · unfold redundantModule
    rw [Table.get?_ofList]
    simp only [Table.lastUnder, List.reverse_cons, List.reverse_nil, List.nil_append, List.cons_append,
      List.find?_cons]
    cases ("add" : String) == k <;> rfl

theorem redundant_round_trip :
    readModule (String.ofList redundant.compact) = .ok redundantModule ∧
      ∃ m', readModule redundantModule.compact = .ok m' ∧ m' = redundantModule ∧
        m'.compact = redundantModule.compact := by
  obtain ⟨-, hdescribed, hagain⟩ := module_round_trip
  have hwritten := Json.writtenDocument_compact redundant
  have hread := (hdescribed _ _ hwritten redundantModule).2 redundant_described
  exact ⟨hread, (hagain _ _ hread).1⟩

end BindingPipeline.Metadata
