/-
BindingPipeline/Proofs/Catalog/Operations.lean

Which documents are operation catalogs.  An entry describes an operation (`Operation.Described`) if it is an
object with each of the five fields once, whatever else it has, or the list of the five values; and a
document is a catalog exactly if all its entries describe operations, which are then read in their order.
Nothing is read from a document with an entry that describes none.
-/
import BindingPipeline.Build.MetadataFile
import BindingPipeline.Proofs.Json.Record
import BindingPipeline.Proofs.Session

namespace BindingPipeline.Catalog

open Json (ListMeans Reads Shape Value WrittenDocument valuesUnder)

/-! ### The operand count -/

/-- What counts as an integer is neither nested nor out of range. -/
theorem fits_of_integerOf {v : Value} {n : Int} (h : integerOf v = .ok n) (k : Nat) : v.Fits (k + 1) := by
  cases v with
  | number m =>
    show ∃ x, m.number = .ok x
    cases hm : m.number with
    | ok x => exact ⟨x, rfl⟩
    | error left =>
      simp only [integerOf, hm, reduceCtorEq] at h
  | text s => trivial
  | null => cases h
  | bool b => cases h
  | list vs => cases h
  | object ms => cases h

theorem reads_countValue : Reads countValue fun v n => countOf v = .ok n := by
  intro v s s' t hv ht hblanks n r
  have hany := Json.reads_anyValue (Json.bracketLimit - 2) hv ht hblanks
  unfold countValue
  constructor
  · intro hok
    obtain ⟨⟨a, s₁⟩, ha, hcount⟩ := bind_eq_ok_iff.1 hok
    obtain ⟨⟨rfl, -⟩, rfl⟩ := (hany a s₁).1 ha
    cases hresult : countOf a with
    | error fault => simp only [hresult, reduceCtorEq] at hcount
    | ok m =>
      simp only [hresult, Except.ok.injEq, Prod.mk.injEq] at hcount
      obtain ⟨rfl, rfl⟩ := hcount
      exact ⟨hresult, rfl⟩
  · rintro ⟨hcount, rfl⟩
    obtain ⟨i, hinteger, -⟩ := bind_eq_ok_iff.1 hcount
    have ha := (hany v r).2 ⟨⟨rfl, fits_of_integerOf hinteger _⟩, rfl⟩
    refine bind_eq_ok_iff.2 ⟨_, ha, ?_⟩
    simp only [hcount]

/-! ### Entries -/

namespace Operation

/-- The fields of an operation. -/
inductive Key
  | opcode
  | nop
  | types
  | elementwise
  | systemOpcode
  deriving DecidableEq

namespace Key

/-- What a field holds. -/
@[reducible] def Part : Key → Type
  | opcode => String
  | nop => UInt32
  | types => List (List String)
  | elementwise => Bool
  | systemOpcode => Bool

/-- What a value means for a field. -/
def Means : (k : Key) → Value → k.Part → Prop
  | opcode, v, x => v = .text x
  | nop, v, x => countOf v = .ok x
  | types, v, x => ListMeans (ListMeans fun v name => v = .text name) v x
  | elementwise, v, x => v = .bool x
  | systemOpcode, v, x => v = .bool x

/-- The name of a field. -/
def name : Key → String
  | opcode => "opcode"
  | nop => "nop"
  | types => "types"
  | elementwise => "elementwise"
  | systemOpcode => "system_opcode"

theorem name_injective {k j : Key} (h : k.name = j.name) : k = j := by
  cases k <;> cases j <;> first | rfl | simp [name] at h

end Key

/-- The part of an operation that a field holds. -/
def part (o : Operation) : (k : Key) → k.Part
  | .opcode => o.opcode
  | .nop => o.nop
  | .types => o.types
  | .elementwise => o.elementwise
  | .systemOpcode => o.systemOpcode

/-- The field of a key. -/
def field (k : Key) : Json.Field Draft :=
  shape.fields.get ⟨k.ctorIdx, by cases k <;> decide⟩

theorem names_field (k : Key) : (field k).names = [k.name] := by
  cases k <;> rfl

/-- The slots of an operation's draft. -/
def slots : Shape.Slots shape Key Key.Part where
  keys := [.opcode, .nop, .types, .elementwise, .systemOpcode]
  nodup_keys := by decide
  mem_keys := by
    intro k
    cases k <;> decide
  field := field
  fields_eq := rfl
  eq_of_mem_names := Json.Field.eq_of_mem_names names_field fun _ _ => Key.name_injective
  slot
    | .opcode => (·.opcode)
    | .nop => (·.nop)
    | .types => (·.types)
    | .elementwise => (·.elementwise)
    | .systemOpcode => (·.systemOpcode)
  fill
    | .opcode => fun x d => { d with opcode := some x }
    | .nop => fun x d => { d with nop := some x }
    | .types => fun x d => { d with types := some x }
    | .elementwise => fun x d => { d with elementwise := some x }
    | .systemOpcode => fun x d => { d with systemOpcode := some x }
  Means := Key.Means
  make x := ⟨x .opcode, x .nop, x .types, x .elementwise, x .systemOpcode⟩
  isGiven_eq := by
    intro k d
    cases k <;> rfl
  reads := by
    intro k d
    cases k with
    | opcode => exact Json.reads_textValue.map fun x => { d with opcode := some x }
    | nop => exact reads_countValue.map fun x => { d with nop := some x }
    | types =>
      have hlists := Json.reads_listValue (Json.reads_listValue Json.reads_textValue)
      exact hlists.map fun x => { d with types := some x }
    | elementwise => exact Json.reads_boolValue.map fun x => { d with elementwise := some x }
    | systemOpcode => exact Json.reads_boolValue.map fun x => { d with systemOpcode := some x }
  slot_fill := by
    intro k x d
    cases k <;> rfl
  slot_fill_ne := by
    intro k j x d hne
    cases k <;> cases j <;> first | rfl | exact absurd rfl hne
  slot_blank := by
    intro k
    cases k <;> rfl
  build?_eq_some_iff := by
    intro d a
    constructor
    · intro hbuild
      obtain ⟨_ | opcode, _ | nop, _ | types, _ | elementwise, _ | systemOpcode⟩ := d
      all_goals cases hbuild
      refine ⟨part ⟨opcode, nop, types, elementwise, systemOpcode⟩, fun k => ?_, rfl⟩
      cases k <;> rfl
    · rintro ⟨x, hfull, rfl⟩
      obtain ⟨opcode, nop, types, elementwise, systemOpcode⟩ := d
      obtain rfl : opcode = some (x .opcode) := hfull .opcode
      obtain rfl : nop = some (x .nop) := hfull .nop
      obtain rfl : types = some (x .types) := hfull .types
      obtain rfl : elementwise = some (x .elementwise) := hfull .elementwise
      obtain rfl : systemOpcode = some (x .systemOpcode) := hfull .systemOpcode
      rfl

/-- The values that spell the parts of an operation. -/
structure Spelled (o : Operation) (opcode nop types elementwise systemOpcode : Value) : Prop where
  opcode : opcode = .text o.opcode
  nop : countOf nop = .ok o.nop
  types : types = .list (o.types.map fun names => .list (names.map .text))
  elementwise : elementwise = .bool o.elementwise
  systemOpcode : systemOpcode = .bool o.systemOpcode

/-- The entries that describe an operation. -/
inductive Described (o : Operation) : Value → Prop
  | object {ms : List (String × Value)} {opcode nop types elementwise systemOpcode : Value} :
      valuesUnder ["opcode"] ms = [opcode] → valuesUnder ["nop"] ms = [nop] →
      valuesUnder ["types"] ms = [types] → valuesUnder ["elementwise"] ms = [elementwise] →
      valuesUnder ["system_opcode"] ms = [systemOpcode] →
      o.Spelled opcode nop types elementwise systemOpcode → Described o (.object ms)
  | list {opcode nop types elementwise systemOpcode : Value} :
      o.Spelled opcode nop types elementwise systemOpcode →
      Described o (.list [opcode, nop, types, elementwise, systemOpcode])

theorem means_types_iff {v : Value} {types : List (List String)} :
    Key.Means .types v types ↔ v = .list (types.map fun names => .list (names.map .text)) := by
  have hnames : (ListMeans fun v name => v = .text name) = fun v names => v = .list (names.map .text) := by
    funext v names
    exact propext Json.listMeans_eq_iff
  unfold Key.Means
  rw [hnames]
  exact Json.listMeans_eq_iff

theorem described_iff {o : Operation} {v : Value} :
    (∃ x, slots.Gives x v ∧ o = slots.make x) ↔ o.Described v := by
  constructor
  · rintro ⟨x, hgives, rfl⟩
    cases hgives with
    | object h =>
      obtain ⟨a, ha, hopcode⟩ := h .opcode
      obtain ⟨b, hb, hnop⟩ := h .nop
      obtain ⟨c, hc, htypes⟩ := h .types
      obtain ⟨d, hd, helementwise⟩ := h .elementwise
      obtain ⟨e, he, hsystem⟩ := h .systemOpcode
      exact .object ha hb hc hd he ⟨hopcode, hnop, means_types_iff.1 htypes, helementwise, hsystem⟩
    | list h =>
      have hall : List.Forall₂ (fun k v => k.Means v (x k))
        [Key.opcode, .nop, .types, .elementwise, .systemOpcode] _ := h
      simp only [List.forall₂_cons_left_iff, List.forall₂_nil_left_iff] at hall
      obtain ⟨a, _, hopcode, ⟨b, _, hnop, ⟨c, _, htypes, ⟨d, _, helementwise, ⟨e, _, hsystem, rfl, rfl⟩, rfl⟩,
        rfl⟩, rfl⟩, rfl⟩ := hall
      exact .list ⟨hopcode, hnop, means_types_iff.1 htypes, helementwise, hsystem⟩
  · intro h
    refine ⟨o.part, ?_, rfl⟩
    cases h with
    | object ha hb hc hd he hspelled =>
      refine .object fun k => ?_
      cases k with
      | opcode => exact ⟨_, ha, hspelled.opcode⟩
      | nop => exact ⟨_, hb, hspelled.nop⟩
      | types => exact ⟨_, hc, means_types_iff.2 hspelled.types⟩
      | elementwise => exact ⟨_, hd, hspelled.elementwise⟩
      | systemOpcode => exact ⟨_, he, hspelled.systemOpcode⟩
    | list hspelled =>
      exact .list (.cons hspelled.opcode (.cons hspelled.nop (.cons (means_types_iff.2 hspelled.types)
        (.cons hspelled.elementwise (.cons hspelled.systemOpcode .nil)))))

end Operation

/-! ### Documents -/

variable {vs : List Value} {text : String} {ops : List Operation}

/-- The operations of a document are those that its entries describe. -/
theorem readOperations_eq_ok_iff (h : WrittenDocument (.list vs) text) :
    readOperations text = .ok ops ↔ List.Forall₂ (fun v o => o.Described v) vs ops := by
  have hentry : Reads Operation.shape.read fun v (o : Operation) => o.Described v :=
    Operation.slots.reads_read.congr fun _ _ => Operation.described_iff
  exact hentry.listDocument_eq_ok_iff h

/-- What is done with the text of a file. -/
theorem readText_bind {α : Type} {s : Session} {origin : Path} (h : s.files.readText s.cwd origin = .ok text)
    (f : String → Action α) : (Action.readText origin >>= f) s = f text s := by
  have hask : Action.readText origin s = (.ok text, s) := Action.ask_eq_ok_iff.2 ⟨h, rfl⟩
  rw [state_bind_apply, hask]

/-- A file is loaded as it is read, and what is wrong with it is blamed on it. -/
theorem loadOperations_of_readText {s : Session} {origin : Path}
    (h : s.files.readText s.cwd origin = .ok text) :
    Build.loadOperations origin s = match readOperations text with
      | .ok ops => (.ok ops, s)
      | .error d => (.error (.malformedCatalog origin (.text d)), s) := by
  unfold Build.loadOperations
  rw [readText_bind h]
  cases readOperations text with
  | error d => rfl
  | ok ops => rfl

/-- **Operation catalogs are accepted exactly, and as a whole.**  A document of entries is accepted if and
only if each entry describes an operation.  Then the operations are those that the entries describe, one for
each in their order; otherwise the file is refused by its name, and no operation is loaded. -/
theorem loadOperations_exact (h : WrittenDocument (.list vs) text) :
    ((∃ ops, readOperations text = .ok ops) ↔ ∀ v ∈ vs, ∃ o : Operation, o.Described v) ∧
    (∀ ops, readOperations text = .ok ops ↔ List.Forall₂ (fun v o => o.Described v) vs ops) ∧
    ∀ (s : Session) (origin : Path), s.files.readText s.cwd origin = .ok text →
      (∀ ops, Build.loadOperations origin s = (.ok ops, s) ↔
        List.Forall₂ (fun v o => o.Described v) vs ops) ∧
      ((∃ v ∈ vs, ∀ o : Operation, ¬ o.Described v) →
        ∃ d, Build.loadOperations origin s = (.error (.malformedCatalog origin (.text d)), s)) := by
  have hexact : ∀ ops, readOperations text = .ok ops ↔ List.Forall₂ (fun v o => o.Described v) vs ops :=
    fun ops => readOperations_eq_ok_iff h
  refine ⟨?_, hexact, fun s origin hread => ?_⟩
  · rw [← exists_forall₂_iff]
    exact exists_congr hexact
  have hload := loadOperations_of_readText hread
  constructor
  · intro ops
    rw [← hexact, hload]
    cases readOperations text with
    | error d => exact ⟨nofun, nofun⟩
    | ok ops' => simp [Id]
  · rintro ⟨v, hv, hnone⟩
    cases hresult : readOperations text with
    | error d =>
      rw [hresult] at hload
      exact ⟨d, hload⟩
    | ok ops =>
      obtain ⟨o, -, ho⟩ := exists_mem_of_forall₂ ((hexact ops).1 hresult) hv
      exact absurd ho (hnone o)

/-- Two entries: an object with its fields in another order and some more members, and a list. -/
def smallEntries : List Value :=
  [.object [("doc", .null), ("nop", .text " +03 "), ("types", .list [.list [.text "BH_INT32"], .list []]),
      ("doc", .list [.object []]), ("system_opcode", .bool false), ("elementwise", .bool true),
      ("opcode", .text "BH_ADD")],
    .list [.text "BH_FREE", .number (.ofNat 1), .list [], .bool false, .bool true]]

/-- The operations that the entries describe. -/
def smallOperations : List Operation :=
  [⟨"BH_ADD", 3, [["BH_INT32"], []], true, false⟩, ⟨"BH_FREE", 1, [], false, true⟩]

theorem small_described :
    List.Forall₂ (fun v (o : Operation) => o.Described v) smallEntries smallOperations :=
  .cons (.object rfl rfl rfl rfl rfl ⟨rfl, rfl, rfl, rfl, rfl⟩) (.cons (.list ⟨rfl, rfl, rfl, rfl, rfl⟩) .nil)

/-- A session with one file, in which the values are written without blanks. -/
def catalogSession (vs : List Value) : Session where
  files := { nodes := [(["ops"], .file (String.ofList (Value.list vs).compact).toUTF8 ⟨1⟩)] }
  cwd := []
  now := ⟨2⟩
  output := ""
  complaints := ""

theorem catalogSession_readText (vs : List Value) :
    (catalogSession vs).files.readText (catalogSession vs).cwd ⟨"ops"⟩ =
      .ok (String.ofList (Value.list vs).compact) := by
  have hholds : (catalogSession vs).Holds ⟨"ops"⟩ (String.ofList (Value.list vs).compact).toUTF8 ⟨1⟩ := rfl
  exact hholds.readText

/-- Both entries are loaded, and with a third one that describes nothing the file is refused. -/
theorem small_loadOperations :
    Build.loadOperations ⟨"ops"⟩ (catalogSession smallEntries) =
      (.ok smallOperations, catalogSession smallEntries) ∧
    ∃ d, Build.loadOperations ⟨"ops"⟩ (catalogSession (smallEntries ++ [.null])) =
      (.error (.malformedCatalog ⟨"ops"⟩ (.text d)), catalogSession (smallEntries ++ [.null])) := by
  have hwritten (vs : List Value) := Json.writtenDocument_compact (.list vs)
  obtain ⟨-, -, hfirst⟩ := loadOperations_exact (hwritten smallEntries)
  obtain ⟨-, -, hsecond⟩ := loadOperations_exact (hwritten (smallEntries ++ [.null]))
  constructor
  · have hread := catalogSession_readText smallEntries
    exact ((hfirst _ _ hread).1 smallOperations).2 small_described
  · have hread := catalogSession_readText (smallEntries ++ [.null])
    exact (hsecond _ _ hread).2 ⟨.null, by simp, fun o h => nomatch h⟩

end BindingPipeline.Catalog
