/-
BindingPipeline/Catalog/Reading.lean

The catalogs as JSON documents: lists of records, one for each operation or type.
-/
import BindingPipeline.Catalog.HostType
import BindingPipeline.Catalog.Operation
import BindingPipeline.Json.Printer
import BindingPipeline.Json.Record
import BindingPipeline.Text.Blank

namespace BindingPipeline.Catalog

open Json (Reader Field Shape Value)

/-! ### The operand count -/

/-- Why a value is no operand count. -/
inductive CountFault
  | noInteger
  | badText (s : String)
  | notPositive (n : Int)
  deriving DecidableEq, Repr

/-- The wording of such a fault. -/
def CountFault.message : CountFault → String
  | noInteger => "data did not match any variant of untagged enum IntegerLike"
  | badText s => "nop must be an integer, got " ++ Text.quoted s
  | notPositive n => "nop must be a positive integer, got " ++ toString n

/-- Is the number one of 64 bits with a sign? -/
def isWord (n : Int) : Bool := -9223372036854775808 ≤ n && n ≤ 9223372036854775807

/-- The number that decimal digits spell, if there are any. -/
def digitsNumber? (cs : List Char) : Option Nat :=
  match cs.mapM Json.digit? with
  | some (d :: ds) => some (Json.ofDigits (d :: ds))
  | _ => none

/-- The integer of 64 bits that a text spells with an optional sign and decimal digits. -/
def spelledInteger? (cs : List Char) : Option Int := do
  let n : Int ← match cs with
    | '+' :: r => (digitsNumber? r).map fun n => (n : Int)
    | '-' :: r => (digitsNumber? r).map fun n => -(n : Int)
    | r => (digitsNumber? r).map fun n => (n : Int)
  if isWord n then some n else none

/-- The integer that a JSON value stands for: a number without point and exponent, or a text that
spells one between blanks. -/
def integerOf : Value → Except CountFault Int
  | .number n =>
    match n.number with
    | .ok (.natural n) => if isWord n then .ok n else .error .noInteger
    | .ok (.negative n) => .ok n
    | _ => .error .noInteger
  | .text s =>
    match spelledInteger? (Text.trim s.toList) with
    | some n => .ok n
    | none => .error (.badText s)
  | _ => .error .noInteger

/-- The operand count that a JSON value stands for: a positive integer of 32 bits. -/
def countOf (v : Value) : Except CountFault UInt32 := do
  let n ← integerOf v
  if 0 < n ∧ n ≤ 4294967295 then return UInt32.ofNat n.toNat else throw (.notPositive n)

/-- An operand count.  Any value is read before it is judged; the brackets of the document and of the
entry are open around it. -/
def countValue : Reader UInt32 := fun s => do
  let (v, r) ← Json.anyValue (Json.bracketLimit - 2) s
  match countOf v with
  | .ok n => .ok (n, r)
  | .error fault => .error (.loose (.rejected fault.message) r)

/-! ### Operations -/

/-- An operation of which some values may not have been read yet. -/
structure Operation.Draft where
  opcode : Option String
  nop : Option UInt32
  types : Option (List (List String))
  elementwise : Option Bool
  systemOpcode : Option Bool

/-- The operation of a full draft. -/
def Operation.Draft.build? (d : Operation.Draft) : Option Operation := do
  return ⟨← d.opcode, ← d.nop, ← d.types, ← d.elementwise, ← d.systemOpcode⟩

/-- Entries of the operation catalog. -/
def Operation.shape : Shape Operation.Draft Operation where
  title := "struct OperationSpec"
  fields :=
    [⟨"opcode", [], (·.opcode.isSome), fun d s => do
        let (v, s) ← Json.textValue s
        .ok ({ d with opcode := some v }, s)⟩,
      ⟨"nop", [], (·.nop.isSome), fun d s => do
        let (v, s) ← countValue s
        .ok ({ d with nop := some v }, s)⟩,
      ⟨"types", [], (·.types.isSome), fun d s => do
        let (v, s) ← Json.listValue (Json.listValue Json.textValue) s
        .ok ({ d with types := some v }, s)⟩,
      ⟨"elementwise", [], (·.elementwise.isSome), fun d s => do
        let (v, s) ← Json.boolValue s
        .ok ({ d with elementwise := some v }, s)⟩,
      ⟨"system_opcode", [], (·.systemOpcode.isSome), fun d s => do
        let (v, s) ← Json.boolValue s
        .ok ({ d with systemOpcode := some v }, s)⟩]
  blank := ⟨none, none, none, none, none⟩
  build? := Operation.Draft.build?

/-- The operations of a catalog text. -/
def readOperations (text : String) : Except Json.Diagnosis (List Operation) :=
  (Json.listValue Operation.shape.read).document text

/-! ### Types -/

/-- A type entry of which some values may not have been read yet. -/
structure TypeEntry.Draft where
  canonical : Option String
  host : Option String

/-- The entry of a full draft. -/
def TypeEntry.Draft.build? (d : TypeEntry.Draft) : Option TypeEntry := do
  return ⟨← d.canonical, HostType.ofText (← d.host)⟩

/-- Entries of the type catalog; each of the two fields has two names. -/
def TypeEntry.shape : Shape TypeEntry.Draft TypeEntry where
  title := "struct TypeSpec"
  fields :=
    [⟨"enum", ["canonical"], (·.canonical.isSome), fun d s => do
        let (v, s) ← Json.textValue s
        .ok ({ d with canonical := some v }, s)⟩,
      ⟨"numpy", ["host"], (·.host.isSome), fun d s => do
        let (v, s) ← Json.textValue s
        .ok ({ d with host := some v }, s)⟩]
  blank := ⟨none, none⟩
  build? := TypeEntry.Draft.build?

/-- The types of a catalog text. -/
def readTypes (text : String) : Except Json.Diagnosis (List TypeEntry) :=
  (Json.listValue TypeEntry.shape.read).document text

/-- An entry of the type catalog as a JSON value. -/
def TypeEntry.toValue (t : TypeEntry) : Value :=
  .object [("enum", .text t.canonical), ("numpy", .text t.host.text)]

/-- The text of a type catalog. -/
def renderTypes (types : List TypeEntry) : String :=
  String.ofList (Value.list (types.map TypeEntry.toValue)).compact

end BindingPipeline.Catalog
