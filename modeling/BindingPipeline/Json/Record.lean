/-
BindingPipeline/Json/Record.lean

Records: objects with known members, which may also be written as lists of their values in order.
Members that are not known are passed over; every known one must be there exactly once.

The values found so far are a draft of the record.  A field says under which names it goes, whether a
draft has it, and how its value is read into a draft.
-/
import BindingPipeline.Json.Reader

namespace BindingPipeline.Json

/-- A field of a record. -/
structure Field (δ : Type) where
  name : String
  aliases : List String
  isGiven : δ → Bool
  read : δ → Reader δ

/-- A kind of records: what a complaint calls it, its fields in order, the draft without any value, and
the record of a full draft. -/
structure Shape (δ α : Type) where
  title : String
  fields : List (Field δ)
  blank : δ
  build? : δ → Option α

namespace Shape

variable {δ α : Type}

/-- The field of a name. -/
def field? (shape : Shape δ α) (name : String) : Option (Field δ) :=
  shape.fields.find? fun f => f.name == name || f.aliases.contains name

/-- The first field that a draft lacks. -/
def firstMissing? (shape : Shape δ α) (draft : δ) : Option (Field δ) :=
  shape.fields.find? fun f => !f.isGiven draft

/-- The value of a member whose name has been read. -/
def member (shape : Shape δ α) (name : String) (draft : δ) : Reader δ := fun s =>
  match shape.field? name with
  | none => do
    let (_, s) ← colon s
    let (_, s) ← skipValue s
    .ok (draft, s)
  | some f =>
    if f.isGiven draft then .error (.loose (.duplicate f.name) s)
    else do
      let (_, s) ← colon s
      f.read draft s

/-- The record of a draft, once all members have been read. -/
def finish (shape : Shape δ α) (draft : δ) : Reader α := fun s =>
  match shape.build? draft with
  | some a => .ok (a, s)
  | none =>
    .error (.loose (.missing (((shape.firstMissing? draft).map (·.name)).getD "")) s)

/-- The members of an object. -/
def ofMembers (shape : Shape δ α) : Reader α := fun r =>
  (inBracket .object do
    let draft ← members shape.member true (r.length + 1) shape.blank
    let a ← shape.finish draft
    endObject
    return a) r

/-- The values of the fields in order; `count` have been read. -/
def positional (shape : Shape δ α) : List (Field δ) → Nat → δ → Reader δ
  | [], _, draft, s => .ok (draft, s)
  | f :: fs, count, draft, s => do
    let (more, s) ← moreElements (count == 0) s
    if more then
      let (draft, s) ← f.read draft s
      shape.positional fs (count + 1) draft s
    else .error (.loose (.tooShort count shape.title shape.fields.length) s)

/-- The elements of a list. -/
def ofElements (shape : Shape δ α) : Reader α := fun r =>
  (inBracket .list do
    let draft ← shape.positional shape.fields 0 shape.blank
    let a ← shape.finish draft
    endList
    return a) r

/-- A record in either form. -/
def read (shape : Shape δ α) : Reader α := fun s =>
  match skipBlanks s with
  | [] => .error (.located .endInValue 0)
  | '[' :: r => shape.ofElements r
  | '\x7b' :: r => shape.ofMembers r
  | r => refuse shape.title r

end Shape

end BindingPipeline.Json
