/-
BindingPipeline/Toml/Section.lean

Tables with known settings.  Settings that are not known are passed over, and one that is left out keeps
the value that the blank record has for it, unless the record cannot do without it.  Such a table
may also be written as a list of its values in order, which may end early.
-/
import BindingPipeline.Toml.Fault

namespace BindingPipeline.Toml

/-- A setting: its name, how its value changes a record, and whether a record still lacks it. -/
structure Setting (δ : Type) where
  name : String
  isLacking : δ → Bool
  set : Value → δ → Except Misfit δ

/-- A kind of tables: what a complaint calls it, its settings in order, the record without any of them,
and the finished form of a record that lacks nothing. -/
structure Section (δ α : Type) where
  title : String
  settings : List (Setting δ)
  blank : δ
  build? : δ → Option α

namespace Section

variable {δ α : Type}

/-- One entry of a table. -/
def apply (sec : Section δ α) (d : δ) (entry : String × Value) : Except Misfit δ :=
  match sec.settings.find? (·.name == entry.1) with
  | none => .ok d
  | some setting => setting.set entry.2 d

/-- The values of the settings in order; `count` have been taken. -/
def applyValues (sec : Section δ α) : List (Setting δ) → Nat → List Value → δ → Except Misfit δ
  | [], _, _, d => .ok d
  | setting :: rest, count, v :: vs, d => do
    sec.applyValues rest (count + 1) vs (← setting.set v d)
  | setting :: rest, count, [], d =>
    if setting.isLacking d then
      .error (.tooShort count (sec.title ++ " with " ++ toString sec.settings.length ++ " elements"))
    else sec.applyValues rest (count + 1) [] d

/-- The finished form of a record.  Of the settings that it lacks the first is reported. -/
def finish (sec : Section δ α) (d : δ) : Except Misfit α :=
  match sec.build? d with
  | some a => .ok a
  | none => .error (.missing (((sec.settings.find? (·.isLacking d)).map (·.name)).getD ""))

/-- The record that a table gives. -/
def ofTable (sec : Section δ α) (t : Table) : Except Misfit α := do
  sec.finish (← t.foldlM sec.apply sec.blank)

/-- The record that a value gives.  A date is a table in which nothing is known. -/
def ofValue (sec : Section δ α) : Value → Except Misfit α
  | .table t => sec.ofTable t
  | .list vs => do sec.finish (← sec.applyValues sec.settings 0 vs sec.blank)
  | .date => sec.finish sec.blank
  | v => .error (.mismatch v.found sec.title)

end Section

/-! ### Single values -/

/-- A string, which a complaint may call by another name. -/
def Value.asText (wanted : String) : Value → Except Misfit String
  | .text s => .ok s
  | v => .error (.mismatch v.found wanted)

/-- A truth value. -/
def Value.asBool : Value → Except Misfit Bool
  | .bool b => .ok b
  | v => .error (.mismatch v.found "a boolean")

/-- A list of values of one kind. -/
def Value.asList {α : Type} (item : Value → Except Misfit α) : Value → Except Misfit (List α)
  | .list vs => vs.mapM item
  | v => .error (.mismatch v.found "a sequence")

/-- The name of the kind of a value. -/
def Value.kind : Value → String
  | text _ => "string"
  | integer _ => "integer"
  | float _ => "float"
  | bool _ => "boolean"
  | date => "datetime"
  | list _ => "array"
  | table _ => "table"

/-- One name out of two: a string, or a table whose only key is the name and whose value is empty. -/
def Value.asName (first second : String) : Value → Except Misfit String
  | .text s => known s
  | .table [] => .error .noElement
  | .table [(k, v)] => do
    let name ← known k
    match v with
    | .table [] => return name
    | .list [] => return name
    | .table _ => throw (.notEmpty "table")
    | .list _ => throw (.notEmpty "array")
    | v => throw (.noTable v.kind)
  | .table _ => .error .tooManyElements
  | _ => .error .noStringOrTable
where
  /-- The name, if it is one of the two. -/
  known (s : String) : Except Misfit String :=
    if s = first ∨ s = second then .ok s else .error (.unknownVariant s first second)

end BindingPipeline.Toml
