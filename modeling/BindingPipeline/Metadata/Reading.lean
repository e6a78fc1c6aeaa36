/-
BindingPipeline/Metadata/Reading.lean

A metadata module read from a JSON document.
-/
import BindingPipeline.Json.Record
import BindingPipeline.Metadata.Module

namespace BindingPipeline.Metadata

open Json (Shape)

/-- A record of which some values may not have been read yet. -/
structure Record.Draft where
  name : Option String
  nop : Option UInt32
  signatures : Option (List (List String))

/-- The record of a full draft. -/
def Record.Draft.build? (d : Record.Draft) : Option Record := do
  return ⟨← d.name, ← d.nop, ← d.signatures⟩

/-- Records of a module. -/
def Record.shape : Shape Record.Draft Record where
  title := "struct OpRecord"
  fields :=
    [⟨"name", [], (·.name.isSome), fun d s => do
        let (v, s) ← Json.textValue s
        .ok ({ d with name := some v }, s)⟩,
      ⟨"nop", [], (·.nop.isSome), fun d s => do
        let (v, s) ← Json.wordValue s
        .ok ({ d with nop := some v }, s)⟩,
      ⟨"type_sig", [], (·.signatures.isSome), fun d s => do
        let (v, s) ← Json.listValue (Json.listValue Json.textValue) s
        .ok ({ d with signatures := some v }, s)⟩]
  blank := ⟨none, none, none⟩
  build? := Record.Draft.build?

/-- A module of which some values may not have been read yet. -/
structure Module.Draft where
  ops : Option (List (String × Record))
  types : Option (List String)

/-- The module of a full draft.  Of several records under one key the last counts. -/
def Module.Draft.build? (d : Module.Draft) : Option Module := do
  return ⟨Table.ofList (← d.ops), ← d.types⟩

/-- Modules. -/
def Module.shape : Shape Module.Draft Module where
  title := "struct MetadataModule"
  fields :=
    [⟨"ops", [], (·.ops.isSome), fun d s => do
        let (v, s) ← Json.objectValue Record.shape.read s
        .ok ({ d with ops := some v }, s)⟩,
      ⟨"types", [], (·.types.isSome), fun d s => do
        let (v, s) ← Json.listValue Json.textValue s
        .ok ({ d with types := some v }, s)⟩]
  blank := ⟨none, none⟩
  build? := Module.Draft.build?

/-- The module of a text. -/
def readModule (text : String) : Except Json.Diagnosis Module := Module.shape.read.document text

end BindingPipeline.Metadata
