/-
BindingPipeline/Metadata/Document.lean

A module as a JSON value, in the two shapes that are in use: the bare module, and the document
that carries the version of the layout.
-/
import BindingPipeline.Json.Printer
import BindingPipeline.Metadata.Format
import BindingPipeline.Metadata.Module

namespace BindingPipeline.Metadata

open Json (Value Numeral)

/-- A list of texts as a JSON value. -/
def textList (ts : List String) : Value := .list (ts.map .text)

/-- A record as a JSON object. -/
def Record.toValue (r : Record) : Value :=
  .object [("name", .text r.name), ("nop", .number (Numeral.ofNat r.nop.toNat)),
    ("type_sig", .list (r.signatures.map textList))]

/-- The operations as a JSON object. -/
def Table.toValue (t : Table Record) : Value := .object (t.entries.map fun e => (e.1, e.2.toValue))

/-- The bare module as a JSON object. -/
def Module.toValue (m : Module) : Value :=
  .object [("ops", m.ops.toValue), ("types", textList m.types)]

/-- The module with the version of the layout. -/
def Module.document (m : Module) : Value :=
  .object [("format_version", .number (Numeral.ofNat formatVersion)), ("op", m.ops.toValue),
    ("types", textList m.types)]

/-- The compact form of the bare module. -/
def Module.compact (m : Module) : String := String.ofList m.toValue.compact

end BindingPipeline.Metadata
