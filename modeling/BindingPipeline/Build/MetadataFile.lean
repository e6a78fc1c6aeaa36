/-
BindingPipeline/Build/MetadataFile.lean

The metadata module from the catalog files to its own file.
-/
import BindingPipeline.Build.Device
import BindingPipeline.Build.Timestamp
import BindingPipeline.Catalog.Reading
import BindingPipeline.Manifest.Config
import BindingPipeline.Metadata.Compile
import BindingPipeline.Metadata.Encode

namespace BindingPipeline.Build

open Metadata (Module)

/-- The operations of a catalog file. -/
def loadOperations (p : Path) : Action (List Catalog.Operation) := do
  match Catalog.readOperations (← Action.readText p) with
  | .ok operations => return operations
  | .error d => throw (.malformedCatalog p (.text d))

/-- The types of a catalog file. -/
def loadTypes (p : Path) : Action (List Catalog.TypeEntry) := do
  match Catalog.readTypes (← Action.readText p) with
  | .ok types => return types
  | .error d => throw (.malformedCatalog p (.text d))

/-- The module, unless it must be consistent and is not. -/
def checkTypes (checks : Manifest.Checks) (m : Module) : Except Error Module :=
  match m.firstInconsistency?, checks.strictTypes with
  | some finding, true => .error (.inconsistent finding)
  | _, _ => .ok m

/-- The module of two catalog files.  A rule that an operation breaks is blamed on its catalog. -/
def compileCatalogs (opcodes types : Path) (checks : Manifest.Checks) : Action Module := do
  let operations ← loadOperations opcodes
  let entries ← loadTypes types
  let m ← Action.lift ((Metadata.compile checks.rules operations entries).mapError (·.blame opcodes))
  Action.lift (checkTypes checks m)

/-- How a module becomes a text; this may fail. -/
abbrev Encoder := Module → Except Error String

/-- The encoder of a format, which never fails. -/
def Encoder.ofFormat (f : Metadata.Format) : Encoder := fun m => .ok (f.encode m)

/-- The module written and stamped; its time is reported.  The sources are looked at first, then the text is
made, and only then anything is written. -/
def writeMetadataOn (d : Device) (m : Module) (encode : Encoder) (output : Path) (sources : List Path) :
    Action Time := do
  let t ← latest sources
  let text ← Action.lift (encode m)
  Action.makeParent output
  d.write output text.toUTF8
  d.stamp output t
  return t

/-- The module on a sound device. -/
def writeMetadata (m : Module) (encode : Encoder) (output : Path) (sources : List Path) : Action Time :=
  writeMetadataOn .sound m encode output sources

end BindingPipeline.Build
