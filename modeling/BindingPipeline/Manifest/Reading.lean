/-
BindingPipeline/Manifest/Reading.lean

The manifest as a TOML document.  Only the sources must be named; everything else has a default, whether
a whole table is left out or a single key of it.
-/
import BindingPipeline.Manifest.Config
import BindingPipeline.Toml.Document
import BindingPipeline.Toml.Section

namespace BindingPipeline.Manifest

open Toml (Misfit Section Setting Value)

/-- A path. -/
def asPath (v : Value) : Except Misfit Path := return ⟨← v.asText "path string"⟩

/-- A setting that may be left out. -/
def optional {δ α : Type} (name : String) (read : Value → Except Misfit α) (put : α → δ → δ) :
    Setting δ :=
  ⟨name, fun _ => false, fun v d => return put (← read v) d⟩

/-- A setting that must be there; `get` tells whether it is. -/
def required {δ α : Type} (name : String) (read : Value → Except Misfit α) (get : δ → Option α)
    (put : α → δ → δ) : Setting δ :=
  ⟨name, fun d => (get d).isNone, fun v d => return put (← read v) d⟩

/-- Sources of which some may not have been named yet. -/
structure Sources.Draft where
  template : Option Path
  header : Option Path
  opcodes : Option Path
  types : Option Path
  extra : List Path

/-- The sources of a draft that names them all. -/
def Sources.Draft.build? (d : Sources.Draft) : Option Sources := do
  return ⟨← d.template, ← d.header, ← d.opcodes, ← d.types, d.extra⟩

/-- The table of the sources. -/
def Sources.table : Section Sources.Draft Sources where
  title := "struct Sources"
  settings :=
    [required "template" asPath (·.template) fun v d => { d with template := some v },
      required "header" asPath (·.header) fun v d => { d with header := some v },
      required "opcodes" asPath (·.opcodes) fun v d => { d with opcodes := some v },
      required "types" asPath (·.types) fun v d => { d with types := some v },
      optional "extra" (Value.asList asPath) fun v d => { d with extra := v }]
  blank := ⟨none, none, none, none, []⟩
  build? := Sources.Draft.build?

/-- The format of the metadata. -/
def asFormat (v : Value) : Except Misfit Metadata.Format := do
  let name ← v.asName "python" "json"
  return if name = "json" then .json else .python

/-- The table of the outputs. -/
def Outputs.table : Section Outputs Outputs where
  title := "struct Outputs"
  settings :=
    [optional "interface" asPath fun v d => { d with interface := v },
      optional "metadata" asPath fun v d => { d with metadata := v },
      optional "format" asFormat fun v d => { d with format := v }]
  blank := Outputs.default
  build? := some

/-- The table of the package. -/
def Package.table : Section Package Package where
  title := "struct Package"
  settings :=
    [optional "name" (Value.asText "a string") fun v d => { d with name := v },
      optional "build_lib" asPath fun v d => { d with buildLib := v }]
  blank := Package.default
  build? := some

/-- The table of the checks. -/
def Checks.table : Section Checks Checks where
  title := "struct CatalogChecks"
  settings :=
    [optional "check_arity" Value.asBool fun v d => { d with checkArity := v },
      optional "strict_types" Value.asBool fun v d => { d with strictTypes := v }]
  blank := Checks.default
  build? := some

/-- The table of the stage commands. -/
def StageCommands.table : Section StageCommands StageCommands where
  title := "struct StageCommands"
  settings := Stage.all.map fun g =>
    optional g.name (Value.asList (Value.asText "a string")) fun v d => d.withWords g v
  blank := StageCommands.default
  build? := some

/-- A manifest whose sources may not have been named yet. -/
structure Config.Draft where
  sources : Option Sources
  outputs : Outputs
  package : Package
  catalog : Checks
  stages : StageCommands

/-- The configuration of a draft that names the sources. -/
def Config.Draft.build? (d : Config.Draft) : Option Config := do
  return ⟨← d.sources, d.outputs, d.package, d.catalog, d.stages⟩

/-- The whole manifest. -/
def Config.table : Section Config.Draft Config where
  title := "struct PipelineConfig"
  settings :=
    [required "sources" Sources.table.ofValue (·.sources) fun v d => { d with sources := some v },
      optional "outputs" Outputs.table.ofValue fun v d => { d with outputs := v },
      optional "package" Package.table.ofValue fun v d => { d with package := v },
      optional "catalog" Checks.table.ofValue fun v d => { d with catalog := v },
      optional "stages" StageCommands.table.ofValue fun v d => { d with stages := v }]
  blank := ⟨none, Outputs.default, Package.default, Checks.default, StageCommands.default⟩
  build? := Config.Draft.build?

/-- The configuration of a document that has been read. -/
def Config.ofTable (origin : Path) (t : Toml.Table) : Except Error Config :=
  match Config.table.ofTable t with
  | .ok c => .ok c
  | .error m => .error (.config origin (.misfit m))

/-- The configuration of a text. -/
def Config.ofText (origin : Path) (text : String) : Except Error Config :=
  match Toml.ofText? text with
  | none => .error (.config origin .malformed)
  | some t => Config.ofTable origin t

end BindingPipeline.Manifest
