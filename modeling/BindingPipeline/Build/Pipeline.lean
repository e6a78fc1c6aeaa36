/-
BindingPipeline/Build/Pipeline.lean

What can be done with a plan: compile the catalogs, generate the two files, tell whether they are up to
date, and build the package.
-/
import BindingPipeline.Build.Interface
import BindingPipeline.Build.MetadataFile
import BindingPipeline.Build.Plan
import BindingPipeline.Build.Stages
import BindingPipeline.Manifest.Reading

namespace BindingPipeline.Build

/-- The generated files, with the times that they carry. -/
structure Artifacts where
  interface : Path
  interfaceStamp : Time
  metadata : Path
  metadataStamp : Time
  deriving DecidableEq, Repr

/-- The configuration of a manifest file. -/
def loadConfig (p : Path) : Action Manifest.Config := do
  Action.lift (Manifest.Config.ofText p (← Action.readText p))

namespace Plan

/-- The module of the plan's catalogs. -/
def compile (p : Plan) : Action Metadata.Module :=
  compileCatalogs p.opcodesPath p.typesPath p.config.catalog

/-- The lines that name the inputs, if the plan asks for them. -/
def emitDirectives (p : Plan) : Action Unit :=
  if p.emitsDirectives then Action.print (String.join (p.directives.map (· ++ "\n"))) else return ()

/-- Both files generated.  The catalogs are compiled before anything is written. -/
def generateOn (d : Device) (p : Plan) : Action Artifacts := do
  let m ← p.compile
  let interfaceStamp ← assembleOn d p.templatePath p.headerPath p.interfacePath
  let encode := Encoder.ofFormat p.config.outputs.format
  let metadataStamp ← writeMetadataOn d m encode p.metadataPath p.metadataSources
  p.emitDirectives
  return ⟨p.interfacePath, interfaceStamp, p.metadataPath, metadataStamp⟩

/-- Both files generated on a sound device. -/
def generate (p : Plan) : Action Artifacts := p.generateOn .sound

/-- Where the generated files are staged: the metadata module first. -/
def staging (p : Plan) (a : Artifacts) : Staging :=
  ⟨p.stagingDir, [a.metadata, a.interface], p.isDryRun⟩

/-- The package built: the files generated and the stages carried out. -/
def build {σ : Type} (p : Plan) (runner : Runner σ) : Turn σ Report := do
  let a ← Turn.ofAction p.generate
  (p.staging a).orchestrate runner

/-- Whether each of the two files is missing or out of date. -/
def status (p : Plan) : Action (List (Path × Bool)) := do
  let interface ← isStale p.interfacePath p.interfaceSources
  let metadata ← isStale p.metadataPath p.metadataSources
  return [(p.interfacePath, interface), (p.metadataPath, metadata)]

end Plan

end BindingPipeline.Build
