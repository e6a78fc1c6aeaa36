/-
BindingPipeline/Build/Plan.lean

A plan: a configuration together with the directories that it is carried out between.  All paths of a run
follow from it before any file is touched.
-/
import BindingPipeline.Build.Roots
import BindingPipeline.Manifest.Config

namespace BindingPipeline.Build

open Manifest (Config)

/-- What a run is to do. -/
structure Plan where
  config : Config
  roots : Roots
  manifest : Option Path
  watched : List Path
  emitsDirectives : Bool
  isDryRun : Bool
  deriving DecidableEq, Repr

namespace Plan

/-- The plan of a configuration, without a recorded manifest or any option. -/
def ofConfig (config : Config) (roots : Roots) : Plan := ⟨config, roots, none, [], false, false⟩

/-- Where the interface description goes. -/
def interfacePath (p : Plan) : Path := p.roots.build p.config.outputs.interface

/-- Where the metadata module goes. -/
def metadataPath (p : Plan) : Path := p.roots.build p.config.outputs.metadata

/-- Where the generated files are staged for the package. -/
def stagingDir (p : Plan) : Path :=
  (p.roots.build p.config.package.buildLib).join ⟨p.config.package.name⟩

def templatePath (p : Plan) : Path := p.roots.source p.config.sources.template

def headerPath (p : Plan) : Path := p.roots.source p.config.sources.header

def opcodesPath (p : Plan) : Path := p.roots.source p.config.sources.opcodes

def typesPath (p : Plan) : Path := p.roots.source p.config.sources.types

/-- The files that the interface description is made of. -/
def interfaceSources (p : Plan) : List Path := [p.templatePath, p.headerPath]

/-- The files on which the metadata module depends. -/
def metadataSources (p : Plan) : List Path :=
  [p.opcodesPath, p.typesPath] ++ p.config.sources.extra.map p.roots.source ++ p.manifest.toList

/-- All files whose change calls for another run. -/
def inputs (p : Plan) : List Path := p.interfaceSources ++ p.metadataSources ++ p.watched

/-- One line for each input, by which a build tool that calls this one learns of it. -/
def directives (p : Plan) : List String :=
  p.inputs.map fun path => "cargo:rerun-if-changed=" ++ path.text

end Plan

end BindingPipeline.Build
