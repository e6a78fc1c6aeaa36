import BindingPipeline.Main
import BindingPipeline.Metadata.Reading
import BindingPipeline.Proofs.Path
import BindingPipeline.Proofs.FileSystem.Way
import BindingPipeline.Proofs.FileSystem.Below
import BindingPipeline.Proofs.Json.Written
import BindingPipeline.Proofs.Json.Token
import BindingPipeline.Proofs.Json.Skip
import BindingPipeline.Proofs.Json.Reader
import BindingPipeline.Proofs.Json.Record
import BindingPipeline.Proofs.Catalog.Operations
import BindingPipeline.Proofs.Metadata.Compilation
import BindingPipeline.Proofs.Metadata.PythonText
import BindingPipeline.Proofs.Metadata.Reading
import BindingPipeline.Proofs.Metadata.Document
import BindingPipeline.Proofs.Build.Inputs
import BindingPipeline.Proofs.Build.Failure
import BindingPipeline.Proofs.Build.Sources
import BindingPipeline.Proofs.Build.Staging
import BindingPipeline.Proofs.Build.Stages
import BindingPipeline.Proofs.Build.Delivery
import BindingPipeline.Proofs.Build.Protocol
import BindingPipeline.Proofs.Build.Refusal
import BindingPipeline.Proofs.Build.Settled
import BindingPipeline.Proofs.Build.Regeneration
import BindingPipeline.Proofs.Build.Staleness
import BindingPipeline.Proofs.Build.Containment
import BindingPipeline.Proofs.Build.Rehearsal
import BindingPipeline.Proofs.Metadata.FirstFault
import BindingPipeline.Proofs.Metadata.Inconsistency
import BindingPipeline.Proofs.Metadata.Reordering
import BindingPipeline.Proofs.Metadata.Unsupported
import BindingPipeline.Proofs.Build.Checks
import BindingPipeline.Proofs.Catalog.Types
import BindingPipeline.Proofs.Catalog.Name
import BindingPipeline.Proofs.CommandLine.Inspection
import BindingPipeline.Proofs.CommandLine.Location
import BindingPipeline.Proofs.Catalog.Loading
import BindingPipeline.Proofs.Catalog.Count
import BindingPipeline.Proofs.Build.Latest
import BindingPipeline.Proofs.Build.Blame
import BindingPipeline.Proofs.Metadata.Naming
import BindingPipeline.Proofs.Manifest.Defaults
