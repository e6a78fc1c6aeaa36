/-
BindingPipeline/Error.lean

What can go wrong on the way from the catalogs to the staged package.  Every failure is a cause with
what it is about; the wording is computed from it.
-/
import BindingPipeline.ExitStatus
import BindingPipeline.Json.Fault
import BindingPipeline.Metadata.Inconsistency
import BindingPipeline.Path
import BindingPipeline.Stage
import BindingPipeline.SystemError
import BindingPipeline.Toml.Fault

namespace BindingPipeline

/-- What is wrong with an operation by itself. -/
inductive OperationFault
  | tooShort (lead : Nat)
  | arity (nop length : Nat)
  deriving DecidableEq, Repr

/-- The wording of a fault of an operation. -/
def OperationFault.message : OperationFault → String
  | tooShort lead => "not longer than its " ++ toString lead ++ "-character prefix"
  | arity nop length =>
    "declares nop " ++ toString nop ++ " but has a signature of length " ++ toString length

/-- What is wrong with a catalog file: its text, or one of the operations that it lists. -/
inductive CatalogFault
  | text (d : Json.Diagnosis)
  | operation (opcode : String) (fault : OperationFault)
  deriving DecidableEq, Repr

/-- The wording of a fault of a catalog. -/
def CatalogFault.message : CatalogFault → String
  | text d => d.message
  | operation opcode fault => "opcode " ++ opcode ++ ": " ++ fault.message

/-- Why a stage did not succeed. -/
inductive StageFault
  | notStarted (program : String) (cause : SystemError)
  | ended (program : String) (status : ExitStatus)
  | raised (message : String)
  deriving DecidableEq, Repr

/-- The wording of the failure of a stage. -/
def StageFault.message : StageFault → String
  | notStarted program cause => "failed to spawn " ++ program ++ ": " ++ cause.message
  | ended program status => program ++ " exited with " ++ status.message
  | raised message => message

/-- A failure of the pipeline. -/
inductive Error
  | notFound (path : Path)
  | malformedCatalog (path : Path) (fault : CatalogFault)
  | invalidOperation (opcode : String) (fault : OperationFault)
  | unknownType (opcode typeName : String)
  | duplicateOperation (name : String)
  | inconsistent (finding : Metadata.UndeclaredType)
  | io (path : Path) (cause : SystemError)
  | stageFailed (stage : Stage) (fault : StageFault)
  | encode (reason : String)
  | config (path : Path) (fault : Toml.Fault)
  deriving DecidableEq, Repr

namespace Error

/-- The failure that a refusal on a path is.  That something is not there is a failure of its own. -/
def onPath (path : Path) : SystemError → Error
  | .notFound => notFound path
  | cause => io path cause

/-- A failure of an operation by itself is a fault of the catalog that lists it. -/
def blame (catalog : Path) : Error → Error
  | invalidOperation opcode fault => malformedCatalog catalog (.operation opcode fault)
  | e => e

/-- The wording of a failure. -/
def message : Error → String
  | notFound path => "Source not found: " ++ path.text
  | malformedCatalog path fault => "Malformed catalog " ++ path.text ++ ": " ++ fault.message
  | invalidOperation opcode fault => "Invalid opcode " ++ opcode ++ ": " ++ fault.message
  | unknownType opcode typeName =>
    "Opcode " ++ opcode ++ " references unknown type " ++ typeName
  | duplicateOperation name => "Duplicate operation name: " ++ name
  | inconsistent finding => "Inconsistent metadata: " ++ finding.message
  | io path cause => "IO error on " ++ path.text ++ ": " ++ cause.message
  | stageFailed stage fault => "Stage " ++ stage.name ++ " failed: " ++ fault.message
  | encode reason => "Failed to encode metadata: " ++ reason
  | config path fault => "Invalid manifest " ++ path.text ++ ": " ++ fault.message

/-- The wording of what lies behind a failure, if it has a cause of its own. -/
def cause? : Error → Option String
  | inconsistent finding => some finding.message
  | io _ cause => some cause.message
  | _ => none

@[simp] theorem onPath_notFound (path : Path) : onPath path .notFound = notFound path := rfl

end Error

end BindingPipeline
