/-
BindingPipeline/Metadata/Compile.lean

From the two catalogs to the metadata module.  Every exposed operation becomes a record under its
derived name, with its signatures in host types.  The operations are taken in order, and the
first one that breaks a rule is reported.
-/
import BindingPipeline.Catalog.HostType
import BindingPipeline.Catalog.Operation
import BindingPipeline.Error

namespace BindingPipeline.Metadata

open Catalog (Operation TypeEntry)

/-- Which optional rules are checked. -/
structure Rules where
  checkArity : Bool
  deriving DecidableEq, Repr

/-- No optional rule is checked. -/
def Rules.lenient : Rules := ⟨false⟩

/-- The host type of one name in a signature. -/
def hostText (types : List TypeEntry) (opcode : String) (canonical : String) :
    Except Error String :=
  match Catalog.lookUp? types canonical with
  | some host => .ok host.text
  | none => .error (.unknownType opcode canonical)

/-- A signature in host types.  Its length is looked at before the names in it. -/
def translate (rules : Rules) (types : List TypeEntry) (o : Operation) (sig : List String) :
    Except Error (List String) :=
  if rules.checkArity ∧ sig.length ≠ o.nop.toNat then
    .error (.invalidOperation o.opcode (.arity o.nop.toNat sig.length))
  else sig.mapM (hostText types o.opcode)

/-- The record of an operation. -/
def recordOf (rules : Rules) (types : List TypeEntry) (o : Operation) : Except Error Record :=
  match o.name? with
  | none => .error (.invalidOperation o.opcode (.tooShort Catalog.opcodeLead))
  | some name => do
    let signatures ← o.types.mapM (translate rules types o)
    return ⟨name, o.nop, signatures⟩

/-- The table with the record of one more operation, whose name must be new. -/
def addOperation (rules : Rules) (types : List TypeEntry) (t : Table Record) (o : Operation) :
    Except Error (Table Record) := do
  let r ← recordOf rules types o
  if t.contains r.name then .error (.duplicateOperation r.name) else return t.insert r.name r

/-- The module of the catalogs. -/
def compile (rules : Rules) (operations : List Operation) (types : List TypeEntry) :
    Except Error Module := do
  let ops ← (operations.filter (·.isExposed)).foldlM (addOperation rules types) Table.empty
  return ⟨ops, Catalog.hostNames types⟩

end BindingPipeline.Metadata
