/-
BindingPipeline/Metadata/Module.lean

The metadata module: the operations that the binding offers, by name, and the host's types.
-/
import BindingPipeline.Metadata.Table

namespace BindingPipeline.Metadata

/-- What the binding knows of an operation: its name, its operand count, and its signatures in host
types. -/
structure Record where
  name : String
  nop : UInt32
  signatures : List (List String)
  deriving DecidableEq, Repr

/-- The operations by name, and the host's types. -/
@[ext] structure Module where
  ops : Table Record
  types : List String

instance : DecidableEq Module := fun a b =>
  decidable_of_iff (a.ops = b.ops ∧ a.types = b.types) Module.ext_iff.symm

instance : Inhabited Module := ⟨⟨Table.empty, []⟩⟩

end BindingPipeline.Metadata
