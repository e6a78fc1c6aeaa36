/-
BindingPipeline/Catalog/Operation.lean

The operation catalog: what each operation takes, and the name under which it is offered.  The name
is the lowercase of the operation's code without the fixed number of characters in front.
-/
import BindingPipeline.Text.Lowercase

namespace BindingPipeline.Catalog

/-- The number of characters in front of a code that are not part of the name. -/
def opcodeLead : Nat := 3

/-- The name that a code gives, if any character is left for it. -/
def deriveName? (opcode : String) : Option String :=
  match (Text.lowercase opcode.toList).drop opcodeLead with
  | [] => none
  | cs => some (String.ofList cs)

/-- An entry of the operation catalog. -/
structure Operation where
  opcode : String
  nop : UInt32
  types : List (List String)
  elementwise : Bool
  systemOpcode : Bool
  deriving DecidableEq, Repr

/-- Only elementwise operations that do not belong to the system are offered. -/
def Operation.isExposed (o : Operation) : Bool := o.elementwise && !o.systemOpcode

/-- The name under which the operation is offered. -/
def Operation.name? (o : Operation) : Option String := deriveName? o.opcode

theorem deriveName?_eq_none_iff {opcode : String} :
    deriveName? opcode = none ↔ (Text.lowercase opcode.toList).length ≤ opcodeLead := by
  unfold deriveName?
  split
  · rename_i h
    simpa using h
  · rename_i h
    simpa using h

theorem deriveName?_eq_some_iff {opcode name : String} :
    deriveName? opcode = some name ↔
      name ≠ "" ∧ (Text.lowercase opcode.toList).drop opcodeLead = name.toList := by
  unfold deriveName?
  split
  · rename_i h
    rw [h]
    simp only [reduceCtorEq, false_iff, not_and]
    intro nonempty same
    exact nonempty (String.toList_eq_nil_iff.1 same.symm)
  · rename_i h
    constructor
    · rintro ⟨⟩
      refine ⟨fun empty => h ?_, by simp⟩
      simpa using empty
    · rintro ⟨-, same⟩
      simp [same]

end BindingPipeline.Catalog
