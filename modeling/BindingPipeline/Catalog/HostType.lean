/-
BindingPipeline/Catalog/HostType.lean

The type catalog: which type of the host stands for a canonical type.  A host that is spelled
`unknown` says that there is none.
-/
namespace BindingPipeline.Catalog

/-- What the host offers for a canonical type. -/
inductive HostType
  | named (name : String)
  | unsupported
  deriving DecidableEq, Repr

namespace HostType

/-- The spelling of a type that the host does not have. -/
def unknownText : String := "unknown"

/-- The host type of a spelling. -/
def ofText (s : String) : HostType := if s = unknownText then unsupported else named s

/-- The spelling of a host type. -/
def text : HostType → String
  | named name => name
  | unsupported => unknownText

/-- The name, if there is one. -/
def name? : HostType → Option String
  | named name => some name
  | unsupported => none

@[simp] theorem text_ofText (s : String) : (ofText s).text = s := by
  unfold ofText
  split
  · rename_i h; exact h.symm
  · rfl

end HostType

/-- An entry of the type catalog. -/
structure TypeEntry where
  canonical : String
  host : HostType
  deriving DecidableEq, Repr

/-- The names that the host has for the catalog's types, in the catalog's order. -/
def hostNames (types : List TypeEntry) : List String := types.filterMap (·.host.name?)

/-- What the host offers for a canonical name; of several entries the last one decides. -/
def lookUp? (types : List TypeEntry) (canonical : String) : Option HostType :=
  (types.reverse.find? (·.canonical == canonical)).map (·.host)

end BindingPipeline.Catalog
