/-
BindingPipeline/Text/Ranges.lean

Sets of characters written as closed ranges of code points.  The character classes of this library
(blank, cased, printable) are such sets; membership is the only question asked of them.
-/
namespace BindingPipeline.Text

/-- A set of characters: closed ranges of code points. -/
abbrev Ranges := List (Nat × Nat)

/-- Is the character in one of the ranges? -/
def Ranges.has (t : Ranges) (c : Char) : Bool :=
  t.any fun r => r.1 ≤ c.toNat && c.toNat ≤ r.2

end BindingPipeline.Text
