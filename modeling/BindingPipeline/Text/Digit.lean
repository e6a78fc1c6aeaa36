/-
BindingPipeline/Text/Digit.lean

Hexadecimal digits, in either case, and the numbers that they spell.
-/
namespace BindingPipeline.Text

/-- The value of a hexadecimal digit. -/
def hexDigit? (c : Char) : Option Nat :=
  let n := c.toNat
  if 48 ≤ n ∧ n < 58 then some (n - 48)
  else if 97 ≤ n ∧ n < 103 then some (n - 87)
  else if 65 ≤ n ∧ n < 71 then some (n - 55)
  else none

theorem hexDigit?_digitChar {d : Nat} (h : d < 16) : hexDigit? (Nat.digitChar d) = some d := by
  have table : ∀ d : Fin 16, hexDigit? (Nat.digitChar d) = some d.val := by decide
  exact table ⟨d, h⟩

/-- The number that digits with these values spell in a base, the first digit in front. -/
def ofDigits (base : Nat) (ds : List Nat) : Nat := ds.foldl (fun n d => n * base + d) 0

end BindingPipeline.Text
