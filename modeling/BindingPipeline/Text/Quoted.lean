/-
BindingPipeline/Text/Quoted.lean

A text as a diagnosis shows it: between double quotes, on one line, with every character that
cannot be shown on its own written by its number.
-/
import BindingPipeline.Text.Printable

namespace BindingPipeline.Text

/-- One character inside the quotes. -/
def quoteChar (c : Char) : List Char :=
  match c with
  | '"' => ['\\', '"']
  | '\\' => ['\\', '\\']
  | '\n' => ['\\', 'n']
  | '\r' => ['\\', 'r']
  | '\t' => ['\\', 't']
  | '\x00' => ['\\', '0']
  | c => if isPrintable c then [c] else "\\u\x7b".toList ++ Nat.toDigits 16 c.toNat ++ ['}']

/-- The text between double quotes. -/
def quoted (s : String) : String :=
  String.ofList ('"' :: s.toList.flatMap quoteChar ++ ['"'])

end BindingPipeline.Text
