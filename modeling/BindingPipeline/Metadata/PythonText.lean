/-
BindingPipeline/Metadata/PythonText.lean

A module written as Python source: a dictionary of the operations and a list of the types.
-/
import BindingPipeline.Metadata.Format
import BindingPipeline.Metadata.Module

namespace BindingPipeline.Metadata.PythonText

/-- Is the character a control character, below the space or from the delete character on? -/
def isControl (c : Char) : Bool := c.toNat < 32 || (127 ≤ c.toNat && c.toNat < 160)

/-- One character inside a literal. -/
def escapeChar (c : Char) : List Char :=
  match c with
  | '\\' => ['\\', '\\']
  | '\'' => ['\\', '\'']
  | '\n' => ['\\', 'n']
  | '\r' => ['\\', 'r']
  | '\t' => ['\\', 't']
  | c =>
    if isControl c then ['\\', 'x', Nat.digitChar (c.toNat / 16), Nat.digitChar (c.toNat % 16)]
    else [c]

/-- The literal of a text. -/
def literal (s : String) : List Char := '\'' :: s.toList.flatMap escapeChar ++ ['\'']

/-- The items with a comma and a blank between two neighbours. -/
def separated : List (List Char) → List Char
  | [] => []
  | [item] => item
  | item :: items => item ++ ',' :: ' ' :: separated items

/-- A list display of items that are already written. -/
def listDisplay (items : List (List Char)) : List Char := '[' :: separated items ++ [']']

/-- The dictionary display of a record. -/
def record (r : Record) : List Char :=
  "\x7b'name': ".toList ++ literal r.name ++ ", 'nop': ".toList ++ Nat.toDigits 10 r.nop.toNat ++
    ", 'type_sig': ".toList ++
    listDisplay (r.signatures.map fun sig => listDisplay (sig.map literal)) ++ ['\x7d']

/-- The line of an operation. -/
def entry (e : String × Record) : List Char :=
  "    ".toList ++ literal e.1 ++ [':', ' '] ++ record e.2 ++ [',', '\n']

/-- The assignment of the operations. -/
def operations (t : Table Record) : List Char :=
  match t.entries with
  | [] => "op = \x7b\x7d\n".toList
  | es => "op = \x7b\n".toList ++ es.flatMap entry ++ "\x7d\n".toList

/-- The lines in front of the assignments. -/
def heading : List Char :=
  "# This file is auto generated by numweld (metadata format v".toList ++
    Nat.toDigits 10 formatVersion ++ ")\nimport numpy as np\n\n".toList

/-- The call that makes a type of its name. -/
def typeCall (name : String) : List Char := "np.dtype(".toList ++ literal name ++ [')']

/-- The whole text of a module. -/
def text (m : Module) : List Char :=
  heading ++ operations m.ops ++ ['\n'] ++ "numpy_types = ".toList ++
    listDisplay (m.types.map typeCall) ++ ['\n']

end BindingPipeline.Metadata.PythonText
