/-
BindingPipeline/Toml/Document.lean

Reading a TOML document: values in brackets, entries, headers, lines.
-/
import BindingPipeline.Toml.Number
import BindingPipeline.Toml.Outline

namespace BindingPipeline.Toml

/-! ### Values -/

/-- The elements of a list behind its opening bracket; they may stand on several lines, and a comma may
follow the last. -/
def elements (item : Reader Value) : Nat → Reader (List Value)
  | 0, _ => none
  | n + 1, s =>
    match skipLines (s.length + 1) s with
    | ']' :: r => some ([], r)
    | s => do
      let (v, r) ← item s
      match skipLines (r.length + 1) r with
      | ']' :: r => some ([v], r)
      | ',' :: r => do
        let (vs, r) ← elements item n r
        some (v :: vs, r)
      | _ => none

/-- The entries of a table in braces behind the opening one; they stand on one line, and no comma
follows the last. -/
def inlineEntries (item : Reader Value) : Nat → Entries → Reader Entries
  | 0, _, _ => none
  | n + 1, es, s => do
    let ((path, name), r) ← key s
    match r with
    | '=' :: r =>
      let (v, r) ← item (skipBlanks r)
      let es ← es.put path name v
      match skipBlanks r with
      | '\x7d' :: r => some (es, r)
      | ',' :: r => inlineEntries item n es r
      | _ => none
    | _ => none

/-- A table in braces behind the opening one. -/
def inlineTable (item : Reader Value) : Reader Value := fun s =>
  match skipBlanks s with
  | '\x7d' :: r => some (.table [], r)
  | s => do
    let (es, r) ← inlineEntries item (s.length + 1) [] s
    some (.table (toTable es), r)

/-- Any value, inside which fewer than `budget` brackets may be open at once. -/
def anyValue : Nat → Reader Value
  | 0, _ => none
  | budget + 1, s =>
    match s with
    | '[' :: r =>
      if budget = 0 then none
      else do
        let (vs, r) ← elements (anyValue budget) (r.length + 1) r
        some (.list vs, r)
    | '\x7b' :: r => if budget = 0 then none else inlineTable (anyValue budget) r
    | '"' :: _ => do
      let (t, r) ← text s
      some (.text t, r)
    | '\'' :: _ => do
      let (t, r) ← text s
      some (.text t, r)
    | 't' :: 'r' :: 'u' :: 'e' :: r => some (.bool true, r)
    | 'f' :: 'a' :: 'l' :: 's' :: 'e' :: r => some (.bool false, r)
    | s => number s

/-! ### Lines -/

/-- An entry of the current table, up to the end of its line. -/
def entry (o : Outline) : Reader Outline := fun s => do
  let ((path, name), r) ← key s
  match r with
  | '=' :: r =>
    let (v, r) ← anyValue nestingLimit (skipBlanks r)
    let r ← lineEnd? r
    some (← o.put path name v, r)
  | _ => none

/-- A header, up to the end of its line. -/
def header (o : Outline) : Reader Outline
  | '[' :: '[' :: r => do
    let ((path, name), r) ← key r
    match r with
    | ']' :: ']' :: r =>
      let r ← lineEnd? r
      some (← o.openElement path name, r)
    | _ => none
  | '[' :: r => do
    let ((path, name), r) ← key r
    match r with
    | ']' :: r =>
      let r ← lineEnd? r
      some (← o.openTable path name, r)
    | _ => none
  | _ => none

/-- The lines of a document, at most that many. -/
def lines : Nat → Outline → List Char → Option Outline
  | 0, _, _ => none
  | n + 1, o, s =>
    match skipBlanks s with
    | [] => some o
    | '#' :: r => do lines n o (← lineEnd? ('#' :: r))
    | '[' :: r => do
      let (o, r) ← header o ('[' :: r)
      lines n o r
    | r =>
      match newline? r with
      | some r => lines n o r
      | none => do
        let (o, r) ← entry o r
        lines n o r

/-- The table that a document is, if it is one.  A byte order mark at its front does not count. -/
def ofText? (source : String) : Option Table := do
  let s := match source.toList with
    | '\ufeff' :: r => r
    | s => s
  let o ← lines (s.length + 1) Outline.blank s
  some (toTable (← o.close))

end BindingPipeline.Toml
