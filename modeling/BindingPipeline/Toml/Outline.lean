/-
BindingPipeline/Toml/Outline.lean

Tables while a document is still being read.  How a table came to be decides what may still be added
to it: one that only lies on the way to another may be opened by a header later, one that dotted
keys made may only be extended by dotted keys, and a value is closed.
-/
import BindingPipeline.Toml.Value

namespace BindingPipeline.Toml

/-- An entry of an unfinished table.  A table is passing if only longer names lead through it so far,
and dotted if the keys of another table made it; a list of tables grows with every header. -/
inductive Item
  | value (v : Value)
  | table (passing dotted : Bool) (entries : List (String × Item))
  | tables (elements : List Item)

/-- The entries of an unfinished table. -/
abbrev Entries := List (String × Item)

namespace Entries

/-- The entry of a name. -/
def find? (es : Entries) (k : String) : Option Item := es.lookup k

/-- The entries with one of them changed. -/
def replace (es : Entries) (k : String) (i : Item) : Entries :=
  es.map fun e => if e.1 == k then (k, i) else e

/-- The entries without one of them. -/
def erase (es : Entries) (k : String) : Entries := es.filter (·.1 != k)

/-- The change `f` made to the table at the end of a way, together with what `f` reports.  A table that
does not exist is made.  `f` is told whether the table is dotted.  On a dotted way only passing tables
may be entered; of a list of tables the last one is. -/
def atPath {α : Type} (dotted : Bool) (f : Bool → Entries → Option (α × Entries)) :
    List String → Bool → Entries → Option (α × Entries)
  | [], isDotted, es => f isDotted es
  | k :: ks, _, es =>
    match es.find? k with
    -- A table that is not there yet comes to be on the way.
    | none => do
      let (a, inner) ← atPath dotted f ks dotted []
      some (a, es ++ [(k, .table true dotted inner)])
    | some (.value _) => none
    | some (.table passing isDotted inner) =>
      -- A dotted key cannot reach into a table that has a header of its own.
      if dotted ∧ passing = false then none
      else do
        let (a, inner) ← atPath dotted f ks isDotted inner
        some (a, es.replace k (.table passing isDotted inner))
    | some (.tables elements) =>
      -- The way through a list of tables leads into the last of them.
      match elements.getLast? with
      | some (.table passing isDotted inner) => do
        let (a, inner) ← atPath dotted f ks isDotted inner
        some (a, es.replace k (.tables (elements.dropLast ++ [.table passing isDotted inner])))
      | _ => none

/-- A value put under a key.  The table that gets it must be a dotted one if the key has points, and
must not be if it has none; the name must be new to it. -/
def put (es : Entries) (path : List String) (name : String) (v : Value) : Option Entries :=
  (atPath true (fun isDotted inner =>
    if isDotted = path.isEmpty ∨ (inner.find? name).isSome then none
    else some ((), inner ++ [(name, .value v)])) path false es).map Prod.snd

end Entries

/-! ### Finished tables -/

mutual

/-- The value that an entry has become. -/
def Item.toValue : Item → Value
  | .value v => v
  | .table _ _ es => .table (toTable es)
  | .tables items => .list (toValues items)
termination_by structural i => i

/-- The entries as values. -/
def toTable : List (String × Item) → Table
  | [] => []
  | e :: es => toEntry e :: toTable es
termination_by structural es => es

/-- One entry as a value. -/
def toEntry : String × Item → String × Value
  | (k, i) => (k, i.toValue)
termination_by structural e => e

/-- The elements as values. -/
def toValues : List Item → List Value
  | [] => []
  | i :: is => i.toValue :: toValues is
termination_by structural is => is

end

/-! ### Headers -/

/-- A document as far as it has been read: the tables that are complete, and the one whose entries come
now, with the way that its header gives and whether it is an element of a list. -/
structure Outline where
  root : Entries
  current : Entries
  header : Option (List String × String × Bool)

/-- The outline of an empty document. -/
def Outline.blank : Outline := ⟨[], [], none⟩

/-- All tables, the current one put in its place. -/
def Outline.close (o : Outline) : Option Entries :=
  match o.header with
  | none => some o.current
  | some (path, name, isElement) =>
    (Entries.atPath false (fun _ es =>
      let item := Item.table false false o.current
      match es.find? name, isElement with
      | none, false => some ((), es ++ [(name, item)])
      | some (.tables elements), true => some ((), es.replace name (.tables (elements ++ [item])))
      | _, _ => none) path false o.root).map Prod.snd

/-- The header of a table.  A table that was only passed through so far is opened with what it holds,
and takes its place behind the others again. -/
def Outline.openTable (o : Outline) (path : List String) (name : String) : Option Outline := do
  let root ← o.close
  let (held, root) ← Entries.atPath false (fun _ es =>
    match es.find? name with
    | none => some ([], es)
    | some (.table true false held) => some (held, es.erase name)
    | some _ => none) path false root
  some ⟨root, held, some (path, name, false)⟩

/-- The header of an element of a list of tables. -/
def Outline.openElement (o : Outline) (path : List String) (name : String) : Option Outline := do
  let root ← o.close
  let (_, root) ← Entries.atPath false (fun _ es =>
    match es.find? name with
    | none => some ((), es ++ [(name, .tables [])])
    | some (.tables _) => some ((), es)
    | some _ => none) path false root
  some ⟨root, [], some (path, name, true)⟩

/-- An entry of the current table. -/
def Outline.put (o : Outline) (path : List String) (name : String) (v : Value) : Option Outline := do
  some { o with current := ← o.current.put path name v }

end BindingPipeline.Toml
