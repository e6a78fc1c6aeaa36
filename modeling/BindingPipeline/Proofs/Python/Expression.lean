/-
BindingPipeline/Proofs/Python/Expression.lean

Expressions and statements of Python source, as far as a module of data needs them: texts, numbers,
list and dictionary displays, calls of a dotted name with one argument; imports under another name, and
assignments.

Design.  Displays are nested without limit, so the reader keeps the displays that are open on a stack
and takes one token at a time; it has no recursion of its own.  Two operands in a row are refused, as is
a comma without an operand before it; a comma after the last operand is allowed.

Main statement: `reads_listDisplay` and its companions, which say that a display is read if its parts
are.
-/
import BindingPipeline.Proofs.Python.Token
import BindingPipeline.Proofs.Results

namespace BindingPipeline.Python

/-! ### The reader -/

/-- An expression.  A dictionary keeps its entries in the order in which they are written. -/
inductive Expr
  | text (s : String)
  | number (n : Nat)
  | list (es : List Expr)
  | dict (es : List (Expr × Expr))
  | call (function : List String) (argument : Expr)

/-- A display or a call that is open, with what it holds so far, last first. -/
inductive Frame
  | list (es : List Expr)
  | dict (es : List (Expr × Expr))
  | value (es : List (Expr × Expr)) (key : Expr)
  | call (function : List String)

/-- What may come next: an operand, the rest of a dotted name, or what follows the operand `e`. -/
inductive Position
  | operand (opened : List Frame)
  | dot (names : List String) (opened : List Frame)
  | member (names : List String) (opened : List Frame)
  | after (e : Expr) (opened : List Frame)

namespace Position

/-- One token more. -/
def step : Position → Token → Option Position
  | operand st, .text s => some (after (.text s) st)
  | operand st, .number n => some (after (.number n) st)
  | operand st, .name f => some (dot [f] st)
  | operand st, .mark '[' => some (operand (.list [] :: st))
  | operand st, .mark '\x7b' => some (operand (.dict [] :: st))
  | operand (.list es :: st), .mark ']' => some (after (.list es.reverse) st)
  | operand (.dict es :: st), .mark '\x7d' => some (after (.dict es.reverse) st)
  | dot f st, .mark '.' => some (member f st)
  | dot f st, .mark '(' => some (operand (.call f :: st))
  | member f st, .name n => some (dot (f ++ [n]) st)
  | after e (.list es :: st), .mark ',' => some (operand (.list (e :: es) :: st))
  | after e (.list es :: st), .mark ']' => some (after (.list (e :: es).reverse) st)
  | after e (.dict es :: st), .mark ':' => some (operand (.value es e :: st))
  | after e (.value es k :: st), .mark ',' => some (operand (.dict ((k, e) :: es) :: st))
  | after e (.value es k :: st), .mark '\x7d' => some (after (.dict ((k, e) :: es).reverse) st)
  | after e (.call f :: st), .mark ')' => some (after (.call f e) st)
  | _, _ => none

/-- Tokens one after the other. -/
def run (p : Position) (ts : List Token) : Option Position := ts.foldlM step p

@[simp] theorem run_nil (p : Position) : p.run [] = some p := rfl

@[simp] theorem run_cons (p : Position) (t : Token) (ts : List Token) :
    p.run (t :: ts) = (p.step t).bind (·.run ts) := by
  simp [run, List.foldlM_cons]

theorem run_append (p : Position) (ts ts' : List Token) :
    p.run (ts ++ ts') = (p.run ts).bind (·.run ts') := by
  simp [run, List.foldlM_append]

end Position

/-- The expression of a list of tokens. -/
def expression (ts : List Token) : Option Expr :=
  match (Position.operand []).run ts with
  | some (.after e []) => some e
  | _ => none

/-- A statement. -/
inductive Statement
  | imports (library name : String)
  | assigns (name : String) (value : Expr)

/-- The statement of a logical line. -/
def statement : List Token → Option Statement
  | [.name "import", .name library, .name "as", .name name] => some (.imports library name)
  | .name name :: .mark '=' :: ts => (expression ts).map (.assigns name)
  | _ => none

/-- The statements of a program. -/
def program (text : String) : Option (List Statement) := do (← scan text.toList).mapM statement

/-! ### Pieces of a line -/

/-- Wherever a token may begin, the characters are scanned to these tokens. -/
def Scans (cs : List Char) (ts : List Token) : Prop :=
  ∀ lines line depth, (⟨lines, line, depth, .between⟩ : Scanner).run cs =
    some ⟨lines, ts.reverse ++ line, depth, .between⟩

/-- Inside a bracket the characters are scanned to these tokens. -/
def ScansInside (cs : List Char) (ts : List Token) : Prop :=
  ∀ lines line depth, (⟨lines, line, depth + 1, .between⟩ : Scanner).run cs =
    some ⟨lines, ts.reverse ++ line, depth + 1, .between⟩

theorem Scans.inside {cs : List Char} {ts : List Token} (h : Scans cs ts) : ScansInside cs ts :=
  fun lines line depth => h lines line (depth + 1)

theorem ScansInside.append {cs cs' : List Char} {ts ts' : List Token} (h : ScansInside cs ts)
    (h' : ScansInside cs' ts') : ScansInside (cs ++ cs') (ts ++ ts') := by
  intro lines line depth
  rw [Scanner.run_append, h, Option.bind_some, h']
  simp

/-- What is between brackets is scanned inside them; the brackets may then stand anywhere. -/
theorem ScansInside.bracket {cs : List Char} {ts : List Token} (h : ScansInside cs ts)
    {o c : Char} (hoc : o = '(' ∧ c = ')' ∨ o = '[' ∧ c = ']' ∨ o = '\x7b' ∧ c = '\x7d') :
    Scans (o :: cs ++ [c]) (.mark o :: ts ++ [.mark c]) := by
  intro lines line depth
  have hopen : (⟨lines, line, depth, .between⟩ : Scanner).step o =
      some ⟨lines, .mark o :: line, depth + 1, .between⟩ := by
    rcases hoc with ⟨rfl, -⟩ | ⟨rfl, -⟩ | ⟨rfl, -⟩ <;> rfl
  have hclose : ∀ line', (⟨lines, line', depth + 1, .between⟩ : Scanner).run [c] =
      some ⟨lines, .mark c :: line', depth, .between⟩ := by
    intro line'
    rcases hoc with ⟨-, rfl⟩ | ⟨-, rfl⟩ | ⟨-, rfl⟩ <;> rfl
  rw [List.cons_append, Scanner.run_cons, hopen, Option.bind_some, Scanner.run_append, h,
    Option.bind_some, hclose]
  simp

/-- Wherever an operand may come, the tokens are the operand `e`. -/
def Parses (ts : List Token) (e : Expr) : Prop :=
  ∀ st, (Position.operand st).run ts = some (.after e st)

theorem expression_of_parses {ts : List Token} {e : Expr} (h : Parses ts e) :
    expression ts = some e := by
  rw [expression, h]

/-- The characters are the expression `e`, wherever an operand may come. -/
def Reads (cs : List Char) (e : Expr) : Prop := ∃ ts, Scans cs ts ∧ Parses ts e

open Metadata.PythonText (literal separated listDisplay typeCall)

theorem scans_literal (s : String) : Scans (literal s) [.text s] := by
  intro lines line depth
  rw [← List.append_nil (literal s), Scanner.scan_literal]
  rfl

theorem reads_literal (s : String) : Reads (literal s) (.text s) :=
  ⟨[.text s], scans_literal s, fun _ => rfl⟩

/-- The items of a list display, up to and with the closing bracket. -/
theorem reads_separated {items : List (List Char)} {es : List Expr}
    (h : List.Forall₂ Reads items es) :
    ∃ ts, ScansInside (separated items) ts ∧ ∀ acc st,
      (Position.operand (.list acc :: st)).run (ts ++ [.mark ']']) =
        some (.after (.list (acc.reverse ++ es)) st) := by
  induction h with
  | nil => exact ⟨[], fun _ _ _ => rfl, fun acc st => by simp [Position.step]⟩
  | @cons item e items es hitem hitems ih =>
    obtain ⟨ts, hts, hparse⟩ := hitem
    cases hitems with
    | nil =>
      refine ⟨ts, hts.inside, fun acc st => ?_⟩
      rw [Position.run_append, hparse, Option.bind_some]
      simp [Position.step]
    | @cons item' e' items es hitem' hitems =>
      obtain ⟨ts', hts', hparse'⟩ := ih
      have hcomma : ScansInside [',', ' '] [.mark ','] := fun _ _ _ => rfl
      have hinside : ScansInside (separated (item :: item' :: items)) (ts ++ ([.mark ','] ++ ts')) :=
        hts.inside.append (hcomma.append hts')
      refine ⟨_, hinside, fun acc st => ?_⟩
      rw [List.append_assoc, Position.run_append, hparse, Option.bind_some, List.append_assoc,
        List.singleton_append, Position.run_cons]
      have hstep : (Position.after e (.list acc :: st)).step (.mark ',') =
          some (.operand (.list (e :: acc) :: st)) := rfl
      rw [hstep, Option.bind_some, hparse']
      simp

/-- A list display is read if its items are. -/
theorem reads_listDisplay {items : List (List Char)} {es : List Expr}
    (h : List.Forall₂ Reads items es) : Reads (listDisplay items) (.list es) := by
  obtain ⟨ts, hts, hparse⟩ := reads_separated h
  refine ⟨_, hts.bracket (.inr (.inl ⟨rfl, rfl⟩)), fun st => ?_⟩
  rw [List.cons_append, Position.run_cons]
  have hopen : (Position.operand st).step (.mark '[') = some (.operand (.list [] :: st)) := rfl
  rw [hopen, Option.bind_some, hparse]
  rfl

/-- A list display of items that are made one by one. -/
theorem reads_listDisplay_map {α : Type} {f : α → List Char} {g : α → Expr}
    (h : ∀ a, Reads (f a) (g a)) (as : List α) :
    Reads (listDisplay (as.map f)) (.list (as.map g)) := by
  refine reads_listDisplay ?_
  rw [List.forall₂_map_left_iff, List.forall₂_map_right_iff, List.forall₂_same]
  exact fun a _ => h a

end BindingPipeline.Python
