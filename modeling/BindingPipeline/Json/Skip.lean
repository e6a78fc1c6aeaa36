/-
BindingPipeline/Json/Skip.lean

Passing over a value that nobody asks for.  Its grammar is checked and its contents are not looked at.
The open brackets are kept on a list, so nesting has no limit.
-/
import BindingPipeline.Json.Token

namespace BindingPipeline.Json

/-- A bracket that is open. -/
inductive Bracket
  | list
  | object
  deriving DecidableEq, Repr

/-- The character that closes a bracket. -/
def Bracket.closing : Bracket → Char
  | list => ']'
  | object => '\x7d'

/-- The fault of a text that ends inside the bracket. -/
def Bracket.atEnd : Bracket → Cause
  | list => .endInList
  | object => .endInObject

/-- The fault of an element or member that is followed by neither a comma nor the end. -/
def Bracket.noComma : Bracket → Cause
  | list => .noCommaOrBracket
  | object => .noCommaOrBrace

/-- A number, whatever its size. -/
def skipNumber (s : List Char) : Except Failure (List Char) := do
  let (_, r) ← numeral .badNumber s
  .ok r

/-- The name of a member and the colon behind it. -/
def skipName (s : List Char) : Except Failure (List Char) :=
  match skipBlanks s with
  | [] => .error (.located .endInObject 0)
  | '"' :: r => do
    let r ← skipText r
    match skipBlanks r with
    | [] => .error (.located .endInObject 0)
    | ':' :: r => .ok r
    | r => .error (.next .noColon r)
  | r => .error (.next .keyNotText r)

/-- What may come next: a value, the first element or the end, or a comma or the end. -/
inductive Turn
  | value
  | first
  | next
  deriving DecidableEq, Repr

/-- Where the passing stands: what may come next, the open brackets, and what is left of the text. -/
structure Passing where
  turn : Turn
  openBrackets : List Bracket
  rest : List Char

/-- The start of an element or member: a member has a name first. -/
def Passing.enter (b : Bracket) (bs : List Bracket) (s : List Char) : Except Failure Passing :=
  match b with
  | .list => .ok ⟨.value, b :: bs, s⟩
  | .object => do .ok ⟨.value, b :: bs, ← skipName s⟩

/-- One step: a scalar, a bracket or a comma. -/
def Passing.step (p : Passing) : Except Failure Passing :=
  match p.turn, p.openBrackets, skipBlanks p.rest with
  -- a value has to come
  | .value, _, [] => .error (.located .endInValue 0)
  | .value, bs, c :: r =>
    match c with
    | 'n' => do .ok ⟨.next, bs, (← word ['u', 'l', 'l'] r).2⟩
    | 't' => do .ok ⟨.next, bs, (← word ['r', 'u', 'e'] r).2⟩
    | 'f' => do .ok ⟨.next, bs, (← word ['a', 'l', 's', 'e'] r).2⟩
    | '"' => do .ok ⟨.next, bs, ← skipText r⟩
    | '[' => .ok ⟨.first, .list :: bs, r⟩
    | '\x7b' => .ok ⟨.first, .object :: bs, r⟩
    | c =>
      if c = '-' ∨ (digit? c).isSome then do .ok ⟨.next, bs, ← skipNumber (c :: r)⟩
      else .error (.next .noValue (c :: r))
  -- no bracket is open: the value is complete
  | _, [], s => .ok ⟨.next, [], s⟩
  | _, b :: _, [] => .error (.located b.atEnd 0)
  -- the first element comes, or the bracket ends at once
  | .first, b :: bs, c :: r =>
    if c = b.closing then .ok ⟨.next, bs, r⟩ else Passing.enter b bs (c :: r)
  -- behind an element: the bracket ends, or a comma and another element
  | .next, b :: bs, c :: r =>
    if c = b.closing then .ok ⟨.next, bs, r⟩
    else if c = ',' then Passing.enter b bs r
    else .error (.next b.noComma (c :: r))

/-- Is the value passed over? -/
def Passing.isDone (p : Passing) : Bool := p.turn == .next && p.openBrackets.isEmpty

/-- At most that many steps, up to the end of the value. -/
def Passing.run : Nat → Passing → Except Failure (List Char)
  | 0, p => .ok p.rest
  | n + 1, p => if p.isDone then .ok p.rest else do (← p.step).run n

/-- The text behind a value.  No step but the one into a list leaves the text as it is, and such steps
do not follow each other, so twice the length is enough of them. -/
def skipValue : Reader Unit := fun s => do
  .ok ((), ← Passing.run (2 * s.length + 2) ⟨.value, [], s⟩)

end BindingPipeline.Json
