/-
BindingPipeline/Json/Printer.lean

The two written forms of a JSON value: compact, without any blank, and laid out, with one element or
member a line.  Both escape only what must be escaped: the quote, the backslash and the
control characters below the space.
-/
import BindingPipeline.Json.Value

namespace BindingPipeline.Json

/-- The digit as a character. -/
def Digit.char (d : Digit) : Char := Char.ofNat (48 + d.val)

/-- The written form of an exponent. -/
def Exponent.render (e : Exponent) : List Char :=
  (if e.capital then 'E' else 'e') ::
    ((match e.sign with
      | none => []
      | some true => ['-']
      | some false => ['+']) ++ e.first.char :: e.more.map Digit.char)

/-- The written form of a number. -/
def Numeral.render (n : Numeral) : List Char :=
  (if n.negative then ['-'] else []) ++ Nat.toDigits 10 n.whole ++
    (if n.fraction.isEmpty then [] else '.' :: n.fraction.map Digit.char) ++
    (match n.exponent with
      | none => []
      | some e => e.render)

/-- One character inside a string. -/
def escapeChar (c : Char) : List Char :=
  match c with
  | '"' => ['\\', '"']
  | '\\' => ['\\', '\\']
  | '\n' => ['\\', 'n']
  | '\r' => ['\\', 'r']
  | '\t' => ['\\', 't']
  | '\x08' => ['\\', 'b']
  | '\x0c' => ['\\', 'f']
  | c =>
    if c.toNat < 32 then
      ['\\', 'u', '0', '0', Nat.digitChar (c.toNat / 16), Nat.digitChar (c.toNat % 16)]
    else [c]

/-- A string between its quotes. -/
def renderText (s : String) : List Char := '"' :: s.toList.flatMap escapeChar ++ ['"']

/-- The word for a truth value. -/
def renderBool (b : Bool) : List Char := if b then ['t', 'r', 'u', 'e'] else ['f', 'a', 'l', 's', 'e']

/-! ### The compact form -/

mutual

/-- The value without any blank. -/
def Value.compact : Value → List Char
  | .null => ['n', 'u', 'l', 'l']
  | .bool b => renderBool b
  | .number n => n.render
  | .text s => renderText s
  | .list [] => ['[', ']']
  | .list (v :: vs) => '[' :: v.compact ++ compactItems vs ++ [']']
  | .object [] => ['\x7b', '\x7d']
  | .object (m :: ms) => '\x7b' :: compactMember m ++ compactMembers ms ++ ['\x7d']
termination_by structural v => v

/-- The elements after the first, each behind a comma. -/
def compactItems : List Value → List Char
  | [] => []
  | v :: vs => ',' :: v.compact ++ compactItems vs
termination_by structural vs => vs

/-- One member. -/
def compactMember : String × Value → List Char
  | (k, v) => renderText k ++ ':' :: v.compact
termination_by structural m => m

/-- The members after the first, each behind a comma. -/
def compactMembers : List (String × Value) → List Char
  | [] => []
  | m :: ms => ',' :: compactMember m ++ compactMembers ms
termination_by structural ms => ms

end

/-! ### The laid-out form -/

/-- A new line, indented by two spaces for each open bracket. -/
def freshLine (depth : Nat) : List Char := '\n' :: List.replicate (2 * depth) ' '

mutual

/-- The value with one element or member a line, inside that many brackets. -/
def Value.pretty (depth : Nat) : Value → List Char
  | .null => ['n', 'u', 'l', 'l']
  | .bool b => renderBool b
  | .number n => n.render
  | .text s => renderText s
  | .list [] => ['[', ']']
  | .list (v :: vs) =>
    '[' :: freshLine (depth + 1) ++ v.pretty (depth + 1) ++ prettyItems (depth + 1) vs ++
      freshLine depth ++ [']']
  | .object [] => ['\x7b', '\x7d']
  | .object (m :: ms) =>
    '\x7b' :: freshLine (depth + 1) ++ prettyMember (depth + 1) m ++ prettyMembers (depth + 1) ms ++
      freshLine depth ++ ['\x7d']
termination_by structural v => v

/-- The elements after the first. -/
def prettyItems (depth : Nat) : List Value → List Char
  | [] => []
  | v :: vs => ',' :: freshLine depth ++ v.pretty depth ++ prettyItems depth vs
termination_by structural vs => vs

/-- One member. -/
def prettyMember (depth : Nat) : String × Value → List Char
  | (k, v) => renderText k ++ ':' :: ' ' :: v.pretty depth
termination_by structural m => m

/-- The members after the first. -/
def prettyMembers (depth : Nat) : List (String × Value) → List Char
  | [] => []
  | m :: ms => ',' :: freshLine depth ++ prettyMember depth m ++ prettyMembers depth ms
termination_by structural ms => ms

end

end BindingPipeline.Json
