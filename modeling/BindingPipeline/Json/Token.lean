/-
BindingPipeline/Json/Token.lean

The leaves of the JSON grammar: blanks, words, numbers and strings.  Each reader takes what is left of
the text and gives back what it has read with the rest.
-/
import BindingPipeline.Json.Fault
import BindingPipeline.Json.Number
import BindingPipeline.Text.Digit

namespace BindingPipeline.Json

/-- A step through a text: what it reads, and what is left. -/
abbrev Reader (α : Type) := StateT (List Char) (Except Failure) α

/-- Is the character one of the four blanks of the grammar? -/
def isBlank (c : Char) : Bool := c == ' ' || c == '\t' || c == '\n' || c == '\r'

/-- The text behind its leading blanks. -/
def skipBlanks (s : List Char) : List Char := s.dropWhile isBlank

/-- The rest of a word whose first letter has been seen. -/
def word : List Char → Reader Unit
  | [], s => .ok ((), s)
  | _ :: _, [] => .error (.located .endInValue 0)
  | c :: w, d :: r => if c = d then word w r else .error (.next .noWord (d :: r))

/-! ### Numbers -/

/-- The digit that a character stands for. -/
def digit? (c : Char) : Option Digit :=
  if h : 48 ≤ c.toNat ∧ c.toNat < 58 then some ⟨c.toNat - 48, by omega⟩ else none

/-- The digits at the front of a text, and the text behind them. -/
def digits : List Char → List Digit × List Char
  | [] => ([], [])
  | c :: r =>
    match digit? c with
    | some d => (d :: (digits r).1, (digits r).2)
    | none => ([], c :: r)

/-- The number that a sequence of digits spells. -/
def ofDigits (ds : List Digit) : Nat := ds.foldl (fun n d => n * 10 + d.val) 0

/-- The digits in front of the point.  A zero stands alone.  `atEnd` is the fault of a text that ends
too early. -/
def wholePart (atEnd : Cause) : Reader Nat
  | [] => .error (.located atEnd 0)
  | c :: r =>
    match digit? c with
    | none => .error (.next .badNumber (c :: r))
    | some d =>
      if d = 0 then
        match (digits r).1 with
        | [] => .ok (0, r)
        | _ :: _ => .error (.next .badNumber r)
      else .ok (ofDigits (d :: (digits r).1), (digits r).2)

/-- At least one digit. -/
def someDigits (atEnd : Cause) : Reader (Digit × List Digit) := fun s =>
  match digits s with
  | (d :: ds, r) => .ok ((d, ds), r)
  | ([], []) => .error (.located atEnd 0)
  | ([], r) => .error (.next .badNumber r)

/-- The point and the digits behind it, if a point follows. -/
def fractionPart (atEnd : Cause) : Reader (List Digit)
  | '.' :: r => do
    let ((d, ds), r) ← someDigits atEnd r
    .ok (d :: ds, r)
  | s => .ok ([], s)

/-- The exponent, if its mark follows. -/
def exponentPart (atEnd : Cause) : Reader (Option Exponent)
  | c :: r =>
    if c = 'e' ∨ c = 'E' then do
      let (sign, r) : Option Bool × List Char := match r with
        | '+' :: r => (some false, r)
        | '-' :: r => (some true, r)
        | r => (none, r)
      let ((d, ds), r) ← someDigits atEnd r
      .ok (some ⟨c == 'E', sign, d, ds⟩, r)
    else .ok (none, c :: r)
  | [] => .ok (none, [])

/-- A number as it is written. -/
def numeral (atEnd : Cause) : Reader Numeral := fun s => do
  let (negative, s) := match s with
    | '-' :: r => (true, r)
    | s => (false, s)
  let (whole, s) ← wholePart atEnd s
  let (fraction, s) ← fractionPart atEnd s
  let (exponent, s) ← exponentPart atEnd s
  .ok (⟨negative, whole, fraction, exponent⟩, s)

/-- A number as it is understood. -/
def number : Reader Number := fun s => do
  let (n, r) ← numeral .endInValue s
  match n.number with
  | .ok n => .ok (n, r)
  | .error left => .error (.located .numberOutOfRange (byteLength r + left))

/-! ### Strings -/

/-- The unit that four hexadecimal digits spell. -/
def hexUnit? (cs : List Char) : Option Nat := (cs.mapM Text.hexDigit?).map (Text.ofDigits 16)

/-- What is left of a text, shorter than it was. -/
abbrev Shorter (s : List Char) := { r : List Char // r.length < s.length }

/-- The four hexadecimal digits of an escape.  Four bytes are read before they are looked at. -/
def hexEscape (s : List Char) : Except Failure (Nat × Shorter s) :=
  -- Fewer than four characters may still be four bytes, and are then a bad escape.
  if h : s.length < 4 then
    if byteLength s < 4 then .error (.located .endInText 0)
    else .error (.located .badEscape (byteLength s - 4))
  else
    match hexUnit? (s.take 4) with
    | some n => .ok (n, ⟨s.drop 4, by rw [List.length_drop]; omega⟩)
    | none => .error (.located .badEscape (byteLength s - 4))

/-- Is the unit the first half of a pair? -/
def isHighSurrogate (n : Nat) : Bool := 0xD800 ≤ n && n < 0xDC00

/-- Is the unit the second half of a pair? -/
def isLowSurrogate (n : Nat) : Bool := 0xDC00 ≤ n && n < 0xE000

/-- The character of a pair of units. -/
def pairChar (high low : Nat) : Char := Char.ofNat (0x10000 + (high - 0xD800) * 1024 + (low - 0xDC00))

/-- The second half of a pair, whose first half has been read. -/
def secondHalf (high : Nat) (s : List Char) : Except Failure (Char × Shorter s) :=
  match s with
  | [] => .error (.located .endInText 0)
  | '\\' :: [] => .error (.located .endInText 0)
  | '\\' :: 'u' :: r => do
    let (low, ⟨r', h⟩) ← hexEscape r
    if isLowSurrogate low then .ok (pairChar high low, ⟨r', by simp; omega⟩)
    else .error (.after .loneSurrogate r')
  | '\\' :: r => .error (.next .escapeCutShort r)
  | r => .error (.next .escapeCutShort r)

/-- The character that an escape stands for; `s` is what follows the backslash.  Units that are halves
of a pair are put together only if `paired`; a half that is passed over counts as one character. -/
def escape (paired : Bool) (s : List Char) : Except Failure (Char × Shorter s) :=
  match s with
  | [] => .error (.located .endInText 0)
  | c :: r =>
    let plain (d : Char) : Except Failure (Char × Shorter (c :: r)) := .ok (d, ⟨r, by simp⟩)
    match c with
    | '"' => plain '"'
    | '\\' => plain '\\'
    | '/' => plain '/'
    | 'b' => plain '\x08'
    | 'f' => plain '\x0c'
    | 'n' => plain '\n'
    | 'r' => plain '\r'
    | 't' => plain '\t'
    | 'u' => do
      let (n, ⟨r', h⟩) ← hexEscape r
      -- The first half needs its second one right behind it, and the second half cannot come first.
      if isHighSurrogate n && paired then
        let (d, ⟨r'', h'⟩) ← secondHalf n r'
        .ok (d, ⟨r'', by simp; omega⟩)
      else if isLowSurrogate n && paired then .error (.after .loneSurrogate r')
      else if isHighSurrogate n || isLowSurrogate n then .ok ('\ufffd', ⟨r', by simp; omega⟩)
      else .ok (Char.ofNat n, ⟨r', by simp; omega⟩)
    | _ => .error (.next .badEscape (c :: r))

/-- The characters of a string up to its closing quote; the opening one has been read. -/
def textBody (paired : Bool) (s : List Char) : Except Failure (List Char × List Char) :=
  match s with
  | [] => .error (.located .endInText 0)
  | c :: r =>
    if c = '"' then .ok ([], r)
    else if c = '\\' then do
      let (d, ⟨r', _⟩) ← escape paired r
      let (ds, rest) ← textBody paired r'
      .ok (d :: ds, rest)
    else if c.toNat < 32 then .error (.after .controlInText r)
    else do
      let (ds, rest) ← textBody paired r
      .ok (c :: ds, rest)
termination_by s.length
decreasing_by
  · simp; omega
  · simp

/-- A string whose opening quote has been read. -/
def text : Reader String := fun s => do
  let (cs, r) ← textBody true s
  .ok (String.ofList cs, r)

/-- The text behind a string whose opening quote has been read. -/
def skipText (s : List Char) : Except Failure (List Char) := do
  let (_, r) ← textBody false s
  .ok r

end BindingPipeline.Json
