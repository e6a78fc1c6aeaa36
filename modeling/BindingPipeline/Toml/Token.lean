/-
BindingPipeline/Toml/Token.lean

The leaves of the TOML grammar: blanks and line ends, comments, strings and keys.  A reader takes what
is left of the text and gives back what it reads with the rest, or nothing where the text is wrong.
-/
import BindingPipeline.Text.Digit

namespace BindingPipeline.Toml

/-- A step through a text. -/
abbrev Reader (α : Type) := StateT (List Char) Option α

/-- Is the character a blank inside a line? -/
def isBlank (c : Char) : Bool := c == ' ' || c == '\t'

/-- May the character stand in a comment or literal string?  All controls but the tab are excluded. -/
def isShown (c : Char) : Bool := c == '\t' || (32 ≤ c.toNat && c.toNat ≠ 127)

/-- The text behind its leading blanks. -/
def skipBlanks (s : List Char) : List Char := s.dropWhile isBlank

/-- A line end: a line feed, perhaps behind a carriage return. -/
def newline? : List Char → Option (List Char)
  | '\n' :: r => some r
  | '\r' :: '\n' :: r => some r
  | _ => none

/-- The text behind a comment, if one starts here. -/
def skipComment : List Char → List Char
  | '#' :: r => r.dropWhile isShown
  | s => s

/-- Blanks, a comment and the end of the line or of the text. -/
def lineEnd? (s : List Char) : Option (List Char) :=
  match skipComment (skipBlanks s) with
  | [] => some []
  | r => newline? r

/-- The text behind blanks, comments and line ends. -/
def skipLines : Nat → List Char → List Char
  | 0, s => s
  | n + 1, s =>
    match skipBlanks s with
    | '#' :: r =>
      match newline? (r.dropWhile isShown) with
      | some r => skipLines n r
      | none => r.dropWhile isShown
    | r =>
      match newline? r with
      | some r => skipLines n r
      | none => r

/-! ### Strings -/

/-- The character with that number in that many hexadecimal digits. -/
def scalar (count : Nat) : Reader Char := fun s => do
  let digits ← (s.take count).mapM Text.hexDigit?
  let n := Text.ofDigits 16 digits
  if digits.length = count ∧ n.isValidChar then some (Char.ofNat n, s.drop count) else none

/-- The character that an escape stands for, behind the backslash. -/
def escape : Reader Char
  | 'b' :: r => some ('\x08', r)
  | 'f' :: r => some ('\x0c', r)
  | 'n' :: r => some ('\n', r)
  | 'r' :: r => some ('\r', r)
  | 't' :: r => some ('\t', r)
  | '"' :: r => some ('"', r)
  | '\\' :: r => some ('\\', r)
  | 'u' :: r => scalar 4 r
  | 'U' :: r => scalar 8 r
  | _ => none

/-- A basic string behind its opening quote. -/
def basicBody : Nat → Reader (List Char)
  | 0, _ => none
  | _, [] => none
  | n + 1, c :: r =>
    if c = '"' then some ([], r)
    else do
      let (d, r) ← if c = '\\' then escape r else if isShown c then some (c, r) else none
      let (ds, r) ← basicBody n r
      some (d :: ds, r)

/-- A literal string behind its opening apostrophe. -/
def literalBody (s : List Char) : Option (List Char × List Char) :=
  let body := s.takeWhile fun c => isShown c && c != '\''
  match s.drop body.length with
  | '\'' :: r => some (body, r)
  | _ => none

/-- The quotes at the front of a text that stands in a string of several lines, and what is behind
them: fewer than three belong to the string; three end it, and up to two before them belong to it. -/
def quoteRun (quote : Char) (s : List Char) : List Char × Bool × List Char :=
  let count := (s.takeWhile (· == quote)).length
  if count < 3 then (List.replicate count quote, false, s.drop count)
  else
    let inside := min (count - 3) 2
    (List.replicate inside quote, true, s.drop (inside + 3))

/-- The text behind a backslash that joins lines, if it does. -/
def joinedLines? (s : List Char) : Option (List Char) := do
  let r ← newline? (skipBlanks s)
  some (r.dropWhile fun c => isBlank c || c == '\n' || c == '\r')

/-- Do the carriage returns among the blanks and line ends at the front each stand before a line
feed? -/
def joinsCleanly : List Char → Bool
  | '\r' :: '\n' :: r => joinsCleanly r
  | '\r' :: _ => false
  | c :: r => if isBlank c || c == '\n' then joinsCleanly r else true
  | [] => true

/-- A string of several lines behind its opening quotes; only in one of quotes a backslash has a
meaning. -/
def linesBody (quote : Char) : Nat → Reader (List Char)
  | 0, _ => none
  | _, [] => none
  | n + 1, c :: r =>
    if c = quote then
      -- Up to two quotes may stand in front of the three that end the string.
      match quoteRun quote (c :: r) with
      | (quotes, true, r) => some (quotes, r)
      | (quotes, false, r) => do
        let (ds, r) ← linesBody quote n r
        some (quotes ++ ds, r)
    else if c = '\\' ∧ quote = '"' then
      -- A backslash at the end of a line joins it with the next text.
      match joinedLines? r with
      | some r' =>
        if joinsCleanly r then linesBody quote n r' else none
      | none => do
        let (d, r) ← escape r
        let (ds, r) ← linesBody quote n r
        some (d :: ds, r)
    else
      match newline? (c :: r) with
      | some r => do
        let (ds, r) ← linesBody quote n r
        some ('\n' :: ds, r)
      | none =>
        if isShown c then do
          let (ds, r) ← linesBody quote n r
          some (c :: ds, r)
        else none

/-- A string of one line, in quotes or apostrophes. -/
def lineText : Reader String
  | '"' :: r => do
    let (cs, r) ← basicBody (r.length + 1) r
    some (String.ofList cs, r)
  | '\'' :: r => do
    let (cs, r) ← literalBody r
    some (String.ofList cs, r)
  | _ => none

/-- A string of any kind.  A line end right behind three opening quotes does not count. -/
def text : Reader String := fun s =>
  let lines (quote : Char) (r : List Char) : Option (String × List Char) := do
    let r := (newline? r).getD r
    let (cs, r) ← linesBody quote (r.length + 1) r
    some (String.ofList cs, r)
  match s with
  | '"' :: '"' :: '"' :: r => lines '"' r
  | '\'' :: '\'' :: '\'' :: r => lines '\'' r
  | s => lineText s

/-! ### Keys -/

/-- May the character stand in a key without quotes? -/
def isBare (c : Char) : Bool :=
  c == '-' || c == '_' || (48 ≤ c.toNat && c.toNat < 58) || (65 ≤ c.toNat && c.toNat < 91) ||
    (97 ≤ c.toNat && c.toNat < 123)

/-- One part of a key. -/
def simpleKey : Reader String := fun s =>
  match s with
  | '"' :: _ => lineText s
  | '\'' :: _ => lineText s
  | s =>
    match s.takeWhile isBare with
    | [] => none
    | cs => some (String.ofList cs, s.drop cs.length)

/-- The parts of a key with points between them, and blanks around each. -/
def keyParts : Nat → Reader (List String)
  | 0, _ => none
  | n + 1, s => do
    let (k, r) ← simpleKey (skipBlanks s)
    match skipBlanks r with
    | '.' :: r => do
      let (ks, r) ← keyParts n r
      some (k :: ks, r)
    | r => some ([k], r)

/-- The number of parts that a key may not reach, and of brackets that may not be open at once. -/
def nestingLimit : Nat := 80

/-- A key: the tables it leads through, and the name at its end. -/
def key : Reader (List String × String) := fun s => do
  let (ks, r) ← keyParts nestingLimit s
  let last ← ks.getLast?
  if ks.length < nestingLimit then some ((ks.dropLast, last), r) else none

end BindingPipeline.Toml
