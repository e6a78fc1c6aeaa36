/-
BindingPipeline/Json/Reader.lean

Reading JSON for what it is wanted to be.  A reader asks for a kind of value; the first thing that is
not of that kind is reported where it stands, whatever follows it.
-/
import BindingPipeline.Json.Skip

namespace BindingPipeline.Json

/-- The number of brackets that may be open at once, and one more. -/
def bracketLimit : Nat := 128

/-- The value at the front of a text, described for a complaint; a list or object is not entered. -/
def describe : Reader Found
  | [] => .error (.located .noValue 0)
  | c :: r =>
    match c with
    | 'n' => do .ok (.null, (← word ['u', 'l', 'l'] r).2)
    | 't' => do .ok (.bool true, (← word ['r', 'u', 'e'] r).2)
    | 'f' => do .ok (.bool false, (← word ['a', 'l', 's', 'e'] r).2)
    | '"' => do
      let (s, r) ← text r
      .ok (.text s, r)
    | '[' => .ok (.sequence, c :: r)
    | '\x7b' => .ok (.map, c :: r)
    | c =>
      if c = '-' ∨ (digit? c).isSome then do
        let (n, r) ← number (c :: r)
        match n with
        | .natural n => .ok (.integer n, r)
        | .negative n => .ok (.integer n, r)
        | .float negative d => .ok (.float negative d, r)
      else .error (.next .noValue (c :: r))

/-- The complaint that the value at the front of a text is not what is wanted. -/
def refuse {α : Type} (wanted : String) : Reader α := fun s => do
  let (found, r) ← describe s
  .error (.after (.mismatch found wanted) r)

/-- A string. -/
def textValue : Reader String := fun s =>
  match skipBlanks s with
  | [] => .error (.located .endInValue 0)
  | '"' :: r => text r
  | r => refuse "a string" r

/-- A truth value. -/
def boolValue : Reader Bool := fun s =>
  match skipBlanks s with
  | [] => .error (.located .endInValue 0)
  | 't' :: r => do .ok (true, (← word ['r', 'u', 'e'] r).2)
  | 'f' :: r => do .ok (false, (← word ['a', 'l', 's', 'e'] r).2)
  | r => refuse "a boolean" r

/-- An integer of 32 bits without a sign. -/
def wordValue : Reader UInt32 := fun s =>
  match skipBlanks s with
  | [] => .error (.located .endInValue 0)
  | c :: r =>
    if c = '-' ∨ (digit? c).isSome then do
      let (n, r) ← number (c :: r)
      match n with
      | .natural n =>
        if n ≤ 4294967295 then .ok (UInt32.ofNat n, r) else .error (.after (.badInteger n "u32") r)
      | .negative n => .error (.after (.badInteger n "u32") r)
      | .float negative d => .error (.after (.mismatch (.float negative d) "u32") r)
    else refuse "u32" (c :: r)

/-! ### Lists -/

/-- Is there another element?  After the first one a comma comes before it. -/
def moreElements (isFirst : Bool) : Reader Bool := fun s =>
  match skipBlanks s with
  | [] => .error (.located .endInList 0)
  | ']' :: r => .ok (false, ']' :: r)
  | c :: r =>
    if isFirst then .ok (true, c :: r)
    else if c = ',' then
      match skipBlanks r with
      | [] => .error (.located .endInValue 0)
      | ']' :: r => .error (.next .trailingComma (']' :: r))
      | r => .ok (true, r)
    else .error (.next .noCommaOrBracket (c :: r))

/-- The elements of a list up to its closing bracket, at most that many. -/
def elements {α : Type} (item : Reader α) (isFirst : Bool) : Nat → Reader (List α)
  | 0, s => .ok ([], s)
  | n + 1, s => do
    let (more, s) ← moreElements isFirst s
    if more then
      let (a, s) ← item s
      let (as, s) ← elements item false n s
      .ok (a :: as, s)
    else .ok ([], s)

/-- The end of a list.  Behind a surplus element or comma the text is read on to where the surplus
shows. -/
def endList : Reader Unit := fun s =>
  match skipBlanks s with
  | [] => .error (.located .endInList 0)
  | ']' :: r => .ok ((), r)
  | ',' :: r =>
    match skipBlanks r with
    | ']' :: r => .error (.next .trailingComma (']' :: r))
    | r => .error (.next .trailingCharacters r)
  | r => .error (.next .trailingCharacters r)

/-- What is left when a bracket that holds a fault ends: blanks are passed over, then the closing
bracket if it comes next, and in a list also a comma with the blanks behind it. -/
def leaveBracket (b : Bracket) (s : List Char) : List Char :=
  match b, skipBlanks s with
  | .list, ']' :: r => r
  | .list, ',' :: r => skipBlanks r
  | .object, '\x7d' :: r => r
  | _, r => r

/-- A reader inside a bracket: a loose fault is located where the bracket is left. -/
def inBracket {α : Type} (b : Bracket) (inside : Reader α) : Reader α := fun s =>
  match inside s with
  | .error (.loose cause rest) => .error (.after cause (leaveBracket b rest))
  | result => result

/-- A list of elements of one kind.  An element takes at least one character. -/
def listValue {α : Type} (item : Reader α) : Reader (List α) := fun s =>
  match skipBlanks s with
  | [] => .error (.located .endInValue 0)
  | '[' :: r =>
    (inBracket .list do
      let as ← elements item true (r.length + 1)
      endList
      return as) r
  | r => refuse "a sequence" r

/-! ### Objects -/

/-- The name of the next member, if there is one. -/
def nextName (isFirst : Bool) : Reader (Option String) := fun s =>
  let name : Reader (Option String) := fun r => do
    let (k, r) ← text r
    .ok (some k, r)
  match skipBlanks s with
  | [] => .error (.located .endInObject 0)
  | '\x7d' :: r => .ok (none, '\x7d' :: r)
  | c :: r =>
    if isFirst then
      if c = '"' then name r else .error (.next .keyNotText (c :: r))
    else if c = ',' then
      match skipBlanks r with
      | [] => .error (.located .endInValue 0)
      | '"' :: r => name r
      | '\x7d' :: r => .error (.next .trailingComma ('\x7d' :: r))
      | r => .error (.next .keyNotText r)
    else .error (.next .noCommaOrBrace (c :: r))

/-- The colon between a name and its value. -/
def colon : Reader Unit := fun s =>
  match skipBlanks s with
  | [] => .error (.located .endInObject 0)
  | ':' :: r => .ok ((), r)
  | r => .error (.next .noColon r)

/-- The members of an object up to its closing bracket, at most that many.  `member` reads what follows
a name and adds it to what is known. -/
def members {δ : Type} (member : String → δ → Reader δ) (isFirst : Bool) : Nat → δ → Reader δ
  | 0, known, s => .ok (known, s)
  | n + 1, known, s => do
    let (name, s) ← nextName isFirst s
    match name with
    | none => .ok (known, s)
    | some k =>
      let (known, s) ← member k known s
      members member false n known s

/-- The end of an object. -/
def endObject : Reader Unit := fun s =>
  match skipBlanks s with
  | [] => .error (.located .endInObject 0)
  | '\x7d' :: r => .ok ((), r)
  | ',' :: r => .error (.next .trailingComma (',' :: r))
  | r => .error (.next .trailingCharacters r)

/-- The members of an object whose opening bracket has been read, and its end. -/
def objectBody {δ : Type} (member : String → δ → Reader δ) (start : δ) : Reader δ := fun r =>
  (inBracket .object do
    let known ← members member true (r.length + 1) start
    endObject
    return known) r

/-- An object whose members all have values of one kind. -/
def objectValue {α : Type} (item : Reader α) : Reader (List (String × α)) := fun s =>
  match skipBlanks s with
  | [] => .error (.located .endInValue 0)
  | '\x7b' :: r => do
    let (ms, r) ← objectBody (fun k known => do
      colon
      let a ← item
      return (k, a) :: known) [] r
    .ok (ms.reverse, r)
  | r => refuse "a map" r

/-! ### Any value -/

/-- A scalar as a value; its first character is neither a bracket nor a blank. -/
def scalar : Reader Value
  | [] => .error (.located .endInValue 0)
  | c :: r =>
    match c with
    | 'n' => do .ok (.null, (← word ['u', 'l', 'l'] r).2)
    | 't' => do .ok (.bool true, (← word ['r', 'u', 'e'] r).2)
    | 'f' => do .ok (.bool false, (← word ['a', 'l', 's', 'e'] r).2)
    | '"' => do
      let (s, r) ← text r
      .ok (.text s, r)
    | c =>
      if c = '-' ∨ (digit? c).isSome then do
        let (n, _) ← numeral .endInValue (c :: r)
        let (_, r) ← number (c :: r)
        .ok (.number n, r)
      else .error (.next .noValue (c :: r))

/-- Any value, inside which fewer than `budget` brackets may be open at once. -/
def anyValue : Nat → Reader Value
  | 0, s => .error (.next .tooDeep s)
  | budget + 1, s =>
    match skipBlanks s with
    | '[' :: r =>
      if budget = 0 then .error (.next .tooDeep ('[' :: r))
      else
        (inBracket .list do
          let vs ← elements (anyValue budget) true (r.length + 1)
          endList
          return .list vs) r
    | '\x7b' :: r =>
      if budget = 0 then .error (.next .tooDeep ('\x7b' :: r))
      else do
        let (ms, r) ← objectBody (fun k known => do
          colon
          let v ← anyValue budget
          return (k, v) :: known) [] r
        .ok (.object ms.reverse, r)
    | r => scalar r

/-! ### Documents -/

/-- The reading of a whole text, with nothing but blanks behind the value. -/
def Reader.document {α : Type} (read : Reader α) (source : String) : Except Diagnosis α :=
  let s := source.toList
  match read s with
  | .error failure => .error (failure.diagnose s)
  | .ok (a, r) =>
    match skipBlanks r with
    | [] => .ok a
    | r => .error ((Failure.next .trailingCharacters r).diagnose s)

end BindingPipeline.Json
