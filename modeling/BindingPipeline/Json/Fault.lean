/-
BindingPipeline/Json/Fault.lean

What can be wrong with a JSON text, and where.  A place in a text is given by the number of bytes that
follow it; lines and columns are only counted for a message, in bytes as well.

Some faults are found before it is settled where they lie: a missing member belongs to the end of its
object.  Such a fault stays loose until the bracket around it ends.
-/
import BindingPipeline.Decimal.Layout
import BindingPipeline.Json.Value
import BindingPipeline.Text.Quoted

namespace BindingPipeline.Json

open Decimal (Double)

/-- What a text holds where something else is wanted. -/
inductive Found
  | null
  | bool (b : Bool)
  | integer (n : Int)
  | float (negative : Bool) (magnitude : Double)
  | text (s : String)
  | sequence
  | map
  deriving DecidableEq, Repr

/-- The wording of what is found. -/
def Found.message : Found → String
  | null => "null"
  | bool b => "boolean `" ++ (if b then "true" else "false") ++ "`"
  | integer n => "integer `" ++ toString n ++ "`"
  | float negative d => "floating point `" ++ Decimal.Layout.moderate.render negative d ++ "`"
  | text s => "string " ++ Text.quoted s
  | sequence => "sequence"
  | map => "map"

/-- What is wrong with a text. -/
inductive Cause
  | endInValue
  | endInList
  | endInObject
  | endInText
  | noValue
  | noWord
  | noColon
  | noCommaOrBracket
  | noCommaOrBrace
  | keyNotText
  | trailingComma
  | trailingCharacters
  | badNumber
  | numberOutOfRange
  | controlInText
  | badEscape
  | escapeCutShort
  | loneSurrogate
  | tooDeep
  | mismatch (found : Found) (wanted : String)
  | badInteger (n : Int) (wanted : String)
  | missing (field : String)
  | duplicate (field : String)
  | tooShort (count : Nat) (shape : String) (size : Nat)
  | rejected (reason : String)
  deriving DecidableEq, Repr

/-- The wording of a cause. -/
def Cause.message : Cause → String
  | endInValue => "EOF while parsing a value"
  | endInList => "EOF while parsing a list"
  | endInObject => "EOF while parsing an object"
  | endInText => "EOF while parsing a string"
  | noValue => "expected value"
  | noWord => "expected ident"
  | noColon => "expected `:`"
  | noCommaOrBracket => "expected `,` or `]`"
  | noCommaOrBrace => "expected `,` or `\x7d`"
  | keyNotText => "key must be a string"
  | trailingComma => "trailing comma"
  | trailingCharacters => "trailing characters"
  | badNumber => "invalid number"
  | numberOutOfRange => "number out of range"
  | controlInText => "control character (\\u0000-\\u001F) found while parsing a string"
  | badEscape => "invalid escape"
  | escapeCutShort => "unexpected end of hex escape"
  | loneSurrogate => "lone leading surrogate in hex escape"
  | tooDeep => "recursion limit exceeded"
  | mismatch found wanted => "invalid type: " ++ found.message ++ ", expected " ++ wanted
  | badInteger n wanted => "invalid value: integer `" ++ toString n ++ "`, expected " ++ wanted
  | missing field => "missing field `" ++ field ++ "`"
  | duplicate field => "duplicate field `" ++ field ++ "`"
  | tooShort count shape size =>
    "invalid length " ++ toString count ++ ", expected " ++ shape ++ " with " ++ toString size ++
      (if size = 1 then " element" else " elements")
  | rejected reason => reason

/-- The number of bytes of a text. -/
def byteLength : List Char → Nat
  | [] => 0
  | c :: cs => c.utf8Size + byteLength cs

/-- A fault that has its place, or one that waits for the end of the bracket around it. -/
inductive Failure
  | located (cause : Cause) (left : Nat)
  | loose (cause : Cause) (rest : List Char)
  deriving DecidableEq, Repr

/-- The fault lies behind all that has been read. -/
def Failure.after (cause : Cause) (rest : List Char) : Failure := located cause (byteLength rest)

/-- The fault lies at the next byte, which counts as read; at the end there is none. -/
def Failure.next (cause : Cause) (rest : List Char) : Failure := located cause (byteLength rest - 1)

/-- A place in a text: the line, from 1 on, and the bytes of that line which lie before it. -/
structure Position where
  line : Nat
  column : Nat
  deriving DecidableEq, Repr

/-- The start of a text. -/
def Position.start : Position := ⟨1, 0⟩

/-- The place that many bytes further on. -/
def Position.advance (p : Position) : Nat → List Char → Position
  | _, [] => p
  | n, c :: cs =>
    if n < c.utf8Size then ⟨p.line, p.column + n⟩
    else if c = '\n' then Position.advance ⟨p.line + 1, 0⟩ (n - 1) cs
    else Position.advance ⟨p.line, p.column + c.utf8Size⟩ (n - c.utf8Size) cs

/-- A fault as it is reported. -/
structure Diagnosis where
  cause : Cause
  position : Position
  deriving DecidableEq, Repr

/-- The report on a fault in a text. -/
def Failure.diagnose (text : List Char) : Failure → Diagnosis
  | located cause left => ⟨cause, Position.start.advance (byteLength text - left) text⟩
  | loose cause rest => ⟨cause, Position.start.advance (byteLength text - byteLength rest) text⟩

/-- The wording of a report. -/
def Diagnosis.message (d : Diagnosis) : String :=
  d.cause.message ++ " at line " ++ toString d.position.line ++ " column " ++
    toString d.position.column

end BindingPipeline.Json
