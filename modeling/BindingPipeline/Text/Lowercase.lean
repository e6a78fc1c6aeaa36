/-
BindingPipeline/Text/Lowercase.lean

Lowercasing of a whole text.  Every character is mapped by itself, with two exceptions: the capital
I with a dot becomes two characters, and a capital sigma takes its final form at the end of a
word, which its neighbours in the text decide.
-/
import BindingPipeline.Text.Casing
import BindingPipeline.Text.LowerRuns

namespace BindingPipeline.Text

/-- The lowercase of a character that has one of a single character; any other stays. -/
def lowerChar (c : Char) : Char :=
  (lowerRuns.findSome? (·.image? c)).getD c

/-- Is the first character that is not passed over a cased letter? -/
def reachesCased (cs : List Char) : Bool :=
  ((cs.dropWhile isCaseIgnorable).head?.map isCased).getD false

/-- Does a sigma between the two parts of a text end a word?  The part before it is reversed. -/
def endsWord (before after : List Char) : Bool :=
  reachesCased before && !reachesCased after

/-- The lowercase of one character, given the reversed text before it and the text after it. -/
def lowerAt (before : List Char) (c : Char) (after : List Char) : List Char :=
  if c = 'Σ' then [if endsWord before after then 'ς' else 'σ']
  else if c = 'İ' then ['i', '\u0307']
  else [lowerChar c]

/-- The lowercase of the rest of a text, given the reversed part before it. -/
def lowerFrom (before : List Char) : List Char → List Char
  | [] => []
  | c :: after => lowerAt before c after ++ lowerFrom (c :: before) after

/-- The lowercase of a text. -/
def lowercase (cs : List Char) : List Char := lowerFrom [] cs

@[simp] theorem lowercase_nil : lowercase [] = [] := rfl

end BindingPipeline.Text
