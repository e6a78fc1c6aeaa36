/-
BindingPipeline/Path.lean

Paths as they are written.  A path is a text and is never normalised: joining and taking apart
keep the spelling, and only a look-up in a file tree gives a path a meaning.

The components of a path are the parts between slashes that count: empty parts and parts `.` do
not, save that a relative path may begin with the component `.`.
-/
namespace BindingPipeline

/-- A path, as it is spelled. -/
structure Path where
  text : String
  deriving DecidableEq, Repr, Inhabited

namespace Path

/-- The parts of a text between slashes; never empty. -/
def parts : List Char → List (List Char)
  | [] => [[]]
  | c :: cs =>
    if c = '/' then [] :: parts cs
    else match parts cs with
      | [] => [[c]]
      | p :: ps => (c :: p) :: ps

/-- The parts written one after the other with a slash between two neighbours. -/
def unite : List (List Char) → List Char
  | [] => []
  | [p] => p
  | p :: ps => p ++ '/' :: unite ps

theorem parts_ne_nil (cs : List Char) : parts cs ≠ [] := by
  cases cs with
  | nil => simp [parts]
  | cons c cs =>
    unfold parts
    split
    · simp
    · split <;> simp

/-- Nothing is lost between the slashes. -/
theorem unite_parts (cs : List Char) : unite (parts cs) = cs := by
  induction cs with
  | nil => rfl
  | cons c cs ih =>
    unfold parts
    split
    · rename_i h
      subst h
      cases h : parts cs with
      | nil => exact absurd h (parts_ne_nil cs)
      | cons p ps => rw [h] at ih; simp [unite, ih]
    · cases h : parts cs with
      | nil => exact absurd h (parts_ne_nil cs)
      | cons p ps =>
        rw [h] at ih
        cases ps <;> simp_all [unite]

/-- Does the path start at the root? -/
def isAbsolute (p : Path) : Bool := p.text.toList.head? = some '/'

/-- The path followed from another one: an absolute path stands for itself, any other is written
behind a slash. -/
def join (base rel : Path) : Path :=
  if rel.isAbsolute then rel
  else match base.text.toList.getLast? with
    | none => rel
    | some '/' => ⟨base.text ++ rel.text⟩
    | some _ => ⟨base.text ++ "/" ++ rel.text⟩

/-- A part that is no component. -/
def isFiller (part : List Char) : Bool := part == [] || part == ['.']

/-- The text in front of the first part, which is the root or a leading `.`, and the text after it. -/
def splitLead : List Char → List Char × List Char
  | '/' :: cs => (['/'], cs)
  | ['.'] => (['.'], [])
  | '.' :: '/' :: cs => (['.'], '/' :: cs)
  | cs => ([], cs)

/-- The parts behind the lead from the last component backwards. -/
def backwards (p : Path) : List (List Char) :=
  (parts (splitLead p.text.toList).2).reverse.dropWhile isFiller

/-- The path without its last component; the root and the empty path have none to lose. -/
def parent? (p : Path) : Option Path :=
  let lead := (splitLead p.text.toList).1
  match p.backwards with
  | _ :: rest => some ⟨String.ofList (lead ++ unite (rest.dropWhile isFiller).reverse)⟩
  | [] => if lead = ['.'] then some ⟨""⟩ else none

/-- The last component, if it is a name. -/
def fileName? (p : Path) : Option String :=
  match p.backwards with
  | name :: _ => if name = ['.', '.'] then none else some (String.ofList name)
  | [] => none

@[simp] theorem join_absolute {base rel : Path} (h : rel.isAbsolute = true) :
    base.join rel = rel := by
  simp [join, h]

end Path

end BindingPipeline
