/-
BindingPipeline/FileSystem/Basic.lean

A tree of files and directories.  A place is the way to it from the root, name by name; the tree says
what is at each place.  Files have contents, and files and directories have the time at which they were
modified.  A directory is modified by what is made right in it, and by nothing that happens to what is there.
-/
import BindingPipeline.Time

namespace BindingPipeline

/-- The names that lead from the root to a place. -/
abbrev Place := List String

/-- What is at a place. -/
inductive Node
  | file (bytes : ByteArray) (modified : Time)
  | directory (modified : Time)

namespace Node

-- not derived: there is more than one instance for contents, and which one is found depends on the imports
instance : DecidableEq Node
  | file bytes t, file bytes' t' =>
    have := ByteArray.instDecidableEq bytes bytes'
    decidable_of_iff (bytes = bytes' ∧ t = t')
      ⟨fun h => by rw [h.1, h.2], fun h => ⟨(file.inj h).1, (file.inj h).2⟩⟩
  | file _ _, directory _ => .isFalse nofun
  | directory _, file _ _ => .isFalse nofun
  | directory t, directory t' => decidable_of_iff (t = t') ⟨congrArg directory, directory.inj⟩

/-- Is it a directory? -/
def isDirectory : Node → Bool
  | file _ _ => false
  | directory _ => true

/-- When it was modified. -/
def modified : Node → Time
  | file _ t => t
  | directory t => t

end Node

/-- The nodes by their places; the root is always there, and has a time of its own. -/
structure FileSystem where
  nodes : List (Place × Node)
  root : Time := Time.epoch

namespace FileSystem

/-- The tree with nothing but the root. -/
def empty : FileSystem := { nodes := [] }

/-- What is at a place, if anything is. -/
def node? (fs : FileSystem) (p : Place) : Option Node :=
  if p = [] then some (.directory fs.root) else (fs.nodes.find? (·.1 == p)).map Prod.snd

/-- Nodes with one more; a node at the same place is replaced where it stands. -/
def putNode (p : Place) (n : Node) : List (Place × Node) → List (Place × Node)
  | [] => [(p, n)]
  | e :: es => if p = e.1 then (p, n) :: es else e :: putNode p n es

/-- The tree with a node at a place. -/
def put (fs : FileSystem) (p : Place) (n : Node) : FileSystem :=
  { fs with nodes := putNode p n fs.nodes }

/-- The tree in which the directory at a place, if there is one, was modified at a time. -/
def touch (fs : FileSystem) (p : Place) (t : Time) : FileSystem :=
  if p = [] then { fs with root := t }
  else if (fs.node? p).any Node.isDirectory then fs.put p (.directory t)
  else fs

/-- The tree in which a node has been made at a place.  The directory right above is modified by that. -/
def make (fs : FileSystem) (now : Time) (p : Place) (n : Node) : FileSystem :=
  (fs.put p n).touch p.dropLast now

@[simp] theorem node?_root (fs : FileSystem) : fs.node? [] = some (.directory fs.root) := rfl

theorem find?_putNode (p q : Place) (n : Node) (es : List (Place × Node)) :
    ((putNode p n es).find? (·.1 == q)).map Prod.snd =
      if q = p then some n else (es.find? (·.1 == q)).map Prod.snd := by
  induction es with
  | nil =>
    by_cases h : p = q
    · simp [putNode, h]
    · simp [putNode, h, Ne.symm h]
  | cons e es ih =>
    unfold putNode
    split
    · rename_i same
      by_cases h : p = q
      · simp [h]
      · have : e.1 ≠ q := fun h' => h (same.trans h')
        simp [h, Ne.symm h, this]
    · rename_i differs
      by_cases h : e.1 = q
      · have : q ≠ p := fun h' => differs (h'.symm.trans h.symm)
        simp [h, this]
      · simpa [List.find?_cons, h] using ih

/-- A node that is put is found at its place, and all others stay. -/
theorem node?_put {fs : FileSystem} {p q : Place} {n : Node} (h : p ≠ []) :
    (fs.put p n).node? q = if q = p then some n else fs.node? q := by
  unfold node? put
  by_cases root : q = []
  · simp [root, h.symm]
  · simp only [root, if_false, find?_putNode]

/-- Another time for a directory changes nothing else. -/
theorem node?_touch {fs : FileSystem} {p q : Place} {t : Time} : (fs.touch p t).node? q =
    if q = p ∧ (fs.node? p).any Node.isDirectory then some (.directory t) else fs.node? q := by
  unfold touch
  by_cases root : p = []
  · subst root
    by_cases h : q = []
    · simp [h, Node.isDirectory]
    · simp [h, node?]
  · rw [if_neg root]
    by_cases h : (fs.node? p).any Node.isDirectory
    · rw [if_pos h, node?_put root]
      simp only [h, and_true]
    · rw [if_neg h, if_neg fun both => h both.2]

/-- What has been made is at its place, the directory right above it has the time, and all else stays. -/
theorem node?_make {fs : FileSystem} {now : Time} {p q : Place} {n : Node} (h : p ≠ []) :
    (fs.make now p n).node? q =
      if q = p then some n
      else if q = p.dropLast ∧ (fs.node? q).any Node.isDirectory then some (.directory now)
      else fs.node? q := by
  have above : p.dropLast ≠ p := by
    intro same
    have length := congrArg List.length same
    have := List.length_pos_iff.2 h
    rw [List.length_dropLast] at length
    omega
  unfold make
  rw [node?_touch, node?_put h, node?_put h, if_neg above]
  by_cases hq : q = p
  · have : ¬ (q = p.dropLast ∧ (fs.node? p.dropLast).any Node.isDirectory) := fun both =>
      above (both.1.symm.trans hq)
    rw [if_neg this, if_pos hq, if_pos hq]
  · rw [if_neg hq, if_neg hq]
    by_cases hparent : q = p.dropLast
    · rw [hparent]
    · rw [if_neg fun both => hparent both.1, if_neg fun both => hparent both.1]

end FileSystem

end BindingPipeline
