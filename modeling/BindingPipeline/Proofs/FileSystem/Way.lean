/-
BindingPipeline/Proofs/FileSystem/Way.lean

What a look-up looks at.  A path leads through places, one for each of its names, and a look-up asks of
each of them only what kind of thing is there: nothing, a file or a directory.  So a change of the tree
that puts nothing where nothing was on this way cannot make the path lead anywhere (`lacks_iff_of_kind`).
-/
import BindingPipeline.Proofs.FileSystem.Change

namespace BindingPipeline.FileSystem

variable {fs fs' : FileSystem} {cwd here q : Place} {p : Path} {W D : Set Place}

/-! ### Kinds -/

/-- What kind of thing is at a place: nothing, a file (`false`) or a directory (`true`). -/
def kind? (fs : FileSystem) (q : Place) : Option Bool := (fs.node? q).map Node.isDirectory

theorem kind?_eq_none_iff : fs.kind? q = none ↔ fs.node? q = none := by
  simp [kind?]

/-- A change that makes nothing at a place keeps the kind of what is there. -/
theorem ChangesOnly.kind?_eq (h : fs.ChangesOnly fs' W D)
    (hq : fs.node? q = none → q ∉ W ∧ q ∉ D) : fs'.kind? q = fs.kind? q := by
  unfold kind?
  rcases h q with hsame | ⟨hW, hfile, bytes, t, hwritten⟩ | ⟨hD, hnone, -⟩ | ⟨⟨⟨t, hdir⟩, -⟩, t', hgrown⟩
  · rw [hsame]
  · rcases hnode : fs.node? q with - | ⟨bytes', t'⟩ | t'
    · exact absurd hW (hq hnode).1
    · rw [hwritten]
      rfl
    · exact absurd ⟨t', hnode⟩ hfile
  · exact absurd hD (hq hnone).2
  · rw [hdir, hgrown]
    rfl

/-! ### Ways -/

/-- The places that names lead through, from where they start to where they end. -/
def way (here : Place) : List String → List Place
  | [] => [here]
  | name :: names => here :: way (follow here [name]) names

/-- The places that a path leads through. -/
def wayOf (cwd : Place) (p : Path) : List Place :=
  way (if p.isAbsolute then [] else cwd)
    (((Path.parts p.text.toList).filter (· ≠ [])).map String.ofList)

theorem mem_way_end (here : Place) (names : List String) : follow here names ∈ way here names := by
  induction names generalizing here with
  | nil => exact List.mem_singleton_self here
  | cons name names ih => exact List.mem_cons_of_mem here (ih (follow here [name]))

theorem target_mem_wayOf : target cwd p ∈ wayOf cwd p := mem_way_end _ _

/-- Asking for a directory at the end adds no place. -/
theorem mem_way_of_dot {names : List String} (h : q ∈ way here (names ++ ["."])) :
    q ∈ way here names := by
  induction names generalizing here with
  | nil => simpa [way, follow] using h
  | cons name names ih =>
    rcases List.mem_cons.1 h with rfl | h
    · exact List.mem_cons_self
    · exact List.mem_cons_of_mem here (ih h)

/-- The names of the route lead through the places of the path. -/
theorem way_route {r : Route} (h : route cwd p = .ok r) : way r.start r.names = wayOf cwd p := by
  unfold route at h
  split at h
  · cases h
  · split at h
    · cases h
    · split at h
      · cases h
      · obtain rfl := Except.ok.inj h
        rfl

/-! ### Look-ups -/

theorem step_eq_of_kind {name : String} (h : fs'.kind? here = fs.kind? here) :
    fs'.step here name = fs.step here name := by
  unfold kind? at h
  unfold step
  rcases hnode : fs.node? here with - | ⟨bytes, t⟩ | t
  · rw [hnode, Option.map_none, Option.map_eq_none_iff] at h
    rw [h]
  · rw [hnode] at h
    obtain ⟨⟨bytes', t'⟩ | t', hnode', hkind⟩ := Option.map_eq_some_iff.1 h
    · rw [hnode']
    · cases hkind
  · rw [hnode] at h
    obtain ⟨⟨bytes', t'⟩ | t', hnode', hkind⟩ := Option.map_eq_some_iff.1 h
    · cases hkind
    · rw [hnode']

/-- A walk depends only on the kinds of what is on its way. -/
theorem walk_eq_of_kind {names : List String}
    (h : ∀ r ∈ way here names, fs'.kind? r = fs.kind? r) : fs'.walk here names = fs.walk here names := by
  induction names generalizing here with
  | nil => rfl
  | cons name names ih =>
    obtain ⟨hhere, hrest⟩ := List.forall_mem_cons.1 h
    unfold walk
    rw [step_eq_of_kind hhere]
    rcases hstep : fs.step here name with e | next
    · rfl
    · -- a step leads where its name says, so the rest of the way is that of the rest of the names
      obtain ⟨-, rfl, -⟩ := step_eq_ok_iff.1 hstep
      exact ih hrest

theorem place_eq_of_kind (h : ∀ r ∈ wayOf cwd p, fs'.kind? r = fs.kind? r) :
    fs'.place cwd p = fs.place cwd p := by
  unfold place
  rcases hroute : route cwd p with e | r
  · rfl
  · rw [← way_route hroute] at h
    refine walk_eq_of_kind fun q hq => h q ?_
    by_cases hwants : r.wantsDirectory
    · rw [if_pos hwants] at hq
      exact mem_way_of_dot hq
    · rwa [if_neg hwants, List.append_nil] at hq

/-! ### Paths that lead nowhere -/

/-- The path leads to nothing. -/
def Lacks (fs : FileSystem) (cwd : Place) (p : Path) : Prop := ∃ e, fs.find cwd p = .error e

theorem lacks_iff : fs.Lacks cwd p ↔ ∀ q, fs.place cwd p = .ok q → fs.node? q = none := by
  unfold Lacks find
  rcases hplace : fs.place cwd p with e | q
  · simp [bind, Except.bind]
  · rcases hnode : fs.node? q with - | n
    · simp [bind, Except.bind, hnode]
    · simp [bind, Except.bind, hnode]

theorem not_lacks_of_find {n : Node} (h : fs.find cwd p = .ok (q, n)) : ¬ fs.Lacks cwd p := by
  rintro ⟨e, he⟩
  rw [h] at he
  cases he

/-- Whether a path leads to something depends only on the kinds of what is on its way. -/
theorem lacks_iff_of_kind (h : ∀ r ∈ wayOf cwd p, fs'.kind? r = fs.kind? r) :
    fs'.Lacks cwd p ↔ fs.Lacks cwd p := by
  rw [lacks_iff, lacks_iff, place_eq_of_kind h]
  refine forall_congr' fun q => imp_congr_right fun hq => ?_
  -- the place that the path leads to is the last one on its way
  obtain rfl := eq_target_of_place hq
  rw [← kind?_eq_none_iff, ← kind?_eq_none_iff, h _ target_mem_wayOf]

/-- A change that makes nothing on the way of a path that leads nowhere leaves it so. -/
theorem Lacks.changed (h : fs.Lacks cwd p) (hc : fs.ChangesOnly fs' W D)
    (hclear : ∀ q ∈ wayOf cwd p, fs.node? q = none → q ∉ W ∧ q ∉ D) : fs'.Lacks cwd p :=
  (lacks_iff_of_kind fun q hq => hc.kind?_eq (hclear q hq)).2 h

end BindingPipeline.FileSystem
