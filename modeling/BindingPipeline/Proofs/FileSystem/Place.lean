/-
BindingPipeline/Proofs/FileSystem/Place.lean

What a path names.  A tree has no links, so the place that a path leads to follows from its spelling:
`target` takes the names one by one and lets `.` and `..` do what they say, without a look at any tree.
A look-up can fail where a tree has no directory on the way, but it cannot lead anywhere else
(`eq_target_of_place`), and it succeeds in every tree that has the directories
(`place_of_directories`).
-/
import BindingPipeline.FileSystem.Change
import BindingPipeline.Proofs.Results

namespace BindingPipeline.FileSystem

/-! ### Targets -/

/-- The place that names lead to, whatever is there. -/
def follow (here : Place) (names : List String) : Place :=
  names.foldl (fun q name =>
    if name = "." then q else if name = ".." then q.dropLast else q ++ [name]) here

/-- The place that a path names, seen from a working directory. -/
def target (cwd : Place) (p : Path) : Place :=
  follow (if p.isAbsolute then [] else cwd)
    (((Path.parts p.text.toList).filter (· ≠ [])).map String.ofList)

theorem follow_append (here : Place) (names names' : List String) :
    follow here (names ++ names') = follow (follow here names) names' := by
  simp [follow]

variable {fs fs' : FileSystem} {cwd here q : Place} {p : Path}

/-! ### Directories -/

/-- There is a directory at the place, modified at some time. -/
def DirectoryAt (fs : FileSystem) (q : Place) : Prop := ∃ t, fs.node? q = some (.directory t)

theorem directoryAt_iff : fs.DirectoryAt q ↔ (fs.node? q).any Node.isDirectory = true := by
  unfold DirectoryAt
  rcases fs.node? q with - | ⟨bytes, t⟩ | t
  · simp
  · simp [Node.isDirectory]
  · simp [Node.isDirectory]

instance (fs : FileSystem) (q : Place) : Decidable (fs.DirectoryAt q) := decidable_of_iff _ directoryAt_iff.symm

@[simp] theorem directoryAt_root : fs.DirectoryAt [] := ⟨fs.root, rfl⟩

theorem DirectoryAt.ne_none (h : fs.DirectoryAt q) : fs.node? q ≠ none := by
  obtain ⟨t, ht⟩ := h
  rw [ht]
  nofun

theorem DirectoryAt.ne_file (h : fs.DirectoryAt q) {bytes : ByteArray} {t : Time} :
    fs.node? q ≠ some (.file bytes t) := by
  obtain ⟨t', ht⟩ := h
  rw [ht]
  nofun

/-- Where a file is there is no directory; in particular it is not at the root. -/
theorem ne_root_of_file {bytes : ByteArray} {t : Time} (h : fs.node? q = some (.file bytes t)) : q ≠ [] := by
  rintro rfl
  exact directoryAt_root.ne_file h

/-! ### Walks -/

theorem step_eq_ok_iff {name : String} :
    fs.step here name = .ok q ↔ fs.DirectoryAt here ∧ q = follow here [name] ∧
      (name ≠ "." → name ≠ ".." → name.utf8ByteSize ≤ nameLimit) := by
  unfold step
  unfold DirectoryAt
  rcases hn : fs.node? here with - | - | t
  · simp
  · simp
  · simp only [Option.some.injEq, Node.directory.injEq, exists_eq', follow, List.foldl_cons, List.foldl_nil, true_and]
    by_cases hdot : name = "."
    · simp [hdot, eq_comm]
    · by_cases hup : name = ".."
      · simp [hup, eq_comm]
      · by_cases hlong : name.utf8ByteSize > nameLimit
        · simp only [hdot, hup, hlong, if_false, if_true, reduceCtorEq, false_iff, not_and]
          intro _ hshort
          exact absurd (hshort hdot hup) (by omega)
        · simp only [hdot, hup, hlong, if_false, Except.ok.injEq, eq_comm (a := q)]
          simp
          intro _
          omega

theorem walk_nil : fs.walk here [] = .ok here := rfl

theorem walk_cons {name : String} {names : List String} :
    fs.walk here (name :: names) = .ok q ↔
      ∃ next, fs.step here name = .ok next ∧ fs.walk next names = .ok q := by
  rw [walk, bind_eq_ok_iff]

theorem walk_append {names names' : List String} :
    fs.walk here (names ++ names') = .ok q ↔
      ∃ mid, fs.walk here names = .ok mid ∧ fs.walk mid names' = .ok q := by
  induction names generalizing here with
  | nil => simp [walk_nil]
  | cons name names ih =>
    simp only [List.cons_append, walk_cons, ih]
    constructor
    · rintro ⟨next, hstep, mid, hmid, hq⟩
      exact ⟨mid, ⟨next, hstep, hmid⟩, hq⟩
    · rintro ⟨mid, ⟨next, hstep, hmid⟩, hq⟩
      exact ⟨next, hstep, mid, hmid, hq⟩

/-- A walk leads where the names say. -/
theorem eq_follow_of_walk {names : List String} (h : fs.walk here names = .ok q) :
    q = follow here names := by
  induction names generalizing here with
  | nil => exact (Except.ok.inj h).symm
  | cons name names ih =>
    obtain ⟨next, hstep, hwalk⟩ := walk_cons.1 h
    obtain ⟨-, rfl, -⟩ := step_eq_ok_iff.1 hstep
    rw [ih hwalk, ← follow_append, List.singleton_append]

/-- A walk that succeeds does so in every tree that has the same directories and perhaps more. -/
theorem walk_of_directories
    (hdir : ∀ r, fs.DirectoryAt r → fs'.DirectoryAt r)
    {names : List String} (h : fs.walk here names = .ok q) : fs'.walk here names = .ok q := by
  induction names generalizing here with
  | nil => exact h
  | cons name names ih =>
    obtain ⟨next, hstep, hwalk⟩ := walk_cons.1 h
    obtain ⟨hhere, hnext⟩ := step_eq_ok_iff.1 hstep
    exact walk_cons.2 ⟨next, step_eq_ok_iff.2 ⟨hdir _ hhere, hnext⟩, ih hwalk⟩

/-! ### Paths -/

/-- The route of a path holds the names of the path. -/
theorem route_eq_ok {r : Route} (h : route cwd p = .ok r) : follow r.start r.names = target cwd p := by
  unfold route at h
  split at h
  · cases h
  · split at h
    · cases h
    · split at h
      · cases h
      · obtain rfl := Except.ok.inj h
        rfl

theorem place_eq_ok_iff :
    fs.place cwd p = .ok q ↔ ∃ r, route cwd p = .ok r ∧
      fs.walk r.start (r.names ++ if r.wantsDirectory then ["."] else []) = .ok q := by
  rw [place, bind_eq_ok_iff]

/-- A look-up that succeeds leads to the place that the path names. -/
theorem eq_target_of_place (h : fs.place cwd p = .ok q) : q = target cwd p := by
  -- a slash at the end adds a step to where one is already
  obtain ⟨r, hr, hwalk⟩ := place_eq_ok_iff.1 h
  obtain ⟨mid, hmid, hend⟩ := walk_append.1 hwalk
  rw [← route_eq_ok hr, ← eq_follow_of_walk hmid, eq_follow_of_walk hend]
  split <;> rfl

example : target ["home", "a"] ⟨"../out/./bridge.i"⟩ = ["home", "out", "bridge.i"] := rfl

theorem place_of_directories
    (hdir : ∀ r, fs.DirectoryAt r → fs'.DirectoryAt r)
    (h : fs.place cwd p = .ok q) : fs'.place cwd p = .ok q := by
  obtain ⟨r, hr, hwalk⟩ := place_eq_ok_iff.1 h
  exact place_eq_ok_iff.2 ⟨r, hr, walk_of_directories hdir hwalk⟩

theorem find_eq_ok_iff {n : Node} :
    fs.find cwd p = .ok (q, n) ↔ fs.place cwd p = .ok q ∧ fs.node? q = some n := by
  unfold find
  rw [bind_eq_ok_iff]
  constructor
  · rintro ⟨q', hq', hn⟩
    rcases hnode : fs.node? q' with - | n'
    · simp [hnode] at hn
    · simp only [hnode, Except.ok.injEq, Prod.mk.injEq] at hn
      obtain ⟨rfl, rfl⟩ := hn
      exact ⟨hq', hnode⟩
  · rintro ⟨hq, hn⟩
    exact ⟨q, hq, by rw [hn]⟩

/-- What is found is at the place that the path names. -/
theorem eq_target_of_find {n : Node} (h : fs.find cwd p = .ok (q, n)) : q = target cwd p :=
  eq_target_of_place (find_eq_ok_iff.1 h).1

/-- Something can be made where the names of the path lead, if the last one is a proper name. -/
theorem newPlace_eq_ok_iff {special : SystemError} :
    fs.newPlace cwd p special = .ok q ↔ ∃ r, route cwd p = .ok r ∧
      (∃ name, r.names.getLast? = some name ∧ name ≠ "." ∧ name ≠ "..") ∧
      fs.walk r.start r.names = .ok q := by
  unfold newPlace
  rw [bind_eq_ok_iff]
  refine exists_congr fun r => and_congr_right fun _ => ?_
  rcases hlast : r.names.getLast? with - | name
  · simp
  · have hnames : r.names = r.names.dropLast ++ [name] :=
      (List.dropLast_append_getLast? name hlast).symm
    -- the last step of the walk is taken apart from the others
    have hwalk : fs.walk r.start r.names = .ok q ↔
        ∃ parent, fs.walk r.start r.names.dropLast = .ok parent ∧ fs.step parent name = .ok q := by
      rw [hnames, walk_append, ← hnames]
      simp [walk_cons, walk_nil]
    simp only [bind_eq_ok_iff, hwalk, Option.some.injEq, exists_eq_left']
    constructor
    · rintro ⟨parent, hparent, q', hstep, h⟩
      split at h
      · cases h
      · rename_i hproper
        obtain rfl := Except.ok.inj h
        exact ⟨not_or.1 hproper, parent, hparent, hstep⟩
    · rintro ⟨hproper, parent, hparent, hstep⟩
      exact ⟨parent, hparent, q, hstep, if_neg (not_or.2 hproper)⟩

/-- Something can only be made at the place that the path names, and never at the root. -/
theorem newPlace_eq_ok {special : SystemError} (h : fs.newPlace cwd p special = .ok q) :
    q = target cwd p ∧ q ≠ [] := by
  obtain ⟨r, hr, ⟨name, hlast, hproper⟩, hwalk⟩ := newPlace_eq_ok_iff.1 h
  obtain rfl := eq_follow_of_walk hwalk
  refine ⟨route_eq_ok hr, ?_⟩
  -- the last name is a proper one, so it ends the place
  have hnames : r.names = r.names.dropLast ++ [name] :=
    (List.dropLast_append_getLast? name hlast).symm
  rw [hnames, follow_append]
  simp [follow, hproper]

end BindingPipeline.FileSystem
