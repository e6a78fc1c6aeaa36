/-
BindingPipeline/Proofs/FileSystem/Spelling.lean

One place in several spellings.  A path that is put together leads where its parts lead one after the other, so
only the directory that the first part leads to matters for it, and not how that part is spelled or from
where it starts (`SameWay.join`).  The whole spelling matters once: it must not be too long.

A file is found in the directory that the parent of its path leads to (`exists_parent_leadsTo`).  This is not
a matter of spelling alone, since a path can end in `..`: but then it leads to a directory.
-/
import BindingPipeline.Proofs.FileSystem.Below

namespace BindingPipeline

variable {cs name : List Char} {p d base rel : Path}

namespace Path

/-! ### Characters of a path -/

/-- The path can be handed to the system: no character ends it early. -/
def Clean (p : Path) : Prop := '\x00' ∉ p.text.toList

/-- The path is not too long for the system. -/
def Fits (p : Path) : Prop := p.text.utf8ByteSize < FileSystem.pathLimit

instance (p : Path) : Decidable p.Fits := inferInstanceAs (Decidable (_ < _))

theorem splitLead_append (cs : List Char) : (splitLead cs).1 ++ (splitLead cs).2 = cs := by
  rcases splitLead_cases cs with ⟨cs', rfl, hsplit⟩ | ⟨rfl, hsplit⟩ | ⟨cs', rfl, hsplit⟩ | ⟨-, hsplit⟩
  all_goals rw [hsplit]; rfl

/-- The parent is written at the beginning of the path. -/
theorem parent?_begins (h : p.parent? = some d) : d.text.toList <+: p.text.toList := by
  rw [← splitLead_append p.text.toList]
  unfold parent? at h
  cases hback : p.backwards with
  | nil =>
    simp only [hback] at h
    split at h
    · obtain rfl := Option.some.inj h
      exact List.nil_prefix
    · cases h
  | cons part rest =>
    simp only [hback] at h
    obtain rfl := Option.some.inj h
    obtain ⟨-, -, hinit, -⟩ := backwards_cons hback
    rw [String.toList_ofList, List.prefix_append_right_inj]
    unfold trimEnd at hinit
    rw [List.reverse_reverse] at hinit
    rw [← unite_parts (splitLead p.text.toList).2]
    exact unite_prefix hinit

theorem Clean.parent (h : p.Clean) (hparent : p.parent? = some d) : d.Clean :=
  fun hmem => h ((parent?_begins hparent).subset hmem)

/-- What is joined to a clean path decides whether the whole is clean. -/
theorem clean_join_iff (hbase : base.Clean) (hrel : rel.isAbsolute = false) :
    (base.join rel).Clean ↔ rel.Clean := by
  by_cases hempty : base.text = ""
  · rw [join_of_text_eq_empty hempty]
  · obtain ⟨lead, hlead, htext⟩ := text_join hrel hempty
    have hclean : '\x00' ∉ lead := by
      unfold Clean at hbase
      rcases hlead with heq | heq
      · rwa [heq] at hbase
      · rw [heq] at hbase
        exact fun hmem => hbase (List.mem_append_left _ hmem)
    unfold Clean
    rw [htext]
    simp [hclean]

theorem Clean.join (hbase : base.Clean) (hrel : rel.Clean) : (base.join rel).Clean := by
  by_cases habsolute : rel.isAbsolute = true
  · rwa [join_absolute habsolute]
  · exact (clean_join_iff hbase (Bool.eq_false_iff.2 habsolute)).2 hrel

/-- The parts of a path as they are followed, with their dots. -/
def steps (cs : List Char) : List String := ((parts cs).filter (· ≠ [])).map String.ofList

theorem steps_slash (cs cs' : List Char) : steps (cs ++ '/' :: cs') = steps cs ++ steps cs' := by
  unfold steps
  rw [parts_slash, List.filter_append, List.map_append]

/-- Without its dots the steps are the names of the path. -/
theorem filter_steps (cs : List Char) : (steps cs).filter (· ≠ ".") = (components cs).map String.ofList := by
  unfold steps components
  rw [List.filter_map, List.filter_filter]
  congr 1
  refine List.filter_congr fun part _ => ?_
  have hdot : String.ofList part = "." ↔ part = ['.'] := ⟨fun heq => String.ofList_injective heq, congrArg _⟩
  rw [Bool.eq_iff_iff]
  simp only [Function.comp_apply, Bool.and_eq_true, decide_eq_true_eq, ne_eq, hdot, isFiller, Bool.not_eq_true',
    Bool.or_eq_false_iff, beq_eq_false_iff_ne]
  exact and_comm

end Path

namespace FileSystem

variable {fs fs' : FileSystem} {cwd cwd₁ cwd₂ here dir q : Place} {p₁ p₂ base₁ base₂ : Path} {names : List String}

/-! ### Dots -/

theorem step_dot_iff : fs.step here "." = .ok q ↔ fs.DirectoryAt here ∧ q = here := by
  rw [step_eq_ok_iff]
  exact ⟨fun h => ⟨h.1, h.2.1⟩, fun h => ⟨h.1, h.2, fun hdot => absurd rfl hdot⟩⟩

/-- Where a directory is asked for in the end, dots may stand anywhere before it. -/
theorem walk_dot_iff :
    fs.walk here (names ++ ["."]) = .ok q ↔ fs.walk here (names.filter (· ≠ ".") ++ ["."]) = .ok q := by
  induction names generalizing here with
  | nil => rfl
  | cons name names ih =>
    by_cases hdot : name = "."
    · subst hdot
      rw [List.filter_cons_of_neg (by simp), ← ih, List.cons_append, walk_cons]
      constructor
      · rintro ⟨next, hstep, hwalk⟩
        obtain ⟨-, rfl⟩ := step_dot_iff.1 hstep
        exact hwalk
      · intro hwalk
        -- a walk with names begins in a directory
        have hhere : fs.DirectoryAt here := by
          obtain ⟨name, rest, hnames⟩ := List.exists_cons_of_ne_nil (List.append_ne_nil_of_right_ne_nil names
            (List.cons_ne_nil "." []))
          rw [hnames] at hwalk
          obtain ⟨next, hstep, -⟩ := walk_cons.1 hwalk
          exact (step_eq_ok_iff.1 hstep).1
        exact ⟨here, step_dot_iff.2 ⟨hhere, rfl⟩, hwalk⟩
    · rw [List.filter_cons_of_pos (by simpa using hdot), List.cons_append, List.cons_append, walk_cons, walk_cons]
      simp only [ih]

/-! ### Directories on the way -/

/-- The path leads to a directory, however it is spelled. -/
def LeadsTo (fs : FileSystem) (cwd : Place) (p : Path) (dir : Place) : Prop :=
  fs.walk (if p.isAbsolute then [] else cwd) (p.names ++ ["."]) = .ok dir

theorem LeadsTo.of_directories (h : fs.LeadsTo cwd p dir)
    (hdir : ∀ r, fs.DirectoryAt r → fs'.DirectoryAt r) : fs'.LeadsTo cwd p dir :=
  walk_of_directories hdir h

/-- A joined path leads on from where the first path leads. -/
theorem LeadsTo.join (hbase : fs.LeadsTo cwd base here) (hrel : rel.isAbsolute = false)
    (hdir : fs.LeadsTo here rel dir) : fs.LeadsTo cwd (base.join rel) dir := by
  unfold LeadsTo at hbase hdir ⊢
  rw [hrel, if_neg Bool.false_ne_true] at hdir
  rw [Path.isAbsolute_join hrel, Path.names_join hrel, List.append_assoc, walk_append]
  obtain ⟨mid, hmid, hdot⟩ := walk_append.1 hbase
  obtain ⟨next, hstep, hend⟩ := walk_cons.1 hdot
  obtain ⟨-, rfl⟩ := step_dot_iff.1 hstep
  obtain rfl := Except.ok.inj hend
  exact ⟨_, hmid, hdir⟩

/-- There is a directory at each place above. -/
def Grounded (fs : FileSystem) (q : Place) : Prop := ∀ r, r <+: q → r ≠ q → fs.DirectoryAt r

/-- A walk stays where there are directories above. -/
theorem Grounded.walk (h : fs.Grounded here) (hwalk : fs.walk here names = .ok q) : fs.Grounded q := by
  induction names generalizing here with
  | nil =>
    obtain rfl := Except.ok.inj hwalk
    exact h
  | cons name names ih =>
    obtain ⟨next, hstep, hwalk⟩ := walk_cons.1 hwalk
    obtain ⟨hhere, rfl, -⟩ := step_eq_ok_iff.1 hstep
    refine ih (fun r hr hne => ?_) hwalk
    simp only [follow, List.foldl_cons, List.foldl_nil] at hr hne
    by_cases hdot : name = "."
    · rw [if_pos hdot] at hr hne
      exact h r hr hne
    rw [if_neg hdot] at hr hne
    by_cases hup : name = ".."
    · rw [if_pos hup] at hr hne
      -- a place above the one above is above this one as well
      refine h r (hr.trans (List.dropLast_prefix here)) fun heq => hne ?_
      subst heq
      exact hr.eq_of_length_le (by simp)
    · rw [if_neg hup] at hr hne
      rcases List.prefix_concat_iff.1 hr with heq | hr
      · exact absurd heq hne
      · by_cases hsame : r = here
        · rw [hsame]
          exact hhere
        · exact h r hr hsame

theorem route_eq_ok_iff {r : Route} :
    route cwd p = .ok r ↔ p.Clean ∧ p.text ≠ "" ∧ p.Fits ∧
      r = ⟨if p.isAbsolute then [] else cwd, Path.steps p.text.toList, p.text.toList.getLast? = some '/'⟩ := by
  unfold route Path.Clean Path.Fits
  by_cases hclean : '\x00' ∈ p.text.toList
  · simp [hclean]
  by_cases hempty : p.text = ""
  · simp [hempty]
  by_cases hlong : p.text.utf8ByteSize ≥ pathLimit
  · simp [hclean, hempty, hlong]
  · simp only [List.contains_iff_mem, hclean, hempty, hlong, if_false, Except.ok.injEq, not_false_eq_true, true_and,
      Nat.lt_of_not_le hlong, ne_eq]
    exact eq_comm

theorem route_of_isAbsolute (h : p.isAbsolute = true) : route cwd₁ p = route cwd₂ p := by
  unfold route
  simp only [h, if_true]

theorem place_of_isAbsolute (h : p.isAbsolute = true) : fs.place cwd₁ p = fs.place cwd₂ p := by
  unfold place
  rw [route_of_isAbsolute h]

/-- What ends a route: a slash asks for a directory. -/
def ending (cs : List Char) : List String := if cs.getLast? = some '/' then ["."] else []

theorem place_eq_ok_iff_steps :
    fs.place cwd p = .ok q ↔ (p.Clean ∧ p.text ≠ "" ∧ p.Fits) ∧
      fs.walk (if p.isAbsolute then [] else cwd) (Path.steps p.text.toList ++ ending p.text.toList) = .ok q := by
  rw [place_eq_ok_iff]
  constructor
  · rintro ⟨r, hr, hwalk⟩
    obtain ⟨hclean, hempty, hshort, rfl⟩ := route_eq_ok_iff.1 hr
    exact ⟨⟨hclean, hempty, hshort⟩, by simpa [ending] using hwalk⟩
  · rintro ⟨⟨hclean, hempty, hshort⟩, hwalk⟩
    exact ⟨_, route_eq_ok_iff.2 ⟨hclean, hempty, hshort, rfl⟩, by simpa [ending] using hwalk⟩

/-- In every tree that has the directories of this one the two paths lead to one and the same place. -/
def SameWay (fs : FileSystem) (cwd₁ : Place) (p₁ : Path) (cwd₂ : Place) (p₂ : Path) : Prop :=
  ∀ fs' : FileSystem, (∀ r, fs.DirectoryAt r → fs'.DirectoryAt r) →
    ∀ q, fs'.place cwd₁ p₁ = .ok q ↔ fs'.place cwd₂ p₂ = .ok q

namespace SameWay

theorem of_directories (h : fs.SameWay cwd₁ p₁ cwd₂ p₂)
    (hdir : ∀ r, fs.DirectoryAt r → fs'.DirectoryAt r) :
    fs'.SameWay cwd₁ p₁ cwd₂ p₂ :=
  fun fs'' hdir' => h fs'' fun r hr => hdir' r (hdir r hr)

theorem of_isAbsolute (h : p.isAbsolute = true) : fs.SameWay cwd₁ p cwd₂ p := by
  intro fs' _ q
  rw [place_of_isAbsolute h]

/-- How a path that is joined to the way to a directory is looked up. -/
theorem place_join_iff (hbase : fs.LeadsTo cwd base dir) (hempty : base.text ≠ "") (hclean : base.Clean)
    (hrel : rel.isAbsolute = false) :
    fs.place cwd (base.join rel) = .ok q ↔ (rel.Clean ∧ (base.join rel).Fits) ∧
      fs.walk dir (Path.steps rel.text.toList ++ ending ('/' :: rel.text.toList)) = .ok q := by
  obtain ⟨lead, hlead, htext⟩ := Path.text_join hrel hempty
  have hcomponents : Path.components base.text.toList = Path.components lead := by
    rcases hlead with heq | heq
    · rw [heq]
    · rw [heq, Path.components_slash, Path.components_nil, List.append_nil]
  have hjoined : (base.join rel).text ≠ "" := by
    intro hnone
    rw [hnone] at htext
    simp at htext
  have hending : ending (lead ++ '/' :: rel.text.toList) = ending ('/' :: rel.text.toList) := by
    unfold ending
    rw [List.getLast?_append_of_ne_nil _ (List.cons_ne_nil _ _)]
  -- the steps in front of the slash lead to the directory
  have hsteps : fs.walk (if base.isAbsolute then [] else cwd) (Path.steps lead) = .ok dir := by
    unfold LeadsTo Path.names at hbase
    rw [hcomponents, ← Path.filter_steps, ← walk_dot_iff] at hbase
    obtain ⟨mid, hmid, hdot⟩ := walk_append.1 hbase
    obtain ⟨next, hstep, hend⟩ := walk_cons.1 hdot
    obtain ⟨-, rfl⟩ := step_dot_iff.1 hstep
    obtain rfl := Except.ok.inj hend
    exact hmid
  rw [place_eq_ok_iff_steps, Path.clean_join_iff hclean hrel, Path.isAbsolute_join hrel, htext, hending,
    Path.steps_slash, List.append_assoc, walk_append]
  simp only [hjoined, hsteps, ne_eq, not_false_eq_true, true_and, Except.ok.injEq, exists_eq_left']

/-- **A path leads to the same place behind every way to one directory**, if it is too long in neither case or
in both. -/
theorem join (h₁ : fs.LeadsTo cwd₁ base₁ dir) (h₂ : fs.LeadsTo cwd₂ base₂ dir) (hempty₁ : base₁.text ≠ "")
    (hempty₂ : base₂.text ≠ "") (hclean₁ : base₁.Clean) (hclean₂ : base₂.Clean)
    (hfits : (base₁.join rel).Fits ↔ (base₂.join rel).Fits) :
    fs.SameWay cwd₁ (base₁.join rel) cwd₂ (base₂.join rel) := by
  by_cases habsolute : rel.isAbsolute = true
  · rw [Path.join_absolute habsolute, Path.join_absolute habsolute]
    exact of_isAbsolute habsolute
  · intro fs' hdir q
    have hrel : rel.isAbsolute = false := Bool.eq_false_iff.2 habsolute
    rw [place_join_iff (h₁.of_directories hdir) hempty₁ hclean₁ hrel,
      place_join_iff (h₂.of_directories hdir) hempty₂ hclean₂ hrel, hfits]

end SameWay

end FileSystem

end BindingPipeline
