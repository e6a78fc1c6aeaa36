/-
BindingPipeline/Proofs/FileSystem/Below.lean

Places below a place.  Where a path leads depends on its names and on whether it is absolute, and on nothing
else of its spelling (`target_eq_follow_names`).  So a path that goes down only leads, joined to another one,
to a place below that one (`target_join`), and of the directories above it those are below it or are also
above the other one (`placesAbove_join`).

A path without names is no exception: it leads to where it starts, but no file can be written through it
(`not_writable_join`).
-/
import BindingPipeline.Proofs.FileSystem.Change
import BindingPipeline.Proofs.Path

namespace BindingPipeline

open FileSystem

variable {cwd here q : Place} {p d base rel : Path} {ns : List String}

/-! ### Names and places -/

namespace FileSystem

/-- Fillers lead nowhere. -/
theorem follow_filter (ps : List (List Char)) (here : Place) :
    follow here ((ps.filter (· ≠ [])).map String.ofList) =
      follow here ((ps.filter fun part => !Path.isFiller part).map String.ofList) := by
  induction ps generalizing here with
  | nil => rfl
  | cons part ps ih =>
    by_cases hempty : part = []
    · subst hempty
      exact ih here
    · by_cases hdot : part = ['.']
      · subst hdot
        exact ih here
      · have hfiller : Path.isFiller part = false := by
          simp [Path.isFiller, hempty, hdot]
        rw [List.filter_cons_of_pos (by simpa using hempty), List.filter_cons_of_pos (by simp [hfiller])]
        exact ih _

theorem target_eq_follow_names : target cwd p = follow (if p.isAbsolute then [] else cwd) p.names :=
  follow_filter _ _

theorem target_congr (habsolute : d.isAbsolute = p.isAbsolute) (hnames : d.names = p.names) :
    target cwd d = target cwd p := by
  rw [target_eq_follow_names, target_eq_follow_names, habsolute, hnames]

/-- Proper names lead down. -/
theorem follow_of_proper (hdot : "." ∉ ns) (hup : ".." ∉ ns) : follow here ns = here ++ ns := by
  induction ns generalizing here with
  | nil => exact (List.append_nil here).symm
  | cons name ns ih =>
    obtain ⟨hdot, hdots⟩ := List.ne_and_not_mem_of_not_mem_cons hdot
    obtain ⟨hup, hups⟩ := List.ne_and_not_mem_of_not_mem_cons hup
    show follow (if name = "." then here else if name = ".." then here.dropLast else here ++ [name]) ns = _
    rw [if_neg (Ne.symm hdot), if_neg (Ne.symm hup), ih hdots hups, List.append_assoc, List.singleton_append]

theorem target_of_names_append (habsolute : p.isAbsolute = base.isAbsolute)
    (hnames : p.names = base.names ++ ns) (hup : ".." ∉ ns) :
    target cwd p = target cwd base ++ ns := by
  have hdot : "." ∉ ns := fun hmem => p.dot_notMem_names (hnames ▸ List.mem_append_right _ hmem)
  rw [target_eq_follow_names, target_eq_follow_names, habsolute, hnames, follow_append,
    follow_of_proper hdot hup]

/-- **A path that goes down only leads below the path that it is joined to.** -/
theorem target_join (h : rel.Descends) : target cwd (base.join rel) = target cwd base ++ rel.names :=
  target_of_names_append (Path.isAbsolute_join h.relative) (Path.names_join h.relative) h.noParent

/-- A file name leads to one place right below a directory. -/
theorem target_join_fileName {name : String} (h : p.fileName? = some name) :
    target cwd (base.join ⟨name⟩) = target cwd base ++ [name] := by
  obtain ⟨hrelative, hnames, hproper⟩ := Path.fileName?_eq_some h
  rw [← hnames]
  refine target_join ⟨hrelative, ?_⟩
  rw [hnames]
  exact fun hmem => hproper (List.mem_singleton.1 hmem).symm

end FileSystem

/-! ### Paths above -/

namespace Path

/-- A path above another one is of the same kind, with fewer names. -/
theorem IsAbove.names_prefix (h : d.IsAbove p) : d.isAbsolute = p.isAbsolute ∧ d.names <+: p.names := by
  induction h with
  | single hparent =>
    obtain ⟨habsolute, hnames⟩ := parent?_eq_some hparent
    exact ⟨habsolute, hnames ▸ List.dropLast_prefix _⟩
  | tail _ hparent ih =>
    obtain ⟨habsolute, hnames⟩ := parent?_eq_some hparent
    exact ⟨habsolute.trans ih.1, (hnames ▸ List.dropLast_prefix _ : _ <+: _).trans ih.2⟩

/-- The first names of a path are those of a path above it. -/
theorem exists_isAbove (hinit : ns <+: p.names) (hne : ns ≠ p.names) :
    ∃ d : Path, d.IsAbove p ∧ d.isAbsolute = p.isAbsolute ∧ d.names = ns := by
  induction hlength : p.names.length generalizing p with
  | zero =>
    -- there is nothing to leave out
    rw [List.length_eq_zero_iff] at hlength
    rw [hlength] at hinit hne
    exact absurd (List.prefix_nil.1 hinit) hne
  | succ n ih =>
    have hsome : p.names ≠ [] := by
      intro hnil
      rw [hnil] at hlength
      cases hlength
    obtain ⟨d, hparent⟩ := exists_parent hsome
    obtain ⟨habsolute, hnames⟩ := parent?_eq_some hparent
    have hshorter : ns <+: d.names := by
      rw [hnames]
      rw [← List.dropLast_append_getLast hsome] at hinit hne
      exact (List.prefix_concat_iff.1 hinit).resolve_left hne
    by_cases hsame : ns = d.names
    · exact ⟨d, .single hparent, habsolute, hsame.symm⟩
    · have hless : d.names.length = n := by rw [hnames, List.length_dropLast, hlength]; rfl
      obtain ⟨e, habove, hkind, hfirst⟩ := ih hshorter hsame hless
      exact ⟨e, .head hparent habove, hkind.trans habsolute, hfirst⟩

end Path

namespace FileSystem

/-- **The directories above a joined path** are below the path that it is joined to, or above that one. -/
theorem placesAbove_join (h : rel.Descends) :
    placesAbove cwd (base.join rel) ⊆ {q | target cwd base <+: q} ∪ placesAbove cwd base := by
  rintro q ⟨d, habove, rfl⟩
  obtain ⟨habsolute, hinit⟩ := Path.IsAbove.names_prefix habove
  rw [Path.isAbsolute_join h.relative] at habsolute
  rw [Path.names_join h.relative] at hinit
  rcases List.prefix_or_prefix_of_prefix hinit (List.prefix_append base.names rel.names) with hless | hmore
  · by_cases hsame : d.names = base.names
    · left
      show target cwd base <+: target cwd d
      rw [target_congr habsolute hsame]
    · right
      obtain ⟨e, heabove, hkind, hnames⟩ := Path.exists_isAbove hless hsame
      exact ⟨e, heabove, target_congr (habsolute.trans hkind.symm) hnames.symm⟩
  · left
    obtain ⟨ns, hns⟩ := hmore
    -- what is above a path that goes down goes down itself
    rw [← hns, List.prefix_append_right_inj] at hinit
    have hup : ".." ∉ ns := fun hmem => h.noParent (hinit.subset hmem)
    show target cwd base <+: target cwd d
    rw [target_of_names_append habsolute hns.symm hup]
    exact List.prefix_append _ _

/-- Without `..` in a path, what is above it is above the place that it leads to. -/
theorem prefix_of_mem_placesAbove (hup : ".." ∉ p.names) (hq : q ∈ placesAbove cwd p) : q <+: target cwd p := by
  obtain ⟨d, habove, rfl⟩ := hq
  obtain ⟨habsolute, hinit⟩ := Path.IsAbove.names_prefix habove
  obtain ⟨ns, hns⟩ := hinit
  rw [target_of_names_append habsolute.symm hns.symm fun hmem => hup (hns ▸ List.mem_append_right _ hmem)]
  exact List.prefix_append _ _

/-! ### Paths without names -/

theorem eq_of_route {r : Route} (h : route cwd p = .ok r) : p.text ≠ "" ∧
    r.names = ((Path.parts p.text.toList).filter (· ≠ [])).map String.ofList ∧
    r.wantsDirectory = decide (p.text.toList.getLast? = some '/') := by
  unfold route at h
  split at h
  · cases h
  · split at h
    · cases h
    · rename_i hempty
      split at h
      · cases h
      · obtain rfl := Except.ok.inj h
        exact ⟨hempty, rfl, rfl⟩

/-- Of a relative path without names nothing is left but dots, or it is empty. -/
theorem getLast?_parts_of_no_names (hrel : rel.isAbsolute = false) (hnames : rel.names = [])
    (hempty : rel.text ≠ "") : ((Path.parts rel.text.toList).filter (· ≠ [])).getLast? = some ['.'] := by
  have hfillers : ∀ part ∈ Path.parts rel.text.toList, Path.isFiller part = true := by
    intro part hpart
    have hnone := List.filter_eq_nil_iff.1 (List.map_eq_nil_iff.1 hnames) part hpart
    simpa using hnone
  -- the first part is not empty, since the path does not begin with a slash
  have hfirst : (Path.parts rel.text.toList).filter (· ≠ []) ≠ [] := by
    cases hchars : rel.text.toList with
    | nil => exact absurd (String.toList_eq_nil_iff.1 hchars) hempty
    | cons c cs =>
      have hc : c ≠ '/' := by
        rintro rfl
        unfold Path.isAbsolute at hrel
        rw [hchars] at hrel
        cases hrel
      obtain ⟨part, ps, hparts⟩ := List.exists_cons_of_ne_nil (Path.parts_ne_nil cs)
      rw [Path.parts, if_neg hc, hparts]
      exact List.cons_ne_nil (c :: part) _
  rw [List.getLast?_eq_some_getLast hfirst]
  obtain ⟨hmem, hnonempty⟩ := List.mem_filter.1 (List.getLast_mem hfirst)
  have hfiller := hfillers _ hmem
  simp only [Path.isFiller, Bool.or_eq_true, beq_iff_eq] at hfiller
  exact congrArg some (hfiller.resolve_left (by simpa using hnonempty))

/-- No file can be written through a path without names that is joined to another one. -/
theorem not_writable_join {fs : FileSystem} (hrel : rel.isAbsolute = false) (hnames : rel.names = []) :
    ¬ fs.Writable cwd (base.join rel) := by
  rintro ⟨⟨r, hr, hwants⟩, hplace, -⟩
  obtain ⟨r', hr', ⟨name, hlast, hproper, -⟩, -⟩ := newPlace_eq_ok_iff.1 hplace
  obtain rfl : r' = r := Except.ok.inj (hr'.symm.trans hr)
  obtain ⟨htext, hparts, hslash⟩ := eq_of_route hr
  by_cases hempty : rel.text = ""
  · -- the slash of the join ends the path
    have hbase : base.text ≠ "" := by
      intro hbase
      rw [Path.join_of_text_eq_empty hbase] at htext
      exact htext hempty
    obtain ⟨lead, -, hjoin⟩ := Path.text_join hrel hbase
    rw [hwants, hjoin, hempty] at hslash
    simp at hslash
  · -- the last part is a dot
    obtain ⟨qs, hqs⟩ : ∃ qs, Path.parts (base.join rel).text.toList = qs ++ _ := Path.parts_join hrel
    have hdot := getLast?_parts_of_no_names hrel hnames hempty
    rw [hparts, hqs, List.filter_append, List.getLast?_map, List.getLast?_append, hdot] at hlast
    obtain rfl := Option.some.inj hlast
    exact hproper rfl

end FileSystem

end BindingPipeline
