/-
BindingPipeline/Proofs/Path.lean

The names of a path.  A path is never normalised, so one and the same way can be written in many spellings:
slashes may be doubled, and parts `.` may stand anywhere.  `Path.names` is what is left of a spelling without
its fillers; together with whether the path is absolute it says everything about where the path leads.
Joining puts the names behind each other (`names_join`), and the parent is the path without the last name
(`parent?_eq_some`).  What a path still contains is its `..`; a path without these that is not absolute goes
down only (`Path.Descends`).
-/
import BindingPipeline.Path
import Mathlib.Data.List.Infix

namespace BindingPipeline.Path

variable {cs cs' : List Char} {ps qs : List (List Char)} {part : List Char} {p d base rel : Path}

/-! ### Parts -/

theorem parts_slash (cs cs' : List Char) : parts (cs ++ '/' :: cs') = parts cs ++ parts cs' := by
  induction cs with
  | nil => rfl
  | cons c cs ih =>
    rw [List.cons_append, parts, parts, ih]
    by_cases hc : c = '/'
    · rw [if_pos hc, if_pos hc, List.cons_append]
    · rw [if_neg hc, if_neg hc]
      cases hparts : parts cs with
      | nil => exact absurd hparts (parts_ne_nil cs)
      | cons p ps => rfl

theorem slash_notMem_of_mem_parts (h : part ∈ parts cs) : '/' ∉ part := by
  induction cs generalizing part with
  | nil =>
    obtain rfl := List.mem_singleton.1 h
    exact List.not_mem_nil
  | cons c cs ih =>
    rw [parts] at h
    by_cases hc : c = '/'
    · rw [if_pos hc] at h
      rcases List.mem_cons.1 h with rfl | h
      · exact List.not_mem_nil
      · exact ih h
    · rw [if_neg hc] at h
      cases hparts : parts cs with
      | nil => exact absurd hparts (parts_ne_nil cs)
      | cons q qs =>
        rw [hparts] at h ih
        rcases List.mem_cons.1 h with rfl | h
        · exact fun hmem => (List.mem_cons.1 hmem).elim (fun heq => hc heq.symm) (ih List.mem_cons_self)
        · exact ih (List.mem_cons_of_mem q h)

theorem parts_of_notMem (h : '/' ∉ cs) : parts cs = [cs] := by
  induction cs with
  | nil => rfl
  | cons c cs ih =>
    obtain ⟨hc, hcs⟩ := List.ne_and_not_mem_of_not_mem_cons h
    rw [parts, if_neg (fun heq => hc heq.symm), ih hcs]

theorem unite_cons (hps : ps ≠ []) : unite (part :: ps) = part ++ '/' :: unite ps := by
  cases ps with
  | nil => exact absurd rfl hps
  | cons q ps => rfl

theorem parts_unite (hps : ps ≠ []) (h : ∀ part ∈ ps, '/' ∉ part) : parts (unite ps) = ps := by
  induction ps with
  | nil => exact absurd rfl hps
  | cons part ps ih =>
    obtain ⟨hpart, hrest⟩ := List.forall_mem_cons.1 h
    by_cases hnil : ps = []
    · subst hnil
      exact parts_of_notMem hpart
    · rw [unite_cons hnil, parts_slash, parts_of_notMem hpart, ih hnil hrest, List.singleton_append]

/-- The first parts of a text are written at its beginning. -/
theorem unite_prefix (h : ps <+: qs) : unite ps <+: unite qs := by
  induction ps generalizing qs with
  | nil => exact List.nil_prefix
  | cons part ps ih =>
    obtain ⟨rest, rfl⟩ := h
    by_cases hnil : ps = []
    · subst hnil
      by_cases hrest : rest = []
      · subst hrest
        exact List.prefix_rfl
      · rw [List.singleton_append, unite_cons hrest]
        exact List.prefix_append _ _
    · have hmore : ps ++ rest ≠ [] := List.append_ne_nil_of_left_ne_nil hnil rest
      rw [List.cons_append, unite_cons hnil, unite_cons hmore, List.prefix_append_right_inj,
        List.cons_prefix_cons]
      exact ⟨rfl, ih (List.prefix_append ps rest)⟩

/-! ### Names -/

/-- The parts that count. -/
def components (cs : List Char) : List (List Char) := (parts cs).filter fun part => !isFiller part

/-- The names of a path, without its fillers. -/
def names (p : Path) : List String := (components p.text.toList).map String.ofList

theorem components_slash (cs cs' : List Char) :
    components (cs ++ '/' :: cs') = components cs ++ components cs' := by
  unfold components
  rw [parts_slash, List.filter_append]

theorem components_nil : components [] = [] := rfl

theorem components_unite (h : ∀ part ∈ ps, '/' ∉ part) :
    components (unite ps) = ps.filter fun part => !isFiller part := by
  cases ps with
  | nil => rfl
  | cons part ps =>
    unfold components
    rw [parts_unite (List.cons_ne_nil part ps) h]

theorem dot_notMem_names (p : Path) : "." ∉ p.names := by
  intro hmem
  obtain ⟨part, hpart, heq⟩ := List.mem_map.1 hmem
  have hcounts := (List.mem_filter.1 hpart).2
  have hdot := congrArg String.toList heq
  rw [String.toList_ofList] at hdot
  rw [hdot] at hcounts
  exact absurd hcounts (by decide)

/-- The path goes down only: it is not absolute, and none of its names is `..`. -/
structure Descends (p : Path) : Prop where
  relative : p.isAbsolute = false
  noParent : ".." ∉ p.names

/-! ### Joining -/

/-- What is joined stands behind a slash. -/
theorem text_join (hrel : rel.isAbsolute = false) (hbase : base.text ≠ "") :
    ∃ lead, (base.text.toList = lead ∨ base.text.toList = lead ++ ['/']) ∧
      (base.join rel).text.toList = lead ++ '/' :: rel.text.toList := by
  unfold join
  rw [hrel, if_neg Bool.false_ne_true]
  cases hlast : base.text.toList.getLast? with
  | none =>
    rw [List.getLast?_eq_none_iff] at hlast
    exact absurd (String.toList_eq_nil_iff.1 hlast) hbase
  | some c =>
    obtain ⟨lead, hlead⟩ := List.getLast?_eq_some_iff.1 hlast
    by_cases hc : c = '/'
    · subst hc
      exact ⟨lead, .inr hlead, by simp [hlead]⟩
    · refine ⟨base.text.toList, .inl rfl, ?_⟩
      split
      · contradiction
      · rename_i heq
        exact absurd (Option.some.inj heq) hc
      · simp

theorem join_of_text_eq_empty (hbase : base.text = "") : base.join rel = rel := by
  unfold join
  rw [hbase]
  split
  · rfl
  · rfl

/-- The parts of what is joined come last. -/
theorem parts_join (hrel : rel.isAbsolute = false) :
    ∃ qs, parts (base.join rel).text.toList = qs ++ parts rel.text.toList := by
  by_cases hbase : base.text = ""
  · rw [join_of_text_eq_empty hbase]
    exact ⟨[], rfl⟩
  · obtain ⟨lead, -, htext⟩ := text_join hrel hbase
    rw [htext, parts_slash]
    exact ⟨_, rfl⟩

/-- Joined names stand behind each other. -/
theorem names_join (hrel : rel.isAbsolute = false) : (base.join rel).names = base.names ++ rel.names := by
  unfold names
  by_cases hbase : base.text = ""
  · rw [join_of_text_eq_empty hbase, hbase]
    rfl
  · obtain ⟨lead, hlead, htext⟩ := text_join hrel hbase
    have hcomponents : components base.text.toList = components lead := by
      rcases hlead with heq | heq
      · rw [heq]
      · rw [heq, components_slash, components_nil, List.append_nil]
    rw [htext, components_slash, hcomponents, List.map_append]

theorem isAbsolute_join (hrel : rel.isAbsolute = false) : (base.join rel).isAbsolute = base.isAbsolute := by
  by_cases hbase : base.text = ""
  · rw [join_of_text_eq_empty hbase, hrel]
    unfold isAbsolute
    rw [hbase]
    rfl
  · obtain ⟨lead, hlead, htext⟩ := text_join hrel hbase
    unfold isAbsolute
    rw [htext]
    rcases hlead with heq | heq
    · cases lead with
      | nil => exact absurd (String.toList_eq_nil_iff.1 heq) hbase
      | cons c lead => rw [heq]; rfl
    · cases lead with
      | nil => rw [heq]; rfl
      | cons c lead => rw [heq]; rfl

/-! ### Leads and ends -/

/-- The text in front of the first part is the root, a leading `.`, or nothing. -/
theorem splitLead_cases (cs : List Char) :
    (∃ cs', cs = '/' :: cs' ∧ splitLead cs = (['/'], cs')) ∨
    (cs = ['.'] ∧ splitLead cs = (['.'], [])) ∨
    (∃ cs', cs = '.' :: '/' :: cs' ∧ splitLead cs = (['.'], '/' :: cs')) ∨
    (cs.head? ≠ some '/' ∧ splitLead cs = ([], cs)) := by
  unfold splitLead
  split
  · exact .inl ⟨_, rfl, rfl⟩
  · exact .inr (.inl ⟨rfl, rfl⟩)
  · exact .inr (.inr (.inl ⟨_, rfl, rfl⟩))
  · rename_i hroot _ _
    refine .inr (.inr (.inr ⟨fun hhead => ?_, rfl⟩))
    obtain ⟨cs', rfl⟩ := List.head?_eq_some_iff.1 hhead
    exact hroot cs' rfl

/-- The lead holds no component. -/
theorem components_splitLead (cs : List Char) : components cs = components (splitLead cs).2 := by
  rcases splitLead_cases cs with ⟨cs', rfl, hsplit⟩ | ⟨rfl, hsplit⟩ | ⟨cs', rfl, hsplit⟩ | ⟨-, hsplit⟩
  · rw [hsplit]
    exact components_slash [] cs'
  · rw [hsplit]
    rfl
  · rw [hsplit]
    exact components_slash ['.'] cs'
  · rw [hsplit]

/-- Parts without the fillers at the end. -/
def trimEnd (ps : List (List Char)) : List (List Char) := (ps.reverse.dropWhile isFiller).reverse

theorem trimEnd_begins (ps : List (List Char)) : trimEnd ps <+: ps := by
  have hsuffix := List.dropWhile_suffix isFiller (l := ps.reverse)
  unfold trimEnd
  rwa [← List.reverse_suffix, List.reverse_reverse]

theorem filter_trimEnd (ps : List (List Char)) :
    ((trimEnd ps).filter fun part => !isFiller part) = ps.filter fun part => !isFiller part := by
  have hdrop : ∀ qs : List (List Char), ((qs.dropWhile isFiller).filter fun part => !isFiller part) =
      qs.filter fun part => !isFiller part := by
    intro qs
    induction qs with
    | nil => rfl
    | cons part qs ih =>
      by_cases hpart : isFiller part = true
      · rw [List.dropWhile_cons, if_pos hpart, ih, List.filter_cons, hpart]
        rfl
      · rw [List.dropWhile_cons, if_neg hpart]
  unfold trimEnd
  rw [List.filter_reverse, hdrop, ← List.filter_reverse, List.reverse_reverse]

theorem last_trimEnd (ps : List (List Char)) : ∀ part ∈ (trimEnd ps).getLast?, isFiller part = false := by
  intro part hpart
  unfold trimEnd at hpart
  rw [List.getLast?_reverse] at hpart
  have hhead := List.head?_dropWhile_not isFiller ps.reverse
  rw [Option.mem_def.1 hpart] at hhead
  exact hhead

/-- A beginning of the parts that ends in a component, written behind the lead, has its components. -/
theorem components_lead {ps : List (List Char)} (hps : ps <+: parts (splitLead cs).2)
    (hlast : ∀ part ∈ ps.getLast?, isFiller part = false) :
    components ((splitLead cs).1 ++ unite ps) = ps.filter fun part => !isFiller part := by
  have hslash : ∀ part ∈ ps, '/' ∉ part := fun part hpart => slash_notMem_of_mem_parts (hps.subset hpart)
  have hunite := components_unite hslash
  rcases splitLead_cases cs with ⟨cs', rfl, hsplit⟩ | ⟨rfl, hsplit⟩ | ⟨cs', rfl, hsplit⟩ | ⟨-, hsplit⟩
  · rw [hsplit, ← hunite]
    exact components_slash [] (unite ps)
  · -- nothing but an empty part stands behind the lead
    rw [hsplit] at hps ⊢
    rcases List.prefix_cons_iff.1 hps with rfl | ⟨qs, rfl, hqs⟩
    · rfl
    · obtain rfl := List.prefix_nil.1 hqs
      exact absurd (hlast [] rfl) (by decide)
  · rw [hsplit] at hps ⊢
    rcases List.prefix_cons_iff.1 hps with rfl | ⟨qs, rfl, -⟩
    · rfl
    · -- the part in front of the slash is empty, so another one follows
      have hqs : qs ≠ [] := by
        rintro rfl
        exact absurd (hlast [] rfl) (by decide)
      rw [← hunite, unite_cons hqs]
      show components (['.'] ++ '/' :: unite qs) = components ([] ++ '/' :: unite qs)
      rw [components_slash, components_slash]
      rfl
  · rw [hsplit, ← hunite]
    rfl

/-! ### Parents -/

theorem backwards_eq (p : Path) : p.backwards = (trimEnd (parts (splitLead p.text.toList).2)).reverse := by
  unfold backwards trimEnd
  rw [List.reverse_reverse]

/-- The parts in front of the last component begin the parts of the path, and have its other components. -/
theorem backwards_cons {rest : List (List Char)} (h : p.backwards = part :: rest) :
    isFiller part = false ∧ part ∈ parts (splitLead p.text.toList).2 ∧
      trimEnd rest.reverse <+: parts (splitLead p.text.toList).2 ∧
      components p.text.toList =
        ((trimEnd rest.reverse).filter fun part => !isFiller part) ++ [part] := by
  have htrim : trimEnd (parts (splitLead p.text.toList).2) = rest.reverse ++ [part] := by
    rw [← List.reverse_reverse (trimEnd _), ← backwards_eq, h, List.reverse_cons]
  have hinit := trimEnd_begins (parts (splitLead p.text.toList).2)
  have hpart : isFiller part = false := by
    apply last_trimEnd (parts (splitLead p.text.toList).2)
    rw [htrim, List.getLast?_concat]
    rfl
  rw [htrim] at hinit
  refine ⟨hpart, hinit.subset (List.mem_append_right _ List.mem_cons_self), ?_, ?_⟩
  · exact (trimEnd_begins _).trans ((List.prefix_append _ _).trans hinit)
  · rw [components_splitLead, filter_trimEnd]
    unfold components
    rw [← filter_trimEnd (parts (splitLead p.text.toList).2), htrim, List.filter_append,
      List.filter_cons_of_pos (by rw [hpart]; rfl)]
    rfl

theorem components_of_backwards (h : p.backwards = []) : components p.text.toList = [] := by
  rw [backwards_eq, List.reverse_eq_nil_iff] at h
  rw [components_splitLead]
  unfold components
  rw [← filter_trimEnd, h]
  rfl

/-- A beginning of a path that keeps the lead is absolute exactly if the path is. -/
theorem isAbsolute_of_lead {ds : List Char} (hds : ds <+: (splitLead p.text.toList).2) :
    (Path.mk (String.ofList ((splitLead p.text.toList).1 ++ ds))).isAbsolute = p.isAbsolute := by
  unfold isAbsolute
  rw [String.toList_ofList]
  rcases splitLead_cases p.text.toList with ⟨cs', heq, hsplit⟩ | ⟨heq, hsplit⟩ | ⟨cs', heq, hsplit⟩ |
    ⟨hhead, hsplit⟩
  · rw [hsplit, heq]
    rfl
  · rw [hsplit, heq]
    rfl
  · rw [hsplit, heq]
    rfl
  · rw [hsplit] at hds ⊢
    rw [decide_eq_false hhead]
    cases ds with
    | nil => rfl
    | cons c ds =>
      obtain ⟨rest, hrest⟩ := hds
      have hbegins : c :: ds ++ rest = p.text.toList := hrest
      rw [← hbegins] at hhead
      exact decide_eq_false hhead

/-- The parent is a path of the same kind without the last name. -/
theorem parent?_eq_some (h : p.parent? = some d) :
    d.isAbsolute = p.isAbsolute ∧ d.names = p.names.dropLast := by
  unfold parent? at h
  cases hback : p.backwards with
  | nil =>
    simp only [hback] at h
    split at h
    · -- there is no name to lose, only a dot
      rename_i hdot
      obtain rfl := Option.some.inj h
      have habsolute := isAbsolute_of_lead (p := p) List.nil_prefix
      rw [hdot] at habsolute
      refine ⟨habsolute, ?_⟩
      unfold names
      rw [components_of_backwards hback]
      rfl
    · cases h
  | cons part rest =>
    simp only [hback] at h
    obtain rfl := Option.some.inj h
    obtain ⟨-, -, hinit, hcomponents⟩ := backwards_cons hback
    have hrest : (rest.dropWhile isFiller).reverse = trimEnd rest.reverse := by
      unfold trimEnd
      rw [List.reverse_reverse]
    rw [hrest]
    constructor
    · apply isAbsolute_of_lead
      rw [← unite_parts (splitLead p.text.toList).2]
      exact unite_prefix hinit
    · unfold names
      rw [String.toList_ofList, components_lead hinit (last_trimEnd _), hcomponents, List.map_append,
        List.map_singleton, List.dropLast_concat]

/-- A path with names has a parent. -/
theorem exists_parent (h : p.names ≠ []) : ∃ d, p.parent? = some d := by
  unfold parent?
  cases hback : p.backwards with
  | nil =>
    unfold names at h
    rw [components_of_backwards hback] at h
    exact absurd rfl h
  | cons part rest => exact ⟨_, rfl⟩

/-! ### File names -/

/-- A file name is a path of its own, of one name. -/
theorem fileName?_eq_some {name : String} (h : p.fileName? = some name) :
    (Path.mk name).isAbsolute = false ∧ (Path.mk name).names = [name] ∧ name ≠ ".." := by
  unfold fileName? at h
  cases hback : p.backwards with
  | nil =>
    simp only [hback] at h
    cases h
  | cons part rest =>
    simp only [hback] at h
    split at h
    · cases h
    · rename_i hproper
      obtain rfl := Option.some.inj h
      obtain ⟨hcounts, hmem, -, -⟩ := backwards_cons hback
      have hslash := slash_notMem_of_mem_parts hmem
      refine ⟨?_, ?_, ?_⟩
      · unfold isAbsolute
        rw [String.toList_ofList]
        apply decide_eq_false
        exact fun hhead => hslash (List.mem_of_mem_head? hhead)
      · unfold names components
        rw [String.toList_ofList, parts_of_notMem hslash, List.filter_cons_of_pos (by rw [hcounts]; rfl)]
        rfl
      · intro heq
        apply hproper
        have hpart := congrArg String.toList heq
        rwa [String.toList_ofList] at hpart

end BindingPipeline.Path
