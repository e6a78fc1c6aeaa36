/-
BindingPipeline/Proofs/Toml/Section.lean

What a table says of a record.  A record is a number of wants, one for each setting: which values say it, and
which records have it.  A table says the record if every value under the name of a want says it, and if
what the table does not name is met by the record without any settings.  Neither the order of the entries
nor other names matter.

Design.  `Section.Obeys` is all that a kind of tables has to show: each setting meets its own want and keeps
those that are met.  The walk along the entries is followed once for all kinds, up to its end
(`Obeys.foldlM_eq_ok`) or up to a setting that is refused (`foldlM_eq_error`).
-/
import BindingPipeline.Proofs.Results
import BindingPipeline.Toml.Section

namespace BindingPipeline.Toml

variable {δ α : Type}

/-! ### Wants -/

/-- What is wanted of one setting: its name, the values that say it, and the records that have it. -/
structure Want (δ : Type) where
  name : String
  Says : Value → Prop
  Met : δ → Prop

/-- There is an entry of that name. -/
def Table.Names (t : Table) (name : String) : Prop := ∃ v, (name, v) ∈ t

/-- The table says all that is wanted, and leaves out no more than what the plain record has anyway. -/
def Table.Writes (t : Table) (plain : δ) (wants : List (Want δ)) : Prop :=
  ∀ w ∈ wants, (∀ v, (w.name, v) ∈ t → w.Says v) ∧ (t.Names w.name ∨ w.Met plain)

theorem Table.names_cons {t : Table} {name : String} {e : String × Value} :
    Table.Names (e :: t) name ↔ name = e.1 ∨ t.Names name := by
  constructor
  · rintro ⟨v, hv⟩
    rcases List.mem_cons.1 hv with rfl | hv
    · exact .inl rfl
    · exact .inr ⟨v, hv⟩
  · rintro (rfl | ⟨v, hv⟩)
    · exact ⟨e.2, List.mem_cons_self⟩
    · exact ⟨v, List.mem_cons_of_mem e hv⟩

namespace Section

variable {sec : Section δ α} {wants : List (Want δ)} {t : Table} {d : δ}

/-! ### Entries -/

/-- A value that says what is wanted is taken; then the want is met, and all others still are. -/
def Meets (sec : Section δ α) (wants : List (Want δ)) (w : Want δ) : Prop :=
  ∀ v d, w.Says v → ∃ d', sec.apply d (w.name, v) = .ok d' ∧ w.Met d' ∧ ∀ w' ∈ wants, w'.Met d → w'.Met d'

/-- There is one setting for each want, and it does what is wanted and no more. -/
structure Obeys (sec : Section δ α) (wants : List (Want δ)) : Prop where
  names : sec.settings.map (·.name) = wants.map (·.name)
  meets : ∀ w ∈ wants, sec.Meets wants w

/-- A name that is not known is passed over. -/
theorem apply_of_unknown {e : String × Value} (h : e.1 ∉ sec.settings.map (·.name)) :
    sec.apply d e = .ok d := by
  have hnone : sec.settings.find? (·.name == e.1) = none := by
    rw [List.find?_eq_none]
    intro setting hsetting heq
    exact h (List.mem_map.2 ⟨setting, hsetting, beq_iff_eq.1 heq⟩)
  unfold apply
  rw [hnone]

/-- An entry that says what is wanted of its name, if anything is. -/
theorem Obeys.apply_eq_ok (h : sec.Obeys wants) {e : String × Value}
    (he : ∀ w ∈ wants, w.name = e.1 → w.Says e.2) (d : δ) :
    ∃ d', sec.apply d e = .ok d' ∧ ∀ w ∈ wants, w.name = e.1 ∨ w.Met d → w.Met d' := by
  rcases e with ⟨name, v⟩
  by_cases hknown : ∃ w ∈ wants, w.name = name
  · obtain ⟨w, hw, rfl⟩ := hknown
    obtain ⟨d', hd', -, hkeeps⟩ := h.meets w hw v d (he w hw rfl)
    refine ⟨d', hd', fun w' hw' hmet => ?_⟩
    rcases hmet with hname | hmet
    · -- another want of the same name is met by the same step
      obtain ⟨d'', hd'', hmet, -⟩ := h.meets w' hw' v d (he w' hw' hname)
      rw [hname, hd'] at hd''
      obtain rfl := Except.ok.inj hd''
      exact hmet
    · exact hkeeps w' hw' hmet
  · have hunknown : name ∉ sec.settings.map (·.name) := by
      rw [h.names]
      exact fun hmem => hknown (by simpa using hmem)
    refine ⟨d, apply_of_unknown hunknown, fun w hw hmet => ?_⟩
    exact hmet.resolve_left fun hname => hknown ⟨w, hw, hname⟩

/-! ### Tables -/

/-- **What a table says, or was so before, is so behind it.** -/
theorem Obeys.foldlM_eq_ok (h : sec.Obeys wants) (hmeans : ∀ w ∈ wants, ∀ v, (w.name, v) ∈ t → w.Says v)
    (d : δ) : ∃ d', t.foldlM sec.apply d = .ok d' ∧ ∀ w ∈ wants, t.Names w.name ∨ w.Met d → w.Met d' := by
  induction t generalizing d with
  | nil =>
    refine ⟨d, rfl, fun w _ hmet => hmet.resolve_left ?_⟩
    rintro ⟨v, hv⟩
    cases hv
  | cons e t ih =>
    have he : ∀ w ∈ wants, w.name = e.1 → w.Says e.2 :=
      fun w hw hname => hmeans w hw e.2 (hname ▸ List.mem_cons_self)
    obtain ⟨mid, hmid, hfirst⟩ := h.apply_eq_ok he d
    obtain ⟨d', hd', hrest⟩ := ih (fun w hw v hv => hmeans w hw v (List.mem_cons_of_mem e hv)) mid
    refine ⟨d', ?_, fun w hw hmet => hrest w hw ?_⟩
    · rw [List.foldlM_cons, hmid]
      exact hd'
    · rw [Table.names_cons] at hmet
      rcases hmet with (hname | hnames) | hmet
      · exact .inr (hfirst w hw (.inl hname))
      · exact .inl hnames
      · exact .inr (hfirst w hw (.inr hmet))

/-- A table that writes all that is wanted comes to what a record comes to that has it. -/
theorem Obeys.exists_ofTable_eq (h : sec.Obeys wants) (ht : t.Writes sec.blank wants) :
    ∃ d, (∀ w ∈ wants, w.Met d) ∧ sec.ofTable t = sec.finish d := by
  obtain ⟨d, hd, hmet⟩ := h.foldlM_eq_ok (fun w hw => (ht w hw).1) sec.blank
  refine ⟨d, fun w hw => hmet w hw (ht w hw).2, ?_⟩
  unfold ofTable
  rw [hd]
  rfl

/-- A table fails at a setting that is always refused in the same way, if nothing else is refused. -/
theorem foldlM_eq_error {name : String} {m : Misfit} (hnames : t.Names name)
    (hrefused : ∀ v, (name, v) ∈ t → ∀ d, sec.apply d (name, v) = .error m)
    (hothers : ∀ e ∈ t, e.1 ≠ name → ∀ d, ∃ d', sec.apply d e = .ok d') (d : δ) :
    t.foldlM sec.apply d = .error m := by
  induction t generalizing d with
  | nil =>
    obtain ⟨v, hv⟩ := hnames
    cases hv
  | cons e t ih =>
    rw [List.foldlM_cons]
    by_cases hname : name = e.1
    · subst hname
      rw [hrefused e.2 List.mem_cons_self d]
      rfl
    · obtain ⟨mid, hmid⟩ := hothers e List.mem_cons_self (Ne.symm hname) d
      rw [hmid]
      exact ih ((Table.names_cons.1 hnames).resolve_left hname)
        (fun v hv => hrefused v (List.mem_cons_of_mem e hv))
        (fun e' he' => hothers e' (List.mem_cons_of_mem e he')) mid

end Section

end BindingPipeline.Toml
