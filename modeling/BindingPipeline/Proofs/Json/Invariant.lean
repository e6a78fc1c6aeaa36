/-
BindingPipeline/Proofs/Json/Invariant.lean

What holds of everything that is read, whatever text it is read from.  The text need not be the spelling of
any value, and nothing is said of texts that are refused.  A list holds what its elements hold, and a record
is made of a draft that every field read so far has kept in order, in whichever form it is written.

Main results: `Yields.listValue`, `Shape.yields_read`.
-/
import BindingPipeline.Proofs.Json.Record

namespace BindingPipeline.Json

variable {α δ : Type} {R : Reader α} {P : α → Prop} {I : δ → Prop}

/-- Whatever the reader gives back has the property. -/
def Yields (R : Reader α) (P : α → Prop) : Prop :=
  ∀ ⦃s : List Char⦄ ⦃a : α⦄ ⦃r : List Char⦄, R s = .ok (a, r) → P a

/-! ### Lists -/

theorem Yields.elements (hR : Yields R P) (isFirst : Bool) (n : Nat) :
    Yields (elements R isFirst n) (∀ a ∈ ·, P a) := by
  induction n generalizing isFirst with
  | zero =>
    intro s as r hok
    cases hok
    exact List.forall_mem_nil P
  | succ n ih =>
    intro s as r hok
    obtain ⟨⟨more, s₁⟩, -, hrest⟩ := bind_eq_ok_iff.1 hok
    cases more with
    | false =>
      cases hrest
      exact List.forall_mem_nil P
    | true =>
      obtain ⟨⟨a, s₂⟩, ha, hothers⟩ := bind_eq_ok_iff.1 hrest
      obtain ⟨⟨as', s₃⟩, has, hcons⟩ := bind_eq_ok_iff.1 hothers
      cases hcons
      exact List.forall_mem_cons.2 ⟨hR ha, ih false has⟩

theorem Yields.listValue (hR : Yields R P) : Yields (listValue R) (∀ a ∈ ·, P a) := by
  intro s as r hok
  unfold Json.listValue at hok
  split at hok
  · cases hok
  · rw [inBracket_eq_ok_iff] at hok
    obtain ⟨as', s₁, has, hend⟩ := reader_bind_eq_ok_iff.1 hok
    obtain ⟨-, s₂, -, hpure⟩ := reader_bind_eq_ok_iff.1 hend
    obtain ⟨rfl, -⟩ := reader_pure_eq_ok_iff.1 hpure
    exact hR.elements _ _ has
  · exact absurd hok refuse_ne_ok

/-! ### Documents -/

theorem Yields.document (hR : Yields R P) {text : String} {a : α} (hok : R.document text = .ok a) : P a := by
  unfold Reader.document at hok
  cases hresult : R text.toList with
  | error failure =>
    simp only [hresult, reduceCtorEq] at hok
  | ok p =>
    obtain ⟨b, r⟩ := p
    simp only [hresult] at hok
    split at hok
    · cases hok
      exact hR hresult
    · cases hok

/-! ### Records -/

/-- Members that keep what is known in order do so all together. -/
theorem yields_members {member : String → δ → Reader δ} (hmember : ∀ k d, I d → Yields (member k d) I)
    (isFirst : Bool) (n : Nat) {d : δ} (hd : I d) : Yields (members member isFirst n d) I := by
  induction n generalizing isFirst d with
  | zero =>
    intro s d' r hok
    cases hok
    exact hd
  | succ n ih =>
    intro s d' r hok
    obtain ⟨⟨name, s₁⟩, -, hrest⟩ := bind_eq_ok_iff.1 hok
    cases name with
    | none =>
      cases hrest
      exact hd
    | some k =>
      obtain ⟨⟨d₁, s₂⟩, hd₁, hothers⟩ := bind_eq_ok_iff.1 hrest
      exact ih false (hmember k d hd hd₁) hothers

namespace Shape

variable {shape : Shape δ α}

theorem yields_member (hfields : ∀ f ∈ shape.fields, ∀ d, I d → Yields (f.read d) I) (name : String) (d : δ)
    (hd : I d) : Yields (shape.member name d) I := by
  intro s d' r hok
  unfold member at hok
  cases hfield : shape.field? name with
  | none =>
    simp only [hfield] at hok
    -- a member that is not known is passed over
    obtain ⟨_, -, hskip⟩ := bind_eq_ok_iff.1 hok
    obtain ⟨_, -, hpure⟩ := bind_eq_ok_iff.1 hskip
    cases hpure
    exact hd
  | some f =>
    simp only [hfield] at hok
    split at hok
    · cases hok
    · obtain ⟨_, -, hread⟩ := bind_eq_ok_iff.1 hok
      exact hfields f (List.mem_of_find?_eq_some hfield) d hd hread

theorem yields_positional {fs : List (Field δ)} (hfields : ∀ f ∈ fs, ∀ d, I d → Yields (f.read d) I)
    (count : Nat) {d : δ} (hd : I d) : Yields (shape.positional fs count d) I := by
  induction fs generalizing count d with
  | nil =>
    intro s d' r hok
    cases hok
    exact hd
  | cons f fs ih =>
    obtain ⟨hf, hfs⟩ := List.forall_mem_cons.1 hfields
    intro s d' r hok
    obtain ⟨⟨more, s₁⟩, -, hrest⟩ := bind_eq_ok_iff.1 hok
    cases more with
    | false => cases hrest
    | true =>
      obtain ⟨⟨d₁, s₂⟩, hd₁, hothers⟩ := bind_eq_ok_iff.1 hrest
      exact ih hfs (count + 1) (hf d hd hd₁) hothers

/-- What is made of a draft behind which a bracket is closed. -/
theorem yields_closed {b : Bracket} {draft : Reader δ} {close : Reader Unit} (hdraft : Yields draft I) :
    Yields (inBracket b do
      let d ← draft
      let a ← shape.finish d
      close
      return a) fun a => ∃ d, I d ∧ shape.build? d = some a := by
  intro s a r hok
  rw [inBracket_eq_ok_iff] at hok
  obtain ⟨d, s₁, hd, hrest⟩ := reader_bind_eq_ok_iff.1 hok
  obtain ⟨a', s₂, hfinish, hend⟩ := reader_bind_eq_ok_iff.1 hrest
  obtain ⟨-, s₃, -, hpure⟩ := reader_bind_eq_ok_iff.1 hend
  obtain ⟨rfl, -⟩ := reader_pure_eq_ok_iff.1 hpure
  exact ⟨d, hdraft hd, (finish_eq_ok_iff.1 hfinish).1⟩

/-- **A record is made of a draft in order.**  What holds of the blank draft and is kept by every field holds
of the draft that the record is made of. -/
theorem yields_read (hfields : ∀ f ∈ shape.fields, ∀ d, I d → Yields (f.read d) I) (hblank : I shape.blank) :
    Yields shape.read fun a => ∃ d, I d ∧ shape.build? d = some a := by
  intro s a r hok
  unfold read at hok
  split at hok
  · cases hok
  · exact yields_closed (yields_positional hfields 0 hblank) hok
  · exact yields_closed (yields_members (yields_member hfields) true _ hblank) hok
  · exact absurd hok refuse_ne_ok

end Shape

end BindingPipeline.Json
