/-
BindingPipeline/Proofs/Json/Reader.lean

What the readers make of written values.  `Reads read Means` says that a reader answers to the value and not
to its spelling: in front of any spelling of a value it gives back what the value means and leaves what
follows, and if the value means nothing it fails.

Design.  A meaning is a relation between values and results, and a reader is described by an equivalence, so
one statement holds both that what is right is accepted and that nothing else is.  The readers of lists and
of members are described from the readers of their parts, by induction on the parts as they are written.
-/
import BindingPipeline.Json.Reader
import BindingPipeline.Proofs.Json.Token
import BindingPipeline.Proofs.Results

namespace BindingPipeline.Json

variable {α β δ : Type} {R : Reader α} {Means : Value → α → Prop}
variable {c : Char} {s s' t r : List Char} {v : Value} {vs : List Value} {ms : List (String × Value)}

/-- In front of any spelling of a value, the reader gives back exactly what the value means. -/
def Reads (R : Reader α) (Means : Value → α → Prop) : Prop :=
  ∀ ⦃v : Value⦄ ⦃s s' t : List Char⦄, Written v s t → Delimited t → Blanks s' s →
    ∀ (a : α) (r : List Char), R s' = .ok (a, r) ↔ Means v a ∧ r = t

theorem reader_bind_eq_ok_iff {f : α → Reader β} {p : β × List Char} :
    (R >>= f) s = .ok p ↔ ∃ a s', R s = .ok (a, s') ∧ f a s' = .ok p := by
  show (R s >>= fun q => f q.1 q.2) = .ok p ↔ _
  rw [bind_eq_ok_iff, Prod.exists]

theorem reader_pure_eq_ok_iff {a b : α} : (pure a : Reader α) s = .ok (b, r) ↔ b = a ∧ r = s := by
  show Except.ok (a, s) = Except.ok (b, r) ↔ _
  simp only [Except.ok.injEq, Prod.mk.injEq, eq_comm]

theorem Reads.congr {Means' : Value → α → Prop} (h : Reads R Means) (hiff : ∀ v a, Means v a ↔ Means' v a) :
    Reads R Means' := by
  intro v s s' t hv ht hblanks a r
  rw [← hiff]
  exact h hv ht hblanks a r

/-- The result of a reader, put to use. -/
theorem Reads.map (h : Reads R Means) (f : α → δ) :
    Reads (fun s => do let (a, s) ← R s; .ok (f a, s)) fun v d => ∃ a, Means v a ∧ d = f a := by
  intro v s s' t hv ht hblanks d r
  have hR := h hv ht hblanks
  constructor
  · intro hok
    obtain ⟨⟨a, s₁⟩, ha, hd⟩ := bind_eq_ok_iff.1 hok
    obtain ⟨hmeans, rfl⟩ := (hR a s₁).1 ha
    cases hd
    exact ⟨⟨a, hmeans, rfl⟩, rfl⟩
  · rintro ⟨⟨a, hmeans, rfl⟩, rfl⟩
    exact bind_eq_ok_iff.2 ⟨(a, r), (hR a r).2 ⟨hmeans, rfl⟩, rfl⟩

/-! ### First characters -/

/-- What a reader sees of a value is a first character, and that tells the kind of the value. -/
theorem Written.skip (h : Written v s t) (hblanks : Blanks s' s) :
    ∃ c r, skipBlanks s' = c :: r ∧ s = c :: r ∧ v.Begins c := by
  obtain ⟨c, r, rfl, hbegins⟩ := h.begins
  exact ⟨c, r, hblanks.skip hbegins.ne.1, rfl, hbegins⟩

theorem begins_quote_iff : v.Begins '"' ↔ ∃ k, v = .text k := by
  cases v with
  | text k => exact ⟨fun _ => ⟨k, rfl⟩, fun _ => rfl⟩
  | bool b => cases b <;> simp [Value.Begins]
  | _ => simp [Value.Begins, digit?]

theorem begins_bracket_iff : v.Begins '[' ↔ ∃ vs, v = .list vs := by
  cases v with
  | list vs => exact ⟨fun _ => ⟨vs, rfl⟩, fun _ => rfl⟩
  | bool b => cases b <;> simp [Value.Begins]
  | _ => simp [Value.Begins, digit?]

theorem begins_brace_iff : v.Begins '\x7b' ↔ ∃ ms, v = .object ms := by
  cases v with
  | object ms => exact ⟨fun _ => ⟨ms, rfl⟩, fun _ => rfl⟩
  | bool b => cases b <;> simp [Value.Begins]
  | _ => simp [Value.Begins, digit?]

theorem begins_true_iff : v.Begins 't' ↔ v = .bool true := by
  cases v with
  | bool b => cases b <;> simp [Value.Begins]
  | _ => simp [Value.Begins, digit?]

theorem begins_false_iff : v.Begins 'f' ↔ v = .bool false := by
  cases v with
  | bool b => cases b <;> simp [Value.Begins]
  | _ => simp [Value.Begins, digit?]

theorem begins_digit_iff (h : c = '-' ∨ (digit? c).isSome) : v.Begins c ↔ ∃ n, v = .number n := by
  constructor
  · intro hbegins
    cases v with
    | number n => exact ⟨n, rfl⟩
    | bool b =>
      cases b with
      | true => exact absurd h (by rw [show c = 't' from hbegins]; decide)
      | false => exact absurd h (by rw [show c = 'f' from hbegins]; decide)
    | null => exact absurd h (by rw [show c = 'n' from hbegins]; decide)
    | text k => exact absurd h (by rw [show c = '"' from hbegins]; decide)
    | list vs => exact absurd h (by rw [show c = '[' from hbegins]; decide)
    | object ms => exact absurd h (by rw [show c = '\x7b' from hbegins]; decide)
  · rintro ⟨n, rfl⟩
    exact h

/-! ### Scalars -/

theorem refuse_ne_ok {wanted : String} {p : α × List Char} : refuse wanted s ≠ .ok p := by
  unfold refuse
  cases describe s with
  | error e => exact nofun
  | ok found => exact nofun

theorem reads_textValue : Reads textValue fun v k => v = .text k := by
  intro v s s' t hv _ hblanks k r
  obtain ⟨c, r', hskip, rfl, hbegins⟩ := hv.skip hblanks
  unfold textValue
  rw [hskip]
  split
  · contradiction
  · rename_i heq
    cases heq
    obtain ⟨k', rfl⟩ := begins_quote_iff.1 hbegins
    cases hv with
    | text hchars =>
      rw [text_of_written hchars]
      simp only [Except.ok.injEq, Prod.mk.injEq, Value.text.injEq, eq_comm]
  · rename_i hquote
    constructor
    · exact fun hok => absurd hok refuse_ne_ok
    · rintro ⟨rfl, -⟩
      exact absurd (by rw [show c = '"' from hbegins]) (hquote r')

theorem Written.bool_eq {b : Bool} (h : Written (.bool b) s t) : s = renderBool b ++ t := by
  cases h with
  | bool => rfl

theorem reads_boolValue : Reads boolValue fun v b => v = .bool b := by
  intro v s s' t hv _ hblanks b r
  obtain ⟨c, r', hskip, rfl, hbegins⟩ := hv.skip hblanks
  unfold boolValue
  rw [hskip]
  split
  · contradiction
  · rename_i heq
    cases heq
    obtain rfl := begins_true_iff.1 hbegins
    obtain rfl : r' = ['r', 'u', 'e'] ++ t := (List.cons.inj hv.bool_eq).2
    rw [word_append]
    simp only [bind, Except.bind, Except.ok.injEq, Prod.mk.injEq, Value.bool.injEq, eq_comm]
  · rename_i heq
    cases heq
    obtain rfl := begins_false_iff.1 hbegins
    obtain rfl : r' = ['a', 'l', 's', 'e'] ++ t := (List.cons.inj hv.bool_eq).2
    rw [word_append]
    simp only [bind, Except.bind, Except.ok.injEq, Prod.mk.injEq, Value.bool.injEq, eq_comm]
  · rename_i htrue hfalse
    constructor
    · exact fun hok => absurd hok refuse_ne_ok
    · rintro ⟨rfl, -⟩
      cases b with
      | true => exact absurd (by rw [show c = 't' from hbegins]) (htrue r')
      | false => exact absurd (by rw [show c = 'f' from hbegins]) (hfalse r')

/-- The number of a numeral is read as it is understood. -/
theorem number_render (m : Numeral) (ht : Delimited t) :
    number (m.render ++ t) = match m.number with
      | .ok n => .ok (n, t)
      | .error left => .error (.located .numberOutOfRange (byteLength t + left)) := by
  unfold number
  rw [numeral_render .endInValue m ht]
  rfl

/-- A natural number that fits a word has one numeral. -/
theorem number_eq_natural_iff {m : Numeral} {n : Nat} :
    m.number = .ok (.natural n) ↔ m = .ofNat n ∧ n < wordBound := by
  constructor
  · intro h
    unfold Numeral.number at h
    split at h
    · rename_i hplain
      obtain ⟨hplain, hfits, hpositive⟩ := hplain
      obtain rfl : m.whole = n := by simpa using h
      obtain ⟨hfraction, hexponent⟩ := Bool.and_eq_true_iff.1 hplain
      obtain ⟨negative, whole, fraction, exponent⟩ := m
      obtain rfl : fraction = [] := List.isEmpty_iff.1 hfraction
      obtain rfl : exponent = none := Option.isNone_iff_eq_none.1 hexponent
      obtain rfl : negative = false := hpositive
      exact ⟨rfl, hfits⟩
    · -- every other numeral is below zero, a binary64 number, or out of range
      grind
  · rintro ⟨rfl, hfits⟩
    unfold Numeral.number
    exact if_pos ⟨rfl, hfits, rfl⟩

theorem ofNat_eq_iff {n : Nat} {x : UInt32} (hn : n ≤ 4294967295) : UInt32.ofNat n = x ↔ n = x.toNat := by
  rw [← UInt32.toNat_inj, UInt32.toNat_ofNat_of_lt' (by simpa using Nat.lt_succ_of_le hn)]

theorem Written.number_eq {m : Numeral} (h : Written (.number m) s t) : s = m.render ++ t := by
  cases h with
  | number => rfl

/-- A number of 32 bits without a sign is read from its plain numeral. -/
theorem reads_wordValue : Reads wordValue fun v x => v = .number (.ofNat x.toNat) := by
  intro v s s' t hv ht hblanks x r
  obtain ⟨c, r', hskip, rfl, hbegins⟩ := hv.skip hblanks
  have hx : x.toNat ≤ 4294967295 := Nat.le_of_lt_succ x.toNat_lt
  unfold wordValue
  rw [hskip]
  by_cases hdigit : c = '-' ∨ (digit? c).isSome
  · obtain ⟨m, rfl⟩ := (begins_digit_iff hdigit).1 hbegins
    have hnumber : number (c :: r') = match m.number with
        | .ok n => .ok (n, t)
        | .error left => .error (.located .numberOutOfRange (byteLength t + left)) := by
      rw [← number_render m ht, hv.number_eq]
    have hmeans : Value.number m = .number (.ofNat x.toNat) ↔ m.number = .ok (.natural x.toNat) := by
      rw [number_eq_natural_iff, Value.number.injEq]
      exact (and_iff_left (Nat.lt_of_le_of_lt hx (by decide))).symm
    simp only [if_pos hdigit, hnumber, hmeans]
    cases m.number with
    | error left => simp [bind, Except.bind]
    | ok n =>
      cases n with
      | natural n =>
        by_cases hn : n ≤ 4294967295
        · simp [bind, Except.bind, hn, ofNat_eq_iff hn, @eq_comm _ t]
        · have hne : n ≠ x.toNat := fun heq => hn (heq ▸ hx)
          simp [bind, Except.bind, hn, hne]
      | negative n => simp [bind, Except.bind]
      | float negative d => simp [bind, Except.bind]
  · simp only [if_neg hdigit]
    constructor
    · exact fun hok => absurd hok refuse_ne_ok
    · rintro ⟨rfl, -⟩
      exact absurd hbegins hdigit

/-! ### Lists -/

theorem moreElements_closing {isFirst : Bool} (h : Blanks s (']' :: t)) :
    moreElements isFirst s = .ok (false, ']' :: t) := by
  unfold moreElements
  rw [h.skip (by decide)]
  rfl

theorem moreElements_of_separated {isFirst : Bool} (h : Separated isFirst s (c :: t)) (hc : isBlank c = false)
    (hclosing : c ≠ ']') : moreElements isFirst s = .ok (true, c :: t) := by
  unfold moreElements
  cases h with
  | first hblanks =>
    rw [hblanks.skip hc]
    simp
  | more hcomma hblanks =>
    rw [hcomma.skip (by decide)]
    simp [hblanks.skip hc, hclosing]

theorem endList_closing (h : Blanks s (']' :: t)) : endList s = .ok ((), t) := by
  unfold endList
  rw [h.skip (by decide)]
  rfl

/-- A list ends only where no element is left. -/
theorem endList_eq_ok {isFirst : Bool} {p : Unit × List Char} (h : WrittenItems isFirst vs s t)
    (hok : endList s = .ok p) : vs = [] ∧ p.2 = t := by
  cases h with
  | nil hblanks =>
    rw [endList_closing hblanks] at hok
    cases hok
    exact ⟨rfl, rfl⟩
  | cons hseparated hvalue _ =>
    obtain ⟨c, r', rfl, hbegins⟩ := hvalue.begins
    obtain ⟨hblank, hcomma, hclosing, -⟩ := hbegins.ne
    unfold endList at hok
    cases hseparated with
    | first hblanks =>
      rw [hblanks.skip hblank] at hok
      split at hok
      · cases hok
      · rename_i heq
        exact absurd (List.cons.inj heq).1 hclosing
      · rename_i heq
        exact absurd (List.cons.inj heq).1 hcomma
      · cases hok
    | more hblanks _ =>
      rw [hblanks.skip (by decide)] at hok
      simp only at hok
      split at hok
      · cases hok
      · cases hok

/-- The elements are read one by one, up to the closing bracket. -/
theorem elements_eq_ok_iff (hR : Reads R Means) {isFirst : Bool} {n : Nat} {as : List α}
    (h : WrittenItems isFirst vs s t) (hn : vs.length < n) :
    elements R isFirst n s = .ok (as, r) ↔ List.Forall₂ Means vs as ∧ r = ']' :: t := by
  induction vs generalizing isFirst n s as r with
  | nil =>
    obtain ⟨n, rfl⟩ := Nat.exists_eq_add_of_lt hn
    cases h with
    | nil hblanks =>
      show (moreElements isFirst s >>= _) = _ ↔ _
      rw [moreElements_closing hblanks, List.forall₂_nil_left_iff]
      show Except.ok ([], ']' :: t) = Except.ok (as, r) ↔ _
      simp only [Except.ok.injEq, Prod.mk.injEq, eq_comm]
  | cons v vs ih =>
    obtain ⟨n, rfl⟩ : ∃ n', n = n' + 1 := ⟨n - 1, by omega⟩
    have hn : vs.length < n := Nat.lt_of_succ_lt_succ hn
    cases h with
    | cons hseparated hvalue hrest =>
      obtain ⟨c, r', rfl, hbegins⟩ := hvalue.begins
      have hitem := hR hvalue hrest.delimited (.refl _)
      show (moreElements isFirst s >>= _) = _ ↔ _
      rw [moreElements_of_separated hseparated hbegins.ne.1 hbegins.ne.2.2.1]
      show (R (c :: r') >>= fun p => elements R false n p.2 >>= fun q => .ok (p.1 :: q.1, q.2)) =
        .ok (as, r) ↔ _
      constructor
      · intro hok
        obtain ⟨⟨a, s₁⟩, ha, hok⟩ := bind_eq_ok_iff.1 hok
        obtain ⟨hmeans, rfl⟩ := (hitem a s₁).1 ha
        obtain ⟨⟨as', s₂⟩, has, hok⟩ := bind_eq_ok_iff.1 hok
        obtain ⟨hall, rfl⟩ := (ih hrest hn).1 has
        cases hok
        exact ⟨.cons hmeans hall, rfl⟩
      · rintro ⟨hall, rfl⟩
        cases hall with
        | cons hmeans hall =>
          have ha := (hitem _ _).2 ⟨hmeans, rfl⟩
          have has := (ih hrest hn).2 ⟨hall, rfl⟩
          exact bind_eq_ok_iff.2 ⟨_, ha, bind_eq_ok_iff.2 ⟨_, has, rfl⟩⟩

/-- A bracket locates failures and changes no success. -/
theorem inBracket_eq_ok_iff {b : Bracket} {p : α × List Char} : inBracket b R s = .ok p ↔ R s = .ok p := by
  unfold inBracket
  split
  · rename_i heq
    rw [heq]
    exact ⟨nofun, nofun⟩
  · rfl

/-- What stands in a bracket is read, and then the bracket is closed. -/
theorem inBracket_end_eq_ok_iff {b : Bracket} {close : Reader Unit} {P : α → Prop} (f : α → β) {y : β}
    (hR : ∀ a r', R s = .ok (a, r') ↔ P a ∧ r' = b.closing :: t)
    (hclose : close (b.closing :: t) = .ok ((), t)) :
    (inBracket b do
      let a ← R
      close
      return f a) s = .ok (y, r) ↔ (∃ a, P a ∧ y = f a) ∧ r = t := by
  rw [inBracket_eq_ok_iff, reader_bind_eq_ok_iff]
  constructor
  · rintro ⟨a, s₁, ha, hok⟩
    obtain ⟨hmeans, rfl⟩ := (hR a s₁).1 ha
    obtain ⟨_, s₂, hend, hpure⟩ := reader_bind_eq_ok_iff.1 hok
    rw [hclose] at hend
    cases hend
    obtain ⟨rfl, rfl⟩ := reader_pure_eq_ok_iff.1 hpure
    exact ⟨⟨a, hmeans, rfl⟩, rfl⟩
  · rintro ⟨⟨a, hmeans, rfl⟩, rfl⟩
    have ha := (hR a _).2 ⟨hmeans, rfl⟩
    refine ⟨a, _, ha, reader_bind_eq_ok_iff.2 ⟨(), r, hclose, ?_⟩⟩
    exact reader_pure_eq_ok_iff.2 ⟨rfl, rfl⟩

/-- The elements of a list and its end, in its bracket. -/
theorem listBody_eq_ok_iff (hR : Reads R Means) (f : List α → β) {y : β} (h : WrittenItems true vs s t) :
    (inBracket .list do
      let as ← elements R true (s.length + 1)
      endList
      return f as) s = .ok (y, r) ↔ (∃ as, List.Forall₂ Means vs as ∧ y = f as) ∧ r = t := by
  apply inBracket_end_eq_ok_iff f
  · intro as r'
    exact elements_eq_ok_iff hR h (Nat.lt_succ_of_le h.count_le)
  · exact endList_closing (.refl _)

/-- What a list means whose elements mean something. -/
def ListMeans (Means : Value → α → Prop) (v : Value) (as : List α) : Prop :=
  ∃ vs, v = .list vs ∧ List.Forall₂ Means vs as

/-- If each element is spelled in one way, so is the list. -/
theorem listMeans_eq_iff {f : α → Value} {as : List α} :
    ListMeans (fun v a => v = f a) v as ↔ v = .list (as.map f) := by
  have hall : ∀ vs, List.Forall₂ (fun v a => v = f a) vs as ↔ vs = as.map f := by
    intro vs
    rw [← List.forall₂_eq_eq_eq, List.forall₂_map_right_iff]
  unfold ListMeans
  simp only [hall, exists_eq_right]

/-- **A list is read exactly if each of its elements is.** -/
theorem reads_listValue (hR : Reads R Means) : Reads (listValue R) (ListMeans Means) := by
  intro v s s' t hv _ hblanks as r
  obtain ⟨c, r', hskip, rfl, hbegins⟩ := hv.skip hblanks
  unfold listValue
  rw [hskip]
  split
  · contradiction
  · rename_i heq
    cases heq
    obtain ⟨vs, rfl⟩ := begins_bracket_iff.1 hbegins
    cases hv with
    | list hitems =>
      apply (listBody_eq_ok_iff hR (fun as => as) hitems).trans
      constructor
      · rintro ⟨⟨as, hall, rfl⟩, rfl⟩
        exact ⟨⟨vs, rfl, hall⟩, rfl⟩
      · rintro ⟨⟨vs', hvs, hall⟩, rfl⟩
        cases hvs
        exact ⟨⟨as, hall, rfl⟩, rfl⟩
  · rename_i hbracket
    constructor
    · exact fun hok => absurd hok refuse_ne_ok
    · rintro ⟨⟨vs, rfl, -⟩, -⟩
      exact absurd (by rw [show c = '[' from hbegins]) (hbracket r')

/-! ### Members -/

theorem nextName_closing {isFirst : Bool} (h : Blanks s ('\x7d' :: t)) :
    nextName isFirst s = .ok (none, '\x7d' :: t) := by
  unfold nextName
  rw [h.skip (by decide)]
  rfl

theorem nextName_of_separated {isFirst : Bool} {k : String} (h : Separated isFirst s ('"' :: s'))
    (hname : WrittenChars k.toList s' t) : nextName isFirst s = .ok (some k, t) := by
  have htext := text_of_written hname
  unfold nextName
  cases h with
  | first hblanks =>
    rw [hblanks.skip (by decide)]
    simp [htext, bind, Except.bind]
  | more hcomma hblanks =>
    rw [hcomma.skip (by decide)]
    simp [hblanks.skip (c := '"') (by decide), htext, bind, Except.bind]

theorem colon_of_blanks (h : Blanks s (':' :: t)) : colon s = .ok ((), t) := by
  unfold colon
  rw [h.skip (by decide)]
  rfl

theorem endObject_closing (h : Blanks s ('\x7d' :: t)) : endObject s = .ok ((), t) := by
  unfold endObject
  rw [h.skip (by decide)]
  rfl

/-- Behind a name, what the member does to what is known depends on the value and not on its spelling. -/
def ReadsMember (member : String → δ → Reader δ) (Step : String → Value → δ → δ → Prop) : Prop :=
  ∀ (k : String) (known : δ) ⦃v : Value⦄ ⦃s s₁ s₂ t : List Char⦄,
    Blanks s (':' :: s₁) → Blanks s₁ s₂ → Written v s₂ t → Delimited t →
      ∀ (d : δ) (r : List Char), member k known s = .ok (d, r) ↔ Step k v known d ∧ r = t

/-- A step for each member, one after another. -/
inductive Steps (Step : String → Value → δ → δ → Prop) : List (String × Value) → δ → δ → Prop
  | nil (d : δ) : Steps Step [] d d
  | cons {k : String} {v : Value} {ms : List (String × Value)} {d d₁ d₂ : δ} :
      Step k v d d₁ → Steps Step ms d₁ d₂ → Steps Step ((k, v) :: ms) d d₂

/-- The members are taken one by one, up to the closing bracket. -/
theorem members_eq_ok_iff {member : String → δ → Reader δ} {Step : String → Value → δ → δ → Prop}
    (hmember : ReadsMember member Step) {isFirst : Bool} {n : Nat} {known d : δ}
    (h : WrittenMembers isFirst ms s t) (hn : ms.length < n) :
    members member isFirst n known s = .ok (d, r) ↔ Steps Step ms known d ∧ r = '\x7d' :: t := by
  induction ms generalizing isFirst n s known r with
  | nil =>
    obtain ⟨n, rfl⟩ := Nat.exists_eq_add_of_lt hn
    cases h with
    | nil hblanks =>
      show (nextName isFirst s >>= _) = _ ↔ _
      rw [nextName_closing hblanks]
      show Except.ok (known, '\x7d' :: t) = Except.ok (d, r) ↔ _
      constructor
      · rintro ⟨⟩
        exact ⟨.nil _, rfl⟩
      · rintro ⟨⟨⟩, rfl⟩
        rfl
  | cons m ms ih =>
    obtain ⟨n, rfl⟩ : ∃ n', n = n' + 1 := ⟨n - 1, by omega⟩
    have hroom : ms.length < n := Nat.lt_of_succ_lt_succ hn
    cases h with
    | @cons _ k v _ _ s₁ s₂ s₃ s₄ s₅ _ hseparated hname hcolon hblanks hvalue hrest =>
      have hstep := hmember k known hcolon hblanks hvalue hrest.delimited
      show (nextName isFirst s >>= _) = _ ↔ _
      rw [nextName_of_separated hseparated hname]
      show (member k known s₂ >>= fun p => members member false n p.1 p.2) = .ok (d, r) ↔ _
      constructor
      · intro hok
        obtain ⟨⟨d₁, s₆⟩, hfirst, hok⟩ := bind_eq_ok_iff.1 hok
        obtain ⟨hfirst, rfl⟩ := (hstep d₁ s₆).1 hfirst
        obtain ⟨hsteps, rfl⟩ := (ih hrest hroom).1 hok
        exact ⟨.cons hfirst hsteps, rfl⟩
      · rintro ⟨hsteps, rfl⟩
        cases hsteps with
        | cons hfirst hsteps =>
          have hok := (hstep _ _).2 ⟨hfirst, rfl⟩
          have hrest := (ih hrest hroom).2 ⟨hsteps, rfl⟩
          exact bind_eq_ok_iff.2 ⟨_, hok, hrest⟩

/-- The members of an object and its end, in its bracket. -/
theorem objectBody_eq_ok_iff {member : String → δ → Reader δ} {Step : String → Value → δ → δ → Prop}
    (hmember : ReadsMember member Step) (start : δ) {d : δ} (h : WrittenMembers true ms s t) :
    objectBody member start s = .ok (d, r) ↔ Steps Step ms start d ∧ r = t := by
  have hbody : objectBody member start s = .ok (d, r) ↔ (∃ d', Steps Step ms start d' ∧ d = d') ∧ r = t := by
    apply inBracket_end_eq_ok_iff fun known => known
    · intro d' r'
      exact members_eq_ok_iff hmember h (Nat.lt_succ_of_le h.count_le)
    · exact endObject_closing (.refl _)
  rw [hbody, exists_eq_right']

/-- Members of one kind are put in front of those that are known. -/
theorem readsMember_cons (hR : Reads R Means) :
    ReadsMember (fun k (known : List (String × α)) => do
      colon
      let a ← R
      return (k, a) :: known) fun k v known d => ∃ a, Means v a ∧ d = (k, a) :: known := by
  intro k known v s s₁ s₂ t hcolon hblanks hv ht d r
  have hvalue := hR hv ht hblanks
  rw [reader_bind_eq_ok_iff]
  constructor
  · rintro ⟨_, s₃, hok, hrest⟩
    rw [colon_of_blanks hcolon] at hok
    cases hok
    obtain ⟨a, s₄, ha, hok⟩ := reader_bind_eq_ok_iff.1 hrest
    obtain ⟨hmeans, rfl⟩ := (hvalue a s₄).1 ha
    obtain ⟨rfl, rfl⟩ := reader_pure_eq_ok_iff.1 hok
    exact ⟨⟨a, hmeans, rfl⟩, rfl⟩
  · rintro ⟨⟨a, hmeans, rfl⟩, rfl⟩
    have ha := (hvalue a r).2 ⟨hmeans, rfl⟩
    refine ⟨(), s₁, colon_of_blanks hcolon, reader_bind_eq_ok_iff.2 ⟨a, r, ha, ?_⟩⟩
    exact reader_pure_eq_ok_iff.2 ⟨rfl, rfl⟩

/-- What the members of an object mean whose values mean something. -/
def MembersMean (Means : Value → α → Prop) : List (String × Value) → List (String × α) → Prop :=
  List.Forall₂ fun m a => a.1 = m.1 ∧ Means m.2 a.2

theorem steps_cons_iff {known d : List (String × α)} :
    Steps (fun k v known d => ∃ a, Means v a ∧ d = (k, a) :: known) ms known d ↔
      ∃ as, MembersMean Means ms as ∧ d = as.reverse ++ known := by
  constructor
  · intro h
    induction h with
    | nil d => exact ⟨[], .nil, rfl⟩
    | @cons k v ms _ _ _ hstep _ ih =>
      obtain ⟨a, hmeans, rfl⟩ := hstep
      obtain ⟨as, hall, rfl⟩ := ih
      exact ⟨(k, a) :: as, .cons ⟨rfl, hmeans⟩ hall, by simp⟩
  · rintro ⟨as, hall, rfl⟩
    induction hall generalizing known with
    | nil => exact .nil known
    | @cons m a ms as hhead _ ih =>
      obtain ⟨k, v⟩ := m
      obtain ⟨k', a⟩ := a
      obtain ⟨rfl, hmeans⟩ : k' = k ∧ Means v a := hhead
      rw [List.reverse_cons, List.append_assoc]
      exact .cons ⟨a, hmeans, rfl⟩ ih

/-- The members of an object of one kind, in their order, and its end. -/
theorem objectBody_cons_eq_ok_iff (hR : Reads R Means) (f : List (String × α) → β) {y : β}
    (h : WrittenMembers true ms s t) :
    (do let (as, s) ← objectBody (fun k (known : List (String × α)) => do
          colon
          let a ← R
          return (k, a) :: known) [] s
        .ok (f as.reverse, s)) = .ok (y, r) ↔ (∃ as, MembersMean Means ms as ∧ y = f as) ∧ r = t := by
  have hbody (ds : List (String × α)) (r : List Char) :=
    objectBody_eq_ok_iff (r := r) (d := ds) (readsMember_cons hR) [] h
  constructor
  · intro hok
    obtain ⟨⟨ds, s₁⟩, hds, hok⟩ := bind_eq_ok_iff.1 hok
    obtain ⟨hsteps, rfl⟩ := (hbody ds s₁).1 hds
    obtain ⟨as, hall, rfl⟩ := steps_cons_iff.1 hsteps
    cases hok
    rw [List.append_nil, List.reverse_reverse]
    exact ⟨⟨as, hall, rfl⟩, rfl⟩
  · rintro ⟨⟨as, hall, rfl⟩, rfl⟩
    have hds := (hbody _ r).2 ⟨steps_cons_iff.2 ⟨as, hall, rfl⟩, rfl⟩
    refine bind_eq_ok_iff.2 ⟨_, hds, ?_⟩
    simp only [List.append_nil, List.reverse_reverse]

/-- What an object means whose members mean something. -/
def ObjectMeans (Means : Value → α → Prop) (v : Value) (as : List (String × α)) : Prop :=
  ∃ ms, v = .object ms ∧ MembersMean Means ms as

/-- **An object is read exactly if each of its members is.** -/
theorem reads_objectValue (hR : Reads R Means) : Reads (objectValue R) (ObjectMeans Means) := by
  intro v s s' t hv _ hblanks as r
  obtain ⟨c, r', hskip, rfl, hbegins⟩ := hv.skip hblanks
  unfold objectValue
  rw [hskip]
  split
  · contradiction
  · rename_i heq
    cases heq
    obtain ⟨ms, rfl⟩ := begins_brace_iff.1 hbegins
    cases hv with
    | object hmembers =>
      apply (objectBody_cons_eq_ok_iff hR (fun as => as) hmembers).trans
      constructor
      · rintro ⟨⟨as, hall, rfl⟩, rfl⟩
        exact ⟨⟨ms, rfl, hall⟩, rfl⟩
      · rintro ⟨⟨_, ⟨⟩, hall⟩, rfl⟩
        exact ⟨⟨as, hall, rfl⟩, rfl⟩
  · rename_i hbrace
    constructor
    · exact fun hok => absurd hok refuse_ne_ok
    · rintro ⟨⟨ms, rfl, -⟩, -⟩
      exact absurd (by rw [show c = '\x7b' from hbegins]) (hbrace r')

/-! ### Any value -/

/-- Fewer than that many brackets are open at once in the value, and its numbers are in range. -/
def Value.Fits : Nat → Value → Prop
  | 0, _ => False
  | n + 1, v =>
    match v with
    | .number m => ∃ x, m.number = .ok x
    | .list vs => n ≠ 0 ∧ ∀ v ∈ vs, v.Fits n
    | .object ms => n ≠ 0 ∧ ∀ m ∈ ms, m.2.Fits n
    | _ => True

theorem scalar_number {m : Numeral} {a : Value} (ht : Delimited t) :
    scalar (m.render ++ t) = .ok (a, r) ↔ (a = .number m ∧ ∃ x, m.number = .ok x) ∧ r = t := by
  obtain ⟨c, r', hrender, hbegins⟩ := m.render_begins
  have hnumeral := numeral_render .endInValue m ht
  rw [hrender, List.cons_append] at hnumeral ⊢
  unfold scalar
  simp only
  split
  -- no word and no string begins like a number
  iterate 4 exact absurd hbegins (by decide)
  rw [if_pos hbegins]
  unfold number
  rw [hnumeral]
  simp only [bind, Except.bind]
  cases m.number with
  | error left => simp
  | ok x =>
    simp only [Except.ok.injEq, Prod.mk.injEq, exists_eq', and_true]
    rw [eq_comm, @eq_comm _ t]

theorem scalar_eq_ok_iff {n : Nat} {a : Value} (h : Written v s t) (ht : Delimited t)
    (hlist : ∀ vs, v ≠ .list vs) (hobject : ∀ ms, v ≠ .object ms) :
    scalar s = .ok (a, r) ↔ (a = v ∧ v.Fits (n + 1)) ∧ r = t := by
  cases h with
  | null => simp [scalar, word_null, bind, Except.bind, Value.Fits, eq_comm]
  | bool b =>
    cases b with
    | true => simp [scalar, renderBool, word_true, bind, Except.bind, Value.Fits, eq_comm]
    | false => simp [scalar, renderBool, word_false, bind, Except.bind, Value.Fits, eq_comm]
  | number m => exact scalar_number ht
  | text hchars => simp [scalar, text_of_written hchars, bind, Except.bind, Value.Fits, eq_comm]
  | list => exact absurd rfl (hlist _)
  | object => exact absurd rfl (hobject _)

theorem membersMean_eq_iff {p : Value → Prop} {as : List (String × Value)} :
    MembersMean (fun v a => a = v ∧ p v) ms as ↔ as = ms ∧ ∀ m ∈ ms, p m.2 := by
  have hsame : (fun m a : String × Value => a.1 = m.1 ∧ a.2 = m.2 ∧ p m.2) = fun m a => a = m ∧ p m.2 := by
    funext m a
    simp only [Prod.ext_iff, and_assoc]
  unfold MembersMean
  rw [hsame, forall₂_eq_and_iff]

/-- **Any value is read as itself**, if it is not nested too deep and its numbers are in range. -/
theorem reads_anyValue (n : Nat) : Reads (anyValue n) fun v a => a = v ∧ v.Fits n := by
  induction n with
  | zero =>
    intro v s s' t _ _ _ a r
    exact ⟨nofun, fun h => h.1.2.elim⟩
  | succ n ih =>
    intro v s s' t hv ht hblanks a r
    obtain ⟨c, r', hskip, hs, hbegins⟩ := hv.skip hblanks
    unfold anyValue
    rw [hskip]
    split
    · rename_i heq
      cases heq
      subst hs
      obtain ⟨vs, rfl⟩ := begins_bracket_iff.1 hbegins
      by_cases hn : n = 0
      · rw [if_pos hn]
        exact ⟨nofun, fun h => absurd hn h.1.2.1⟩
      · rw [if_neg hn]
        cases hv with
        | list hitems =>
          rw [listBody_eq_ok_iff ih Value.list hitems]
          constructor
          · rintro ⟨⟨as, hall, rfl⟩, rfl⟩
            obtain ⟨rfl, hfits⟩ := forall₂_eq_and_iff.1 hall
            exact ⟨⟨rfl, hn, hfits⟩, rfl⟩
          · rintro ⟨⟨rfl, -, hfits⟩, rfl⟩
            exact ⟨⟨vs, forall₂_eq_and_iff.2 ⟨rfl, hfits⟩, rfl⟩, rfl⟩
    · rename_i heq
      cases heq
      subst hs
      obtain ⟨ms, rfl⟩ := begins_brace_iff.1 hbegins
      by_cases hn : n = 0
      · rw [if_pos hn]
        exact ⟨nofun, fun h => absurd hn h.1.2.1⟩
      · rw [if_neg hn]
        cases hv with
        | object hmembers =>
          rw [objectBody_cons_eq_ok_iff ih Value.object hmembers]
          constructor
          · rintro ⟨⟨as, hall, rfl⟩, rfl⟩
            obtain ⟨rfl, hfits⟩ := membersMean_eq_iff.1 hall
            exact ⟨⟨rfl, hn, hfits⟩, rfl⟩
          · rintro ⟨⟨rfl, -, hfits⟩, rfl⟩
            exact ⟨⟨ms, membersMean_eq_iff.2 ⟨rfl, hfits⟩, rfl⟩, rfl⟩
    · rename_i hbracket hbrace
      subst hs
      apply scalar_eq_ok_iff hv ht
      · rintro vs rfl
        exact hbracket r' (by rw [show c = '[' from hbegins])
      · rintro ms rfl
        exact hbrace r' (by rw [show c = '\x7b' from hbegins])

/-! ### Documents -/

/-- **A whole text is read exactly as the value that is written in it.** -/
theorem Reads.document_eq_ok_iff {text : String} {a : α} (hR : Reads R Means) (h : WrittenDocument v text) :
    R.document text = .ok a ↔ Means v a := by
  obtain ⟨s, t, hbefore, hv, hafter⟩ := h
  have hiff := hR hv (hafter.delimited delimited_nil) hbefore
  have hskip : skipBlanks t = [] := skipBlanks_of_blanks hafter
  cases hresult : R text.toList with
  | error failure =>
    simp only [Reader.document, hresult]
    constructor
    · exact fun h => nomatch h
    · intro hmeans
      have hok := (hiff a t).2 ⟨hmeans, rfl⟩
      rw [hresult] at hok
      cases hok
  | ok p =>
    obtain ⟨b, r⟩ := p
    obtain ⟨hmeans, rfl⟩ := (hiff b r).1 hresult
    simp only [Reader.document, hresult, hskip]
    constructor
    · rintro ⟨⟩
      exact hmeans
    · intro hmeans'
      have hok := (hiff a r).2 ⟨hmeans', rfl⟩
      rw [hresult] at hok
      cases hok
      rfl

/-- A text with a list is read exactly as what its elements mean. -/
theorem Reads.listDocument_eq_ok_iff {text : String} {as : List α} (hR : Reads R Means)
    (h : WrittenDocument (.list vs) text) :
    (listValue R).document text = .ok as ↔ List.Forall₂ Means vs as := by
  rw [(reads_listValue hR).document_eq_ok_iff h]
  constructor
  · rintro ⟨_, ⟨⟩, hall⟩
    exact hall
  · exact fun hall => ⟨vs, rfl, hall⟩

end BindingPipeline.Json
