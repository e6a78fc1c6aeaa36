/-
BindingPipeline/Proofs/Json/Written.lean

The grammar of JSON: how a value can be written.  `Written v s t` says that the text `s` begins with a
spelling of `v` and goes on with `t`.  A value has many spellings, since blanks may stand around every part
of it and characters of a string may be escaped; a number has the one by which it is known.

Design.  The grammar speaks of what is left of a text, as the readers do, so that no text is ever cut in
two.  Nothing in it refers to a reader.  What may follow a value in a document is said apart
(`Delimited`), because only a number needs it: its last digit is the last one only if no other follows.

The compact form of a value is one of its spellings (`written_compact`), and so is the laid-out one
(`written_pretty`).
-/
import BindingPipeline.Json.Printer
import BindingPipeline.Json.Token

namespace BindingPipeline.Json

/-! ### The grammar -/

/-- From the first text blanks lead to the second one. -/
inductive Blanks : List Char → List Char → Prop
  | refl (s : List Char) : Blanks s s
  | cons {c : Char} {s t : List Char} : isBlank c = true → Blanks s t → Blanks (c :: s) t

/-- The escapes of one letter, with the characters that they stand for. -/
def shortEscapes : List (Char × Char) :=
  [('"', '"'), ('\\', '\\'), ('/', '/'), ('b', '\x08'), ('f', '\x0c'), ('n', '\n'), ('r', '\r'), ('t', '\t')]

/-- A character of a string: it stands for itself, or it is escaped by a letter, by its number, or by the
two numbers of a pair. -/
inductive WrittenChar : Char → List Char → List Char → Prop
  | plain {c : Char} (t : List Char) :
      c ≠ '"' → c ≠ '\\' → 32 ≤ c.toNat → WrittenChar c (c :: t) t
  | short {e c : Char} (t : List Char) : (e, c) ∈ shortEscapes → WrittenChar c ('\\' :: e :: t) t
  | unit {c : Char} {ds : List Char} (t : List Char) :
      ds.length = 4 → hexUnit? ds = some c.toNat → WrittenChar c ('\\' :: 'u' :: (ds ++ t)) t
  | pair {high low : Nat} {ds es : List Char} (t : List Char) :
      ds.length = 4 → hexUnit? ds = some high → isHighSurrogate high = true →
      es.length = 4 → hexUnit? es = some low → isLowSurrogate low = true →
      WrittenChar (pairChar high low) ('\\' :: 'u' :: (ds ++ '\\' :: 'u' :: (es ++ t))) t

/-- The characters of a string, up to and with the closing quote. -/
inductive WrittenChars : List Char → List Char → List Char → Prop
  | nil (t : List Char) : WrittenChars [] ('"' :: t) t
  | cons {c : Char} {cs s s' t : List Char} :
      WrittenChar c s s' → WrittenChars cs s' t → WrittenChars (c :: cs) s t

/-- What stands in front of an element or member: blanks, and a comma unless it is the first one. -/
inductive Separated : Bool → List Char → List Char → Prop
  | first {s t : List Char} : Blanks s t → Separated true s t
  | more {s s' t : List Char} : Blanks s (',' :: s') → Blanks s' t → Separated false s t

mutual

/-- The text begins with a spelling of the value, and goes on with the other text. -/
inductive Written : Value → List Char → List Char → Prop
  | null (t : List Char) : Written .null ('n' :: 'u' :: 'l' :: 'l' :: t) t
  | bool (b : Bool) (t : List Char) : Written (.bool b) (renderBool b ++ t) t
  | number (n : Numeral) (t : List Char) : Written (.number n) (n.render ++ t) t
  | text {k : String} {s t : List Char} : WrittenChars k.toList s t → Written (.text k) ('"' :: s) t
  | list {vs : List Value} {s t : List Char} : WrittenItems true vs s t → Written (.list vs) ('[' :: s) t
  | object {ms : List (String × Value)} {s t : List Char} :
      WrittenMembers true ms s t → Written (.object ms) ('\x7b' :: s) t

/-- The elements of a list, from the first or from a later one on, and its closing bracket. -/
inductive WrittenItems : Bool → List Value → List Char → List Char → Prop
  | nil {isFirst : Bool} {s t : List Char} : Blanks s (']' :: t) → WrittenItems isFirst [] s t
  | cons {isFirst : Bool} {v : Value} {vs : List Value} {s s₁ s₂ t : List Char} :
      Separated isFirst s s₁ → Written v s₁ s₂ → WrittenItems false vs s₂ t →
      WrittenItems isFirst (v :: vs) s t

/-- The members of an object, from the first or from a later one on, and its closing bracket. -/
inductive WrittenMembers : Bool → List (String × Value) → List Char → List Char → Prop
  | nil {isFirst : Bool} {s t : List Char} : Blanks s ('\x7d' :: t) → WrittenMembers isFirst [] s t
  | cons {isFirst : Bool} {k : String} {v : Value} {ms : List (String × Value)}
      {s s₁ s₂ s₃ s₄ s₅ t : List Char} :
      Separated isFirst s ('"' :: s₁) → WrittenChars k.toList s₁ s₂ →
      Blanks s₂ (':' :: s₃) → Blanks s₃ s₄ → Written v s₄ s₅ → WrittenMembers false ms s₅ t →
      WrittenMembers isFirst ((k, v) :: ms) s t

end

/-- The whole text is a spelling of the value, with blanks around it. -/
def WrittenDocument (v : Value) (text : String) : Prop :=
  ∃ s t, Blanks text.toList s ∧ Written v s t ∧ Blanks t []

/-! ### Blanks -/

/-- What may follow a value: nothing, a blank, a comma or a closing bracket. -/
def Delimited (t : List Char) : Prop :=
  ∀ c ∈ t.head?, isBlank c = true ∨ c = ',' ∨ c = ']' ∨ c = '\x7d'

theorem Blanks.delimited {s t : List Char} (h : Blanks s t) (ht : Delimited t) : Delimited s := by
  cases h with
  | refl => exact ht
  | cons hc _ =>
    intro c' hc'
    obtain rfl := Option.some.inj hc'
    exact .inl hc

theorem delimited_nil : Delimited [] := nofun

theorem delimited_cons {c : Char} (h : c = ',' ∨ c = ']' ∨ c = '\x7d') (t : List Char) :
    Delimited (c :: t) := by
  intro c' hc'
  obtain rfl := Option.some.inj hc'
  exact .inr h

theorem skipBlanks_of_blanks {s t : List Char} (h : Blanks s t) : skipBlanks s = skipBlanks t := by
  induction h with
  | refl => rfl
  | cons hc _ ih =>
    unfold skipBlanks at ih ⊢
    rw [List.dropWhile_cons, if_pos hc, ih]

theorem skipBlanks_cons {c : Char} (h : isBlank c = false) (t : List Char) :
    skipBlanks (c :: t) = c :: t := by
  unfold skipBlanks
  rw [List.dropWhile_cons, h, if_neg Bool.false_ne_true]

/-- Blanks in front of a character that is none are passed over. -/
theorem Blanks.skip {c : Char} {s t : List Char} (h : Blanks s (c :: t)) (hc : isBlank c = false) :
    skipBlanks s = c :: t := by
  rw [skipBlanks_of_blanks h, skipBlanks_cons hc]

theorem WrittenItems.delimited {vs : List Value} {s t : List Char} (h : WrittenItems false vs s t) :
    Delimited s := by
  cases h with
  | nil hblanks => exact hblanks.delimited (delimited_cons (.inr (.inl rfl)) t)
  | cons hseparated =>
    cases hseparated with
    | more hblanks _ => exact hblanks.delimited (delimited_cons (.inl rfl) _)

theorem WrittenMembers.delimited {ms : List (String × Value)} {s t : List Char}
    (h : WrittenMembers false ms s t) : Delimited s := by
  cases h with
  | nil hblanks => exact hblanks.delimited (delimited_cons (.inr (.inr rfl)) t)
  | cons hseparated =>
    cases hseparated with
    | more hblanks _ => exact hblanks.delimited (delimited_cons (.inl rfl) _)

/-! ### First characters -/

/-- The characters with which spellings of the value begin. -/
def Value.Begins : Value → Char → Prop
  | .null, c => c = 'n'
  | .bool b, c => c = if b then 't' else 'f'
  | .number _, c => c = '-' ∨ (digit? c).isSome
  | .text _, c => c = '"'
  | .list _, c => c = '['
  | .object _, c => c = '\x7b'

theorem digit?_char (d : Digit) : digit? d.char = some d := by
  revert d
  decide

theorem digitChar_eq {d : Nat} (h : d < 10) : Nat.digitChar d = Digit.char ⟨d, h⟩ := by
  have table : ∀ d : Fin 10, Nat.digitChar d = Digit.char d := by decide
  exact table ⟨d, h⟩

theorem ofDigits_concat (ds : List Digit) (d : Digit) : ofDigits (ds ++ [d]) = ofDigits ds * 10 + d.val := by
  unfold ofDigits
  rw [List.foldl_append]
  rfl

/-- The digits of a number: there is a first one, they spell the number, and only a zero begins with a
zero. -/
theorem exists_digits (n : Nat) : ∃ (d : Digit) (ds : List Digit),
    Nat.toDigits 10 n = (d :: ds).map Digit.char ∧ ofDigits (d :: ds) = n ∧ (d = 0 → ds = []) := by
  induction n using Nat.strongRecOn with
  | _ n ih =>
    rcases Nat.lt_or_ge n 10 with hlt | hge
    · refine ⟨⟨n, hlt⟩, [], ?_, ?_, fun _ => rfl⟩
      · rw [Nat.toDigits_of_lt_base hlt, digitChar_eq hlt]
        rfl
      · simp [ofDigits]
    · obtain ⟨d, ds, hdigits, hvalue, hzero⟩ := ih (n / 10) (by omega)
      have hlast : n % 10 < 10 := Nat.mod_lt n (by decide)
      refine ⟨d, ds ++ [⟨n % 10, hlast⟩], ?_, ?_, fun hd => ?_⟩
      · rw [Nat.toDigits_of_base_le (by decide) hge, hdigits, digitChar_eq hlast, ← List.cons_append,
          List.map_append]
        rfl
      · rw [← List.cons_append, ofDigits_concat, hvalue]
        exact Nat.div_add_mod' n 10
      · -- the number would be below ten
        obtain rfl := hzero hd
        subst hd
        have : n / 10 = 0 := hvalue.symm
        omega

/-- A number begins with its sign or with a digit. -/
theorem Numeral.render_begins (n : Numeral) :
    ∃ c s, n.render = c :: s ∧ (c = '-' ∨ (digit? c).isSome) := by
  obtain ⟨d, ds, hdigits, -, -⟩ := exists_digits n.whole
  unfold Numeral.render
  cases n.negative with
  | true => exact ⟨'-', _, rfl, .inl rfl⟩
  | false =>
    rw [hdigits]
    refine ⟨d.char, _, rfl, .inr ?_⟩
    rw [digit?_char]
    rfl

theorem Written.begins {v : Value} {s t : List Char} (h : Written v s t) :
    ∃ c r, s = c :: r ∧ v.Begins c := by
  cases h with
  | null => exact ⟨_, _, rfl, rfl⟩
  | bool b =>
    cases b with
    | true => exact ⟨_, _, rfl, rfl⟩
    | false => exact ⟨_, _, rfl, rfl⟩
  | number n =>
    obtain ⟨c, r, hrender, hbegins⟩ := n.render_begins
    exact ⟨c, r ++ t, by rw [hrender]; rfl, hbegins⟩
  | text => exact ⟨_, _, rfl, rfl⟩
  | list => exact ⟨_, _, rfl, rfl⟩
  | object => exact ⟨_, _, rfl, rfl⟩

/-- No value begins with a blank or with a character that ends a value. -/
theorem Value.Begins.ne {v : Value} {c : Char} (h : v.Begins c) :
    isBlank c = false ∧ c ≠ ',' ∧ c ≠ ']' ∧ c ≠ '\x7d' := by
  have hdigit : (digit? c).isSome → isBlank c = false ∧ c ≠ ',' ∧ c ≠ ']' ∧ c ≠ '\x7d' := by
    intro hsome
    have hnone : ∀ x ∈ [' ', '\t', '\n', '\r', ',', ']', '\x7d'], digit? x = none := by simp [digit?]
    have hne : ∀ x ∈ [' ', '\t', '\n', '\r', ',', ']', '\x7d'], c ≠ x := by
      rintro x hx rfl
      rw [hnone c hx] at hsome
      cases hsome
    simp only [List.forall_mem_cons] at hne
    obtain ⟨hspace, htab, hline, hreturn, hcomma, hbracket, hbrace, -⟩ := hne
    refine ⟨?_, hcomma, hbracket, hbrace⟩
    simp [isBlank, hspace, htab, hline, hreturn]
  cases v with
  | null => rw [show c = 'n' from h]; decide
  | bool b =>
    cases b with
    | true => rw [show c = 't' from h]; decide
    | false => rw [show c = 'f' from h]; decide
  | number n =>
    rcases h with rfl | hsome
    · decide
    · exact hdigit hsome
  | text k => rw [show c = '"' from h]; decide
  | list vs => rw [show c = '[' from h]; decide
  | object ms => rw [show c = '\x7b' from h]; decide

/-! ### Lengths -/

theorem Blanks.length_le {s t : List Char} (h : Blanks s t) : t.length ≤ s.length := by
  induction h with
  | refl => exact Nat.le_refl _
  | cons _ _ ih => exact Nat.le_succ_of_le ih

theorem Separated.length_le {isFirst : Bool} {s t : List Char} (h : Separated isFirst s t) :
    t.length ≤ s.length := by
  cases h with
  | first hblanks => exact hblanks.length_le
  | more hcomma hblanks => exact Nat.le_trans (Nat.le_succ_of_le hblanks.length_le) hcomma.length_le

theorem WrittenChars.length_lt {cs s t : List Char} (h : WrittenChars cs s t) : t.length < s.length := by
  induction h with
  | nil => exact Nat.lt_succ_self _
  | cons hc _ ih =>
    refine Nat.lt_trans ih ?_
    cases hc with
    | plain => exact Nat.lt_succ_self _
    | short => simp only [List.length_cons]; omega
    | unit => simp only [List.length_cons, List.length_append]; omega
    | pair => simp only [List.length_cons, List.length_append]; omega

mutual

theorem Written.length_lt {v : Value} {s t : List Char} (h : Written v s t) : t.length < s.length := by
  cases h with
  | null => simp only [List.length_cons]; omega
  | bool b =>
    cases b with
    | true =>
      simp [renderBool]
      omega
    | false =>
      simp [renderBool]
      omega
  | number n =>
    obtain ⟨c, r, hrender, -⟩ := n.render_begins
    rw [hrender, List.length_append, List.length_cons]
    omega
  | text hchars => exact Nat.lt_succ_of_lt hchars.length_lt
  | list hitems => exact Nat.lt_succ_of_lt hitems.length_lt
  | object hmembers => exact Nat.lt_succ_of_lt hmembers.length_lt

theorem WrittenItems.length_lt {isFirst : Bool} {vs : List Value} {s t : List Char}
    (h : WrittenItems isFirst vs s t) : t.length < s.length := by
  cases h with
  | nil hblanks => exact hblanks.length_le
  | cons hseparated hvalue hrest =>
    exact Nat.lt_trans hrest.length_lt (Nat.lt_of_lt_of_le hvalue.length_lt hseparated.length_le)

theorem WrittenMembers.length_lt {isFirst : Bool} {ms : List (String × Value)} {s t : List Char}
    (h : WrittenMembers isFirst ms s t) : t.length < s.length := by
  cases h with
  | nil hblanks => exact hblanks.length_le
  | cons hseparated hname hcolon hblanks hvalue hrest =>
    have hafter := Nat.lt_of_lt_of_le (Nat.lt_trans hrest.length_lt hvalue.length_lt) hblanks.length_le
    have hcolon := hcolon.length_le
    have hbefore := Nat.lt_of_lt_of_le (Nat.lt_succ_of_lt hname.length_lt) hseparated.length_le
    simp only [List.length_cons] at hcolon
    omega

end

/-- No text has room for more elements than characters. -/
theorem WrittenItems.count_le {isFirst : Bool} {vs : List Value} {s t : List Char}
    (h : WrittenItems isFirst vs s t) : vs.length ≤ s.length := by
  induction vs generalizing isFirst s with
  | nil => exact Nat.zero_le _
  | cons v vs ih =>
    cases h with
    | cons hseparated hvalue hrest =>
      have hcount := ih hrest
      have hlt := Nat.lt_of_lt_of_le hvalue.length_lt hseparated.length_le
      rw [List.length_cons]
      omega

theorem WrittenMembers.count_le {isFirst : Bool} {ms : List (String × Value)} {s t : List Char}
    (h : WrittenMembers isFirst ms s t) : ms.length ≤ s.length := by
  induction ms generalizing isFirst s with
  | nil => exact Nat.zero_le _
  | cons m ms ih =>
    cases h with
    | cons hseparated hname hcolon hblanks hvalue hrest =>
      have hcount := ih hrest
      have hafter := Nat.lt_of_lt_of_le hvalue.length_lt hblanks.length_le
      have hcolon := hcolon.length_le
      have hbefore := Nat.lt_of_lt_of_le (Nat.lt_succ_of_lt hname.length_lt) hseparated.length_le
      simp only [List.length_cons] at hcolon ⊢
      omega

/-! ### The compact form -/

theorem writtenChar_escapeChar (c : Char) (t : List Char) : WrittenChar c (escapeChar c ++ t) t := by
  unfold escapeChar
  split
  · exact .short t (by decide)
  · exact .short t (by decide)
  · exact .short t (by decide)
  · exact .short t (by decide)
  · exact .short t (by decide)
  · exact .short t (by decide)
  · exact .short t (by decide)
  · rename_i hquote hslash _ _ _ _ _
    split
    · rename_i hcontrol
      have hhigh := Text.hexDigit?_digitChar (show c.toNat / 16 < 16 by omega)
      have hlow := Text.hexDigit?_digitChar (show c.toNat % 16 < 16 by omega)
      have hzero : Text.hexDigit? '0' = some 0 := rfl
      have hunit : hexUnit? ['0', '0', Nat.digitChar (c.toNat / 16), Nat.digitChar (c.toNat % 16)] =
          some c.toNat := by
        simp only [hexUnit?, List.mapM_cons, List.mapM_nil, hzero, hhigh, hlow, Option.pure_def,
          Option.bind_eq_bind, Option.bind_some, Option.map_some, Text.ofDigits, List.foldl_cons,
          List.foldl_nil]
        congr 1
        omega
      exact .unit t rfl hunit
    · rename_i hcontrol
      exact .plain t hquote hslash (by omega)

theorem writtenChars_flatMap (cs t : List Char) :
    WrittenChars cs (cs.flatMap escapeChar ++ '"' :: t) t := by
  induction cs with
  | nil => exact .nil t
  | cons c cs ih =>
    rw [List.flatMap_cons, List.append_assoc]
    exact .cons (writtenChar_escapeChar c _) ih

theorem writtenChars_renderText (k : String) (t : List Char) :
    ∃ s, renderText k ++ t = '"' :: s ∧ WrittenChars k.toList s t := by
  refine ⟨k.toList.flatMap escapeChar ++ '"' :: t, ?_, writtenChars_flatMap _ t⟩
  unfold renderText
  simp

mutual

/-- The compact form of a value is one of its spellings. -/
theorem written_compact (v : Value) (t : List Char) : Written v (v.compact ++ t) t := by
  match v with
  | .null => exact .null t
  | .bool b => exact .bool b t
  | .number n => exact .number n t
  | .text k =>
    obtain ⟨s, heq, hchars⟩ := writtenChars_renderText k t
    unfold Value.compact
    rw [heq]
    exact .text hchars
  | .list [] => exact .list (.nil (.refl _))
  | .list (v :: vs) =>
    have hfirst := written_compact v (compactItems vs ++ ']' :: t)
    have hrest := written_compactItems vs t
    unfold Value.compact
    simp only [List.cons_append, List.append_assoc, List.nil_append]
    exact .list (.cons (.first (.refl _)) hfirst hrest)
  | .object [] => exact .object (.nil (.refl _))
  | .object ((k, v) :: ms) =>
    have hfirst := written_compact v (compactMembers ms ++ '\x7d' :: t)
    have hrest := written_compactMembers ms t
    obtain ⟨s, heq, hchars⟩ :=
      writtenChars_renderText k (':' :: (v.compact ++ (compactMembers ms ++ '\x7d' :: t)))
    unfold Value.compact compactMember
    simp only [List.cons_append, List.append_assoc, List.nil_append]
    rw [heq]
    exact .object (.cons (.first (.refl _)) hchars (.refl _) (.refl _) hfirst hrest)

theorem written_compactItems (vs : List Value) (t : List Char) :
    WrittenItems false vs (compactItems vs ++ ']' :: t) t := by
  match vs with
  | [] => exact .nil (.refl _)
  | v :: vs =>
    have hfirst := written_compact v (compactItems vs ++ ']' :: t)
    have hrest := written_compactItems vs t
    unfold compactItems
    simp only [List.cons_append, List.append_assoc]
    exact .cons (.more (.refl _) (.refl _)) hfirst hrest

theorem written_compactMembers (ms : List (String × Value)) (t : List Char) :
    WrittenMembers false ms (compactMembers ms ++ '\x7d' :: t) t := by
  match ms with
  | [] => exact .nil (.refl _)
  | (k, v) :: ms =>
    have hfirst := written_compact v (compactMembers ms ++ '\x7d' :: t)
    have hrest := written_compactMembers ms t
    obtain ⟨s, heq, hchars⟩ :=
      writtenChars_renderText k (':' :: (v.compact ++ (compactMembers ms ++ '\x7d' :: t)))
    unfold compactMembers compactMember
    simp only [List.cons_append, List.append_assoc]
    rw [heq]
    exact .cons (.more (.refl _) (.refl _)) hchars (.refl _) (.refl _) hfirst hrest

end

theorem writtenDocument_compact (v : Value) : WrittenDocument v (String.ofList v.compact) := by
  have hwritten := written_compact v []
  rw [List.append_nil] at hwritten
  refine ⟨v.compact, [], ?_, hwritten, .refl _⟩
  rw [String.toList_ofList]
  exact .refl _

/-! ### The laid-out form -/

theorem blanks_freshLine (depth : Nat) (t : List Char) : Blanks (freshLine depth ++ t) t := by
  have hindent : ∀ n, Blanks (List.replicate n ' ' ++ t) t := by
    intro n
    induction n with
    | zero => exact .refl t
    | succ n ih => exact .cons rfl ih
  exact .cons rfl (hindent (2 * depth))

mutual

/-- The laid-out form of a value is one of its spellings, however deep it stands. -/
theorem written_pretty (depth : Nat) (v : Value) (t : List Char) : Written v (v.pretty depth ++ t) t := by
  match v with
  | .null => exact .null t
  | .bool b => exact .bool b t
  | .number n => exact .number n t
  | .text k =>
    obtain ⟨s, heq, hchars⟩ := writtenChars_renderText k t
    unfold Value.pretty
    rw [heq]
    exact .text hchars
  | .list [] => exact .list (.nil (.refl _))
  | .list (v :: vs) =>
    have hend := blanks_freshLine depth (']' :: t)
    have hfirst := written_pretty (depth + 1) v (prettyItems (depth + 1) vs ++ (freshLine depth ++ ']' :: t))
    have hrest := written_prettyItems (depth + 1) vs hend
    unfold Value.pretty
    simp only [List.cons_append, List.append_assoc, List.nil_append]
    exact .list (.cons (.first (blanks_freshLine _ _)) hfirst hrest)
  | .object [] => exact .object (.nil (.refl _))
  | .object ((k, v) :: ms) =>
    have hend := blanks_freshLine depth ('\x7d' :: t)
    have hfirst := written_pretty (depth + 1) v
      (prettyMembers (depth + 1) ms ++ (freshLine depth ++ '\x7d' :: t))
    have hrest := written_prettyMembers (depth + 1) ms hend
    obtain ⟨s, heq, hchars⟩ := writtenChars_renderText k
      (':' :: ' ' :: (v.pretty (depth + 1) ++ (prettyMembers (depth + 1) ms ++ (freshLine depth ++ '\x7d' :: t))))
    unfold Value.pretty prettyMember
    simp only [List.cons_append, List.append_assoc, List.nil_append]
    rw [heq]
    exact .object (.cons (.first (blanks_freshLine _ _)) hchars (.refl _) (.cons rfl (.refl _)) hfirst hrest)

theorem written_prettyItems (depth : Nat) (vs : List Value) {s t : List Char} (hend : Blanks s (']' :: t)) :
    WrittenItems false vs (prettyItems depth vs ++ s) t := by
  match vs with
  | [] => exact .nil hend
  | v :: vs =>
    have hfirst := written_pretty depth v (prettyItems depth vs ++ s)
    have hrest := written_prettyItems depth vs hend
    unfold prettyItems
    simp only [List.cons_append, List.append_assoc]
    exact .cons (.more (.refl _) (blanks_freshLine _ _)) hfirst hrest

theorem written_prettyMembers (depth : Nat) (ms : List (String × Value)) {s t : List Char}
    (hend : Blanks s ('\x7d' :: t)) : WrittenMembers false ms (prettyMembers depth ms ++ s) t := by
  match ms with
  | [] => exact .nil hend
  | (k, v) :: ms =>
    have hfirst := written_pretty depth v (prettyMembers depth ms ++ s)
    have hrest := written_prettyMembers depth ms hend
    obtain ⟨r, heq, hchars⟩ :=
      writtenChars_renderText k (':' :: ' ' :: (v.pretty depth ++ (prettyMembers depth ms ++ s)))
    unfold prettyMembers prettyMember
    simp only [List.cons_append, List.append_assoc]
    rw [heq]
    exact .cons (.more (.refl _) (blanks_freshLine _ _)) hchars (.refl _) (.cons rfl (.refl _)) hfirst hrest

end

end BindingPipeline.Json
