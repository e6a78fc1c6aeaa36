/-
BindingPipeline/Proofs/Json/Token.lean

What the readers of the leaves make of written text: words, numbers and strings come back as they are, and
what follows them is left.

A string is read in two ways.  One puts pairs of units together and gives back the characters; the other,
which only passes over the string, counts each half as a character of its own, but finds the same end.
-/
import BindingPipeline.Proofs.Json.Written

namespace BindingPipeline.Json

variable {c : Char} {cs ds s s' t : List Char} {n : Nat} {paired : Bool}

/-! ### Words -/

theorem word_append (w t : List Char) : word w (w ++ t) = .ok ((), t) := by
  induction w with
  | nil => rfl
  | cons c w ih =>
    rw [List.cons_append, word, if_pos rfl, ih]

theorem word_null (t : List Char) : word ['u', 'l', 'l'] ('u' :: 'l' :: 'l' :: t) = .ok ((), t) :=
  word_append _ t

theorem word_true (t : List Char) : word ['r', 'u', 'e'] ('r' :: 'u' :: 'e' :: t) = .ok ((), t) :=
  word_append _ t

theorem word_false (t : List Char) :
    word ['a', 'l', 's', 'e'] ('a' :: 'l' :: 's' :: 'e' :: t) = .ok ((), t) := word_append _ t

/-! ### Strings -/

theorem hexEscape_append (hlength : ds.length = 4) (hunit : hexUnit? ds = some n) (t : List Char) :
    ∃ h, hexEscape (ds ++ t) = .ok (n, ⟨t, h⟩) := by
  have hshort : ¬ (ds ++ t).length < 4 := by
    rw [List.length_append]
    omega
  have htake : (ds ++ t).take 4 = ds := by rw [← hlength, List.take_left]
  have hdrop : (ds ++ t).drop 4 = t := by rw [← hlength, List.drop_left]
  refine ⟨by rw [List.length_append]; omega, ?_⟩
  unfold hexEscape
  rw [dif_neg hshort]
  simp only [htake, hunit, hdrop]

/-- The number of a character is no half of a pair. -/
theorem toNat_not_surrogate (c : Char) :
    isHighSurrogate c.toNat = false ∧ isLowSurrogate c.toNat = false := by
  have hvalid : c.toNat < 0xD800 ∨ 0xDFFF < c.toNat ∧ c.toNat < 0x110000 := c.valid
  simp only [isHighSurrogate, isLowSurrogate, Bool.and_eq_false_iff, decide_eq_false_iff_not]
  omega

theorem escape_short {e : Char} (h : (e, c) ∈ shortEscapes) (t : List Char) :
    ∃ hlt, escape paired (e :: t) = .ok (c, ⟨t, hlt⟩) := by
  refine ⟨by simp, ?_⟩
  simp only [shortEscapes, List.mem_cons, Prod.mk.injEq, List.not_mem_nil, or_false] at h
  rcases h with ⟨rfl, rfl⟩ | ⟨rfl, rfl⟩ | ⟨rfl, rfl⟩ | ⟨rfl, rfl⟩ | ⟨rfl, rfl⟩ | ⟨rfl, rfl⟩ | ⟨rfl, rfl⟩ |
    ⟨rfl, rfl⟩
  all_goals rfl

theorem escape_unit (hlength : ds.length = 4) (hunit : hexUnit? ds = some c.toNat) (t : List Char) :
    ∃ hlt, escape paired ('u' :: (ds ++ t)) = .ok (c, ⟨t, hlt⟩) := by
  obtain ⟨hlt, hhex⟩ := hexEscape_append hlength hunit t
  obtain ⟨hhigh, hlow⟩ := toNat_not_surrogate c
  refine ⟨by simp only [List.length_cons, List.length_append]; omega, ?_⟩
  unfold escape
  simp [hhex, hhigh, hlow, bind, Except.bind]

theorem escape_pair {high low : Nat} {es : List Char} (hds : ds.length = 4) (hhigh : hexUnit? ds = some high)
    (his : isHighSurrogate high = true) (hes : es.length = 4) (hlow : hexUnit? es = some low)
    (his' : isLowSurrogate low = true) (t : List Char) :
    ∃ hlt, escape true ('u' :: (ds ++ '\\' :: 'u' :: (es ++ t))) =
      .ok (pairChar high low, ⟨t, hlt⟩) := by
  obtain ⟨hlt, hfirst⟩ := hexEscape_append hds hhigh ('\\' :: 'u' :: (es ++ t))
  obtain ⟨hlt', hsecond⟩ := hexEscape_append hes hlow t
  refine ⟨by simp only [List.length_cons, List.length_append]; omega, ?_⟩
  unfold escape
  simp [hfirst, his, secondHalf, hsecond, his', bind, Except.bind]

/-- A half of a pair that is passed over. -/
theorem escape_half {half : Nat} (hlength : ds.length = 4) (hunit : hexUnit? ds = some half)
    (his : isHighSurrogate half = true ∨ isLowSurrogate half = true) (t : List Char) :
    ∃ hlt, escape false ('u' :: (ds ++ t)) = .ok ('\ufffd', ⟨t, hlt⟩) := by
  obtain ⟨hlt, hhex⟩ := hexEscape_append hlength hunit t
  refine ⟨by simp only [List.length_cons, List.length_append]; omega, ?_⟩
  unfold escape
  simp [hhex, his, bind, Except.bind]

theorem textBody_plain (hquote : c ≠ '"') (hslash : c ≠ '\\') (hcontrol : 32 ≤ c.toNat)
    (h : textBody paired s = .ok (ds, t)) : textBody paired (c :: s) = .ok (c :: ds, t) := by
  have hlow : ¬ c.toNat < 32 := by omega
  rw [textBody, if_neg hquote, if_neg hslash, if_neg hlow, h]
  rfl

theorem textBody_escaped {hlt : s'.length < s.length}
    (hescape : escape paired s = .ok (c, ⟨s', hlt⟩)) (h : textBody paired s' = .ok (ds, t)) :
    textBody paired ('\\' :: s) = .ok (c :: ds, t) := by
  rw [textBody, if_neg (by decide), if_pos rfl, hescape]
  simp only [bind, Except.bind, h]

/-- A written character is read, and in a string of pairs it is that character. -/
theorem textBody_of_writtenChar (hc : WrittenChar c s s') (h : textBody paired s' = .ok (ds, t)) :
    ∃ es, textBody paired s = .ok (es, t) ∧ (paired = true → es = c :: ds) := by
  cases hc with
  | plain _ hquote hslash hcontrol =>
    exact ⟨c :: ds, textBody_plain hquote hslash hcontrol h, fun _ => rfl⟩
  | short _ hmem =>
    obtain ⟨hlt, hescape⟩ := escape_short hmem s'
    exact ⟨c :: ds, textBody_escaped hescape h, fun _ => rfl⟩
  | unit _ hlength hunit =>
    obtain ⟨hlt, hescape⟩ := escape_unit hlength hunit s'
    exact ⟨c :: ds, textBody_escaped hescape h, fun _ => rfl⟩
  | pair _ hds hhigh his hes hlow his' =>
    cases paired with
    | true =>
      obtain ⟨hlt, hescape⟩ := escape_pair hds hhigh his hes hlow his' s'
      exact ⟨_, textBody_escaped hescape h, fun _ => rfl⟩
    | false =>
      -- each half is passed over on its own
      obtain ⟨hlt, hsecond⟩ := escape_half hes hlow (.inr his') s'
      obtain ⟨hlt', hfirst⟩ := escape_half hds hhigh (.inl his) _
      exact ⟨_, textBody_escaped hfirst (textBody_escaped hsecond h), nofun⟩

theorem textBody_of_written (h : WrittenChars cs s t) (paired : Bool) :
    ∃ ds, textBody paired s = .ok (ds, t) ∧ (paired = true → ds = cs) := by
  induction h with
  | nil t => exact ⟨[], by rw [textBody, if_pos rfl], fun _ => rfl⟩
  | cons hc _ ih =>
    obtain ⟨ds, hrest, heq⟩ := ih
    obtain ⟨es, hes, hsame⟩ := textBody_of_writtenChar hc hrest
    exact ⟨es, hes, fun hpaired => by rw [hsame hpaired, heq hpaired]⟩

/-- **A string is read as itself**, however it is written. -/
theorem text_of_written {k : String} (h : WrittenChars k.toList s t) : text s = .ok (k, t) := by
  obtain ⟨ds, hbody, heq⟩ := textBody_of_written h true
  obtain rfl := heq rfl
  unfold text
  rw [hbody]
  show Except.ok (String.ofList k.toList, t) = Except.ok (k, t)
  rw [String.ofList_toList]

theorem skipText_of_written (h : WrittenChars cs s t) : skipText s = .ok t := by
  obtain ⟨ds, hbody, -⟩ := textBody_of_written h false
  unfold skipText
  rw [hbody]
  rfl

/-! ### Numbers -/

/-- The text does not go on with a digit. -/
def NoDigit (t : List Char) : Prop := ∀ c ∈ t.head?, digit? c = none

theorem digits_map {ds : List Digit} (h : NoDigit t) : digits (ds.map Digit.char ++ t) = (ds, t) := by
  induction ds with
  | nil =>
    cases t with
    | nil => rfl
    | cons c t =>
      rw [List.map_nil, List.nil_append, digits, h c rfl]
  | cons d ds ih =>
    rw [List.map_cons, List.cons_append, digits, digit?_char, ih]

theorem wholePart_toDigits (atEnd : Cause) (n : Nat) (h : NoDigit t) :
    wholePart atEnd (Nat.toDigits 10 n ++ t) = .ok (n, t) := by
  obtain ⟨d, ds, hdigits, hvalue, hzero⟩ := exists_digits n
  rw [hdigits, List.map_cons, List.cons_append, wholePart, digit?_char]
  have hrest : digits (ds.map Digit.char ++ t) = (ds, t) := digits_map h
  simp only [hrest]
  by_cases hd : d = 0
  · obtain rfl := hzero hd
    subst hd
    rw [if_pos rfl, ← hvalue]
    rfl
  · rw [if_neg hd, hvalue]

theorem someDigits_map (atEnd : Cause) (d : Digit) (ds : List Digit) (h : NoDigit t) :
    someDigits atEnd ((d :: ds).map Digit.char ++ t) = .ok ((d, ds), t) := by
  unfold someDigits
  rw [digits_map h]

/-- The written form of the digits behind the point. -/
def fractionText (ds : List Digit) : List Char := if ds.isEmpty then [] else '.' :: ds.map Digit.char

/-- The written form of an exponent, if there is one. -/
def exponentText (x : Option Exponent) : List Char := x.elim [] Exponent.render

theorem Numeral.render_eq (n : Numeral) : n.render = (if n.negative then ['-'] else []) ++
    Nat.toDigits 10 n.whole ++ fractionText n.fraction ++ exponentText n.exponent := by
  unfold Numeral.render
  cases n.exponent with
  | none => rfl
  | some x => rfl

/-- What may follow the digits behind the point. -/
def NoFraction (t : List Char) : Prop := NoDigit t ∧ t.head? ≠ some '.'

/-- What may follow a number. -/
def NoExponent (t : List Char) : Prop := NoFraction t ∧ t.head? ≠ some 'e' ∧ t.head? ≠ some 'E'

theorem fractionPart_fractionText (atEnd : Cause) (ds : List Digit) (h : NoFraction t) :
    fractionPart atEnd (fractionText ds ++ t) = .ok (ds, t) := by
  cases ds with
  | nil =>
    show fractionPart atEnd t = _
    unfold fractionPart
    split
    · exact absurd rfl h.2
    · rfl
  | cons d ds =>
    have hdigits : someDigits atEnd ((d :: ds).map Digit.char ++ t) = .ok ((d, ds), t) :=
      someDigits_map atEnd d ds h.1
    show fractionPart atEnd ('.' :: ((d :: ds).map Digit.char ++ t)) = _
    simp only [fractionPart, hdigits, bind, Except.bind]

theorem char_ne_sign (d : Digit) : d.char ≠ '+' ∧ d.char ≠ '-' := by
  revert d
  decide

theorem exponentPart_render (atEnd : Cause) (x : Exponent) (h : NoDigit t) :
    exponentPart atEnd (x.render ++ t) = .ok (some x, t) := by
  obtain ⟨capital, sign, first, more⟩ := x
  have hdigits : someDigits atEnd (first.char :: (more.map Digit.char ++ t)) = .ok ((first, more), t) :=
    someDigits_map atEnd first more h
  obtain ⟨hplus, hminus⟩ := char_ne_sign first
  rcases capital with - | -
  all_goals
    rcases sign with - | - | -
    · simp [Exponent.render, exponentPart, hdigits, hplus, hminus, bind, Except.bind]
    · simp [Exponent.render, exponentPart, hdigits, bind, Except.bind]
    · simp [Exponent.render, exponentPart, hdigits, bind, Except.bind]

theorem exponentPart_exponentText (atEnd : Cause) (x : Option Exponent) (h : NoExponent t) :
    exponentPart atEnd (exponentText x ++ t) = .ok (x, t) := by
  obtain ⟨hdigit, hlower, hupper⟩ := h
  cases x with
  | some x => exact exponentPart_render atEnd x hdigit.1
  | none =>
    show exponentPart atEnd t = _
    cases t with
    | nil => rfl
    | cons c t =>
      have hmark : ¬ (c = 'e' ∨ c = 'E') := by
        rintro (rfl | rfl)
        · exact hlower rfl
        · exact hupper rfl
      unfold exponentPart
      exact if_neg hmark

theorem Delimited.noExponent (h : Delimited t) : NoExponent t := by
  have hends : ∀ c ∈ t.head?, c ∈ [' ', '\t', '\n', '\r', ',', ']', '\x7d'] := by
    intro c hc
    simpa [isBlank, or_assoc] using h c hc
  have hother : ∀ c ∈ [' ', '\t', '\n', '\r', ',', ']', '\x7d'],
      digit? c = none ∧ c ≠ '.' ∧ c ≠ 'e' ∧ c ≠ 'E' := by simp [digit?]
  refine ⟨⟨fun c hc => (hother c (hends c hc)).1, fun hpoint => ?_⟩, fun hlower => ?_, fun hupper => ?_⟩
  · exact (hother _ (hends _ hpoint)).2.1 rfl
  · exact (hother _ (hends _ hlower)).2.2.1 rfl
  · exact (hother _ (hends _ hupper)).2.2.2 rfl

theorem noFraction_exponentText (x : Option Exponent) (h : NoExponent t) :
    NoFraction (exponentText x ++ t) := by
  cases x with
  | none => exact h.1
  | some x =>
    have hmark : ∃ c r, x.render = c :: r ∧ (c = 'e' ∨ c = 'E') := by
      unfold Exponent.render
      cases x.capital with
      | true => exact ⟨'E', _, rfl, .inr rfl⟩
      | false => exact ⟨'e', _, rfl, .inl rfl⟩
    obtain ⟨c, r, hrender, hc⟩ := hmark
    have htext : exponentText (some x) ++ t = c :: (r ++ t) := by
      show x.render ++ t = _
      rw [hrender]
      rfl
    rw [htext]
    rcases hc with rfl | rfl
    · exact ⟨fun c hc => by obtain rfl := Option.some.inj hc; rfl, by simp⟩
    · exact ⟨fun c hc => by obtain rfl := Option.some.inj hc; rfl, by simp⟩

theorem noDigit_fractionText (ds : List Digit) (h : NoFraction t) : NoDigit (fractionText ds ++ t) := by
  cases ds with
  | nil => exact h.1
  | cons d ds =>
    intro c hc
    obtain rfl := Option.some.inj hc
    rfl

/-- **A number is read as it is written.** -/
theorem numeral_render (atEnd : Cause) (n : Numeral) (h : Delimited t) :
    numeral atEnd (n.render ++ t) = .ok (n, t) := by
  have hend := h.noExponent
  have hexponent := exponentPart_exponentText atEnd n.exponent hend
  have hnoFraction := noFraction_exponentText n.exponent hend
  have hpoint := fractionPart_fractionText atEnd n.fraction hnoFraction
  have hwhole := wholePart_toDigits atEnd n.whole (noDigit_fractionText n.fraction hnoFraction)
  obtain ⟨d, ds, hdigits, -, -⟩ := exists_digits n.whole
  rw [Numeral.render_eq]
  obtain ⟨negative, whole, fraction, exponent⟩ := n
  unfold numeral
  cases negative with
  | true =>
    simp only [if_true, List.append_assoc, List.cons_append, List.nil_append, hwhole, hpoint, hexponent, bind,
      Except.bind]
  | false =>
    simp only [Bool.false_eq_true, if_false, List.append_assoc, List.nil_append]
    rw [hdigits] at hwhole ⊢
    simp only [List.map_cons, List.cons_append] at hwhole ⊢
    split
    · -- a digit is no sign
      rename_i heq
      exact absurd (List.cons.inj heq).1 (char_ne_sign d).2
    · simp only [hwhole, hpoint, hexponent, bind, Except.bind]

end BindingPipeline.Json
