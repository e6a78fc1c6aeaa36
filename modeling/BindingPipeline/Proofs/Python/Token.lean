/-
BindingPipeline/Proofs/Python/Token.lean

The tokens of Python source, as far as literals and assignments need them: quoted texts with their
escapes, decimal integers, names and punctuation, gathered into logical lines.  A line ends at a line
break outside all brackets; inside brackets a line break is only a blank.

Design.  The scanner is a machine that takes one character at a time, so that what it makes of two
pieces of text one after the other is what it makes of the second from where the first has left it
(`List.foldlM_append`).  It refuses what it does not know: an escape other than those listed, a line
break inside quotes, a number with a needless zero, an indented line.

Main statements: `scan_literal` and `scan_number`, which say what the scanner makes of a written text
and of a written number.
-/
import BindingPipeline.Metadata.PythonText
import BindingPipeline.Text.Digit

namespace BindingPipeline.Python

/-! ### The scanner -/

/-- The smallest parts of a program. -/
inductive Token
  | text (s : String)
  | number (n : Nat)
  | name (s : String)
  | mark (c : Char)
  deriving DecidableEq, Repr

/-- What the characters so far have begun; those that belong to it are kept last first. -/
inductive Mode
  | between
  | name (cs : List Char)
  | number (ds : List Char)
  | text (cs : List Char)
  | escape (cs : List Char)
  | hexFirst (cs : List Char)
  | hexSecond (cs : List Char) (high : Nat)
  | comment
  deriving DecidableEq, Repr

/-- The logical lines that are finished and the tokens of the present one, both last first, the number
of open brackets, and what has been begun. -/
structure Scanner where
  lines : List (List Token)
  line : List Token
  depth : Nat
  mode : Mode
  deriving DecidableEq, Repr

/-- May a name begin with the character? -/
def isNameStart (c : Char) : Bool := c.isAlpha || c = '_'

/-- May the character stand in a name? -/
def isNamePart (c : Char) : Bool := c.isAlphanum || c = '_'

/-- The character that a backslash and one more character stand for. -/
def escaped? : Char → Option Char
  | '\\' => some '\\'
  | '\'' => some '\''
  | 'n' => some '\n'
  | 'r' => some '\r'
  | 't' => some '\t'
  | _ => none

namespace Scanner

/-- Before the first character. -/
def start : Scanner := ⟨[], [], 0, .between⟩

/-- One token more in the line. -/
def push (sc : Scanner) (t : Token) : Scanner := ⟨sc.lines, t :: sc.line, sc.depth, .between⟩

/-- A line break outside quotes: it ends the line, unless a bracket is open. -/
def breakLine (sc : Scanner) : Scanner :=
  if sc.depth = 0 ∧ sc.line ≠ [] then ⟨sc.line.reverse :: sc.lines, [], 0, .between⟩
  else { sc with mode := .between }

/-- A number, unless it begins with a needless zero. -/
def pushNumber (sc : Scanner) (ds : List Char) : Option Scanner :=
  if ds.head? = some '0' ∧ ds ≠ ['0'] then none
  else some (sc.push (.number (Nat.ofDigitChars 10 ds 0)))

/-- A character that does not belong to what is before it. -/
def begin (sc : Scanner) (c : Char) : Option Scanner :=
  if c = '\'' then some { sc with mode := .text [] }
  else if c.isDigit then some { sc with mode := .number [c] }
  else if isNameStart c then some { sc with mode := .name [c] }
  else if c = '#' then some { sc with mode := .comment }
  else if c = '\n' then some sc.breakLine
  else if c = ' ' then
    if sc.depth = 0 ∧ sc.line = [] then none else some { sc with mode := .between }
  else if c ∈ ['(', '[', '\x7b'] then some { sc.push (.mark c) with depth := sc.depth + 1 }
  else if c ∈ [')', ']', '\x7d'] then some { sc.push (.mark c) with depth := sc.depth - 1 }
  else if c ∈ [',', ':', '=', '.'] then some (sc.push (.mark c))
  else none

/-- One character more. -/
def step (sc : Scanner) (c : Char) : Option Scanner :=
  match sc.mode with
  | .between => sc.begin c
  | .name cs =>
    if isNamePart c then some { sc with mode := .name (c :: cs) }
    else (sc.push (.name (String.ofList cs.reverse))).begin c
  | .number ds =>
    if c.isDigit then some { sc with mode := .number (c :: ds) }
    else if isNameStart c then none
    else (sc.pushNumber ds.reverse).bind (·.begin c)
  | .text cs =>
    if c = '\'' then some (sc.push (.text (String.ofList cs.reverse)))
    else if c = '\\' then some { sc with mode := .escape cs }
    else if c ∈ ['\n', '\r', '\x00'] then none
    else some { sc with mode := .text (c :: cs) }
  | .escape cs =>
    if c = 'x' then some { sc with mode := .hexFirst cs }
    else (escaped? c).map fun e => { sc with mode := .text (e :: cs) }
  | .hexFirst cs => (Text.hexDigit? c).map fun d => { sc with mode := .hexSecond cs d }
  | .hexSecond cs high =>
    (Text.hexDigit? c).map fun d => { sc with mode := .text (Char.ofNat (high * 16 + d) :: cs) }
  | .comment => some (if c = '\n' then sc.breakLine else sc)

/-- Characters one after the other. -/
def run (sc : Scanner) (cs : List Char) : Option Scanner := cs.foldlM step sc

end Scanner

/-- The logical lines of a program; its end is also the end of its last line. -/
def scan (cs : List Char) : Option (List (List Token)) := do
  let sc ← (← Scanner.start.run cs).step '\n'
  if sc.depth = 0 then some sc.lines.reverse else none

namespace Scanner

@[simp] theorem run_nil (sc : Scanner) : sc.run [] = some sc := rfl

@[simp] theorem run_cons (sc : Scanner) (c : Char) (cs : List Char) :
    sc.run (c :: cs) = (sc.step c).bind (·.run cs) := by
  simp [run, List.foldlM_cons]

theorem run_append (sc : Scanner) (cs cs' : List Char) :
    sc.run (cs ++ cs') = (sc.run cs).bind (·.run cs') := by
  simp [run, List.foldlM_append]

variable {lines : List (List Token)} {line : List Token} {depth : Nat}

/-! ### Texts -/

/-- Two hexadecimal digits are enough for a control character. -/
theorem toNat_lt_of_isControl {c : Char} (h : Metadata.PythonText.isControl c = true) :
    c.toNat < 256 := by
  simp only [Metadata.PythonText.isControl, Bool.or_eq_true, Bool.and_eq_true,
    decide_eq_true_eq] at h
  omega

/-- Inside quotes the characters written for one character are read as that character. -/
theorem run_escapeChar (c : Char) (cs : List Char) :
    (⟨lines, line, depth, .text cs⟩ : Scanner).run (Metadata.PythonText.escapeChar c) =
      some ⟨lines, line, depth, .text (c :: cs)⟩ := by
  unfold Metadata.PythonText.escapeChar
  split
  · rfl
  · rfl
  · rfl
  · rfl
  · rfl
  · rename_i hslash hquote hn hr _
    have hplain : c ≠ '\\' ∧ c ≠ '\'' ∧ c ≠ '\n' ∧ c ≠ '\r' := ⟨hslash, hquote, hn, hr⟩
    split
    · rename_i hcontrol
      have hlt : c.toNat < 256 := toNat_lt_of_isControl hcontrol
      have hhigh := Text.hexDigit?_digitChar (show c.toNat / 16 < 16 by omega)
      have hlow := Text.hexDigit?_digitChar (show c.toNat % 16 < 16 by omega)
      have hc : Char.ofNat (c.toNat / 16 * 16 + c.toNat % 16) = c := by
        rw [Nat.div_add_mod', Char.ofNat_toNat]
      simp [step, hhigh, hlow, hc]
    · rename_i hcontrol
      have hzero : c ≠ '\x00' := by
        rintro rfl
        exact hcontrol rfl
      simp [step, hplain, hzero]

/-- **A written text is read as itself**, whatever it holds and whatever follows: nothing in it ends the
literal. -/
theorem scan_literal (s : String) (rest : List Char) :
    (⟨lines, line, depth, .between⟩ : Scanner).run (Metadata.PythonText.literal s ++ rest) =
      (⟨lines, .text s :: line, depth, .between⟩ : Scanner).run rest := by
  have body : ∀ (cs acc : List Char),
      (⟨lines, line, depth, .text acc⟩ : Scanner).run
          (cs.flatMap Metadata.PythonText.escapeChar) =
        some ⟨lines, line, depth, .text (cs.reverse ++ acc)⟩ := by
    intro cs
    induction cs with
    | nil => intro acc; rfl
    | cons c cs ih =>
      intro acc
      rw [List.flatMap_cons, run_append, run_escapeChar, Option.bind_some, ih]
      simp
  have hopen : (⟨lines, line, depth, .between⟩ : Scanner).step '\'' =
      some ⟨lines, line, depth, .text []⟩ := rfl
  rw [Metadata.PythonText.literal, List.cons_append, List.cons_append, run_cons, hopen,
    Option.bind_some, List.append_assoc, run_append, body, Option.bind_some]
  simp [step, push]

/-! ### Numbers -/

/-- Where a mode collects characters of one kind, it collects them all. -/
theorem run_collect {mode : List Char → Mode} {kind : Char → Bool}
    (hstep : ∀ c acc, kind c = true → (⟨lines, line, depth, mode acc⟩ : Scanner).step c =
      some ⟨lines, line, depth, mode (c :: acc)⟩)
    {cs : List Char} (hcs : ∀ c ∈ cs, kind c = true) (acc : List Char) :
    (⟨lines, line, depth, mode acc⟩ : Scanner).run cs =
      some ⟨lines, line, depth, mode (cs.reverse ++ acc)⟩ := by
  induction cs generalizing acc with
  | nil => rfl
  | cons c cs ih =>
    obtain ⟨hc, hcs⟩ := List.forall_mem_cons.1 hcs
    rw [run_cons, hstep c acc hc, Option.bind_some, ih hcs, List.reverse_cons, List.append_assoc,
      List.singleton_append]

/-- Only zero is written with a zero in front. -/
theorem eq_zero_of_head?_toDigits {n : Nat} (h : (Nat.toDigits 10 n).head? = some '0') : n = 0 := by
  induction n using Nat.strongRecOn with
  | _ n ih =>
    rcases Nat.lt_or_ge n 10 with hlt | hge
    · rw [Nat.toDigits_of_lt_base hlt] at h
      have table : ∀ d : Fin 10, Nat.digitChar d = '0' → d.val = 0 := by decide
      exact table ⟨n, hlt⟩ (by simpa using h)
    · rw [Nat.toDigits_of_base_le (by decide) hge, List.head?_append] at h
      have hne : Nat.toDigits 10 (n / 10) ≠ [] := Nat.toDigits_ne_nil
      obtain ⟨d, ds, hds⟩ := List.exists_cons_of_ne_nil hne
      have := ih (n / 10) (by omega) (by simpa [hds] using h)
      omega

/-- A written number is read as itself, if no digit and no letter follows. -/
theorem scan_number (n : Nat) {c : Char} (hdigit : c.isDigit = false) (hname : isNameStart c = false)
    (rest : List Char) :
    (⟨lines, line, depth, .between⟩ : Scanner).run (Nat.toDigits 10 n ++ c :: rest) =
      (⟨lines, .number n :: line, depth, .between⟩ : Scanner).run (c :: rest) := by
  have hdigits : ∀ d acc, d.isDigit = true → (⟨lines, line, depth, .number acc⟩ : Scanner).step d =
      some ⟨lines, line, depth, .number (d :: acc)⟩ := by
    intro d acc hd
    simp [step, hd]
  have hall : ∀ d ∈ Nat.toDigits 10 n, d.isDigit = true := fun d hd =>
    Nat.isDigit_of_mem_toDigits (by decide) (by decide) hd
  obtain ⟨d, ds, hds⟩ := List.exists_cons_of_ne_nil (show Nat.toDigits 10 n ≠ [] from Nat.toDigits_ne_nil)
  have hvalue : Nat.ofDigitChars 10 (d :: ds) 0 = n := hds ▸ Nat.ofDigitChars_ten_toDigits
  have hhead : d = '0' → ds = [] := by
    intro hd
    obtain rfl := eq_zero_of_head?_toDigits (n := n) (by rw [hds, hd]; rfl)
    exact (List.cons.inj hds).2.symm
  rw [hds] at hall ⊢
  obtain ⟨hd, hall⟩ := List.forall_mem_cons.1 hall
  have hfirst : (⟨lines, line, depth, .between⟩ : Scanner).step d =
      some ⟨lines, line, depth, .number [d]⟩ := by
    have hquote : d ≠ '\'' := by
      rintro rfl
      exact absurd hd (by decide)
    simp [step, begin, hquote, hd]
  rw [List.cons_append, run_cons, hfirst, Option.bind_some, run_append,
    run_collect hdigits hall]
  have hpush : (⟨lines, line, depth, .number (ds.reverse ++ [d])⟩ : Scanner).pushNumber (d :: ds) =
      some ⟨lines, .number n :: line, depth, .between⟩ := by
    unfold pushNumber
    rw [if_neg, hvalue]
    · rfl
    · rintro ⟨hzero, hmore⟩
      have : d = '0' := by simpa using hzero
      exact hmore (by rw [this, hhead this])
  simp [step, hdigit, hname, hpush]

/-! ### Names -/

/-- A name is read as itself, up to a character that does not stand in names. -/
theorem scan_name {c d : Char} {cs : List Char} (hdigit : c.isDigit = false)
    (hstart : isNameStart c = true) (hparts : cs.all isNamePart = true)
    (hend : isNamePart d = false) (rest : List Char) :
    (⟨lines, line, depth, .between⟩ : Scanner).run (c :: cs ++ d :: rest) =
      (⟨lines, .name (String.ofList (c :: cs)) :: line, depth, .between⟩ : Scanner).run
        (d :: rest) := by
  have hpart : ∀ e acc, isNamePart e = true → (⟨lines, line, depth, .name acc⟩ : Scanner).step e =
      some ⟨lines, line, depth, .name (e :: acc)⟩ := by
    intro e acc he
    simp [step, he]
  have hfirst : (⟨lines, line, depth, .between⟩ : Scanner).step c =
      some ⟨lines, line, depth, .name [c]⟩ := by
    have hquote : c ≠ '\'' := by
      rintro rfl
      exact absurd hstart (by decide)
    simp [step, begin, hquote, hdigit, hstart]
  rw [List.cons_append, run_cons, hfirst, Option.bind_some, run_append,
    run_collect hpart (List.all_eq_true.1 hparts)]
  simp [step, hend, push]

end Scanner

end BindingPipeline.Python
