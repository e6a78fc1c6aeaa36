/-
BindingPipeline/Proofs/Catalog/Count.lean

Which values are operand counts.  A count may be written as a number or as a text, and on its way it is held in
three types of integers, each with a range of its own.  What comes of this is one arithmetic statement
(`countOf_eq_ok_iff`): the value stands for a natural number (`Counts`), and that number is positive and fits 32
bits.  The other two ranges are wider and cannot be noticed.

Design.  `Counts` is the grammar of counts and knows no range; a text is white space around `Spells`, where
digits are read by place, however many zeros come first.  An entry that is well-formed around its count
(`Operation.Frames`) is then read exactly if the count is one, and what is read of any text whatever never has
a count of zero (`nop_pos_of_readOperations`).

Main result: `operandCount_exact`.
-/
import BindingPipeline.Proofs.Catalog.Loading
import BindingPipeline.Proofs.Json.Invariant

namespace BindingPipeline

/-! ### Digits -/

namespace Json

theorem digit?_eq_some_iff {c : Char} {d : Digit} : digit? c = some d ↔ c = d.char := by
  constructor
  · intro h
    unfold digit? at h
    split at h
    · rename_i hrange
      obtain rfl := Option.some.inj h
      have hcode : 48 + (c.toNat - 48) = c.toNat := by omega
      show c = Char.ofNat (48 + (c.toNat - 48))
      rw [hcode, Char.ofNat_toNat]
    · cases h
  · rintro rfl
    exact digit?_char d

theorem mapM_digit?_eq_some_iff {cs : List Char} {ds : List Digit} :
    cs.mapM digit? = some ds ↔ cs = ds.map Digit.char := by
  induction cs generalizing ds with
  | nil =>
    rw [List.mapM_nil, eq_comm (a := []), List.map_eq_nil_iff]
    exact Option.some_inj.trans eq_comm
  | cons c cs ih =>
    rw [List.mapM_cons]
    simp only [Option.bind_eq_bind, Option.bind_eq_some_iff, digit?_eq_some_iff, ih, Option.pure_def,
      Option.some.injEq]
    constructor
    · rintro ⟨d, rfl, ds, rfl, rfl⟩
      rfl
    · intro h
      obtain ⟨d, ds, rfl, hd, hds⟩ := List.map_eq_cons_iff.1 h.symm
      exact ⟨d, hd.symm, ds, hds.symm, rfl⟩

end Json

namespace Catalog

open Json (Digit Numeral Value Yields WrittenDocument ofDigits valuesUnder)

variable {n : Nat} {cs : List Char} {v count entry : Value}

/-! ### Texts that spell a count -/

/-- Decimal digits that spell the number, behind a plus sign or behind nothing.  Zeros may come first. -/
inductive Spells (n : Nat) : List Char → Prop
  | plain {d : Digit} {ds : List Digit} : ofDigits (d :: ds) = n → Spells n ((d :: ds).map Digit.char)
  | signed {d : Digit} {ds : List Digit} : ofDigits (d :: ds) = n → Spells n ('+' :: (d :: ds).map Digit.char)

theorem digitsNumber?_eq_some_iff : digitsNumber? cs = some n ↔
    ∃ d ds, cs = (d :: ds).map Digit.char ∧ ofDigits (d :: ds) = n := by
  unfold digitsNumber?
  constructor
  · intro h
    split at h
    · rename_i d ds hdigits
      exact ⟨d, ds, Json.mapM_digit?_eq_some_iff.1 hdigits, Option.some.inj h⟩
    · cases h
  · rintro ⟨d, ds, hcs, rfl⟩
    rw [Json.mapM_digit?_eq_some_iff.2 hcs]

theorem isWord_iff : isWord (n : Int) = true ↔ n ≤ 9223372036854775807 := by
  unfold isWord
  simp only [Bool.and_eq_true, decide_eq_true_eq]
  omega

/-- A text is kept as an integer if that fits 64 bits with a sign. -/
theorem bind_isWord_eq_some_iff {o : Option Int} :
    (o >>= fun i => if isWord i then some i else none) = some (n : Int) ↔
      o = some (n : Int) ∧ n ≤ 9223372036854775807 := by
  rw [Option.bind_eq_bind, Option.bind_eq_some_iff, ← isWord_iff]
  constructor
  · rintro ⟨i, rfl, hguard⟩
    split at hguard
    · rename_i hi
      obtain rfl := Option.some.inj hguard
      exact ⟨rfl, hi⟩
    · cases hguard
  · rintro ⟨rfl, hn⟩
    exact ⟨n, rfl, if_pos hn⟩

/-- The digits of a text as an integer. -/
theorem digitsInteger_eq_some_iff {r : List Char} {i : Int} :
    (do return ((← digitsNumber? r : Nat) : Int)) = some i ↔ ∃ k, digitsNumber? r = some k ∧ i = k := by
  rw [Option.bind_eq_bind, Option.bind_eq_some_iff]
  simp only [Option.pure_def, Option.some.injEq, eq_comm]

/-- What follows a plus sign is read as digits. -/
theorem spells_plus_iff : Spells n ('+' :: cs) ↔ digitsNumber? cs = some n := by
  rw [digitsNumber?_eq_some_iff]
  constructor
  · intro h
    generalize hcs : '+' :: cs = text at h
    cases h with
    | plain hvalue => exact absurd (List.cons.inj hcs).1.symm (Json.char_ne_sign _).1
    | signed hvalue => exact ⟨_, _, (List.cons.inj hcs).2, hvalue⟩
  · rintro ⟨d, ds, rfl, hvalue⟩
    exact .signed hvalue

/-- With a minus sign nothing is spelled, not even zero. -/
theorem not_spells_minus : ¬ Spells n ('-' :: cs) := by
  intro h
  generalize hcs : '-' :: cs = text at h
  cases h with
  | plain hvalue => exact absurd (List.cons.inj hcs).1.symm (Json.char_ne_sign _).2
  | signed hvalue => exact absurd (List.cons.inj hcs).1 (by decide)

/-- Without a plus sign the whole text is read as digits. -/
theorem spells_iff_of_ne (hplus : ∀ r, cs ≠ '+' :: r) : Spells n cs ↔ digitsNumber? cs = some n := by
  rw [digitsNumber?_eq_some_iff]
  constructor
  · intro h
    cases h with
    | plain hvalue => exact ⟨_, _, rfl, hvalue⟩
    | signed hvalue => exact absurd rfl (hplus _)
  · rintro ⟨d, ds, rfl, hvalue⟩
    exact .plain hvalue

/-- A positive number is spelled with no other sign, and it must fit 64 bits with a sign. -/
theorem spelledInteger?_eq_some_iff (hn : 0 < n) :
    spelledInteger? cs = some (n : Int) ↔ Spells n cs ∧ n ≤ 9223372036854775807 := by
  have hplain : ∀ {r : List Char},
      (do return ((← digitsNumber? r : Nat) : Int)).map (fun i => i) = some (n : Int) ↔
        digitsNumber? r = some n := by
    intro r
    rw [Option.map_id', digitsInteger_eq_some_iff]
    simp only [Int.natCast_inj, exists_eq_right']
  unfold spelledInteger?
  split
  · rw [bind_isWord_eq_some_iff, hplain, spells_plus_iff]
  · rw [bind_isWord_eq_some_iff]
    refine and_congr_left fun _ => iff_of_false ?_ not_spells_minus
    intro h
    obtain ⟨i, hi, hneg⟩ := Option.map_eq_some_iff.1 h
    obtain ⟨k, -, rfl⟩ := digitsInteger_eq_some_iff.1 hi
    omega
  · rename_i hplus hminus
    rw [bind_isWord_eq_some_iff, hplain, spells_iff_of_ne hplus]

/-! ### Values that stand for a count -/

/-- The values that stand for a number of operands, whether there can be so many or not: its plain numeral, and
the texts that spell it between white space. -/
inductive Counts (n : Nat) : Value → Prop
  | numeral : Counts n (.number (.ofNat n))
  | text {s : String} {before spelling after : List Char} :
      (∀ c ∈ before, Text.isBlank c = true) → (∀ c ∈ after, Text.isBlank c = true) → Spells n spelling →
      s.toList = before ++ spelling ++ after → Counts n (.text s)

theorem Spells.ne_nil (h : Spells n cs) : cs ≠ [] := by
  cases h with
  | plain _ => exact List.cons_ne_nil _ _
  | signed _ => exact List.cons_ne_nil _ _

/-- There is no white space in what spells a number. -/
theorem Spells.not_isBlank (h : Spells n cs) : ∀ c ∈ cs, Text.isBlank c = false := by
  have hdigit : ∀ d : Digit, Text.isBlank d.char = false := by decide
  have hdigits : ∀ ds : List Digit, ∀ c ∈ ds.map Digit.char, Text.isBlank c = false := by
    intro ds c hc
    obtain ⟨d, -, rfl⟩ := List.mem_map.1 hc
    exact hdigit d
  cases h with
  | plain _ => exact hdigits _
  | signed _ => exact List.forall_mem_cons.2 ⟨rfl, hdigits _⟩

theorem counts_text_iff {s : String} : Counts n (.text s) ↔ Spells n (Text.trim s.toList) := by
  constructor
  · intro h
    cases h with
    | text hbefore hafter hspells hs =>
      have hfirst := fun c hc => hspells.not_isBlank c (List.mem_of_mem_head? hc)
      have hlast := fun c hc => hspells.not_isBlank c (List.mem_of_getLast? hc)
      rwa [(Text.trim_eq_iff hspells.ne_nil hfirst hlast).2 ⟨_, _, hbefore, hafter, hs⟩]
  · intro h
    obtain ⟨before, after, hbefore, hafter, hs⟩ := Text.exists_eq_append_trim s.toList
    exact .text hbefore hafter h hs

theorem counts_number_iff {m : Numeral} : Counts n (.number m) ↔ m = .ofNat n := by
  constructor
  · intro h
    cases h with
    | numeral => rfl
  · rintro rfl
    exact .numeral

/-- A number with a minus sign that is understood as an integer is below zero. -/
theorem neg_of_number {m : Numeral} {i : Int} (h : m.number = .ok (.negative i)) : i < 0 := by
  unfold Numeral.number at h
  split at h
  · cases h
  · split at h
    · rename_i hrange
      obtain ⟨-, hpositive, -⟩ := hrange
      cases h
      omega
    · -- no other numeral is understood as an integer
      grind

theorem integerOf_number_eq_ok_iff {m : Numeral} (hn : n ≤ 4294967295) :
    integerOf (.number m) = .ok (n : Int) ↔ Counts n (.number m) := by
  have hsmall : n < Json.wordBound := Nat.lt_of_le_of_lt hn (by decide)
  have hnumber : m.number = .ok (.natural n) ↔ Counts n (.number m) := by
    rw [counts_number_iff, Json.number_eq_natural_iff]
    exact and_iff_left hsmall
  rw [← hnumber]
  rcases hm : m.number with left | k | i | ⟨negative, d⟩
  · simp only [integerOf, hm, reduceCtorEq]
  · simp only [integerOf, hm, Except.ok.injEq, Json.Number.natural.injEq]
    constructor
    · intro h
      split at h
      · exact Int.ofNat.inj (Except.ok.inj h)
      · cases h
    · rintro rfl
      exact if_pos (isWord_iff.2 (by omega))
  · have hneg := neg_of_number hm
    simp only [integerOf, hm, Except.ok.injEq, reduceCtorEq, iff_false]
    omega
  · simp only [integerOf, hm, Except.ok.injEq, reduceCtorEq]

theorem integerOf_text_eq_ok_iff {s : String} (hpositive : 0 < n) (hn : n ≤ 4294967295) :
    integerOf (.text s) = .ok (n : Int) ↔ Counts n (.text s) := by
  have hspelled : spelledInteger? (Text.trim s.toList) = some (n : Int) ↔ Counts n (.text s) := by
    rw [spelledInteger?_eq_some_iff hpositive, counts_text_iff]
    exact and_iff_left (by omega)
  rw [← hspelled]
  rcases hs : spelledInteger? (Text.trim s.toList) with - | i
  · simp only [integerOf, hs, reduceCtorEq]
  · simp only [integerOf, hs, Except.ok.injEq, Option.some.injEq]

/-- Of the integers that a value can be read as, the positive ones of 32 bits are those that it stands for. -/
theorem integerOf_eq_ok_iff (hpositive : 0 < n) (hn : n ≤ 4294967295) :
    integerOf v = .ok (n : Int) ↔ Counts n v := by
  cases v with
  | number m => exact integerOf_number_eq_ok_iff hn
  | text s => exact integerOf_text_eq_ok_iff hpositive hn
  | _ =>
    constructor
    · intro h
      cases h
    · intro h
      cases h

/-- **A value is read as a count exactly if it stands for it**, and there is at least one operand. -/
theorem countOf_eq_ok_iff {x : UInt32} : countOf v = .ok x ↔ Counts x.toNat v ∧ 0 < x.toNat := by
  have hx : x.toNat ≤ 4294967295 := Nat.le_of_lt_succ x.toNat_lt
  unfold countOf
  rw [bind_eq_ok_iff]
  constructor
  · rintro ⟨i, hi, hcount⟩
    split at hcount
    · rename_i hrange
      obtain ⟨k, rfl⟩ := Int.eq_ofNat_of_zero_le (Int.le_of_lt hrange.1)
      have hk : UInt32.ofNat k = x := pure_eq_ok_iff.1 hcount
      obtain rfl := (Json.ofNat_eq_iff (by omega)).1 hk
      have hpositive : 0 < x.toNat := by omega
      exact ⟨(integerOf_eq_ok_iff hpositive hx).1 hi, hpositive⟩
    · cases hcount
  · rintro ⟨hcounts, hpositive⟩
    refine ⟨x.toNat, (integerOf_eq_ok_iff hpositive hx).2 hcounts, ?_⟩
    rw [if_pos (by omega)]
    exact pure_eq_ok_iff.2 ((Json.ofNat_eq_iff hx).2 (by omega))

/-! ### Entries -/

namespace Operation

/-- The entry describes the operation but for its operand count, and has the value in the place of that. -/
inductive Frames (o : Operation) (count : Value) : Value → Prop
  | object {ms : List (String × Value)} :
      valuesUnder ["opcode"] ms = [.text o.opcode] → valuesUnder ["nop"] ms = [count] →
      valuesUnder ["types"] ms = [.list (o.types.map fun names => .list (names.map .text))] →
      valuesUnder ["elementwise"] ms = [.bool o.elementwise] →
      valuesUnder ["system_opcode"] ms = [.bool o.systemOpcode] → Frames o count (.object ms)
  | list : Frames o count (.list [.text o.opcode, count,
      .list (o.types.map fun names => .list (names.map .text)), .bool o.elementwise, .bool o.systemOpcode])

theorem Frames.described {o : Operation} {x : UInt32} (h : o.Frames count entry) (hcount : countOf count = .ok x) :
    { o with nop := x }.Described entry := by
  have hspelled : Spelled { o with nop := x } (.text o.opcode) count
      (.list (o.types.map fun names => .list (names.map .text))) (.bool o.elementwise) (.bool o.systemOpcode) :=
    ⟨rfl, hcount, rfl, rfl, rfl⟩
  cases h with
  | object hopcode hnop htypes helementwise hsystem =>
    exact .object hopcode hnop htypes helementwise hsystem hspelled
  | list => exact .list hspelled

/-- An entry that describes some operation has a count where it has one for its count. -/
theorem Frames.count_of_described {o o' : Operation} (h : o.Frames count entry) (h' : o'.Described entry) :
    countOf count = .ok o'.nop := by
  cases h with
  | object _ hnop _ _ _ =>
    cases h' with
    | object _ hnop' _ _ _ hspelled =>
      obtain ⟨rfl, -⟩ := List.cons.inj (hnop.symm.trans hnop')
      exact hspelled.nop
  | list =>
    cases h' with
    | list hspelled => exact hspelled.nop

end Operation

/-- A list of entries describes one list of operations at most. -/
theorem operations_unique {vs : List Value} {ops ops' : List Operation}
    (h : List.Forall₂ (fun v (o : Operation) => o.Described v) vs ops)
    (h' : List.Forall₂ (fun v (o : Operation) => o.Described v) vs ops') : ops = ops' := by
  have hwritten := Json.writtenDocument_compact (.list vs)
  have hread := (readOperations_eq_ok_iff hwritten).2 h
  exact Except.ok.inj (hread.symm.trans ((readOperations_eq_ok_iff hwritten).2 h'))

/-! ### What is never read -/

theorem yields_countValue : Json.Yields countValue (0 < ·.toNat) := by
  intro s x r hok
  obtain ⟨⟨v, r'⟩, -, hcount⟩ := bind_eq_ok_iff.1 hok
  rcases hresult : countOf v with fault | y
  · simp only [hresult, reduceCtorEq] at hcount
  · simp only [hresult, Except.ok.injEq, Prod.mk.injEq] at hcount
    obtain ⟨rfl, -⟩ := hcount
    exact (countOf_eq_ok_iff.1 hresult).2

/-- No operation of a catalog, whatever text it is read from, is without operands. -/
theorem nop_pos_of_readOperations {text : String} {ops : List Operation} (h : readOperations text = .ok ops) :
    ∀ o ∈ ops, 0 < o.nop.toNat := by
  -- a draft may lack its count, but has none that is zero
  let Positive (d : Operation.Draft) : Prop := ∀ x ∈ d.nop, 0 < x.toNat
  have hfields : ∀ f ∈ Operation.shape.fields, ∀ d, Positive d → Yields (f.read d) Positive := by
    intro f hf d hd s d' r hok
    simp only [Operation.shape, List.mem_cons, List.not_mem_nil, or_false] at hf
    rcases hf with rfl | rfl | rfl | rfl | rfl
    all_goals
      obtain ⟨⟨x, r'⟩, hread, hdraft⟩ := bind_eq_ok_iff.1 hok
      cases hdraft
    case inr.inl =>
      intro y hy
      obtain rfl := Option.some.inj hy
      exact yields_countValue hread
    all_goals exact hd
  have hentry : Yields Operation.shape.read (0 < ·.nop.toNat) := by
    intro s o r hok
    obtain ⟨⟨_ | opcode, _ | nop, _ | types, _ | elementwise, _ | systemOpcode⟩, hpositive, hbuild⟩ :=
      Json.Shape.yields_read hfields (fun _ => nofun) hok
    all_goals cases hbuild
    exact hpositive nop rfl
  exact hentry.listValue.document h

theorem nop_ne_zero_of_readOperations {text : String} {ops : List Operation} (h : readOperations text = .ok ops) :
    ∀ o ∈ ops, o.nop ≠ 0 := by
  intro o ho hzero
  have hpositive := nop_pos_of_readOperations h o ho
  rw [hzero] at hpositive
  cases hpositive

/-! ### Documents -/

variable {before after : List Value} {opsBefore opsAfter : List Operation} {o : Operation} {text : String}

/-- Between entries that describe operations, the count of an entry decides what is read. -/
theorem readOperations_of_frames (hbefore : List.Forall₂ (fun v o => o.Described v) before opsBefore)
    (hafter : List.Forall₂ (fun v o => o.Described v) after opsAfter) (hentry : o.Frames count entry)
    (h : WrittenDocument (.list (before ++ entry :: after)) text) {ops : List Operation} :
    readOperations text = .ok ops ↔ ∃ x : UInt32, 1 ≤ x.toNat ∧ Counts x.toNat count ∧
      ops = opsBefore ++ { o with nop := x } :: opsAfter := by
  rw [readOperations_eq_ok_iff h]
  have hall : ∀ x, countOf count = .ok x → List.Forall₂ (fun v o => o.Described v) (before ++ entry :: after)
      (opsBefore ++ { o with nop := x } :: opsAfter) :=
    fun x hx => List.rel_append hbefore (.cons (hentry.described hx) hafter)
  constructor
  · intro hops
    obtain ⟨o', -, ho'⟩ := exists_mem_of_forall₂ hops (List.mem_append_right before List.mem_cons_self)
    have hcount := hentry.count_of_described ho'
    obtain ⟨hcounts, hpositive⟩ := countOf_eq_ok_iff.1 hcount
    exact ⟨o'.nop, hpositive, hcounts, operations_unique hops (hall _ hcount)⟩
  · rintro ⟨x, hpositive, hcounts, rfl⟩
    exact hall x (countOf_eq_ok_iff.2 ⟨hcounts, hpositive⟩)

/-- The numbers of 32 bits are those up to 4294967295. -/
theorem exists_counts_iff : (∃ x : UInt32, 1 ≤ x.toNat ∧ Counts x.toNat count) ↔
    ∃ n, 1 ≤ n ∧ n ≤ 4294967295 ∧ Counts n count := by
  constructor
  · rintro ⟨x, hpositive, hcounts⟩
    exact ⟨x.toNat, hpositive, Nat.le_of_lt_succ x.toNat_lt, hcounts⟩
  · rintro ⟨n, hpositive, hfits, hcounts⟩
    have hn : (UInt32.ofNat n).toNat = n := ((Json.ofNat_eq_iff hfits).1 rfl).symm
    rw [← hn] at hpositive hcounts
    exact ⟨_, hpositive, hcounts⟩

/-- **Operand counts are read exactly.**  Between entries that describe operations, an entry that is well-formed
but for its count is accepted exactly if the value in its place stands for a number from 1 to 4294967295, and
then that number is the count which is read.  No operation that is read from any text, or loaded from any
file, has a count of zero. -/
theorem operandCount_exact (hbefore : List.Forall₂ (fun v o => o.Described v) before opsBefore)
    (hafter : List.Forall₂ (fun v o => o.Described v) after opsAfter) (hentry : o.Frames count entry)
    (h : WrittenDocument (.list (before ++ entry :: after)) text) :
    ((∃ ops, readOperations text = .ok ops) ↔ ∃ n, 1 ≤ n ∧ n ≤ 4294967295 ∧ Counts n count) ∧
    (∀ ops, readOperations text = .ok ops ↔ ∃ x : UInt32, 1 ≤ x.toNat ∧ Counts x.toNat count ∧
      ops = opsBefore ++ { o with nop := x } :: opsAfter) ∧
    (∀ text' ops, readOperations text' = .ok ops → ∀ o ∈ ops, o.nop ≠ 0) ∧
    ∀ origin s s' ops, Build.loadOperations origin s = (.ok ops, s') → ∀ o ∈ ops, o.nop ≠ 0 := by
  have hread : ∀ ops, readOperations text = .ok ops ↔ ∃ x : UInt32, 1 ≤ x.toNat ∧ Counts x.toNat count ∧
      ops = opsBefore ++ { o with nop := x } :: opsAfter :=
    fun ops => readOperations_of_frames hbefore hafter hentry h
  refine ⟨?_, hread, fun text' ops => nop_ne_zero_of_readOperations, ?_⟩
  · simp only [hread, ← exists_counts_iff]
    constructor
    · rintro ⟨ops, x, hpositive, hcounts, -⟩
      exact ⟨x, hpositive, hcounts⟩
    · rintro ⟨x, hpositive, hcounts⟩
      exact ⟨_, x, hpositive, hcounts, rfl⟩
  · intro origin s s' ops hload
    obtain ⟨-, text', -, hread'⟩ := Build.loadOperations_eq_ok_iff.1 hload
    exact nop_ne_zero_of_readOperations hread'

/-- An entry of which only the count is left open. -/
def openEntry (count : Value) : Value :=
  .object [("doc", .null), ("nop", count), ("types", .list [.list [.text "BH_INT32"], .list []]),
    ("system_opcode", .bool false), ("elementwise", .bool true), ("opcode", .text "BH_ADD")]

/-- The operation that it describes for each count. -/
def openOperation (x : UInt32) : Operation := ⟨"BH_ADD", x, [["BH_INT32"], []], true, false⟩

/-- A document with the entry in front of a complete one. -/
def openDocument (count : Value) : String :=
  String.ofList (Value.list [openEntry count, .list [.text "BH_FREE", .number (.ofNat 1), .list [],
    .bool false, .bool true]]).compact

/-- Seven between white space, behind a sign and two zeros, is read; the first number beyond 32 bits is not. -/
theorem open_operandCount :
    readOperations (openDocument (.text "\u3000+007\n")) =
      .ok [openOperation 7, ⟨"BH_FREE", 1, [], false, true⟩] ∧
    ∀ ops, readOperations (openDocument (.text "4294967296")) ≠ .ok ops := by
  have hframes (count : Value) : (openOperation 0).Frames count (openEntry count) := .object rfl rfl rfl rfl rfl
  have hafter : List.Forall₂ (fun v (o : Operation) => o.Described v)
      [.list [.text "BH_FREE", .number (.ofNat 1), .list [], .bool false, .bool true]]
      [⟨"BH_FREE", 1, [], false, true⟩] :=
    .cons (.list ⟨rfl, rfl, rfl, rfl, rfl⟩) .nil
  have hbefore : List.Forall₂ (fun v (o : Operation) => o.Described v) [] [] := .nil
  have hexact (count : Value) := operandCount_exact hbefore hafter (hframes count)
    (Json.writtenDocument_compact _)
  constructor
  · obtain ⟨-, hread, -⟩ := hexact (.text "\u3000+007\n")
    have hcounts : Counts 7 (.text "\u3000+007\n") :=
      .text (List.forall_mem_singleton.2 rfl) (List.forall_mem_singleton.2 rfl)
        (@Spells.signed 7 0 [0, 7] rfl) rfl
    exact (hread _).2 ⟨7, by decide, hcounts, rfl⟩
  · obtain ⟨-, hread, -⟩ := hexact (.text "4294967296")
    intro ops hops
    obtain ⟨x, hpositive, hcounts, -⟩ := (hread ops).1 hops
    -- the value is read as an integer, but as none of 32 bits
    have hcount : countOf (.text "4294967296") = .error (.notPositive 4294967296) := rfl
    exact nomatch hcount.symm.trans (countOf_eq_ok_iff.2 ⟨hcounts, hpositive⟩)

end Catalog

end BindingPipeline
