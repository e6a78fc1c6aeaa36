/-
BindingPipeline/Proofs/Metadata/PythonText.lean

The Python form of a module loses nothing.  `Module.python` says what the text means: an import, a
dictionary with the keys in their order, and a list of calls that make the types.  The reader of
`Proofs/Python` reads exactly this out of the text.

Main result: `python_encode_readable`.  Any characters may stand in the keys, the names and the types:
none of them ends a literal or adds a line, and two modules never have the same text.
-/
import BindingPipeline.Metadata.Encode
import BindingPipeline.Proofs.Python.Expression

namespace BindingPipeline.Metadata

open Python (Expr Position Reads Scanner ScansInside Statement Token)

/-! ### What the text means -/

/-- The dictionary of a record. -/
def Record.python (r : Record) : Expr :=
  .dict [(.text "name", .text r.name), (.text "nop", .number r.nop.toNat),
    (.text "type_sig", .list (r.signatures.map fun sig => .list (sig.map .text)))]

/-- The entry of an operation. -/
def entryPython (e : String × Record) : Expr × Expr := (.text e.1, e.2.python)

/-- The program of a module. -/
def Module.python (m : Module) : List Statement :=
  [.imports "numpy" "np", .assigns "op" (.dict (m.ops.entries.map entryPython)),
    .assigns "numpy_types" (.list (m.types.map fun t => .call ["np", "dtype"] (.text t)))]

theorem Record.python_injective {r r' : Record} (h : r.python = r'.python) : r = r' := by
  have texts : Function.Injective fun sig : List String => Expr.list (sig.map Expr.text) := by
    intro sig sig' heq
    refine List.map_injective_iff.2 ?_ (Expr.list.inj heq)
    exact fun _ _ => Expr.text.inj
  obtain ⟨name, nop, sigs⟩ := r
  obtain ⟨name', nop', sigs'⟩ := r'
  simp only [Record.python, Expr.dict.injEq, List.cons.injEq, Prod.mk.injEq, Expr.text.injEq,
    Expr.number.injEq, Expr.list.injEq, true_and, and_true] at h
  obtain ⟨rfl, hnop, hsigs⟩ := h
  rw [UInt32.toNat_inj.1 hnop, List.map_injective_iff.2 texts hsigs]

theorem Module.python_injective {m m' : Module} (h : m.python = m'.python) : m = m' := by
  have entries : Function.Injective entryPython := by
    rintro ⟨k, r⟩ ⟨k', r'⟩ heq
    obtain ⟨hk, hr⟩ := Prod.mk.inj heq
    exact Prod.ext (Expr.text.inj hk) (Record.python_injective hr)
  have types : Function.Injective fun t => Expr.call ["np", "dtype"] (.text t) :=
    fun _ _ heq => Expr.text.inj (Expr.call.inj heq).2
  simp only [Module.python, List.cons.injEq, Statement.assigns.injEq, Expr.dict.injEq,
    Expr.list.injEq, true_and, and_true] at h
  exact Module.ext (Table.ext (List.map_injective_iff.2 entries h.1))
    (List.map_injective_iff.2 types h.2)

namespace PythonText

/-! ### Reading the parts -/

theorem reads_typeCall (name : String) :
    Reads (typeCall name) (.call ["np", "dtype"] (.text name)) := by
  refine ⟨[.name "np", .mark '.', .name "dtype", .mark '(', .text name, .mark ')'], ?_,
    fun _ => rfl⟩
  intro lines line depth
  have hcall : (⟨lines, line, depth, .between⟩ : Scanner).run "np.dtype(".toList =
      some ⟨lines, [.mark '(', .name "dtype", .mark '.', .name "np"] ++ line, depth + 1,
        .between⟩ := by
    have htext : "np.dtype(".toList =
        'n' :: ['p'] ++ '.' :: ('d' :: ['t', 'y', 'p', 'e'] ++ ['(']) := rfl
    have hdot : ∀ line, (⟨lines, line, depth, .between⟩ : Scanner).step '.' =
        some ⟨lines, .mark '.' :: line, depth, .between⟩ := fun _ => rfl
    rw [htext, Scanner.scan_name rfl rfl rfl rfl, Scanner.run_cons, hdot, Option.bind_some,
      Scanner.scan_name rfl rfl rfl rfl]
    rfl
  unfold typeCall
  rw [List.append_assoc, Scanner.run_append, hcall, Option.bind_some,
    Scanner.scan_literal]
  rfl

/-- A number is read with what is written behind it, since the character after it decides where it ends. -/
theorem scansInside_number (n : Nat) :
    ScansInside (Nat.toDigits 10 n ++ ", 'type_sig': ".toList)
      [.number n, .mark ',', .text "type_sig", .mark ':'] := by
  intro lines line depth
  have hcomma : ", 'type_sig': ".toList = ',' :: " 'type_sig': ".toList := rfl
  rw [hcomma, Scanner.scan_number n rfl rfl]
  rfl

/-- A record is what stands between two brackets. -/
theorem record_eq (r : Record) : record r = '\x7b' :: ("'name': ".toList ++ (literal r.name ++
    (", 'nop': ".toList ++ ((Nat.toDigits 10 r.nop.toNat ++ ", 'type_sig': ".toList) ++
      listDisplay (r.signatures.map fun sig => listDisplay (sig.map literal)))))) ++ ['\x7d'] := by
  have hopen : "\x7b'name': ".toList = '\x7b' :: "'name': ".toList := rfl
  unfold record
  rw [hopen]
  simp only [List.cons_append, List.append_assoc]

theorem reads_record (r : Record) : Reads (record r) r.python := by
  obtain ⟨ts, hts, hparse⟩ := Python.reads_listDisplay_map
    (Python.reads_listDisplay_map Python.reads_literal) r.signatures
  have hname : ScansInside "'name': ".toList [.text "name", .mark ':'] := fun _ _ _ => rfl
  have hnop : ScansInside ", 'nop': ".toList [.mark ',', .text "nop", .mark ':'] :=
    fun _ _ _ => rfl
  have hinside := hname.append <| (Python.scans_literal r.name).inside.append <| hnop.append <|
    (scansInside_number r.nop.toNat).append hts.inside
  rw [record_eq]
  refine ⟨_, hinside.bracket (.inr (.inr ⟨rfl, rfl⟩)), fun st => ?_⟩
  -- up to the signatures, the tokens of a record are known
  have hlead : ∀ rest, (Position.operand st).run (.mark '\x7b' :: .text "name" :: .mark ':' ::
      .text r.name :: .mark ',' :: .text "nop" :: .mark ':' :: .number r.nop.toNat :: .mark ',' ::
      .text "type_sig" :: .mark ':' :: rest) =
        (Position.operand (.value [(.text "nop", .number r.nop.toNat),
          (.text "name", .text r.name)] (.text "type_sig") :: st)).run rest := fun _ => rfl
  simp only [List.cons_append, List.nil_append]
  rw [hlead, Position.run_append, hparse]
  rfl

/-- The entries of the dictionary, up to and with the closing bracket. -/
theorem reads_entries (es : List (String × Record)) :
    ∃ ts, ScansInside (es.flatMap entry) ts ∧ ∀ acc st,
      (Position.operand (.dict acc :: st)).run (ts ++ [.mark '\x7d']) =
        some (.after (.dict (acc.reverse ++ es.map entryPython)) st) := by
  induction es with
  | nil => exact ⟨[], fun _ _ _ => rfl, fun acc st => by simp [Position.step]⟩
  | cons e es ih =>
    obtain ⟨ts', hts', hparse'⟩ := ih
    obtain ⟨ts, hts, hparse⟩ := reads_record e.2
    have hindent : ScansInside "    ".toList [] := fun _ _ _ => rfl
    have hcolon : ScansInside [':', ' '] [.mark ':'] := fun _ _ _ => rfl
    have hend : ScansInside [',', '\n'] [.mark ','] := fun _ _ _ => rfl
    have hentry : ScansInside (entry e) _ :=
      (((hindent.append (Python.scans_literal e.1).inside).append hcolon).append hts.inside).append
        hend
    refine ⟨_, hentry.append hts', fun acc st => ?_⟩
    have hrun : (Position.operand (.dict acc :: st)).run
        ([] ++ [Token.text e.1] ++ [Token.mark ':'] ++ ts ++ [Token.mark ',']) =
          some (.operand (.dict (entryPython e :: acc) :: st)) := by
      have hkey : (Position.operand (.dict acc :: st)).run
          ([] ++ [Token.text e.1] ++ [Token.mark ':']) =
            some (.operand (.value acc (.text e.1) :: st)) := rfl
      rw [Position.run_append, Position.run_append, hkey, Option.bind_some, hparse]
      rfl
    rw [List.append_assoc, Position.run_append, hrun, Option.bind_some, hparse']
    simp

/-- The dictionary of the operations, as it is laid out. -/
def dictDisplay : List (String × Record) → List Char
  | [] => ['\x7b', '\x7d']
  | es => '\x7b' :: ('\n' :: es.flatMap entry) ++ ['\x7d']

theorem reads_dictDisplay (es : List (String × Record)) :
    Reads (dictDisplay es) (.dict (es.map entryPython)) := by
  have empty : ScansInside [] [] := fun _ _ _ => rfl
  have hbreak : ScansInside ['\n'] [] := fun _ _ _ => rfl
  rcases es with - | ⟨e, es⟩
  · exact ⟨_, empty.bracket (.inr (.inr ⟨rfl, rfl⟩)), fun _ => rfl⟩
  · obtain ⟨ts, hts, hparse⟩ := reads_entries (e :: es)
    refine ⟨_, (hbreak.append hts).bracket (.inr (.inr ⟨rfl, rfl⟩)), fun st => ?_⟩
    have hopen : (Position.operand st).step (.mark '\x7b') =
        some (.operand (.dict [] :: st)) := rfl
    rw [List.nil_append, List.cons_append, Position.run_cons, hopen, Option.bind_some, hparse]
    rfl

theorem operations_eq (t : Table Record) :
    operations t = "op = ".toList ++ dictDisplay t.entries ++ ['\n'] := by
  unfold operations
  rcases t.entries with - | ⟨e, es⟩
  · rfl
  · have hopen : "op = \x7b\n".toList = "op = ".toList ++ ['\x7b', '\n'] := rfl
    have hclose : "\x7d\n".toList = ['\x7d', '\n'] := rfl
    show "op = \x7b\n".toList ++ (e :: es).flatMap entry ++ "\x7d\n".toList =
      "op = ".toList ++ ('\x7b' :: ('\n' :: (e :: es).flatMap entry) ++ ['\x7d']) ++ ['\n']
    rw [hopen, hclose]
    simp only [List.cons_append, List.nil_append, List.append_assoc]

/-! ### Reading the whole -/

/-- An assignment on a line of its own. -/
theorem run_assignment (lines : List (List Token)) {target : List Char} {name : String}
    (htarget : ∀ lines, (⟨lines, [], 0, .between⟩ : Scanner).run target =
      some ⟨lines, [.mark '=', .name name], 0, .between⟩)
    {cs : List Char} {e : Expr} (h : Reads cs e) :
    ∃ ts, Python.statement ts = some (.assigns name e) ∧
      (⟨lines, [], 0, .between⟩ : Scanner).run (target ++ cs ++ ['\n']) =
        some ⟨ts :: lines, [], 0, .between⟩ := by
  obtain ⟨ts, hts, hparse⟩ := h
  refine ⟨.name name :: .mark '=' :: ts, ?_, ?_⟩
  · simp [Python.statement, Python.expression_of_parses hparse]
  · rw [Scanner.run_append, Scanner.run_append, htarget, Option.bind_some, hts, Option.bind_some]
    simp [Scanner.step, Scanner.begin, Scanner.breakLine, Python.isNameStart]

/-- The tokens of the import. -/
def importLine : List Token := [.name "import", .name "numpy", .name "as", .name "np"]

/-- The text of a module is read as its program. -/
theorem program_encode (m : Module) : Python.program (Format.python.encode m) = some m.python := by
  have hheading : Scanner.start.run heading = some ⟨[importLine], [], 0, .between⟩ := rfl
  have hopTarget : ∀ lines, (⟨lines, [], 0, .between⟩ : Scanner).run "op = ".toList =
      some ⟨lines, [.mark '=', .name "op"], 0, .between⟩ := by
    intro lines
    have htext : "op = ".toList = 'o' :: ['p'] ++ ' ' :: ['=', ' '] := rfl
    rw [htext, Scanner.scan_name rfl rfl rfl rfl]
    rfl
  have htypesTarget : ∀ lines, (⟨lines, [], 0, .between⟩ : Scanner).run "numpy_types = ".toList =
      some ⟨lines, [.mark '=', .name "numpy_types"], 0, .between⟩ := by
    intro lines
    have htext : "numpy_types = ".toList = 'n' :: "umpy_types".toList ++ ' ' :: ['=', ' '] := rfl
    rw [htext, Scanner.scan_name rfl rfl rfl rfl]
    rfl
  obtain ⟨ops, hops, hrunOps⟩ := run_assignment [importLine] hopTarget
    (reads_dictDisplay m.ops.entries)
  obtain ⟨types, htypes, hrunTypes⟩ := run_assignment [ops, importLine] htypesTarget
    (Python.reads_listDisplay_map reads_typeCall m.types)
  -- the empty line between the two assignments is no statement
  have hblank : (⟨[ops, importLine], [], 0, .between⟩ : Scanner).run ['\n'] =
      some ⟨[ops, importLine], [], 0, .between⟩ := rfl
  have htext : text m = heading ++ ("op = ".toList ++ dictDisplay m.ops.entries ++ ['\n']) ++
      ['\n'] ++ ("numpy_types = ".toList ++ listDisplay (m.types.map typeCall) ++ ['\n']) := by
    unfold text
    rw [operations_eq]
    simp only [List.append_assoc]
  have hscan : Python.scan (text m) = some [importLine, ops, types] := by
    unfold Python.scan
    rw [htext, Scanner.run_append, Scanner.run_append, Scanner.run_append, hheading,
      Option.bind_some, hrunOps, Option.bind_some, hblank, Option.bind_some, hrunTypes]
    rfl
  have himport : Python.statement importLine = some (.imports "numpy" "np") := rfl
  unfold Python.program Format.encode Format.characters
  rw [String.toList_ofList, hscan]
  simp [himport, hops, htypes, Module.python]

/-! ### Lines -/

/-- Does the character end a line of a source file? -/
def isLineBreak (c : Char) : Bool := c = '\n' || c = '\r'

/-- The number of line breaks. -/
def lineBreaks (cs : List Char) : Nat := cs.countP isLineBreak

theorem lineBreaks_append (cs cs' : List Char) :
    lineBreaks (cs ++ cs') = lineBreaks cs + lineBreaks cs' := List.countP_append

theorem lineBreaks_cons (c : Char) (cs : List Char) :
    lineBreaks (c :: cs) = lineBreaks cs + if isLineBreak c then 1 else 0 := List.countP_cons

theorem lineBreaks_eq_zero_iff {cs : List Char} :
    lineBreaks cs = 0 ↔ ∀ c ∈ cs, isLineBreak c = false := by
  simp [lineBreaks, List.countP_eq_zero]

theorem lineBreaks_escapeChar (c : Char) : lineBreaks (escapeChar c) = 0 := by
  unfold escapeChar
  split
  · rfl
  · rfl
  · rfl
  · rfl
  · rfl
  · rename_i hn hr _
    split
    · rename_i hcontrol
      have hlt : c.toNat < 256 := Scanner.toNat_lt_of_isControl hcontrol
      have table : ∀ d : Fin 16, isLineBreak (Nat.digitChar d) = false := by decide
      have hhigh : isLineBreak (Nat.digitChar (c.toNat / 16)) = false := table ⟨_, by omega⟩
      have hlow : isLineBreak (Nat.digitChar (c.toNat % 16)) = false := table ⟨_, by omega⟩
      have hslash : isLineBreak '\\' = false := rfl
      have hx : isLineBreak 'x' = false := rfl
      simp [hhigh, hlow, hslash, hx, lineBreaks]
    · have hplain : c ≠ '\n' ∧ c ≠ '\r' := ⟨hn, hr⟩
      simp [lineBreaks, isLineBreak, hplain]

/-- A written text stays on its line. -/
theorem lineBreaks_literal (s : String) : lineBreaks (literal s) = 0 := by
  rw [lineBreaks_eq_zero_iff]
  intro c hc
  simp only [literal, List.cons_append, List.mem_cons, List.mem_append, List.mem_flatMap,
    List.not_mem_nil, or_false] at hc
  rcases hc with rfl | ⟨d, -, hc⟩ | rfl
  · rfl
  · exact lineBreaks_eq_zero_iff.1 (lineBreaks_escapeChar d) c hc
  · rfl

theorem lineBreaks_toDigits (n : Nat) : lineBreaks (Nat.toDigits 10 n) = 0 := by
  rw [lineBreaks_eq_zero_iff]
  intro c hc
  have hdigit : c.isDigit = true := Nat.isDigit_of_mem_toDigits (by decide) (by decide) hc
  have hn : c ≠ '\n' := by
    rintro rfl
    exact absurd hdigit (by decide)
  have hr : c ≠ '\r' := by
    rintro rfl
    exact absurd hdigit (by decide)
  simp [isLineBreak, hn, hr]

theorem lineBreaks_listDisplay {items : List (List Char)} (h : ∀ item ∈ items, lineBreaks item = 0) :
    lineBreaks (listDisplay items) = 0 := by
  have hseparated : lineBreaks (separated items) = 0 := by
    induction items with
    | nil => rfl
    | cons item items ih =>
      obtain ⟨hitem, hitems⟩ := List.forall_mem_cons.1 h
      rcases items with - | ⟨item', items⟩
      · exact hitem
      · have hcomma : separated (item :: item' :: items) =
            item ++ ([',', ' '] ++ separated (item' :: items)) := rfl
        rw [hcomma, lineBreaks_append, lineBreaks_append, hitem, ih hitems]
        rfl
  rw [listDisplay, List.cons_append, lineBreaks_cons, lineBreaks_append, hseparated]
  rfl

theorem lineBreaks_record (r : Record) : lineBreaks (record r) = 0 := by
  have hsigs : lineBreaks (listDisplay (r.signatures.map fun sig => listDisplay (sig.map literal))) =
      0 := by
    refine lineBreaks_listDisplay fun item hitem => ?_
    obtain ⟨sig, -, rfl⟩ := List.mem_map.1 hitem
    refine lineBreaks_listDisplay fun item hitem => ?_
    obtain ⟨t, -, rfl⟩ := List.mem_map.1 hitem
    exact lineBreaks_literal t
  unfold record
  simp only [lineBreaks_append, lineBreaks_literal, lineBreaks_toDigits, hsigs]
  rfl

theorem lineBreaks_dictDisplay (es : List (String × Record)) :
    lineBreaks (dictDisplay es) = if es = [] then 0 else es.length + 1 := by
  have hentries : ∀ es : List (String × Record), lineBreaks (es.flatMap entry) = es.length := by
    intro es
    induction es with
    | nil => rfl
    | cons e es ih =>
      have hentry : lineBreaks (entry e) = 1 := by
        unfold entry
        simp only [lineBreaks_append, lineBreaks_literal, lineBreaks_record]
        rfl
      rw [List.flatMap_cons, lineBreaks_append, hentry, ih, List.length_cons, Nat.add_comm]
  rcases es with - | ⟨e, es⟩
  · rfl
  · rw [dictDisplay, List.cons_append, lineBreaks_cons, List.cons_append, lineBreaks_cons,
      lineBreaks_append, hentries]
    · rfl
    · simp

/-- The text has as many lines as the number of operations asks for, whatever the texts in it are. -/
theorem lineBreaks_text (m : Module) :
    lineBreaks (text m) = 6 + if m.ops.entries = [] then 0 else m.ops.entries.length + 1 := by
  have hheading : lineBreaks heading = 3 := rfl
  have htypes : lineBreaks (listDisplay (m.types.map typeCall)) = 0 := by
    refine lineBreaks_listDisplay fun item hitem => ?_
    obtain ⟨t, -, rfl⟩ := List.mem_map.1 hitem
    unfold typeCall
    rw [lineBreaks_append, lineBreaks_append, lineBreaks_literal]
    rfl
  have hops : lineBreaks "op = ".toList = 0 := rfl
  have hnames : lineBreaks "numpy_types = ".toList = 0 := rfl
  have hbreak : lineBreaks ['\n'] = 1 := rfl
  unfold text
  rw [operations_eq]
  simp only [lineBreaks_append, lineBreaks_dictDisplay, hheading, htypes, hops, hnames, hbreak]
  omega

end PythonText

/-- **The Python form loses nothing.**  The text is read as the program of the module, and as no other
module's; a written text is read as itself wherever it stands, so nothing in it ends its literal; and the
lines of the whole depend on the number of operations only. -/
theorem python_encode_readable (m : Module) :
    Python.program (Format.python.encode m) = some m.python ∧
      (∀ m', Format.python.encode m' = Format.python.encode m ↔ m' = m) ∧
      (∀ s rest lines line depth,
        (⟨lines, line, depth, .between⟩ : Scanner).run (PythonText.literal s ++ rest) =
          (⟨lines, .text s :: line, depth, .between⟩ : Scanner).run rest) ∧
      PythonText.lineBreaks (Format.python.encode m).toList =
        6 + if m.ops.entries = [] then 0 else m.ops.entries.length + 1 := by
  refine ⟨PythonText.program_encode m, fun m' => ⟨fun h => ?_, fun h => h ▸ rfl⟩,
    fun s rest _ _ _ => Scanner.scan_literal s rest, ?_⟩
  · refine Module.python_injective (Option.some.inj ?_)
    rw [← PythonText.program_encode, ← PythonText.program_encode, h]
  · unfold Format.encode Format.characters
    rw [String.toList_ofList, PythonText.lineBreaks_text]

end BindingPipeline.Metadata
