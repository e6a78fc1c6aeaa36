/-
BindingPipeline/Proofs/Metadata/Document.lean

The JSON document of a module says all of the module and nothing else.  The laid-out text is one of the
spellings of the document, and a spelling is read as one value only; so what a reader gets is that document,
and the module can be told from it.  That the reader takes the document at all is due to its depth and its
numbers, which have bounds for all modules (`Module.fits_document`).
-/
import BindingPipeline.Build.MetadataFile
import BindingPipeline.Proofs.Metadata.Reading

namespace BindingPipeline.Metadata

open Json (Numeral Value Written WrittenDocument)

/-! ### Depth and numbers -/

theorem fits_textList (ts : List String) (n : Nat) : (textList ts).Fits (n + 2) := by
  refine ⟨Nat.succ_ne_zero n, fun v hv => ?_⟩
  obtain ⟨t, -, rfl⟩ := List.mem_map.1 hv
  trivial

theorem fits_ofNat {k : Nat} (hk : k < Json.wordBound) (n : Nat) : (Value.number (.ofNat k)).Fits (n + 1) :=
  ⟨_, Json.number_eq_natural_iff.2 ⟨rfl, hk⟩⟩

theorem Record.fits_toValue (r : Record) (n : Nat) : r.toValue.Fits (n + 4) := by
  have hnop : r.nop.toNat < Json.wordBound := Nat.lt_trans r.nop.toNat_lt (by decide)
  have hsignatures : (Value.list (r.signatures.map textList)).Fits (n + 3) := by
    refine ⟨Nat.succ_ne_zero _, fun v hv => ?_⟩
    obtain ⟨sig, -, rfl⟩ := List.mem_map.1 hv
    exact fits_textList sig n
  refine ⟨Nat.succ_ne_zero _, ?_⟩
  simp only [List.forall_mem_cons]
  exact ⟨trivial, fits_ofNat hnop _, hsignatures, nofun⟩

theorem Table.fits_toValue (t : Table Record) (n : Nat) : t.toValue.Fits (n + 5) := by
  refine ⟨Nat.succ_ne_zero _, fun e he => ?_⟩
  obtain ⟨e, -, rfl⟩ := List.mem_map.1 he
  exact e.2.fits_toValue n

/-- The document of a module has five levels of brackets. -/
theorem Module.fits_document (m : Module) (n : Nat) : m.document.Fits (n + 6) := by
  refine ⟨Nat.succ_ne_zero _, ?_⟩
  simp only [List.forall_mem_cons]
  exact ⟨fits_ofNat (by decide) _, m.ops.fits_toValue n, fits_textList m.types _, nofun⟩

/-! ### Documents -/

/-- Different modules have different documents. -/
theorem Module.document_injective : Function.Injective Module.document := by
  intro m m' h
  simp only [document, Value.object.injEq, List.cons.injEq, Prod.mk.injEq, true_and, and_true] at h
  obtain ⟨hops, htypes⟩ := h
  apply Module.compact_injective
  unfold Module.compact Module.toValue
  rw [hops, htypes]

theorem written_encode (m : Module) : Written m.document (Format.json.encode m).toList ['\n'] := by
  unfold Format.encode
  rw [String.toList_ofList]
  exact Json.written_pretty 0 m.document ['\n']

theorem writtenDocument_encode (m : Module) : WrittenDocument m.document (Format.json.encode m) :=
  ⟨_, _, .refl _, written_encode m, .cons rfl (.refl _)⟩

/-- A reader of any values gets the document and no other value. -/
theorem document_encode (m : Module) {v : Value} :
    (Json.anyValue Json.bracketLimit).document (Format.json.encode m) = .ok v ↔ v = m.document := by
  have hfits : m.document.Fits Json.bracketLimit := m.fits_document 122
  rw [(Json.reads_anyValue Json.bracketLimit).document_eq_ok_iff (writtenDocument_encode m)]
  exact and_iff_left hfits

theorem writtenDocument_encode_iff {m : Module} {v : Value} :
    WrittenDocument v (Format.json.encode m) ↔ v = m.document := by
  constructor
  · intro h
    have hread := (document_encode m).2 rfl
    exact ((Json.reads_anyValue Json.bracketLimit).document_eq_ok_iff h).1 hread |>.1.symm
  · rintro rfl
    exact writtenDocument_encode m

theorem Format.json_encode_injective : Function.Injective Format.json.encode := by
  intro m m' h
  have hread := (document_encode m).2 rfl
  rw [h, document_encode] at hread
  exact Module.document_injective hread

/-- The document ends with its closing bracket. -/
theorem Module.getLast?_document (m : Module) : (m.document.pretty 0).getLast? = some '\x7d' := by
  unfold document
  rw [Value.pretty, List.getLast?_concat]

/-- **The JSON document of a module is read back without loss.**  Encoding never fails and gives the document
with one line break behind it.  What is read from the text, by whichever reader of JSON, is the object with
the version of the layout, the operations in the order of their keys with all their parts, and the types in
their order.  So no other module is encoded as this text. -/
theorem json_encode_lossless (m : Module) :
    ∃ text body, Build.Encoder.ofFormat .json m = .ok text ∧
      (text.toList = body ++ ['\n'] ∧ body.getLast? = some '\x7d' ∧ Written m.document body []) ∧
      (∀ v, WrittenDocument v text ↔ v = .object
        [("format_version", .number (Numeral.ofNat formatVersion)),
          ("op", .object (m.ops.entries.map fun e => (e.1, .object
            [("name", .text e.2.name), ("nop", .number (Numeral.ofNat e.2.nop.toNat)),
              ("type_sig", .list (e.2.signatures.map fun sig => .list (sig.map .text)))]))),
          ("types", .list (m.types.map .text))]) ∧
      (∀ v, (Json.anyValue Json.bracketLimit).document text = .ok v ↔ v = m.document) ∧
      (m.ops.entries.Pairwise fun a b => a.1 < b.1) ∧
      ∀ m', Build.Encoder.ofFormat .json m' = .ok text ↔ m' = m := by
  refine ⟨Format.json.encode m, m.document.pretty 0, rfl, ⟨?_, m.getLast?_document, ?_⟩,
    fun v => writtenDocument_encode_iff, fun v => document_encode m, m.ops.increasing, fun m' => ?_⟩
  · unfold Format.encode
    rw [String.toList_ofList]
    rfl
  · have hwritten := Json.written_pretty 0 m.document []
    rw [List.append_nil] at hwritten
    exact hwritten
  · unfold Build.Encoder.ofFormat
    rw [Except.ok.injEq]
    exact Format.json_encode_injective.eq_iff

example : Format.json.encode ⟨.empty, ["BH_INT32"]⟩ =
    "\x7b\n  \"format_version\": 1,\n  \"op\": \x7b\x7d,\n  \"types\": [\n    \"BH_INT32\"\n  ]\n\x7d\n" := by
  cbv

end BindingPipeline.Metadata
