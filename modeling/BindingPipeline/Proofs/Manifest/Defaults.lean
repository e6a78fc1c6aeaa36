/-
BindingPipeline/Proofs/Manifest/Defaults.lean

Manifests that leave settings out.  A configuration can be written in many ways: the tables and their keys stand in
any order, a key or a whole table that says what is the default anyway may be missing, and there may be others
that mean nothing here.  Every such manifest is read as that configuration.  What has no default may not be
left out: the sources, and the four files among them.

Design.  `wants` says for each kind of tables how its settings are written, and `Toml.Table.Writes` what a table
may leave out.  The names of what is left out without a default are a parameter (`left`), so that the
manifests that are read and those that are refused are described at once.

Main result: `manifest_defaults`.
-/
import Mathlib
import BindingPipeline.Manifest.Reading
import BindingPipeline.Proofs.Toml.Section

namespace BindingPipeline.Manifest

open Toml (Want Section Value Misfit)

variable {δ β : Type} {left : List String} {t : Toml.Table}

/-! ### What is wanted -/

/-- A setting is to have a value, which is written in one way. -/
def want (name : String) (v : Value) (get : δ → β) (x : β) : Want δ := ⟨name, (· = v), (get · = x)⟩

/-- A setting that has no default is to have a value, unless it is left out. -/
def wantUnless (left : List String) (name : String) (Says : Value → Prop) (get : δ → Option β) (x : β) :
    Want δ :=
  ⟨name, fun v => name ∉ left ∧ Says v, fun d => get d = if name ∈ left then none else some x⟩

/-- The value is a table that writes all that is wanted. -/
def IsTable (plain : δ) (wants : List (Want δ)) (v : Value) : Prop :=
  ∃ t : Toml.Table, v = .table t ∧ t.Writes plain wants

/-- A path as a value. -/
def pathValue (p : Path) : Value := .text p.text

/-- The sources before any of them is named. -/
def Sources.plain : Sources.Draft := ⟨none, none, none, none, []⟩

/-- How the sources are written, but for those that are left out. -/
def Sources.wants (s : Sources) (left : List String) : List (Want Sources.Draft) :=
  [wantUnless left "template" (· = pathValue s.template) (·.template) s.template,
    wantUnless left "header" (· = pathValue s.header) (·.header) s.header,
    wantUnless left "opcodes" (· = pathValue s.opcodes) (·.opcodes) s.opcodes,
    wantUnless left "types" (· = pathValue s.types) (·.types) s.types,
    want "extra" (.list (s.extra.map pathValue)) (·.extra) s.extra]

/-- How the outputs are written. -/
def Outputs.wants (o : Outputs) : List (Want Outputs) :=
  [want "interface" (pathValue o.interface) (·.interface) o.interface,
    want "metadata" (pathValue o.metadata) (·.metadata) o.metadata,
    want "format" (.text o.format.name) (·.format) o.format]

/-- How the package is written. -/
def Package.wants (p : Package) : List (Want Package) :=
  [want "name" (.text p.name) (·.name) p.name,
    want "build_lib" (pathValue p.buildLib) (·.buildLib) p.buildLib]

/-- How the checks are written. -/
def Checks.wants (c : Checks) : List (Want Checks) :=
  [want "check_arity" (.bool c.checkArity) (·.checkArity) c.checkArity,
    want "strict_types" (.bool c.strictTypes) (·.strictTypes) c.strictTypes]

/-- How the commands of the stages are written. -/
def StageCommands.wants (c : StageCommands) : List (Want StageCommands) :=
  Stage.all.map fun g => want g.name (.list ((c.words g).map .text)) (·.words g) (c.words g)

/-- The configuration before the sources are named. -/
def Config.plain : Config.Draft :=
  ⟨none, Outputs.default, Package.default, Checks.default, StageCommands.default⟩

/-- How the tables are written that may be left out. -/
def Config.furtherWants (c : Config) : List (Want Config.Draft) :=
  [⟨"outputs", IsTable Outputs.default c.outputs.wants, (·.outputs = c.outputs)⟩,
    ⟨"package", IsTable Package.default c.package.wants, (·.package = c.package)⟩,
    ⟨"catalog", IsTable Checks.default c.catalog.wants, (·.catalog = c.catalog)⟩,
    ⟨"stages", IsTable StageCommands.default c.stages.wants, (·.stages = c.stages)⟩]

/-- How a configuration is written, but for what is left out of the sources, or if they are left out. -/
def Config.wants (c : Config) (left : List String) : List (Want Config.Draft) :=
  wantUnless left "sources" (IsTable Sources.plain (c.sources.wants left)) (·.sources) c.sources :: c.furtherWants

/-- The table writes the configuration, but for the names that are left out. -/
def Config.Written (c : Config) (left : List String) (t : Toml.Table) : Prop := t.Writes Config.plain (c.wants left)

/-- What has no default. -/
def neededNames : List String := ["sources", "template", "header", "opcodes", "types"]

/-! ### Values -/

theorem asPath_pathValue (p : Path) : asPath (pathValue p) = .ok p := rfl

theorem asText_text (wanted s : String) : Value.asText wanted (.text s) = .ok s := rfl

theorem asList_map {α : Type} {read : Value → Except Misfit α} {write : α → Value}
    (h : ∀ x, read (write x) = .ok x) (xs : List α) : Value.asList read (.list (xs.map write)) = .ok xs := by
  unfold Value.asList
  rw [mapM_eq_ok_iff, List.forall₂_map_left_iff, List.forall₂_same]
  exact fun x _ => h x

theorem asFormat_name (f : Metadata.Format) : asFormat (.text f.name) = .ok f := by
  cases f with
  | python => rfl
  | json => rfl

/-! ### Single tables -/

theorem Sources.obeys (s : Sources) (left : List String) : Sources.table.Obeys (s.wants left) where
  names := rfl
  meets := by
    simp only [Sources.wants, List.forall_mem_cons, Section.Meets]
    refine ⟨?_, ?_, ?_, ?_, ?_, nofun⟩
    · rintro v d ⟨hnamed, rfl⟩
      exact ⟨{ d with template := some s.template }, rfl, (if_neg hnamed).symm,
        fun _ => (if_neg hnamed).symm, id, id, id, id, nofun⟩
    · rintro v d ⟨hnamed, rfl⟩
      exact ⟨{ d with header := some s.header }, rfl, (if_neg hnamed).symm,
        id, fun _ => (if_neg hnamed).symm, id, id, id, nofun⟩
    · rintro v d ⟨hnamed, rfl⟩
      exact ⟨{ d with opcodes := some s.opcodes }, rfl, (if_neg hnamed).symm,
        id, id, fun _ => (if_neg hnamed).symm, id, id, nofun⟩
    · rintro v d ⟨hnamed, rfl⟩
      exact ⟨{ d with types := some s.types }, rfl, (if_neg hnamed).symm,
        id, id, id, fun _ => (if_neg hnamed).symm, id, nofun⟩
    · rintro v d rfl
      refine ⟨{ d with extra := s.extra }, ?_, rfl, id, id, id, id, fun _ => rfl, nofun⟩
      show (Value.asList asPath (.list (s.extra.map pathValue)) >>= fun v => .ok { d with extra := v }) = _
      rw [asList_map asPath_pathValue]
      rfl

theorem Outputs.obeys (o : Outputs) : Outputs.table.Obeys o.wants where
  names := rfl
  meets := by
    simp only [Outputs.wants, List.forall_mem_cons, Section.Meets]
    refine ⟨?_, ?_, ?_, nofun⟩
    · rintro v d rfl
      exact ⟨{ d with interface := o.interface }, rfl, rfl, fun _ => rfl, id, id, nofun⟩
    · rintro v d rfl
      exact ⟨{ d with metadata := o.metadata }, rfl, rfl, id, fun _ => rfl, id, nofun⟩
    · rintro v d rfl
      refine ⟨{ d with format := o.format }, ?_, rfl, id, id, fun _ => rfl, nofun⟩
      show (asFormat (.text o.format.name) >>= fun v => .ok { d with format := v }) = _
      rw [asFormat_name]
      rfl

theorem Package.obeys (p : Package) : Package.table.Obeys p.wants where
  names := rfl
  meets := by
    simp only [Package.wants, List.forall_mem_cons, Section.Meets]
    refine ⟨?_, ?_, nofun⟩
    · rintro v d rfl
      exact ⟨{ d with name := p.name }, rfl, rfl, fun _ => rfl, id, nofun⟩
    · rintro v d rfl
      exact ⟨{ d with buildLib := p.buildLib }, rfl, rfl, id, fun _ => rfl, nofun⟩

theorem Checks.obeys (c : Checks) : Checks.table.Obeys c.wants where
  names := rfl
  meets := by
    simp only [Checks.wants, List.forall_mem_cons, Section.Meets]
    refine ⟨?_, ?_, nofun⟩
    · rintro v d rfl
      exact ⟨{ d with checkArity := c.checkArity }, rfl, rfl, fun _ => rfl, id, nofun⟩
    · rintro v d rfl
      exact ⟨{ d with strictTypes := c.strictTypes }, rfl, rfl, id, fun _ => rfl, nofun⟩

theorem StageCommands.words_withWords (c : StageCommands) (g g' : Stage) (ws : List String) :
    (c.withWords g ws).words g' = if g' = g then ws else c.words g' := by
  cases g <;> cases g' <;> rfl

theorem StageCommands.obeys (c : StageCommands) : StageCommands.table.Obeys c.wants where
  names := rfl
  meets := by
    simp only [StageCommands.wants, List.forall_mem_map, Section.Meets]
    rintro g - v d rfl
    refine ⟨d.withWords g (c.words g), ?_, ?_, fun g' _ hmet => ?_⟩
    · have hset : StageCommands.table.apply d (g.name, .list ((c.words g).map .text)) =
          (Value.asList (Value.asText "a string") (.list ((c.words g).map .text)) >>= fun v =>
            .ok (d.withWords g v)) := by
        cases g <;> rfl
      show StageCommands.table.apply d (g.name, .list ((c.words g).map .text)) = _
      rw [hset, asList_map (asText_text "a string")]
      rfl
    · show (d.withWords g (c.words g)).words g = c.words g
      rw [words_withWords, if_pos rfl]
    · show (d.withWords g (c.words g)).words g' = c.words g'
      rw [words_withWords]
      split
      · rename_i hsame
        rw [hsame]
      · exact hmet

/-! ### Records of their own -/

/-- A table is read as the record that it writes, if every draft is a record. -/
theorem ofValue_eq_ok {sec : Section δ δ} {wants : List (Want δ)} {x : δ} {v : Value} (hobeys : sec.Obeys wants)
    (hbuild : sec.build? = some) (heq : ∀ d, (∀ w ∈ wants, w.Met d) → d = x) (hv : IsTable sec.blank wants v) :
    sec.ofValue v = .ok x := by
  obtain ⟨t, rfl, ht⟩ := hv
  obtain ⟨d, hmet, hd⟩ := hobeys.exists_ofTable_eq ht
  show sec.ofTable t = .ok x
  rw [hd, heq d hmet]
  unfold Section.finish
  rw [hbuild]

theorem Outputs.ofValue_eq_ok {o : Outputs} {v : Value} (hv : IsTable Outputs.default o.wants v) :
    Outputs.table.ofValue v = .ok o := by
  refine Manifest.ofValue_eq_ok o.obeys rfl (fun d hmet => ?_) hv
  simp only [wants, List.forall_mem_cons] at hmet
  obtain ⟨hinterface, hmetadata, hformat, -⟩ := hmet
  rcases d with ⟨interface, metadata, format⟩
  obtain rfl : interface = o.interface := hinterface
  obtain rfl : metadata = o.metadata := hmetadata
  obtain rfl : format = o.format := hformat
  rfl

theorem Package.ofValue_eq_ok {p : Package} {v : Value} (hv : IsTable Package.default p.wants v) :
    Package.table.ofValue v = .ok p := by
  refine Manifest.ofValue_eq_ok p.obeys rfl (fun d hmet => ?_) hv
  simp only [wants, List.forall_mem_cons] at hmet
  obtain ⟨hname, hbuildLib, -⟩ := hmet
  rcases d with ⟨name, buildLib⟩
  obtain rfl : name = p.name := hname
  obtain rfl : buildLib = p.buildLib := hbuildLib
  rfl

theorem Checks.ofValue_eq_ok {c : Checks} {v : Value} (hv : IsTable Checks.default c.wants v) :
    Checks.table.ofValue v = .ok c := by
  refine Manifest.ofValue_eq_ok c.obeys rfl (fun d hmet => ?_) hv
  simp only [wants, List.forall_mem_cons] at hmet
  obtain ⟨harity, hstrict, -⟩ := hmet
  rcases d with ⟨checkArity, strictTypes⟩
  obtain rfl : checkArity = c.checkArity := harity
  obtain rfl : strictTypes = c.strictTypes := hstrict
  rfl

/-- Commands that have the same words for each stage are the same. -/
theorem StageCommands.ext_words {c d : StageCommands} (h : ∀ g, d.words g = c.words g) : d = c := by
  rcases d with ⟨buildExt, buildPy, buildClib, buildScripts⟩
  obtain rfl : buildExt = c.buildExt := h .buildExt
  obtain rfl : buildPy = c.buildPy := h .buildPy
  obtain rfl : buildClib = c.buildClib := h .buildClib
  obtain rfl : buildScripts = c.buildScripts := h .buildScripts
  rfl

theorem StageCommands.ofValue_eq_ok {c : StageCommands} {v : Value}
    (hv : IsTable StageCommands.default c.wants v) : StageCommands.table.ofValue v = .ok c := by
  refine Manifest.ofValue_eq_ok c.obeys rfl (fun d hmet => ext_words fun g => ?_) hv
  exact hmet _ (List.mem_map.2 ⟨g, Stage.mem_all g, rfl⟩)

/-! ### The sources -/

/-- What becomes of sources of which some are left out. -/
theorem Sources.ofTable_eq (s : Sources) (ht : t.Writes Sources.plain (s.wants left)) :
    Sources.table.ofTable t = Sources.table.finish
      ⟨if "template" ∈ left then none else some s.template, if "header" ∈ left then none else some s.header,
        if "opcodes" ∈ left then none else some s.opcodes, if "types" ∈ left then none else some s.types,
        s.extra⟩ := by
  obtain ⟨d, hmet, hd⟩ := (s.obeys left).exists_ofTable_eq ht
  simp only [wants, List.forall_mem_cons] at hmet
  obtain ⟨htemplate, hheader, hopcodes, htypes, hextra, -⟩ := hmet
  rcases d with ⟨template, header, opcodes, types, extra⟩
  obtain rfl : template = _ := htemplate
  obtain rfl : header = _ := hheader
  obtain rfl : opcodes = _ := hopcodes
  obtain rfl : types = _ := htypes
  obtain rfl : extra = _ := hextra
  exact hd

theorem Sources.ofValue_eq_ok {s : Sources} {v : Value} (hv : IsTable Sources.plain (s.wants []) v) :
    Sources.table.ofValue v = .ok s := by
  obtain ⟨t, rfl, ht⟩ := hv
  exact s.ofTable_eq ht

/-- Of the sources that are left out the first is missed. -/
theorem Sources.exists_ofValue_eq_error (s : Sources)
    (hleft : ∃ name ∈ left, name ∈ ["template", "header", "opcodes", "types"]) :
    ∃ name ∈ left, ∀ v, IsTable Sources.plain (s.wants left) v →
      Sources.table.ofValue v = .error (.missing name) := by
  suffices hfinish : ∃ name ∈ left, Sources.table.finish
      ⟨if "template" ∈ left then none else some s.template, if "header" ∈ left then none else some s.header,
        if "opcodes" ∈ left then none else some s.opcodes, if "types" ∈ left then none else some s.types,
        s.extra⟩ = .error (.missing name) by
    obtain ⟨name, hname, herror⟩ := hfinish
    refine ⟨name, hname, ?_⟩
    rintro _ ⟨t, rfl, ht⟩
    exact (s.ofTable_eq ht).trans herror
  by_cases htemplate : "template" ∈ left
  · rw [if_pos htemplate]
    exact ⟨"template", htemplate, rfl⟩
  rw [if_neg htemplate]
  by_cases hheader : "header" ∈ left
  · rw [if_pos hheader]
    exact ⟨"header", hheader, rfl⟩
  rw [if_neg hheader]
  by_cases hopcodes : "opcodes" ∈ left
  · rw [if_pos hopcodes]
    exact ⟨"opcodes", hopcodes, rfl⟩
  rw [if_neg hopcodes]
  by_cases htypes : "types" ∈ left
  · rw [if_pos htypes]
    exact ⟨"types", htypes, rfl⟩
  · obtain ⟨name, hname, hneeded⟩ := hleft
    simp only [List.mem_cons, List.not_mem_nil, or_false] at hneeded
    rcases hneeded with rfl | rfl | rfl | rfl
    · exact absurd hname htemplate
    · exact absurd hname hheader
    · exact absurd hname hopcodes
    · exact absurd hname htypes

/-! ### The whole manifest -/

/-- The tables that may be left out are read as what they write, whatever is wanted of the sources. -/
theorem Config.obeys (c : Config) {Says : Value → Prop} {sources : Option Sources}
    (hsources : ∀ v, Says v → ∃ s, Sources.table.ofValue v = .ok s ∧ sources = some s) :
    Config.table.Obeys (⟨"sources", Says, (·.sources = sources)⟩ :: c.furtherWants) where
  names := rfl
  meets := by
    simp only [Config.furtherWants, List.forall_mem_cons, Section.Meets]
    refine ⟨?_, ?_, ?_, ?_, ?_, nofun⟩
    · intro v d hv
      obtain ⟨s, hs, rfl⟩ := hsources v hv
      refine ⟨{ d with sources := some s }, ?_, rfl, fun _ => rfl, id, id, id, id, nofun⟩
      show (Sources.table.ofValue v >>= fun s => .ok { d with sources := some s }) = _
      rw [hs]
      rfl
    · intro v d hv
      refine ⟨{ d with outputs := c.outputs }, ?_, rfl, id, fun _ => rfl, id, id, id, nofun⟩
      show (Outputs.table.ofValue v >>= fun o => .ok { d with outputs := o }) = _
      rw [Outputs.ofValue_eq_ok hv]
      rfl
    · intro v d hv
      refine ⟨{ d with package := c.package }, ?_, rfl, id, id, fun _ => rfl, id, id, nofun⟩
      show (Package.table.ofValue v >>= fun p => .ok { d with package := p }) = _
      rw [Package.ofValue_eq_ok hv]
      rfl
    · intro v d hv
      refine ⟨{ d with catalog := c.catalog }, ?_, rfl, id, id, id, fun _ => rfl, id, nofun⟩
      show (Checks.table.ofValue v >>= fun x => .ok { d with catalog := x }) = _
      rw [Checks.ofValue_eq_ok hv]
      rfl
    · intro v d hv
      refine ⟨{ d with stages := c.stages }, ?_, rfl, id, id, id, id, fun _ => rfl, nofun⟩
      show (StageCommands.table.ofValue v >>= fun x => .ok { d with stages := x }) = _
      rw [StageCommands.ofValue_eq_ok hv]
      rfl

variable {c : Config}

/-- A manifest that is read, or of which the sources are left out. -/
theorem Config.ofTable_eq {Says : Value → Prop} (sources : Option Sources)
    (hsources : ∀ v, Says v → ∃ s, Sources.table.ofValue v = .ok s ∧ sources = some s)
    (ht : t.Writes Config.plain (⟨"sources", Says, (·.sources = sources)⟩ :: c.furtherWants)) :
    Config.table.ofTable t = Config.table.finish ⟨sources, c.outputs, c.package, c.catalog, c.stages⟩ := by
  obtain ⟨d, hmet, hd⟩ := (c.obeys hsources).exists_ofTable_eq ht
  simp only [furtherWants, List.forall_mem_cons] at hmet
  obtain ⟨hsources, houtputs, hpackage, hcatalog, hstages, -⟩ := hmet
  rcases d with ⟨sources, outputs, package, catalog, stages⟩
  obtain rfl : sources = _ := hsources
  obtain rfl : outputs = _ := houtputs
  obtain rfl : package = _ := hpackage
  obtain rfl : catalog = _ := hcatalog
  obtain rfl : stages = _ := hstages
  exact hd

theorem Config.ofTable_eq_ok (ht : c.Written [] t) : Config.table.ofTable t = .ok c := by
  refine Config.ofTable_eq (some c.sources) ?_ ht
  rintro v ⟨-, hv⟩
  exact ⟨c.sources, Sources.ofValue_eq_ok hv, rfl⟩

/-- Without the sources everything else is read, and then they are missed. -/
theorem Config.ofTable_eq_error_of_sources (hleft : "sources" ∈ left) (ht : c.Written left t) :
    Config.table.ofTable t = .error (.missing "sources") := by
  have hnone : t.Writes Config.plain (⟨"sources", fun _ => False, (·.sources = none)⟩ :: c.furtherWants) := by
    intro w hw
    rcases List.mem_cons.1 hw with rfl | hw
    · exact ⟨fun v hv => (ht _ List.mem_cons_self).1 v hv |>.1 hleft, .inr rfl⟩
    · exact ht w (List.mem_cons_of_mem _ hw)
  exact Config.ofTable_eq none (fun _ h => h.elim) hnone

/-- A table other than the sources is always read. -/
theorem Config.exists_apply_eq_ok (ht : c.Written left t) {e : String × Value} (he : e ∈ t)
    (hother : e.1 ≠ "sources") (d : Config.Draft) : ∃ d', Config.table.apply d e = .ok d' := by
  have hobeys : Config.table.Obeys (⟨"sources", fun _ => False, (·.sources = none)⟩ :: c.furtherWants) :=
    c.obeys fun _ h => h.elim
  have hmeans : ∀ w ∈ ⟨"sources", fun _ => False, (·.sources = none)⟩ :: c.furtherWants, w.name = e.1 →
      w.Says e.2 := by
    intro w hw hname
    rcases List.mem_cons.1 hw with rfl | hw
    · exact hother hname.symm
    · exact (ht w (List.mem_cons_of_mem _ hw)).1 e.2 (hname ▸ he)
  obtain ⟨d', hd', -⟩ := hobeys.apply_eq_ok hmeans d
  exact ⟨d', hd'⟩

/-- If the table of the sources is there but misses one of them, nothing else is complained about. -/
theorem Config.ofTable_eq_error_of_source (hthere : "sources" ∉ left)
    (hleft : ∃ name ∈ left, name ∈ ["template", "header", "opcodes", "types"]) (ht : c.Written left t) :
    ∃ name ∈ left, Config.table.ofTable t = .error (.missing name) := by
  obtain ⟨name, hname, herror⟩ := c.sources.exists_ofValue_eq_error hleft
  refine ⟨name, hname, ?_⟩
  obtain ⟨hmeans, hnames⟩ := ht _ List.mem_cons_self
  have hnames : t.Names "sources" := by
    refine hnames.resolve_right fun hnone => ?_
    have hnone : none = if "sources" ∈ left then none else some c.sources := hnone
    rw [if_neg hthere] at hnone
    cases hnone
  have hrefused : ∀ v, ("sources", v) ∈ t → ∀ d,
      Config.table.apply d ("sources", v) = .error (.missing name) := by
    intro v hv d
    show (Sources.table.ofValue v >>= fun s => .ok { d with sources := some s }) = _
    rw [herror v (hmeans v hv).2]
    rfl
  show (t.foldlM Config.table.apply Config.plain >>= Config.table.finish) = _
  rw [Section.foldlM_eq_error hnames hrefused (fun e he hother => c.exists_apply_eq_ok ht he hother) Config.plain]
  rfl

theorem Config.ofTable_eq_error (hleft : left ≠ []) (hneeded : left ⊆ neededNames) (ht : c.Written left t) :
    ∃ name ∈ left, Config.table.ofTable t = .error (.missing name) := by
  by_cases hsources : "sources" ∈ left
  · exact ⟨"sources", hsources, Config.ofTable_eq_error_of_sources hsources ht⟩
  · obtain ⟨name, hname⟩ := List.exists_mem_of_ne_nil left hleft
    have hother : name ≠ "sources" := fun heq => hsources (heq ▸ hname)
    exact Config.ofTable_eq_error_of_source hsources
      ⟨name, hname, (List.mem_cons.1 (hneeded hname)).resolve_left hother⟩ ht

/-- **Defaults are independent and complete.**  A document that writes a configuration, whatever it leaves
out that has a default, is read as that configuration.  A document that leaves out something that has none is
refused; the complaint is about the origin of the document, and says what is missing. -/
theorem manifest_defaults (c : Config) (origin : Path) {text : String} {t : Toml.Table}
    (hread : Toml.ofText? text = some t) :
    (c.Written [] t → Config.ofText origin text = .ok c) ∧
      ∀ left : List String, left ≠ [] → left ⊆ neededNames → c.Written left t →
        ∃ name ∈ left, Config.ofText origin text = .error (.config origin (.misfit (.missing name))) := by
  have hofText : Config.ofText origin text = Config.ofTable origin t := by
    unfold Config.ofText
    rw [hread]
  rw [hofText]
  unfold Config.ofTable
  refine ⟨fun ht => ?_, fun left hleft hneeded ht => ?_⟩
  · rw [Config.ofTable_eq_ok ht]
  · obtain ⟨name, hname, herror⟩ := Config.ofTable_eq_error hleft hneeded ht
    refine ⟨name, hname, ?_⟩
    rw [herror]

/-! ### A manifest in another order -/

/-- A configuration that has all defaults but one. -/
def strictConfig : Config :=
  ⟨⟨⟨"i"⟩, ⟨"h"⟩, ⟨"o"⟩, ⟨"t"⟩, []⟩, .default, .default, ⟨false, true⟩, .default⟩

/-- Its tables and one that means nothing here; the rules stand behind the sources. -/
def strictTable (sources : Toml.Table) : Toml.Table :=
  [("new", .table []), ("sources", .table sources), ("catalog", .table [("strict_types", .bool true)])]

theorem strictTable_written {sources : Toml.Table} (hthere : "sources" ∉ left)
    (hsources : sources.Writes Sources.plain (strictConfig.sources.wants left)) :
    strictConfig.Written left (strictTable sources) := by
  have hcatalog : Toml.Table.Writes [("strict_types", .bool true)] Checks.default strictConfig.catalog.wants := by
    simp [Toml.Table.Writes, Toml.Table.Names, Checks.wants, want, strictConfig, Checks.default]
  have hmem : ∀ name v, (name, v) ∈ strictTable sources ↔ name = "new" ∧ v = .table [] ∨
      name = "sources" ∧ v = .table sources ∨ name = "catalog" ∧ v = .table [("strict_types", .bool true)] := by
    simp [strictTable]
  simp only [Config.Written, Config.wants, Config.furtherWants, wantUnless, Toml.Table.Writes, Toml.Table.Names,
    List.forall_mem_cons, hmem]
  refine ⟨⟨?_, .inl ⟨.table sources, by simp⟩⟩, ⟨by simp, .inr rfl⟩, ⟨by simp, .inr rfl⟩,
    ⟨?_, .inl ⟨.table [("strict_types", .bool true)], by simp⟩⟩, ⟨by simp, .inr rfl⟩, nofun⟩
  · intro v hv
    exact ⟨hthere, sources, by simpa using hv, hsources⟩
  · intro v hv
    exact ⟨[("strict_types", .bool true)], by simpa using hv, hcatalog⟩

/-- The sources stand in another order, the rules behind them and not all, and a table means nothing here.  Without
the header the manifest is refused. -/
theorem strict_manifest_defaults :
    Config.ofText ⟨"numweld.toml"⟩ ("[new]\n[sources]\ntypes = 't'\nheader = 'h'\nopcodes = 'o'\ntemplate = 'i'\n" ++
        "[catalog]\nstrict_types = true\n") = .ok strictConfig ∧
      Config.ofText ⟨"numweld.toml"⟩ ("[new]\n[sources]\ntypes = 't'\nopcodes = 'o'\ntemplate = 'i'\n" ++
        "[catalog]\nstrict_types = true\n") =
        .error (.config ⟨"numweld.toml"⟩ (.misfit (.missing "header"))) := by
  have hwhole : Toml.ofText? ("[new]\n[sources]\ntypes = 't'\nheader = 'h'\nopcodes = 'o'\ntemplate = 'i'\n" ++
      "[catalog]\nstrict_types = true\n") = some (strictTable
        [("types", .text "t"), ("header", .text "h"), ("opcodes", .text "o"), ("template", .text "i")]) := by
    cbv
  have hpart : Toml.ofText? ("[new]\n[sources]\ntypes = 't'\nopcodes = 'o'\ntemplate = 'i'\n" ++
      "[catalog]\nstrict_types = true\n") = some (strictTable
        [("types", .text "t"), ("opcodes", .text "o"), ("template", .text "i")]) := by
    cbv
  refine ⟨(manifest_defaults strictConfig _ hwhole).1 (strictTable_written (by simp) ?_), ?_⟩
  · simp [Toml.Table.Writes, Toml.Table.Names, Sources.wants, wantUnless, want, strictConfig, pathValue,
      Sources.plain]
  · have hpartly : strictConfig.Written ["header"]
        (strictTable [("types", .text "t"), ("opcodes", .text "o"), ("template", .text "i")]) := by
      refine strictTable_written (by decide) ?_
      simp [Toml.Table.Writes, Toml.Table.Names, Sources.wants, wantUnless, want, strictConfig, pathValue,
        Sources.plain]
    obtain ⟨name, hname, herror⟩ := (manifest_defaults strictConfig ⟨"numweld.toml"⟩ hpart).2 ["header"]
      (by simp) (by simp [neededNames]) hpartly
    rw [herror, List.mem_singleton.1 hname]

end BindingPipeline.Manifest
