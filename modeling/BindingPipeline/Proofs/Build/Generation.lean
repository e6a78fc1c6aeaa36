/-
BindingPipeline/Proofs/Build/Generation.lean

What generating leaves behind.  Each of the two outputs is made by its own run of steps: look at the
times, make the directory, write, stamp.  Each run has a bound, which holds whether it succeeds or
fails, and a description of what it made, which holds when it succeeds.

Design.  The steps read the sources one after another while the outputs are being written, so what they
read is the starting tree only as far as no output is a source.  `Plan.SparesSources` says this of places,
since the two can be spelled differently; from there on `ChangesOnly` carries every reading back to the
start.

Main results:

* `Plan.generate_within`: whatever the outcome, only the outputs are written, and directories are made
  only above them.
* `Plan.generate_eq_ok`: what a run that succeeds read and made.
* `Plan.generate_leaves`: the two together, with the stamps as greatest times.
-/
import BindingPipeline.Build.Pipeline
import BindingPipeline.Proofs.Build.Device
import BindingPipeline.Proofs.Build.Timestamp
import Mathlib.Data.Set.Insert

namespace BindingPipeline.Build

open FileSystem

variable {d : Device} {s s' : Session} {cwd : Place} {t : Time} {W D : Set Place}

/-! ### Compilation -/

theorem loadOperations_reads (p : Path) : (loadOperations p).Reads := by
  refine (Action.Reads.ask _ _).bind fun text => ?_
  cases Catalog.readOperations text with
  | ok operations => exact Action.Reads.pure operations
  | error d => exact Action.Reads.throw _

theorem loadTypes_reads (p : Path) : (loadTypes p).Reads := by
  refine (Action.Reads.ask _ _).bind fun text => ?_
  cases Catalog.readTypes text with
  | ok entries => exact Action.Reads.pure entries
  | error d => exact Action.Reads.throw _

theorem Plan.compile_reads (p : Plan) : p.compile.Reads :=
  (loadOperations_reads _).bind fun _ => (loadTypes_reads _).bind fun _ =>
    (Action.Reads.lift _).bind fun _ => Action.Reads.lift _

/-- The compiled module depends on the texts of the two catalogs only. -/
theorem Plan.compile_congr {p : Plan} {s₁ s₂ : Session}
    (ho : s₁.files.readText s₁.cwd p.opcodesPath = s₂.files.readText s₂.cwd p.opcodesPath)
    (ht : s₁.files.readText s₁.cwd p.typesPath = s₂.files.readText s₂.cwd p.typesPath) :
    (p.compile s₁).1 = (p.compile s₂).1 := by
  refine (loadOperations_reads _).bind_congr ?_ fun operations => ?_
  · refine (Action.Reads.ask _ _).bind_congr (Action.ask_congr ho) fun text => ?_
    cases Catalog.readOperations text with
    | ok operations => rfl
    | error d => rfl
  · refine (loadTypes_reads _).bind_congr ?_ fun entries => ?_
    · refine (Action.Reads.ask _ _).bind_congr (Action.ask_congr ht) fun text => ?_
      cases Catalog.readTypes text with
      | ok entries => rfl
      | error d => rfl
    · exact (Action.Reads.lift _).bind_congr rfl fun m => rfl

/-! ### The interface description -/

theorem sourceBytes_reads (source output : Path) : (sourceBytes source output).Reads := by
  intro s
  unfold sourceBytes
  split
  · rfl
  · rfl
  · rfl

theorem sourceBytes_eq_ok {source output : Path} {bytes : ByteArray}
    (h : sourceBytes source output s = (.ok bytes, s')) :
    ∃ t, s.files.node? (target s.cwd source) = some (.file bytes t) := by
  unfold sourceBytes at h
  rcases hfind : s.files.find s.cwd source with e | ⟨q, ⟨bytes', t⟩ | t⟩
  · rw [hfind] at h
    cases h
  · rw [hfind] at h
    cases h
    obtain rfl := eq_target_of_find hfind
    exact ⟨t, (find_eq_ok_iff.1 hfind).2⟩
  · rw [hfind] at h
    cases h

theorem appendSourceOn_within {output source : Path} {written : ByteArray} :
    (appendSourceOn d output written source).Within cwd {target cwd output} D :=
  (Device.grant_within (sourceBytes_reads source output).within).bind fun _ =>
    (Device.fill_within _).bind fun _ => (Action.Reads.pure _).within

theorem appendSources_within {output : Path} {sources : List Path} {written : ByteArray} :
    (sources.foldlM (appendSourceOn d output) written).Within cwd {target cwd output} D :=
  Action.Within.foldlM (fun _ _ => appendSourceOn_within) _ _

/-- One more source is copied. -/
theorem appendSourceOn_eq_ok {output source : Path} {written whole : ByteArray}
    (h : appendSourceOn d output written source s = (.ok whole, s')) :
    ∃ bytes t, s.files.node? (target s.cwd source) = some (.file bytes t) ∧
      whole = written ++ bytes ∧
      s'.files.node? (target s'.cwd output) = some (.file whole s'.now) := by
  unfold appendSourceOn at h
  obtain ⟨bytes, mid, hsource, h⟩ := Action.bind_eq_ok_iff.1 h
  obtain ⟨u, mid', hfill, h⟩ := Action.bind_eq_ok_iff.1 h
  obtain ⟨rfl, rfl⟩ := Action.pure_eq_ok_iff.1 h
  replace hsource := Device.grant_eq_ok hsource
  obtain rfl := (sourceBytes_reads source output).eq hsource
  obtain ⟨t, hnode⟩ := sourceBytes_eq_ok hsource
  exact ⟨bytes, t, hnode, rfl, Action.node?_of_write (Device.fill_eq_ok hfill)⟩

/-- What has been copied into a file is there. -/
theorem appendSources_written {output : Path} {sources : List Path} {written whole : ByteArray}
    (hwritten : s.nodeAt output = some (.file written s.now))
    (h : sources.foldlM (appendSourceOn d output) written s = (.ok whole, s')) :
    s'.nodeAt output = some (.file whole s'.now) := by
  induction sources generalizing s written with
  | nil =>
    obtain ⟨rfl, rfl⟩ := Action.pure_eq_ok_iff.1 h
    exact hwritten
  | cons src sources ih =>
    rw [List.foldlM_cons] at h
    obtain ⟨next, mid, hone, h⟩ := Action.bind_eq_ok_iff.1 h
    obtain ⟨bytes, t, -, -, hnext⟩ := appendSourceOn_eq_ok hone
    exact ih hnext h

/-- All sources are copied, in order, as they were at the start. -/
theorem appendSources_eq_ok {output : Path} {sources : List Path} {written whole : ByteArray}
    (hapart : ∀ src ∈ sources, target s.cwd src ≠ target s.cwd output)
    (h : sources.foldlM (appendSourceOn d output) written s = (.ok whole, s')) :
    ∃ pieces : List ByteArray,
      List.Forall₂ (fun src bytes => ∃ t, s.files.node? (target s.cwd src) = some (.file bytes t))
        sources pieces ∧
      whole = pieces.foldl (· ++ ·) written := by
  induction sources generalizing s written with
  | nil =>
    obtain ⟨rfl, -⟩ := Action.pure_eq_ok_iff.1 h
    exact ⟨[], .nil, rfl⟩
  | cons src sources ih =>
    rw [List.foldlM_cons] at h
    obtain ⟨next, mid, hone, h⟩ := Action.bind_eq_ok_iff.1 h
    obtain ⟨bytes, t, hnode, rfl, -⟩ := appendSourceOn_eq_ok hone
    have hmid : s.Within mid {target s.cwd output} ∅ := appendSourceOn_within.of_eq hone
    have hrest := (List.forall_mem_cons.1 hapart).2
    obtain ⟨pieces, hpieces, hwhole⟩ := ih (by rwa [hmid.cwd]) h
    rw [hmid.cwd] at hpieces
    refine ⟨bytes :: pieces, .cons ⟨t, hnode⟩ ?_, hwhole⟩
    -- what the later sources hold, they held before the first was copied
    refine ((List.forall₂_and_left _ _).2 ⟨hrest, hpieces⟩).imp ?_
    rintro r piece ⟨hr, t', hnode'⟩
    exact ⟨t', (hmid.files.file_iff hr).1 hnode'⟩

theorem assembleOn_within {template header output : Path} :
    (assembleOn d template header output).Within cwd {target cwd output} (placesAbove cwd output) :=
  (latest_reads _).within.bind fun t => Action.makeParent_within.bind fun _ => Device.create_within.bind fun _ =>
    appendSources_within.bind fun _ => (Device.stamp_within t).bind fun _ => (Action.Reads.pure t).within

/-- On a sound device nothing is written where no file can be. -/
theorem assemble_within_writable {template header output : Path} :
    (assemble template header output).Within cwd (writablePlaces cwd output) (placesAbove cwd output) :=
  (latest_reads _).within.bind fun t => Action.makeFile_within fun _ =>
    appendSources_within.bind fun _ => (Action.stamp_within t).bind fun _ => (Action.Reads.pure t).within

/-- An interface description that is no source of its own is the template with the header behind it. -/
theorem assembleOn_eq_ok {template header output : Path}
    (hT : target s.cwd template ≠ target s.cwd output)
    (hH : target s.cwd header ≠ target s.cwd output)
    (h : assembleOn d template header output s = (.ok t, s')) :
    ∃ bytes₁ t₁ bytes₂ t₂, s.Holds template bytes₁ t₁ ∧ s.Holds header bytes₂ t₂ ∧
      t = [t₁, t₂].foldl Time.later Time.epoch ∧ s'.Holds output (bytes₁ ++ bytes₂) t := by
  unfold assembleOn at h
  obtain ⟨t', s₁, hlatest, h⟩ := Action.bind_eq_ok_iff.1 h
  obtain ⟨u₁, s₂, hparent, h⟩ := Action.bind_eq_ok_iff.1 h
  obtain ⟨u₂, s₃, hcreate, h⟩ := Action.bind_eq_ok_iff.1 h
  obtain ⟨whole, s₄, happend, h⟩ := Action.bind_eq_ok_iff.1 h
  obtain ⟨u₃, s₅, hstamp, h⟩ := Action.bind_eq_ok_iff.1 h
  obtain ⟨rfl, rfl⟩ := Action.pure_eq_ok_iff.1 h
  obtain rfl := (latest_reads _).eq hlatest
  obtain ⟨hfound, ht⟩ := latest_eq_ok hlatest
  obtain ⟨h₁₃, hempty⟩ := Action.write_of_makeParent hparent (Device.create_eq_ok hcreate)
  have hapart : ∀ src ∈ [template, header], target s₃.cwd src ≠ target s₃.cwd output := by
    rw [h₁₃.cwd]
    simp [hT, hH]
  obtain ⟨pieces, hpieces, hwhole⟩ := appendSources_eq_ok hapart happend
  have hend := appendSources_written hempty happend
  -- two sources, two pieces
  obtain ⟨bytes₁, rest, ⟨t₁, hnode₁⟩, hrest, rfl⟩ := List.forall₂_cons_left_iff.1 hpieces
  obtain ⟨bytes₂, last, ⟨t₂, hnode₂⟩, hlast, rfl⟩ := List.forall₂_cons_left_iff.1 hrest
  obtain rfl := List.forall₂_nil_left_iff.1 hlast
  -- the two files that were copied are those whose times were taken at the start
  rw [h₁₃.cwd, h₁₃.files.file_iff hT] at hnode₁
  rw [h₁₃.cwd, h₁₃.files.file_iff hH] at hnode₂
  obtain ⟨n₁, hfound₁⟩ := hfound template (by simp)
  obtain ⟨n₂, hfound₂⟩ := hfound header (by simp)
  have hholds₁ := Session.holds_of_node? hfound₁ hnode₁
  have hholds₂ := Session.holds_of_node? hfound₂ hnode₂
  refine ⟨bytes₁, t₁, bytes₂, t₂, hholds₁, hholds₂, ?_, ?_⟩
  · rw [ht, ← hholds₁.timeOf, ← hholds₂.timeOf]
    rfl
  · rw [hwhole] at hend
    simpa using Action.holds_of_stamp (Device.stamp_eq_ok hstamp) hend

/-! ### The metadata module -/

theorem writeMetadataOn_within {m : Metadata.Module} {encode : Encoder} {output : Path} {sources : List Path} :
    (writeMetadataOn d m encode output sources).Within cwd {target cwd output} (placesAbove cwd output) :=
  (latest_reads _).within.bind fun t => (Action.Reads.lift _).within.bind fun _ =>
    Action.makeParent_within.bind fun _ => (Device.write_within _).bind fun _ =>
    (Device.stamp_within t).bind fun _ => (Action.Reads.pure t).within

/-- On a sound device nothing is written where no file can be. -/
theorem writeMetadata_within_writable {m : Metadata.Module} {encode : Encoder} {output : Path}
    {sources : List Path} :
    (writeMetadata m encode output sources).Within cwd (writablePlaces cwd output)
      (placesAbove cwd output) :=
  (latest_reads _).within.bind fun t => (Action.Reads.lift _).within.bind fun _ =>
    Action.makeFile_within fun _ => (Action.stamp_within t).bind fun _ => (Action.Reads.pure t).within

/-- A metadata file that is written holds the text of the module. -/
theorem writeMetadataOn_eq_ok {m : Metadata.Module} {encode : Encoder} {output : Path}
    {sources : List Path} (h : writeMetadataOn d m encode output sources s = (.ok t, s')) :
    ∃ text, encode m = .ok text ∧ t = (sources.map s.timeOf).foldl Time.later Time.epoch ∧
      s'.Holds output text.toUTF8 t := by
  unfold writeMetadataOn at h
  obtain ⟨t', s₁, hlatest, h⟩ := Action.bind_eq_ok_iff.1 h
  obtain ⟨text, s₂, hencode, h⟩ := Action.bind_eq_ok_iff.1 h
  obtain ⟨u₁, s₃, hparent, h⟩ := Action.bind_eq_ok_iff.1 h
  obtain ⟨u₂, s₄, hwrite, h⟩ := Action.bind_eq_ok_iff.1 h
  obtain ⟨u₃, s₅, hstamp, h⟩ := Action.bind_eq_ok_iff.1 h
  obtain ⟨rfl, rfl⟩ := Action.pure_eq_ok_iff.1 h
  obtain rfl := (latest_reads _).eq hlatest
  obtain ⟨htext, rfl⟩ := Action.lift_eq_ok_iff.1 hencode
  obtain ⟨-, ht⟩ := latest_eq_ok hlatest
  obtain ⟨-, hwritten⟩ := Action.write_of_makeParent hparent (Device.write_eq_ok hwrite)
  exact ⟨text, htext, ht, Action.holds_of_stamp (Device.stamp_eq_ok hstamp) hwritten⟩

/-! ### Generation -/

namespace Plan

variable {p : Plan} {a : Artifacts}

/-- The places to which the outputs go. -/
def outputPlaces (p : Plan) (cwd : Place) : Set Place :=
  {target cwd p.interfacePath, target cwd p.metadataPath}

theorem notMem_outputPlaces {q : Place} :
    q ∉ p.outputPlaces cwd ↔ q ≠ target cwd p.interfacePath ∧ q ≠ target cwd p.metadataPath := by
  rw [← not_or]
  rfl

/-- No output goes to a source. -/
def SparesSources (p : Plan) (cwd : Place) : Prop :=
  ∀ src ∈ p.interfaceSources ++ p.metadataSources, target cwd src ∉ p.outputPlaces cwd

/-- The places of the directories above the outputs. -/
def placesAboveOutputs (p : Plan) (cwd : Place) : Set Place :=
  placesAbove cwd p.interfacePath ∪ placesAbove cwd p.metadataPath

/-- No source of the metadata module is a directory in which something is made.  Files rest in every run. -/
def SourcesRest (p : Plan) (s s' : Session) : Prop := ∀ src ∈ p.metadataSources, s.Rests s' src

theorem emitDirectives_within : p.emitDirectives.Within cwd W D := by
  unfold emitDirectives
  split
  · exact Action.print_within _
  · exact (Action.Reads.pure _).within

/-- The bound of a run is that of the two steps that make its files. -/
theorem generate_within_of_steps
    (hinterface : (assemble p.templatePath p.headerPath p.interfacePath).Within cwd W D)
    (hmetadata : ∀ m, (writeMetadata m (Encoder.ofFormat p.config.outputs.format) p.metadataPath
      p.metadataSources).Within cwd W D) : p.generate.Within cwd W D :=
  p.compile_reads.within.bind fun m => hinterface.bind fun _ => (hmetadata m).bind fun _ =>
    emitDirectives_within.bind fun _ => (Action.Reads.pure _).within

/-- Whatever comes of it, generating changes the outputs only and makes directories only above them. -/
theorem generate_within : p.generate.Within cwd (p.outputPlaces cwd) (p.placesAboveOutputs cwd) := by
  apply generate_within_of_steps
  · refine Action.Within.mono assembleOn_within ?_ Set.subset_union_left
    exact Set.singleton_subset_iff.2 (Set.mem_insert _ _)
  · refine fun m => Action.Within.mono writeMetadataOn_within ?_ Set.subset_union_right
    exact Set.singleton_subset_iff.2 (Set.mem_insert_of_mem _ rfl)

/-- What a run that succeeds made of its sources: of `m` and of the two files that the interface
description is put together from.  Where the two outputs are one file, the metadata module stands in
it. -/
structure Made (p : Plan) (s s' : Session) (a : Artifacts) (m : Metadata.Module)
    (templateBytes headerBytes : ByteArray) (templateTime headerTime : Time) : Prop where
  compiled : (p.compile s).1 = .ok m
  template : s.Holds p.templatePath templateBytes templateTime
  header : s.Holds p.headerPath headerBytes headerTime
  artifacts : a = ⟨p.interfacePath, [templateTime, headerTime].foldl Time.later Time.epoch,
    p.metadataPath, a.metadataStamp⟩
  metadataStamp : p.SourcesRest s s' →
    a.metadataStamp = (p.metadataSources.map s.timeOf).foldl Time.later Time.epoch
  metadata : s'.Holds p.metadataPath (p.config.outputs.format.encode m).toUTF8 a.metadataStamp
  interface : target s.cwd p.interfacePath ≠ target s.cwd p.metadataPath →
    s'.Holds p.interfacePath (templateBytes ++ headerBytes) a.interfaceStamp
  shared : target s.cwd p.interfacePath = target s.cwd p.metadataPath →
    s'.Holds p.interfacePath (p.config.outputs.format.encode m).toUTF8 a.metadataStamp

/-- A run that succeeds made its outputs of what its sources held at the start. -/
theorem generate_eq_ok (hspares : p.SparesSources s.cwd) (h : p.generate s = (.ok a, s')) :
    ∃ m templateBytes headerBytes templateTime headerTime,
      p.Made s s' a m templateBytes headerBytes templateTime headerTime := by
  unfold generate generateOn at h
  obtain ⟨m, s₁, hcompile, h⟩ := Action.bind_eq_ok_iff.1 h
  obtain ⟨t₁, s₂, hassemble, h⟩ := Action.bind_eq_ok_iff.1 h
  obtain ⟨t₂, s₃, hwrite, h⟩ := Action.bind_eq_ok_iff.1 h
  obtain ⟨u, s₄, hemit, h⟩ := Action.bind_eq_ok_iff.1 h
  obtain ⟨rfl, rfl⟩ := Action.pure_eq_ok_iff.1 h
  obtain rfl := p.compile_reads.eq hcompile
  have hapart : ∀ src ∈ p.interfaceSources ++ p.metadataSources,
      target s₁.cwd src ≠ target s₁.cwd p.interfacePath :=
    fun src hsrc => (notMem_outputPlaces.1 (hspares src hsrc)).1
  obtain ⟨b₁, t₁', b₂, t₂', htemplate, hheader, rfl, hinterface⟩ := assembleOn_eq_ok
    (hapart _ (by simp [interfaceSources])) (hapart _ (by simp [interfaceSources])) hassemble
  obtain ⟨text, hencode, ht₂, hmetadata⟩ := writeMetadataOn_eq_ok hwrite
  obtain rfl : p.config.outputs.format.encode m = text := Except.ok.inj hencode
  have hfirst := assembleOn_within.of_eq hassemble
  have hsecond := writeMetadataOn_within.of_eq hwrite
  have hlast : s₃.Within s' ∅ ∅ := emitDirectives_within.of_eq hemit
  have hcwd : s₃.cwd = s₁.cwd := hsecond.cwd.trans hfirst.cwd
  rw [hfirst.cwd] at hsecond
  -- sources of the metadata that rest still have their times when it is written
  have htimes : p.SourcesRest s₁ s' →
      p.metadataSources.map s₂.timeOf = p.metadataSources.map s₁.timeOf := by
    refine fun hrest => List.map_congr_left fun src hsrc => hfirst.timeOf_eq ?_ ?_
    · exact hapart src (List.mem_append_right _ hsrc)
    · exact hsecond.rests_left (hlast.rests_left (hrest src hsrc))
  refine ⟨m, b₁, b₂, t₁', t₂', ?_⟩
  exact
    { compiled := by rw [hcompile]
      template := htemplate
      header := hheader
      artifacts := rfl
      metadataStamp := fun hrest => by rw [← htimes hrest, ht₂]
      metadata := hmetadata.within hlast (Set.notMem_empty _)
      interface := fun hne => by
        refine (hinterface.within hsecond ?_).within hlast (Set.notMem_empty _)
        rw [hfirst.cwd]
        exact hne
      shared := fun heq => by
        -- the path of the interface still leads there, though the file is another one by now
        refine (hmetadata.respell ?_ ?_).within hlast (Set.notMem_empty _)
        · rw [hcwd, heq]
        · rw [hsecond.cwd]
          exact hsecond.files.place hinterface.place }

/-- **What generating leaves behind.**  Only the outputs change, and only missing directories above them
are made.  If the outputs are two files and neither is a source, then the interface description is the
template with the header behind it, and the metadata file is the text of the module that the catalogs
compiled to at the start; each carries, and reports, the latest of the epoch and the times of its
sources.  A source of the metadata that is a file rests in every run; one that is a directory has another
time if something is made in it. -/
theorem generate_leaves (h : p.generate s = (.ok a, s')) :
    s.files.ChangesOnly s'.files (p.outputPlaces s.cwd) (p.placesAboveOutputs s.cwd) ∧
    (target s.cwd p.interfacePath ≠ target s.cwd p.metadataPath →
      p.SparesSources s.cwd →
      (∃ templateBytes headerBytes templateTime headerTime,
        s.Holds p.templatePath templateBytes templateTime ∧
        s.Holds p.headerPath headerBytes headerTime ∧
        s'.Holds p.interfacePath (templateBytes ++ headerBytes) a.interfaceStamp ∧
        IsGreatest {t | t ∈ [Time.epoch, templateTime, headerTime]} a.interfaceStamp) ∧
      ∃ m, (p.compile s).1 = .ok m ∧
        s'.Holds p.metadataPath (p.config.outputs.format.encode m).toUTF8 a.metadataStamp ∧
        (p.SourcesRest s s' →
          IsGreatest {t | t ∈ Time.epoch :: p.metadataSources.map s.timeOf} a.metadataStamp)) := by
  refine ⟨(generate_within.of_eq h).files, fun hne hspares => ?_⟩
  obtain ⟨m, b₁, b₂, t₁, t₂, hmade⟩ := generate_eq_ok hspares h
  refine ⟨⟨b₁, b₂, t₁, t₂, hmade.template, hmade.header, hmade.interface hne, ?_⟩, m,
    hmade.compiled, hmade.metadata, fun hrest => ?_⟩
  · have hstamp : a.interfaceStamp = [t₁, t₂].foldl Time.later Time.epoch := by
      rw [hmade.artifacts]
    rw [hstamp]
    exact Time.isGreatest_foldl_later [t₁, t₂] Time.epoch
  · rw [hmade.metadataStamp hrest]
    exact Time.isGreatest_foldl_later (p.metadataSources.map s.timeOf) Time.epoch

/-! ### A small run -/

/-- Empty catalogs, and outputs in a directory that may be missing. -/
def small : Plan :=
  .ofConfig
    { sources := ⟨⟨"head.i"⟩, ⟨"decl.h"⟩, ⟨"ops"⟩, ⟨"types"⟩, [⟨"notes"⟩]⟩
      outputs := .default
      package := .default
      catalog := .default
      stages := .default }
    ⟨⟨""⟩, ⟨"./out"⟩, none⟩

/-- The sources of `small`: their names, contents and times. -/
def smallSources : List (String × String × Time) :=
  [("head.i", "%module m\n", ⟨1⟩), ("decl.h", "void f(void);\n", ⟨5⟩), ("ops", "[]", ⟨3⟩),
    ("types", "[]", ⟨4⟩), ("notes", "", ⟨7⟩)]

/-- A session at the root, in which there are the sources of `small` and some more nodes. -/
def smallSession (now : Time) (more : List (Place × Node)) : Session where
  files := { nodes := smallSources.map (fun e => ([e.1], .file e.2.1.toUTF8 e.2.2)) ++ more }
  cwd := []
  now := now
  output := ""
  complaints := ""

/-- The artifacts of `small` where the sources are as given. -/
def smallArtifacts : Artifacts := ⟨⟨"./out/bridge.i"⟩, ⟨5⟩, ⟨"./out/_info.py"⟩, ⟨7⟩⟩

theorem small_holds (now : Time) (more : List (Place × Node)) : ∀ e ∈ smallSources,
    (smallSession now more).Holds ⟨e.1⟩ e.2.1.toUTF8 e.2.2 := by
  simp only [smallSources, List.forall_mem_cons]
  exact ⟨rfl, rfl, rfl, rfl, rfl, List.forall_mem_nil _⟩

/-- The sources of `small` are files. -/
theorem small_sourcesRest (now : Time) (more : List (Place × Node)) (s' : Session) :
    small.SourcesRest (smallSession now more) s' := by
  have hsources : small.metadataSources = (smallSources.drop 2).map fun e => ⟨e.1⟩ := rfl
  intro src hsrc
  rw [hsources, List.mem_map] at hsrc
  obtain ⟨e, he, rfl⟩ := hsrc
  exact (small_holds now more e (List.mem_of_mem_drop he)).rests

theorem small_generate :
    small.generate (smallSession ⟨9⟩ []) =
      (.ok smallArtifacts, (small.generate (smallSession ⟨9⟩ [])).2) :=
  Action.eq_of_toOption (by decide +kernel)

theorem small_sparesSources : small.SparesSources [] := by
  simp only [SparesSources, notMem_outputPlaces]
  decide

theorem small_leaves :
    (smallSession ⟨9⟩ []).files.ChangesOnly (small.generate (smallSession ⟨9⟩ [])).2.files
      (small.outputPlaces []) (small.placesAboveOutputs []) ∧
    (small.generate (smallSession ⟨9⟩ [])).2.Holds small.interfacePath
      "%module m\nvoid f(void);\n".toUTF8 ⟨5⟩ ∧
    ∃ m, (small.generate (smallSession ⟨9⟩ [])).2.Holds small.metadataPath
      (Metadata.Format.python.encode m).toUTF8 ⟨7⟩ := by
  obtain ⟨hchanges, hfiles⟩ := generate_leaves small_generate
  obtain ⟨⟨b₁, b₂, t₁, t₂, htemplate, hheader, hinterface, -⟩, m, -, hmetadata, -⟩ :=
    hfiles (by decide +kernel) small_sparesSources
  obtain ⟨rfl, -⟩ := htemplate.unique (small_holds ⟨9⟩ [] ("head.i", "%module m\n", ⟨1⟩) (.head _))
  obtain ⟨rfl, -⟩ := hheader.unique
    (small_holds ⟨9⟩ [] ("decl.h", "void f(void);\n", ⟨5⟩) (.tail _ (.head _)))
  exact ⟨hchanges, hinterface, m, hmetadata⟩

/-- `small` with the directory of its outputs as a further source. -/
def outputWatcher : Plan := { small with config.sources.extra := [⟨"./out"⟩] }

/-- The sources of `small`, and an interface description that an older run has left. -/
def olderSession : Session :=
  smallSession ⟨9⟩ [(["out"], .directory ⟨2⟩), (["out", "bridge.i"], .file "old".toUTF8 ⟨2⟩)]

theorem outputWatcher_sparesSources : outputWatcher.SparesSources [] := by
  simp only [SparesSources, notMem_outputPlaces]
  decide

/-- The directory is looked at before the metadata file is made in it, so its older time does not count, and its
newer one does not either. -/
theorem outputWatcher_generate : outputWatcher.generate olderSession =
    (.ok { smallArtifacts with metadataStamp := ⟨4⟩ }, (outputWatcher.generate olderSession).2) :=
  Action.eq_of_toOption (by decide +kernel)

end Plan

end BindingPipeline.Build
