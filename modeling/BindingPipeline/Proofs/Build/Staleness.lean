/-
BindingPipeline/Proofs/Build/Staleness.lean

When a generated file counts as out of date.  An output carries the latest of the times that its sources had
when it was made, so just then none of them is later; and when the times of sources have been changed since,
it is out of date exactly if one of its own sources is now later than its stamp.

Design.  `isStale` compares the output with the latest of its inputs.  For a stamp that is not before the
epoch this is a comparison with each of them (`isStale_eq`), and a change of times neither hides a source
nor touches an output (`Plan.Retimed.within`).

Main result: `Plan.status_exact`.
-/
import BindingPipeline.Proofs.Build.Settled

namespace BindingPipeline

open FileSystem

/-- Some of the times are later than `t` if the latest of them is. -/
theorem Time.lt_foldl_later_iff {t start : Time} (h : start ≤ t) (ts : List Time) :
    t < ts.foldl Time.later start ↔ ∃ u ∈ ts, t < u := by
  obtain ⟨hmem, hgreatest⟩ := Time.isGreatest_foldl_later ts start
  constructor
  · intro hlater
    rcases List.mem_cons.1 hmem with heq | hmem
    · -- the start is not later
      rw [heq, Time.lt_iff] at hlater
      rw [Time.le_iff] at h
      omega
    · exact ⟨_, hmem, hlater⟩
  · rintro ⟨u, hu, hlater⟩
    have hle : u ≤ ts.foldl Time.later start := hgreatest (List.mem_cons_of_mem start hu)
    rw [Time.lt_iff] at hlater ⊢
    rw [Time.le_iff] at hle
    omega

namespace Build

variable {s s' : Session} {t : Time}

/-- A file that carries a time from the epoch on is out of date if one of its inputs is later. -/
theorem isStale_eq {output : Path} {inputs : List Path} {bytes : ByteArray}
    (hfound : ∀ src ∈ inputs, ∃ n, s.files.find s.cwd src = .ok (target s.cwd src, n))
    (hheld : s.Holds output bytes t) (hepoch : Time.epoch ≤ t) :
    isStale output inputs s = (.ok (decide (∃ src ∈ inputs, t < s.timeOf src)), s) := by
  have hlater : t < (inputs.map s.timeOf).foldl Time.later Time.epoch ↔
      ∃ src ∈ inputs, t < s.timeOf src := by
    rw [Time.lt_foldl_later_iff hepoch]
    simp only [List.mem_map, exists_exists_and_eq_and]
  have hmodified : Action.modified output s = (.ok t, s) :=
    modified_eq_ok_iff.2 ⟨⟨⟨_, hheld⟩, hheld.timeOf.symm⟩, rfl⟩
  unfold isStale
  refine Action.bind_eq_ok_iff.2 ⟨_, s, latest_of_found hfound, ?_⟩
  refine state_tryCatch_of_ok ?_
  refine Action.bind_eq_ok_iff.2 ⟨t, s, hmodified, ?_⟩
  rw [decide_eq_decide.2 hlater]
  rfl

namespace Plan

variable {p : Plan} {a : Artifacts}

/-- Only times of files at sources have been changed, and the clock may show another time. -/
structure Retimed (p : Plan) (s s' : Session) : Prop where
  cwd : s'.cwd = s.cwd
  nodes : ∀ q, s'.files.node? q = s.files.node? q ∨
    (∃ src ∈ p.interfaceSources ++ p.metadataSources, q = target s.cwd src) ∧
      ∃ bytes t t', s.files.node? q = some (.file bytes t) ∧ s'.files.node? q = some (.file bytes t')

theorem Retimed.refl (p : Plan) (s : Session) : p.Retimed s s := ⟨rfl, fun _ => .inl rfl⟩

theorem Retimed.within (h : p.Retimed s s') : s.Within (s'.atTime s.now)
    {q | ∃ src ∈ p.interfaceSources ++ p.metadataSources, q = target s.cwd src} ∅ := by
  refine ⟨fun q => ?_, h.cwd, rfl⟩
  rcases h.nodes q with hsame | ⟨hsource, bytes, t, t', hbefore, hbehind⟩
  · exact .inl hsame
  · exact .inr (.inl ⟨hsource, fun hdir => hdir.ne_file hbefore, bytes, t', hbehind⟩)

/-- What can be told of a session in which the plan has been carried out: the sources are there, and the two files
carry the times that have been reported, which are not before the epoch. -/
structure Stamped (p : Plan) (s : Session) (a : Artifacts) : Prop where
  found : ∀ src ∈ p.interfaceSources ++ p.metadataSources, ∃ n, s.files.find s.cwd src = .ok (target s.cwd src, n)
  interface : ∃ bytes, s.Holds p.interfacePath bytes a.interfaceStamp
  metadata : ∃ bytes, s.Holds p.metadataPath bytes a.metadataStamp
  epoch : Time.epoch ≤ a.interfaceStamp ∧ Time.epoch ≤ a.metadataStamp

theorem stamped_of_generate (hspares : p.SparesSources s.cwd)
    (hne : target s.cwd p.interfacePath ≠ target s.cwd p.metadataPath) (h : p.generate s = (.ok a, s')) :
    p.Stamped s' a := by
  obtain ⟨m, b₁, b₂, t₁, t₂, hmade⟩ := generate_eq_ok hspares h
  obtain ⟨m', t, mid, t', last, -, hinterface, hmetadata, hemit, rfl⟩ := generate_steps h
  have hs := generate_within.of_eq h
  have hsecond := metadataStepOn_within.of_eq hmetadata
  have hlast : last.Within s' ∅ ∅ := emitDirectives_within.of_eq hemit
  have hepoch : ∀ ts : List Time, Time.epoch ≤ ts.foldl Time.later Time.epoch := fun ts =>
    (Time.isGreatest_foldl_later ts Time.epoch).2 List.mem_cons_self
  constructor
  · intro src hsrc
    rcases List.mem_append.1 hsrc with hsrc | hsrc
    · -- the template and the header are files
      simp only [interfaceSources, List.mem_cons, List.not_mem_nil, or_false] at hsrc
      rcases hsrc with rfl | rfl
      · exact hs.found ⟨_, hmade.template⟩
      · exact hs.found ⟨_, hmade.header⟩
    · exact hlast.found (hsecond.found ((hasParent_of_writeMetadata hmetadata).2 src hsrc))
  · exact ⟨_, hmade.interface hne⟩
  · exact ⟨_, hmade.metadata⟩
  · obtain ⟨text, -, ht', -⟩ := writeMetadataOn_eq_ok hmetadata
    constructor
    · rw [hmade.artifacts]
      exact hepoch _
    · rw [ht']
      exact hepoch _

/-- What is told after a change of times. -/
theorem Stamped.status_eq (h : p.Stamped s a) (hspares : p.SparesSources s.cwd) (hretimed : p.Retimed s s') :
    p.status s' = (.ok
      [(p.interfacePath, decide (∃ src ∈ p.interfaceSources, a.interfaceStamp < s'.timeOf src)),
        (p.metadataPath, decide (∃ src ∈ p.metadataSources, a.metadataStamp < s'.timeOf src))], s') := by
  have hs := hretimed.within
  have hfound : ∀ src ∈ p.interfaceSources ++ p.metadataSources,
      ∃ n, s'.files.find s'.cwd src = .ok (target s'.cwd src, n) :=
    fun src hsrc => hs.found (h.found src hsrc)
  -- the outputs are no sources, so their times are those that were reported
  have houtput : ∀ output, target s.cwd output ∈ p.outputPlaces s.cwd → target s.cwd output ∉
      {q | ∃ src ∈ p.interfaceSources ++ p.metadataSources, q = target s.cwd src} := by
    rintro output houtput ⟨src, hsrc, heq⟩
    rw [heq] at houtput
    exact hspares src hsrc houtput
  obtain ⟨bytes₁, hinterface⟩ := h.interface
  obtain ⟨bytes₂, hmetadata⟩ := h.metadata
  have hfirst : (s'.atTime s.now).Holds p.interfacePath bytes₁ a.interfaceStamp :=
    hinterface.within hs (houtput _ (Set.mem_insert _ _))
  have hsecond : (s'.atTime s.now).Holds p.metadataPath bytes₂ a.metadataStamp :=
    hmetadata.within hs (houtput _ (Set.mem_insert_of_mem _ rfl))
  have hstale₁ := isStale_eq (s := s') (fun src hsrc => hfound src (List.mem_append_left _ hsrc))
    hfirst h.epoch.1
  have hstale₂ := isStale_eq (s := s') (fun src hsrc => hfound src (List.mem_append_right _ hsrc))
    hsecond h.epoch.2
  unfold status
  refine Action.bind_eq_ok_iff.2 ⟨_, s', hstale₁, ?_⟩
  exact Action.bind_eq_ok_iff.2 ⟨_, s', hstale₂, rfl⟩

/-- No time is later than the latest. -/
theorem not_later_of_latest {sources : List Path}
    (h : t = (sources.map s.timeOf).foldl Time.later Time.epoch) : ¬ ∃ src ∈ sources, t < s.timeOf src := by
  rintro ⟨src, hsrc, hlater⟩
  have hle : s.timeOf src ≤ (sources.map s.timeOf).foldl Time.later Time.epoch :=
    (Time.isGreatest_foldl_later _ _).2 (List.mem_cons_of_mem _ (List.mem_map_of_mem hsrc))
  rw [h, Time.lt_iff] at hlater
  rw [Time.le_iff] at hle
  omega

/-- The template and the header have the times that the stamp has been made of. -/
theorem interfaceStamp_of_generate (hspares : p.SparesSources s.cwd) (h : p.generate s = (.ok a, s')) :
    a.interfaceStamp = (p.interfaceSources.map s'.timeOf).foldl Time.later Time.epoch := by
  obtain ⟨m, b₁, b₂, t₁, t₂, hmade⟩ := generate_eq_ok hspares h
  have hs := generate_within.of_eq h
  have hsources : ∀ src ∈ p.interfaceSources, target s.cwd src ∉ p.outputPlaces s.cwd :=
    fun src hsrc => hspares src (List.mem_append_left _ hsrc)
  have htemplate := hmade.template.within hs (hsources _ List.mem_cons_self)
  have hheader := hmade.header.within hs (hsources _ (List.mem_cons_of_mem _ List.mem_cons_self))
  rw [hmade.artifacts, ← htemplate.timeOf, ← hheader.timeOf]
  rfl

/-- **Status is exact.**  If the outputs are two files and neither is a source, then right after a run that
succeeds the interface description is not out of date, and neither is the metadata module, unless one of its sources
is a directory in which the run has made something.  After any change of times of sources the interface description
is out of date exactly if the template or the header is later than its stamp, and the metadata module exactly if a
catalog, a further source or the manifest is later than its own. -/
theorem status_exact (hspares : p.SparesSources s.cwd)
    (hne : target s.cwd p.interfacePath ≠ target s.cwd p.metadataPath)
    (h : p.generate s = (.ok a, s')) :
    (∃ metadata : Bool, p.status s' = (.ok [(p.interfacePath, false), (p.metadataPath, metadata)], s') ∧
      (p.SourcesRest s s' → metadata = false)) ∧
    ∀ s'', p.Retimed s' s'' → ∃ interface metadata : Bool,
      p.status s'' = (.ok [(p.interfacePath, interface), (p.metadataPath, metadata)], s'') ∧
      (interface = true ↔ a.interfaceStamp < s''.timeOf p.templatePath ∨
        a.interfaceStamp < s''.timeOf p.headerPath) ∧
      (metadata = true ↔ ∃ src, (src = p.opcodesPath ∨ src = p.typesPath ∨
          (∃ extra ∈ p.config.sources.extra, src = p.roots.source extra) ∨ p.manifest = some src) ∧
        a.metadataStamp < s''.timeOf src) := by
  have hcwd : s'.cwd = s.cwd := (generate_within.of_eq h).cwd
  have hstamped := stamped_of_generate hspares hne h
  have hspares' := hspares
  rw [← hcwd] at hspares'
  constructor
  · refine ⟨decide (∃ src ∈ p.metadataSources, a.metadataStamp < s'.timeOf src), ?_, fun hrest => ?_⟩
    · rw [hstamped.status_eq hspares' (.refl p s'),
        decide_eq_false (not_later_of_latest (interfaceStamp_of_generate hspares h))]
    · exact decide_eq_false (not_later_of_latest (settled_of_generate hspares h hrest).metadataStamp)
  · intro s'' hretimed
    refine ⟨_, _, hstamped.status_eq hspares' hretimed, ?_, ?_⟩
    · rw [decide_eq_true_iff]
      simp only [interfaceSources, List.mem_cons, List.not_mem_nil, or_false, exists_eq_or_imp,
        exists_eq_left]
    · rw [decide_eq_true_iff]
      refine exists_congr fun src => and_congr_left fun _ => ?_
      simp only [metadataSources, List.mem_append, List.mem_cons, List.not_mem_nil, or_false,
        List.mem_map, Option.mem_toList, or_assoc, eq_comm (a := src)]

/-- A session with another time for the header of `small`. -/
def retimeHeader (s : Session) (t : Time) : Session :=
  { s with files := s.files.put ["decl.h"] (.file "void f(void);\n".toUTF8 t) }

/-- Right after its run `small` is up to date.  When the header is a little later than its stamp, the
interface description is not. -/
theorem small_status :
    (small.status (small.generate (smallSession ⟨9⟩ [])).2).1 =
      .ok [(small.interfacePath, false), (small.metadataPath, false)] ∧
    ∃ metadata, (small.status (retimeHeader (small.generate (smallSession ⟨9⟩ [])).2 ⟨6⟩)).1 =
      .ok [(small.interfacePath, true), (small.metadataPath, metadata)] := by
  have hwithin := generate_within.of_eq small_generate
  have hheader := (small_holds ⟨9⟩ [] ("decl.h", "void f(void);\n", ⟨5⟩) (.tail _ (.head _))).within
    hwithin (small_sparesSources small.headerPath (List.mem_cons_of_mem _ List.mem_cons_self))
  obtain ⟨⟨fresh, hfresh, hrest⟩, hlater⟩ := status_exact small_sparesSources (by decide) small_generate
  obtain rfl : fresh = false := hrest (small_sourcesRest _ _ _)
  generalize (small.generate (smallSession ⟨9⟩ [])).2 = s' at hheader hwithin hfresh hlater
  have hcwd : s'.cwd = [] := hwithin.cwd
  have htarget : target [] small.headerPath = ["decl.h"] := rfl
  have hnode := hheader.node?
  rw [hcwd, show target [] ⟨"decl.h"⟩ = ["decl.h"] from rfl] at hnode
  have hretimed : small.Retimed s' (retimeHeader s' ⟨6⟩) := by
    refine ⟨rfl, fun q => ?_⟩
    unfold retimeHeader
    rw [node?_put (by decide)]
    by_cases hq : q = ["decl.h"]
    · subst hq
      refine .inr ⟨⟨small.headerPath, List.mem_cons_of_mem _ List.mem_cons_self, ?_⟩, _, _, _, hnode, if_pos rfl⟩
      rw [hcwd, htarget]
    · exact .inl (if_neg hq)
  obtain ⟨interface, metadata, hstatus, hinterface, -⟩ := hlater _ hretimed
  have htime : (retimeHeader s' ⟨6⟩).timeOf small.headerPath = ⟨6⟩ := by
    unfold Session.timeOf timeAt retimeHeader
    rw [hcwd, htarget, node?_put (by decide), if_pos rfl]
    rfl
  obtain rfl : interface = true := by
    rw [hinterface, htime]
    exact .inr (by decide)
  exact ⟨congrArg Prod.fst hfresh, metadata, congrArg Prod.fst hstatus⟩

/-- Right after its run the metadata module is out of date if the run has made it in one of its own sources. -/
theorem not_fresh_outputWatcher :
    outputWatcher.SparesSources [] ∧
    target [] outputWatcher.interfacePath ≠ target [] outputWatcher.metadataPath ∧
    (outputWatcher.generate olderSession).1 = .ok { smallArtifacts with metadataStamp := ⟨4⟩ } ∧
    (outputWatcher.status (outputWatcher.generate olderSession).2).1 =
      .ok [(outputWatcher.interfacePath, false), (outputWatcher.metadataPath, true)] := by
  refine ⟨outputWatcher_sparesSources, by decide, ?_, by decide +kernel⟩
  rw [outputWatcher_generate]

end Plan

end Build

end BindingPipeline
