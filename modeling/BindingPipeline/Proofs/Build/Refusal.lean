/-
BindingPipeline/Proofs/Build/Refusal.lean

Failures that come before anything is written.  Compiling only reads, and so does each look at the times of
the sources, which comes first in both steps of a run; the text of the module is made behind that look and
before the first change.  So what fails until then has left the session as it was, the directories included,
and the runner has had no part in it.

The error is that of the first path, in the order of the list, whose time is refused
(`latest_eq_error_iff`).  Main result: `Plan.refused_without_trace`.
-/
import BindingPipeline.Proofs.Build.Protocol
import BindingPipeline.Proofs.Build.Sources

namespace BindingPipeline

open FileSystem

/-- Among some paths, this one is the first whose time cannot be read. -/
def Session.FirstRefusal (s : Session) (ps : List Path) (path : Path) (cause : SystemError) : Prop :=
  ∃ before behind, ps = before ++ path :: behind ∧
    (∀ q ∈ before, ∃ t, s.files.modified s.cwd q = .ok t) ∧
    s.files.modified s.cwd path = .error cause

namespace Session

variable {s : Session} {path q : Path} {ps : List Path} {cause : SystemError}

theorem not_firstRefusal_nil : ¬ s.FirstRefusal [] path cause := by
  rintro ⟨before, behind, hnil, -⟩
  simp at hnil

theorem firstRefusal_cons : s.FirstRefusal (q :: ps) path cause ↔
    (q = path ∧ s.files.modified s.cwd path = .error cause) ∨
      (∃ t, s.files.modified s.cwd q = .ok t) ∧ s.FirstRefusal ps path cause := by
  constructor
  · rintro ⟨before, behind, hsplit, hbefore, hcause⟩
    cases before with
    | nil => exact .inl ⟨(List.cons.inj hsplit).1, hcause⟩
    | cons q' before =>
      obtain ⟨rfl, rfl⟩ := List.cons.inj hsplit
      obtain ⟨hq, hbefore⟩ := List.forall_mem_cons.1 hbefore
      exact .inr ⟨hq, before, behind, rfl, hbefore, hcause⟩
  · rintro (⟨rfl, hcause⟩ | ⟨hq, before, behind, rfl, hbefore, hcause⟩)
    · exact ⟨[], ps, rfl, List.forall_mem_nil _, hcause⟩
    · exact ⟨q :: before, behind, rfl, List.forall_mem_cons.2 ⟨hq, hbefore⟩, hcause⟩

/-- Where nothing is, the time is refused because of that. -/
theorem modified_of_notFound (h : s.files.find s.cwd path = .error .notFound) :
    s.files.modified s.cwd path = .error .notFound := by
  unfold FileSystem.modified
  rw [h]
  rfl

end Session

namespace Build

variable {s : Session} {ps : List Path} {path : Path} {cause : SystemError} {e : Error}

theorem modified_eq_error_iff : Action.modified path s = (.error e, s) ↔
    ∃ cause, s.files.modified s.cwd path = .error cause ∧ e = .onPath path cause :=
  Action.ask_eq_error_iff.trans (and_iff_left rfl)

/-- **The look at the times fails at the first path that refuses its time**, and at no other. -/
theorem latest_eq_error_iff : latest ps s = (.error e, s) ↔
    ∃ path cause, s.FirstRefusal ps path cause ∧ e = .onPath path cause := by
  unfold latest
  generalize Time.epoch = start
  induction ps generalizing start with
  | nil => exact ⟨nofun, fun ⟨_, _, h, _⟩ => absurd h Session.not_firstRefusal_nil⟩
  | cons q ps ih =>
    have hone : (do return start.later (← Action.modified q) : Action Time) s = (.error e, s) ↔
        Action.modified q s = (.error e, s) := by
      rw [Action.bind_eq_error_iff]
      exact or_iff_left fun ⟨_, _, _, hpure⟩ => nomatch hpure
    rw [List.foldlM_cons, Action.bind_eq_error_iff, hone, modified_eq_error_iff]
    constructor
    · rintro (⟨cause, hcause, rfl⟩ | ⟨next, mid, hstep, hrest⟩)
      · exact ⟨q, cause, Session.firstRefusal_cons.2 (.inl ⟨rfl, hcause⟩), rfl⟩
      · obtain ⟨t, mid', hread, hpure⟩ := Action.bind_eq_ok_iff.1 hstep
        obtain ⟨rfl, rfl⟩ := Action.pure_eq_ok_iff.1 hpure
        obtain ⟨hread, rfl⟩ := Action.ask_eq_ok_iff.1 hread
        obtain ⟨path, cause, hrefusal, rfl⟩ := (ih _).1 hrest
        exact ⟨path, cause, Session.firstRefusal_cons.2 (.inr ⟨⟨t, hread⟩, hrefusal⟩), rfl⟩
    · rintro ⟨path, cause, hrefusal, rfl⟩
      rcases Session.firstRefusal_cons.1 hrefusal with ⟨rfl, hcause⟩ | ⟨⟨t, hread⟩, hrefusal⟩
      · exact .inl ⟨cause, hcause, rfl⟩
      · have hstep : (do return start.later (← Action.modified q) : Action Time) s =
            (.ok (start.later t), s) :=
          Action.bind_eq_ok_iff.2 ⟨t, s, Action.ask_eq_ok_iff.2 ⟨hread, rfl⟩, rfl⟩
        exact .inr ⟨_, s, hstep, (ih _).2 ⟨path, cause, hrefusal, rfl⟩⟩

theorem latest_of_firstRefusal (h : s.FirstRefusal ps path cause) :
    latest ps s = (.error (.onPath path cause), s) :=
  latest_eq_error_iff.2 ⟨path, cause, h, rfl⟩

/-- The look succeeds if no path refuses. -/
theorem latest_of_readable (h : ∀ p ∈ ps, ∃ t, s.files.modified s.cwd p = .ok t) :
    ∃ t, latest ps s = (.ok t, s) := by
  refine ⟨_, latest_of_found fun p hp => ?_⟩
  obtain ⟨t, ht⟩ := h p hp
  exact (FileSystem.modified_eq_ok_iff.1 ht).1

/-! ### The metadata module -/

variable {m : Metadata.Module} {encode : Encoder} {output : Path} {sources : List Path}

theorem writeMetadata_of_firstRefusal (h : s.FirstRefusal sources path cause) :
    writeMetadata m encode output sources s = (.error (.onPath path cause), s) :=
  Action.bind_eq_error_iff.2 (.inl (latest_of_firstRefusal h))

theorem writeMetadata_of_encode_error (hread : ∀ src ∈ sources, ∃ t, s.files.modified s.cwd src = .ok t)
    (hencode : encode m = .error e) : writeMetadata m encode output sources s = (.error e, s) := by
  obtain ⟨t, ht⟩ := latest_of_readable hread
  have hlift : Action.lift (encode m) s = (.error e, s) := by
    rw [hencode]
    rfl
  exact Action.bind_eq_error_iff.2 (.inr ⟨t, s, ht, Action.bind_eq_error_iff.2 (.inl hlift)⟩)

/-! ### Runs -/

namespace Plan

variable {p : Plan}

/-- A run fails with the error and leaves no trace: nothing is printed and nothing changed.  In a build no
runner makes a difference, whatever has work for it and whatever it would do; its state is as it was, and
one that takes notes has noted no call. -/
structure Aborts (p : Plan) (s : Session) (e : Error) : Prop where
  generate : p.generate s = (.error e, s)
  build : ∀ {σ : Type} (runner : Runner σ) (r : σ), p.build runner (r, s) = (.error e, (r, s))
  uncalled : ∀ {σ : Type} (runner : Runner σ) (r : σ),
    (p.build runner.recorded ((r, []), s)).2.1.2 = []

/-- A build that cannot generate does nothing else. -/
theorem aborts_of_generate (h : p.generate s = (.error e, s)) : p.Aborts s e := by
  have hbuild : ∀ {σ : Type} (runner : Runner σ) (r : σ), p.build runner (r, s) = (.error e, (r, s)) := by
    intro σ runner r
    have hturn : (Turn.ofAction p.generate : Turn σ Artifacts) (r, s) = (.error e, (r, s)) := by
      rw [Turn.ofAction_apply]
      show ((p.generate s).1, (r, (p.generate s).2)) = _
      rw [h]
    exact state_bind_eq_error_iff.2 (.inl hturn)
  refine ⟨h, hbuild, fun runner r => ?_⟩
  rw [hbuild]

theorem aborts_of_compile (h : (p.compile s).1 = .error e) : p.Aborts s e :=
  aborts_of_generate (Action.bind_eq_error_iff.2 (.inl (p.compile_reads.of_fst h)))

/-- The times of the template and the header are the first thing behind compiling. -/
theorem aborts_of_firstRefusal (hcompile : (p.compile s).1 = .ok m)
    (h : s.FirstRefusal [p.templatePath, p.headerPath] path cause) : p.Aborts s (.onPath path cause) := by
  have hstep : p.interfaceStep s = (.error (.onPath path cause), s) :=
    Action.bind_eq_error_iff.2 (.inl (latest_of_firstRefusal h))
  apply aborts_of_generate
  refine Action.bind_eq_error_iff.2 (.inr ⟨m, s, p.compile_reads.of_fst hcompile, ?_⟩)
  exact Action.bind_eq_error_iff.2 (.inl hstep)

/-- **What fails before the first write leaves no trace.**  If the catalogs do not compile, the run and the
build fail with that error and have done nothing.  If they do, and the time of the template or of the header
cannot be read, they fail with the error of the first of the two, which is that it is not found where there
is nothing, and have done nothing.  Writing a module, whichever and however encoded, fails with the error of
the first source whose time cannot be read, even if encoding would fail, and else with that of the encoder;
it has then done nothing, and made no directory. -/
theorem refused_without_trace (p : Plan) (s : Session) :
    (∀ e, (p.compile s).1 = .error e → p.Aborts s e) ∧
    (∀ m path cause, (p.compile s).1 = .ok m → s.FirstRefusal [p.templatePath, p.headerPath] path cause →
      p.Aborts s (.onPath path cause) ∧
      (s.files.find s.cwd path = .error .notFound → p.Aborts s (.notFound path))) ∧
    ∀ (m : Metadata.Module) (encode : Encoder) (output : Path) (sources : List Path),
      (∀ path cause, s.FirstRefusal sources path cause →
        writeMetadata m encode output sources s = (.error (.onPath path cause), s)) ∧
      ∀ e, (∀ src ∈ sources, ∃ t, s.files.modified s.cwd src = .ok t) → encode m = .error e →
        writeMetadata m encode output sources s = (.error e, s) := by
  refine ⟨fun e => aborts_of_compile, fun m path cause hcompile h => ?_, fun m encode output sources => ?_⟩
  · have haborts := aborts_of_firstRefusal hcompile h
    refine ⟨haborts, fun hfind => ?_⟩
    -- what is not there is refused for that reason
    obtain ⟨before, behind, -, -, hcause⟩ := h
    rw [Session.modified_of_notFound hfind] at hcause
    obtain rfl := Except.error.inj hcause
    exact haborts
  · constructor
    · exact fun path cause h => writeMetadata_of_firstRefusal h
    · exact fun e hread hencode => writeMetadata_of_encode_error hread hencode

/-- `small` with a catalog that is not there. -/
def uncatalogued : Plan := { small with config.sources.opcodes := ⟨"missing"⟩ }

/-- Each of the failures: no catalog, no header, and a module that is written with an encoder that fails,
first from a source that is not there and then from one that is. -/
theorem small_refused :
    uncatalogued.Aborts (smallSession ⟨9⟩ []) (.notFound ⟨"missing"⟩) ∧
    headerless.Aborts (smallSession ⟨9⟩ []) (.notFound ⟨"missing"⟩) ∧
    writeMetadata default (fun _ => .error (.encode "unsupported value")) ⟨"out/info"⟩
      [⟨"notes"⟩, ⟨"missing"⟩] (smallSession ⟨9⟩ []) = (.error (.notFound ⟨"missing"⟩), smallSession ⟨9⟩ []) ∧
    writeMetadata default (fun _ => .error (.encode "unsupported value")) ⟨"out/info"⟩ [⟨"notes"⟩]
      (smallSession ⟨9⟩ []) = (.error (.encode "unsupported value"), smallSession ⟨9⟩ []) := by
  obtain ⟨huncatalogued, -⟩ := refused_without_trace uncatalogued (smallSession ⟨9⟩ [])
  obtain ⟨-, hheaderless, hwrite⟩ := refused_without_trace headerless (smallSession ⟨9⟩ [])
  -- the catalogs of the small plan compile
  obtain ⟨m, -, -, -, -, hcompile, -⟩ := generate_steps small_generate
  have hheader : (smallSession ⟨9⟩ []).FirstRefusal [⟨"head.i"⟩, ⟨"missing"⟩] ⟨"missing"⟩ .notFound :=
    ⟨[⟨"head.i"⟩], [], rfl, List.forall_mem_singleton.2 ⟨⟨1⟩, rfl⟩, rfl⟩
  have hnotes : ∀ src ∈ [(⟨"notes"⟩ : Path)],
      ∃ t, (smallSession ⟨9⟩ []).files.modified [] src = .ok t :=
    List.forall_mem_singleton.2 ⟨⟨7⟩, rfl⟩
  refine ⟨huncatalogued _ rfl, (hheaderless m ⟨"missing"⟩ .notFound ?_ hheader).2 rfl, ?_, ?_⟩
  · exact congrArg Prod.fst hcompile
  · exact (hwrite _ _ _ _).1 ⟨"missing"⟩ .notFound ⟨[⟨"notes"⟩], [], rfl, hnotes, rfl⟩
  · exact (hwrite _ _ _ _).2 _ hnotes rfl

end Plan

end Build

end BindingPipeline
