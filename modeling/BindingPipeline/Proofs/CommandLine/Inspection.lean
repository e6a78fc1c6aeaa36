/-
BindingPipeline/Proofs/CommandLine/Inspection.lean

Inspecting shows what generating writes.  The two requests share the manifest and the catalogs, and part where
one prints the text of the compiled module and the other puts it into a file, behind everything else that it
does.  That a file has been written says that its path could be written to, whatever the text; so a run
that succeeds would have succeeded in the other format.

Design.  `Request.plan` is what a request makes of a configuration.  It does not look at the verb, and
between the formats only `Plan.inFormat` changes, so both requests are about one plan by definition.

Main result: `inspect_shows_generated`.
-/
import BindingPipeline.CommandLine.Run
import BindingPipeline.CommandLine.Snapshot
import BindingPipeline.Proofs.Build.Failure

namespace BindingPipeline

open FileSystem

namespace Build

variable {s s' : Session} {t : Time}

/-! ### One run in two formats -/

/-- What has been written with one encoder could have been written with another one. -/
theorem writeMetadata_reencode {m : Metadata.Module} {encode encode' : Encoder} {output : Path}
    {sources : List Path} {text : String} (hencode : encode' m = .ok text)
    (h : writeMetadata m encode output sources s = (.ok t, s')) :
    ∃ s'', writeMetadata m encode' output sources s = (.ok t, s'') := by
  unfold writeMetadata writeMetadataOn at h
  obtain ⟨t', s₁, hlatest, h⟩ := Action.bind_eq_ok_iff.1 h
  obtain ⟨text', s₂, hlift, h⟩ := Action.bind_eq_ok_iff.1 h
  obtain ⟨u₁, s₃, hparent, h⟩ := Action.bind_eq_ok_iff.1 h
  obtain ⟨u₂, s₄, hwrite, h⟩ := Action.bind_eq_ok_iff.1 h
  obtain ⟨u₃, s₅, -, h⟩ := Action.bind_eq_ok_iff.1 h
  obtain ⟨rfl, -⟩ := Action.pure_eq_ok_iff.1 h
  obtain rfl := (Action.Reads.lift _).eq hlift
  -- the output can be written, and what has been written can be stamped
  obtain ⟨fs, hfs, -⟩ := Action.change_eq_ok_iff.1 (Device.write_eq_ok hwrite)
  have hwrite' : Action.write output text.toUTF8 s₃ = (.ok (), _) :=
    Action.change_eq_ok_iff.2 ⟨_, write_eq_ok_iff.2 ⟨(write_eq_ok_iff.1 hfs).1, rfl⟩, rfl⟩
  obtain ⟨s'', hstamp⟩ := Action.stamp_of_opened (Action.opened_of_write hwrite') t
  refine ⟨s'', Action.bind_eq_ok_iff.2 ⟨t, s₂, hlatest, Action.bind_eq_ok_iff.2 ⟨text, s₂, ?_, ?_⟩⟩⟩
  · rw [hencode]
    rfl
  · exact Action.bind_eq_ok_iff.2 ⟨u₁, s₃, hparent, Action.bind_eq_ok_iff.2 ⟨(), _, hwrite',
      Action.bind_eq_ok_iff.2 ⟨(), s'', hstamp, rfl⟩⟩⟩

namespace Plan

variable {p : Plan} {a : Artifacts}

/-- The plan with its metadata in this format. -/
def inFormat (p : Plan) (f : Metadata.Format) : Plan := { p with config.outputs.format := f }

/-- Generating succeeds, and leaves the text in the metadata file. -/
def Writes (p : Plan) (s : Session) (text : String) : Prop :=
  ∃ a s' t, p.generate s = (.ok a, s') ∧ s'.Holds p.metadataPath text.toUTF8 t

/-- A run that succeeds does so in every format. -/
theorem generate_inFormat (h : p.generate s = (.ok a, s')) (f : Metadata.Format) :
    ∃ s'', (p.inFormat f).generate s = (.ok a, s'') := by
  obtain ⟨m, t, mid, t', last, hcompile, hinterface, hmetadata, -, rfl⟩ := generate_steps h
  obtain ⟨last', hmetadata'⟩ : ∃ last', (p.inFormat f).metadataStep m mid = (.ok t', last') :=
    writeMetadata_reencode rfl hmetadata
  rcases hemit : (p.inFormat f).emitDirectives last' with ⟨e | ⟨⟩, s''⟩
  · exact absurd hemit emitDirectives_ne_error
  · exact ⟨s'', Action.bind_eq_ok_iff.2 ⟨m, s, hcompile, Action.bind_eq_ok_iff.2 ⟨t, mid, hinterface,
      Action.bind_eq_ok_iff.2 ⟨t', last', hmetadata', Action.bind_eq_ok_iff.2 ⟨(), s'', hemit, rfl⟩⟩⟩⟩⟩

end Plan

end Build

namespace CommandLine

open Build (Launcher Plan)
open Manifest (Config)

variable {launch : Launcher} {r : Request} {words : List String} {p : Plan} {c : Config} {s s' : Session}

/-! ### Requests taken apart -/

/-- The plan of a request whose manifest says `c`. -/
def Request.plan (r : Request) (cwd : Place) (c : Config) : Plan :=
  let work := workDir cwd
  { Plan.ofConfig c ⟨sourceRoot work r.config, work, r.buildRoot.map work.join⟩ with
    manifest := some r.config }

theorem loadConfig_reads (path : Path) : (Build.loadConfig path).Reads :=
  (Action.Reads.ask _ _).bind fun _ => Action.Reads.lift _

theorem Task.of_eq_ok_iff {α : Type} {context : String} {a : Action α} {x : α} :
    Task.of context a s = (.ok x, s') ↔ a s = (.ok x, s') := by
  unfold Task.of
  rcases a s with ⟨e | y, mid⟩
  · simp [Id]
  · simp [Id]

/-- A task that only asks leaves the session as it is. -/
theorem Task.of_reads {α : Type} {context : String} {a : Action α} (ha : a.Reads) :
    (Task.of context a s).2 = s := by
  unfold Task.of
  rcases hr : a s with ⟨e | x, mid⟩
  · exact ha.eq hr
  · exact ha.eq hr

/-- A plan is made exactly where the manifest can be loaded. -/
theorem loadPlan_eq_ok_iff :
    loadPlan r s = (.ok p, s') ↔
      s' = s ∧ ∃ c, (Build.loadConfig r.config s).1 = .ok c ∧ p = r.plan s.cwd c := by
  unfold loadPlan
  rw [state_bind_eq_ok_iff]
  constructor
  · rintro ⟨c, mid, hload, h⟩
    rw [Task.of_eq_ok_iff] at hload
    obtain rfl := (loadConfig_reads _).eq hload
    obtain ⟨cwd, mid', hget, h⟩ := state_bind_eq_ok_iff.1 h
    cases hget
    obtain ⟨rfl, rfl⟩ := state_pure_eq_ok_iff.1 h
    exact ⟨rfl, c, by rw [hload], rfl⟩
  · rintro ⟨rfl, c, hload, rfl⟩
    exact ⟨c, s', Task.of_eq_ok_iff.2 ((loadConfig_reads _).of_fst hload),
      state_bind_eq_ok_iff.2 ⟨s', s', rfl, rfl⟩⟩

theorem loadPlan_bind_eq_ok_iff {task : Plan → Task Unit} :
    (loadPlan r >>= task) s = (.ok (), s') ↔
      ∃ c, (Build.loadConfig r.config s).1 = .ok c ∧ task (r.plan s.cwd c) s = (.ok (), s') := by
  rw [state_bind_eq_ok_iff]
  constructor
  · rintro ⟨p, mid, hplan, h⟩
    obtain ⟨rfl, c, hload, rfl⟩ := loadPlan_eq_ok_iff.1 hplan
    exact ⟨c, hload, h⟩
  · rintro ⟨c, hload, h⟩
    exact ⟨_, s, loadPlan_eq_ok_iff.2 ⟨rfl, c, hload, rfl⟩, h⟩

/-- How a run with a known exit code is shown. -/
theorem run_of_fst {code : Nat} (h : (run launch words s).1 = code) :
    run launch words s = (code, (run launch words s).2) := by
  subst h
  rfl

/-- The exit code tells whether the request was carried out. -/
theorem run_eq_zero_iff (hwords : Request.ofWords words = .ok r) :
    run launch words s = (0, s') ↔ perform launch r s = (.ok (), s') := by
  unfold run
  rw [hwords]
  rcases hperform : perform launch r s with ⟨e | ⟨⟩, mid⟩
  · simp [hperform, Id]
  · simp [hperform, Id]

/-- A run that generates has made the files, and printed nothing but their paths. -/
theorem run_generate_eq_zero (hwords : Request.ofWords words = .ok { r with verb := .generate })
    (h : run launch words s = (0, s')) :
    ∃ c a made, (Build.loadConfig r.config s).1 = .ok c ∧
      (r.plan s.cwd c).generate s = (.ok a, made) ∧ s'.files = made.files ∧ s'.cwd = made.cwd := by
  have hperform : (loadPlan r >>= generate) s = (.ok (), s') := (run_eq_zero_iff hwords).1 h
  obtain ⟨c, hload, h⟩ := loadPlan_bind_eq_ok_iff.1 hperform
  obtain ⟨a, made, hmade, h⟩ := state_bind_eq_ok_iff.1 h
  obtain ⟨⟨⟩, mid, hsay, hsay'⟩ := state_bind_eq_ok_iff.1 h
  cases hsay
  cases hsay'
  exact ⟨c, a, made, hload, Task.of_eq_ok_iff.1 hmade, rfl, rfl⟩

/-- The words succeed and print the text, and that is all that they do. -/
def Prints (launch : Launcher) (words : List String) (s : Session) (text : String) : Prop :=
  run launch words s = (0, { s with output := s.output ++ text })

theorem inspect_eq_ok_iff {format : Option Metadata.Format} :
    inspect p format s = (.ok (), s') ↔ ∃ m, (p.compile s).1 = .ok m ∧
      s' = { s with output := s.output ++ (format.getD p.config.outputs.format).encode m } := by
  unfold inspect
  rw [state_bind_eq_ok_iff]
  constructor
  · rintro ⟨m, mid, hcompile, h⟩
    rw [Task.of_eq_ok_iff] at hcompile
    obtain rfl := p.compile_reads.eq hcompile
    cases h
    exact ⟨m, by rw [hcompile], rfl⟩
  · rintro ⟨m, hcompile, rfl⟩
    exact ⟨m, s, Task.of_eq_ok_iff.2 (p.compile_reads.of_fst hcompile), rfl⟩

/-- Inspecting succeeds exactly where the manifest can be loaded and the catalogs compile. -/
theorem run_inspect_eq_zero_iff {format : Option Metadata.Format}
    (hwords : Request.ofWords words = .ok { r with verb := .inspect format }) :
    run launch words s = (0, s') ↔ ∃ c m, (Build.loadConfig r.config s).1 = .ok c ∧
      ((r.plan s.cwd c).compile s).1 = .ok m ∧
      s' = { s with output := s.output ++ (format.getD c.outputs.format).encode m } := by
  have hperform : perform launch { r with verb := .inspect format } = (loadPlan r >>= (inspect · format)) := rfl
  rw [run_eq_zero_iff hwords, hperform, loadPlan_bind_eq_ok_iff]
  simp only [inspect_eq_ok_iff, ← exists_and_left]
  rfl

/-- Whether it succeeds or not, inspecting changes no file. -/
theorem run_inspect_files {format : Option Metadata.Format}
    (hwords : Request.ofWords words = .ok { r with verb := .inspect format }) :
    (run launch words s).2.files = s.files := by
  have hkept : (perform launch { r with verb := .inspect format } s).2.files = s.files := by
    refine state_bind_preserves (P := fun z : Session => z.files = s.files) ?_ fun p mid _ hmid => ?_
    · refine state_bind_preserves (P := fun z : Session => z.files = s.files) ?_ fun _ _ _ hmid => hmid
      rw [Task.of_reads (loadConfig_reads _)]
    · refine state_bind_preserves (P := fun z : Session => z.files = s.files) ?_ fun _ _ _ hmid => hmid
      rw [Task.of_reads p.compile_reads, hmid]
  unfold run
  rw [hwords]
  rcases hperform : perform launch { r with verb := .inspect format } s with ⟨e | ⟨⟩, mid⟩
  · rw [hperform] at hkept
    simpa only [hperform] using hkept
  · rw [hperform] at hkept
    simpa only [hperform] using hkept

/-! ### The comparison -/

/-- The second session has the catalogs of the first one, and its manifest says `c` but for the format. -/
structure Reformats (r : Request) (c : Config) (f : Metadata.Format) (s s₁ : Session) : Prop where
  cwd : s₁.cwd = s.cwd
  manifest : (Build.loadConfig r.config s₁).1 = .ok { c with outputs.format := f }
  catalogs : ∀ src ∈ [(r.plan s.cwd c).opcodesPath, (r.plan s.cwd c).typesPath],
    s₁.files.readText s₁.cwd src = s.files.readText s.cwd src

/-- What generating leaves in the metadata file is the text of the module in the format of the manifest. -/
theorem holds_of_run_generate (hwords : Request.ofWords words = .ok { r with verb := .generate })
    (h : run launch words s = (0, s')) :
    ∃ c m t, (Build.loadConfig r.config s).1 = .ok c ∧ ((r.plan s.cwd c).compile s).1 = .ok m ∧
      s'.Holds (r.plan s.cwd c).metadataPath (c.outputs.format.encode m).toUTF8 t := by
  obtain ⟨c, a, made, hload, hgenerate, hfiles, hcwd⟩ := run_generate_eq_zero hwords h
  obtain ⟨m, hcompile, hholds⟩ := Plan.metadata_of_generate hgenerate
  refine ⟨c, m, a.metadataStamp, hload, hcompile, ?_⟩
  unfold Session.Holds
  rw [hfiles, hcwd]
  exact hholds

theorem Reformats.holds {f : Metadata.Format} {m : Metadata.Module} {s₁ s₁' : Session}
    (h : Reformats r c f s s₁) (hcompile : ((r.plan s.cwd c).compile s).1 = .ok m)
    (hwords : Request.ofWords words = .ok { r with verb := .generate })
    (hrun : run launch words s₁ = (0, s₁')) :
    ∃ t, s₁'.Holds (r.plan s.cwd c).metadataPath (f.encode m).toUTF8 t := by
  obtain ⟨c', m', t, hload, hcompile', hholds⟩ := holds_of_run_generate hwords hrun
  obtain rfl : { c with outputs.format := f } = c' := Except.ok.inj (h.manifest.symm.trans hload)
  rw [h.cwd] at hcompile' hholds
  -- the catalogs are found in the same places, whatever the format is
  have hsame : ((r.plan s.cwd c).compile s₁).1 = ((r.plan s.cwd c).compile s).1 :=
    Plan.compile_congr (h.catalogs _ List.mem_cons_self)
      (h.catalogs _ (List.mem_cons_of_mem _ List.mem_cons_self))
  obtain rfl : m' = m := Except.ok.inj (hcompile'.symm.trans (hsame.trans hcompile))
  exact ⟨t, hholds⟩

/-- **Inspecting shows what generating writes.**  Where a request to generate succeeds, inspecting in its
place prints the bytes that it leaves in the metadata file.  Inspecting in a named format prints what
generating would leave there in that format: it would succeed, and what it would leave is what it does
leave wherever the catalogs are the same and the manifest names that format.  Inspecting changes no
file, and succeeds exactly if the manifest can be loaded and the catalogs compile; no other file is
asked for. -/
theorem inspect_shows_generated (launch : Launcher) (r : Request) (s : Session) :
    (∀ words s', Request.ofWords words = .ok { r with verb := .generate } → run launch words s = (0, s') →
      ∃ c text t, (Build.loadConfig r.config s).1 = .ok c ∧
        s'.Holds (r.plan s.cwd c).metadataPath text.toUTF8 t ∧
        (∀ words', Request.ofWords words' = .ok { r with verb := .inspect none } → Prints launch words' s text) ∧
        ∀ f, ∃ text', ((r.plan s.cwd c).inFormat f).Writes s text' ∧
          (∀ words₁ s₁ s₁', Request.ofWords words₁ = .ok { r with verb := .generate } →
            Reformats r c f s s₁ → run launch words₁ s₁ = (0, s₁') →
              ∃ t', s₁'.Holds (r.plan s.cwd c).metadataPath text'.toUTF8 t') ∧
          ∀ words', Request.ofWords words' = .ok { r with verb := .inspect (some f) } →
            Prints launch words' s text') ∧
    ∀ words format, Request.ofWords words = .ok { r with verb := .inspect format } →
      (run launch words s).2.files = s.files ∧
      ((run launch words s).1 = 0 ↔ ∃ c m, (Build.loadConfig r.config s).1 = .ok c ∧
        ((r.plan s.cwd c).compile s).1 = .ok m) := by
  constructor
  · intro words s' hwords hrun
    obtain ⟨c, a, made, hload, hgenerate, -, -⟩ := run_generate_eq_zero hwords hrun
    obtain ⟨c', m, t, hload', hcompile, hholds⟩ := holds_of_run_generate hwords hrun
    obtain rfl : c = c' := Except.ok.inj (hload.symm.trans hload')
    refine ⟨c, _, t, hload, hholds, fun words' hwords' => ?_, fun f => ⟨f.encode m, ?_, ?_, ?_⟩⟩
    · exact (run_inspect_eq_zero_iff hwords').2 ⟨c, m, hload, hcompile, rfl⟩
    · obtain ⟨s'', hgenerate'⟩ := Plan.generate_inFormat hgenerate f
      obtain ⟨m', hcompile', hholds'⟩ := Plan.metadata_of_generate hgenerate'
      obtain rfl : m' = m := Except.ok.inj (hcompile'.symm.trans hcompile)
      exact ⟨a, s'', _, hgenerate', hholds'⟩
    · exact fun words₁ s₁ s₁' hwords₁ hsame hrun₁ => hsame.holds hcompile hwords₁ hrun₁
    · exact fun words' hwords' => (run_inspect_eq_zero_iff hwords').2 ⟨c, m, hload, hcompile, rfl⟩
  · intro words format hwords
    refine ⟨run_inspect_files hwords, fun hzero => ?_, fun ⟨c, m, hload, hcompile⟩ => ?_⟩
    · obtain ⟨c, m, hload, hcompile, -⟩ := (run_inspect_eq_zero_iff hwords).1 (run_of_fst hzero)
      exact ⟨c, m, hload, hcompile⟩
    · rw [(run_inspect_eq_zero_iff hwords).2 ⟨c, m, hload, hcompile, rfl⟩]

/-! ### A manifest with one output -/

/-- A manifest that names the sources of the small plan, and sends both outputs to one file. -/
def oneOutput : Place × Node :=
  let sources := "[sources]\ntemplate = 'head.i'\nheader = 'decl.h'\nopcodes = 'ops'\ntypes = 'types'\n"
  let outputs := "[outputs]\ninterface = '_info.py'\n"
  (["numweld.toml"], .file (sources ++ outputs).toUTF8 ⟨2⟩)

/-- All sources are there. -/
def sourcesSession : Session := Plan.smallSession ⟨9⟩ [oneOutput]

/-- There are the catalogs, but neither a template nor a header. -/
def catalogsSession : Session :=
  { sourcesSession with files.nodes := [oneOutput, (["ops"], .file "[]".toUTF8 ⟨3⟩),
      (["types"], .file "[]".toUTF8 ⟨4⟩)] }

theorem oneOutput_runs :
    (run snapshotLauncher ["generate"] sourcesSession).1 = 0 ∧
      (run snapshotLauncher ["inspect"] catalogsSession).1 = 0 := by
  decide +kernel

theorem oneOutput_shows_generated :
    let r : Request := ⟨defaultManifest, none, .generate⟩
    (∃ c text t,
      (run snapshotLauncher ["generate"] sourcesSession).2.Holds (r.plan [] c).metadataPath text.toUTF8 t ∧
      Prints snapshotLauncher ["inspect"] sourcesSession text ∧
      ∃ text', ((r.plan [] c).inFormat .json).Writes sourcesSession text' ∧
        Prints snapshotLauncher ["inspect", "--format", "json"] sourcesSession text') ∧
    ∃ c m, (Build.loadConfig r.config catalogsSession).1 = .ok c ∧
      ((r.plan [] c).compile catalogsSession).1 = .ok m := by
  intro r
  obtain ⟨hgenerate, hinspect⟩ := oneOutput_runs
  constructor
  · obtain ⟨c, text, t, -, hholds, hprints, hformats⟩ :=
      (inspect_shows_generated snapshotLauncher r sourcesSession).1 ["generate"] _ rfl (run_of_fst hgenerate)
    obtain ⟨text', hwrites, -, hprints'⟩ := hformats .json
    exact ⟨c, text, t, hholds, hprints _ rfl, text', hwrites, hprints' _ rfl⟩
  · exact ((inspect_shows_generated snapshotLauncher r catalogsSession).2 ["inspect"] none rfl).2.1 hinspect

end CommandLine

end BindingPipeline
