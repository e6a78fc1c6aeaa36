/-
BindingPipeline/Proofs/Build/Inputs.lean

The inputs of a generation are the paths that its directives list.  Two runs from sessions that agree on
the listed files report the same artifacts and leave the same outputs, whatever else there is in the two
trees: a tool that starts a new run only when a listed file has changed never keeps an outdated output.

Design.  Both runs are described by `Plan.generate_eq_ok` in terms of what their own sources held at the
start, so nothing has to be compared step by step: it is enough that the two descriptions are made of
equal parts.
-/
import BindingPipeline.Proofs.Build.Generation

namespace BindingPipeline

open FileSystem

/-- Files that are held in both sessions read as the same text. -/
theorem Session.Holds.readText_eq {s₁ s₂ : Session} {p : Path} {bytes : ByteArray} {t₁ t₂ : Time}
    (h₁ : s₁.Holds p bytes t₁) (h₂ : s₂.Holds p bytes t₂) :
    s₁.files.readText s₁.cwd p = s₂.files.readText s₂.cwd p := by
  unfold FileSystem.readText
  rw [h₁.readBytes, h₂.readBytes]

namespace Build.Plan

variable {p : Plan} {s₁ s₂ s₁' s₂' : Session} {a₁ a₂ : Artifacts}

/-- There is a directive that names the path. -/
def Lists (p : Plan) (path : Path) : Prop := "cargo:rerun-if-changed=" ++ path.text ∈ p.directives

/-- The directives list the inputs, and no other paths. -/
theorem lists_iff {path : Path} : p.Lists path ↔ path ∈ p.inputs := by
  unfold Lists directives
  rw [List.mem_map]
  constructor
  · rintro ⟨input, hinput, heq⟩
    have htext : input.text = path.text := (String.append_right_inj _).1 heq
    rcases input with ⟨text⟩
    rcases path with ⟨text'⟩
    obtain rfl : text = text' := htext
    exact hinput
  · intro h
    exact ⟨path, h, rfl⟩

theorem lists_of_mem_sources {path : Path} (h : path ∈ p.interfaceSources ++ p.metadataSources) :
    p.Lists path :=
  lists_iff.2 (List.mem_append_left _ h)

/-- The two sessions hold the same files at all paths that the directives list. -/
def SameInputs (p : Plan) (s₁ s₂ : Session) : Prop :=
  ∀ path, p.Lists path → ∃ bytes t, s₁.Holds path bytes t ∧ s₂.Holds path bytes t

/-- What the two sessions hold at a listed path is the same. -/
theorem SameInputs.holds_eq (h : p.SameInputs s₁ s₂) {path : Path} (hlisted : p.Lists path)
    {bytes₁ bytes₂ : ByteArray} {t₁ t₂ : Time} (h₁ : s₁.Holds path bytes₁ t₁)
    (h₂ : s₂.Holds path bytes₂ t₂) : bytes₁ = bytes₂ ∧ t₁ = t₂ := by
  obtain ⟨bytes, t, hin₁, hin₂⟩ := h path hlisted
  obtain ⟨rfl, rfl⟩ := hin₁.unique h₁
  exact hin₂.unique h₂

theorem SameInputs.compile_eq (h : p.SameInputs s₁ s₂) : (p.compile s₁).1 = (p.compile s₂).1 := by
  obtain ⟨bytes, t, ho₁, ho₂⟩ := h p.opcodesPath
    (lists_of_mem_sources (by simp [metadataSources]))
  obtain ⟨bytes', t', ht₁, ht₂⟩ := h p.typesPath
    (lists_of_mem_sources (by simp [metadataSources]))
  exact compile_congr (ho₁.readText_eq ho₂) (ht₁.readText_eq ht₂)

/-- Files rest in every run. -/
theorem SameInputs.rests (h : p.SameInputs s₁ s₂) (s₁' s₂' : Session) :
    ∀ src ∈ p.metadataSources, s₁.Rests s₁' src ∧ s₂.Rests s₂' src := by
  intro src hsrc
  obtain ⟨bytes, t, h₁, h₂⟩ := h src (lists_of_mem_sources (List.mem_append_right _ hsrc))
  exact ⟨h₁.rests, h₂.rests⟩

theorem SameInputs.times_eq (h : p.SameInputs s₁ s₂) :
    p.metadataSources.map s₁.timeOf = p.metadataSources.map s₂.timeOf := by
  refine List.map_congr_left fun src hsrc => ?_
  obtain ⟨bytes, t, h₁, h₂⟩ := h src (lists_of_mem_sources (List.mem_append_right _ hsrc))
  rw [h₁.timeOf, h₂.timeOf]

/-- **The directives list every input that matters.**  If no output goes to a listed file, two runs from
sessions that hold the same listed files, and that both succeed, report the same artifacts and leave the
same bytes with the same time at each output, whatever else differs between the sessions. -/
theorem generate_congr (hcwd : s₁.cwd = s₂.cwd)
    (hspares : ∀ path, p.Lists path → target s₁.cwd path ∉ p.outputPlaces s₁.cwd)
    (hsame : p.SameInputs s₁ s₂)
    (h₁ : p.generate s₁ = (.ok a₁, s₁')) (h₂ : p.generate s₂ = (.ok a₂, s₂')) :
    a₁ = a₂ ∧
      (∃ bytes t, s₁'.Holds p.interfacePath bytes t ∧ s₂'.Holds p.interfacePath bytes t) ∧
      ∃ bytes t, s₁'.Holds p.metadataPath bytes t ∧ s₂'.Holds p.metadataPath bytes t := by
  have hspares₁ : p.SparesSources s₁.cwd := fun src hsrc => hspares src (lists_of_mem_sources hsrc)
  have hspares₂ : p.SparesSources s₂.cwd := hcwd ▸ hspares₁
  obtain ⟨m₁, b₁, b₁', t₁, t₁', hmade₁⟩ := generate_eq_ok hspares₁ h₁
  obtain ⟨m₂, b₂, b₂', t₂, t₂', hmade₂⟩ := generate_eq_ok hspares₂ h₂
  -- what the two runs were made of is the same
  obtain rfl : m₁ = m₂ := by
    have hm := hmade₁.compiled.symm.trans (hsame.compile_eq.trans hmade₂.compiled)
    exact Except.ok.inj hm
  obtain ⟨rfl, rfl⟩ : b₁ = b₂ ∧ t₁ = t₂ := hsame.holds_eq
    (lists_of_mem_sources (by simp [interfaceSources])) hmade₁.template hmade₂.template
  obtain ⟨rfl, rfl⟩ : b₁' = b₂' ∧ t₁' = t₂' := hsame.holds_eq
    (lists_of_mem_sources (by simp [interfaceSources])) hmade₁.header hmade₂.header
  obtain rfl : a₁ = a₂ := by
    have hrests := hsame.rests s₁' s₂'
    rw [hmade₁.artifacts, hmade₂.artifacts, hmade₁.metadataStamp fun src hsrc => (hrests src hsrc).1,
      hmade₂.metadataStamp fun src hsrc => (hrests src hsrc).2, hsame.times_eq]
  refine ⟨rfl, ?_, _, _, hmade₁.metadata, hmade₂.metadata⟩
  by_cases hshared : target s₁.cwd p.interfacePath = target s₁.cwd p.metadataPath
  · exact ⟨_, _, hmade₁.shared hshared, hmade₂.shared (hcwd ▸ hshared)⟩
  · exact ⟨_, _, hmade₁.interface hshared, hmade₂.interface (hcwd ▸ hshared)⟩

/-! ### Two runs of a small plan -/

theorem small_sameInputs (now now' : Time) (more more' : List (Place × Node)) :
    small.SameInputs (smallSession now more) (smallSession now' more') := by
  have hinputs : small.inputs = smallSources.map fun e => ⟨e.1⟩ := rfl
  intro path hlisted
  rw [lists_iff, hinputs, List.mem_map] at hlisted
  obtain ⟨e, he, rfl⟩ := hlisted
  exact ⟨_, _, small_holds now more e he, small_holds now' more' e he⟩

/-- What an older run of `small` may have left, and what has nothing to do with it. -/
def olderNodes : List (Place × Node) :=
  [(["out"], .directory ⟨2⟩), (["out", "bridge.i"], .file "old".toUTF8 ⟨2⟩), (["other"], .directory ⟨3⟩)]

theorem small_congr :
    (∃ bytes t, (small.generate (smallSession ⟨9⟩ [])).2.Holds small.interfacePath bytes t ∧
      (small.generate (smallSession ⟨8⟩ olderNodes)).2.Holds small.interfacePath bytes t) ∧
    ∃ bytes t, (small.generate (smallSession ⟨9⟩ [])).2.Holds small.metadataPath bytes t ∧
      (small.generate (smallSession ⟨8⟩ olderNodes)).2.Holds small.metadataPath bytes t := by
  have hspares : ∀ path, small.Lists path → target [] path ∉ small.outputPlaces [] := by
    intro path hlisted
    rw [lists_iff, inputs, show small.watched = [] from rfl, List.append_nil] at hlisted
    exact small_sparesSources path hlisted
  have hsecond : small.generate (smallSession ⟨8⟩ olderNodes) =
      (.ok smallArtifacts, (small.generate (smallSession ⟨8⟩ olderNodes)).2) :=
    Action.eq_of_toOption (by decide +kernel)
  have hcwd : (smallSession ⟨9⟩ []).cwd = (smallSession ⟨8⟩ olderNodes).cwd := rfl
  exact (generate_congr hcwd hspares (small_sameInputs _ _ _ _) small_generate hsecond).2

end Build.Plan

end BindingPipeline
