/-
BindingPipeline/Proofs/Build/Failure.lean

What a failed run leaves behind.  A file is made by a row of steps: look at the times, make the
directories above it, create, fill, stamp.  Once it has been created the file is open (`Session.Opened`), and the
tree refuses no later step: a step that fails has not touched the file, or the device has broken it off, or the
interface description had a directory for a source, which has a time but no contents.

Design.  What a step that is broken off leaves is compared with the same step on a sound device.  That one goes on
where the other stops (`appendSources_eq_error`), so the one file is a first part of the other.
`Plan.generateOn_eq_error` says once what a failed run is: nothing at all, a failed interface step, or a finished
interface step with a failed metadata step behind it.

Main results:

* `Plan.generate_leaves_whole`: if no source of the interface description is a directory, and no missing output is in
  the place of a directory above the outputs, a failed run leaves each output as it was, or as the finished step
  leaves it, or a first part of that.  The last is the work of a device that refuses something behind the creation.
* `Plan.not_leavesWhole_headless`: if the header is a directory or cannot be opened, the part that is left of the
  interface description counts as up to date.
-/
import BindingPipeline.Proofs.Build.Generation

namespace BindingPipeline.Build

open FileSystem

variable {d : Device} {s s' : Session} {cwd : Place} {t : Time} {e : Error} {bytes : ByteArray}

/-! ### Making a file -/

/-- An open file is stamped without fail. -/
theorem stamp_ne_error {output : Path} (hopen : s.Opened output) : Action.stamp output t s ≠ (.error e, s') := by
  obtain ⟨mid, hstamp⟩ := Action.stamp_of_opened hopen t
  rw [hstamp]
  nofun

/-! ### The interface description -/

theorem sourceBytes_of_holds {source output : Path} (h : s.Holds source bytes t) :
    sourceBytes source output s = (.ok bytes, s) := by
  unfold sourceBytes
  rw [show s.files.find s.cwd source = .ok (target s.cwd source, .file bytes t) from h]

/-- What is found and is no directory is a file. -/
theorem holds_of_find {p : Path} {n : Node} (hfind : s.files.find s.cwd p = .ok (target s.cwd p, n))
    (hfile : s.files.isDirectory s.cwd p = false) : ∃ bytes t, s.Holds p bytes t := by
  unfold isDirectory at hfile
  rw [hfind] at hfile
  cases n with
  | file bytes t => exact ⟨bytes, t, hfind⟩
  | directory t => cases hfile

/-- What were files still are. -/
theorem files_stay {sources : List Path} {W D : Set Place} (hs : s.Within s' W D)
    (hfiles : ∀ src ∈ sources, ∃ bytes t, s.Holds src bytes t) :
    ∀ src ∈ sources, ∃ bytes t, s'.Holds src bytes t := by
  intro src hsrc
  obtain ⟨bytes, t, hholds⟩ := hfiles src hsrc
  exact hholds.stays hs

/-- A file is copied into an open file without fail. -/
theorem appendSource_of_opened {output source : Path} (written : ByteArray) (hopen : s.Opened output)
    (hsource : s.Holds source bytes t) :
    ∃ s', appendSourceOn .sound output written source s = (.ok (written ++ bytes), s') := by
  obtain ⟨mid, hwrite⟩ := Action.write_of_opened hopen (written ++ bytes)
  exact ⟨mid, Action.bind_eq_ok_iff.2 ⟨bytes, s, sourceBytes_of_holds hsource,
    Action.bind_eq_ok_iff.2 ⟨(), mid, hwrite, rfl⟩⟩⟩

/-- Files are copied into an open file without fail, behind what it has. -/
theorem appendSources_of_opened {output : Path} {sources : List Path} (written : ByteArray)
    (hopen : s.Opened output) (hfiles : ∀ src ∈ sources, ∃ bytes t, s.Holds src bytes t) :
    ∃ more s', sources.foldlM (appendSourceOn .sound output) written s = (.ok (written ++ more), s') := by
  induction sources generalizing s written with
  | nil => exact ⟨ByteArray.empty, s, by rw [ByteArray.append_empty]; rfl⟩
  | cons src sources ih =>
    obtain ⟨⟨bytes, t, hsrc⟩, hrest⟩ := List.forall_mem_cons.1 hfiles
    obtain ⟨mid, hone⟩ := appendSource_of_opened written hopen hsrc
    -- the file is still open, and what was a file still is one, even if it is the output itself
    have hwithin : s.Within mid {target s.cwd output} ∅ := appendSourceOn_within.of_eq hone
    obtain ⟨more, s', hmore⟩ := ih (written ++ bytes) (hopen.within hwithin) (files_stay hwithin hrest)
    refine ⟨bytes ++ more, s', ?_⟩
    rw [List.foldlM_cons, ← ByteArray.append_assoc]
    exact Action.bind_eq_ok_iff.2 ⟨_, mid, hone, hmore⟩

theorem appendSourceOn_follows {output source : Path} {written : ByteArray} :
    (appendSourceOn d output written source).Follows (appendSourceOn .sound output written source) :=
  Device.grant_follows.bind fun _ => Device.fill_follows.bind fun _ => .refl _

theorem appendSources_follows {output : Path} {sources : List Path} {written : ByteArray} :
    (sources.foldlM (appendSourceOn d output) written).Follows
      (sources.foldlM (appendSourceOn .sound output) written) :=
  Action.Follows.foldlM (fun _ _ => appendSourceOn_follows) _ _

theorem assembleOn_follows {template header output : Path} :
    (assembleOn d template header output).Follows (assemble template header output) :=
  (Action.Follows.refl _).bind fun _ => (Action.Follows.refl _).bind fun _ => Device.grant_follows.bind fun _ =>
    appendSources_follows.bind fun _ => Device.grant_follows.bind fun _ => .refl _

/-- A file that is not copied into an open file has been refused by the device. -/
theorem appendSourceOn_eq_error {output source : Path} {written : ByteArray} (hopen : s.Opened output)
    (hwritten : s.nodeAt output = some (.file written s.now)) (hsource : s.Holds source bytes t)
    (h : appendSourceOn d output written source s = (.error e, s')) :
    d.BreaksOff e ∧ ∃ part rest, written ++ bytes = part ++ rest ∧
      s'.nodeAt output = some (.file part s'.now) := by
  unfold appendSourceOn at h
  rcases Action.bind_eq_error_iff.1 h with hopens | ⟨bytes', mid, hread, h⟩
  · rcases Device.grant_eq_error hopens with ⟨hrefuses, rfl⟩ | hread
    · exact ⟨⟨.openSource source, s', fun _ => nofun, hrefuses⟩, written, bytes, rfl, hwritten⟩
    · rw [sourceBytes_of_holds hsource] at hread
      cases hread
  replace hread := Device.grant_eq_ok hread
  rw [sourceBytes_of_holds hsource] at hread
  cases hread
  rcases Action.bind_eq_error_iff.1 h with hfill | ⟨u, last, -, hpure⟩
  · rcases Device.fill_eq_error hfill with ⟨-, hclosed⟩ | ⟨hrefuses, part, rest, hpart, hwrite⟩
    · exact absurd hopen.writable hclosed
    · exact ⟨⟨.fill output, s, fun _ => nofun, hrefuses⟩, part, rest, hpart, Action.node?_of_write hwrite⟩
  · cases hpure

/-- Files that are not all copied into an open file have been refused by the device.  The file then has a first
part of what it has when they are. -/
theorem appendSources_eq_error {output : Path} {sources : List Path} {written : ByteArray}
    (hopen : s.Opened output) (hwritten : s.nodeAt output = some (.file written s.now))
    (hfiles : ∀ src ∈ sources, ∃ bytes t, s.Holds src bytes t)
    (h : sources.foldlM (appendSourceOn d output) written s = (.error e, s')) :
    d.BreaksOff e ∧ ∃ part rest last,
      sources.foldlM (appendSourceOn .sound output) written s = (.ok (part ++ rest), last) ∧
      s'.nodeAt output = some (.file part s'.now) := by
  induction sources generalizing s written with
  | nil => cases h
  | cons src sources ih =>
    obtain ⟨⟨bytes, t, hsrc⟩, hrest⟩ := List.forall_mem_cons.1 hfiles
    obtain ⟨mid, hone⟩ := appendSource_of_opened written hopen hsrc
    have hwithin : s.Within mid {target s.cwd output} ∅ := appendSourceOn_within.of_eq hone
    have hopen' : mid.Opened output := hopen.within hwithin
    have hstill := files_stay hwithin hrest
    rw [List.foldlM_cons] at h
    rcases Action.bind_eq_error_iff.1 h with hrefused | ⟨next, mid', hone', hbehind⟩
    · rcases appendSourceOn_eq_error hopen hwritten hsrc hrefused with ⟨hbreaks, part, rest, hpart, hnode⟩
      -- a sound device goes on with the sources behind
      obtain ⟨more', last', hbehind⟩ := appendSources_of_opened (written ++ bytes) hopen' hstill
      refine ⟨hbreaks, part, rest ++ more', last', ?_, hnode⟩
      rw [List.foldlM_cons, ← ByteArray.append_assoc, ← hpart]
      exact Action.bind_eq_ok_iff.2 ⟨_, mid, hone, hbehind⟩
    · cases hone.symm.trans (appendSourceOn_follows _ _ _ hone')
      have hnext : mid.nodeAt output = some (.file (written ++ bytes) mid.now) := by
        obtain ⟨bytes', t', -, -, hnode⟩ := appendSourceOn_eq_ok hone
        exact hnode
      obtain ⟨hbreaks, part, rest, last', hgoes, hnode⟩ := ih hopen' hnext hstill hbehind
      refine ⟨hbreaks, part, rest, last', ?_, hnode⟩
      rw [List.foldlM_cons]
      exact Action.bind_eq_ok_iff.2 ⟨_, mid, hone, hgoes⟩

theorem opened_of_appendSources {output : Path} {sources : List Path} {written whole : ByteArray}
    (hopen : s.Opened output)
    (h : sources.foldlM (appendSourceOn d output) written s = (.ok whole, s')) : s'.Opened output := by
  have hwithin : s.Within s' {target s.cwd output} ∅ := appendSources_within.of_eq h
  exact hopen.within hwithin

/-- What is done of an interface description behind its creation. -/
def copyAndStamp (d : Device) (sources : List Path) (output : Path) (t : Time) : Action Time := do
  let _ ← sources.foldlM (appendSourceOn d output) ByteArray.empty
  d.stamp output t
  return t

/-- A file that has been filled is stamped on a sound device. -/
theorem copyAndStamp_of_filled {output : Path} {sources : List Path} {whole : ByteArray} {filled : Session}
    (hopen : s.Opened output) (hempty : s.nodeAt output = some (.file ByteArray.empty s.now))
    (h : sources.foldlM (appendSourceOn .sound output) ByteArray.empty s = (.ok whole, filled)) :
    ∃ last, copyAndStamp .sound sources output t s = (.ok t, last) ∧ last.nodeAt output = some (.file whole t) := by
  obtain ⟨last, hstamp⟩ := Action.stamp_of_opened (opened_of_appendSources hopen h) t
  have hlast : last.Holds output whole t := Action.holds_of_stamp hstamp (appendSources_written hempty h)
  exact ⟨last, Action.bind_eq_ok_iff.2 ⟨whole, filled, h, Action.bind_eq_ok_iff.2 ⟨(), last, hstamp, rfl⟩⟩,
    hlast.nodeAt⟩

/-- Behind the creation a step fails only by a refusal of the device, and leaves a first part. -/
theorem copyAndStamp_eq_error {output : Path} {sources : List Path} (hopen : s.Opened output)
    (hempty : s.nodeAt output = some (.file ByteArray.empty s.now))
    (hfiles : ∀ src ∈ sources, ∃ bytes t, s.Holds src bytes t)
    (h : copyAndStamp d sources output t s = (.error e, s')) :
    d.BreaksOff e ∧ ∃ part rest last,
      copyAndStamp .sound sources output t s = (.ok t, last) ∧
      last.nodeAt output = some (.file (part ++ rest) t) ∧ s'.nodeAt output = some (.file part s'.now) := by
  unfold copyAndStamp at h
  rw [Action.bind_eq_error_iff] at h
  rcases h with happend | ⟨whole, filled, happend, h⟩
  · obtain ⟨hbreaks, part, rest, filled, hfill, hnode⟩ := appendSources_eq_error hopen hempty hfiles happend
    obtain ⟨last, hrun, hlast⟩ := copyAndStamp_of_filled hopen hempty hfill
    exact ⟨hbreaks, part, rest, last, hrun, hlast, hnode⟩
  rw [Action.bind_eq_error_iff] at h
  rcases h with hstamp | ⟨u, last, -, hpure⟩
  · -- all is there but the time
    obtain ⟨last, hrun, hlast⟩ := copyAndStamp_of_filled hopen hempty (appendSources_follows _ _ _ happend)
    rcases Device.grant_eq_error hstamp with ⟨hrefuses, rfl⟩ | hfailed
    · refine ⟨⟨.stamp output, s', fun _ => nofun, hrefuses⟩, whole, ByteArray.empty, last, hrun, ?_, ?_⟩
      · rwa [ByteArray.append_empty]
      · exact appendSources_written hempty happend
    · exact absurd hfailed (stamp_ne_error (opened_of_appendSources hopen happend))
  · cases hpure

/-- What a step leaves of the file that it makes when it is broken off: a first part of what it makes of it on a
sound device. -/
structure Torn (sound : Action Time) (s s' : Session) (output : Path) : Prop where
  within : s.Within s' {target s.cwd output} (placesAbove s.cwd output)
  part : ∃ part rest t last, sound s = (.ok t, last) ∧ last.nodeAt output = some (.file (part ++ rest) t) ∧
    s'.nodeAt output = some (.file part s'.now)

/-- If none of its sources is a directory, an interface description that fails has not been touched, unless the
device has broken it off. -/
theorem assembleOn_eq_error {template header output : Path}
    (hfiles : ∀ src ∈ [template, header], s.files.isDirectory s.cwd src = false)
    (h : assembleOn d template header output s = (.error e, s')) :
    s.Within s' ∅ (placesAbove s.cwd output) ∨
      d.BreaksOff e ∧ Torn (assemble template header output) s s' output := by
  have hwithin : s.Within s' {target s.cwd output} (placesAbove s.cwd output) := assembleOn_within.of_eq h
  unfold assembleOn at h
  rw [Action.bind_eq_error_iff] at h
  rcases h with hlatest | ⟨t, mid, hlatest, h⟩
  · obtain rfl := (latest_reads _).eq hlatest
    exact .inl (.refl _ _ _)
  obtain rfl := (latest_reads _).eq hlatest
  rw [Action.bind_eq_error_iff] at h
  rcases h with hparent | ⟨⟨⟩, made, hparent, h⟩
  · exact .inl (Action.makeParent_within.of_eq hparent)
  rw [Action.bind_eq_error_iff] at h
  rcases h with hcreate | ⟨⟨⟩, created, hcreate, h⟩
  · obtain rfl := Device.create_eq_error hcreate
    exact .inl (Action.makeParent_within.of_eq hparent)
  replace hcreate := Device.create_eq_ok hcreate
  obtain ⟨hmade, hempty⟩ := Action.write_of_makeParent hparent hcreate
  -- the sources have been found, so they are files, and still are when they are copied
  have hsources : ∀ src ∈ [template, header], ∃ bytes t, mid.Holds src bytes t := by
    intro src hsrc
    obtain ⟨n, hfind⟩ := (latest_eq_ok hlatest).1 src hsrc
    exact holds_of_find hfind (hfiles src hsrc)
  obtain ⟨hbreaks, part, rest, last, hrun, hlast, hnode⟩ := copyAndStamp_eq_error
    (Action.opened_of_write hcreate) hempty (files_stay hmade hsources) h
  refine .inr ⟨hbreaks, hwithin, part, rest, t, last, ?_, hlast, hnode⟩
  exact Action.bind_eq_ok_iff.2 ⟨t, mid, hlatest, Action.bind_eq_ok_iff.2 ⟨(), made, hparent,
    Action.bind_eq_ok_iff.2 ⟨(), created, hcreate, hrun⟩⟩⟩

/-- A finished interface description is a file with the time that is reported. -/
theorem holds_of_assembleOn {template header output : Path}
    (h : assembleOn d template header output s = (.ok t, s')) : ∃ bytes, s'.Holds output bytes t := by
  unfold assembleOn at h
  obtain ⟨t', s₁, -, h⟩ := Action.bind_eq_ok_iff.1 h
  obtain ⟨u₁, s₂, -, h⟩ := Action.bind_eq_ok_iff.1 h
  obtain ⟨u₂, s₃, hcreate, h⟩ := Action.bind_eq_ok_iff.1 h
  obtain ⟨whole, s₄, happend, h⟩ := Action.bind_eq_ok_iff.1 h
  obtain ⟨u₃, s₅, hstamp, h⟩ := Action.bind_eq_ok_iff.1 h
  obtain ⟨rfl, rfl⟩ := Action.pure_eq_ok_iff.1 h
  have hempty := Action.node?_of_write (Device.create_eq_ok hcreate)
  exact ⟨whole, Action.holds_of_stamp (Device.stamp_eq_ok hstamp) (appendSources_written hempty happend)⟩

/-! ### The metadata module -/

/-- What is done of a metadata file when the directories above it are there. -/
def writeAndStamp (d : Device) (output : Path) (bytes : ByteArray) (t : Time) : Action Time := do
  d.write output bytes
  d.stamp output t
  return t

/-- Where something can be written, all is written and stamped on a sound device. -/
theorem writeAndStamp_of_write {output : Path} {part : ByteArray}
    (h : Action.write output part s = (.ok (), s')) (bytes : ByteArray) :
    ∃ last, writeAndStamp .sound output bytes t s = (.ok t, last) ∧
      last.nodeAt output = some (.file bytes t) := by
  obtain ⟨fs, hpart, -⟩ := Action.change_eq_ok_iff.1 h
  have hwrite : Action.write output bytes s = (.ok (), { s with files := _ }) :=
    Action.change_eq_ok_iff.2 ⟨_, write_eq_ok_iff.2 ⟨(write_eq_ok_iff.1 hpart).1, rfl⟩, rfl⟩
  obtain ⟨last, hstamp⟩ := Action.stamp_of_opened (Action.opened_of_write hwrite) t
  have hlast : last.Holds output bytes t := Action.holds_of_stamp hstamp (Action.node?_of_write hwrite)
  exact ⟨last, Action.bind_eq_ok_iff.2 ⟨(), _, hwrite, Action.bind_eq_ok_iff.2 ⟨(), last, hstamp, rfl⟩⟩,
    hlast.nodeAt⟩

/-- A write that fails has done nothing, unless the device has broken it off. -/
theorem writeAndStamp_eq_error {output : Path} (h : writeAndStamp d output bytes t s = (.error e, s')) :
    s' = s ∨ d.BreaksOff e ∧ ∃ part rest last,
      writeAndStamp .sound output bytes t s = (.ok t, last) ∧
      last.nodeAt output = some (.file (part ++ rest) t) ∧ s'.nodeAt output = some (.file part s'.now) := by
  unfold writeAndStamp at h
  rw [Action.bind_eq_error_iff] at h
  rcases h with hwrite | ⟨⟨⟩, written, hwrite, h⟩
  · rcases Device.write_eq_error hwrite with rfl | ⟨hrefuses, part, rest, rfl, hpart⟩
    · exact .inl rfl
    · obtain ⟨last, hrun, hlast⟩ := writeAndStamp_of_write hpart (part ++ rest)
      exact .inr ⟨⟨.fill output, s, fun _ => nofun, hrefuses⟩, part, rest, last, hrun, hlast,
        Action.node?_of_write hpart⟩
  rw [Action.bind_eq_error_iff] at h
  rcases h with hstamp | ⟨u, last, -, hpure⟩
  · -- all is there but the time
    replace hwrite := Device.write_eq_ok hwrite
    obtain ⟨last, hrun, hlast⟩ := writeAndStamp_of_write hwrite bytes
    rcases Device.grant_eq_error hstamp with ⟨hrefuses, rfl⟩ | hfailed
    · refine .inr ⟨⟨.stamp output, s', fun _ => nofun, hrefuses⟩, bytes, ByteArray.empty, last, hrun, ?_, ?_⟩
      · rwa [ByteArray.append_empty]
      · exact Action.node?_of_write hwrite
    · exact absurd hfailed (stamp_ne_error (Action.opened_of_write hwrite))
  · cases hpure

/-- A metadata file that fails has not been touched, unless the device has broken it off. -/
theorem writeMetadataOn_eq_error {m : Metadata.Module} {encode : Encoder} {output : Path}
    {sources : List Path} (h : writeMetadataOn d m encode output sources s = (.error e, s')) :
    s.Within s' ∅ (placesAbove s.cwd output) ∨
      d.BreaksOff e ∧ Torn (writeMetadata m encode output sources) s s' output := by
  have hwithin : s.Within s' {target s.cwd output} (placesAbove s.cwd output) := writeMetadataOn_within.of_eq h
  unfold writeMetadataOn at h
  rw [Action.bind_eq_error_iff] at h
  rcases h with hlatest | ⟨t, mid, hlatest, h⟩
  · obtain rfl := (latest_reads _).eq hlatest
    exact .inl (.refl _ _ _)
  obtain rfl := (latest_reads _).eq hlatest
  rw [Action.bind_eq_error_iff] at h
  rcases h with hencode | ⟨text, mid', hencode, h⟩
  · obtain rfl := (Action.Reads.lift _).eq hencode
    exact .inl (.refl _ _ _)
  obtain rfl := (Action.Reads.lift _).eq hencode
  rw [Action.bind_eq_error_iff] at h
  rcases h with hparent | ⟨⟨⟩, made, hparent, h⟩
  · exact .inl (Action.makeParent_within.of_eq hparent)
  rcases writeAndStamp_eq_error h with rfl | ⟨hbreaks, part, rest, last, hrun, hlast, hnode⟩
  · exact .inl (Action.makeParent_within.of_eq hparent)
  · refine .inr ⟨hbreaks, hwithin, part, rest, t, last, ?_, hlast, hnode⟩
    exact Action.bind_eq_ok_iff.2 ⟨t, mid', hlatest, Action.bind_eq_ok_iff.2 ⟨text, mid', hencode,
      Action.bind_eq_ok_iff.2 ⟨(), made, hparent, hrun⟩⟩⟩

namespace Plan

variable {p : Plan}

/-! ### The steps of a run -/

/-- The step that makes the interface description. -/
def interfaceStepOn (d : Device) (p : Plan) : Action Time :=
  assembleOn d p.templatePath p.headerPath p.interfacePath

/-- The step that writes a compiled module. -/
def metadataStepOn (d : Device) (p : Plan) (m : Metadata.Module) : Action Time :=
  writeMetadataOn d m (Encoder.ofFormat p.config.outputs.format) p.metadataPath p.metadataSources

/-- The first step on a sound device. -/
def interfaceStep (p : Plan) : Action Time := p.interfaceStepOn .sound

/-- The second step on a sound device. -/
def metadataStep (p : Plan) (m : Metadata.Module) : Action Time := p.metadataStepOn .sound m

theorem interfaceStepOn_within :
    (p.interfaceStepOn d).Within cwd {target cwd p.interfacePath} (placesAbove cwd p.interfacePath) :=
  assembleOn_within

theorem interfaceStep_within :
    p.interfaceStep.Within cwd {target cwd p.interfacePath} (placesAbove cwd p.interfacePath) :=
  interfaceStepOn_within

theorem metadataStepOn_within {m : Metadata.Module} :
    (p.metadataStepOn d m).Within cwd {target cwd p.metadataPath} (placesAbove cwd p.metadataPath) :=
  writeMetadataOn_within

theorem emitDirectives_ne_error : p.emitDirectives s ≠ (.error e, s') := by
  unfold emitDirectives
  split
  · nofun
  · nofun

/-- A run that succeeds has gone through its steps. -/
theorem generate_steps {a : Artifacts} (h : p.generate s = (.ok a, s')) :
    ∃ m t mid t' last, p.compile s = (.ok m, s) ∧ p.interfaceStep s = (.ok t, mid) ∧
      p.metadataStep m mid = (.ok t', last) ∧ p.emitDirectives last = (.ok (), s') ∧
      a = ⟨p.interfacePath, t, p.metadataPath, t'⟩ := by
  unfold generate generateOn at h
  obtain ⟨m, s₁, hcompile, h⟩ := Action.bind_eq_ok_iff.1 h
  obtain ⟨t, mid, hinterface, h⟩ := Action.bind_eq_ok_iff.1 h
  obtain ⟨t', last, hmetadata, h⟩ := Action.bind_eq_ok_iff.1 h
  obtain ⟨⟨⟩, s₂, hemit, h⟩ := Action.bind_eq_ok_iff.1 h
  obtain ⟨rfl, rfl⟩ := Action.pure_eq_ok_iff.1 h
  obtain rfl := p.compile_reads.eq hcompile
  exact ⟨m, t, mid, t', last, hcompile, hinterface, hmetadata, hemit, rfl⟩

/-- The metadata file is written last, so it holds the text of the module even where it is the interface
description, or one of the sources, as well. -/
theorem metadata_of_generate {a : Artifacts} (h : p.generate s = (.ok a, s')) :
    ∃ m, (p.compile s).1 = .ok m ∧
      s'.Holds p.metadataPath (p.config.outputs.format.encode m).toUTF8 a.metadataStamp := by
  obtain ⟨m, t, mid, t', last, hcompile, -, hmetadata, hemit, rfl⟩ := generate_steps h
  obtain ⟨text, hencode, -, hholds⟩ := writeMetadataOn_eq_ok hmetadata
  obtain rfl : p.config.outputs.format.encode m = text := Except.ok.inj hencode
  have hlast : last.Within s' ∅ ∅ := emitDirectives_within.of_eq hemit
  exact ⟨m, by rw [hcompile], hholds.within hlast (Set.notMem_empty _)⟩

/-- **What a failed run is.**  It fails before anything is done, in its interface step, or in its metadata
step after the interface step is finished. -/
theorem generateOn_eq_error (h : p.generateOn d s = (.error e, s')) :
    s' = s ∨ p.interfaceStepOn d s = (.error e, s') ∨ ∃ m t mid, p.compile s = (.ok m, s) ∧
      p.interfaceStepOn d s = (.ok t, mid) ∧ p.metadataStepOn d m mid = (.error e, s') := by
  unfold generateOn at h
  rw [Action.bind_eq_error_iff] at h
  rcases h with hcompile | ⟨m, mid, hcompile, h⟩
  · exact .inl (p.compile_reads.eq hcompile)
  obtain rfl := p.compile_reads.eq hcompile
  rw [Action.bind_eq_error_iff] at h
  rcases h with hinterface | ⟨t, mid', hinterface, h⟩
  · exact .inr (.inl hinterface)
  rw [Action.bind_eq_error_iff] at h
  rcases h with hmetadata | ⟨t', mid'', -, h⟩
  · exact .inr (.inr ⟨m, t, mid', hcompile, hinterface, hmetadata⟩)
  -- both files are there, and printing does not fail
  rw [Action.bind_eq_error_iff] at h
  rcases h with hemit | ⟨u, last, hemitted, hpure⟩
  · exact absurd hemit emitDirectives_ne_error
  · cases hpure

/-- What a failed run on a sound device is. -/
theorem generate_eq_error (h : p.generate s = (.error e, s')) :
    s' = s ∨ p.interfaceStep s = (.error e, s') ∨ ∃ m t mid,
      p.interfaceStep s = (.ok t, mid) ∧ p.metadataStep m mid = (.error e, s') := by
  rcases generateOn_eq_error h with hsame | hinterface | ⟨m, t, mid, -, hinterface, hmetadata⟩
  · exact .inl hsame
  · exact .inr (.inl hinterface)
  · exact .inr (.inr ⟨m, t, mid, hinterface, hmetadata⟩)

/-- A step of the run gives the output these bytes and this time when it is finished. -/
def Finishes (p : Plan) (s : Session) (output : Path) (bytes : ByteArray) (t : Time) : Prop :=
  ∃ t' mid, p.interfaceStep s = (.ok t', mid) ∧
    (mid.nodeAt output = some (.file bytes t) ∧ t = t' ∨
      ∃ m last, (p.compile s).1 = .ok m ∧ p.metadataStep m mid = (.ok t, last) ∧
        last.nodeAt output = some (.file bytes t))

/-- After the run the output is what it was before it, or what a finished step makes of it. -/
def LeavesWhole (p : Plan) (s s' : Session) (output : Path) : Prop :=
  s.Keeps s' output ∨ ∃ bytes t, p.Finishes s output bytes t ∧ s'.nodeAt output = some (.file bytes t)

/-- After the run the output has a first part of what a finished step makes of it, and the time of the run. -/
def LeavesPart (p : Plan) (s s' : Session) (output : Path) : Prop :=
  ∃ part rest t, p.Finishes s output (part ++ rest) t ∧ s'.nodeAt output = some (.file part s.now)

/-- No output that is missing is in the place of a directory that the run makes before it comes to the output. -/
def OutputsApart (p : Plan) (s : Session) : Prop :=
  (s.nodeAt p.interfacePath = none → target s.cwd p.interfacePath ∉ placesAbove s.cwd p.interfacePath) ∧
    (s.nodeAt p.metadataPath = none → target s.cwd p.metadataPath ∉ p.placesAboveOutputs s.cwd)

/-- A failed interface step leaves each output whole, unless the device has broken it off. -/
theorem interfaceStepOn_leaves (hfiles : ∀ src ∈ p.interfaceSources, s.files.isDirectory s.cwd src = false)
    (hapart : p.OutputsApart s) (h : p.interfaceStepOn d s = (.error e, s')) :
    ∀ output ∈ [p.interfacePath, p.metadataPath],
      p.LeavesWhole s s' output ∨ d.BreaksOff e ∧ p.LeavesPart s s' output := by
  have habove : ∀ output ∈ [p.interfacePath, p.metadataPath],
      s.nodeAt output = none → target s.cwd output ∉ placesAbove s.cwd p.interfacePath := by
    simp only [List.forall_mem_cons]
    exact ⟨hapart.1, fun hnone hmem => hapart.2 hnone (.inl hmem), List.forall_mem_nil _⟩
  intro output houtput
  rcases assembleOn_eq_error hfiles h with hbefore | ⟨hbreaks, hwithin, part, rest, t, last, hrun, hlast, hnode⟩
  · exact .inl (.inl (hbefore.keeps (Set.notMem_empty _) (habove output houtput)))
  by_cases hplace : target s.cwd output = target s.cwd p.interfacePath
  · have hlast' := interfaceStep_within.of_eq hrun
    refine .inr ⟨hbreaks, part, rest, t, ⟨t, last, hrun, .inl ⟨?_, rfl⟩⟩, ?_⟩
    · rw [Session.nodeAt_respell hlast'.cwd hplace, hlast]
    · rw [Session.nodeAt_respell hwithin.cwd hplace, hnode, hwithin.now]
  · exact .inl (.inl (hwithin.keeps hplace (habove output houtput)))

/-- A failed metadata step leaves each output whole, unless the device has broken it off. -/
theorem metadataStepOn_leaves {m : Metadata.Module} {mid : Session} (hapart : p.OutputsApart s)
    (hcompile : p.compile s = (.ok m, s)) (hinterface : p.interfaceStepOn d s = (.ok t, mid))
    (h : p.metadataStepOn d m mid = (.error e, s')) :
    ∀ output ∈ [p.interfacePath, p.metadataPath],
      p.LeavesWhole s s' output ∨ d.BreaksOff e ∧ p.LeavesPart s s' output := by
  have hfirst := interfaceStepOn_within.of_eq hinterface
  have hsound : p.interfaceStep s = (.ok t, mid) := assembleOn_follows _ _ _ hinterface
  have hsecond := metadataStepOn_within.of_eq h
  rw [hfirst.cwd] at hsecond
  -- the metadata step has left a finished interface description that is in another place
  have hfinished : ∀ {W D output}, mid.Within s' W D → target s.cwd output = target s.cwd p.interfacePath →
      target s.cwd output ∉ W → p.LeavesWhole s s' output := by
    intro W D output hbehind hplace hW
    obtain ⟨bytes, hholds⟩ := holds_of_assembleOn hinterface
    have hfile : mid.nodeAt output = some (.file bytes t) := by
      rw [Session.nodeAt_respell hfirst.cwd hplace, hholds.nodeAt]
    refine .inr ⟨bytes, t, ⟨t, mid, hsound, .inl ⟨hfile, rfl⟩⟩, hbehind.nodeAt_file ?_ hfile⟩
    rwa [hfirst.cwd]
  intro output houtput
  rcases writeMetadataOn_eq_error h with hbefore | ⟨hbreaks, -, part, rest, t', last, hrun, hlast, hnode⟩
  · by_cases hplace : target s.cwd output = target s.cwd p.interfacePath
    · exact .inl (hfinished hbefore hplace (Set.notMem_empty _))
    · rw [hfirst.cwd] at hbefore
      -- the other output is the metadata file
      obtain rfl | hmetadata := List.mem_cons.1 houtput
      · exact absurd rfl hplace
      obtain rfl := List.mem_singleton.1 hmetadata
      have hboth : s.Within s' {target s.cwd p.interfacePath} (p.placesAboveOutputs s.cwd) :=
        (hfirst.mono subset_rfl Set.subset_union_left).trans
          (hbefore.mono (Set.empty_subset _) Set.subset_union_right)
      exact .inl (.inl (hboth.keeps hplace hapart.2))
  · by_cases hplace : target s.cwd output = target s.cwd p.metadataPath
    · have hlast' := metadataStepOn_within.of_eq hrun
      refine .inr ⟨hbreaks, part, rest, t', ⟨t, mid, hsound, .inr ⟨m, last, by rw [hcompile], hrun, ?_⟩⟩, ?_⟩
      · rw [Session.nodeAt_respell (hlast'.cwd.trans hfirst.cwd) hplace, hlast]
      · rw [Session.nodeAt_respell (hsecond.cwd.trans hfirst.cwd) hplace, hnode, hsecond.now, hfirst.now]
    · obtain rfl | hmetadata := List.mem_cons.1 houtput
      · exact .inl (hfinished hsecond rfl hplace)
      · obtain rfl := List.mem_singleton.1 hmetadata
        exact absurd rfl hplace

/-- **No torn output after a failure.**  Where neither the template nor the header is a directory, and no missing
output is in the place of a directory that the run makes before it, a run that fails, wherever it does, leaves each
output as it was or complete.  If the device refuses something as well, an output may be left as a first part of
what it is to be, but only where the device has let the file be created and has then refused to open a source, to
fill the file or to stamp it. -/
theorem generate_leaves_whole
    (hfiles : ∀ src ∈ p.interfaceSources, s.files.isDirectory s.cwd src = false)
    (hapart : p.OutputsApart s) :
    (∀ e s', p.generate s = (.error e, s') →
      ∀ output ∈ [p.interfacePath, p.metadataPath], p.LeavesWhole s s' output) ∧
    ∀ d e s', p.generateOn d s = (.error e, s') →
      ∀ output ∈ [p.interfacePath, p.metadataPath],
        p.LeavesWhole s s' output ∨ d.BreaksOff e ∧ p.LeavesPart s s' output := by
  have hleaves : ∀ d e s', p.generateOn d s = (.error e, s') →
      ∀ output ∈ [p.interfacePath, p.metadataPath],
        p.LeavesWhole s s' output ∨ d.BreaksOff e ∧ p.LeavesPart s s' output := by
    intro d e s' h
    rcases generateOn_eq_error h with rfl | hinterface | ⟨m, t, mid, hcompile, hinterface, hmetadata⟩
    · exact fun output _ => .inl (.inl (.refl _ output))
    · exact interfaceStepOn_leaves hfiles hapart hinterface
    · exact metadataStepOn_leaves hapart hcompile hinterface hmetadata
  refine ⟨fun e s' h output houtput => ?_, hleaves⟩
  exact (hleaves .sound e s' h output houtput).resolve_right fun hpart => Device.not_breaksOff_sound hpart.1

/-! ### Small runs that fail -/

/-- `small` with a further source that is not there. -/
def unwatched : Plan := { small with config.sources.extra := [⟨"missing"⟩] }

/-- The further source is asked for when the interface description is complete. -/
theorem unwatched_generate :
    (unwatched.generate (smallSession ⟨9⟩ [])).1 = .error (.notFound ⟨"missing"⟩) ∧
    (unwatched.generate (smallSession ⟨9⟩ [])).2.fileAt unwatched.interfacePath =
      some ("%module m\nvoid f(void);\n".toUTF8, ⟨5⟩) := by
  decide +kernel

theorem placesAbove_small : ∀ output ∈ [small.interfacePath, small.metadataPath],
    placesAbove [] output = {["out"], []} := by
  have hout : target [] ⟨"./out"⟩ = ["out"] := rfl
  have hdot : target [] ⟨"."⟩ = [] := rfl
  have hroot : target [] ⟨""⟩ = [] := rfl
  have habove : insert ["out"] (placesAbove [] ⟨"./out"⟩) = ({["out"], []} : Set Place) := by
    rw [placesAbove_of_parent (d := ⟨"."⟩) (by decide), placesAbove_of_parent (d := ⟨""⟩) (by decide),
      placesAbove_of_no_parent (by decide), hdot, hroot]
    simp
  simp only [List.forall_mem_cons]
  refine ⟨?_, ?_, List.forall_mem_nil _⟩
  · rw [placesAbove_of_parent (d := ⟨"./out"⟩) (by decide), hout, habove]
  · rw [placesAbove_of_parent (d := ⟨"./out"⟩) (by decide), hout, habove]

theorem small_outputsApart : small.OutputsApart (smallSession ⟨9⟩ []) := by
  have hinterface := placesAbove_small small.interfacePath List.mem_cons_self
  have hmetadata := placesAbove_small small.metadataPath (List.mem_cons_of_mem _ List.mem_cons_self)
  unfold OutputsApart placesAboveOutputs
  rw [show (smallSession ⟨9⟩ []).cwd = [] from rfl, hinterface, hmetadata,
    show target [] small.interfacePath = ["out", "bridge.i"] from rfl,
    show target [] small.metadataPath = ["out", "_info.py"] from rfl]
  simp

/-- A device on which the header of `small` cannot be opened. -/
def lockedHeader : Device where
  refusal? need _ := if need = .openSource small.headerPath then some .permissionDenied else none
  room _ _ := 0

/-- The template is in the place of the interface description when the header is refused. -/
theorem small_generateOn_lockedHeader :
    (small.generateOn lockedHeader (smallSession ⟨9⟩ [])).1 = .error (.io small.headerPath .permissionDenied) ∧
    (small.generateOn lockedHeader (smallSession ⟨9⟩ [])).2.nodeAt small.interfacePath =
      some (.file "%module m\n".toUTF8 ⟨9⟩) := by
  decide +kernel

/-- What is left then is not what the interface step makes. -/
theorem lockedHeader_torn : ¬ small.LeavesWhole (smallSession ⟨9⟩ [])
    (small.generateOn lockedHeader (smallSession ⟨9⟩ [])).2 small.interfacePath := by
  have htorn := small_generateOn_lockedHeader.2
  rintro ((hsame | ⟨hdir, -⟩) | ⟨bytes, t, ⟨t', mid, hstep, hfinished⟩, hnode⟩)
  · rw [htorn] at hsame
    cases hsame
  · exact absurd hdir (by decide)
  · have hmade : (small.interfaceStep (smallSession ⟨9⟩ [])).2.nodeAt small.interfacePath =
        some (.file "%module m\nvoid f(void);\n".toUTF8 ⟨5⟩) := by decide +kernel
    rw [hstep] at hmade
    rw [htorn] at hnode
    obtain ⟨rfl, rfl⟩ := Node.file.inj (Option.some.inj hnode)
    rcases hfinished with ⟨hfile, -⟩ | ⟨m, last, -, hmetadata, hfile⟩
    · rw [hmade] at hfile
      exact absurd hfile (by decide)
    · -- the metadata step does not write there
      have hsecond := metadataStepOn_within.of_eq hmetadata
      rw [hsecond.nodeAt_file ?_ hmade] at hfile
      · exact absurd hfile (by decide)
      · rw [(interfaceStep_within.of_eq hstep).cwd]
        decide

/-- A missing source leaves whole outputs, and a header that cannot be opened a part of the one. -/
theorem unwatched_leaves_whole :
    (∀ output ∈ [unwatched.interfacePath, unwatched.metadataPath],
      unwatched.LeavesWhole (smallSession ⟨9⟩ []) (unwatched.generate (smallSession ⟨9⟩ [])).2 output) ∧
    (unwatched.generate (smallSession ⟨9⟩ [])).2.fileAt unwatched.interfacePath =
      some ("%module m\nvoid f(void);\n".toUTF8, ⟨5⟩) ∧
    lockedHeader.BreaksOff (.io small.headerPath .permissionDenied) ∧
    small.LeavesPart (smallSession ⟨9⟩ []) (small.generateOn lockedHeader (smallSession ⟨9⟩ [])).2
      small.interfacePath := by
  obtain ⟨hfailed, hinterface⟩ := unwatched_generate
  obtain ⟨hwhole, -⟩ := generate_leaves_whole (p := unwatched) (s := smallSession ⟨9⟩ []) (by decide)
    small_outputsApart
  obtain ⟨-, hpart⟩ := generate_leaves_whole (p := small) (s := smallSession ⟨9⟩ []) (by decide)
    small_outputsApart
  have hrefused := hpart lockedHeader _ _ (Action.eq_of_fst small_generateOn_lockedHeader.1)
    small.interfacePath List.mem_cons_self
  exact ⟨hwhole _ _ (Action.eq_of_fst hfailed), hinterface, hrefused.resolve_left lockedHeader_torn⟩

/-- `small` with a header that is a directory. -/
def headless : Plan := { small with config.sources.header := ⟨"include"⟩ }

/-- The sources of `headless`, and an interface description that an older run has left. -/
def headlessSession : Session :=
  smallSession ⟨9⟩ [(["include"], .directory ⟨1⟩), (["out"], .directory ⟨1⟩),
    (["out", "bridge.i"], .file "%module m\nvoid g(void);\n".toUTF8 ⟨2⟩)]

/-- The copy of the template is left in the place of the interface description, and it counts as up to
date.  The same comes of a header that cannot be opened. -/
theorem not_leavesWhole_headless :
    ((headless.generate headlessSession).1 = .error (.io headless.interfacePath .isDirectory) ∧
      ¬ headless.LeavesWhole headlessSession (headless.generate headlessSession).2 headless.interfacePath ∧
      (headless.generate headlessSession).2.fileAt headless.interfacePath =
        some ("%module m\n".toUTF8, ⟨9⟩) ∧
      (headless.status (headless.generate headlessSession).2).1 =
        .ok [(headless.interfacePath, false), (headless.metadataPath, true)]) ∧
    (small.generateOn lockedHeader (smallSession ⟨9⟩ [])).1 =
        .error (.io small.headerPath .permissionDenied) ∧
      ¬ small.LeavesWhole (smallSession ⟨9⟩ []) (small.generateOn lockedHeader (smallSession ⟨9⟩ [])).2
        small.interfacePath ∧
      (small.status (small.generateOn lockedHeader (smallSession ⟨9⟩ [])).2).1 =
        .ok [(small.interfacePath, false), (small.metadataPath, true)] := by
  have htorn : (headless.generate headlessSession).2.nodeAt headless.interfacePath =
      some (.file "%module m\n".toUTF8 ⟨9⟩) := by decide +kernel
  refine ⟨⟨by decide +kernel, ?_, by decide +kernel, by decide +kernel⟩,
    small_generateOn_lockedHeader.1, lockedHeader_torn, by decide +kernel⟩
  rintro ((hsame | ⟨hdir, -⟩) | ⟨bytes, t, ⟨t', mid, hstep, -⟩, -⟩)
  · rw [htorn] at hsame
    exact absurd hsame (by decide)
  · exact absurd hdir (by decide)
  · -- the interface step does not finish
    have hfailed : (headless.interfaceStep headlessSession).1 ≠ .ok t' := by
      rw [show (headless.interfaceStep headlessSession).1 =
        .error (.io headless.interfacePath .isDirectory) by decide +kernel]
      nofun
    exact hfailed (congrArg Prod.fst hstep)

/-- `small` with the metadata file in the place of the directory of the interface description. -/
def nestedOutputs : Plan := { small with config.outputs.metadata := ⟨"../out"⟩ }

/-- The directory that the run has made counts as an up-to-date metadata file. -/
example : (nestedOutputs.generate (smallSession ⟨9⟩ [])).1 = .error (.io nestedOutputs.metadataPath .isDirectory) ∧
    (smallSession ⟨9⟩ []).nodeAt nestedOutputs.metadataPath = none ∧
    (nestedOutputs.generate (smallSession ⟨9⟩ [])).2.nodeAt nestedOutputs.metadataPath = some (.directory ⟨9⟩) ∧
    (nestedOutputs.status (nestedOutputs.generate (smallSession ⟨9⟩ [])).2).1 =
      .ok [(nestedOutputs.interfacePath, false), (nestedOutputs.metadataPath, false)] := by
  decide +kernel

end Plan

end BindingPipeline.Build
