/-
BindingPipeline/Proofs/Build/Staging.lean

What staging comes to.  A target is emptied before its source is read, so a copy is one of the source only
if the two are different files, and copies in a row are copies of what was there at the start only if no
target is a source of a later copy or a target of one.

Design.  `Staging.Stages` describes a row of copies, and `Staging.stages_of_mapM` is the one induction over
the row.  What a copy leaves alone is said by the bound of a single copy, so the copies before it and the
sources behind it come through.

Main results:

* `Staging.stageAll_of_rehearsal`: what is left of staging in a rehearsal.
* `Staging.stageAll_eq_ok`: what staging does, and that the copies have the bytes and times of the artifacts
  if all these files are different.
* `Staging.stageOne_onto_itself`: an artifact that is staged onto itself is emptied.
-/
import BindingPipeline.Build.Staging
import BindingPipeline.Proofs.Build.Timestamp

namespace BindingPipeline.Build

open FileSystem

variable {s s' : Session} {cwd : Place} {W D : Set Place}

/-! ### Copies -/

theorem copyFile_within {source dest : Path} :
    (copyFile source dest).Within cwd {target cwd dest} D :=
  (Action.Reads.ask _ _).within.bind fun _ =>
    (Action.change_write_within _).bind fun _ =>
    (Action.Reads.ask _ _).within.bind fun _ => Action.change_write_within _

/-- What a copy can be made of is a file. -/
theorem holds_of_regular {p : Path} {bytes : ByteArray} (h : (match s.files.find s.cwd p with
    | .ok (_, .file bytes _) => .ok bytes
    | .ok (_, .directory _) => .error .notRegular
    | .error e => .error e : Except SystemError ByteArray) = .ok bytes) : ∃ t, s.Holds p bytes t := by
  rcases hfind : s.files.find s.cwd p with e | ⟨q, ⟨bytes', t⟩ | t⟩
  · rw [hfind] at h
    cases h
  · rw [hfind] at h
    cases h
    obtain rfl := eq_target_of_find hfind
    exact ⟨t, hfind⟩
  · rw [hfind] at h
    cases h

/-- A copy that succeeds: there is a source, the target is emptied, and what the source holds then is written
to it. -/
theorem copyFile_steps {source dest : Path} {u : Unit} (h : copyFile source dest s = (.ok u, s')) :
    (∃ bytes t, s.Holds source bytes t) ∧ ∃ mid contents t, s.Within mid {target s.cwd dest} ∅ ∧
      mid.files.node? (target mid.cwd dest) = some (.file ByteArray.empty mid.now) ∧
      mid.Holds source contents t ∧
      s'.files.node? (target s'.cwd dest) = some (.file contents s'.now) := by
  unfold copyFile at h
  obtain ⟨before, s₁, hfirst, h⟩ := Action.bind_eq_ok_iff.1 h
  obtain ⟨u₁, s₂, hempty, h⟩ := Action.bind_eq_ok_iff.1 h
  obtain ⟨contents, s₃, hread, hwrite⟩ := Action.bind_eq_ok_iff.1 h
  obtain ⟨hbefore, rfl⟩ := Action.ask_eq_ok_iff.1 hfirst
  obtain ⟨hcontents, rfl⟩ := Action.ask_eq_ok_iff.1 hread
  obtain ⟨t, hsource⟩ := holds_of_regular hcontents
  exact ⟨⟨before, holds_of_regular hbefore⟩, s₃, contents, t, (Action.change_write_within _).of_eq hempty,
    Action.node?_of_change_write hempty, hsource, Action.node?_of_change_write hwrite⟩

/-- A copy of another file has its bytes. -/
theorem copyFile_eq_ok {source dest : Path} {bytes : ByteArray} {t : Time} {u : Unit}
    (hapart : target s.cwd source ≠ target s.cwd dest) (hsource : s.Holds source bytes t)
    (h : copyFile source dest s = (.ok u, s')) :
    s'.files.node? (target s'.cwd dest) = some (.file bytes s'.now) := by
  obtain ⟨-, mid, contents, t', hwithin, -, hread, hwritten⟩ := copyFile_steps h
  -- the target has been emptied, but the source is another file
  obtain ⟨rfl, -⟩ := (hsource.within hwithin hapart).unique hread
  exact hwritten

/-- A file copied onto itself is empty before it is read. -/
theorem copyFile_onto_itself {source dest : Path} {u : Unit}
    (hsame : target s.cwd source = target s.cwd dest) (h : copyFile source dest s = (.ok u, s')) :
    s'.files.node? (target s'.cwd dest) = some (.file ByteArray.empty s'.now) := by
  obtain ⟨-, mid, contents, t, hwithin, hempty, hread, hwritten⟩ := copyFile_steps h
  have hnode := hread.node?
  rw [hwithin.cwd, hsame, ← hwithin.cwd, hempty] at hnode
  obtain ⟨rfl, -⟩ := Node.file.inj (Option.some.inj hnode)
  exact hwritten

namespace Staging

variable {st : Staging}

theorem destination_eq_ok_iff {artifact dest : Path} :
    st.destination artifact = .ok dest ↔
      ∃ name, artifact.fileName? = some name ∧ dest = st.directory.join ⟨name⟩ := by
  unfold destination
  rcases artifact.fileName? with - | name
  · simp
  · simp only [Except.ok.injEq, Option.some.injEq, exists_eq_left']
    exact eq_comm

/-! ### Rehearsals -/

/-- A rehearsal asks for the names of the artifacts, and for nothing else. -/
theorem mapM_stageOne_of_rehearsal (hdry : st.isDryRun = true) (artifacts : List Path) :
    artifacts.mapM st.stageOne s = (artifacts.mapM st.destination, s) := by
  have hone : ∀ artifact, st.stageOne artifact s = (st.destination artifact, s) := by
    intro artifact
    unfold stageOne
    rw [hdry]
    cases st.destination artifact with
    | error e => rfl
    | ok dest => rfl
  induction artifacts with
  | nil => rfl
  | cons artifact artifacts ih =>
    rw [List.mapM_cons, List.mapM_cons, state_bind_apply, hone artifact]
    cases st.destination artifact with
    | error e => rfl
    | ok dest =>
      show (artifacts.mapM st.stageOne >>= fun dests => pure (dest :: dests)) s = _
      rw [state_bind_apply, ih]
      cases artifacts.mapM st.destination with
      | error e => rfl
      | ok dests => rfl

theorem stageAll_of_rehearsal (hdry : st.isDryRun = true) :
    st.stageAll s = (st.artifacts.mapM st.destination, s) := by
  unfold stageAll
  rw [hdry]
  exact mapM_stageOne_of_rehearsal hdry st.artifacts

/-! ### Copies of the artifacts -/

/-- One artifact staged for real: it is copied, and the copy is given the time that the artifact had. -/
theorem stageOne_steps {artifact dest : Path} (hreal : st.isDryRun = false)
    (h : st.stageOne artifact s = (.ok dest, s')) :
    st.destination artifact = .ok dest ∧ ∃ mid, copyFile artifact dest s = (.ok (), mid) ∧
      Action.stamp dest (s.timeOf artifact) mid = (.ok (), s') := by
  unfold stageOne at h
  obtain ⟨dest', s₁, hlift, h⟩ := Action.bind_eq_ok_iff.1 h
  rw [hreal, if_neg Bool.false_ne_true] at h
  obtain ⟨t, s₂, htime, h⟩ := Action.bind_eq_ok_iff.1 h
  obtain ⟨⟨⟩, mid, hcopy, h⟩ := Action.bind_eq_ok_iff.1 h
  obtain ⟨⟨⟩, s₄, hstamp, h⟩ := Action.bind_eq_ok_iff.1 h
  obtain ⟨rfl, rfl⟩ := Action.pure_eq_ok_iff.1 h
  obtain ⟨hdest, rfl⟩ := Action.lift_eq_ok_iff.1 hlift
  obtain ⟨⟨-, rfl⟩, rfl⟩ := modified_eq_ok_iff.1 htime
  exact ⟨hdest, mid, hcopy, hstamp⟩

/-- An artifact goes to its destination, nothing else is written, and if the destination is another file,
it is a copy with the same time. -/
theorem stageOne_eq_ok {artifact dest : Path} (hreal : st.isDryRun = false)
    (h : st.stageOne artifact s = (.ok dest, s')) :
    st.destination artifact = .ok dest ∧ s.Within s' {target s.cwd dest} ∅ ∧
      (target s.cwd artifact ≠ target s.cwd dest →
        ∀ bytes t, s.Holds artifact bytes t → s'.Holds dest bytes t) := by
  obtain ⟨hdest, mid, hcopy, hstamp⟩ := stageOne_steps hreal h
  have hfirst : s.Within mid {target s.cwd dest} ∅ := copyFile_within.of_eq hcopy
  have hsecond : mid.Within s' {target mid.cwd dest} ∅ := (Action.stamp_within _).of_eq hstamp
  rw [hfirst.cwd] at hsecond
  refine ⟨hdest, hfirst.trans hsecond, fun hapart bytes t hholds => ?_⟩
  rw [hholds.timeOf] at hstamp
  exact Action.holds_of_stamp hstamp (copyFile_eq_ok hapart hholds hcopy)

/-- What is staged onto itself is emptied, and keeps its time. -/
theorem holds_of_stageOne_onto_itself {artifact dest : Path} {bytes : ByteArray} {t : Time}
    (hreal : st.isDryRun = false) (hsame : target s.cwd artifact = target s.cwd dest)
    (hholds : s.Holds artifact bytes t) (h : st.stageOne artifact s = (.ok dest, s')) :
    s'.Holds dest ByteArray.empty t := by
  obtain ⟨-, mid, hcopy, hstamp⟩ := stageOne_steps hreal h
  rw [hholds.timeOf] at hstamp
  exact Action.holds_of_stamp hstamp (copyFile_onto_itself hsame hcopy)

/-- An artifact that is staged is a file. -/
theorem exists_holds_of_stageOne {artifact dest : Path} (hreal : st.isDryRun = false)
    (h : st.stageOne artifact s = (.ok dest, s')) : ∃ bytes t, s.Holds artifact bytes t := by
  obtain ⟨-, mid, hcopy, -⟩ := stageOne_steps hreal h
  exact (copyFile_steps hcopy).1

/-- What a row of copies comes to: each artifact goes to its destination, and nothing else is written.  If
all destinations are different files, and none is an artifact, then each is a copy with the same time. -/
structure Stages (st : Staging) (s s' : Session) (artifacts dests : List Path) : Prop where
  destinations : List.Forall₂ (fun artifact dest => st.destination artifact = .ok dest) artifacts dests
  within : s.Within s' {q | ∃ dest ∈ dests, q = target s.cwd dest} ∅
  holds : (dests.map (target s.cwd)).Nodup →
    (∀ artifact ∈ artifacts, ∀ dest ∈ dests, target s.cwd artifact ≠ target s.cwd dest) →
    List.Forall₂ (fun artifact dest => ∀ bytes t, s.Holds artifact bytes t → s'.Holds dest bytes t)
      artifacts dests

theorem stages_of_mapM {artifacts dests : List Path} (hreal : st.isDryRun = false)
    (h : artifacts.mapM st.stageOne s = (.ok dests, s')) : st.Stages s s' artifacts dests := by
  induction artifacts generalizing s dests with
  | nil =>
    rw [List.mapM_nil] at h
    obtain ⟨rfl, rfl⟩ := Action.pure_eq_ok_iff.1 h
    exact ⟨.nil, .refl _ _ _, fun _ _ => .nil⟩
  | cons artifact artifacts ih =>
    rw [List.mapM_cons] at h
    obtain ⟨dest, mid, hone, h⟩ := Action.bind_eq_ok_iff.1 h
    obtain ⟨dests', last, hrest, h⟩ := Action.bind_eq_ok_iff.1 h
    obtain ⟨rfl, rfl⟩ := Action.pure_eq_ok_iff.1 h
    obtain ⟨hdest, hfirst, hcopied⟩ := stageOne_eq_ok hreal hone
    have hstages := ih hrest
    have hthen := hstages.within
    rw [hfirst.cwd] at hthen
    constructor
    · exact .cons hdest hstages.destinations
    · refine (hfirst.mono ?_ subset_rfl).trans (hthen.mono ?_ subset_rfl)
      · rintro q rfl
        exact ⟨dest, List.mem_cons_self, rfl⟩
      · rintro q ⟨d, hd, rfl⟩
        exact ⟨d, List.mem_cons_of_mem dest hd, rfl⟩
    · intro hnodup hapart
      obtain ⟨hnew, hnodup⟩ := List.nodup_cons.1 hnodup
      obtain ⟨hhead, htail⟩ := List.forall_mem_cons.1 hapart
      refine .cons (fun bytes t hholds => ?_) ?_
      · -- the first copy is at none of the later destinations
        refine (hcopied (hhead dest List.mem_cons_self) bytes t hholds).within hstages.within ?_
        rintro ⟨d, hd, heq⟩
        rw [hfirst.cwd] at heq
        exact hnew (heq ▸ List.mem_map_of_mem hd)
      · have hlater := hstages.holds (by rwa [hfirst.cwd]) fun a ha d hd => by
          rw [hfirst.cwd]
          exact htail a ha d (List.mem_cons_of_mem dest hd)
        -- what the later artifacts held at the start, they hold behind the first copy
        refine ((List.forall₂_and_left _ _).2 ⟨htail, hlater⟩).imp ?_
        rintro a d ⟨ha, hd⟩ bytes t hholds
        exact hd bytes t (hholds.within hfirst (ha dest List.mem_cons_self))

/-- Staging makes the directory and then copies the artifacts. -/
theorem stageAll_eq_ok {dests : List Path} (hreal : st.isDryRun = false)
    (h : st.stageAll s = (.ok dests, s')) : ∃ mid,
      s.Within mid ∅ (insert (target s.cwd st.directory) (placesAbove s.cwd st.directory)) ∧
        st.Stages mid s' st.artifacts dests := by
  unfold stageAll at h
  rw [hreal] at h
  obtain ⟨u, mid, hmake, h⟩ := Action.bind_eq_ok_iff.1 h
  exact ⟨mid, (Action.makeDirectories_within _).of_eq hmake, stages_of_mapM hreal h⟩

/-- What is reported as staged, for real or in a rehearsal, are the destinations of the artifacts. -/
theorem destinations_of_stageAll {dests : List Path} (h : st.stageAll s = (.ok dests, s')) :
    List.Forall₂ (fun artifact dest => st.destination artifact = .ok dest) st.artifacts dests := by
  cases hdry : st.isDryRun with
  | false =>
    obtain ⟨mid, -, hstages⟩ := stageAll_eq_ok hdry h
    exact hstages.destinations
  | true =>
    rw [stageAll_of_rehearsal hdry] at h
    exact mapM_eq_ok_iff.1 (Prod.mk.inj h).1

end Staging

end BindingPipeline.Build
