/-
BindingPipeline/Proofs/FileSystem/Alike.lean

Two trees that come from one.  Two runs that do the same to one tree at different times leave trees that differ
in times only: a directory that has been made, or in which something has been made, has the time of the run's
own clock, and so has a file that has been written.  Of files there is one at most that differs.

Look-ups ask what kind of thing is at a place, and readings ask for bytes, so neither can tell such trees apart;
a write or a stamp of the one file that differs decides its times anew.  Only a look at the time of a
directory can tell them apart, and only of one that does not rest (`Level.modified`).

Through an absolute path this is so from any two working directories.
-/
import BindingPipeline.Proofs.FileSystem.Directory
import BindingPipeline.Proofs.FileSystem.Spelling
import BindingPipeline.Proofs.FileSystem.Way
import BindingPipeline.Proofs.SideBySide

namespace BindingPipeline

/-- The same thing is at a place, but perhaps with another time. -/
inductive Node.Alike : Node → Node → Prop
  | file (bytes : ByteArray) (t₁ t₂ : Time) : Node.Alike (.file bytes t₁) (.file bytes t₂)
  | directory (t₁ t₂ : Time) : Node.Alike (.directory t₁) (.directory t₂)

theorem Node.Alike.refl (n : Node) : n.Alike n := by
  cases n with
  | file bytes t => exact .file bytes t t
  | directory t => exact .directory t t

namespace FileSystem

variable {fs₁ fs₂ fs₁' : FileSystem} {cwd₁ cwd₂ q r : Place} {p p₁ p₂ : Path} {t₁ t₂ u₁ u₂ : Time}

/-- Changes within bounds are changes. -/
theorem ChangesOnly.anywhere {W D : Set Place} (h : fs₁.ChangesOnly fs₂ W D) :
    fs₁.ChangesOnly fs₂ Set.univ Set.univ :=
  h.mono (Set.subset_univ W) (Set.subset_univ D)

/-! ### The two trees -/

/-- Where two runs begin: with one tree, and at two times. -/
structure Origin where
  files : FileSystem
  now₁ : Time
  now₂ : Time

namespace Origin

variable {o : Origin}

/-- The two trees have the same at the place, or a directory that does not rest, each with the time of its run. -/
def LevelAt (o : Origin) (fs₁ fs₂ : FileSystem) (r : Place) : Prop :=
  fs₂.node? r = fs₁.node? r ∨
    ¬ o.files.Rests fs₁ r ∧ fs₁.node? r = some (.directory o.now₁) ∧ fs₂.node? r = some (.directory o.now₂)

/-- The two trees have the same at every place, but for the times of directories that do not rest. -/
def Level (o : Origin) (fs₁ fs₂ : FileSystem) : Prop := ∀ r, o.LevelAt fs₁ fs₂ r

/-- So it is everywhere else, but of the file at `q` the times may be these. -/
def AlikeBut (o : Origin) (q : Place) (t₁ t₂ : Time) (fs₁ fs₂ : FileSystem) : Prop :=
  ∀ r, o.LevelAt fs₁ fs₂ r ∨
    r = q ∧ ∃ bytes, fs₁.node? r = some (.file bytes t₁) ∧ fs₂.node? r = some (.file bytes t₂)

theorem Level.alikeBut (h : o.Level fs₁ fs₂) : o.AlikeBut q t₁ t₂ fs₁ fs₂ := fun r => .inl (h r)

/-- Runs that began at one time leave the same. -/
theorem Level.same (h : o.Level fs₁ fs₂) (hnow : o.now₁ = o.now₂) : fs₁.Same fs₂ := by
  intro r
  rcases h r with hsame | ⟨-, hdir₁, hdir₂⟩
  · exact hsame
  · rw [hdir₁, hdir₂, hnow]

theorem LevelAt.kind?_eq (h : o.LevelAt fs₁ fs₂ r) : fs₂.kind? r = fs₁.kind? r := by
  unfold kind?
  rcases h with hsame | ⟨-, hdir₁, hdir₂⟩
  · rw [hsame]
  · rw [hdir₁, hdir₂]
    rfl

/-- A later tree that still has all that was there is as far from the first one. -/
theorem LevelAt.later {fs₂' : FileSystem} (h : o.LevelAt fs₁ fs₂ r)
    (hstays : ∀ q, fs₁.node? q ≠ none → fs₁'.node? q ≠ none) (h₁ : fs₁'.node? r = fs₁.node? r)
    (h₂ : fs₂'.node? r = fs₂.node? r) : o.LevelAt fs₁' fs₂' r := by
  rcases h with hsame | ⟨hstirred, hdir₁, hdir₂⟩
  · exact .inl (h₂.trans (hsame.trans h₁.symm))
  · refine .inr ⟨fun hrests => hstirred ⟨hrests.1, fun hgrows => hrests.2 ?_⟩, h₁.trans hdir₁, h₂.trans hdir₂⟩
    obtain ⟨hdir, q, hparent, hnone, hmade⟩ := hgrows
    exact ⟨hdir, q, hparent, hnone, hstays q hmade⟩

namespace AlikeBut

theorem kind?_eq (h : o.AlikeBut q t₁ t₂ fs₁ fs₂) (r : Place) : fs₂.kind? r = fs₁.kind? r := by
  rcases h r with hlevel | ⟨-, bytes, hfile₁, hfile₂⟩
  · exact hlevel.kind?_eq
  · unfold kind?
    rw [hfile₁, hfile₂]
    rfl

theorem node?_eq_none_iff (h : o.AlikeBut q t₁ t₂ fs₁ fs₂) (r : Place) :
    fs₂.node? r = none ↔ fs₁.node? r = none := by
  rw [← kind?_eq_none_iff, ← kind?_eq_none_iff, h.kind?_eq r]

theorem isDirectory_eq (h : o.AlikeBut q t₁ t₂ fs₁ fs₂) (r : Place) :
    (fs₂.node? r).any Node.isDirectory = (fs₁.node? r).any Node.isDirectory := by
  rcases h r with (hsame | ⟨-, hdir₁, hdir₂⟩) | ⟨-, bytes, hfile₁, hfile₂⟩
  · rw [hsame]
  · rw [hdir₁, hdir₂]
    rfl
  · rw [hfile₁, hfile₂]
    rfl

/-- A file that is put in the place decides the times. -/
theorem put (h : o.AlikeBut q t₁ t₂ fs₁ fs₂) (hroot : q ≠ []) (bytes : ByteArray) (u₁ u₂ : Time) :
    o.AlikeBut q u₁ u₂ (fs₁.put q (.file bytes u₁)) (fs₂.put q (.file bytes u₂)) := by
  intro r
  by_cases hr : r = q
  · refine .inr ⟨hr, bytes, ?_, ?_⟩
    · rw [node?_put hroot, if_pos hr]
    · rw [node?_put hroot, if_pos hr]
  · refine .inl (((h r).resolve_right fun hdiffers => hr hdiffers.1).later (fun r' hr' => ?_) ?_ ?_)
    · rw [node?_put hroot]
      split
      · nofun
      · exact hr'
    · rw [node?_put hroot, if_neg hr]
    · rw [node?_put hroot, if_neg hr]

/-- What both runs make stirs the directory right above it, in each run at its own time. -/
theorem make_elsewhere {n₁ n₂ : Node} (h : o.AlikeBut q t₁ t₂ fs₁ fs₂)
    (hstart : o.files.ChangesOnly fs₁ Set.univ Set.univ) (hroot : q ≠ []) (hnone : fs₁.node? q = none)
    (hr : r ≠ q) : o.LevelAt (fs₁.make o.now₁ q n₁) (fs₂.make o.now₂ q n₂) r := by
  have hmissing : o.files.node? q = none := not_imp_not.1 hstart.ne_none hnone
  have hmade : (fs₁.make o.now₁ q n₁).node? q ≠ none := by
    rw [node?_make hroot, if_pos rfl]
    nofun
  by_cases habove : r = q.dropLast ∧ (fs₁.node? r).any Node.isDirectory
  · refine .inr ⟨fun hrests => hrests.2 ⟨?_, q, habove.1, hmissing, hmade⟩, ?_, ?_⟩
    · exact hstart.directoryAt_of_ne_none hrests.1 (directoryAt_iff.2 habove.2)
    · rw [node?_make hroot, if_neg hr, if_pos habove]
    · rw [node?_make hroot, if_neg hr, if_pos ⟨habove.1, (h.isDirectory_eq r).trans habove.2⟩]
  · refine ((h r).resolve_right fun hdiffers => hr hdiffers.1).later (fun r' hr' => ?_) ?_ ?_
    · rw [node?_make hroot]
      split
      · nofun
      · split
        · nofun
        · exact hr'
    · rw [node?_make hroot, if_neg hr, if_neg habove]
    · rw [node?_make hroot, if_neg hr, if_neg fun both => habove ⟨both.1, (h.isDirectory_eq r).symm.trans both.2⟩]

/-- A file that both runs write in the place has the times of the runs. -/
theorem fill (h : o.AlikeBut q t₁ t₂ fs₁ fs₂) (hstart : o.files.ChangesOnly fs₁ Set.univ Set.univ)
    (hroot : q ≠ []) (bytes : ByteArray) :
    o.AlikeBut q o.now₁ o.now₂ (fs₁.fill o.now₁ q bytes) (fs₂.fill o.now₂ q bytes) := by
  unfold FileSystem.fill
  by_cases hnone : fs₁.node? q = none
  · have hnone₂ := (h.node?_eq_none_iff q).2 hnone
    rw [if_neg (by simp [hnone]), if_neg (by simp [hnone₂])]
    intro r
    by_cases hr : r = q
    · refine .inr ⟨hr, bytes, ?_, ?_⟩
      · rw [node?_make hroot, if_pos hr]
      · rw [node?_make hroot, if_pos hr]
    · exact .inl (h.make_elsewhere hstart hroot hnone hr)
  · have hthere₂ := mt (h.node?_eq_none_iff q).1 hnone
    rw [if_pos (Option.isSome_iff_ne_none.2 hnone), if_pos (Option.isSome_iff_ne_none.2 hthere₂)]
    exact h.put hroot bytes o.now₁ o.now₂

end AlikeBut

end Origin

/-! ### Places -/

theorem newPlace_eq_of_kind (h : ∀ r, fs₂.kind? r = fs₁.kind? r) (p : Path) (special : SystemError) :
    fs₂.newPlace cwd₁ p special = fs₁.newPlace cwd₁ p special := by
  unfold newPlace
  have hwalk : ∀ here names, fs₂.walk here names = fs₁.walk here names := fun here names =>
    walk_eq_of_kind fun r _ => h r
  have hstep : ∀ here name, fs₂.step here name = fs₁.step here name := fun here name => step_eq_of_kind (h here)
  simp only [hwalk, hstep]

theorem target_of_isAbsolute (h : p.isAbsolute = true) : target cwd₁ p = target cwd₂ p := by
  unfold target
  simp only [h, if_true]

theorem newPlace_of_isAbsolute {fs : FileSystem} (h : p.isAbsolute = true) (special : SystemError) :
    fs.newPlace cwd₁ p special = fs.newPlace cwd₂ p special := by
  unfold newPlace
  rw [route_of_isAbsolute h]

namespace Origin

variable {o : Origin}

/-- What two paths of one way lead to. -/
theorem AlikeBut.find (h : o.AlikeBut q t₁ t₂ fs₁ fs₂)
    (hway : ∀ r, fs₁.place cwd₁ p₁ = .ok r ↔ fs₁.place cwd₂ p₂ = .ok r) :
    Together (fun x y => x.1 = y.1 ∧ x.2.Alike y.2) (fs₁.find cwd₁ p₁) (fs₂.find cwd₂ p₂) := by
  unfold FileSystem.find
  rw [place_eq_of_kind fun r _ => h.kind?_eq r]
  refine (Together.of_iff hway).bind ?_
  rintro r _ rfl
  rcases h r with (hsame | ⟨-, hdir₁, hdir₂⟩) | ⟨-, bytes, hfile₁, hfile₂⟩
  · rw [hsame]
    cases fs₁.node? r with
    | none => exact .error _ _
    | some n => exact .ok ⟨rfl, Node.Alike.refl n⟩
  · rw [hdir₁, hdir₂]
    exact .ok ⟨rfl, .directory _ _⟩
  · rw [hfile₁, hfile₂]
    exact .ok ⟨rfl, .file bytes t₁ t₂⟩

/-- Both runs see one time, unless they look at a directory that does not rest; then each sees its own. -/
theorem Level.modified (h : o.Level fs₁ fs₂)
    (hway : ∀ r, fs₁.place cwd₁ p₁ = .ok r ↔ fs₁.place cwd₂ p₂ = .ok r) :
    Together (fun t₁ t₂ => t₁ = t₂ ∨ (fs₁.isDirectory cwd₁ p₁ = true ∧ ¬ o.files.Rests fs₁ (target cwd₁ p₁)) ∧
      t₁ = o.now₁ ∧ t₂ = o.now₂) (fs₁.modified cwd₁ p₁) (fs₂.modified cwd₂ p₂) := by
  have hlevel : o.AlikeBut [] o.now₁ o.now₂ fs₁ fs₂ := h.alikeBut
  unfold FileSystem.modified
  rcases (hlevel.find hway).both with ⟨e, e', hfind₁, hfind₂⟩ | ⟨⟨r, n₁⟩, ⟨r', n₂⟩, hfind₁, hfind₂, heq, -⟩
  · rw [hfind₁, hfind₂]
    exact .error e e'
  · rw [hfind₁, hfind₂]
    obtain rfl : r = r' := heq
    obtain ⟨hplace, hnode₁⟩ := find_eq_ok_iff.1 hfind₁
    obtain ⟨-, hnode₂⟩ := find_eq_ok_iff.1 hfind₂
    obtain rfl := eq_target_of_place hplace
    refine .ok ?_
    rcases h (target cwd₁ p₁) with hsame | ⟨hstirred, hdir₁, hdir₂⟩
    · rw [hnode₁, hnode₂] at hsame
      exact .inl (congrArg Node.modified (Option.some.inj hsame).symm)
    · refine .inr ⟨⟨isDirectory_iff.2 ⟨hplace, _, hdir₁⟩, hstirred⟩, ?_, ?_⟩
      · rw [Option.some.inj (hnode₁.symm.trans hdir₁)]
        rfl
      · rw [Option.some.inj (hnode₂.symm.trans hdir₂)]
        rfl

theorem AlikeBut.readText (h : o.AlikeBut q t₁ t₂ fs₁ fs₂)
    (hway : ∀ r, fs₁.place cwd₁ p₁ = .ok r ↔ fs₁.place cwd₂ p₂ = .ok r) :
    Together Eq (fs₁.readText cwd₁ p₁) (fs₂.readText cwd₂ p₂) := by
  have hbytes : Together Eq (fs₁.readBytes cwd₁ p₁) (fs₂.readBytes cwd₂ p₂) := by
    refine (h.find hway).bind ?_
    rintro ⟨r, n₁⟩ ⟨r', n₂⟩ ⟨-, halike⟩
    cases halike with
    | file bytes t₁ t₂ => exact .ok rfl
    | directory t₁ t₂ => exact .error _ _
  refine hbytes.bind ?_
  rintro bytes _ rfl
  exact Together.refl _

/-! ### Files -/

theorem AlikeBut.write (h : o.AlikeBut q t₁ t₂ fs₁ fs₂) (hstart : o.files.ChangesOnly fs₁ Set.univ Set.univ)
    (habsolute : p.isAbsolute = true) (hq : target cwd₁ p = q) (bytes : ByteArray) :
    Together (o.AlikeBut q o.now₁ o.now₂) (fs₁.write cwd₁ o.now₁ p bytes) (fs₂.write cwd₂ o.now₂ p bytes) := by
  subst hq
  unfold FileSystem.write
  rw [route_of_isAbsolute habsolute, newPlace_of_isAbsolute habsolute, newPlace_eq_of_kind h.kind?_eq]
  refine (Together.refl _).bind ?_
  rintro r _ rfl
  rcases hnew : fs₁.newPlace cwd₂ p .isDirectory with e | place
  · exact .error e e
  · obtain ⟨rfl, hroot⟩ := newPlace_eq_ok hnew
    have htarget : target cwd₁ p = target cwd₂ p := target_of_isAbsolute habsolute
    rw [htarget] at h ⊢
    show Together _ (if _ then _ else _) (if _ then _ else _)
    rw [h.isDirectory_eq]
    split
    · exact .error _ _
    · exact .ok (h.fill hstart hroot bytes)

theorem AlikeBut.setModified (h : o.AlikeBut q t₁ t₂ fs₁ fs₂) (habsolute : p.isAbsolute = true)
    (hq : target cwd₁ p = q) (u₁ u₂ : Time) :
    Together (o.AlikeBut q u₁ u₂) (fs₁.setModified cwd₁ p u₁) (fs₂.setModified cwd₂ p u₂) := by
  subst hq
  unfold FileSystem.setModified
  have hway : ∀ r, fs₁.place cwd₁ p = .ok r ↔ fs₁.place cwd₂ p = .ok r := fun r => by
    rw [place_of_isAbsolute habsolute]
  rcases (h.find hway).both with ⟨e, e', hfind₁, hfind₂⟩ | ⟨⟨r, n₁⟩, ⟨r', n₂⟩, hfind₁, hfind₂, heq, halike⟩
  · rw [hfind₁, hfind₂]
    exact .error e e'
  · rw [hfind₁, hfind₂]
    obtain rfl := eq_target_of_find hfind₁
    obtain rfl : target cwd₁ p = r' := heq
    cases halike with
    | directory t t' => exact .error _ _
    | file bytes t t' => exact .ok (h.put (ne_root_of_file (find_eq_ok_iff.1 hfind₁).2) bytes u₁ u₂)

/-! ### Directories -/

theorem Level.makeDirectory (cwd₁ cwd₂ : Place) (h : o.Level fs₁ fs₂)
    (hstart : o.files.ChangesOnly fs₁ Set.univ Set.univ) (habsolute : p.isAbsolute = true) :
    (∃ e, fs₁.makeDirectory cwd₁ o.now₁ p = .error e ∧ fs₂.makeDirectory cwd₂ o.now₂ p = .error e) ∨
      ∃ fs₁' fs₂', fs₁.makeDirectory cwd₁ o.now₁ p = .ok fs₁' ∧ fs₂.makeDirectory cwd₂ o.now₂ p = .ok fs₂' ∧
        o.Level fs₁' fs₂' := by
  have hkind : ∀ r, fs₂.kind? r = fs₁.kind? r := fun r => (h r).kind?_eq
  unfold FileSystem.makeDirectory
  have hplace : fs₂.newPlace cwd₂ p .alreadyThere = fs₁.newPlace cwd₁ p .alreadyThere :=
    (newPlace_eq_of_kind hkind p .alreadyThere).trans (newPlace_of_isAbsolute habsolute .alreadyThere)
  rw [hplace]
  rcases hnew : fs₁.newPlace cwd₁ p .alreadyThere with e | q
  · exact .inl ⟨e, rfl, rfl⟩
  · have hroot := (newPlace_eq_ok hnew).2
    have halike : o.AlikeBut q o.now₁ o.now₂ fs₁ fs₂ := h.alikeBut
    simp only [bind, Except.bind]
    rcases hnode₁ : fs₁.node? q with - | n₁
    · rw [(halike.node?_eq_none_iff q).2 hnode₁]
      refine .inr ⟨_, _, rfl, rfl, fun r => ?_⟩
      by_cases hr : r = q
      · -- the new directory was not there at the start
        subst hr
        refine .inr ⟨fun hrests => hrests.1 (not_imp_not.1 hstart.ne_none hnode₁), ?_, ?_⟩
        · rw [node?_make hroot, if_pos rfl]
        · rw [node?_make hroot, if_pos rfl]
      · exact halike.make_elsewhere hstart hroot hnode₁ hr
    · rcases hnode₂ : fs₂.node? q with - | n₂
      · rw [(halike.node?_eq_none_iff q).1 hnode₂] at hnode₁
        cases hnode₁
      · exact .inl ⟨.alreadyThere, rfl, rfl⟩

theorem Level.isDirectory (cwd₁ cwd₂ : Place) (h : o.Level fs₁ fs₂) (habsolute : p.isAbsolute = true) :
    fs₁.isDirectory cwd₁ p = fs₂.isDirectory cwd₂ p := by
  have halike : o.AlikeBut [] o.now₁ o.now₂ fs₁ fs₂ := h.alikeBut
  have hway : ∀ r, fs₁.place cwd₁ p = .ok r ↔ fs₁.place cwd₂ p = .ok r := fun r => by
    rw [place_of_isAbsolute habsolute]
  unfold FileSystem.isDirectory
  rcases (halike.find hway).both with ⟨e, e', hfind₁, hfind₂⟩ | ⟨⟨r, n₁⟩, ⟨r', n₂⟩, hfind₁, hfind₂, -, hnodes⟩
  · rw [hfind₁, hfind₂]
  · rw [hfind₁, hfind₂]
    cases hnodes with
    | file bytes t₁ t₂ => rfl
    | directory t₁ t₂ => rfl

/-- Attempts to make directories go the same way in trees that are level. -/
theorem Level.makeAll (cwd₁ cwd₂ : Place) {ps : List Path} (h : o.Level fs₁ fs₂)
    (hstart : o.files.ChangesOnly fs₁ Set.univ Set.univ) (habsolute : ∀ d ∈ ps, d.isAbsolute = true) :
    (makeAll cwd₁ o.now₁ ps fs₁).1 = (makeAll cwd₂ o.now₂ ps fs₂).1 ∧
      o.Level (makeAll cwd₁ o.now₁ ps fs₁).2 (makeAll cwd₂ o.now₂ ps fs₂).2 := by
  induction ps generalizing fs₁ fs₂ with
  | nil => exact ⟨rfl, h⟩
  | cons d ps ih =>
    obtain ⟨hd, hps⟩ := List.forall_mem_cons.1 habsolute
    unfold FileSystem.makeAll
    rcases h.makeDirectory cwd₁ cwd₂ hstart hd with ⟨e, he₁, he₂⟩ | ⟨fs₁', fs₂', hok₁, hok₂, hlevel⟩
    · rw [he₁, he₂]
      by_cases hmissing : e = .notFound
      · subst hmissing
        obtain ⟨hresult, hlevel⟩ := ih h hstart hps
        have hbehind : o.files.ChangesOnly (FileSystem.makeAll cwd₁ o.now₁ ps fs₁).2 Set.univ Set.univ :=
          hstart.trans (makeAll_changes ps fs₁).anywhere
        rcases hbehind₁ : FileSystem.makeAll cwd₁ o.now₁ ps fs₁ with ⟨r₁, mid₁⟩
        rcases hbehind₂ : FileSystem.makeAll cwd₂ o.now₂ ps fs₂ with ⟨r₂, mid₂⟩
        rw [hbehind₁, hbehind₂] at hresult hlevel
        rw [hbehind₁] at hbehind
        obtain rfl : r₁ = r₂ := hresult
        cases r₁ with
        | error e => exact ⟨rfl, hlevel⟩
        | ok u =>
          rcases hlevel.makeDirectory cwd₁ cwd₂ hbehind hd with
            ⟨e, he₁, he₂⟩ | ⟨fs₁', fs₂', hok₁, hok₂, hlevel'⟩
          · simp only [he₁, he₂, hlevel.isDirectory cwd₁ cwd₂ hd]
            exact ⟨trivial, hlevel⟩
          · simp only [hok₁, hok₂]
            exact ⟨trivial, hlevel'⟩
      · simp only [h.isDirectory cwd₁ cwd₂ hd]
        exact ⟨trivial, h⟩
    · rw [hok₁, hok₂]
      exact ⟨rfl, hlevel⟩

theorem Level.makeDirectories (cwd₁ cwd₂ : Place) (h : o.Level fs₁ fs₂)
    (hstart : o.files.ChangesOnly fs₁ Set.univ Set.univ) (habsolute : p.isAbsolute = true) :
    (fs₁.makeDirectories cwd₁ o.now₁ p).1 = (fs₂.makeDirectories cwd₂ o.now₂ p).1 ∧
      o.Level (fs₁.makeDirectories cwd₁ o.now₁ p).2 (fs₂.makeDirectories cwd₂ o.now₂ p).2 := by
  refine h.makeAll cwd₁ cwd₂ hstart fun d hd => ?_
  rcases mem_ancestors hd with rfl | habove
  · exact habsolute
  · exact (Path.IsAbove.names_prefix habove).1.trans habsolute

end Origin

end FileSystem

end BindingPipeline
