/-
BindingPipeline/Proofs/FileSystem/Change.lean

What a change of a tree leaves alone.  `ChangesOnly` bounds a change by two sets of places: those at
which a file may be written, and those at which a directory may be made.  Everything else is as before,
so a look-up that found a directory, or a file outside the first set, finds it again.

A directory in which something is made is modified by that (`GrowsTo`), and its time is then another one.  Any
other directory that was there keeps its time (`ChangesOnly.timeAt_eq`).

Design.  The two sets are places and not paths, since the same file can be spelled in many ways.  A
single change of the tree gives the smallest bound (`write_changes`, `makeDirectory_changes`), and a
bound for a run is put together from these by `ChangesOnly.trans` and `ChangesOnly.mono`.
-/
import BindingPipeline.Proofs.FileSystem.Place
import Mathlib.Data.Set.Basic
import Mathlib.Logic.Relation

namespace BindingPipeline

/-- One path is above another: some components are taken away from its end, at least one. -/
def Path.IsAbove (d p : Path) : Prop := Relation.TransGen (fun a b => a.parent? = some b) p d

namespace FileSystem

variable {fs fs' fs'' : FileSystem} {cwd q : Place} {p : Path} {now : Time} {W W' D D' : Set Place}

/-! ### Bounded changes -/

/-- Something is made right in the directory at a place. -/
def GrowsTo (fs fs' : FileSystem) (q : Place) : Prop :=
  fs.DirectoryAt q ∧ ∃ r, q = r.dropLast ∧ fs.node? r = none ∧ fs'.node? r ≠ none

/-- The two trees differ at most by files written at places in `W`, where there was no directory, by
directories made at places in `D`, where there was nothing, and by the times of directories in which
something of this has been made. -/
def ChangesOnly (fs fs' : FileSystem) (W D : Set Place) : Prop :=
  ∀ q, fs'.node? q = fs.node? q ∨
    (q ∈ W ∧ ¬ fs.DirectoryAt q ∧ ∃ bytes t, fs'.node? q = some (.file bytes t)) ∨
    (q ∈ D ∧ fs.node? q = none ∧ fs'.DirectoryAt q) ∨
    (fs.GrowsTo fs' q ∧ fs'.DirectoryAt q)

namespace ChangesOnly

theorem refl (fs : FileSystem) (W D : Set Place) : fs.ChangesOnly fs W D := fun _ => .inl rfl

theorem mono (h : fs.ChangesOnly fs' W D) (hW : W ⊆ W') (hD : D ⊆ D') :
    fs.ChangesOnly fs' W' D' := by
  intro q
  rcases h q with hsame | ⟨hq, hwrite⟩ | ⟨hq, hmake⟩ | hgrown
  · exact .inl hsame
  · exact .inr (.inl ⟨hW hq, hwrite⟩)
  · exact .inr (.inr (.inl ⟨hD hq, hmake⟩))
  · exact .inr (.inr (.inr hgrown))

/-- A directory stays a directory. -/
theorem directory (h : fs.ChangesOnly fs' W D) (hq : fs.DirectoryAt q) : fs'.DirectoryAt q := by
  rcases h q with hsame | ⟨-, hfile, -⟩ | ⟨-, -, hmade⟩ | ⟨-, hgrown⟩
  · exact hq.imp fun t ht => hsame.trans ht
  · exact absurd hq hfile
  · exact hmade
  · exact hgrown

/-- A file stays a file, though it may be another one. -/
theorem file (h : fs.ChangesOnly fs' W D) {bytes : ByteArray} {t : Time}
    (hq : fs.node? q = some (.file bytes t)) : ∃ bytes' t', fs'.node? q = some (.file bytes' t') := by
  rcases h q with hsame | ⟨-, -, hwritten⟩ | ⟨-, hnone, -⟩ | ⟨⟨hdir, -⟩, -⟩
  · exact ⟨bytes, t, hsame.trans hq⟩
  · exact hwritten
  · rw [hq] at hnone
    cases hnone
  · exact absurd hq hdir.ne_file

/-- What is there does not go away. -/
theorem ne_none (h : fs.ChangesOnly fs' W D) (hq : fs.node? q ≠ none) : fs'.node? q ≠ none := by
  rcases h q with hsame | ⟨-, -, bytes, t, hwritten⟩ | ⟨-, hnone, -⟩ | ⟨-, hgrown⟩
  · rwa [hsame]
  · rw [hwritten]
    nofun
  · exact absurd hnone hq
  · exact hgrown.ne_none

/-- A file that may not be written stays as it is, and was there before. -/
theorem file_iff (h : fs.ChangesOnly fs' W D) (hq : q ∉ W) {bytes : ByteArray} {t : Time} :
    fs'.node? q = some (.file bytes t) ↔ fs.node? q = some (.file bytes t) := by
  rcases h q with hsame | ⟨hmem, -⟩ | ⟨-, hnone, hmade⟩ | ⟨⟨hdir, -⟩, hgrown⟩
  · rw [hsame]
  · exact absurd hmem hq
  · exact iff_of_false hmade.ne_file (by simp [hnone])
  · exact iff_of_false hgrown.ne_file hdir.ne_file

/-- Where a directory is afterwards and something was before, there was a directory. -/
theorem directoryAt_of_ne_none (h : fs.ChangesOnly fs' W D) (hq : fs.node? q ≠ none)
    (hdir : fs'.DirectoryAt q) : fs.DirectoryAt q := by
  rcases h q with hsame | ⟨-, -, bytes, t, hwritten⟩ | ⟨-, hnone, -⟩ | ⟨⟨hbefore, -⟩, -⟩
  · exact hdir.imp fun t ht => hsame.symm.trans ht
  · exact absurd hwritten hdir.ne_file
  · exact absurd hnone hq
  · exact hbefore

/-- What is made in a directory is one of the things that may be made, and was not there. -/
theorem exists_made (h : fs.ChangesOnly fs' W D) (hq : fs.GrowsTo fs' q) :
    ∃ r ∈ W ∪ D, q = r.dropLast ∧ fs.node? r = none := by
  obtain ⟨-, r, hparent, hnone, hmade⟩ := hq
  refine ⟨r, ?_, hparent, hnone⟩
  rcases h r with hsame | ⟨hW, -⟩ | ⟨hD, -⟩ | ⟨⟨hdir, -⟩, -⟩
  · exact absurd (hsame.trans hnone) hmade
  · exact .inl hW
  · exact .inr hD
  · exact absurd hnone hdir.ne_none

/-- What has been made in a directory is still there later. -/
theorem growsTo (h : fs'.ChangesOnly fs'' W D) (hq : fs.GrowsTo fs' q) : fs.GrowsTo fs'' q := by
  obtain ⟨hdir, r, hparent, hnone, hmade⟩ := hq
  exact ⟨hdir, r, hparent, hnone, h.ne_none hmade⟩

/-- What is made later was missing from the start. -/
theorem growsTo_of_later (h : fs.ChangesOnly fs' W D) (hq : fs'.GrowsTo fs'' q) (hdir : fs.DirectoryAt q) :
    fs.GrowsTo fs'' q := by
  obtain ⟨-, r, hparent, hnone, hmade⟩ := hq
  exact ⟨hdir, r, hparent, not_imp_not.1 h.ne_none hnone, hmade⟩

theorem trans (h : fs.ChangesOnly fs' W D) (h' : fs'.ChangesOnly fs'' W D) :
    fs.ChangesOnly fs'' W D := by
  intro q
  rcases h' q with hsame | ⟨hq, hfile, hwritten⟩ | ⟨hq, hnone, hmade⟩ | ⟨hgrows, hgrown⟩
  · rcases h q with hsame' | ⟨hq, hfile, bytes, t, hwritten⟩ | ⟨hq, hnone, hmade⟩ | ⟨hgrows, hgrown⟩
    · exact .inl (hsame.trans hsame')
    · exact .inr (.inl ⟨hq, hfile, bytes, t, hsame.trans hwritten⟩)
    · exact .inr (.inr (.inl ⟨hq, hnone, h'.directory hmade⟩))
    · exact .inr (.inr (.inr ⟨h'.growsTo hgrows, h'.directory hgrown⟩))
  · -- no directory later, so none at the start: directories stay
    exact .inr (.inl ⟨hq, fun hdir => hfile (h.directory hdir), hwritten⟩)
  · -- what is missing later was missing from the start
    exact .inr (.inr (.inl ⟨hq, not_imp_not.1 h.ne_none hnone, hmade⟩))
  · by_cases hthere : fs.node? q = none
    · -- a directory that has been made, and then something in it
      rcases h q with hsame' | ⟨-, -, bytes, t, hwritten⟩ | ⟨hq, -, -⟩ | ⟨⟨hdir, -⟩, -⟩
      · exact absurd (hsame'.trans hthere) hgrows.1.ne_none
      · exact absurd hwritten hgrows.1.ne_file
      · exact .inr (.inr (.inl ⟨hq, hthere, hgrown⟩))
      · exact absurd hthere hdir.ne_none
    · exact .inr (.inr (.inr
        ⟨h.growsTo_of_later hgrows (h.directoryAt_of_ne_none hthere hgrows.1), hgrown⟩))

/-- A path leads to the same place afterwards. -/
theorem place (h : fs.ChangesOnly fs' W D) (hp : fs.place cwd p = .ok q) :
    fs'.place cwd p = .ok q :=
  place_of_directories (fun _ => h.directory) hp

/-- A file that is found and may not be written is found again. -/
theorem find (h : fs.ChangesOnly fs' W D) (hq : target cwd p ∉ W) {bytes : ByteArray} {t : Time}
    (hp : fs.find cwd p = .ok (q, .file bytes t)) : fs'.find cwd p = .ok (q, .file bytes t) := by
  obtain rfl := eq_target_of_find hp
  obtain ⟨hplace, hnode⟩ := find_eq_ok_iff.1 hp
  exact find_eq_ok_iff.2 ⟨h.place hplace, (h.file_iff hq).2 hnode⟩

end ChangesOnly

/-! ### Times -/

/-- The time of what is at a place; where nothing is, the epoch. -/
def timeAt (fs : FileSystem) (q : Place) : Time := ((fs.node? q).map Node.modified).getD Time.epoch

theorem timeAt_of_node? {n : Node} (h : fs.node? q = some n) : fs.timeAt q = n.modified := by
  unfold timeAt
  rw [h]
  rfl

/-- A look-up of a time succeeds where something is found. -/
theorem modified_eq_ok_iff {t : Time} :
    fs.modified cwd p = .ok t ↔
      (∃ n, fs.find cwd p = .ok (target cwd p, n)) ∧ t = fs.timeAt (target cwd p) := by
  unfold modified
  rw [bind_eq_ok_iff]
  constructor
  · rintro ⟨⟨q, n⟩, hfind, ht⟩
    obtain rfl := eq_target_of_find hfind
    rw [timeAt_of_node? (find_eq_ok_iff.1 hfind).2]
    exact ⟨⟨n, hfind⟩, (Except.ok.inj ht).symm⟩
  · rintro ⟨⟨n, hfind⟩, rfl⟩
    rw [timeAt_of_node? (find_eq_ok_iff.1 hfind).2]
    exact ⟨_, hfind, rfl⟩

/-- What is at the place is there from the start, and is no directory in which something is made. -/
def Rests (fs fs' : FileSystem) (q : Place) : Prop := fs.node? q ≠ none ∧ ¬ fs.GrowsTo fs' q

theorem rests_of_file {bytes : ByteArray} {t : Time} (h : fs.node? q = some (.file bytes t)) :
    fs.Rests fs' q := by
  refine ⟨?_, fun hgrows => hgrows.1.ne_file h⟩
  rw [h]
  nofun

namespace ChangesOnly

/-- A place that may not be written keeps its time, unless it is a directory in which something is made. -/
theorem timeAt_eq (h : fs.ChangesOnly fs' W D) (hq : q ∉ W) (hrests : fs.Rests fs' q) :
    fs'.timeAt q = fs.timeAt q := by
  unfold timeAt
  rcases h q with hsame | ⟨hmem, -⟩ | ⟨-, hnone, -⟩ | ⟨hgrows, -⟩
  · rw [hsame]
  · exact absurd hmem hq
  · exact absurd hnone hrests.1
  · exact absurd hgrows hrests.2

/-- What rests in the whole of two changes does so in the first. -/
theorem rests_left (h' : fs'.ChangesOnly fs'' W D) (hrests : fs.Rests fs'' q) : fs.Rests fs' q :=
  ⟨hrests.1, fun hgrows => hrests.2 (h'.growsTo hgrows)⟩

end ChangesOnly

/-! ### Single changes -/

/-- A file put in the place of a file. -/
theorem put_file_changes {bytes' : ByteArray} {t' : Time} (hq : fs.node? q = some (.file bytes' t'))
    (bytes : ByteArray) (t : Time) : fs.ChangesOnly (fs.put q (.file bytes t)) {q} ∅ := by
  have hroot := ne_root_of_file hq
  intro r
  by_cases hr : r = q
  · subst hr
    exact .inr (.inl ⟨rfl, fun hdir => hdir.ne_file hq, bytes, t, by rw [node?_put hroot, if_pos rfl]⟩)
  · exact .inl (by rw [node?_put hroot, if_neg hr])

/-- What is made modifies the directory right above it, and nothing else. -/
theorem make_elsewhere {n : Node} (hroot : q ≠ []) (hq : fs.node? q = none) {r : Place}
    (hr : r ≠ q) : (fs.make now q n).node? r = fs.node? r ∨
      fs.GrowsTo (fs.make now q n) r ∧ (fs.make now q n).DirectoryAt r := by
  by_cases habove : r = q.dropLast ∧ (fs.node? r).any Node.isDirectory
  · obtain ⟨hparent, hdir⟩ := habove
    refine .inr ⟨⟨directoryAt_iff.2 hdir, q, hparent, hq, ?_⟩, now, ?_⟩
    · rw [node?_make hroot, if_pos rfl]
      nofun
    · rw [node?_make hroot, if_neg hr, if_pos ⟨hparent, hdir⟩]
  · exact .inl (by rw [node?_make hroot, if_neg hr, if_neg habove])

/-- The file is at its place. -/
theorem node?_fill {bytes : ByteArray} (hroot : q ≠ []) :
    (fs.fill now q bytes).node? q = some (.file bytes now) := by
  unfold fill
  split
  · rw [node?_put hroot, if_pos rfl]
  · rw [node?_make hroot, if_pos rfl]

/-- A file written where no directory was. -/
theorem fill_changes (hroot : q ≠ []) (hq : ¬ fs.DirectoryAt q) (bytes : ByteArray) (now : Time) :
    fs.ChangesOnly (fs.fill now q bytes) {q} ∅ := by
  unfold fill
  rcases hnode : fs.node? q with - | ⟨bytes', t'⟩ | t'
  · intro r
    by_cases hr : r = q
    · subst hr
      exact .inr (.inl ⟨rfl, hq, bytes, now, node?_make hroot |>.trans (if_pos rfl)⟩)
    · rcases make_elsewhere hroot hnode hr with hsame | hgrown
      · exact .inl hsame
      · exact .inr (.inr (.inr hgrown))
  · exact put_file_changes hnode bytes now
  · exact absurd ⟨t', hnode⟩ hq

/-- A file can be written at a path that asks for no directory and finds none, if it names a place at
which something can be made. -/
def Writable (fs : FileSystem) (cwd : Place) (p : Path) : Prop :=
  (∃ r, route cwd p = .ok r ∧ r.wantsDirectory = false) ∧
    fs.newPlace cwd p .isDirectory = .ok (target cwd p) ∧
    ¬ fs.DirectoryAt (target cwd p)

/-- A write succeeds exactly where a file can be written, and puts it there. -/
theorem write_eq_ok_iff {bytes : ByteArray} :
    fs.write cwd now p bytes = .ok fs' ↔
      fs.Writable cwd p ∧ fs' = fs.fill now (target cwd p) bytes := by
  unfold write Writable
  rw [bind_eq_ok_iff]
  constructor
  · rintro ⟨r, hr, h⟩
    obtain ⟨q, hq, h⟩ := bind_eq_ok_iff.1 h
    obtain ⟨rfl, -⟩ := newPlace_eq_ok hq
    split at h
    · cases h
    · rename_i hplain
      obtain ⟨hwants, hnode⟩ := not_or.1 (fun hor => hplain (Bool.or_eq_true_iff.2 hor))
      rw [← directoryAt_iff] at hnode
      exact ⟨⟨⟨r, hr, Bool.eq_false_iff.2 hwants⟩, hq, hnode⟩, (Except.ok.inj h).symm⟩
  · rintro ⟨⟨⟨r, hr, hwants⟩, hq, hnode⟩, rfl⟩
    refine ⟨r, hr, bind_eq_ok_iff.2 ⟨_, hq, if_neg ?_⟩⟩
    rw [hwants, Bool.false_or, ← directoryAt_iff]
    exact hnode

/-- What a write does when it succeeds. -/
theorem write_eq_ok {bytes : ByteArray} (h : fs.write cwd now p bytes = .ok fs') :
    fs.ChangesOnly fs' {target cwd p} ∅ ∧
      fs'.node? (target cwd p) = some (.file bytes now) := by
  obtain ⟨⟨-, hq, hnode⟩, rfl⟩ := write_eq_ok_iff.1 h
  have hroot := (newPlace_eq_ok hq).2
  exact ⟨fill_changes hroot hnode bytes now, node?_fill hroot⟩

/-- What can be written can still be written after a change that puts no directory in its place. -/
theorem Writable.changed (h : fs.Writable cwd p) (hc : fs.ChangesOnly fs' W D)
    (hplace : ¬ fs'.DirectoryAt (target cwd p)) : fs'.Writable cwd p := by
  obtain ⟨hroute, hq, -⟩ := h
  obtain ⟨r, hr, hname, hwalk⟩ := newPlace_eq_ok_iff.1 hq
  exact ⟨hroute, newPlace_eq_ok_iff.2 ⟨r, hr, hname, walk_of_directories (fun _ => hc.directory) hwalk⟩,
    hplace⟩

/-- A path that can be written leads to its place. -/
theorem Writable.place (h : fs.Writable cwd p) : fs.place cwd p = .ok (target cwd p) := by
  obtain ⟨⟨r, hr, hwants⟩, hq, -⟩ := h
  obtain ⟨r', hr', -, hwalk⟩ := newPlace_eq_ok_iff.1 hq
  obtain rfl : r' = r := Except.ok.inj (hr'.symm.trans hr)
  refine place_eq_ok_iff.2 ⟨r', hr, ?_⟩
  rwa [hwants, if_neg Bool.false_ne_true, List.append_nil]

/-- The place of a path, if a file can be written through it at all. -/
def writablePlaces (cwd : Place) (p : Path) : Set Place :=
  {q | q = target cwd p ∧ ∃ fs : FileSystem, fs.Writable cwd p}

/-- What a change of the time does when it succeeds: the file was there, and its bytes stay. -/
theorem setModified_eq_ok {t : Time} (h : fs.setModified cwd p t = .ok fs') :
    fs.ChangesOnly fs' {target cwd p} ∅ ∧ ∃ bytes t',
      fs.node? (target cwd p) = some (.file bytes t') ∧
        fs'.find cwd p = .ok (target cwd p, .file bytes t) := by
  unfold setModified at h
  obtain ⟨⟨q, n⟩, hfind, h⟩ := bind_eq_ok_iff.1 h
  obtain rfl := eq_target_of_find hfind
  obtain ⟨hplace, hnode⟩ := find_eq_ok_iff.1 hfind
  cases n with
  | directory t' => cases h
  | file bytes t' =>
    obtain rfl := Except.ok.inj h
    have hchange := put_file_changes hnode bytes t
    refine ⟨hchange, bytes, t', hnode, find_eq_ok_iff.2 ⟨hchange.place hplace, ?_⟩⟩
    rw [node?_put (ne_root_of_file hnode), if_pos rfl]

/-! ### Directories -/

/-- A directory that is made is at its place, where nothing was. -/
theorem makeDirectory_eq_ok (h : fs.makeDirectory cwd now p = .ok fs') :
    fs.newPlace cwd p .alreadyThere = .ok (target cwd p) ∧ fs.node? (target cwd p) = none ∧
      fs' = fs.make now (target cwd p) (.directory now) := by
  unfold makeDirectory at h
  obtain ⟨q, hq, h⟩ := bind_eq_ok_iff.1 h
  obtain ⟨rfl, -⟩ := newPlace_eq_ok hq
  split at h
  · rename_i hnone
    exact ⟨hq, hnone, (Except.ok.inj h).symm⟩
  · cases h

theorem makeDirectory_changes (h : fs.makeDirectory cwd now p = .ok fs') :
    fs.ChangesOnly fs' ∅ {target cwd p} := by
  obtain ⟨hq, hnone, rfl⟩ := makeDirectory_eq_ok h
  have hroot := (newPlace_eq_ok hq).2
  intro r
  by_cases hr : r = target cwd p
  · subst hr
    exact .inr (.inr (.inl ⟨rfl, hnone, now, by rw [node?_make hroot, if_pos rfl]⟩))
  · rcases make_elsewhere hroot hnone hr with hsame | hgrown
    · exact .inl hsame
    · exact .inr (.inr (.inr hgrown))

/-- Directories are made at the paths that are asked for, whether all can be made or not. -/
theorem makeAll_changes (ps : List Path) (fs : FileSystem) :
    fs.ChangesOnly (makeAll cwd now ps fs).2 ∅ {q | ∃ d ∈ ps, q = target cwd d} := by
  induction ps generalizing fs with
  | nil => exact .refl fs _ _
  | cons d ps ih =>
    have hone : ∀ {fs fs' : FileSystem}, fs.makeDirectory cwd now d = .ok fs' →
        fs.ChangesOnly fs' ∅ {q | ∃ e ∈ d :: ps, q = target cwd e} := by
      intro fs fs' h
      refine (makeDirectory_changes h).mono subset_rfl ?_
      rintro q rfl
      exact ⟨d, List.mem_cons_self, rfl⟩
    have hrest : fs.ChangesOnly (makeAll cwd now ps fs).2 ∅ {q | ∃ e ∈ d :: ps, q = target cwd e} :=
      (ih fs).mono subset_rfl fun _ ⟨e, he, hq⟩ => ⟨e, List.mem_cons_of_mem d he, hq⟩
    unfold makeAll
    split
    · exact hone ‹_›
    · -- the directory above is missing, so those behind come first
      rcases hbehind : makeAll cwd now ps fs with ⟨e | ⟨⟩, mid⟩
      · rw [hbehind] at hrest
        exact hrest
      · rw [hbehind] at hrest
        rcases hmake : mid.makeDirectory cwd now d with e | fs'
        · simpa only [hmake] using hrest
        · simpa only [hmake] using hrest.trans (hone hmake)
    · exact .refl fs _ _

/-- The paths that are tried are the path and those above it. -/
theorem mem_ancestors {n : Nat} {d : Path} (h : d ∈ ancestors n p) : d = p ∨ d.IsAbove p := by
  induction n generalizing p with
  | zero => cases h
  | succ n ih =>
    unfold ancestors at h
    split at h
    · cases h
    · rcases List.mem_cons.1 h with rfl | h
      · exact .inl rfl
      · rcases hparent : p.parent? with - | e
        · simp [hparent] at h
        · simp only [hparent] at h
          rcases ih h with rfl | habove
          · exact .inr (.single hparent)
          · exact .inr (.head hparent habove)

/-- The places of the paths above a path. -/
def placesAbove (cwd : Place) (p : Path) : Set Place := {q | ∃ d, d.IsAbove p ∧ q = target cwd d}

/-- The paths above a path are its parent and those above this one. -/
theorem placesAbove_of_parent {d : Path} (hd : p.parent? = some d) :
    placesAbove cwd p = insert (target cwd d) (placesAbove cwd d) := by
  ext q
  constructor
  · rintro ⟨e, habove, rfl⟩
    obtain ⟨d', hd', htail⟩ := Relation.TransGen.head'_iff.1 habove
    obtain rfl : d' = d := Option.some.inj (hd'.symm.trans hd)
    rcases Relation.reflTransGen_iff_eq_or_transGen.1 htail with rfl | habove'
    · exact .inl rfl
    · exact .inr ⟨e, habove', rfl⟩
  · rintro (rfl | ⟨e, habove, rfl⟩)
    · exact ⟨d, .single hd, rfl⟩
    · exact ⟨e, .head hd habove, rfl⟩

theorem placesAbove_of_no_parent (h : p.parent? = none) : placesAbove cwd p = ∅ := by
  refine Set.eq_empty_of_forall_notMem ?_
  rintro q ⟨e, habove, rfl⟩
  obtain ⟨d, hd, -⟩ := Relation.TransGen.head'_iff.1 habove
  rw [h] at hd
  cases hd

/-- Making a directory makes directories at its path and above it only. -/
theorem makeDirectories_changes (d : Path) :
    fs.ChangesOnly (fs.makeDirectories cwd now d).2 ∅ (insert (target cwd d) (placesAbove cwd d)) := by
  refine (makeAll_changes _ fs).mono subset_rfl ?_
  rintro q ⟨e, he, rfl⟩
  rcases mem_ancestors he with rfl | habove
  · exact .inl rfl
  · exact .inr ⟨e, habove, rfl⟩

end FileSystem

end BindingPipeline
