/-
BindingPipeline/Proofs/Session.lean

Actions taken apart.  An action that succeeds did so bind by bind (`Action.bind_eq_ok_iff`).  What an
action can do to a session, whether it succeeds or fails, is bounded twice: `Action.Reads` says that it
does nothing, `Action.Within` that it changes the tree at given places only.  Both are closed under bind,
so the bound of a run is that of its steps.

An action that fails may have done something before.  `Action.Refuses` says that it has not.  A file that
has been written (`Session.Opened`) can be written and stamped again, so that no action fails between the
first and the last step of a file that it makes.
-/
import BindingPipeline.Proofs.FileSystem.Change
import BindingPipeline.Session

namespace BindingPipeline

open FileSystem

/-! ### Sessions -/

/-- One session becomes the other by a change of the tree within bounds: files are written at places in
`W` and directories made at places in `D`. -/
structure Session.Within (s s' : Session) (W D : Set Place) : Prop where
  files : s.files.ChangesOnly s'.files W D
  cwd : s'.cwd = s.cwd
  now : s'.now = s.now

namespace Session.Within

variable {s s' s'' : Session} {W W' D D' : Set Place}

theorem refl (s : Session) (W D : Set Place) : s.Within s W D := ⟨.refl s.files W D, rfl, rfl⟩

theorem mono (h : s.Within s' W D) (hW : W ⊆ W') (hD : D ⊆ D') : s.Within s' W' D' :=
  ⟨h.files.mono hW hD, h.cwd, h.now⟩

theorem trans (h : s.Within s' W D) (h' : s'.Within s'' W D) : s.Within s'' W D :=
  ⟨h.files.trans h'.files, h'.cwd.trans h.cwd, h'.now.trans h.now⟩

end Session.Within

namespace Session

variable {s s' s'' : Session} {p : Path} {bytes bytes' : ByteArray} {t t' : Time} {W D : Set Place}

/-- The path leads to a file with these contents and this time. -/
def Holds (s : Session) (p : Path) (bytes : ByteArray) (t : Time) : Prop :=
  s.files.find s.cwd p = .ok (target s.cwd p, .file bytes t)

/-- The time of what a path leads to. -/
def timeOf (s : Session) (p : Path) : Time := s.files.timeAt (target s.cwd p)

/-- What a path leads to is there from the start, and is no directory in which something is made. -/
def Rests (s s' : Session) (p : Path) : Prop := s.files.Rests s'.files (target s.cwd p)

theorem Holds.node? (h : s.Holds p bytes t) :
    s.files.node? (target s.cwd p) = some (.file bytes t) :=
  (find_eq_ok_iff.1 h).2

theorem Holds.readBytes (h : s.Holds p bytes t) : s.files.readBytes s.cwd p = .ok bytes := by
  have hfind : s.files.find s.cwd p = .ok (target s.cwd p, .file bytes t) := h
  unfold FileSystem.readBytes
  rw [hfind]
  rfl

/-- A file of a text reads as that text. -/
theorem Holds.readText {text : String} (h : s.Holds p text.toUTF8 t) :
    s.files.readText s.cwd p = .ok text := by
  have hdecode : String.fromUTF8? text.toUTF8 = some text := by
    unfold String.fromUTF8?
    exact dif_pos text.isValidUTF8
  unfold FileSystem.readText
  rw [h.readBytes]
  simp only [bind, Except.bind, hdecode]

theorem Holds.place (h : s.Holds p bytes t) : s.files.place s.cwd p = .ok (target s.cwd p) :=
  (find_eq_ok_iff.1 h).1

/-- What is found is held if it is a file. -/
theorem holds_of_node? {n : Node} (hfound : s.files.find s.cwd p = .ok (target s.cwd p, n))
    (hnode : s.files.node? (target s.cwd p) = some (.file bytes t)) : s.Holds p bytes t :=
  find_eq_ok_iff.2 ⟨(find_eq_ok_iff.1 hfound).1, hnode⟩

/-- A path that leads to the same place holds the same. -/
theorem Holds.respell {p' : Path} (h : s.Holds p bytes t) (heq : target s.cwd p' = target s.cwd p)
    (hplace : s.files.place s.cwd p' = .ok (target s.cwd p')) : s.Holds p' bytes t :=
  find_eq_ok_iff.2 ⟨hplace, by rw [heq, h.node?]⟩

theorem Holds.unique (h : s.Holds p bytes t) (h' : s.Holds p bytes' t') : bytes = bytes' ∧ t = t' := by
  have hnode := h.node?.symm.trans h'.node?
  exact Node.file.inj (Option.some.inj hnode)

theorem Holds.timeOf (h : s.Holds p bytes t) : s.timeOf p = t := timeAt_of_node? h.node?

theorem Holds.rests (h : s.Holds p bytes t) : s.Rests s' p := rests_of_file h.node?

/-- A file that may not be written is held afterwards. -/
theorem Holds.within (h : s.Holds p bytes t) (hs : s.Within s' W D) (hp : target s.cwd p ∉ W) :
    s'.Holds p bytes t := by
  unfold Holds
  rw [hs.cwd]
  exact hs.files.find hp h

theorem Within.timeOf_eq (hs : s.Within s' W D) (hp : target s.cwd p ∉ W) (hrests : s.Rests s' p) :
    s'.timeOf p = s.timeOf p := by
  unfold timeOf
  rw [hs.cwd]
  exact hs.files.timeAt_eq hp hrests

theorem Within.rests_left (h' : s'.Within s'' W D) (hrests : s.Rests s'' p) : s.Rests s' p :=
  h'.files.rests_left hrests

/-- A file that is held is still there afterwards, though it may be another one. -/
theorem Holds.stays (h : s.Holds p bytes t) (hs : s.Within s' W D) :
    ∃ bytes' t', s'.Holds p bytes' t' := by
  obtain ⟨bytes', t', hnode⟩ := hs.files.file h.node?
  refine ⟨bytes', t', ?_⟩
  unfold Holds
  rw [hs.cwd]
  exact find_eq_ok_iff.2 ⟨hs.files.place h.place, hnode⟩

/-! ### What is at a place -/

/-- What is at the place that a path names, if anything is. -/
def nodeAt (s : Session) (p : Path) : Option Node := s.files.node? (target s.cwd p)

/-- At the place that a path names there is what there was; a directory may have been modified. -/
def Keeps (s s' : Session) (p : Path) : Prop :=
  s'.nodeAt p = s.nodeAt p ∨ s.files.DirectoryAt (target s.cwd p) ∧ s'.files.DirectoryAt (target s'.cwd p)

theorem Keeps.refl (s : Session) (p : Path) : s.Keeps s p := .inl rfl

/-- What is at a place is kept if no file may be made there, and no directory where nothing is. -/
theorem Within.keeps (hs : s.Within s' W D) (hW : target s.cwd p ∉ W)
    (hD : s.nodeAt p = none → target s.cwd p ∉ D) : s.Keeps s' p := by
  unfold Keeps nodeAt
  rw [hs.cwd]
  rcases hs.files (target s.cwd p) with hsame | ⟨hmem, -⟩ | ⟨hmem, hnone, -⟩ | ⟨⟨hdir, -⟩, hgrown⟩
  · exact .inl hsame
  · exact absurd hmem hW
  · exact absurd hmem (hD hnone)
  · exact .inr ⟨hdir, hgrown⟩

theorem Holds.nodeAt (h : s.Holds p bytes t) : s.nodeAt p = some (.file bytes t) := h.node?

/-- Two paths that name one place in a session do so in every session in its working directory. -/
theorem nodeAt_respell {p' : Path} (hcwd : s'.cwd = s.cwd) (h : target s.cwd p = target s.cwd p') :
    s'.nodeAt p = s'.nodeAt p' := by
  unfold Session.nodeAt
  rw [hcwd, h]

/-- A file that may not be written is where it was. -/
theorem Within.nodeAt_file (hs : s.Within s' W D) (hW : target s.cwd p ∉ W)
    (hfile : s.nodeAt p = some (.file bytes t)) : s'.nodeAt p = some (.file bytes t) := by
  unfold Session.nodeAt
  rw [hs.cwd]
  exact (hs.files.file_iff hW).2 hfile

/-! ### Files at places -/

/-- The file at the place that a path names; a directory is no file. -/
def fileAt (s : Session) (p : Path) : Option (ByteArray × Time) :=
  match s.files.node? (target s.cwd p) with
  | some (.file bytes t) => some (bytes, t)
  | _ => none

theorem Holds.fileAt (h : s.Holds p bytes t) : s.fileAt p = some (bytes, t) := by
  unfold Session.fileAt
  rw [h.node?]

theorem fileAt_respell {p' : Path} (h : target s.cwd p = target s.cwd p') : s.fileAt p = s.fileAt p' := by
  unfold Session.fileAt
  rw [h]

/-- A place at which no file may be written has the same file afterwards, or still none. -/
theorem Within.fileAt_eq (hs : s.Within s' W D) (hp : target s.cwd p ∉ W) :
    s'.fileAt p = s.fileAt p := by
  unfold Session.fileAt
  rw [hs.cwd]
  rcases hs.files (target s.cwd p) with hsame | ⟨hmem, -⟩ | ⟨-, hnone, t, hmade⟩ | ⟨⟨⟨t, hdir⟩, -⟩, t', hgrown⟩
  · rw [hsame]
  · exact absurd hmem hp
  · rw [hnone, hmade]
  · rw [hdir, hgrown]

/-! ### Files that have been written -/

/-- A file is at the path, and one can be written there. -/
structure Opened (s : Session) (p : Path) : Prop where
  writable : s.files.Writable s.cwd p
  file : ∃ bytes t, s.files.node? (target s.cwd p) = some (.file bytes t)

theorem Opened.within (h : s.Opened p) (hs : s.Within s' W D) : s'.Opened p := by
  obtain ⟨bytes, t, hnode⟩ := h.file
  obtain ⟨bytes', t', hnode'⟩ := hs.files.file hnode
  constructor
  · rw [hs.cwd]
    exact h.writable.changed hs.files fun hdir => hdir.ne_file hnode'
  · rw [hs.cwd]
    exact ⟨bytes', t', hnode'⟩

theorem Opened.holds (h : s.Opened p) : ∃ bytes t, s.Holds p bytes t := by
  obtain ⟨bytes, t, hnode⟩ := h.file
  exact ⟨bytes, t, find_eq_ok_iff.2 ⟨h.writable.place, hnode⟩⟩

end Session

namespace Action

variable {α β : Type} {a : Action α} {f : α → Action β} {s s' : Session} {p : Path} {cwd : Place}
  {W W' D D' : Set Place}

/-! ### Success -/

/-- How the outcome of a run on given data is shown: its result is computed, its session is not. -/
theorem eq_of_fst {r : Except Error α} (h : (a s).1 = r) : a s = (r, (a s).2) := by
  subst h
  rfl

/-- How a run on given data is shown to succeed: its result is computed, its session is not. -/
theorem eq_of_toOption {x : α} (h : (a s).1.toOption = some x) : a s = (.ok x, (a s).2) := by
  rcases hrun : a s with ⟨e | y, s'⟩
  · rw [hrun] at h
    cases h
  · rw [hrun] at h
    obtain rfl := Option.some.inj h
    rfl

/-- A sequence succeeds if its steps do. -/
theorem bind_eq_ok_iff {y : β} :
    (a >>= f) s = (.ok y, s') ↔ ∃ x mid, a s = (.ok x, mid) ∧ f x mid = (.ok y, s') :=
  state_bind_eq_ok_iff

theorem pure_eq_ok_iff {x y : α} : (pure x : Action α) s = (.ok y, s') ↔ y = x ∧ s' = s :=
  state_pure_eq_ok_iff

theorem ask_eq_ok_iff {question : Session → Except SystemError α} {x : α} :
    ask p question s = (.ok x, s') ↔ question s = .ok x ∧ s' = s := by
  unfold ask
  cases question s with
  | error e => simp [Id]
  | ok y => simp [Id, eq_comm]

theorem change_eq_ok_iff {g : Session → Except SystemError FileSystem} {u : Unit} :
    change p g s = (.ok u, s') ↔ ∃ fs, g s = .ok fs ∧ s' = { s with files := fs } := by
  unfold change
  cases g s with
  | error e => simp [Id]
  | ok fs => simp [Id, eq_comm]

theorem lift_bind (x : α) : (lift (.ok x) >>= f) = f x := rfl

theorem lift_eq_ok_iff {r : Except Error α} {x : α} :
    lift r s = (.ok x, s') ↔ r = .ok x ∧ s' = s := by
  simp [lift, Id, eq_comm]

/-! ### Failure -/

/-- A sequence fails at its first step or behind it. -/
theorem bind_eq_error_iff {e : Error} :
    (a >>= f) s = (.error e, s') ↔
      a s = (.error e, s') ∨ ∃ x mid, a s = (.ok x, mid) ∧ f x mid = (.error e, s') :=
  state_bind_eq_error_iff

/-- A change that is refused changes nothing. -/
theorem change_eq_error {g : Session → Except SystemError FileSystem} {e : Error}
    (h : change p g s = (.error e, s')) : s' = s ∧ ∃ refusal, g s = .error refusal := by
  unfold change at h
  rcases hg : g s with refusal | fs
  · rw [hg] at h
    cases h
    exact ⟨rfl, refusal, rfl⟩
  · rw [hg] at h
    cases h

/-- A question fails with the refusal that it meets. -/
theorem ask_eq_error_iff {question : Session → Except SystemError α} {e : Error} :
    ask p question s = (.error e, s') ↔ (∃ refusal, question s = .error refusal ∧ e = .onPath p refusal) ∧
      s' = s := by
  unfold ask
  cases question s with
  | error refusal => simp [Id, eq_comm]
  | ok x => simp [Id]

/-- The action fails, and has done nothing. -/
def Refuses (a : Action α) (s : Session) : Prop := ∃ e, a s = (.error e, s)

theorem Refuses.bind (h : a.Refuses s) : (a >>= f).Refuses s := by
  obtain ⟨e, he⟩ := h
  exact ⟨e, bind_eq_error_iff.2 (.inl he)⟩

theorem ask_refuses {question : Session → Except SystemError α} {e : SystemError}
    (h : question s = .error e) : (ask p question).Refuses s :=
  ⟨.onPath p e, by unfold ask; rw [h]⟩

theorem change_refuses {g : Session → Except SystemError FileSystem} {e : SystemError}
    (h : g s = .error e) : (change p g).Refuses s :=
  ⟨.onPath p e, by unfold change; rw [h]⟩

theorem write_refuses {bytes : ByteArray} (h : ¬ s.files.Writable s.cwd p) : (write p bytes).Refuses s := by
  rcases hwrite : s.files.write s.cwd s.now p bytes with e | fs
  · exact change_refuses hwrite
  · exact absurd (write_eq_ok_iff.1 hwrite).1 h

/-! ### Bounds -/

/-- The action leaves every session as it is. -/
def Reads (a : Action α) : Prop := ∀ s, (a s).2 = s

/-- From a session in the working directory, the action changes the tree within the bounds. -/
def Within (a : Action α) (cwd : Place) (W D : Set Place) : Prop :=
  ∀ s : Session, s.cwd = cwd → s.Within (a s).2 W D

theorem Reads.bind (ha : a.Reads) (hf : ∀ x, (f x).Reads) : (a >>= f).Reads := by
  intro s
  refine state_bind_preserves (P := (· = s)) (ha s) ?_
  rintro x mid - rfl
  exact hf x mid

theorem Reads.pure (x : α) : (pure x : Action α).Reads := fun _ => rfl

theorem Reads.lift (r : Except Error α) : (lift r).Reads := fun _ => rfl

theorem Reads.ask (p : Path) (question : Session → Except SystemError α) :
    (ask p question).Reads := by
  intro s
  unfold Action.ask
  cases question s with
  | error e => rfl
  | ok x => rfl

theorem ask_congr {s₁ s₂ : Session} {question : Session → Except SystemError α}
    (h : question s₁ = question s₂) : (ask p question s₁).1 = (ask p question s₂).1 := by
  unfold ask
  rw [h]
  cases question s₂ with
  | error e => rfl
  | ok x => rfl

theorem Reads.foldlM {γ : Type} {g : γ → α → Action γ} (h : ∀ x y, (g x y).Reads) (l : List α) :
    ∀ x, (l.foldlM g x).Reads := by
  induction l with
  | nil => exact fun x => Reads.pure x
  | cons y l ih =>
    intro x
    rw [List.foldlM_cons]
    exact (h x y).bind ih

theorem Reads.throw (e : Error) : (throw e : Action α).Reads := fun _ => rfl

/-- Two runs of reading actions have the same result if the steps have. -/
theorem Reads.bind_congr {s₁ s₂ : Session} (ha : a.Reads) (h : (a s₁).1 = (a s₂).1)
    (hf : ∀ x, (f x s₁).1 = (f x s₂).1) : ((a >>= f) s₁).1 = ((a >>= f) s₂).1 := by
  have hs₁ := ha s₁
  have hs₂ := ha s₂
  rw [state_bind_apply, state_bind_apply]
  rcases h₁ : a s₁ with ⟨r₁, mid₁⟩
  rcases h₂ : a s₂ with ⟨r₂, mid₂⟩
  rw [h₁] at h hs₁
  rw [h₂] at h hs₂
  -- the first action has left both sessions as they were
  obtain rfl : mid₁ = s₁ := hs₁
  obtain rfl : mid₂ = s₂ := hs₂
  obtain rfl : r₁ = r₂ := h
  cases r₁ with
  | error e => rfl
  | ok x => exact hf x

/-- The session after an action that only reads is the one before it. -/
theorem Reads.eq (h : a.Reads) {r : Except Error α} (hr : a s = (r, s')) : s' = s := by
  have hs := h s
  rw [hr] at hs
  exact hs

/-- What comes of an action that only reads is its result. -/
theorem Reads.of_fst (h : a.Reads) {r : Except Error α} (hr : (a s).1 = r) : a s = (r, s) := by
  have hs := h s
  rw [eq_of_fst hr, hs]

/-- An action that reads refuses what it does not do. -/
theorem Reads.refuses (h : a.Reads) (hne : ∀ x, a s ≠ (.ok x, s)) : a.Refuses s := by
  rcases hr : a s with ⟨e | x, s'⟩
  · obtain rfl := h.eq hr
    exact ⟨e, hr⟩
  · obtain rfl := h.eq hr
    exact absurd hr (hne x)

/-- A sequence that begins with reading refuses if what comes behind does. -/
theorem Reads.bind_refuses (h : a.Reads) (hf : ∀ x, a s = (.ok x, s) → (f x).Refuses s) :
    (a >>= f).Refuses s := by
  rcases hr : a s with ⟨e | x, s'⟩
  · obtain rfl := h.eq hr
    exact Refuses.bind ⟨e, hr⟩
  · obtain rfl := h.eq hr
    obtain ⟨e, he⟩ := hf x hr
    exact ⟨e, bind_eq_error_iff.2 (.inr ⟨x, s', hr, he⟩)⟩

theorem Reads.within (h : a.Reads) : a.Within cwd W D := by
  intro s _
  rw [h s]
  exact .refl s W D

theorem Within.mono (h : a.Within cwd W D) (hW : W ⊆ W') (hD : D ⊆ D') : a.Within cwd W' D' :=
  fun s hs => (h s hs).mono hW hD

theorem Within.bind (ha : a.Within cwd W D) (hf : ∀ x, (f x).Within cwd W D) :
    (a >>= f).Within cwd W D := by
  intro s hs
  refine state_bind_preserves (P := (s.Within · W D)) (ha s hs) fun x mid _ hfirst => ?_
  exact hfirst.trans (hf x mid (hfirst.cwd.trans hs))

theorem Within.foldlM {γ : Type} {g : γ → α → Action γ} (h : ∀ x y, (g x y).Within cwd W D)
    (l : List α) : ∀ x, (l.foldlM g x).Within cwd W D := by
  induction l with
  | nil => exact fun x => (Reads.pure x).within
  | cons y l ih =>
    intro x
    rw [List.foldlM_cons]
    exact (h x y).bind ih

theorem Within.mapM {g : α → Action β} {l : List α} (h : ∀ x ∈ l, (g x).Within cwd W D) :
    (l.mapM g).Within cwd W D := by
  induction l with
  | nil =>
    rw [List.mapM_nil]
    exact (Reads.pure []).within
  | cons x l ih =>
    obtain ⟨hx, hl⟩ := List.forall_mem_cons.1 h
    rw [List.mapM_cons]
    exact hx.bind fun y => (ih hl).bind fun ys => (Reads.pure (y :: ys)).within

/-- How the bound of an action is used on a run. -/
theorem Within.of_eq (h : a.Within s.cwd W D) {r : Except Error α} (hr : a s = (r, s')) :
    s.Within s' W D := by
  have hs := h s rfl
  rw [hr] at hs
  exact hs

/-! ### Steps -/

theorem change_within {g : Session → Except SystemError FileSystem}
    (h : ∀ s fs, s.cwd = cwd → g s = .ok fs → s.files.ChangesOnly fs W D) :
    (change p g).Within cwd W D := by
  intro s hs
  unfold change
  rcases hg : g s with e | fs
  · exact .refl s W D
  · exact ⟨h s fs hs hg, rfl, rfl⟩

theorem change_write_within {dest : Path} (bytes : ByteArray) :
    (change p fun s => s.files.write s.cwd s.now dest bytes).Within cwd {target cwd dest} D := by
  refine change_within fun s fs hs h => ?_
  subst hs
  exact (write_eq_ok h).1.mono subset_rfl (Set.empty_subset D)

theorem write_within (bytes : ByteArray) : (write p bytes).Within cwd {target cwd p} D :=
  change_write_within bytes

theorem stamp_within (t : Time) : (stamp p t).Within cwd {target cwd p} D := by
  refine change_within fun s fs hs h => ?_
  subst hs
  exact (setModified_eq_ok h).1.mono subset_rfl (Set.empty_subset D)

/-- A directory is made at its path and above it only. -/
theorem makeDirectories_within (d : Path) :
    (makeDirectories d).Within cwd W (insert (target cwd d) (placesAbove cwd d)) := by
  intro s hs
  subst hs
  -- what has been made before a failure stays, and is within the same bound
  have hchange : s.files.ChangesOnly (s.files.makeDirectories s.cwd s.now d).2 W
      (insert (target s.cwd d) (placesAbove s.cwd d)) :=
    (makeDirectories_changes d).mono (Set.empty_subset W) subset_rfl
  unfold makeDirectories
  rcases hmake : s.files.makeDirectories s.cwd s.now d with ⟨e | ⟨⟩, fs⟩
  · rw [hmake] at hchange
    exact ⟨hchange, rfl, rfl⟩
  · rw [hmake] at hchange
    exact ⟨hchange, rfl, rfl⟩

/-- The directories that an output needs are made above the output only. -/
theorem makeParent_within : (makeParent p).Within cwd W (placesAbove cwd p) := by
  unfold makeParent
  rcases hparent : p.parent? with - | d
  · exact (Reads.pure ()).within
  · rw [placesAbove_of_parent hparent]
    exact makeDirectories_within d

/-- A row of steps that makes a file writes nothing where no file can be written. -/
theorem makeFile_within {bytes : ByteArray} {rest : Unit → Action α}
    (hrest : ∀ u, (rest u).Within cwd {target cwd p} (placesAbove cwd p)) :
    (makeParent p >>= fun _ => write p bytes >>= rest).Within cwd (writablePlaces cwd p)
      (placesAbove cwd p) := by
  apply makeParent_within.bind
  intro _
  by_cases hsome : ∃ fs : FileSystem, fs.Writable cwd p
  · refine ((write_within bytes).bind hrest).mono ?_ subset_rfl
    rintro q rfl
    exact ⟨rfl, hsome⟩
  · intro s hs
    subst hs
    have hrefuses : (write p bytes >>= rest).Refuses s :=
      (write_refuses fun hwritable => hsome ⟨s.files, hwritable⟩).bind
    obtain ⟨e, he⟩ := hrefuses
    rw [he]
    exact .refl s _ _

theorem print_within (t : String) : (print t).Within cwd W D := fun s _ => ⟨.refl s.files W D, rfl, rfl⟩

/-- After a write the bytes are at the place that the path names. -/
theorem node?_of_change_write {dest : Path} {bytes : ByteArray} {u : Unit}
    (h : change p (fun s => s.files.write s.cwd s.now dest bytes) s = (.ok u, s')) :
    s'.files.node? (target s'.cwd dest) = some (.file bytes s'.now) := by
  obtain ⟨fs, hwrite, rfl⟩ := change_eq_ok_iff.1 h
  exact (write_eq_ok hwrite).2

theorem node?_of_write {bytes : ByteArray} {u : Unit} (h : write p bytes s = (.ok u, s')) :
    s'.files.node? (target s'.cwd p) = some (.file bytes s'.now) :=
  node?_of_change_write h

/-- A file that is written after the directories above it. -/
theorem write_of_makeParent {mid : Session} {bytes : ByteArray} {u u' : Unit}
    (hparent : makeParent p s = (.ok u, mid)) (hwrite : write p bytes mid = (.ok u', s')) :
    s.Within s' {target s.cwd p} (placesAbove s.cwd p) ∧
      s'.files.node? (target s'.cwd p) = some (.file bytes s'.now) := by
  have hmade : s.Within mid {target s.cwd p} (placesAbove s.cwd p) :=
    makeParent_within.of_eq hparent
  have hwritten : mid.Within s' {target mid.cwd p} (placesAbove s.cwd p) :=
    (write_within bytes).of_eq hwrite
  rw [hmade.cwd] at hwritten
  exact ⟨hmade.trans hwritten, node?_of_write hwrite⟩

/-- A file that has been written is open. -/
theorem opened_of_change_write {dest : Path} {bytes : ByteArray} {u : Unit}
    (h : change p (fun s => s.files.write s.cwd s.now dest bytes) s = (.ok u, s')) :
    s'.Opened dest := by
  obtain ⟨fs, hwrite, rfl⟩ := change_eq_ok_iff.1 h
  obtain ⟨hchange, hnode⟩ := write_eq_ok hwrite
  exact ⟨(write_eq_ok_iff.1 hwrite).1.changed hchange fun hdir => hdir.ne_file hnode, bytes, s.now, hnode⟩

theorem opened_of_write {bytes : ByteArray} {u : Unit} (h : write p bytes s = (.ok u, s')) :
    s'.Opened p :=
  opened_of_change_write h

theorem write_of_opened (h : s.Opened p) (bytes : ByteArray) : ∃ s', write p bytes s = (.ok (), s') :=
  ⟨_, change_eq_ok_iff.2 ⟨_, write_eq_ok_iff.2 ⟨h.writable, rfl⟩, rfl⟩⟩

theorem stamp_of_opened (h : s.Opened p) (t : Time) : ∃ s', stamp p t s = (.ok (), s') := by
  obtain ⟨bytes, t', hholds⟩ := h.holds
  refine ⟨_, change_eq_ok_iff.2 ⟨s.files.put (target s.cwd p) (.file bytes t), ?_, rfl⟩⟩
  unfold setModified
  rw [show s.files.find s.cwd p = .ok (target s.cwd p, .file bytes t') from hholds]
  rfl

/-- A file that is stamped keeps its bytes and has the time. -/
theorem holds_of_stamp {t t' : Time} {bytes : ByteArray} {u : Unit} (h : stamp p t s = (.ok u, s'))
    (hbytes : s.files.node? (target s.cwd p) = some (.file bytes t')) : s'.Holds p bytes t := by
  obtain ⟨fs, hstamp, rfl⟩ := change_eq_ok_iff.1 h
  obtain ⟨-, bytes', t'', hnode, hfind⟩ := setModified_eq_ok hstamp
  rw [hbytes] at hnode
  obtain ⟨rfl, -⟩ := Node.file.inj (Option.some.inj hnode)
  exact hfind

end Action

end BindingPipeline
