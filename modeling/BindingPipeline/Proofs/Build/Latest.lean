/-
BindingPipeline/Proofs/Build/Latest.lean

When the latest time of some paths is one of their times.  The look at the paths starts from the epoch, so what
comes of it is the greatest of the times and the epoch.  It is never before any of the times; it is one of
them as long as one is not before the epoch, and if all are, it belongs to none of the paths.

A greatest time is determined by which times there are, so neither the order of the paths nor their repetition
makes a difference (`latest_eq_ok_iff`).  Which failure is reported does depend on the order: it is that of the
first path whose time cannot be read.

Main result: `latest_exact`.
-/
import BindingPipeline.Proofs.Build.Refusal

namespace BindingPipeline

open FileSystem

theorem Time.eq_of_le_of_le {a b : Time} (h : a ≤ b) (h' : b ≤ a) : a = b :=
  Time.ext (Int.le_antisymm h h')

/-- A set of times has at most one greatest time. -/
theorem Time.isGreatest_unique {T : Set Time} {a b : Time} (ha : IsGreatest T a) (hb : IsGreatest T b) : a = b :=
  Time.eq_of_le_of_le (hb.2 ha.1) (ha.2 hb.1)

namespace Session

variable {s : Session} {ps ps' : List Path}

/-- The times that can be read at some paths. -/
def times (s : Session) (ps : List Path) : Set Time :=
  {t | ∃ p ∈ ps, s.files.modified s.cwd p = .ok t}

/-- The time of every path can be read. -/
def Dated (s : Session) (ps : List Path) : Prop :=
  ∀ p ∈ ps, ∃ t, s.files.modified s.cwd p = .ok t

theorem times_congr (h : ∀ p, p ∈ ps ↔ p ∈ ps') : s.times ps = s.times ps' := by
  unfold times
  simp only [h]

theorem dated_congr (h : ∀ p, p ∈ ps ↔ p ∈ ps') : s.Dated ps ↔ s.Dated ps' := by
  unfold Dated
  simp only [h]

/-- Where all times can be read, they are those that a run sees. -/
theorem Dated.mem_times_iff (h : s.Dated ps) {t : Time} : t ∈ s.times ps ↔ t ∈ ps.map s.timeOf := by
  rw [List.mem_map]
  constructor
  · rintro ⟨p, hp, ht⟩
    exact ⟨p, hp, (FileSystem.modified_eq_ok_iff.1 ht).2.symm⟩
  · rintro ⟨p, hp, rfl⟩
    obtain ⟨t, ht⟩ := h p hp
    obtain rfl := (FileSystem.modified_eq_ok_iff.1 ht).2
    exact ⟨p, hp, ht⟩

end Session

namespace Build

variable {s : Session} {ps ps' : List Path} {t : Time}

/-- What comes of the look at some paths is the greatest of their times and the epoch. -/
theorem latest_eq_ok_iff : latest ps s = (.ok t, s) ↔
    s.Dated ps ∧ IsGreatest (insert Time.epoch (s.times ps)) t := by
  have hgreatest : ∀ {t}, latest ps s = (.ok t, s) →
      s.Dated ps ∧ IsGreatest (insert Time.epoch (s.times ps)) t := by
    intro t h
    obtain ⟨hfound, rfl⟩ := latest_eq_ok h
    have hdated : s.Dated ps := fun p hp => ⟨_, FileSystem.modified_eq_ok_iff.2 ⟨hfound p hp, rfl⟩⟩
    have htimes : insert Time.epoch (s.times ps) = {t | t ∈ Time.epoch :: ps.map s.timeOf} := by
      ext u
      rw [Set.mem_insert_iff, hdated.mem_times_iff, Set.mem_ofPred_eq, List.mem_cons]
    rw [htimes]
    exact ⟨hdated, Time.isGreatest_foldl_later _ _⟩
  constructor
  · exact hgreatest
  · rintro ⟨hdated, ht⟩
    obtain ⟨u, hu⟩ := latest_of_readable hdated
    obtain rfl := Time.isGreatest_unique ht (hgreatest hu).2
    exact hu

/-- The greatest of the times and the epoch is the greatest of the times, unless all are before the epoch. -/
theorem isGreatest_times_iff (h : IsGreatest (insert Time.epoch (s.times ps)) t) :
    IsGreatest (s.times ps) t ↔ ∃ u ∈ s.times ps, Time.epoch ≤ u := by
  obtain ⟨hmem, hgreatest⟩ := h
  constructor
  · intro ht
    exact ⟨t, ht.1, hgreatest (Set.mem_insert _ _)⟩
  · rintro ⟨u, hu, hepoch⟩
    refine ⟨?_, fun v hv => hgreatest (Set.mem_insert_of_mem _ hv)⟩
    rcases Set.mem_insert_iff.1 hmem with rfl | hmem
    · -- the time that is not before the epoch is then the epoch
      obtain rfl := Time.eq_of_le_of_le hepoch (hgreatest (Set.mem_insert_of_mem _ hu))
      exact hu
    · exact hmem

theorem eq_epoch_of_before (h : IsGreatest (insert Time.epoch (s.times ps)) t)
    (hbefore : ∀ u ∈ s.times ps, u < Time.epoch) : t = Time.epoch := by
  rcases Set.mem_insert_iff.1 h.1 with ht | ht
  · exact ht
  · have hepoch := h.2 (Set.mem_insert _ _)
    have hlt := hbefore t ht
    rw [Time.le_iff] at hepoch
    rw [Time.lt_iff] at hlt
    omega

/-- **The latest time is exact from the epoch on.**  The look at some paths succeeds exactly if the time of each
can be read, and then gives the greatest of these times and the epoch.  That is the greatest of the times
exactly if one of them is not before the epoch; otherwise it is the epoch itself.  The order and the
repetition of the paths make no difference to it.  The look fails exactly with the error of the first path
whose time cannot be read, which is that it is not found where there is nothing. -/
theorem latest_exact (ps : List Path) (s : Session) :
    ((∃ t, latest ps s = (.ok t, s)) ↔ s.Dated ps) ∧
    (∀ t, latest ps s = (.ok t, s) ↔ s.Dated ps ∧ IsGreatest (insert Time.epoch (s.times ps)) t) ∧
    (∀ t, latest ps s = (.ok t, s) →
      (IsGreatest (s.times ps) t ↔ ∃ u ∈ s.times ps, Time.epoch ≤ u) ∧
      ((∀ u ∈ s.times ps, u < Time.epoch) → t = Time.epoch)) ∧
    (∀ ps' t, (∀ p, p ∈ ps ↔ p ∈ ps') → (latest ps s = (.ok t, s) ↔ latest ps' s = (.ok t, s))) ∧
    (∀ e, latest ps s = (.error e, s) ↔
      ∃ path cause, s.FirstRefusal ps path cause ∧ e = .onPath path cause) ∧
    ∀ path cause, s.FirstRefusal ps path cause → s.files.find s.cwd path = .error .notFound →
      latest ps s = (.error (.notFound path), s) := by
  refine ⟨⟨?_, latest_of_readable⟩, fun t => latest_eq_ok_iff, fun t h => ?_, fun ps' t h => ?_,
    fun e => latest_eq_error_iff, fun path cause h hfind => ?_⟩
  · rintro ⟨t, h⟩
    exact (latest_eq_ok_iff.1 h).1
  · obtain ⟨-, hgreatest⟩ := latest_eq_ok_iff.1 h
    exact ⟨isGreatest_times_iff hgreatest, eq_epoch_of_before hgreatest⟩
  · rw [latest_eq_ok_iff, latest_eq_ok_iff, Session.dated_congr h, Session.times_congr h]
  · obtain ⟨-, -, -, -, hcause⟩ := id h
    rw [Session.modified_of_notFound hfind] at hcause
    obtain rfl := Except.error.inj hcause
    exact latest_of_firstRefusal h

/-- A session with a file from a second and a half before the epoch, and one from after it. -/
def datedSession : Session where
  files := { nodes := [(["old"], .file "old".toUTF8 ⟨-1500000000⟩), (["new"], .file "new".toUTF8 ⟨3⟩)] }
  cwd := []
  now := ⟨9⟩
  output := ""
  complaints := ""

/-- The greatest time is found in either order, the epoch comes of the older file alone, and of two paths at
which nothing is the first one is named. -/
theorem dated_latest :
    (∃ t, latest [⟨"old"⟩, ⟨"new"⟩, ⟨"old"⟩] datedSession = (.ok t, datedSession) ∧
      IsGreatest (datedSession.times [⟨"old"⟩, ⟨"new"⟩, ⟨"old"⟩]) t ∧
      latest [⟨"new"⟩, ⟨"old"⟩] datedSession = (.ok t, datedSession)) ∧
    latest [⟨"old"⟩] datedSession = (.ok Time.epoch, datedSession) ∧
    latest [⟨"old"⟩, ⟨"missing"⟩, ⟨"lost"⟩] datedSession = (.error (.notFound ⟨"missing"⟩), datedSession) := by
  have hold : datedSession.files.modified datedSession.cwd ⟨"old"⟩ = .ok ⟨-1500000000⟩ := rfl
  have hnew : datedSession.files.modified datedSession.cwd ⟨"new"⟩ = .ok ⟨3⟩ := rfl
  obtain ⟨hdated, -, hexact, horder, -⟩ := latest_exact [⟨"old"⟩, ⟨"new"⟩, ⟨"old"⟩] datedSession
  obtain ⟨hdated', -, hexact', -⟩ := latest_exact [⟨"old"⟩] datedSession
  obtain ⟨-, -, -, -, -, hmissing⟩ := latest_exact [⟨"old"⟩, ⟨"missing"⟩, ⟨"lost"⟩] datedSession
  refine ⟨?_, ?_, ?_⟩
  · obtain ⟨t, ht⟩ := hdated.2 (by simp [Session.Dated, hold, hnew])
    refine ⟨t, ht, (hexact t ht).1.2 ⟨⟨3⟩, ⟨⟨"new"⟩, by simp, hnew⟩, by decide⟩, ?_⟩
    refine (horder _ t fun p => ?_).1 ht
    simp only [List.mem_cons, List.not_mem_nil, or_false]
    tauto
  · obtain ⟨t, ht⟩ := hdated'.2 (List.forall_mem_singleton.2 ⟨_, hold⟩)
    rw [ht, (hexact' t ht).2]
    rintro u ⟨p, hp, hu⟩
    obtain rfl := List.mem_singleton.1 hp
    obtain rfl := Except.ok.inj (hold.symm.trans hu)
    decide
  · exact hmissing ⟨"missing"⟩ .notFound
      ⟨[⟨"old"⟩], [⟨"lost"⟩], rfl, List.forall_mem_singleton.2 ⟨_, hold⟩, rfl⟩ rfl

/-- Where all times are before the epoch, what comes of the look is the time of no path. -/
theorem not_exact_before_epoch :
    ¬ ∀ (ps : List Path) (s : Session), ps ≠ [] → s.Dated ps →
      ∃ t, latest ps s = (.ok t, s) ∧ IsGreatest (s.times ps) t := by
  intro h
  have hold : datedSession.files.modified datedSession.cwd ⟨"old"⟩ = .ok ⟨-1500000000⟩ := rfl
  have hdated : datedSession.Dated [⟨"old"⟩] := List.forall_mem_singleton.2 ⟨_, hold⟩
  obtain ⟨t, ht, hmem, -⟩ := h [⟨"old"⟩] datedSession (by simp) hdated
  obtain ⟨p, hp, hu⟩ := hmem
  obtain rfl := List.mem_singleton.1 hp
  obtain rfl := Except.ok.inj (hold.symm.trans hu)
  -- the time of the file is not the one that is given
  have hrun : latest [⟨"old"⟩] datedSession = (.ok Time.epoch, datedSession) := rfl
  rw [hrun] at ht
  exact absurd (Except.ok.inj (congrArg Prod.fst ht)) (by decide)

end Build

end BindingPipeline
