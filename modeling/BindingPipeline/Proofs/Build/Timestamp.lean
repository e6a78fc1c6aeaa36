/-
BindingPipeline/Proofs/Build/Timestamp.lean

The stamp of a generated file.  `latest` looks at the times of its paths one after the other and changes
nothing; its result is the greatest of these times and the epoch.
-/
import BindingPipeline.Build.Timestamp
import BindingPipeline.Proofs.Session
import Mathlib.Order.Bounds.Defs

namespace BindingPipeline

/-- Taking the later time again and again gives the greatest of the times. -/
theorem Time.isGreatest_foldl_later (ts : List Time) (start : Time) :
    IsGreatest {t | t ∈ start :: ts} (ts.foldl Time.later start) := by
  induction ts generalizing start with
  | nil =>
    refine ⟨List.mem_cons_self, fun t ht => ?_⟩
    obtain rfl := List.mem_singleton.1 ht
    exact Int.le_refl _
  | cons u ts ih =>
    -- the rest starts from the later of the two, so both are below its result
    obtain ⟨hmem, hgreatest⟩ := ih (start.later u)
    have hleft : start ≤ start.later u := by
      simp only [Time.later, Time.le_iff, Time.lt_iff]
      split <;> omega
    have hright : u ≤ start.later u := by
      simp only [Time.later, Time.le_iff, Time.lt_iff]
      split <;> omega
    have hlater : start.later u ≤ ts.foldl Time.later (start.later u) :=
      hgreatest List.mem_cons_self
    rw [List.foldl_cons]
    constructor
    · rcases List.mem_cons.1 hmem with heq | hrest
      · rw [heq]
        unfold Time.later
        split
        · exact List.mem_cons_of_mem _ List.mem_cons_self
        · exact List.mem_cons_self
      · exact List.mem_cons_of_mem _ (List.mem_cons_of_mem _ hrest)
    · intro t ht
      rcases List.mem_cons.1 ht with rfl | ht
      · exact Int.le_trans hleft hlater
      · rcases List.mem_cons.1 ht with rfl | hrest
        · exact Int.le_trans hright hlater
        · exact hgreatest (List.mem_cons_of_mem _ hrest)

namespace Build

open FileSystem

variable {s s' : Session} {t : Time}

theorem modified_eq_ok_iff {p : Path} :
    Action.modified p s = (.ok t, s') ↔
      ((∃ n, s.files.find s.cwd p = .ok (target s.cwd p, n)) ∧ t = s.timeOf p) ∧ s' = s := by
  unfold Action.modified
  rw [Action.ask_eq_ok_iff, FileSystem.modified_eq_ok_iff]
  rfl

theorem latest_reads (ps : List Path) : (latest ps).Reads :=
  Action.Reads.foldlM (fun _ _ => (Action.Reads.ask _ _).bind fun _ => Action.Reads.pure _) ps _

/-- What `latest` needs and gives when it succeeds. -/
theorem latest_eq_ok {ps : List Path} (h : latest ps s = (.ok t, s')) :
    (∀ p ∈ ps, ∃ n, s.files.find s.cwd p = .ok (target s.cwd p, n)) ∧
      t = (ps.map s.timeOf).foldl Time.later Time.epoch := by
  unfold latest at h
  generalize Time.epoch = start at h
  induction ps generalizing start with
  | nil =>
    obtain ⟨rfl, -⟩ := Action.pure_eq_ok_iff.1 h
    exact ⟨List.forall_mem_nil _, rfl⟩
  | cons p ps ih =>
    rw [List.foldlM_cons] at h
    obtain ⟨next, mid, hstep, h⟩ := Action.bind_eq_ok_iff.1 h
    obtain ⟨u, mid', hmodified, hpure⟩ := Action.bind_eq_ok_iff.1 hstep
    obtain ⟨⟨hfound, rfl⟩, rfl⟩ := modified_eq_ok_iff.1 hmodified
    obtain ⟨rfl, rfl⟩ := Action.pure_eq_ok_iff.1 hpure
    obtain ⟨hall, rfl⟩ := ih _ h
    exact ⟨List.forall_mem_cons.2 ⟨hfound, hall⟩, rfl⟩

/-- There is a latest time if something is found at every path. -/
theorem latest_of_found {ps : List Path}
    (h : ∀ p ∈ ps, ∃ n, s.files.find s.cwd p = .ok (target s.cwd p, n)) :
    latest ps s = (.ok ((ps.map s.timeOf).foldl Time.later Time.epoch), s) := by
  unfold latest
  generalize Time.epoch = start
  induction ps generalizing start with
  | nil => rfl
  | cons p ps ih =>
    obtain ⟨hfound, hall⟩ := List.forall_mem_cons.1 h
    have hstep : (do return start.later (← Action.modified p) : Action Time) s =
        (.ok (start.later (s.timeOf p)), s) :=
      Action.bind_eq_ok_iff.2 ⟨_, s, modified_eq_ok_iff.2 ⟨⟨hfound, rfl⟩, rfl⟩, rfl⟩
    rw [List.foldlM_cons]
    exact Action.bind_eq_ok_iff.2 ⟨_, s, hstep, ih hall _⟩

end Build

end BindingPipeline
