/-
BindingPipeline/Time.lean

Points in time, counted in nanoseconds from the epoch and before it.
-/
namespace BindingPipeline

/-- A point in time. -/
@[ext] structure Time where
  nanoseconds : Int
  deriving DecidableEq, Repr, Inhabited

namespace Time

/-- The time from which all others are counted. -/
def epoch : Time := ⟨0⟩

/-- The time that many seconds and nanoseconds after the epoch. -/
def ofSeconds (seconds : Int) (nanoseconds : Int) : Time := ⟨seconds * 1000000000 + nanoseconds⟩

/-- Whole seconds since the epoch, rounded down. -/
def seconds (t : Time) : Int := t.nanoseconds.fdiv 1000000000

/-- The nanoseconds beyond the whole seconds. -/
def subseconds (t : Time) : Int := t.nanoseconds.fmod 1000000000

instance : LE Time := ⟨fun a b => a.nanoseconds ≤ b.nanoseconds⟩

instance : LT Time := ⟨fun a b => a.nanoseconds < b.nanoseconds⟩

instance (a b : Time) : Decidable (a ≤ b) := inferInstanceAs (Decidable (a.nanoseconds ≤ b.nanoseconds))

instance (a b : Time) : Decidable (a < b) := inferInstanceAs (Decidable (a.nanoseconds < b.nanoseconds))

theorem le_iff {a b : Time} : a ≤ b ↔ a.nanoseconds ≤ b.nanoseconds := Iff.rfl

theorem lt_iff {a b : Time} : a < b ↔ a.nanoseconds < b.nanoseconds := Iff.rfl

/-- The later of two times. -/
def later (a b : Time) : Time := if a < b then b else a

theorem ofSeconds_seconds (t : Time) : ofSeconds t.seconds t.subseconds = t := by
  ext
  have := Int.mul_fdiv_add_fmod t.nanoseconds 1000000000
  simp only [ofSeconds, seconds, subseconds]
  omega

end Time

end BindingPipeline
