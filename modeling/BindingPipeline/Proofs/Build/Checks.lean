/-
BindingPipeline/Proofs/Build/Checks.lean

The optional checks of the catalogs only refuse.  One of them is made within the loop that compiles, the other
on the module that comes out of it, and either may end a run that would go on without it; but a run that
gets through them makes what it would have made unchecked.

Design.  A run over two catalog files is described by what was read from them (`compileCatalogs_eq_ok_iff`);
with this, the check within the loop is a fact about compiling alone (`compile_eq_ok_iff_lenient`), and the
other one comes down to `Module.Consistent`.

Main result: `compileCatalogs_checked`.
-/
import BindingPipeline.Proofs.Build.Generation
import BindingPipeline.Proofs.Catalog.Types
import BindingPipeline.Proofs.Metadata.Compilation
import BindingPipeline.Proofs.Metadata.Inconsistency

namespace BindingPipeline.Build

open Manifest (Checks)
open Metadata (Module offered)

variable {checks : Checks} {m m' : Module} {s s' : Session} {opcodes types : Path}

/-! ### The check of the module -/

theorem checkTypes_eq_ok_iff :
    checkTypes checks m = .ok m' ↔ m' = m ∧ (checks.strictTypes = true → m.Consistent) := by
  rw [← Module.firstInconsistency?_eq_none_iff]
  unfold checkTypes
  rcases m.firstInconsistency? with - | finding
  · rw [Except.ok.injEq, eq_comm (a := m)]
    simp
  · rcases checks.strictTypes with - | -
    · rw [Except.ok.injEq, eq_comm (a := m)]
      simp
    · simp

/-- A module that must be consistent and is not is refused for its first finding. -/
theorem checkTypes_of_not_consistent (hstrict : checks.strictTypes = true) (hm : ¬ m.Consistent) :
    ∃ finding, m.inconsistencies.head? = some finding ∧
      checkTypes checks m = .error (.inconsistent finding) := by
  rw [← Module.firstInconsistency?_eq_none_iff] at hm
  obtain ⟨finding, hfinding⟩ := Option.ne_none_iff_exists'.1 hm
  refine ⟨finding, hfinding, ?_⟩
  unfold checkTypes
  rw [hfinding, hstrict]

/-! ### Runs over two catalog files -/

/-- What is read from the two files, and compiles to the module with the rules that are checked. -/
structure CompilesTo (s : Session) (opcodes types : Path) (checks : Checks)
    (operations : List Catalog.Operation) (entries : List Catalog.TypeEntry) (m : Module) : Prop where
  readOperations : loadOperations opcodes s = (.ok operations, s)
  readEntries : loadTypes types s = (.ok entries, s)
  compiled : Metadata.compile checks.rules operations entries = .ok m

/-- What is left of a run when the module has been compiled is the check of the module. -/
theorem CompilesTo.run {operations : List Catalog.Operation} {entries : List Catalog.TypeEntry}
    (h : CompilesTo s opcodes types checks operations entries m) :
    compileCatalogs opcodes types checks s = (checkTypes checks m, s) := by
  have hlift : (Metadata.compile checks.rules operations entries).mapError (·.blame opcodes) = .ok m :=
    mapError_eq_ok_iff.2 h.compiled
  unfold compileCatalogs
  rw [state_bind_apply, h.readOperations]
  show (loadTypes types >>= _) s = _
  rw [state_bind_apply, h.readEntries]
  show (Action.lift _ >>= _) s = _
  rw [hlift]
  rfl

/-- A run over two catalog files makes the module that they compile to, unless that must be consistent and is
not. -/
theorem compileCatalogs_eq_ok_iff :
    compileCatalogs opcodes types checks s = (.ok m, s') ↔
      s' = s ∧ (∃ operations entries, CompilesTo s opcodes types checks operations entries m) ∧
        (checks.strictTypes = true → m.Consistent) := by
  constructor
  · intro h
    obtain ⟨operations, s₁, hoperations, hrest⟩ := Action.bind_eq_ok_iff.1 h
    obtain rfl := (loadOperations_reads _).eq hoperations
    obtain ⟨entries, s₂, hentries, hrest'⟩ := Action.bind_eq_ok_iff.1 hrest
    obtain rfl := (loadTypes_reads _).eq hentries
    obtain ⟨m', s₃, hlift, hlift'⟩ := Action.bind_eq_ok_iff.1 hrest'
    obtain ⟨hcompile, rfl⟩ := Action.lift_eq_ok_iff.1 hlift
    obtain ⟨hcheck, rfl⟩ := Action.lift_eq_ok_iff.1 hlift'
    obtain ⟨rfl, hstrict⟩ := checkTypes_eq_ok_iff.1 hcheck
    refine ⟨rfl, ⟨operations, entries, hoperations, hentries, ?_⟩, hstrict⟩
    exact mapError_eq_ok_iff.1 hcompile
  · rintro ⟨rfl, ⟨operations, entries, hcompiles⟩, hstrict⟩
    rw [hcompiles.run, checkTypes_eq_ok_iff.2 ⟨rfl, hstrict⟩]

/-- Each signature of each operation that the catalog file offers has the length that is asked for. -/
def KeepsArity (s : Session) (opcodes : Path) : Prop :=
  ∃ operations, loadOperations opcodes s = (.ok operations, s) ∧
    ∀ o ∈ offered operations, ∀ sig ∈ o.types, sig.length = o.nop.toNat

/-- The rule that is checked within the loop only refuses. -/
theorem exists_compilesTo_iff :
    (∃ operations entries, CompilesTo s opcodes types checks operations entries m) ↔
      (∃ operations entries, CompilesTo s opcodes types .default operations entries m) ∧
        (checks.checkArity = true → KeepsArity s opcodes) := by
  constructor
  · rintro ⟨operations, entries, hoperations, hentries, hcompile⟩
    obtain ⟨hlenient, harity⟩ := Metadata.compile_eq_ok_iff_lenient.1 hcompile
    exact ⟨⟨operations, entries, hoperations, hentries, hlenient⟩,
      fun hc => ⟨operations, hoperations, harity hc⟩⟩
  · rintro ⟨⟨operations, entries, hoperations, hentries, hlenient⟩, harity⟩
    refine ⟨operations, entries, hoperations, hentries, ?_⟩
    refine Metadata.compile_eq_ok_iff_lenient.2 ⟨hlenient, fun hc => ?_⟩
    -- the catalog of which the lengths are known is the one that has been read
    obtain ⟨operations', hoperations', hlengths⟩ := harity hc
    obtain rfl : operations' = operations :=
      Except.ok.inj (congrArg Prod.fst (hoperations'.symm.trans hoperations))
    exact hlengths

/-- **The optional checks only refuse.**  A run over two catalog files makes a module exactly if it makes that
module unchecked, the offered signatures have their lengths if these are checked, and all types in the
module's signatures are declared if that is checked.  If that alone is missing, it fails with the first of
the module's findings. -/
theorem compileCatalogs_checked (opcodes types : Path) (checks : Checks) (s : Session) :
    (∀ m s', compileCatalogs opcodes types checks s = (.ok m, s') ↔
      compileCatalogs opcodes types .default s = (.ok m, s') ∧
        (checks.checkArity = true → KeepsArity s opcodes) ∧
        (checks.strictTypes = true → m.Consistent)) ∧
    ∀ m s', compileCatalogs opcodes types .default s = (.ok m, s') →
      (checks.checkArity = true → KeepsArity s opcodes) → checks.strictTypes = true → ¬ m.Consistent →
      ∃ finding, m.inconsistencies.head? = some finding ∧
        compileCatalogs opcodes types checks s = (.error (.inconsistent finding), s') := by
  have hlax : ∀ m : Module, Checks.default.strictTypes = true → m.Consistent :=
    fun _ h => absurd h Bool.false_ne_true
  constructor
  · intro m s'
    rw [compileCatalogs_eq_ok_iff, compileCatalogs_eq_ok_iff, exists_compilesTo_iff]
    constructor
    · rintro ⟨hs, ⟨hcompiles, harity⟩, hstrict⟩
      exact ⟨⟨hs, hcompiles, hlax m⟩, harity, hstrict⟩
    · rintro ⟨⟨hs, hcompiles, -⟩, harity, hstrict⟩
      exact ⟨hs, ⟨hcompiles, harity⟩, hstrict⟩
  · intro m s' h harity hstrict hm
    obtain ⟨rfl, hcompiles, -⟩ := compileCatalogs_eq_ok_iff.1 h
    obtain ⟨operations, entries, hcompiles⟩ := exists_compilesTo_iff.2 ⟨hcompiles, harity⟩
    obtain ⟨finding, hfirst, hcheck⟩ := checkTypes_of_not_consistent hstrict hm
    exact ⟨finding, hfirst, by rw [hcompiles.run, hcheck]⟩

/-- Two operations that are offered, the second of a type that the host lacks, and a hidden one whose signature
is too short. -/
def lossyEntries : List Json.Value :=
  [.list [.text "BH_ADD", .number (.ofNat 2), .list [.list [.text "A", .text "A"]], .bool true, .bool false],
    .list [.text "BH_FREE", .number (.ofNat 1), .list [.list []], .bool false, .bool true],
    .list [.text "BH_NEG", .number (.ofNat 1), .list [.list [.text "B"]], .bool true, .bool false]]

/-- The entries written without blanks. -/
def lossyText : String := String.ofList (Json.Value.list lossyEntries).compact

/-- The operations that the entries describe. -/
def lossyOperations : List Catalog.Operation :=
  [⟨"BH_ADD", 2, [["A", "A"]], true, false⟩, ⟨"BH_FREE", 1, [[]], false, true⟩,
    ⟨"BH_NEG", 1, [["B"]], true, false⟩]

/-- The types of the operations. -/
def lossyTypes : List Catalog.TypeEntry := [⟨"A", .named "a"⟩, ⟨"B", .unsupported⟩]

/-- The module of the two catalogs. -/
def lossyModule : Module where
  ops := Metadata.Table.ofList [("add", ⟨"add", 2, [["a", "a"]]⟩), ("neg", ⟨"neg", 1, [["unknown"]]⟩)]
  types := ["a"]

/-- A session with the two catalog files. -/
def lossySession : Session where
  files := { nodes := [(["ops"], .file lossyText.toUTF8 ⟨1⟩),
    (["types"], .file (Catalog.renderTypes lossyTypes).toUTF8 ⟨1⟩)] }
  cwd := []
  now := ⟨2⟩
  output := ""
  complaints := ""

theorem lossy_compilesTo (checks : Checks) :
    CompilesTo lossySession ⟨"ops"⟩ ⟨"types"⟩ checks lossyOperations lossyTypes lossyModule where
  readOperations := by
    have hholds : lossySession.Holds ⟨"ops"⟩ lossyText.toUTF8 ⟨1⟩ := rfl
    have hread : Catalog.readOperations lossyText = .ok lossyOperations := by
      unfold lossyText
      rw [Catalog.readOperations_eq_ok_iff (Json.writtenDocument_compact _)]
      exact .cons (.list ⟨rfl, rfl, rfl, rfl, rfl⟩) (.cons (.list ⟨rfl, rfl, rfl, rfl, rfl⟩)
        (.cons (.list ⟨rfl, rfl, rfl, rfl, rfl⟩) .nil))
    rw [Catalog.loadOperations_of_readText hholds.readText, hread]
  readEntries := by
    have hholds : lossySession.Holds ⟨"types"⟩ (Catalog.renderTypes lossyTypes).toUTF8 ⟨1⟩ := rfl
    have hspelled : Catalog.Spelled lossyTypes := by decide
    rw [Catalog.loadTypes_of_readText hholds.readText, Catalog.readTypes_renderTypes hspelled]
  compiled := by
    obtain ⟨arity, strict⟩ := checks
    cases arity <;> rfl

/-- Unchecked the module is made; with both checks it is refused, though the signatures have their lengths. -/
theorem lossy_checked :
    compileCatalogs ⟨"ops"⟩ ⟨"types"⟩ .default lossySession = (.ok lossyModule, lossySession) ∧
    compileCatalogs ⟨"ops"⟩ ⟨"types"⟩ ⟨true, true⟩ lossySession =
      (.error (.inconsistent ⟨"neg", "unknown"⟩), lossySession) := by
  have hunchecked : compileCatalogs ⟨"ops"⟩ ⟨"types"⟩ .default lossySession =
      (.ok lossyModule, lossySession) := by
    rw [(lossy_compilesTo .default).run]
    rfl
  have harity : KeepsArity lossySession ⟨"ops"⟩ :=
    ⟨lossyOperations, (lossy_compilesTo .default).readOperations, by decide⟩
  have hinconsistent : ¬ lossyModule.Consistent := by
    rw [← Module.firstInconsistency?_eq_none_iff]
    exact nofun
  obtain ⟨-, hrefused⟩ := compileCatalogs_checked ⟨"ops"⟩ ⟨"types"⟩ ⟨true, true⟩ lossySession
  obtain ⟨finding, hfirst, hrun⟩ :=
    hrefused lossyModule lossySession hunchecked (fun _ => harity) rfl hinconsistent
  obtain rfl : ⟨"neg", "unknown"⟩ = finding := Option.some.inj hfirst
  exact ⟨hunchecked, hrun⟩

end BindingPipeline.Build
