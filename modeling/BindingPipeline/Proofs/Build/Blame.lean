/-
BindingPipeline/Proofs/Build/Blame.lean

Which failure is reported of two catalog files that do not make a module, and which file is blamed for it.  Each
may be missing, a directory, no text or no catalog, and what they hold may break rules, all at once; what is
reported is the first of four failures, in the order in which they are met:

* the operation catalog is not loaded, whatever there is of the type catalog;
* the type catalog is not loaded, whatever rules the operations break;
* the two do not compile.  What is wrong with an operation by itself is then a fault of the operation catalog,
  and all else is reported as it is;
* the module must be consistent and is not.

Each has its case in `Blamed`; what a single file is refused for is `Unloadable`, whichever kind of catalog it
should have been.

Main result: `compileCatalogs_blames`.
-/
import BindingPipeline.Proofs.Build.Checks
import BindingPipeline.Proofs.Catalog.Loading
import BindingPipeline.Proofs.Metadata.FirstFault

namespace BindingPipeline

/-! ### Failures -/

namespace Error

variable {catalog : Path} {e : Error}

/-- Only what is wrong with an operation by itself becomes another failure. -/
theorem blame_of_ne (h : ∀ opcode fault, e ≠ .invalidOperation opcode fault) : e.blame catalog = e := by
  cases e with
  | invalidOperation opcode fault => exact absurd rfl (h opcode fault)
  | _ => rfl

end Error

namespace Metadata

variable {rules : Rules} {operations : List Catalog.Operation} {types : List Catalog.TypeEntry} {e : Error}

theorem exists_firstFault (h : compile rules operations types = .error e) :
    ∃ earlier o, FirstFault rules types earlier o e := by
  unfold compile at h
  rcases bind_eq_error_iff.1 h with hrun | ⟨_, _, hpure⟩
  · obtain ⟨earlier, o, -, -, -, hfault⟩ := (foldlM_addOperation_eq_error_iff keysOf_empty).1 hrun
    exact ⟨_, o, hfault⟩
  · exact nomatch hpure

/-- Compiling finds no module inconsistent. -/
theorem ne_inconsistent_of_compile (h : compile rules operations types = .error e) (finding : UndeclaredType) :
    e ≠ .inconsistent finding := by
  obtain ⟨earlier, o, hfault⟩ := exists_firstFault h
  cases hfault with
  | nameless _ => exact nofun
  | signature _ _ hsig =>
    cases hsig with
    | arity _ _ => exact nofun
    | unlisted _ _ => exact nofun
  | repeated _ _ _ => exact nofun

end Metadata

namespace Build

open Manifest (Checks)
open Metadata (Module)

/-! ### Two catalog files -/

variable {s s' : Session} {opcodes types : Path} {checks : Checks} {m : Module} {e : Error}
variable {operations : List Catalog.Operation} {entries : List Catalog.TypeEntry}

/-- What a run over two catalog files is refused for. -/
inductive Blamed (s : Session) (opcodes types : Path) (checks : Checks) : Error → Prop
  | operations {e : Error} : Unloadable Catalog.readOperations s opcodes e → Blamed s opcodes types checks e
  | types {operations : List Catalog.Operation} {e : Error} :
      Loadable Catalog.readOperations s opcodes operations → Unloadable Catalog.readTypes s types e →
      Blamed s opcodes types checks e
  | invalid {operations : List Catalog.Operation} {entries : List Catalog.TypeEntry} {opcode : String}
      {fault : OperationFault} :
      Loadable Catalog.readOperations s opcodes operations → Loadable Catalog.readTypes s types entries →
      Metadata.compile checks.rules operations entries = .error (.invalidOperation opcode fault) →
      Blamed s opcodes types checks (.malformedCatalog opcodes (.operation opcode fault))
  | uncompiled {operations : List Catalog.Operation} {entries : List Catalog.TypeEntry} {e : Error} :
      Loadable Catalog.readOperations s opcodes operations → Loadable Catalog.readTypes s types entries →
      Metadata.compile checks.rules operations entries = .error e →
      (∀ opcode fault, e ≠ .invalidOperation opcode fault) → Blamed s opcodes types checks e
  | inconsistent {operations : List Catalog.Operation} {entries : List Catalog.TypeEntry} {m : Module}
      {finding : Metadata.UndeclaredType} :
      CompilesTo s opcodes types checks operations entries m → checks.strictTypes = true →
      m.inconsistencies.head? = some finding → Blamed s opcodes types checks (.inconsistent finding)

theorem checkTypes_eq_error_iff : checkTypes checks m = .error e ↔
    checks.strictTypes = true ∧ ∃ finding, m.inconsistencies.head? = some finding ∧ e = .inconsistent finding := by
  have hhead : m.inconsistencies.head? = m.firstInconsistency? := rfl
  rw [hhead]
  unfold checkTypes
  rcases m.firstInconsistency? with - | finding
  · simp
  · rcases checks.strictTypes with - | -
    · simp
    · simp [eq_comm]

/-- With both catalogs loaded, what is left of a run is to compile them and to check the module. -/
theorem compileCatalogs_of_loadable (hoperations : Loadable Catalog.readOperations s opcodes operations)
    (hentries : Loadable Catalog.readTypes s types entries) : compileCatalogs opcodes types checks s =
      ((Metadata.compile checks.rules operations entries).mapError (·.blame opcodes) >>= checkTypes checks, s) := by
  unfold compileCatalogs
  rw [state_bind_apply, loadOperations_eq_ok_iff.2 ⟨rfl, hoperations⟩]
  show (loadTypes types >>= _) s = _
  rw [state_bind_apply, loadTypes_eq_ok_iff.2 ⟨rfl, hentries⟩]
  show (Action.lift _ >>= _) s = _
  cases Metadata.compile checks.rules operations entries with
  | error e => rfl
  | ok m => rfl

theorem compileCatalogs_of_compile_error (hoperations : Loadable Catalog.readOperations s opcodes operations)
    (hentries : Loadable Catalog.readTypes s types entries)
    (h : Metadata.compile checks.rules operations entries = .error e) :
    compileCatalogs opcodes types checks s = (.error (e.blame opcodes), s) := by
  rw [compileCatalogs_of_loadable hoperations hentries, h]
  rfl

theorem blamed_of_compile_error (hoperations : Loadable Catalog.readOperations s opcodes operations)
    (hentries : Loadable Catalog.readTypes s types entries)
    (h : Metadata.compile checks.rules operations entries = .error e) :
    Blamed s opcodes types checks (e.blame opcodes) := by
  by_cases hinvalid : ∃ opcode fault, e = .invalidOperation opcode fault
  · obtain ⟨opcode, fault, rfl⟩ := hinvalid
    exact .invalid hoperations hentries h
  · have hne : ∀ opcode fault, e ≠ .invalidOperation opcode fault :=
      fun opcode fault heq => hinvalid ⟨opcode, fault, heq⟩
    rw [Error.blame_of_ne hne]
    exact .uncompiled hoperations hentries h hne

/-- What comes of two catalogs that are loaded. -/
theorem blamed_of_loadable (hoperations : Loadable Catalog.readOperations s opcodes operations)
    (hentries : Loadable Catalog.readTypes s types entries)
    (h : (Metadata.compile checks.rules operations entries).mapError (·.blame opcodes) >>= checkTypes checks =
      .error e) : Blamed s opcodes types checks e := by
  rcases bind_eq_error_iff.1 h with hcompile | ⟨m, hcompile, hcheck⟩
  · obtain ⟨e', hfault, rfl⟩ := mapError_eq_error_iff.1 hcompile
    exact blamed_of_compile_error hoperations hentries hfault
  · obtain ⟨hstrict, finding, hfirst, rfl⟩ := checkTypes_eq_error_iff.1 hcheck
    have hcompiles : CompilesTo s opcodes types checks operations entries m :=
      ⟨loadOperations_eq_ok_iff.2 ⟨rfl, hoperations⟩, loadTypes_eq_ok_iff.2 ⟨rfl, hentries⟩,
        mapError_eq_ok_iff.1 hcompile⟩
    exact .inconsistent hcompiles hstrict hfirst

/-- A run fails exactly with what it is blamed for, and has done nothing. -/
theorem compileCatalogs_eq_error_iff :
    compileCatalogs opcodes types checks s = (.error e, s') ↔ s' = s ∧ Blamed s opcodes types checks e := by
  constructor
  · intro h
    rcases Action.bind_eq_error_iff.1 h with hload | ⟨operations, s₁, hload, hrest⟩
    · obtain ⟨rfl, hunloadable⟩ := loadOperations_eq_error_iff.1 hload
      exact ⟨rfl, .operations hunloadable⟩
    · obtain ⟨rfl, hoperations⟩ := loadOperations_eq_ok_iff.1 hload
      rcases Action.bind_eq_error_iff.1 hrest with hload' | ⟨entries, s₂, hload', -⟩
      · obtain ⟨rfl, hunloadable⟩ := loadTypes_eq_error_iff.1 hload'
        exact ⟨rfl, .types hoperations hunloadable⟩
      · obtain ⟨rfl, hentries⟩ := loadTypes_eq_ok_iff.1 hload'
        rw [compileCatalogs_of_loadable hoperations hentries] at h
        obtain ⟨hresult, rfl⟩ := Prod.mk.inj h
        exact ⟨rfl, blamed_of_loadable hoperations hentries hresult⟩
  · rintro ⟨rfl, h⟩
    cases h with
    | operations hunloadable =>
      exact Action.bind_eq_error_iff.2 (.inl (loadOperations_eq_error_iff.2 ⟨rfl, hunloadable⟩))
    | types hoperations hunloadable =>
      refine Action.bind_eq_error_iff.2 (.inr ⟨_, _, loadOperations_eq_ok_iff.2 ⟨rfl, hoperations⟩, ?_⟩)
      exact Action.bind_eq_error_iff.2 (.inl (loadTypes_eq_error_iff.2 ⟨rfl, hunloadable⟩))
    | invalid hoperations hentries hcompile =>
      exact compileCatalogs_of_compile_error hoperations hentries hcompile
    | uncompiled hoperations hentries hcompile hne =>
      have hrun := compileCatalogs_of_compile_error hoperations hentries hcompile
      rwa [Error.blame_of_ne hne] at hrun
    | inconsistent hcompiles hstrict hfirst =>
      rw [hcompiles.run, checkTypes_eq_error_iff.2 ⟨hstrict, _, hfirst, rfl⟩]

/-- No run is blamed for an operation by itself, since that is blamed on the file. -/
theorem Blamed.ne_invalidOperation (h : Blamed s opcodes types checks e) (opcode : String)
    (fault : OperationFault) : e ≠ .invalidOperation opcode fault := by
  cases h with
  | operations h => exact h.ne_invalidOperation opcode fault
  | types _ h => exact h.ne_invalidOperation opcode fault
  | invalid _ _ _ => exact nofun
  | uncompiled _ _ _ hne => exact hne opcode fault
  | inconsistent _ _ _ => exact nofun

/-- A module is found inconsistent only where one was compiled and must be consistent. -/
theorem Blamed.strict {finding : Metadata.UndeclaredType} (h : Blamed s opcodes types checks (.inconsistent finding)) :
    checks.strictTypes = true ∧ ∃ operations entries m, CompilesTo s opcodes types checks operations entries m ∧
      m.inconsistencies.head? = some finding := by
  cases h with
  | operations h => cases h
  | types _ h => cases h
  | uncompiled _ _ hcompile _ => exact absurd rfl (Metadata.ne_inconsistent_of_compile hcompile finding)
  | inconsistent hcompiles hstrict hfirst => exact ⟨hstrict, _, _, _, hcompiles, hfirst⟩

/-- **The right file is blamed, in a fixed order.**  A run over two catalog files fails exactly with what it is
blamed for: the operation catalog if it is not loaded, else the type catalog if that is not loaded, else what
compiling fails with, where a fault of an operation by itself is one of the operation catalog, and else the
first finding of a module that must be consistent.  A catalog is refused exactly if it cannot be loaded.  A
fault of an operation is never reported as such, and a module is found inconsistent only if it has been
compiled and must be consistent. -/
theorem compileCatalogs_blames (opcodes types : Path) (checks : Checks) (s : Session) :
    (∀ e s', compileCatalogs opcodes types checks s = (.error e, s') ↔
      s' = s ∧ Blamed s opcodes types checks e) ∧
    ((∃ e, Unloadable Catalog.readOperations s opcodes e) ↔
      ¬ ∃ operations, Loadable Catalog.readOperations s opcodes operations) ∧
    ((∃ e, Unloadable Catalog.readTypes s types e) ↔
      ¬ ∃ entries, Loadable Catalog.readTypes s types entries) ∧
    (∀ opcode fault s', compileCatalogs opcodes types checks s ≠ (.error (.invalidOperation opcode fault), s')) ∧
    (∀ finding s', compileCatalogs opcodes types checks s = (.error (.inconsistent finding), s') →
      checks.strictTypes = true ∧ ∃ operations entries m, CompilesTo s opcodes types checks operations entries m ∧
        m.inconsistencies.head? = some finding) ∧
    ∀ opcode fault, (CatalogFault.operation opcode fault).message = "opcode " ++ opcode ++ ": " ++ fault.message := by
  refine ⟨fun e s' => compileCatalogs_eq_error_iff, unloadable_iff, unloadable_iff,
    fun opcode fault s' h => ?_, fun finding s' h => ?_, fun _ _ => rfl⟩
  · exact (compileCatalogs_eq_error_iff.1 h).2.ne_invalidOperation opcode fault rfl
  · exact (compileCatalogs_eq_error_iff.1 h).2.strict

/-- A catalog with an operation whose opcode is no longer than its lead. -/
def namelessText : String := String.ofList
  (Json.Value.list [.list [.text "BH_", .number (.ofNat 1), .list [], .bool true, .bool false]]).compact

/-- The two catalog files, with that operation in the place of the others. -/
def namelessSession : Session := { lossySession with
  files := { nodes := [(["ops"], .file namelessText.toUTF8 ⟨1⟩),
    (["types"], .file (Catalog.renderTypes lossyTypes).toUTF8 ⟨1⟩)] } }

theorem nameless_loadable : Loadable Catalog.readOperations namelessSession ⟨"ops"⟩ [⟨"BH_", 1, [], true, false⟩] := by
  have hholds : namelessSession.Holds ⟨"ops"⟩ namelessText.toUTF8 ⟨1⟩ := rfl
  refine ⟨namelessText, hholds.readText, ?_⟩
  unfold namelessText
  rw [Catalog.readOperations_eq_ok_iff (Json.writtenDocument_compact _)]
  exact .cons (.list ⟨rfl, rfl, rfl, rfl, rfl⟩) .nil

theorem nameless_loadable_types : Loadable Catalog.readTypes namelessSession ⟨"types"⟩ lossyTypes := by
  have hholds : namelessSession.Holds ⟨"types"⟩ (Catalog.renderTypes lossyTypes).toUTF8 ⟨1⟩ := rfl
  exact ⟨_, hholds.readText, Catalog.readTypes_renderTypes (by decide)⟩

/-- Each place of failure: an operation catalog that is not there, before a type catalog that is not there
either; a type catalog that is not there, before an operation that breaks a rule; that operation; and a
module that must be consistent. -/
theorem lossy_blames :
    compileCatalogs ⟨"missing"⟩ ⟨"lost"⟩ ⟨true, true⟩ lossySession = (.error (.notFound ⟨"missing"⟩), lossySession) ∧
    compileCatalogs ⟨"ops"⟩ ⟨"lost"⟩ ⟨true, true⟩ namelessSession = (.error (.notFound ⟨"lost"⟩), namelessSession) ∧
    compileCatalogs ⟨"ops"⟩ ⟨"types"⟩ ⟨true, true⟩ namelessSession =
      (.error (.malformedCatalog ⟨"ops"⟩ (.operation "BH_" (.tooShort 3))), namelessSession) ∧
    compileCatalogs ⟨"ops"⟩ ⟨"types"⟩ ⟨true, true⟩ lossySession =
      (.error (.inconsistent ⟨"neg", "unknown"⟩), lossySession) := by
  obtain ⟨hmissing, -⟩ := compileCatalogs_blames ⟨"missing"⟩ ⟨"lost"⟩ ⟨true, true⟩ lossySession
  obtain ⟨hlost, -⟩ := compileCatalogs_blames ⟨"ops"⟩ ⟨"lost"⟩ ⟨true, true⟩ namelessSession
  obtain ⟨hnameless, -⟩ := compileCatalogs_blames ⟨"ops"⟩ ⟨"types"⟩ ⟨true, true⟩ namelessSession
  obtain ⟨hinconsistent, -⟩ := compileCatalogs_blames ⟨"ops"⟩ ⟨"types"⟩ ⟨true, true⟩ lossySession
  refine ⟨(hmissing _ _).2 ⟨rfl, .operations (.missing rfl)⟩, (hlost _ _).2 ⟨rfl, ?_⟩,
    (hnameless _ _).2 ⟨rfl, ?_⟩, (hinconsistent _ _).2 ⟨rfl, ?_⟩⟩
  · exact .types nameless_loadable (.missing rfl)
  · exact .invalid nameless_loadable nameless_loadable_types rfl
  · exact .inconsistent (lossy_compilesTo _) rfl rfl

end Build

end BindingPipeline
