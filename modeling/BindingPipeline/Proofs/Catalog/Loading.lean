/-
BindingPipeline/Proofs/Catalog/Loading.lean

How a catalog file is loaded.  The two kinds of catalogs differ in the reader of their texts only, so both are
loaded in the same way (`loadCatalog`), and what holds of that is said for any reader: a file is either
`Loadable` as one catalog or `Unloadable` for one reason, which names it.

Main results: `loadCatalog_eq_ok_iff`, `loadCatalog_eq_error_iff`.
-/
import BindingPipeline.Proofs.Catalog.Operations

namespace BindingPipeline

/-- A refusal for another reason than that nothing is there is one of the system. -/
theorem Error.onPath_of_ne {path : Path} {cause : SystemError} (h : cause ≠ .notFound) :
    onPath path cause = .io path cause := by
  cases cause with
  | notFound => exact absurd rfl h
  | _ => rfl

namespace Build

variable {α : Type} {read : String → Except Json.Diagnosis α} {s s' : Session} {catalog : Path} {x : α} {e : Error}

/-! ### Any kind of catalog -/

/-- The catalog of a file, as its text is read. -/
def loadCatalog (read : String → Except Json.Diagnosis α) (catalog : Path) : Action α := do
  let text ← Action.readText catalog
  Action.lift ((read text).mapError fun d => .malformedCatalog catalog (.text d))

/-- The file has a text, which is read as the catalog. -/
def Loadable (read : String → Except Json.Diagnosis α) (s : Session) (catalog : Path) (x : α) : Prop :=
  ∃ text, s.files.readText s.cwd catalog = .ok text ∧ read text = .ok x

/-- What a file is refused for that is not loaded: it is missing, or its text cannot be had for another reason, or
the text is not read as a catalog.  The file is named in each case. -/
inductive Unloadable (read : String → Except Json.Diagnosis α) (s : Session) (catalog : Path) : Error → Prop
  | missing : s.files.readText s.cwd catalog = .error .notFound → Unloadable read s catalog (.notFound catalog)
  | unreadable {cause : SystemError} : s.files.readText s.cwd catalog = .error cause → cause ≠ .notFound →
      Unloadable read s catalog (.io catalog cause)
  | malformed {text : String} {d : Json.Diagnosis} : s.files.readText s.cwd catalog = .ok text →
      read text = .error d → Unloadable read s catalog (.malformedCatalog catalog (.text d))

theorem Unloadable.ne_invalidOperation (h : Unloadable read s catalog e) (opcode : String)
    (fault : OperationFault) : e ≠ .invalidOperation opcode fault := by
  cases h <;> exact nofun

theorem loadCatalog_of_loadable (h : Loadable read s catalog x) : loadCatalog read catalog s = (.ok x, s) := by
  obtain ⟨text, htext, hread⟩ := h
  unfold loadCatalog
  rw [Catalog.readText_bind htext, hread]
  rfl

theorem loadCatalog_of_unloadable (h : Unloadable read s catalog e) :
    loadCatalog read catalog s = (.error e, s) := by
  cases h with
  | missing hmissing =>
    exact Action.bind_eq_error_iff.2 (.inl (Action.ask_eq_error_iff.2 ⟨⟨_, hmissing, rfl⟩, rfl⟩))
  | unreadable hcause hne =>
    rw [← Error.onPath_of_ne hne]
    exact Action.bind_eq_error_iff.2 (.inl (Action.ask_eq_error_iff.2 ⟨⟨_, hcause, rfl⟩, rfl⟩))
  | malformed htext hread =>
    unfold loadCatalog
    rw [Catalog.readText_bind htext, hread]
    rfl

/-- A file is either loaded or refused. -/
theorem loadable_or_unloadable (read : String → Except Json.Diagnosis α) (s : Session) (catalog : Path) :
    (∃ x, Loadable read s catalog x) ∨ ∃ e, Unloadable read s catalog e := by
  rcases htext : s.files.readText s.cwd catalog with cause | text
  · by_cases hcause : cause = .notFound
    · rw [hcause] at htext
      exact .inr ⟨_, .missing htext⟩
    · exact .inr ⟨_, .unreadable htext hcause⟩
  · rcases hread : read text with d | x
    · exact .inr ⟨_, .malformed htext hread⟩
    · exact .inl ⟨x, text, htext, hread⟩

theorem loadCatalog_eq_ok_iff :
    loadCatalog read catalog s = (.ok x, s') ↔ s' = s ∧ Loadable read s catalog x := by
  constructor
  · intro h
    rcases loadable_or_unloadable read s catalog with ⟨y, hy⟩ | ⟨e, he⟩
    · rw [loadCatalog_of_loadable hy] at h
      cases h
      exact ⟨rfl, hy⟩
    · rw [loadCatalog_of_unloadable he] at h
      cases h
  · rintro ⟨rfl, hx⟩
    exact loadCatalog_of_loadable hx

theorem loadCatalog_eq_error_iff :
    loadCatalog read catalog s = (.error e, s') ↔ s' = s ∧ Unloadable read s catalog e := by
  constructor
  · intro h
    rcases loadable_or_unloadable read s catalog with ⟨x, hx⟩ | ⟨e', he⟩
    · rw [loadCatalog_of_loadable hx] at h
      cases h
    · rw [loadCatalog_of_unloadable he] at h
      cases h
      exact ⟨rfl, he⟩
  · rintro ⟨rfl, he⟩
    exact loadCatalog_of_unloadable he

theorem unloadable_iff : (∃ e, Unloadable read s catalog e) ↔ ¬ ∃ x, Loadable read s catalog x := by
  constructor
  · rintro ⟨e, he⟩ ⟨x, hx⟩
    have hrun := loadCatalog_of_unloadable he
    rw [loadCatalog_of_loadable hx] at hrun
    cases hrun
  · exact (loadable_or_unloadable read s catalog).resolve_left

/-! ### The two kinds -/

theorem loadOperations_eq : loadOperations catalog = loadCatalog Catalog.readOperations catalog := by
  refine congrArg (Action.readText catalog >>= ·) (funext fun text => ?_)
  cases Catalog.readOperations text with
  | ok operations => rfl
  | error d => rfl

theorem loadTypes_eq : loadTypes catalog = loadCatalog Catalog.readTypes catalog := by
  refine congrArg (Action.readText catalog >>= ·) (funext fun text => ?_)
  cases Catalog.readTypes text with
  | ok entries => rfl
  | error d => rfl

variable {operations : List Catalog.Operation} {entries : List Catalog.TypeEntry}

theorem loadOperations_eq_ok_iff : loadOperations catalog s = (.ok operations, s') ↔
    s' = s ∧ Loadable Catalog.readOperations s catalog operations := by
  rw [loadOperations_eq, loadCatalog_eq_ok_iff]

theorem loadOperations_eq_error_iff : loadOperations catalog s = (.error e, s') ↔
    s' = s ∧ Unloadable Catalog.readOperations s catalog e := by
  rw [loadOperations_eq, loadCatalog_eq_error_iff]

theorem loadTypes_eq_ok_iff : loadTypes catalog s = (.ok entries, s') ↔
    s' = s ∧ Loadable Catalog.readTypes s catalog entries := by
  rw [loadTypes_eq, loadCatalog_eq_ok_iff]

theorem loadTypes_eq_error_iff : loadTypes catalog s = (.error e, s') ↔
    s' = s ∧ Unloadable Catalog.readTypes s catalog e := by
  rw [loadTypes_eq, loadCatalog_eq_error_iff]

end Build

end BindingPipeline
