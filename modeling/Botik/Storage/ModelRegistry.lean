import Botik.Library.Connection
import Botik.Library.Dict
import Botik.Library.Json

/-!
# The registry of models

`upsert_model_registry` and `get_active_model` of `storage/sqlite_store.py`. A model is made active
by two writes, each with its own commit: the first one takes the mark from all models, the second
one writes the row of the new model with the mark.

## Main definitions

* `ModelRow`, `ModelRegistry` — the table `model_registry`
* `executeWrite` — `_execute_write`
* `upsertModelRegistry`, `getActiveModel`
-/

namespace Botik

/-- A row of `model_registry`; the model's id is its key. -/
structure ModelRow where
  pathOrPayload : String
  metricsJson : Option String
  createdAtUtc : String
  isActive : Bool
  deriving DecidableEq, Repr

/-- The table, in the order of its generated ids. -/
abbrev ModelRegistry := Dict String ModelRow

/-- How a call that writes to the database ends without returning. -/
inductive Interruption
  | raised (e : PyError)
  /-- `sqlite3.OperationalError`. -/
  | operationalError
  /-- The process stops. -/
  | stopped
  deriving DecidableEq, Repr

def lockRetryAttempts : ℕ := 5

/-- `_execute_write`, with what becomes of its attempts. -/
def executeWrite {σ : Type} (sql : σ → σ) (attempts : ℕ → WriteAttempt) :
    EStateM Interruption (Connection σ) Unit :=
  Connection.tryWrite .operationalError .stopped sql
    ((List.range (lockRetryAttempts + 1)).map attempts)

/-- One of the attempts of a write is committed. -/
def IsCommitted (attempts : ℕ → WriteAttempt) : Prop :=
  WriteAttempt.commits ((List.range (lockRetryAttempts + 1)).map attempts)

instance (attempts : ℕ → WriteAttempt) : Decidable (IsCommitted attempts) :=
  inferInstanceAs (Decidable (_ = true))

theorem executeWrite_of_isCommitted {σ : Type} {sql : σ → σ} (hsql : ∀ s, sql (sql s) = sql s)
    {attempts : ℕ → WriteAttempt} (h : IsCommitted attempts) (s : σ) :
    executeWrite sql attempts (.opened s) = .ok () (.opened (sql s)) :=
  Connection.tryWrite_of_commits hsql h (Or.inl rfl)

theorem executeWrite_of_not_isCommitted {σ : Type} {sql : σ → σ} {attempts : ℕ → WriteAttempt}
    (h : ¬ IsCommitted attempts) (s : σ) :
    ∃ e c, executeWrite sql attempts (.opened s) = .error e c ∧ c.stored = s :=
  Connection.tryWrite_of_not_commits h (.opened s)

namespace ModelRegistry

/-- `UPDATE model_registry SET is_active=0`. -/
def deactivateAll (registry : ModelRegistry) : ModelRegistry :=
  registry.mapValues fun row => { row with isActive := false }

/-- `get_active_model`: the id and the row of the first active model. -/
def getActiveModel (registry : ModelRegistry) : Option (String × ModelRow) :=
  registry.entries.find? fun e => e.2.isActive

/-- `upsert_model_registry`, with what becomes of the attempts of its two writes. -/
def upsertModelRegistry (deactivation insertion : ℕ → WriteAttempt) (modelId : String) (row : ModelRow) :
    EStateM Interruption (Connection ModelRegistry) Unit := do
  if row.isActive then executeWrite deactivateAll deactivation
  executeWrite (fun registry => registry.set modelId row) insertion

/-- No two models are active. -/
def AtMostOneActive (registry : ModelRegistry) : Prop :=
  ∀ e ∈ registry.entries, ∀ e' ∈ registry.entries, e.2.isActive → e'.2.isActive → e = e'

section Tables

variable {registry : ModelRegistry} {modelId : String} {row : ModelRow}

@[simp] theorem get?_deactivateAll (registry : ModelRegistry) (modelId : String) :
    (deactivateAll registry).get? modelId =
      (registry.get? modelId).map fun row => { row with isActive := false } :=
  Dict.get?_mapValues ..

theorem deactivateAll_deactivateAll (registry : ModelRegistry) :
    deactivateAll (deactivateAll registry) = deactivateAll registry :=
  Dict.mapValues_mapValues ..

theorem active_of_getActiveModel {active : String × ModelRow}
    (h : getActiveModel registry = some active) :
    active ∈ registry.entries ∧ active.2.isActive :=
  ⟨List.mem_of_find?_eq_some h,
    List.find?_some (p := fun e : String × ModelRow => e.2.isActive) h⟩

theorem getActiveModel_eq_some_iff (hone : AtMostOneActive registry) :
    getActiveModel registry = some (modelId, row) ↔
      registry.get? modelId = some row ∧ row.isActive := by
  constructor
  · intro h
    obtain ⟨hmem, hactive⟩ := active_of_getActiveModel h
    exact ⟨Dict.mem_entries_iff.mp hmem, hactive⟩
  · rintro ⟨hget, hactive⟩
    have hmem := Dict.mem_entries_iff.mpr hget
    cases h : getActiveModel registry with
    | none => exact absurd hactive (by simpa using List.find?_eq_none.mp h _ hmem)
    | some e =>
      obtain ⟨hmem', hactive'⟩ := active_of_getActiveModel h
      rw [hone e hmem' _ hmem hactive' hactive]

theorem getActiveModel_eq_none_iff :
    getActiveModel registry = none ↔
      ∀ modelId row, registry.get? modelId = some row → row.isActive = false := by
  unfold getActiveModel
  rw [List.find?_eq_none]
  constructor
  · intro h modelId row hget
    simpa using h _ (Dict.mem_entries_iff.mpr hget)
  · rintro h ⟨modelId, row⟩ hmem
    simpa using h modelId row (Dict.mem_entries_iff.mp hmem)

/-- Only the model of one id may be active: then at most one is. -/
theorem atMostOneActive_of_forall (modelId : String)
    (h : ∀ modelId' row', registry.get? modelId' = some row' → row'.isActive →
      modelId' = modelId) : AtMostOneActive registry := by
  rintro ⟨k, r⟩ he ⟨k', r'⟩ he' hactive hactive'
  rw [Dict.mem_entries_iff] at he he'
  obtain rfl := h k r he hactive
  obtain rfl := h k' r' he' hactive'
  rw [he] at he'
  cases he'
  rfl

theorem getActiveModel_deactivateAll (registry : ModelRegistry) :
    getActiveModel (deactivateAll registry) = none := by
  rw [getActiveModel_eq_none_iff]
  intro modelId row hget
  rw [get?_deactivateAll, Option.map_eq_some_iff] at hget
  obtain ⟨row', -, rfl⟩ := hget
  rfl

theorem atMostOneActive_of_getActiveModel_eq_none (h : getActiveModel registry = none) :
    AtMostOneActive registry := by
  refine atMostOneActive_of_forall "" fun modelId' row' hget hactive => ?_
  rw [getActiveModel_eq_none_iff.mp h modelId' row' hget] at hactive
  cases hactive

/-- After an activation the new model is the active one. -/
theorem activated (hactive : row.isActive) (registry : ModelRegistry) (modelId : String) :
    AtMostOneActive ((deactivateAll registry).set modelId row) ∧
      getActiveModel ((deactivateAll registry).set modelId row) = some (modelId, row) := by
  have hone : AtMostOneActive ((deactivateAll registry).set modelId row) := by
    refine atMostOneActive_of_forall modelId fun modelId' row' hget hactive' => ?_
    by_contra hne
    rw [Dict.get?_set_of_ne hne] at hget
    rw [getActiveModel_eq_none_iff.mp (getActiveModel_deactivateAll registry) _ _ hget] at hactive'
    cases hactive'
  exact ⟨hone, (getActiveModel_eq_some_iff hone).mpr ⟨Dict.get?_set_self .., hactive⟩⟩

/-- A row without the mark activates no model. -/
theorem AtMostOneActive.set (hone : AtMostOneActive registry) (hrow : row.isActive = false)
    (modelId : String) : AtMostOneActive (Dict.set registry modelId row) := by
  have hkept : ∀ e ∈ (Dict.set registry modelId row).entries, e.2.isActive →
      e ∈ registry.entries := by
    rintro ⟨k, r⟩ he hactive
    rw [Dict.mem_entries_iff, Dict.get?_set] at he
    split_ifs at he with hk
    · cases he
      rw [hrow] at hactive
      cases hactive
    · exact Dict.mem_entries_iff.mpr he
  intro e he e' he' hactive hactive'
  exact hone e (hkept e he hactive) e' (hkept e' he' hactive') hactive hactive'

/-- It takes the mark from the model of its id, and from no other. -/
theorem getActiveModel_set (hone : AtMostOneActive registry) (hrow : row.isActive = false)
    {active : String × ModelRow} (hactive : getActiveModel registry = some active) :
    getActiveModel (Dict.set registry modelId row) =
      if modelId = active.1 then none else some active := by
  obtain ⟨k, r⟩ := active
  obtain ⟨hget, hr⟩ := (getActiveModel_eq_some_iff hone).mp hactive
  split_ifs with hk
  · rw [getActiveModel_eq_none_iff]
    intro k' r' hget'
    rw [Dict.get?_set] at hget'
    split_ifs at hget' with hk'
    · rw [← Option.some.inj hget', hrow]
    · by_contra hr'
      have heq := hone _ (Dict.mem_entries_iff.mpr hget) _ (Dict.mem_entries_iff.mpr hget') hr
        (by simpa using hr')
      exact hk' ((congrArg Prod.fst heq).symm.trans hk.symm)
  · rw [getActiveModel_eq_some_iff (hone.set hrow modelId)]
    exact ⟨by rw [Dict.get?_set_of_ne (Ne.symm hk), hget], hr⟩

end Tables

end ModelRegistry

end Botik
