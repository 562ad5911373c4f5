import Botik.Library.Runs
import Botik.MlService.TrainOnce
import Mathlib.Logic.Relation

/-!
# One active model, and then a better one

Between the two writes of an activation no model is active. Where the second one fails or the
process stops, the model that was active before is lost, and the next model is compared with none.

## Main definitions

* `Replaces` — a model was accepted against another one
* `ActivationKept` — what a call may do to the active model
* `Harmless` — a call that does not stop between the writes of an activation

## Main results

* `after_upsert_inactive`, `after_upsert_active`, `afterTraining_of_trains` — what a call writes
* `atMostOneActive_afterTraining` — no call makes two models active
* `activationKept_iff`, `activation_kept_iff` — the calls that keep the active model until a better
  one is there
* `exists_active_of_harmless` — the active model at the end of such calls
* `activation_lost` — a write that fails
-/

namespace Botik

open Program ModelRegistry
open AppService (Python)

variable {py : Python} {dumps : List (String × Json) → Except PyError String}
variable {call : TrainingCall} {registry : ModelRegistry}

/-! ### What a call writes -/

/-- The statement that writes a row. -/
abbrev setRow (modelId : String) (row : ModelRow) (registry : ModelRegistry) : ModelRegistry :=
  Dict.set registry modelId row

theorem setRow_setRow (modelId : String) (row : ModelRow) (registry : ModelRegistry) :
    setRow modelId row (setRow modelId row registry) = setRow modelId row registry :=
  Dict.set_of_get?_eq_some (Dict.get?_set_self registry modelId row)

/-- A write leaves what its statement makes, if an attempt is committed. -/
theorem after_executeWrite {sql : ModelRegistry → ModelRegistry} (hsql : ∀ s, sql (sql s) = sql s)
    (attempts : ℕ → WriteAttempt) (registry : ModelRegistry) :
    (after (executeWrite sql attempts) (.opened registry)).stored =
      if IsCommitted attempts then sql registry else registry := by
  split_ifs with h
  · rw [after_of_ok (executeWrite_of_isCommitted hsql h registry)]
    rfl
  · obtain ⟨e, c, herror, hstored⟩ := executeWrite_of_not_isCommitted h registry
    rw [after_of_error herror, hstored]

theorem after_upsert_inactive (deactivation insertion : ℕ → WriteAttempt) (modelId : String)
    {row : ModelRow} (hrow : row.isActive = false) (registry : ModelRegistry) :
    (after (upsertModelRegistry deactivation insertion modelId row) (.opened registry)).stored =
      if IsCommitted insertion then setRow modelId row registry else registry := by
  unfold upsertModelRegistry
  rw [hrow]
  exact after_executeWrite (setRow_setRow modelId row) insertion registry

theorem after_upsert_active (deactivation insertion : ℕ → WriteAttempt) (modelId : String)
    {row : ModelRow} (hrow : row.isActive = true) (registry : ModelRegistry) :
    (after (upsertModelRegistry deactivation insertion modelId row) (.opened registry)).stored =
      if IsCommitted deactivation then
        if IsCommitted insertion then setRow modelId row (deactivateAll registry)
        else deactivateAll registry
      else registry := by
  unfold upsertModelRegistry
  rw [if_pos hrow]
  by_cases hdeact : IsCommitted deactivation
  · rw [if_pos hdeact, after_bind_of_ok
      (executeWrite_of_isCommitted deactivateAll_deactivateAll hdeact registry)]
    exact after_executeWrite (setRow_setRow modelId row) insertion _
  · obtain ⟨e, c, herror, hstored⟩ := executeWrite_of_not_isCommitted hdeact registry
    rw [if_neg hdeact, after_bind_of_error herror, hstored]

theorem returns_upsert (deactivation insertion : ℕ → WriteAttempt) (modelId : String)
    (row : ModelRow) (hdeact : row.isActive = true → IsCommitted deactivation)
    (hins : IsCommitted insertion) (registry : ModelRegistry) :
    Returns (upsertModelRegistry deactivation insertion modelId row) (.opened registry) := by
  have hinsertion (start : ModelRegistry) :
      Returns (executeWrite (setRow modelId row) insertion) (.opened start) :=
    ⟨(), _, executeWrite_of_isCommitted (setRow_setRow modelId row) hins start⟩
  unfold upsertModelRegistry
  by_cases hactive : row.isActive = true
  · rw [if_pos hactive, returns_bind_iff]
    exact ⟨_, _, executeWrite_of_isCommitted deactivateAll_deactivateAll (hdeact hactive) registry,
      hinsertion _⟩
  · rw [if_neg hactive]
    exact hinsertion registry

/-- The call trains a model, with these metrics and this text of them. -/
structure Trains (dumps : List (String × Json) → Except PyError String) (call : TrainingCall)
    (model : TrainedModel) (metrics : List (String × Json)) (metricsJson : String) : Prop where
  enough : call.minClosedTrades ≤ call.rows
  trained : call.trained = .ok model
  named : model.modelId ≠ ""
  metrics_eq : withTrainingLoss model.metrics = .ok metrics
  text_eq : dumps metrics = .ok metricsJson

/-- The row that is written of a model. -/
def modelRow (call : TrainingCall) (model : TrainedModel) (metricsJson : String)
    (isActive : Bool) : ModelRow :=
  ⟨model.modelPath, some metricsJson, call.createdAtUtc, isActive⟩

theorem orRaise_of_ok {α : Type} {r : Except PyError α} {a : α} (h : r = .ok a)
    (c : Connection ModelRegistry) : orRaise r c = .ok a c := by
  subst h
  rfl

theorem orRaise_of_error {α : Type} {r : Except PyError α} {e : PyError} (h : r = .error e)
    (c : Connection ModelRegistry) : orRaise r c = .error (.raised e) c := by
  subst h
  rfl

/-- A call that trains a model and compares it writes its row. -/
theorem runTrainOnce_of_trains {model : TrainedModel} {metrics : List (String × Json)}
    {metricsJson : String} {activate : Bool} (h : Trains dumps call model metrics metricsJson)
    (hbetter : isBetterThanCurrent py metrics (currentMetricsJson registry) = .ok activate) :
    runTrainOnce py dumps call (.opened registry) =
      (upsertModelRegistry call.deactivation call.insertion model.modelId
          (modelRow call model metricsJson activate) >>= fun _ =>
        pure (some ⟨model.modelId, model.modelPath, metrics, activate⟩)) (.opened registry) := by
  have hrows : ¬ (call.rows : ℤ) < call.minClosedTrades := not_lt.mpr h.enough
  unfold runTrainOnce
  rw [if_neg hrows, h.trained, fromExcept_ok, pure_bind, if_neg h.named,
    bind_of_ok (orRaise_of_ok h.metrics_eq _), bind_of_ok (get_run _), Connection.opened_current,
    bind_of_ok (orRaise_of_ok hbetter _), bind_of_ok (orRaise_of_ok h.text_eq _)]
  rfl

/-- Any other call writes nothing. -/
theorem afterTraining_of_not_trains
    (h : ∀ model metrics metricsJson activate, Trains dumps call model metrics metricsJson →
      isBetterThanCurrent py metrics (currentMetricsJson registry) ≠ .ok activate) :
    afterTraining py dumps call registry = registry := by
  unfold afterTraining runTrainOnce
  by_cases hrows : (call.rows : ℤ) < call.minClosedTrades
  · rw [if_pos hrows]
    rfl
  rw [if_neg hrows]
  cases htrained : call.trained with
  | error e => rfl
  | ok model =>
    rw [fromExcept_ok, pure_bind]
    by_cases hnamed : model.modelId = ""
    · rw [if_pos hnamed]
      rfl
    rw [if_neg hnamed]
    cases hmetrics : withTrainingLoss model.metrics with
    | error e => rw [after_bind_of_error (orRaise_of_error rfl _), Connection.opened_stored]
    | ok metrics =>
      rw [after_bind_of_ok (orRaise_of_ok rfl _), after_get_bind, Connection.opened_current]
      cases hbetter : isBetterThanCurrent py metrics (currentMetricsJson registry) with
      | error e => rw [after_bind_of_error (orRaise_of_error rfl _), Connection.opened_stored]
      | ok activate =>
        rw [after_bind_of_ok (orRaise_of_ok rfl _)]
        cases htext : dumps metrics with
        | error e => rw [after_bind_of_error (orRaise_of_error rfl _), Connection.opened_stored]
        | ok metricsJson =>
          exact absurd hbetter (h model metrics metricsJson activate
            ⟨not_lt.mp hrows, htrained, hnamed, hmetrics, htext⟩)

/-- The registry after a call that trains a model and compares it. -/
theorem afterTraining_of_trains {model : TrainedModel} {metrics : List (String × Json)}
    {metricsJson : String} {activate : Bool} (h : Trains dumps call model metrics metricsJson)
    (hbetter : isBetterThanCurrent py metrics (currentMetricsJson registry) = .ok activate) :
    afterTraining py dumps call registry =
      (after (upsertModelRegistry call.deactivation call.insertion model.modelId
        (modelRow call model metricsJson activate)) (.opened registry)).stored := by
  unfold afterTraining after
  rw [runTrainOnce_of_trains h hbetter]
  cases hupsert : upsertModelRegistry call.deactivation call.insertion model.modelId
      (modelRow call model metricsJson activate) (.opened registry) with
  | ok u c =>
    rw [bind_of_ok hupsert]
    rfl
  | error e c => rw [bind_of_error hupsert]

/-- Such a call returns when its writes are committed. -/
theorem returns_of_trains {model : TrainedModel} {metrics : List (String × Json)}
    {metricsJson : String} {activate : Bool} (h : Trains dumps call model metrics metricsJson)
    (hbetter : isBetterThanCurrent py metrics (currentMetricsJson registry) = .ok activate)
    (hdeact : activate = true → IsCommitted call.deactivation)
    (hins : IsCommitted call.insertion) :
    Returns (runTrainOnce py dumps call) (.opened registry) := by
  obtain ⟨u, c, hupsert⟩ := returns_upsert call.deactivation call.insertion model.modelId
    (modelRow call model metricsJson activate) hdeact hins registry
  unfold Returns
  rw [runTrainOnce_of_trains h hbetter, bind_of_ok hupsert]
  exact ⟨_, c, rfl⟩

/-! ### The active model -/

/-- The model was accepted by `is_better_than_current` against the one before. -/
def Replaces (py : Python) (dumps : List (String × Json) → Except PyError String)
    (before after : String × ModelRow) : Prop :=
  ∃ metrics metricsJson, dumps metrics = .ok metricsJson ∧
    after.2.metricsJson = some metricsJson ∧
    isBetterThanCurrent py metrics before.2.metricsJson = .ok true

/-- What a call may do to the active model: at most one is active, it gives way only to one that
was accepted against it, and a call that fails leaves it. -/
structure ActivationKept (py : Python) (dumps : List (String × Json) → Except PyError String)
    (t : Runs.Transition ModelRegistry TrainingCall) : Prop where
  atMostOne : AtMostOneActive t.after
  replaced : ∀ active, getActiveModel t.before = some active →
    ∃ active', getActiveModel t.after = some active' ∧
      (active' = active ∨ Replaces py dumps active active')
  failed : ¬ Returns (runTrainOnce py dumps t.input) (.opened t.before) →
    ∀ active, getActiveModel t.before = some active → getActiveModel t.after = some active

/-- While a model is active, a call that makes an accepted model active does not stop between its
two writes, and a rejected model has not the id of the active one. -/
structure Harmless (py : Python) (dumps : List (String × Json) → Except PyError String)
    (registry : ModelRegistry) (call : TrainingCall) : Prop where
  accepted : ∀ active model metrics metricsJson, getActiveModel registry = some active →
    Trains dumps call model metrics metricsJson →
    isBetterThanCurrent py metrics active.2.metricsJson = .ok true →
    IsCommitted call.deactivation → IsCommitted call.insertion
  rejected : ∀ active model metrics metricsJson, getActiveModel registry = some active →
    Trains dumps call model metrics metricsJson →
    isBetterThanCurrent py metrics active.2.metricsJson = .ok false →
    IsCommitted call.insertion → model.modelId ≠ active.1

variable (py dumps) in
/-- A call makes no second model active. -/
theorem atMostOneActive_afterTraining (hone : AtMostOneActive registry) (call : TrainingCall) :
    AtMostOneActive (afterTraining py dumps call registry) := by
  by_cases hwrites : ∃ model metrics metricsJson activate,
      Trains dumps call model metrics metricsJson ∧
        isBetterThanCurrent py metrics (currentMetricsJson registry) = .ok activate
  · obtain ⟨model, metrics, metricsJson, activate, htrains, hbetter⟩ := hwrites
    rw [afterTraining_of_trains htrains hbetter]
    cases activate with
    | false =>
      rw [after_upsert_inactive _ _ _ rfl]
      split_ifs
      · exact hone.set rfl _
      · exact hone
    | true =>
      rw [after_upsert_active _ _ _ rfl]
      split_ifs
      · exact (activated rfl registry _).1
      · exact atMostOneActive_of_getActiveModel_eq_none (getActiveModel_deactivateAll registry)
      · exact hone
  · rwa [afterTraining_of_not_trains fun model metrics metricsJson activate h hbetter =>
      hwrites ⟨model, metrics, metricsJson, activate, h, hbetter⟩]

theorem currentMetricsJson_of_active {active : String × ModelRow}
    (hactive : getActiveModel registry = some active) :
    currentMetricsJson registry = active.2.metricsJson := by
  rw [currentMetricsJson, hactive]
  rfl

/-- A call that does no harm keeps the active model or puts an accepted one in its place. -/
theorem Harmless.cases (h : Harmless py dumps registry call) (hone : AtMostOneActive registry)
    {active : String × ModelRow} (hactive : getActiveModel registry = some active) :
    getActiveModel (afterTraining py dumps call registry) = some active ∨
      Returns (runTrainOnce py dumps call) (.opened registry) ∧
        ∃ active', getActiveModel (afterTraining py dumps call registry) = some active' ∧
          Replaces py dumps active active' := by
  have hcurrent := currentMetricsJson_of_active hactive
  by_cases hwrites : ∃ model metrics metricsJson activate,
      Trains dumps call model metrics metricsJson ∧
        isBetterThanCurrent py metrics (currentMetricsJson registry) = .ok activate
  · obtain ⟨model, metrics, metricsJson, activate, htrains, hbetter⟩ := hwrites
    rw [afterTraining_of_trains htrains hbetter]
    have hbetter' := hbetter
    rw [hcurrent] at hbetter'
    cases activate with
    | false =>
      left
      rw [after_upsert_inactive _ _ _ rfl]
      split_ifs with hins
      · have hne := h.rejected _ _ _ _ hactive htrains hbetter' hins
        rw [getActiveModel_set hone rfl hactive, if_neg hne]
      · exact hactive
    | true =>
      rw [after_upsert_active _ _ _ rfl]
      by_cases hdeact : IsCommitted call.deactivation
      · right
        have hins := h.accepted _ _ _ _ hactive htrains hbetter' hdeact
        rw [if_pos hdeact, if_pos hins]
        exact ⟨returns_of_trains htrains hbetter (fun _ => hdeact) hins, _,
          (activated rfl registry _).2, metrics, metricsJson, htrains.text_eq, rfl, hbetter'⟩
      · left
        rwa [if_neg hdeact]
  · left
    rwa [afterTraining_of_not_trains fun model metrics metricsJson activate h hbetter =>
      hwrites ⟨model, metrics, metricsJson, activate, h, hbetter⟩]

/-- One call keeps the active model as it should exactly if it does no harm. -/
theorem activationKept_iff (hone : AtMostOneActive registry) (call : TrainingCall) :
    ActivationKept py dumps ⟨registry, call, afterTraining py dumps call registry⟩ ↔
      Harmless py dumps registry call := by
  constructor
  · intro h
    constructor
    · intro active model metrics metricsJson hactive htrains hbetter hdeact
      by_contra hins
      rw [← currentMetricsJson_of_active hactive] at hbetter
      obtain ⟨active', hafter, -⟩ := h.replaced active hactive
      -- between the writes no model is active
      simp only [afterTraining_of_trains htrains hbetter] at hafter
      rw [after_upsert_active _ _ _ rfl, if_pos hdeact, if_neg hins,
        getActiveModel_deactivateAll] at hafter
      cases hafter
    · rintro active model metrics metricsJson hactive htrains hbetter hins hid
      rw [← currentMetricsJson_of_active hactive] at hbetter
      obtain ⟨active', hafter, -⟩ := h.replaced active hactive
      -- the row of the active model is overwritten
      simp only [afterTraining_of_trains htrains hbetter] at hafter
      rw [after_upsert_inactive _ _ _ rfl, if_pos hins, getActiveModel_set hone rfl hactive,
        if_pos hid] at hafter
      cases hafter
  · intro h
    refine ⟨atMostOneActive_afterTraining py dumps hone call, fun active hactive => ?_,
      fun hfails active hactive => ?_⟩
    · rcases h.cases hone hactive with hkept | ⟨-, active', hafter, hreplaces⟩
      · exact ⟨active, hkept, Or.inl rfl⟩
      · exact ⟨active', hafter, Or.inr hreplaces⟩
    · rcases h.cases hone hactive with hkept | ⟨hreturns, -⟩
      · exact hkept
      · exact absurd hreturns hfails

/-! ### Runs -/

/-- The active model is kept as it should over all calls exactly if none of them does harm. -/
theorem activation_kept_iff (py : Python) (dumps : List (String × Json) → Except PyError String)
    (calls : List TrainingCall) {start : ModelRegistry} (hone : AtMostOneActive start) :
    (∀ t ∈ Runs.transitions (afterTraining py dumps) calls start, ActivationKept py dumps t) ↔
      ∀ t ∈ Runs.transitions (afterTraining py dumps) calls start,
        Harmless py dumps t.before t.input := by
  have hstep (s : ModelRegistry) (call : TrainingCall) (hs : AtMostOneActive s) (_ : True) :
      AtMostOneActive (afterTraining py dumps call s) := atMostOneActive_afterTraining py dumps hs call
  have hones : ∀ t ∈ Runs.transitions (afterTraining py dumps) calls start,
      AtMostOneActive t.before ∧ AtMostOneActive t.after :=
    Runs.forall_transitions_of_inv hstep hone fun _ _ => trivial
  refine forall₂_congr fun t ht => ?_
  rw [← activationKept_iff (hones t ht).1 t.input, ← Runs.after_eq_step ht]

/-- Calls that do no harm replace the active model by better and better ones. -/
theorem exists_active_of_harmless {calls : List TrainingCall} (hone : AtMostOneActive registry)
    (h : ∀ t ∈ Runs.transitions (afterTraining py dumps) calls registry,
      Harmless py dumps t.before t.input)
    {active : String × ModelRow} (hactive : getActiveModel registry = some active) :
    ∃ active', getActiveModel (Runs.run (afterTraining py dumps) calls registry) = some active' ∧
      Relation.ReflTransGen (Replaces py dumps) active active' := by
  induction calls generalizing registry active with
  | nil => exact ⟨active, hactive, .refl⟩
  | cons call calls ih =>
    rw [Runs.transitions_cons, List.forall_mem_cons] at h
    obtain ⟨hcall, hcalls⟩ := h
    have hone' := atMostOneActive_afterTraining py dumps hone call
    rcases hcall.cases hone hactive with hkept | ⟨-, next, hnext, hreplaces⟩
    · exact ih hone' hcalls hkept
    · obtain ⟨active', hactive', hchain⟩ := ih hone' hcalls hnext
      exact ⟨active', hactive', .head hreplaces hchain⟩

/-! ### Two calls -/

/-- Python on the texts of these calls. -/
def gradingPython : Python := .decoding fun text =>
  if text = "\x7b\"quality_score\": 0.5\x7d" then
    .value (.obj [("quality_score", .float (.finite (1 / 2)))])
  else .malformed

def gradingDumps (_ : List (String × Json)) : Except PyError String :=
  .ok "\x7b\"quality_score\": 0.75, \"training_loss\": 0.25\x7d"

/-- A registry whose only model is active. -/
def servingRegistry : ModelRegistry :=
  Dict.empty.set "lifecycle-sgd-1"
    ⟨"data/models/1.pkl", some "\x7b\"quality_score\": 0.5\x7d", "2025-01-01T00:00:00Z", true⟩

/-- A call that trains a better model; `insertion` says what becomes of the second write. -/
def betterCall (insertion : WriteAttempt) : TrainingCall where
  rows := 100
  minClosedTrades := 50
  trained := .ok ⟨"lifecycle-sgd-2", "data/models/2.pkl",
    [("quality_score", .float (.finite (3 / 4))), ("training_loss", .float (.finite (1 / 4)))]⟩
  createdAtUtc := "2025-01-02T00:00:00Z"
  deactivation _ := .committed
  insertion _ := insertion

theorem atMostOneActive_servingRegistry : AtMostOneActive servingRegistry :=
  (activated rfl Dict.empty "lifecycle-sgd-1").1

/-- The second write fails, and no model is active any more. -/
theorem activation_lost : AtMostOneActive servingRegistry ∧
    (getActiveModel servingRegistry).map Prod.fst = some "lifecycle-sgd-1" ∧
    getActiveModel (afterTraining gradingPython gradingDumps
      (betterCall (.failed false false false)) servingRegistry) = none ∧
    ¬ ∀ t ∈ Runs.transitions (afterTraining gradingPython gradingDumps)
        [betterCall (.failed false false false)] servingRegistry,
      ActivationKept gradingPython gradingDumps t := by
  have hlost : getActiveModel (afterTraining gradingPython gradingDumps
      (betterCall (.failed false false false)) servingRegistry) = none := by decide +kernel
  refine ⟨atMostOneActive_servingRegistry, by decide, hlost, fun h => ?_⟩
  obtain ⟨active', hactive', -⟩ := (h _ List.mem_cons_self).replaced _ rfl
  rw [hlost] at hactive'
  cases hactive'

/-- Where it is committed, the better model is active. -/
theorem activation_committed :
    (getActiveModel (afterTraining gradingPython gradingDumps (betterCall .committed)
      servingRegistry)).map Prod.fst = some "lifecycle-sgd-2" ∧
    ∀ t ∈ Runs.transitions (afterTraining gradingPython gradingDumps) [betterCall .committed]
      servingRegistry, ActivationKept gradingPython gradingDumps t := by
  refine ⟨by decide +kernel, ?_⟩
  refine (activation_kept_iff gradingPython gradingDumps [betterCall .committed]
    atMostOneActive_servingRegistry).mpr fun t ht => ?_
  obtain rfl := List.mem_singleton.mp ht
  refine ⟨fun _ _ _ _ _ _ _ _ => by decide, ?_⟩
  rintro active model metrics metricsJson hactive htrains - -
  cases hactive
  cases htrains.trained
  decide

end Botik
