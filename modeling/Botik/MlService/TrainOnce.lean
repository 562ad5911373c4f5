import Botik.AppService.OutputLines
import Botik.Storage.ModelRegistry

/-!
# Training a model once

`is_better_than_current` of `ml_service/evaluate.py` and `run_train_once` of
`ml_service/run_loop.py`: a new model is trained, compared with the active one by a score of their
metrics, and written to the registry, active if it is better.

How many rows the dataset has and what the training returns is given with a call, as is what
becomes of the writes. `json.dumps` is a parameter. `1.0 - x` is exact, as all numbers are.

## Main definitions

* `isBetterThanCurrent` — `is_better_than_current`
* `TrainedModel`, `TrainingCall`
* `runTrainOnce` — `run_train_once`
* `afterTraining` — the registry after a call
-/

/-- `x < y`, which is false of `nan`. -/
def PyFloat.lt : PyFloat → PyFloat → Bool
  | .nan, _ | _, .nan => false
  | .infinity negative, .infinity negative' => negative && !negative'
  | .infinity negative, .finite _ => negative
  | .finite _, .infinity negative => !negative
  | .finite q, .finite r => q < r

namespace Botik

open Program
open AppService (Python fieldsOf)

/-! ### Metrics -/

/-- The quality score of some metrics, or else their accuracy. -/
def metricsScore (metrics : List (String × Json)) : Except PyError PyFloat :=
  let scores := ["quality_score", "open_accuracy", "mean_accuracy"].filterMap (Json.field? metrics)
  match scores.find? Json.truthy with
  | some score => score.toFloat
  | none => .ok (.finite 0)

/-- `is_better_than_current`. -/
def isBetterThanCurrent (py : Python) (newMetrics : List (String × Json))
    (currentMetricsJson : Option String) : Except PyError Bool :=
  match currentMetricsJson with
  | none | some "" => .ok true
  | some text =>
    match py.loads text with
    | .malformed | .raised _ => .ok true
    | .value current => do
      let newScore ← metricsScore newMetrics
      let curScore ← metricsScore (← fieldsOf current)
      return curScore.lt newScore

/-- `_safe_float(value, default=0.0)`. -/
def safeFloat : Option Json → Except PyError PyFloat
  | none | some .null => .ok (.finite 0)
  | some value =>
    match value.toFloat with
    | .error .typeError | .error .valueError => .ok (.finite 0)
    | result => result

/-- `max(0.0, 1.0 - accuracy)`. -/
def lossOfAccuracy : PyFloat → PyFloat
  | .finite q => .finite (max 0 (1 - q))
  | .infinity negative => if negative then .infinity false else .finite 0
  | .nan => .finite 0

/-- The metrics of a new model with its `training_loss`. -/
def withTrainingLoss (metrics : List (String × Json)) : Except PyError (List (String × Json)) :=
  if (Json.field? metrics "training_loss").isSome then .ok metrics
  else do
    let openAcc ← safeFloat (Json.field? metrics "open_accuracy")
    return metrics ++ [("training_loss", .float (lossOfAccuracy openAcc))]

/-! ### A call -/

/-- What `train_lifecycle_models` returns; without an id nothing was trained. -/
structure TrainedModel where
  modelId : String
  modelPath : String
  metrics : List (String × Json)

/-- What a call of `run_train_once` finds: the rows of its dataset, what the training returns, and
what becomes of the writes. -/
structure TrainingCall where
  rows : ℕ
  minClosedTrades : ℤ
  trained : Except Interruption TrainedModel
  createdAtUtc : String
  deactivation : ℕ → WriteAttempt
  insertion : ℕ → WriteAttempt

/-- What `run_train_once` returns. -/
structure TrainingResult where
  modelId : String
  modelPath : String
  metrics : List (String × Json)
  activated : Bool

/-- A step of Python's that may raise. -/
def orRaise {α : Type} (r : Except PyError α) :
    EStateM Interruption (Connection ModelRegistry) α :=
  fromExcept (r.mapError .raised)

/-- The metrics of the active model, if there is one. -/
def currentMetricsJson (registry : ModelRegistry) : Option String :=
  registry.getActiveModel.bind fun active => active.2.metricsJson

variable (py : Python) (dumps : List (String × Json) → Except PyError String)

/-- `run_train_once`. -/
def runTrainOnce (call : TrainingCall) :
    EStateM Interruption (Connection ModelRegistry) (Option TrainingResult) := do
  if call.rows < call.minClosedTrades then return none
  let model ← fromExcept call.trained
  if model.modelId = "" then return none
  let metrics ← orRaise (withTrainingLoss model.metrics)
  let conn ← get
  let activate ← orRaise (isBetterThanCurrent py metrics (currentMetricsJson conn.current))
  let metricsJson ← orRaise (dumps metrics)
  ModelRegistry.upsertModelRegistry call.deactivation call.insertion model.modelId
    { pathOrPayload := model.modelPath
      metricsJson := some metricsJson
      createdAtUtc := call.createdAtUtc
      isActive := activate }
  return some ⟨model.modelId, model.modelPath, metrics, activate⟩

/-- The registry after a call. The loop of `main` makes its calls on one connection; an exception
leaves the loop, and `main` closes the connection. -/
def afterTraining (call : TrainingCall) (registry : ModelRegistry) : ModelRegistry :=
  (after (runTrainOnce py dumps call) (.opened registry)).stored

end Botik
