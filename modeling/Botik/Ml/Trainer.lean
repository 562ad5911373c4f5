import Botik.Library.Program
import Botik.Ml.Models
import Botik.Ml.OutcomeLearner
import Botik.Ml.Registry

/-!
# The trainer

`ModelTrainer` of `ml/trainer.py`: it labels the history and fits both models, or fits them again to
the newest samples, and saves the pair if both are accurate enough. A new trainer loads what was
saved last. The registry, the samples and the paper trades are shared by all processes. The texts
for the log are left out.

## Main definitions

* `Ml.TrainingStore` — what is shared
* `Ml.ModelTrainer`, `Ml.ModelTrainer.tryLoadModels`
* `Ml.ModelTrainer.bootstrap`, `Ml.ModelTrainer.incremental`, `Ml.ModelTrainer.maybeDeploy`
* `Ml.ModelTrainer.isReady`, `Ml.ModelTrainer.score` — the function of `get_predict_fn`
-/

namespace Botik

/-- A row of `futures_paper_trades`, the columns a learner reads. -/
structure PaperOutcomeRow where
  modelScope : String
  netPnl : Option ℚ
  holdTimeMs : Option ℤ
  exitReason : Option String
  closedAtUtc : Option String

/-- What a row is kept as. -/
def PaperOutcomeRow.learned (row : PaperOutcomeRow) : LearnedTrade where
  pnl := row.netPnl.getD 0
  holdMs := row.holdTimeMs.getD 0
  exit := row.exitReason.getD ""

namespace OutcomeLearner

/-- The rows of `load_from_db`: the trades of a scope that were closed last, the newest first. -/
def outcomeRows (modelScope : String) (rows : List PaperOutcomeRow) : List PaperOutcomeRow :=
  ((rows.filter fun row => row.modelScope = modelScope ∧ row.closedAtUtc.isSome).insertionSort
    fun a b => b.closedAtUtc.getD "" ≤ a.closedAtUtc.getD "").take window

/-- `load_from_db`: what is there already stays, as far as there is room. -/
def loadFromDb (modelScope : String) (rows : List PaperOutcomeRow) (l : OutcomeLearner) :
    OutcomeLearner :=
  let trades := l.trades ++ (outcomeRows modelScope rows).reverse.map PaperOutcomeRow.learned
  { l with trades := trades.drop (trades.length - window) }.updateStats

end OutcomeLearner

namespace Ml

/-- `'futures' | 'spot'`. -/
inductive ModelScope
  | futures
  | spot
  deriving DecidableEq, Repr

def ModelScope.text : ModelScope → String
  | .futures => "futures"
  | .spot => "spot"

/-- What all processes share. -/
structure TrainingStore (μ : Type) where
  registry : ModelRegistry (Option μ)
  samples : StampedSamples
  outcomes : List PaperOutcomeRow

/-- `ModelTrainer`. -/
structure ModelTrainer (μ : Type) where
  modelScope : ModelScope
  historian : Historian μ
  predictor : Predictor μ
  outcomeLearner : OutcomeLearner

/-- What a training returns. -/
inductive TrainAnswer
  | notEnough (reason : String) (samples : Option ℕ)
  | trained (deployed : Bool) (historianAccuracy predictorAccuracy : PyFloat) (mode : String)
      (samples : Option ℕ)
  deriving DecidableEq, Repr

/-- `deployed`, of an answer. -/
def TrainAnswer.deployed : TrainAnswer → Bool
  | .notEnough _ _ => false
  | .trained deployed _ _ _ _ => deployed

/-- The two `run_id`s of a deployment, and its time. -/
structure DeployStamps where
  historianRunId : String
  predictorRunId : String
  nowUtc : String

namespace ModelTrainer

variable {μ : Type}

/-- `BOOTSTRAP_SYMBOLS_DEFAULT`. -/
def bootstrapSymbolsDefault : List String :=
  ["BTCUSDT", "ETHUSDT", "SOLUSDT", "BNBUSDT", "XRPUSDT"]

/-- The labeler of a trainer. -/
def labeler (t : ModelTrainer μ) : Labeler :=
  { Labeler.default with modelScope := t.modelScope.text }

/-- The constructor, with `_try_load_models`. -/
def tryLoadModels (scope : ModelScope) (store : TrainingStore μ) : ModelTrainer μ where
  modelScope := scope
  historian :=
    match store.registry.load scope.text "historian" with
    | none => .initial
    | some (obj, accuracy, tradeCount) =>
      Historian.setModelObject obj accuracy tradeCount Historian.initial
  predictor :=
    match store.registry.load scope.text "predictor" with
    | none => .initial
    | some (obj, accuracy, tradeCount) =>
      Predictor.setModelObject obj accuracy tradeCount Predictor.initial
  outcomeLearner := OutcomeLearner.initial.loadFromDb scope.text store.outcomes

@[simp] theorem tryLoadModels_outcomeLearner (scope : ModelScope) (store : TrainingStore μ) :
    (tryLoadModels scope store).outcomeLearner =
      OutcomeLearner.initial.loadFromDb scope.text store.outcomes := by
  rw [tryLoadModels]

/-! ### Deploying -/

/-- `h_ok and p_ok`; `MIN_ACCURACY_TO_DEPLOY` is the bound of the models. -/
def deploys (h p : TrainResult) : Bool :=
  reaches minAccuracy h.accuracy ∧ reaches minAccuracy p.accuracy

/-- The file of a model. -/
def fileOf (m : BaseModel μ) (r : TrainResult) : ModelFile (Option μ) :=
  ⟨m.model, r.accuracy, r.tradeCount⟩

/-- Save both models under the next version of the historian. -/
def deployed (t : ModelTrainer μ) (h p : TrainResult) (stamps : DeployStamps)
    (r : ModelRegistry (Option μ)) : ModelRegistry (Option μ) :=
  let v := r.nextVersion t.modelScope.text "historian"
  let r := r.save t.modelScope.text "historian" v (fileOf t.historian.toBaseModel h) true
    stamps.historianRunId stamps.nowUtc
  r.save t.modelScope.text "predictor" v (fileOf t.predictor.toBaseModel p) true
    stamps.predictorRunId stamps.nowUtc

/-- `_maybe_deploy`. -/
def maybeDeploy (t : ModelTrainer μ) (h p : TrainResult) (mode : String) (samples : Option ℕ)
    (stamps : DeployStamps) (r : ModelRegistry (Option μ)) :
    TrainAnswer × ModelRegistry (Option μ) :=
  (.trained (deploys h p) h.accuracy p.accuracy mode samples,
    if deploys h p then t.deployed h p stamps r else r)

/-! ### Training -/

/-- A trainer beside what is shared. -/
structure TrainerState (μ : Type) where
  trainer : ModelTrainer μ
  store : TrainingStore μ

variable (e : Estimators μ)

/-- Fit both models. -/
def fitBoth (data : List WeightedSample) (t : ModelTrainer μ) :
    TrainResult × TrainResult × ModelTrainer μ :=
  let (h, historian) := Historian.fit e data t.historian
  let (p, predictor) := Predictor.fit e data t.predictor
  (h, p, { t with historian := historian, predictor := predictor })

/-- `OutcomeLearner` moves the threshold of the predictor. -/
def updateThreshold (outcomes : List PaperOutcomeRow) (t : ModelTrainer μ) : ModelTrainer μ :=
  let learner := t.outcomeLearner.loadFromDb t.modelScope.text outcomes
  let suggested := learner.suggestThreshold t.predictor.entryThreshold
  { t with
    outcomeLearner := suggested.2
    predictor := { t.predictor with entryThreshold := suggested.1 } }

@[simp] theorem updateThreshold_modelScope (outcomes : List PaperOutcomeRow) (t : ModelTrainer μ) :
    (t.updateThreshold outcomes).modelScope = t.modelScope := by
  unfold updateThreshold
  rfl

@[simp] theorem updateThreshold_outcomeLearner (outcomes : List PaperOutcomeRow)
    (t : ModelTrainer μ) :
    (t.updateThreshold outcomes).outcomeLearner =
      ((t.outcomeLearner.loadFromDb t.modelScope.text outcomes).suggestThreshold
        t.predictor.entryThreshold).2 := by
  rw [updateThreshold]

@[simp] theorem updateThreshold_historian (outcomes : List PaperOutcomeRow) (t : ModelTrainer μ) :
    (t.updateThreshold outcomes).historian = t.historian := by
  unfold updateThreshold
  rfl

@[simp] theorem updateThreshold_predictor (outcomes : List PaperOutcomeRow) (t : ModelTrainer μ) :
    (t.updateThreshold outcomes).predictor.toBaseModel = t.predictor.toBaseModel := by
  unfold updateThreshold
  rfl

/-- What a training has made of a trainer is saved if it is accurate enough. -/
def finish (fits : TrainResult × TrainResult × ModelTrainer μ) (mode : String)
    (samples : Option ℕ) (stamps : DeployStamps) (store : TrainingStore μ) :
    TrainAnswer × TrainerState μ :=
  let (answer, registry) := fits.2.2.maybeDeploy fits.1 fits.2.1 mode samples stamps store.registry
  (answer, ⟨fits.2.2, { store with registry := registry }⟩)

@[simp] theorem finish_trainer (fits : TrainResult × TrainResult × ModelTrainer μ) (mode : String)
    (samples : Option ℕ) (stamps : DeployStamps) (store : TrainingStore μ) :
    (finish fits mode samples stamps store).2.trainer = fits.2.2 := rfl

@[simp] theorem fitBoth_outcomeLearner (data : List WeightedSample) (t : ModelTrainer μ) :
    (fitBoth e data t).2.2.outcomeLearner = t.outcomeLearner := rfl

/-- `incremental`. -/
def incremental (stamps : DeployStamps) (s : TrainerState μ) : TrainAnswer × TrainerState μ :=
  let data := s.trainer.labeler.loadDataset none 5000 s.store.samples
  if data.length < Predictor.minTrades then (.notEnough "not enough data" none, s)
  else
    let (h, p, t) := fitBoth e data s.trainer
    finish (h, p, t.updateThreshold s.store.outcomes) "incremental" none stamps s.store

/-- The candles of a symbol, and the times at which its samples are written. -/
structure SymbolHistory where
  candles : List PriceCandle
  now : ℕ → String

/-- Label the histories of the symbols, one after the other: the number of samples. -/
def labelAll (l : Labeler) (featureHash : List ℚ → String) (history : String → SymbolHistory) :
    List String → EStateM LabelError StampedSamples ℕ
  | [] => pure 0
  | symbol :: symbols => do
    let (n, table) ← Program.fromExcept
      (l.runStamped featureHash symbol (history symbol).candles (history symbol).now (← get))
    set table
    return n + (← labelAll l featureHash history symbols)

/-- What `bootstrap` says of too few samples. -/
def tooFewText (samples : ℕ) : String :=
  "Bootstrap: недостаточно данных (" ++ toString samples ++ " образцов). Соберите больше OHLCV."

/-- `bootstrap`. -/
def bootstrap (featureHash : List ℚ → String) (history : String → SymbolHistory)
    (symbols : List String) (stamps : DeployStamps) (s : TrainerState μ) :
    Except LabelError TrainAnswer × TrainerState μ :=
  let symbols := if symbols = [] then bootstrapSymbolsDefault else symbols
  match labelAll s.trainer.labeler featureHash history symbols s.store.samples with
  | .error err samples => (.error err, { s with store := { s.store with samples := samples } })
  | .ok total samples =>
    let s := { s with store := { s.store with samples := samples } }
    if total < Historian.minTrades then (.ok (.notEnough (tooFewText total) (some total)), s)
    else
      let data := s.trainer.labeler.loadDataset none 50000 samples
      if data.length < Historian.minTrades then
        (.ok (.notEnough "dataset too small" (some data.length)), s)
      else
        let (answer, s) := finish (fitBoth e data s.trainer) "bootstrap" (some data.length) stamps
          s.store
        (.ok answer, s)

/-! ### Predicting -/

/-- `get_predict_fn` returns a function. -/
def isReady (t : ModelTrainer μ) : Bool := t.predictor.isReady Predictor.minTrades

/-- The function of `get_predict_fn`, which works on the models as they are when it is called. -/
def score (features : List ℚ) (t : ModelTrainer μ) : ℚ :=
  t.predictor.predict e features * (7 / 10) + t.historian.predict e features * (3 / 10)

end ModelTrainer

end Ml

end Botik
