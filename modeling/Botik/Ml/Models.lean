import Botik.Library.Json
import Botik.Ml.Labeler

/-!
# The models

`Historian` and `Predictor` of `ml/historian.py` and `ml/predictor.py`, over the classifiers of
scikit-learn, which are a parameter: a classifier is an object that a call changes, also a call that
raises. A fit on too few samples changes nothing and has accuracy zero. One that raises has accuracy
zero too, but the classifiers stay as they then are.

## Main definitions

* `Ml.Estimators` — what is used of scikit-learn
* `Ml.BaseModel` — `isReady`, `setModelObject`
* `Ml.Historian.fit`, `Ml.Historian.predict`, `Ml.Historian.predictRegime`
* `Ml.Predictor.fit`, `Ml.Predictor.predict`, `Ml.Predictor.shouldEnter`

## Main results

* `Historian.fit_cases`, `Predictor.fit_cases` — a fit has succeeded, or its accuracy is zero
-/

namespace Botik

namespace Ml

/-- The classifiers; a function that may raise is partial. -/
structure Estimators (μ : Type) where
  /-- The new classifiers of `_build_models`. -/
  regimeClassifier : μ
  patternClassifier : μ
  /-- The new classifier of `_build_model`. -/
  entryClassifier : μ
  /-- Raise `n_estimators`. -/
  addTrees : ℕ → μ → μ
  /-- `fit(X, y, sample_weight)`. -/
  fit : List WeightedSample → EStateM Unit μ Unit
  /-- `fit(X, regimes)`. -/
  fitRegimes : List (List ℚ) → List String → EStateM Unit μ Unit
  /-- The mean of `cross_val_score`, which works on copies. -/
  crossValAccuracy : ℕ → List WeightedSample → μ → Option PyFloat
  /-- `train_test_split`: the samples to train with and those to validate with. -/
  trainTestSplit : List WeightedSample → List WeightedSample × List WeightedSample
  /-- The mean of `predict(X) == y`. -/
  validationAccuracy : List WeightedSample → μ → Option PyFloat
  /-- `predict_proba(x)[0]`. -/
  predictProba : List ℚ → μ → Option (List ℚ)
  /-- `str(predict(x)[0])`. -/
  predictLabel : List ℚ → μ → Option String

/-- Classifiers that learn nothing. -/
def Estimators.quiet : Estimators ℕ where
  regimeClassifier := 0
  patternClassifier := 0
  entryClassifier := 0
  addTrees := fun n model => model + n
  fit := fun _ => pure ()
  fitRegimes := fun _ _ => pure ()
  crossValAccuracy := fun _ _ _ => some (.finite (1 / 2))
  trainTestSplit := fun data => (data, data)
  validationAccuracy := fun _ _ => some (.finite (1 / 2))
  predictProba := fun _ _ => some [1 / 2, 1 / 2]
  predictLabel := fun _ _ => some "trend"

/-- The result of a fit. -/
structure TrainResult where
  accuracy : PyFloat
  loss : PyFloat
  tradeCount : ℕ
  epochsDone : ℕ
  regimesDist : List (String × ℕ)
  deriving DecidableEq, Repr

/-- The result of a fit that failed. -/
def TrainResult.failed (tradeCount : ℕ) : TrainResult := ⟨.finite 0, .finite 0, tradeCount, 0, []⟩

/-- `accuracy >= minimum`. -/
def reaches (minimum : ℚ) : PyFloat → Bool
  | .finite q => minimum ≤ q
  | .infinity negative => ¬ negative
  | .nan => false

/-- `min_accuracy`, of both models. -/
def minAccuracy : ℚ := 52 / 100

/-! ### Every model -/

structure BaseModel (μ : Type) where
  fitted : Bool
  accuracy : PyFloat
  tradeCount : ℤ
  model : Option μ

namespace BaseModel

variable {μ : Type}

/-- A new model. -/
def initial : BaseModel μ := ⟨false, .finite 0, 0, none⟩

/-- `is_ready`, with the `min_trades` of the class. -/
def isReady (minTrades : ℤ) (m : BaseModel μ) : Bool :=
  m.fitted ∧ reaches minAccuracy m.accuracy ∧ minTrades ≤ m.tradeCount

/-- `set_model_object`. -/
def setModelObject (obj : Option μ) (accuracy : PyFloat) (tradeCount : ℤ) : BaseModel μ :=
  ⟨true, accuracy, tradeCount, obj⟩

end BaseModel

/-- The probability of the second class, of the only one where there is no second. -/
def scoreOf (default : ℚ) : Option (List ℚ) → ℚ
  | some (_ :: p :: _) => p
  | some [p] => p
  | _ => default

/-! ### The historian -/

/-- `Historian`. -/
structure Historian (μ : Type) extends BaseModel μ where
  regimeModel : Option μ
  patternModel : Option μ

namespace Historian

variable {μ : Type} (e : Estimators μ)

/-- `Historian.min_trades`. -/
def minTrades : ℕ := 100

/-- A new historian. -/
def initial : Historian μ := { BaseModel.initial with regimeModel := none, patternModel := none }

/-- One row of `_classify_regimes`. -/
def regimeOf (row : List ℚ) : String :=
  let pc20 := row.getD 2 0
  let atr := row.getD 3 0
  let vr5 := row.getD 6 1
  let spike := |row.getD 13 0|
  if 80 < spike ∧ 2 < vr5 then "spike"
  else if 150 < |pc20| ∧ 1 / 100 < atr then "trend"
  else if atr < 3 / 1000 then "chop"
  else "trend"

/-- `_classify_regimes`. -/
def classifyRegimes (rows : List (List ℚ)) : List String := rows.map regimeOf

/-- How often each of `REGIMES` comes. -/
def regimesDist (regimes : List String) : List (String × ℕ) :=
  ["trend", "chop", "spike", "unknown"].map fun r => (r, regimes.count r)

/-- The regimes are fitted where there are several. -/
def fitRegimes (rows : List (List ℚ)) (regimes : List String) : EStateM Unit μ Unit :=
  if 1 < regimes.dedup.length then e.fitRegimes rows regimes else pure ()

/-- The historian after a fit that did not raise. -/
def fittedBy (accuracy : PyFloat) (tradeCount : ℕ) (pattern regime : μ) : Historian μ where
  fitted := true
  accuracy := accuracy
  tradeCount := tradeCount
  model := some pattern
  regimeModel := some regime
  patternModel := some pattern

/-- `fit`. -/
def fit (data : List WeightedSample) (h : Historian μ) : TrainResult × Historian μ :=
  let n := data.length
  if n < minTrades then (.failed n, h)
  else
    let built := { h with regimeModel := some e.regimeClassifier }
    let rows := data.map WeightedSample.features
    let regimes := classifyRegimes rows
    match e.fit data e.patternClassifier with
    | .error _ pattern => (.failed n, { built with patternModel := some pattern })
    | .ok _ pattern =>
      match e.crossValAccuracy (min 5 (n / 20)) data pattern with
      | none => (.failed n, { built with patternModel := some pattern })
      | some accuracy =>
        match fitRegimes e rows regimes e.regimeClassifier with
        | .error _ regime =>
          (.failed n, { h with regimeModel := some regime, patternModel := some pattern })
        | .ok _ regime =>
          (⟨accuracy, .finite 0, n, 1, regimesDist regimes⟩, fittedBy accuracy n pattern regime)

/-- `predict`; a historian that was loaded has no `_pattern_model`. -/
def predict (features : List ℚ) (h : Historian μ) : ℚ :=
  match h.fitted, h.patternModel with
  | true, some pattern => scoreOf (1 / 2) (e.predictProba features pattern)
  | _, _ => 1 / 2

/-- `predict_regime`. -/
def predictRegime (features : List ℚ) (h : Historian μ) : String :=
  match h.fitted, h.regimeModel with
  | true, some regime => (e.predictLabel features regime).getD "unknown"
  | _, _ => "unknown"

/-- `set_model_object`: the other models stay. -/
def setModelObject (obj : Option μ) (accuracy : PyFloat) (tradeCount : ℤ) (h : Historian μ) :
    Historian μ :=
  { h with toBaseModel := .setModelObject obj accuracy tradeCount }

variable {e} {data : List WeightedSample} {h : Historian μ}

/-- A fit has succeeded, or its accuracy is zero and the model to save is the old one. -/
theorem fit_cases (e : Estimators μ) (data : List WeightedSample) (h : Historian μ) :
    (minTrades ≤ data.length ∧ ∃ accuracy pattern regime,
      (fit e data h).1.accuracy = accuracy ∧ (fit e data h).1.tradeCount = data.length ∧
        (fit e data h).2 = fittedBy accuracy data.length pattern regime) ∨
      (fit e data h).1 = .failed data.length ∧ (fit e data h).2.toBaseModel = h.toBaseModel := by
  unfold fit
  dsimp only
  split_ifs with hfew
  · exact Or.inr ⟨rfl, rfl⟩
  · cases e.fit data e.patternClassifier with
    | error _ pattern => exact Or.inr ⟨rfl, rfl⟩
    | ok _ pattern =>
      dsimp only
      cases e.crossValAccuracy (min 5 (data.length / 20)) data pattern with
      | none => exact Or.inr ⟨rfl, rfl⟩
      | some accuracy =>
        dsimp only
        cases fitRegimes e (data.map WeightedSample.features)
          (classifyRegimes (data.map WeightedSample.features)) e.regimeClassifier with
        | error _ regime => exact Or.inr ⟨rfl, rfl⟩
        | ok _ regime => exact Or.inl ⟨not_lt.mp hfew, accuracy, pattern, regime, rfl, rfl, rfl⟩

end Historian

/-! ### The predictor -/

/-- `Predictor`. -/
structure Predictor (μ : Type) extends BaseModel μ where
  entryThreshold : ℚ

namespace Predictor

variable {μ : Type} (e : Estimators μ)

/-- `Predictor.min_trades`. -/
def minTrades : ℕ := 50

/-- `DEFAULT_THRESHOLD`. -/
def defaultThreshold : ℚ := 55 / 100

/-- A new predictor. -/
def initial : Predictor μ := { BaseModel.initial with entryThreshold := defaultThreshold }

/-- The classifier to fit: a new one, or the old one with more trees. -/
def grown (p : Predictor μ) : μ :=
  match p.model with
  | none => e.entryClassifier
  | some model => e.addTrees 20 model

/-- `fit`. -/
def fit (data : List WeightedSample) (p : Predictor μ) : TrainResult × Predictor μ :=
  let n := data.length
  if n < minTrades then (.failed n, p)
  else
    let (train, val) := e.trainTestSplit data
    match e.fit train (grown e p) with
    | .error _ model => (.failed n, { p with model := some model })
    | .ok _ model =>
      match e.validationAccuracy val model with
      | none => (.failed n, { p with model := some model })
      | some accuracy =>
        (⟨accuracy, .finite 0, n, 1, []⟩,
          { p with fitted := true, accuracy := accuracy, tradeCount := n, model := some model })

/-- `predict`. -/
def predict (features : List ℚ) (p : Predictor μ) : ℚ :=
  match p.fitted, p.model with
  | true, some model => scoreOf 0 (e.predictProba features model)
  | _, _ => 0

/-- `should_enter`. -/
def shouldEnter (features : List ℚ) (patternScore : ℚ) (p : Predictor μ) : Bool :=
  if p.fitted = false then true
  else p.entryThreshold ≤ predict e features p * (7 / 10) + patternScore * (3 / 10)

/-- `set_model_object`: the threshold stays. -/
def setModelObject (obj : Option μ) (accuracy : PyFloat) (tradeCount : ℤ) (p : Predictor μ) :
    Predictor μ :=
  { p with toBaseModel := .setModelObject obj accuracy tradeCount }

/-- A fit has succeeded, or its accuracy is zero; it leaves the threshold. -/
theorem fit_cases (e : Estimators μ) (data : List WeightedSample) (p : Predictor μ) :
    (fit e data p).2.entryThreshold = p.entryThreshold ∧
      ((minTrades ≤ data.length ∧ ∃ accuracy model,
        (fit e data p).1.accuracy = accuracy ∧ (fit e data p).1.tradeCount = data.length ∧
          (fit e data p).2.toBaseModel =
            .setModelObject (some model) accuracy data.length) ∨
        (fit e data p).1 = .failed data.length ∧
          (fit e data p).2.accuracy = p.accuracy ∧ (fit e data p).2.fitted = p.fitted) := by
  unfold fit
  dsimp only
  split_ifs with hfew
  · exact ⟨rfl, Or.inr ⟨rfl, rfl, rfl⟩⟩
  · cases e.fit (e.trainTestSplit data).1 (grown e p) with
    | error _ model => exact ⟨rfl, Or.inr ⟨rfl, rfl, rfl⟩⟩
    | ok _ model =>
      dsimp only
      cases e.validationAccuracy (e.trainTestSplit data).2 model with
      | none => exact ⟨rfl, Or.inr ⟨rfl, rfl, rfl⟩⟩
      | some accuracy =>
        exact ⟨rfl, Or.inl ⟨not_lt.mp hfew, accuracy, model, rfl, rfl, rfl⟩⟩

end Predictor

end Ml

end Botik
