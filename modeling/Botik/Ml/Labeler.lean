import Mathlib.Data.List.Sort
import Botik.Library.Dict
import Botik.Ml.FeatureEngine
import Botik.Library.Upserts

/-!
# Labelling and labelled samples

`Labeler.run` of `ml/labeler.py`: a window slides over the candles of a symbol; the features of a
sample are built from the candles before its index, and its label tells whether the candles from
there on reach the target upwards or downwards. Samples of equal features are stored once.

`ml/labeler.py` writes `labeled_samples` from historical candles and from closed trades, each row
with the time it is made at, and reads the newest rows of a scope back as a dataset. The table has
one unique hash for all scopes and sources, and a row whose hash is there already is ignored.

## Main definitions

* `Labeler`, `Labeler.considered` — the parameters, and the indexes of the loop
* `Labeler.window`, `Labeler.future` — the candles before an index and from there on
* `Labeler.featuresAt`, `Labeler.labelAt`, `Labeler.sampleAt`
* `Labeler.run`
* `StampedRow`, `StampedSamples`
* `Labeler.writeStamped`, `runStamped` — `_write_samples` and `run`, with the times
* `Labeler.labelLiveTrade`
* `WeightedSample`, `Labeler.loadDataset`

## Main results

* `forgets_writeStamped` — without the times this is `Labeler.writeSamples`
-/

namespace Botik

/-! ### Labelling of candles -/

/-- `MIN_CANDLES`. -/
def minCandles : ℕ := 25

/-- The parameters of a `Labeler`. -/
structure Labeler where
  modelScope : String
  forwardCandles : ℕ
  profitTarget : ℚ
  deriving DecidableEq, Repr

/-- The defaults of the constructor. -/
def Labeler.default : Labeler := ⟨"futures", 5, 8 / 1000⟩

/-- What the loop raises. -/
inductive LabelError
  /-- An index behind the end. -/
  | index
  /-- The greatest of no numbers. -/
  | emptySequence
  deriving DecidableEq, Repr

/-- Features and label of an index. -/
structure LabeledSample where
  features : List ℚ
  label : ℤ
  deriving DecidableEq, Repr

/-- A row of `labeled_samples`, without its key. -/
structure LabeledRow where
  symbol : String
  modelScope : String
  features : List ℚ
  label : ℤ
  source : String
  weight : ℚ
  deriving DecidableEq, Repr

/-- The table `labeled_samples`, by the unique hash of the features. -/
abbrev LabeledSamples := Dict String LabeledRow

namespace Labeler

variable (l : Labeler) (candles : List PriceCandle) (i : ℕ)

/-- `range(MIN_CANDLES, len(candles) - self.forward_candles)`. -/
def considered (length : ℕ) : List ℕ :=
  List.range' minCandles (length - l.forwardCandles - minCandles)

/-- `candles[i - MIN_CANDLES: i]`. -/
def window : List PriceCandle := (candles.take i).drop (i - minCandles)

/-- `candles[i: i + self.forward_candles]`. -/
def future : List PriceCandle := (candles.drop i).take l.forwardCandles

/-- The features of an index. -/
def featuresAt : Option (List ℚ) :=
  if l.modelScope = "futures" then
    FeatureEngine.buildFuturesFeatures (window candles i) (1 / 2)
  else FeatureEngine.buildSpotFeatures (window candles i) 0 (1 / 2) 0 0 0

/-- The label of an index; `none` where the move is neutral, or the entry price zero. -/
def labelAt : Except LabelError (Option ℤ) :=
  match candles[i - 1]? with
  | none => .error .index
  | some entry =>
    if entry.close = 0 then .ok none
    else
      match ((l.future candles i).map PriceCandle.high).max?,
        ((l.future candles i).map PriceCandle.low).min? with
      | some high, some low =>
        let maxMove := (high - entry.close) / entry.close
        let minMove := (low - entry.close) / entry.close
        if l.profitTarget ≤ maxMove then .ok (some 1)
        else if minMove ≤ -l.profitTarget then .ok (some 0)
        else .ok none
      | _, _ => .error .emptySequence

/-- One iteration of the loop: a sample, or nothing. -/
def sampleAt : Except LabelError (Option LabeledSample) :=
  match l.featuresAt candles i with
  | none => .ok none
  | some features => do
    let label ← l.labelAt candles i
    return label.map fun label => ⟨features, label⟩

/-- The samples of some indexes, one after the other. -/
def collect : List ℕ → Except LabelError (List LabeledSample)
  | [] => .ok []
  | i :: is => do
    let sample ← l.sampleAt candles i
    let samples ← collect is
    return sample.toList ++ samples

/-- `_write_samples`: a row whose hash is there already is ignored, and counted all the same. -/
def writeSamples (featureHash : List ℚ → String) (symbol : String) (samples : List LabeledSample)
    (table : LabeledSamples) : ℕ × LabeledSamples :=
  (samples.length, samples.foldl (fun table sample =>
    table.insertIfAbsent (featureHash sample.features)
      ⟨symbol, l.modelScope, sample.features, sample.label, "historical", 1⟩) table)

/-- `run`, on the candles of a symbol; the hash is that of the stored vector. -/
def run (featureHash : List ℚ → String) (symbol : String) (table : LabeledSamples) :
    Except LabelError (ℕ × LabeledSamples) :=
  if candles.length < minCandles + l.forwardCandles + 1 then .ok (0, table)
  else do
    let samples ← l.collect candles (l.considered candles.length)
    return l.writeSamples featureHash symbol samples table

end Labeler

/-! ### The table of labelled samples -/

/-- A row of `labeled_samples`, without its key. -/
structure StampedRow extends LabeledRow where
  createdAtUtc : String
  deriving DecidableEq, Repr

/-- The table `labeled_samples` with the times, by the unique hash of the features. -/
abbrev StampedSamples := Dict String StampedRow

/-- A row of the dataset. -/
structure WeightedSample where
  features : List ℚ
  label : ℤ
  weight : ℚ
  deriving DecidableEq, Repr

/-- `weight or 1.0`. -/
def StampedRow.weighted (row : StampedRow) : WeightedSample where
  features := row.features
  label := row.label
  weight := if row.weight = 0 then 1 else row.weight

namespace Labeler

/-- `LIVE_WEIGHT_MULT`. -/
def liveWeightMult : ℚ := 3

variable (l : Labeler) (featureHash : List ℚ → String) (symbol : String)

/-- What a historical sample writes. -/
def historicalWrite (sample : LabeledSample) (now : String) : String × StampedRow :=
  (featureHash sample.features,
    { symbol := symbol
      modelScope := l.modelScope
      features := sample.features
      label := sample.label
      source := "historical"
      weight := 1
      createdAtUtc := now })

/-- What the samples write; each has its own time. -/
def historicalWrites (samples : List LabeledSample) (now : ℕ → String) :
    List (String × StampedRow) :=
  samples.zipIdx.map fun e => l.historicalWrite featureHash symbol e.1 (now e.2)

/-- `_write_samples`: an ignored row is counted all the same. -/
def writeStamped (samples : List LabeledSample) (now : ℕ → String) (table : StampedSamples) :
    ℕ × StampedSamples :=
  (samples.length, Dict.insertAll (l.historicalWrites featureHash symbol samples now) table)

/-- `run`, on the candles of a symbol. -/
def runStamped (candles : List PriceCandle) (now : ℕ → String) (table : StampedSamples) :
    Except LabelError (ℕ × StampedSamples) :=
  if candles.length < minCandles + l.forwardCandles + 1 then .ok (0, table)
  else do
    let samples ← l.collect candles (l.considered candles.length)
    return l.writeStamped featureHash symbol samples now table

/-- The label of a closed trade. -/
def liveLabel (wasProfitable : Bool) : ℤ := if wasProfitable then 1 else 0

/-- What a closed trade writes. -/
def liveWrite (features : List ℚ) (wasProfitable : Bool) (now : String) : String × StampedRow :=
  (featureHash features,
    { symbol := symbol
      modelScope := l.modelScope
      features := features
      label := liveLabel wasProfitable
      source := "live_trade"
      weight := liveWeightMult
      createdAtUtc := now })

/-- `label_live_trade`. -/
def labelLiveTrade (features : List ℚ) (wasProfitable : Bool) (now : String)
    (table : StampedSamples) : StampedSamples :=
  Dict.insertAll [l.liveWrite featureHash symbol features wasProfitable now] table

/-- The rows of a scope, of a symbol if one is given. -/
def scopeRows (symbol : Option String) (table : StampedSamples) : List StampedRow :=
  (table.entries.map Prod.snd).filter fun row =>
    row.modelScope = l.modelScope ∧ ∀ s ∈ (Text.truthy symbol).toList, row.symbol = s

/-- `load_dataset`: the newest rows up to the limit. -/
def loadDataset (symbol : Option String) (limit : ℕ) (table : StampedSamples) :
    List WeightedSample :=
  (((l.scopeRows symbol table).insertionSort fun a b => b.createdAtUtc ≤ a.createdAtUtc).take
    limit).map StampedRow.weighted

/-- The table without the times. -/
def Forgets (table : LabeledSamples) (stamped : StampedSamples) : Prop :=
  ∀ hash, table.get? hash = (stamped.get? hash).map StampedRow.toLabeledRow

section Facts

variable {l featureHash symbol} {table : StampedSamples} {samples : List LabeledSample}
  {now : ℕ → String}

@[simp] theorem length_historicalWrites :
    (l.historicalWrites featureHash symbol samples now).length = samples.length := by
  simp [historicalWrites]

theorem map_fst_historicalWrites :
    (l.historicalWrites featureHash symbol samples now).map Prod.fst =
      samples.map fun sample => featureHash sample.features := by
  unfold historicalWrites
  rw [List.map_map]
  conv_rhs => rw [← List.zipIdx_map_fst 0 samples, List.map_map]
  rfl

theorem Forgets.insertIfAbsent {table : LabeledSamples} {stamped : StampedSamples}
    (h : Forgets table stamped) (hash : String) (row : StampedRow) :
    Forgets (table.insertIfAbsent hash row.toLabeledRow) (stamped.insertIfAbsent hash row) := by
  intro k
  by_cases hk : k = hash
  · subst hk
    rw [Dict.get?_insertIfAbsent_self, Dict.get?_insertIfAbsent_self, h k]
    cases stamped.get? k <;> rfl
  · rw [Dict.get?_insertIfAbsent_of_ne hk, Dict.get?_insertIfAbsent_of_ne hk, h k]

theorem Forgets.insertAll {table : LabeledSamples} {stamped : StampedSamples}
    (h : Forgets table stamped) (samples : List LabeledSample) (n : ℕ) :
    Forgets (samples.foldl (fun table sample =>
        table.insertIfAbsent (featureHash sample.features)
          ⟨symbol, l.modelScope, sample.features, sample.label, "historical", 1⟩) table)
      (Dict.insertAll ((samples.zipIdx n).map fun e =>
        l.historicalWrite featureHash symbol e.1 (now e.2)) stamped) := by
  induction samples generalizing table stamped n with
  | nil => exact h
  | cons sample samples ih =>
    exact ih (h.insertIfAbsent (featureHash sample.features)
      (l.historicalWrite featureHash symbol sample (now n)).2) (n + 1)

/-- Without the times the table is written as `Labeler.writeSamples` does. -/
theorem forgets_writeStamped {table : LabeledSamples} {stamped : StampedSamples}
    (h : Forgets table stamped) :
    (l.writeSamples featureHash symbol samples table).1 =
        (l.writeStamped featureHash symbol samples now stamped).1 ∧
      Forgets (l.writeSamples featureHash symbol samples table).2
        (l.writeStamped featureHash symbol samples now stamped).2 :=
  ⟨rfl, h.insertAll samples 0⟩

section Run

variable {candles : List PriceCandle}

theorem runStamped_of_few (h : candles.length < minCandles + l.forwardCandles + 1) :
    l.runStamped featureHash symbol candles now table = .ok (0, table) := if_pos h

theorem runStamped_of_collected (h : minCandles + l.forwardCandles + 1 ≤ candles.length)
    (hcollected : l.collect candles (l.considered candles.length) = .ok samples) :
    l.runStamped featureHash symbol candles now table =
      .ok (l.writeStamped featureHash symbol samples now table) := by
  rw [runStamped, if_neg (not_lt.mpr h), hcollected]
  rfl

theorem runStamped_of_raised {e : LabelError}
    (h : minCandles + l.forwardCandles + 1 ≤ candles.length)
    (hraised : l.collect candles (l.considered candles.length) = .error e) :
    l.runStamped featureHash symbol candles now table = .error e := by
  rw [runStamped, if_neg (not_lt.mpr h), hraised]
  rfl

end Run

/-- Where the limit is not reached, the dataset has every row of the scope. -/
theorem mem_loadDataset_iff {limit : ℕ} {x : WeightedSample} {symbol : Option String}
    (h : (l.scopeRows symbol table).length ≤ limit) :
    x ∈ l.loadDataset symbol limit table ↔
      ∃ row ∈ l.scopeRows symbol table, row.weighted = x := by
  unfold loadDataset
  rw [List.take_of_length_le (by rwa [List.length_insertionSort]), List.mem_map]
  simp only [List.mem_insertionSort]

end Facts

end Labeler

end Botik
