import Botik.Learning.Policy
import Botik.Storage.LifecycleStore
import Botik.Tools.ExportDataset

/-!
# The dataset of the lifecycle models

`ml_service/dataset.py`: the row of features the training makes of a row of `signals`.

`_select_rows` and `load_lifecycle_dataset` of `ml_service/dataset.py`: the signals in the order of
their times up to a limit, each with the aggregate of its executions and with its outcome. Then
`run_predict_once` of `ml_service/run_loop.py`, which scores them with the active model; what the
model answers is a parameter.

## Main definitions

* `featureNames` — `FEATURE_NAMES`
* `rowToFeatures` — `_row_to_features`
* `SameFeature` — two rows agree in a feature
* `DatasetRow`, `joinedRow`
* `selectRows` — `_select_rows`
* `LifecycleDataset`, `loadLifecycleDataset`
* `trainingRows`, `scoredRows` — the rows of `run_train_once` and of `run_predict_once`
* `runPredictOnce`
-/

namespace Botik

/-! ### The features of a stored signal -/

/-- `FEATURE_NAMES`. -/
def featureNames : List String :=
  ["spread_bps_at_signal", "depth_bid_quote_at_signal", "depth_ask_quote_at_signal",
    "slippage_buy_bps_est", "slippage_sell_bps_est", "trades_per_min_at_signal",
    "p95_trade_gap_ms_at_signal", "vol_1s_bps_at_signal", "min_required_spread_bps",
    "order_size_quote", "order_size_base", "action_entry_tick_offset", "action_order_qty_base",
    "action_target_profit", "action_safety_buffer", "action_min_top_book_qty",
    "action_stop_loss_pct", "action_take_profit_pct", "action_hold_timeout_sec",
    "action_maker_only", "side_sign", "symbol_hash", "profile_hash", "model_version_hash",
    "impulse_bps_at_signal", "spike_direction", "spike_strength_bps"]

/-- The sign of a side. -/
def sideSign (side : String) : ℚ :=
  let side := Text.lower (Text.strip side)
  if side = "buy" then 1 else if side = "sell" then -1 else 0

/-- `_row_to_features`, of a row of `signals`. -/
def rowToFeatures (row : SignalSnapshot) : List ℚ :=
  [row.spreadBps, row.depthBidQuote, row.depthAskQuote, row.slippageBuyBpsEst,
    row.slippageSellBpsEst, row.tradesPerMin, row.p95TradeGapMs, row.vol1sBps,
    row.minRequiredSpreadBps, row.orderSizeQuote, row.orderSizeBase,
    toFloat (row.actionEntryTickOffset.map Int.cast), toFloat row.actionOrderQtyBase,
    toFloat row.actionTargetProfit, toFloat row.actionSafetyBuffer,
    toFloat row.actionMinTopBookQty, toFloat row.actionStopLossPct,
    toFloat row.actionTakeProfitPct, toFloat (row.actionHoldTimeoutSec.map Int.cast),
    toFloat (row.actionMakerOnly.map Int.cast), sideSign row.side, stableHashToUnit row.symbol,
    stableHashToUnit (Text.orEmpty row.profileId), stableHashToUnit row.modelVersion,
    row.impulseBps, row.spikeDirection, row.spikeStrengthBps]

/-- Every feature has a name. -/
theorem length_rowToFeatures (row : SignalSnapshot) :
    (rowToFeatures row).length = featureNames.length := by
  simp [rowToFeatures, featureNames]

theorem length_buildFeatureRow (symbol : String) (snapshot : Option PairSnapshot)
    (profile : PolicyProfile) (modelVersion : String) :
    (buildFeatureRow symbol snapshot profile modelVersion).length = featureNames.length := by
  simp [buildFeatureRow, featureNames]

/-- Two rows of features agree in this one. -/
def SameFeature (name : String) (row row' : List ℚ) : Prop :=
  ∀ e ∈ featureNames.zip (row.zip row'), e.1 = name → e.2.1 = e.2.2

/-- Rows that have every feature are the same if they agree in each. -/
theorem eq_iff_sameFeature {row row' : List ℚ} (h : row.length = featureNames.length)
    (h' : row'.length = featureNames.length) :
    row = row' ↔ ∀ name ∈ featureNames, SameFeature name row row' := by
  constructor
  · rintro rfl name - e he -
    obtain ⟨n, hn, rfl⟩ := List.getElem_of_mem he
    simp
  · intro hall
    refine List.ext_getElem (h.trans h'.symm) fun n hn hn' => ?_
    have hlt : n < (featureNames.zip (row.zip row')).length := by simp; omega
    have hmem := List.getElem_mem hlt
    have hname := (List.of_mem_zip hmem).1
    simpa using hall _ hname _ hmem rfl

/-! ### The rows that are trained on and scored -/

/-- A row of the query: the columns of the signal, of its executions and of its outcome. -/
structure DatasetRow where
  signalId : String
  signal : SignalSnapshot
  entryFillTimeMs : ℤ
  totalExecQty : ℚ
  totalExecQuote : ℚ
  totalFeesQuote : ℚ
  outcome : Option OutcomeRow
  deriving DecidableEq, Repr

/-- The row of a signal; what was not executed counts as zero. -/
def joinedRow (db : LifecycleStore) (e : String × SignalSnapshot) : DatasetRow :=
  let agg := (fetchExecAgg db).get? e.1
  { signalId := e.1
    signal := e.2
    entryFillTimeMs := (agg.map ExecAgg.firstExecTimeMs).getD 0
    totalExecQty := (agg.map ExecAgg.totalExecQty).getD 0
    totalExecQuote := (agg.map ExecAgg.totalExecQuote).getD 0
    totalFeesQuote := (agg.map ExecAgg.totalFeesQuote).getD 0
    outcome := db.outcomes.get? e.1 }

/-- The `WHERE` of the query. -/
def selects (db : LifecycleStore) (closedOnly : Bool) (symbol : Option String)
    (e : String × SignalSnapshot) : Bool :=
  (!closedOnly || (db.outcomes.get? e.1).isSome) &&
    (Text.truthy symbol).all fun symbol => e.2.symbol = symbol

/-- The signals the query is about. -/
def candidates (signals : SignalTable) (db : LifecycleStore) (closedOnly : Bool)
    (symbol : Option String) : List (String × SignalSnapshot) :=
  signals.entries.filter (selects db closedOnly symbol)

/-- `ORDER BY s.ts_signal_ms ASC LIMIT ?`. -/
def selectedSignals (signals : SignalTable) (db : LifecycleStore) (limit : ℕ) (closedOnly : Bool)
    (symbol : Option String) : List (String × SignalSnapshot) :=
  ((candidates signals db closedOnly symbol).insertionSort fun a b =>
    a.2.tsSignalMs ≤ b.2.tsSignalMs).take limit

/-- `_select_rows`. -/
def selectRows (signals : SignalTable) (db : LifecycleStore) (limit : ℕ) (closedOnly : Bool)
    (symbol : Option String) : List DatasetRow :=
  (selectedSignals signals db limit closedOnly symbol).map (joinedRow db)

/-- `EDGE_CLIP_BPS`. -/
def edgeClipBps : ℚ := 5000

/-- What the training reads; an edge that is not known is none. -/
structure LifecycleDataset where
  rows : List DatasetRow
  X : List (List ℚ)
  yOpen : List ℕ
  yFill : List ℕ
  yEdge : List (Option ℚ)

/-- The clipped edge of a row. -/
def edgeOf (row : DatasetRow) : Option ℚ :=
  row.outcome.map fun o => max (-edgeClipBps) (min o.netEdgeBps edgeClipBps)

/-- `build_matrices_from_rows`. -/
def buildMatricesFromRows (rows : List DatasetRow) (targetEdgeBps : ℚ) : LifecycleDataset where
  rows := rows
  X := rows.map fun row => rowToFeatures row.signal
  yOpen := rows.map fun row => if (edgeOf row).any (targetEdgeBps < ·) then 1 else 0
  yFill := rows.map fun row => if 0 < row.totalExecQty then 1 else 0
  yEdge := rows.map edgeOf

/-- `load_lifecycle_dataset`. -/
def loadLifecycleDataset (signals : SignalTable) (db : LifecycleStore) (targetEdgeBps : ℚ)
    (limit : ℤ) (closedOnly : Bool) (symbol : Option String) : LifecycleDataset :=
  let symbol := (Text.truthy symbol).map fun symbol => Text.upper (Text.strip symbol)
  buildMatricesFromRows (selectRows signals db (max limit 1).toNat closedOnly symbol) targetEdgeBps

/-! ### Who reads them -/

/-- The rows `run_train_once` trains on. -/
def trainingRows (signals : SignalTable) (db : LifecycleStore) (targetEdgeBps : ℚ)
    (limitRows : ℤ) : List DatasetRow :=
  (loadLifecycleDataset signals db targetEdgeBps limitRows true none).rows

/-- The dataset `run_predict_once` scores. -/
def scoredDataset (signals : SignalTable) (db : LifecycleStore) (targetEdgeBps : ℚ)
    (predictLimitRows : ℤ) : LifecycleDataset :=
  loadLifecycleDataset signals db targetEdgeBps (max predictLimitRows 1) false none

/-- The rows `run_predict_once` scores. -/
def scoredRows (signals : SignalTable) (db : LifecycleStore) (targetEdgeBps : ℚ)
    (predictLimitRows : ℤ) : List DatasetRow :=
  (scoredDataset signals db targetEdgeBps predictLimitRows).rows

/-- What a model bundle answers: a probability for each row, and an expected edge. -/
structure BatchPrediction where
  openProbability : Option (List ℚ)
  expectedNetEdgeBps : Option (List ℚ)

structure PredictionRecord where
  signalId : String
  symbol : String
  side : String
  openProbability : ℚ
  expectedNetEdgeBps : Option ℚ
  deriving DecidableEq, Repr

/-- The records of the rows, in their order. -/
def predictionRecords (rows : List DatasetRow) (openProb : List ℚ)
    (expectedEdge : Option (List ℚ)) : List PredictionRecord :=
  (rows.zip openProb).zipIdx.map fun e =>
    { signalId := e.1.1.signalId
      symbol := e.1.1.signal.symbol
      side := e.1.1.signal.side
      openProbability := e.1.2
      expectedNetEdgeBps := expectedEdge.bind fun edges => edges[e.2]? }

/-- The order of the records: the more probable one first, then the one with the greater edge. -/
def PredictionRecord.Before (a b : PredictionRecord) : Prop :=
  b.openProbability < a.openProbability ∨
    b.openProbability = a.openProbability ∧
      b.expectedNetEdgeBps.getD 0 ≤ a.expectedNetEdgeBps.getD 0

instance : DecidableRel PredictionRecord.Before := fun _ _ => inferInstanceAs (Decidable (_ ∨ _))

/-- `run_predict_once` with the model of the active bundle, if there is one. -/
def runPredictOnce (predictBatch : Option (List (List ℚ) → BatchPrediction))
    (signals : SignalTable) (db : LifecycleStore) (targetEdgeBps : ℚ)
    (predictLimitRows predictTopK : ℤ) : List PredictionRecord :=
  match predictBatch with
  | none => []
  | some predictBatch =>
    let dataset := scoredDataset signals db targetEdgeBps predictLimitRows
    if dataset.X = [] then []
    else
      let pred := predictBatch dataset.X
      match pred.openProbability with
      | none => []
      | some openProb =>
        ((predictionRecords dataset.rows openProb pred.expectedNetEdgeBps).insertionSort
          PredictionRecord.Before).take (max predictTopK 1).toNat

/-! ### What is selected -/

section Selected

variable {signals : SignalTable} {db : LifecycleStore} {targetEdgeBps : ℚ} {limit : ℤ}

theorem scoredRows_eq (signals : SignalTable) (db : LifecycleStore) (targetEdgeBps : ℚ)
    (limit : ℤ) : scoredRows signals db targetEdgeBps limit =
      (selectedSignals signals db (max limit 1).toNat false none).map (joinedRow db) := by
  have hlimit : max (max limit 1) 1 = max limit 1 := max_eq_left (le_max_right _ _)
  change (selectedSignals signals db (max (max limit 1) 1).toNat false none).map _ = _
  rw [hlimit]

/-- The scored rows are about all signals. -/
theorem candidates_all : candidates signals db false none = signals.entries :=
  List.filter_eq_self.mpr fun _ _ => rfl

/-- Every record of a prediction is about a scored row. -/
theorem mem_runPredictOnce {predictBatch : Option (List (List ℚ) → BatchPrediction)} {topK : ℤ}
    {record : PredictionRecord}
    (h : record ∈ runPredictOnce predictBatch signals db targetEdgeBps limit topK) :
    record.signalId ∈ (scoredRows signals db targetEdgeBps limit).map DatasetRow.signalId := by
  cases predictBatch with
  | none => simp [runPredictOnce] at h
  | some predictBatch =>
    simp only [runPredictOnce] at h
    split_ifs at h with hempty
    · simp at h
    · split at h
      · simp at h
      · have hrecord := (List.mem_insertionSort _).mp (List.mem_of_mem_take h)
        obtain ⟨⟨⟨row, prob⟩, n⟩, he, rfl⟩ := List.mem_map.mp hrecord
        have hrow := (List.of_mem_zip (List.fst_mem_of_mem_zipIdx he)).1
        exact List.mem_map_of_mem hrow

end Selected

end Botik
