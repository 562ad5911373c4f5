import Mathlib.Data.Finset.Order
import Mathlib.Data.Fintype.EquivFin
import Botik.Library.Listing
import Botik.MlService.Dataset

/-!
# Whether the newest signals are used

The query of the dataset sorts the signals upwards by their time and keeps the first ones. So the
rows that are trained on and scored are the oldest ones, and a new signal is scored exactly where
the limit covers the whole table.

## Main definitions

* `candidateRows` — the rows the query may choose from
* `UsesNewest`

## Main results

* `selectRows_eq` — the query keeps the first rows of a sorted list
* `mem_scoredRows_insert_iff` — one newer signal
* `usesNewest_iff`
-/

namespace Botik

open Newest

variable {signals : SignalTable} {db : LifecycleStore} {targetEdgeBps : ℚ} {limit : ℕ}
  {closedOnly : Bool} {symbol : Option String} {g : String} {row : SignalSnapshot}

/-- The time a row is sorted by. -/
def DatasetRow.tsSignalMs (row : DatasetRow) : ℤ := row.signal.tsSignalMs

/-- The rows the query may choose from. -/
def candidateRows (signals : SignalTable) (db : LifecycleStore) (closedOnly : Bool)
    (symbol : Option String) : List DatasetRow :=
  (candidates signals db closedOnly symbol).map (joinedRow db)

/-- The query keeps the first rows of a list sorted by time. -/
theorem selectRows_eq (signals : SignalTable) (db : LifecycleStore) (limit : ℕ) (closedOnly : Bool)
    (symbol : Option String) : selectRows signals db limit closedOnly symbol =
      (sortedBy DatasetRow.tsSignalMs (candidateRows signals db closedOnly symbol)).take limit := by
  rw [selectRows, selectedSignals, List.map_take, sortedBy, candidateRows]
  congr 1
  exact List.map_insertionSort _ _ _ _ fun _ _ _ _ => Iff.rfl

theorem nodup_candidateRows (signals : SignalTable) (db : LifecycleStore) (closedOnly : Bool)
    (symbol : Option String) : (candidateRows signals db closedOnly symbol).Nodup := by
  have hids : ((candidateRows signals db closedOnly symbol).map DatasetRow.signalId).Nodup := by
    rw [candidateRows, List.map_map]
    exact signals.nodupKeys.sublist (List.filter_sublist.map Prod.fst)
  exact hids.of_map _

/-- The rows the query keeps are the most recent ones exactly where it keeps all, or where all are
of one time. -/
theorem areGreatest_selectRows_iff (hlimit : 0 < limit) :
    AreGreatest DatasetRow.tsSignalMs limit (candidateRows signals db closedOnly symbol)
        (selectRows signals db limit closedOnly symbol) ↔
      (candidateRows signals db closedOnly symbol).length ≤ limit ∨
        ∀ row ∈ candidateRows signals db closedOnly symbol,
          ∀ row' ∈ candidateRows signals db closedOnly symbol,
            row.tsSignalMs = row'.tsSignalMs := by
  rw [selectRows_eq]
  exact areGreatest_take_iff (nodup_candidateRows signals db closedOnly symbol) hlimit

theorem length_candidateRows_all :
    (candidateRows signals db false none).length = signals.entries.length := by
  rw [candidateRows, List.length_map, candidates_all]

/-- The candidates with one signal more. -/
theorem candidateRows_insert (hnew : signals.get? g = none) :
    candidateRows (signals.insertSignalSnapshot g row) db false none =
      candidateRows signals db false none ++ [joinedRow db (g, row)] := by
  rw [candidateRows, candidates_all, candidateRows, candidates_all,
    SignalTable.insertSignalSnapshot, Dict.insertIfAbsent_of_none hnew,
    Dict.entries_set_of_get?_eq_none hnew, List.map_append]
  rfl

/-- A signal newer than all others is scored exactly where the limit covers the whole table. -/
theorem mem_scoredRows_insert_iff (hnew : signals.get? g = none)
    (hnewer : ∀ e ∈ signals.entries, e.2.tsSignalMs < row.tsSignalMs) (limit : ℤ) :
    joinedRow db (g, row) ∈
        scoredRows (signals.insertSignalSnapshot g row) db targetEdgeBps limit ↔
      signals.entries.length + 1 ≤ (max limit 1).toNat := by
  have hrows : candidateRows (signals.insertSignalSnapshot g row) db false none =
      candidateRows signals db false none ++ [joinedRow db (g, row)] := candidateRows_insert hnew
  have hnodup := nodup_candidateRows (signals.insertSignalSnapshot g row) db false none
  rw [hrows] at hnodup
  rw [scoredRows_eq, ← selectRows, selectRows_eq, hrows, ← length_candidateRows_all]
  refine mem_take_concat_iff hnodup fun r hr => ?_
  rw [candidateRows, candidates_all] at hr
  obtain ⟨e, he, rfl⟩ := List.mem_map.mp hr
  exact hnewer e he

/-- The limit of a call of `load_lifecycle_dataset`. -/
def atLeastOne (limit : ℤ) : ℕ := (max limit 1).toNat

theorem atLeastOne_pos (limit : ℤ) : 0 < atLeastOne limit := by
  have hone : (1 : ℤ) ≤ max limit 1 := le_max_right _ _
  unfold atLeastOne
  omega

/-- Training and prediction use the most recent signals, and a newer signal is scored next. -/
structure UsesNewest (signals : SignalTable) (db : LifecycleStore) (targetEdgeBps : ℚ)
    (trainLimit predictLimit : ℤ) : Prop where
  trained : AreGreatest DatasetRow.tsSignalMs (atLeastOne trainLimit)
    (candidateRows signals db true none) (trainingRows signals db targetEdgeBps trainLimit)
  scored : AreGreatest DatasetRow.tsSignalMs (atLeastOne predictLimit)
    (candidateRows signals db false none) (scoredRows signals db targetEdgeBps predictLimit)
  next : ∀ g row, signals.get? g = none →
    (∀ e ∈ signals.entries, e.2.tsSignalMs < row.tsSignalMs) →
      joinedRow db (g, row) ∈
        scoredRows (signals.insertSignalSnapshot g row) db targetEdgeBps predictLimit

/-- A signal of a time. -/
def signalAt (tsSignalMs : ℤ) : SignalSnapshot where
  tsSignalMs := tsSignalMs
  symbol := "BTCUSDT"
  side := "Buy"
  bestBid := 100
  bestAsk := 101
  mid := 201 / 2
  spreadBps := 100
  depthBidQuote := 1000
  depthAskQuote := 1000
  slippageBuyBpsEst := 1
  slippageSellBpsEst := 1
  tradesPerMin := 60
  p95TradeGapMs := 500
  vol1sBps := 2
  impulseBps := 0
  spikeDirection := 0
  spikeStrengthBps := 0
  minRequiredSpreadBps := 8
  scannerStatus := "PASS"
  modelVersion := "v1"
  profileId := none
  actionEntryTickOffset := none
  actionOrderQtyBase := none
  actionTargetProfit := none
  actionSafetyBuffer := none
  actionMinTopBookQty := none
  actionStopLossPct := none
  actionTakeProfitPct := none
  actionHoldTimeoutSec := none
  actionMakerOnly := none
  policyUsed := "default"
  predOpenProb := none
  predExpEdgeBps := none
  activeModelId := ""
  modelId := ""
  orderSizeQuote := 100
  orderSizeBase := 1
  entryPrice := 100

/-- A table has a newer signal to come. -/
theorem exists_newer (signals : SignalTable) :
    ∃ g ts, signals.get? g = none ∧ ∀ e ∈ signals.entries, e.2.tsSignalMs < ts := by
  obtain ⟨g, hg⟩ := Infinite.exists_notMem_finset signals.keys.toFinset
  obtain ⟨top, htop⟩ := Finset.exists_le (signals.entries.map fun e => e.2.tsSignalMs).toFinset
  refine ⟨g, top + 1, ?_, fun e he => ?_⟩
  · exact Dict.get?_eq_none_iff.mpr fun hmem => hg (List.mem_toFinset.mpr hmem)
  · exact Int.lt_add_one_of_le (htop _ (List.mem_toFinset.mpr (List.mem_map.mpr ⟨e, he, rfl⟩)))

/-- Training and prediction use the most recent signals if and only if the limit of the prediction
exceeds the number of signals, and that of the training covers the closed ones or these are all of
one time. -/
theorem usesNewest_iff (signals : SignalTable) (db : LifecycleStore) (targetEdgeBps : ℚ)
    (trainLimit predictLimit : ℤ) :
    UsesNewest signals db targetEdgeBps trainLimit predictLimit ↔
      signals.entries.length + 1 ≤ atLeastOne predictLimit ∧
        ((candidateRows signals db true none).length ≤ atLeastOne trainLimit ∨
          ∀ row ∈ candidateRows signals db true none,
            ∀ row' ∈ candidateRows signals db true none, row.tsSignalMs = row'.tsSignalMs) := by
  have htrained : trainingRows signals db targetEdgeBps trainLimit =
      selectRows signals db (atLeastOne trainLimit) true none := rfl
  have hscored : scoredRows signals db targetEdgeBps predictLimit =
      selectRows signals db (atLeastOne predictLimit) false none := scoredRows_eq ..
  constructor
  · intro h
    obtain ⟨g, ts, hnew, hnewer⟩ := exists_newer signals
    have htrain := h.trained
    rw [htrained] at htrain
    have hnext := h.next g (signalAt ts) hnew hnewer
    exact ⟨(mem_scoredRows_insert_iff hnew hnewer predictLimit).mp hnext,
      (areGreatest_selectRows_iff (atLeastOne_pos trainLimit)).mp htrain⟩
  · rintro ⟨hpredict, htrain⟩
    constructor
    · rw [htrained]
      exact (areGreatest_selectRows_iff (atLeastOne_pos trainLimit)).mpr htrain
    · rw [hscored]
      refine (areGreatest_selectRows_iff (atLeastOne_pos predictLimit)).mpr (Or.inl ?_)
      rw [length_candidateRows_all]
      omega
    · intro g row hnew hnewer
      exact (mem_scoredRows_insert_iff hnew hnewer predictLimit).mpr hpredict

/-- So many signals, one each second. -/
def signalsEachSecond (count : ℕ) : SignalTable where
  entries := (List.range count).map fun n =>
    (String.ofList (List.replicate n 's'), signalAt (1000 * n))
  nodupKeys := by
    rw [List.map_map]
    refine List.nodup_range.map fun m n h => ?_
    have hlength := congrArg String.length h
    simpa using hlength

theorem length_signalsEachSecond (count : ℕ) :
    (signalsEachSecond count).entries.length = count := by
  simp [signalsEachSecond]

/-- With a limit of five hundred rows the signal after five hundred others is not scored. -/
theorem newer_signal_is_not_scored : ¬ ∀ signals db targetEdgeBps trainLimit predictLimit,
    UsesNewest signals db targetEdgeBps trainLimit predictLimit := by
  intro h
  have hnew : (signalsEachSecond 500).get? "newer" = none := by decide +kernel
  have hnewer : ∀ e ∈ (signalsEachSecond 500).entries, e.2.tsSignalMs < 500000 := by
    decide +kernel
  have hscored := (h (signalsEachSecond 500) .empty 0 500 500).next "newer" (signalAt 500000)
    hnew hnewer
  have hcovered := (mem_scoredRows_insert_iff hnew hnewer 500).mp hscored
  rw [length_signalsEachSecond] at hcovered
  exact absurd hcovered (by decide)

end Botik
