import Botik.Library.RunningStatistics
import Botik.Main.World
import Botik.Storage.LifecycleStore

/-!
# The exported dataset

`tools/export_trade_dataset.py`: one row for each signal, with the aggregates of its executions, the
prices of its orders and its outcome.

## Main definitions

* `ExecAgg`, `fetchExecAgg` — the executions of each signal, aggregated in the database
* `OrderPrices`, `fetchOrderPrices`
* `ExportRow`, `exportDataset`
-/

namespace Botik

/-! ### Aggregates -/

/-- What the executions of a signal add up to. -/
structure ExecAgg where
  firstExecTimeMs : ℤ
  lastExecTimeMs : ℤ
  totalExecQty : ℚ
  totalExecQuote : ℚ
  totalFeesQuote : ℚ
  deriving DecidableEq, Repr

/-- The aggregate of some executions. -/
def ExecAgg.ofRows (rows : List ExecutionRow) : ExecAgg where
  firstExecTimeMs := (rows.map ExecutionRow.execTimeMs).min?.getD 0
  lastExecTimeMs := (rows.map ExecutionRow.execTimeMs).max?.getD 0
  totalExecQty := (rows.map ExecutionRow.execQty).sum
  totalExecQuote := (rows.map fun row => row.execPrice * row.execQty).sum
  totalFeesQuote := (rows.map ExecutionRow.execFee).sum

/-- The executions that belong to a signal, with it. -/
def signalExecutions (db : LifecycleStore) : List (String × ExecutionRow) :=
  db.executionsRaw.entries.filterMap fun e => (Text.truthy e.2.signalId).map fun g => (g, e.2)

/-- `_fetch_exec_agg`. -/
def fetchExecAgg (db : LifecycleStore) : Dict String ExecAgg :=
  Dict.groupBy ExecAgg.ofRows (signalExecutions db)

/-- Entry and exit price of the orders of a signal. -/
structure OrderPrices where
  entryPrice : Option ℚ
  exitPrice : Option ℚ
  deriving DecidableEq, Repr

/-- The greatest of the prices that are there. -/
def OrderPrices.ofRows (rows : List OrderRow) : OrderPrices where
  entryPrice := (rows.filterMap OrderRow.entryPrice).max?
  exitPrice := (rows.filterMap OrderRow.exitPrice).max?

/-- `_fetch_order_prices`: the orders joined with their signals. -/
def fetchOrderPrices (db : LifecycleStore) (legacy : LegacyStore) : Dict String OrderPrices :=
  Dict.groupBy OrderPrices.ofRows <| db.orderSignalMap.entries.flatMap fun e =>
    match Text.truthy e.2 with
    | none => []
    | some g => (legacy.orders.filter (·.orderLinkId = e.1)).map fun row => (g, row)

/-! ### Rows -/

/-- One row of the dataset. -/
structure ExportRow where
  signalId : String
  symbol : String
  side : String
  tsSignalMs : ℤ
  spreadBpsAtSignal : ℚ
  depthBidQuoteAtSignal : ℚ
  depthAskQuoteAtSignal : ℚ
  slippageBuyBpsEst : ℚ
  slippageSellBpsEst : ℚ
  tradesPerMinAtSignal : ℚ
  p95TradeGapMsAtSignal : ℚ
  vol1sBpsAtSignal : ℚ
  minRequiredSpreadBps : ℚ
  policyUsed : String
  profileId : Option String
  orderNotionalQuote : ℚ
  entryPrice : ℚ
  exitPrice : Option ℚ
  entryVwap : Option ℚ
  exitVwap : Option ℚ
  totalExecQty : ℚ
  totalFeesQuote : ℚ
  netPnlQuote : Option ℚ
  netEdgeBps : Option ℚ
  labelOpen : ℕ
  labelFill : ℕ
  deriving DecidableEq, Repr

/-- `entry_vwap_exec`: the average price of all executions, on whichever side. -/
def entryVwapExec (totalExecQty totalExecQuote : ℚ) : Option ℚ :=
  if 0 < totalExecQty then some (totalExecQuote / totalExecQty) else none

/-- The row of a signal. -/
def exportRow (signalId : String) (row : SignalSnapshot) (agg : Option ExecAgg)
    (out : Option OutcomeRow) (prices : Option OrderPrices) : ExportRow :=
  let totalExecQty := (agg.map ExecAgg.totalExecQty).getD 0
  let totalExecQuote := (agg.map ExecAgg.totalExecQuote).getD 0
  { signalId := signalId
    symbol := row.symbol
    side := row.side
    tsSignalMs := row.tsSignalMs
    spreadBpsAtSignal := row.spreadBps
    depthBidQuoteAtSignal := row.depthBidQuote
    depthAskQuoteAtSignal := row.depthAskQuote
    slippageBuyBpsEst := row.slippageBuyBpsEst
    slippageSellBpsEst := row.slippageSellBpsEst
    tradesPerMinAtSignal := row.tradesPerMin
    p95TradeGapMsAtSignal := row.p95TradeGapMs
    vol1sBpsAtSignal := row.vol1sBps
    minRequiredSpreadBps := row.minRequiredSpreadBps
    policyUsed := row.policyUsed
    profileId := row.profileId
    orderNotionalQuote := row.orderSizeQuote
    entryPrice := (prices.bind OrderPrices.entryPrice).getD row.entryPrice
    exitPrice := (prices.bind OrderPrices.exitPrice).or (out.map OutcomeRow.exitVwap)
    entryVwap := (out.map OutcomeRow.entryVwap).or (entryVwapExec totalExecQty totalExecQuote)
    exitVwap := out.map OutcomeRow.exitVwap
    totalExecQty := totalExecQty
    totalFeesQuote := (agg.map ExecAgg.totalFeesQuote).getD 0
    netPnlQuote := out.map OutcomeRow.netPnlQuote
    netEdgeBps := out.map OutcomeRow.netEdgeBps
    labelOpen := if out.isSome then 1 else 0
    labelFill := if 0 < totalExecQty then 1 else 0 }

/-- `export_dataset`: a row for each signal, in the order of their times. -/
def exportDataset (signals : SignalTable) (w : World) : List ExportRow :=
  let execAgg := fetchExecAgg w.lifecycle
  let orderPrices := fetchOrderPrices w.lifecycle w.legacy
  (signals.entries.insertionSort fun a b => a.2.tsSignalMs ≤ b.2.tsSignalMs).map fun e =>
    exportRow e.1 e.2 (execAgg.get? e.1) (w.lifecycle.outcomes.get? e.1) (orderPrices.get? e.1)

/-! ### What is exported of a signal -/

section Exported

variable {db : LifecycleStore} {g : String}

/-- The executions of a signal. -/
def rowsOfSignal (db : LifecycleStore) (g : String) : List ExecutionRow :=
  (db.executionsRaw.entries.map Prod.snd).filter (·.signalId = some g)

theorem mem_rowsOfSignal {row : ExecutionRow} :
    row ∈ rowsOfSignal db g ↔
      (∃ execId, (execId, row) ∈ db.executionsRaw.entries) ∧ row.signalId = some g := by
  simp [rowsOfSignal]

/-- The group of a signal consists of its executions. -/
theorem valuesOf_signalExecutions (db : LifecycleStore) (hg : g ≠ "") :
    Dict.valuesOf (signalExecutions db) g = rowsOfSignal db g := by
  unfold signalExecutions rowsOfSignal
  induction db.executionsRaw.entries with
  | nil => rfl
  | cons e es ih =>
    rw [List.filterMap_cons, List.map_cons]
    by_cases hrow : e.2.signalId = some g
    · have htruthy : Text.truthy e.2.signalId = some g :=
        Option.filter_eq_some_iff.mpr ⟨hrow, decide_eq_true hg⟩
      rw [htruthy, List.filter_cons]
      simp [hrow, Dict.valuesOf_cons_self, ih]
    · rw [List.filter_cons, if_neg (by simpa using hrow)]
      cases htruthy : Text.truthy e.2.signalId with
      | none => simpa using ih
      | some g' =>
        have hne : g' ≠ g := by
          rintro rfl
          exact hrow (Option.filter_eq_some_iff.mp htruthy).1
        simp only [Option.map_some, Dict.valuesOf_cons_of_ne hne, ih]

/-- The aggregate of a signal; one without executions has none. -/
theorem get?_fetchExecAgg (db : LifecycleStore) (hg : g ≠ "") :
    (fetchExecAgg db).get? g =
      if rowsOfSignal db g = [] then none else some (ExecAgg.ofRows (rowsOfSignal db g)) := by
  rw [fetchExecAgg, Dict.get?_groupBy, valuesOf_signalExecutions db hg]
  by_cases hnil : rowsOfSignal db g = []
  · have hnot : g ∉ (signalExecutions db).map Prod.fst := by
      rw [← Dict.valuesOf_eq_nil_iff, valuesOf_signalExecutions db hg]
      exact hnil
    rw [if_neg hnot, if_pos hnil]
  · have hmem : g ∈ (signalExecutions db).map Prod.fst := by
      by_contra hnot
      rw [← Dict.valuesOf_eq_nil_iff, valuesOf_signalExecutions db hg] at hnot
      exact hnil hnot
    rw [if_pos hmem, if_neg hnil]

/-- The empty name is no signal of an execution. -/
theorem get?_fetchExecAgg_empty (db : LifecycleStore) : (fetchExecAgg db).get? "" = none := by
  rw [fetchExecAgg, Dict.get?_groupBy, if_neg]
  intro hmem
  obtain ⟨⟨g, row⟩, hrow, hempty⟩ := List.mem_map.mp hmem
  obtain ⟨e, -, he⟩ := List.mem_filterMap.mp hrow
  obtain ⟨g', htruthy, hpair⟩ := Option.map_eq_some_iff.mp he
  have hne := of_decide_eq_true (Option.filter_eq_some_iff.mp htruthy).2
  obtain ⟨rfl, -⟩ := Prod.mk.inj hpair
  exact hne hempty

/-- The exported fees are the fees as the exchange charged them. -/
theorem totalFeesQuote_fetchExecAgg (db : LifecycleStore) (hg : g ≠ "") :
    (((fetchExecAgg db).get? g).map ExecAgg.totalFeesQuote).getD 0 =
      ((rowsOfSignal db g).map ExecutionRow.execFee).sum := by
  rw [get?_fetchExecAgg db hg]
  split_ifs with hnil
  · rw [hnil]
    rfl
  · rfl

/-- The average price that is exported without an outcome. -/
theorem entryVwapExec_fetchExecAgg (db : LifecycleStore) (hg : g ≠ "") :
    entryVwapExec ((((fetchExecAgg db).get? g).map ExecAgg.totalExecQty).getD 0)
        ((((fetchExecAgg db).get? g).map ExecAgg.totalExecQuote).getD 0) =
      entryVwapExec ((rowsOfSignal db g).map ExecutionRow.execQty).sum
        ((rowsOfSignal db g).map fun row => row.execPrice * row.execQty).sum := by
  rw [get?_fetchExecAgg db hg]
  split_ifs with hnil
  · rw [hnil]
    rfl
  · rfl

/-- Every exported row is the row of a signal. -/
theorem mem_exportDataset {signals : SignalTable} {w : World} {r : ExportRow} :
    r ∈ exportDataset signals w ↔ ∃ g snapshot, signals.get? g = some snapshot ∧
      r = exportRow g snapshot ((fetchExecAgg w.lifecycle).get? g)
        (w.lifecycle.outcomes.get? g) ((fetchOrderPrices w.lifecycle w.legacy).get? g) := by
  unfold exportDataset
  simp only [List.mem_map, List.mem_insertionSort, Prod.exists]
  constructor
  · rintro ⟨g, snapshot, hmem, rfl⟩
    exact ⟨g, snapshot, Dict.mem_entries_iff.mp hmem, rfl⟩
  · rintro ⟨g, snapshot, hget, rfl⟩
    exact ⟨g, snapshot, Dict.mem_entries_iff.mpr hget, rfl⟩

end Exported

end Botik
