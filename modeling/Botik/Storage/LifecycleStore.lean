import Mathlib.Algebra.Order.Field.Rat
import Mathlib.Data.List.Sort
import Botik.Library.Dict

/-!
# The lifecycle tables

`storage/lifecycle_store.py`: which signal an order belongs to, the signals, the
order events, the raw executions and the outcomes. A table with a primary key is
a `Dict` under it; `order_events` has none and is a list.

## Main definitions

* `ExecutionRow`, `LifecycleStore`
* `getSignalIdForOrderLink`, `insertExecutionEvent`, `insertOrderEvent`,
  `upsertOutcome`, `upsertSignalReward`, `setOrderSignalMap`
* `LifecycleStore.byExecTime` — `ORDER BY exec_time_ms ASC`
* `SignalSnapshot`, `SignalTable.insertSignalSnapshot` — what is stored of a signal
-/

namespace Botik

/-- One row of `executions_raw`, its `exec_id` apart. -/
structure ExecutionRow where
  orderId : Option String
  orderLinkId : Option String
  signalId : Option String
  symbol : String
  side : Option String
  orderType : Option String
  execPrice : ℚ
  execQty : ℚ
  execFee : ℚ
  feeRate : Option ℚ
  feeCurrency : Option String
  isMaker : Bool
  execTimeMs : ℤ
  recordedAtUtc : ℕ
  deriving DecidableEq, Repr

/-- One row of `order_events`. -/
structure OrderEventRow where
  orderId : Option String
  orderLinkId : Option String
  signalId : Option String
  symbol : String
  side : Option String
  orderType : Option String
  timeInForce : Option String
  price : ℚ
  qty : ℚ
  orderStatus : String
  avgPrice : Option ℚ
  cumExecQty : Option ℚ
  cumExecValue : Option ℚ
  createdTimeMs : Option ℤ
  updatedTimeMs : Option ℤ
  deriving DecidableEq, Repr

/-- What the runtime reads and rewrites of a row of `signals`. -/
structure SignalRow where
  symbol : String
  profileId : Option String
  entryPrice : ℚ
  orderSizeBase : ℚ
  rewardNetEdgeBps : Option ℚ
  deriving DecidableEq, Repr

/-- One row of `outcomes`, its `signal_id` apart. -/
structure OutcomeRow where
  symbol : String
  entryVwap : ℚ
  exitVwap : ℚ
  filledQty : ℚ
  holdTimeMs : ℤ
  grossPnlQuote : ℚ
  netPnlQuote : ℚ
  netEdgeBps : ℚ
  wasFullyFilled : Bool
  wasProfitable : Bool
  exitReason : String
  deriving DecidableEq, Repr

structure LifecycleStore where
  orderSignalMap : Dict String (Option String)
  signals : Dict String SignalRow
  orderEvents : List OrderEventRow
  executionsRaw : Dict String ExecutionRow
  outcomes : Dict String OutcomeRow

namespace LifecycleStore

def empty : LifecycleStore := ⟨.empty, .empty, [], .empty, .empty⟩

/-- `get_signal_id_for_order_link`. -/
def getSignalIdForOrderLink (db : LifecycleStore) (orderLinkId : Option String) :
    Option String :=
  match orderLinkId with
  | none => none
  | some link =>
    if link = "" then none
    else ((db.orderSignalMap.get? link).bind id).filter (· ≠ "")

/-- `set_order_signal_map`. -/
def setOrderSignalMap (db : LifecycleStore) (orderLinkId : String) (signalId : Option String) :
    LifecycleStore :=
  { db with orderSignalMap := db.orderSignalMap.set orderLinkId signalId }

/-- `insert_signal_snapshot`: `ON CONFLICT(signal_id) DO NOTHING`. -/
def insertSignalSnapshot (db : LifecycleStore) (signalId : String) (row : SignalRow) :
    LifecycleStore :=
  { db with signals := db.signals.insertIfAbsent signalId row }

/-- `insert_execution_event`: `ON CONFLICT(exec_id) DO NOTHING`. -/
def insertExecutionEvent (db : LifecycleStore) (execId : String) (row : ExecutionRow) :
    LifecycleStore :=
  { db with executionsRaw := db.executionsRaw.insertIfAbsent execId row }

/-- `insert_order_event`. -/
def insertOrderEvent (db : LifecycleStore) (row : OrderEventRow) : LifecycleStore :=
  { db with orderEvents := db.orderEvents ++ [row] }

/-- `upsert_outcome`. -/
def upsertOutcome (db : LifecycleStore) (signalId : String) (row : OutcomeRow) :
    LifecycleStore :=
  { db with outcomes := db.outcomes.set signalId row }

/-- `upsert_signal_reward`: an `UPDATE`, so only of a signal that is there. -/
def upsertSignalReward (db : LifecycleStore) (signalId : String) (rewardNetEdgeBps : ℚ) :
    LifecycleStore :=
  let reward (row : SignalRow) := { row with rewardNetEdgeBps := some rewardNetEdgeBps }
  { db with signals := db.signals.update signalId reward }

/-- `ORDER BY exec_time_ms ASC`, rows of one millisecond in the order they were
inserted. -/
def byExecTime (rows : List (String × ExecutionRow)) : List (String × ExecutionRow) :=
  rows.insertionSort fun a b => a.2.execTimeMs ≤ b.2.execTimeMs

/-- Rows whose times are in order already keep their order, whatever lies between
them. -/
theorem filter_byExecTime {rows : List (String × ExecutionRow)} {p : String × ExecutionRow → Bool}
    (hsorted : (rows.filter p).Pairwise fun a b => a.2.execTimeMs ≤ b.2.execTimeMs) :
    (byExecTime rows).filter p = rows.filter p := by
  have : Std.Total fun a b : String × ExecutionRow => a.2.execTimeMs ≤ b.2.execTimeMs :=
    ⟨fun a b => le_total a.2.execTimeMs b.2.execTimeMs⟩
  have : IsTrans (String × ExecutionRow) fun a b => a.2.execTimeMs ≤ b.2.execTimeMs :=
    ⟨fun _ _ _ => le_trans⟩
  have hsub : (rows.filter p).Sublist (byExecTime rows) :=
    List.sublist_insertionSort hsorted List.filter_sublist
  have hfilter := hsub.filter p
  simp only [List.filter_filter, Bool.and_self] at hfilter
  refine (hfilter.eq_of_length ?_).symm
  exact ((List.perm_insertionSort _ rows).symm.filter p).length_eq

/-- The executions of one signal, oldest first. -/
def executionsOfSignal (db : LifecycleStore) (signalId : String) : List ExecutionRow :=
  (byExecTime (db.executionsRaw.entries.filter fun e => e.2.signalId = some signalId)).map Prod.snd

end LifecycleStore

/-! ### The rows of `signals`

What `insert_signal_snapshot` stores of a signal, with the columns the runtime never reads back: the
training and the exports read them. A row is never rewritten but for its reward, which is no part of
what is stored here. -/

/-- One row of `signals`, its `signal_id` and its reward apart. -/
structure SignalSnapshot where
  tsSignalMs : ℤ
  symbol : String
  side : String
  bestBid : ℚ
  bestAsk : ℚ
  mid : ℚ
  spreadBps : ℚ
  depthBidQuote : ℚ
  depthAskQuote : ℚ
  slippageBuyBpsEst : ℚ
  slippageSellBpsEst : ℚ
  tradesPerMin : ℚ
  p95TradeGapMs : ℚ
  vol1sBps : ℚ
  impulseBps : ℚ
  spikeDirection : ℤ
  spikeStrengthBps : ℚ
  minRequiredSpreadBps : ℚ
  scannerStatus : String
  modelVersion : String
  profileId : Option String
  actionEntryTickOffset : Option ℤ
  actionOrderQtyBase : Option ℚ
  actionTargetProfit : Option ℚ
  actionSafetyBuffer : Option ℚ
  actionMinTopBookQty : Option ℚ
  actionStopLossPct : Option ℚ
  actionTakeProfitPct : Option ℚ
  actionHoldTimeoutSec : Option ℤ
  /-- One or zero. -/
  actionMakerOnly : Option ℤ
  policyUsed : String
  predOpenProb : Option ℚ
  predExpEdgeBps : Option ℚ
  activeModelId : String
  modelId : String
  orderSizeQuote : ℚ
  orderSizeBase : ℚ
  entryPrice : ℚ
  deriving DecidableEq, Repr

/-- What the runtime reads back of a row. -/
def SignalSnapshot.runtimeRow (row : SignalSnapshot) : SignalRow where
  symbol := row.symbol
  profileId := row.profileId
  entryPrice := row.entryPrice
  orderSizeBase := row.orderSizeBase
  rewardNetEdgeBps := none

/-- The table `signals`, with all its columns. -/
abbrev SignalTable := Dict String SignalSnapshot

namespace SignalTable

/-- `insert_signal_snapshot`: `ON CONFLICT(signal_id) DO NOTHING`. -/
def insertSignalSnapshot (db : SignalTable) (signalId : String) (row : SignalSnapshot) :
    SignalTable :=
  db.insertIfAbsent signalId row

/-- A new signal is stored as it is given. -/
theorem get?_insertSignalSnapshot {db : SignalTable} {signalId : String}
    (h : db.get? signalId = none) (row : SignalSnapshot) :
    (db.insertSignalSnapshot signalId row).get? signalId = some row := by
  rw [insertSignalSnapshot, Dict.insertIfAbsent_of_none h, Dict.get?_set_self]

end SignalTable

end Botik
