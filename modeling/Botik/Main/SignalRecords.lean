import Botik.Learning.Policy
import Botik.Storage.LifecycleStore
import Botik.Strategy.MicroSpread

/-!
# What the loop stores of a signal

Before an intent is sent, `trading_loop` stores it with the book, the snapshot of the pair filter and
the choice of its profile.

## Main definitions

* `IntentTags`, `MicroSpread.tagsOf` — what only this row keeps of an intent
* `signalSnapshot` — the row of an intent

## Main results

* `recordSignal_eq` — what the runtime reads of the row is what it records
-/

namespace Botik

/-- The fields of an intent that nothing but the row of its signal keeps. -/
structure IntentTags where
  modelVersion : Option String
  actionOrderQtyBase : Option ℚ
  actionMinTopBookQty : Option ℚ
  deriving DecidableEq, Repr

/-- These fields of an intent of the spread strategy. -/
def MicroSpread.tagsOf (c : StrategyConfig) (v : TradingView) (intent : OrderIntent) :
    IntentTags where
  modelVersion := some "rules-v1"
  actionOrderQtyBase := some intent.qty
  actionMinTopBookQty :=
    some (((activeProfile c v intent.symbol).2.map ActionProfile.minTopBookQty).getD
      c.minTopBookQty)

/-- What the loop knows of the symbol of an intent when it stores it. -/
structure SignalContext where
  pair : Option PairSnapshot
  policyMeta : Option PolicyMeta
  /-- The model of the policy, if one is loaded. -/
  policyModelId : Option String

/-- `spread_bps` of the book. -/
def signalSpreadBps (book : Option OrderBookAggregate) : ℚ :=
  match book with
  | none => 0
  | some book =>
    if 0 < book.mid ∧ book.bestBid ≤ book.bestAsk then
      (book.bestAsk - book.bestBid) / book.mid * 10000
    else 0

/-- The row `trading_loop` passes to `insert_signal_snapshot`. -/
def signalSnapshot (env : IntentEnv) (known : SignalContext) (tags : IntentTags)
    (intent : OrderIntent) : SignalSnapshot where
  tsSignalMs := env.wallMs
  symbol := intent.symbol
  side := intent.side
  bestBid := (env.book.map fun book => book.bestBid).getD 0
  bestAsk := (env.book.map fun book => book.bestAsk).getD 0
  mid := (env.book.map fun book => book.mid).getD 0
  spreadBps := signalSpreadBps env.book
  depthBidQuote := (known.pair.bind PairSnapshot.depthBidQuote).getD 0
  depthAskQuote := (known.pair.bind PairSnapshot.depthAskQuote).getD 0
  slippageBuyBpsEst := (known.pair.bind PairSnapshot.slippageBuyBps).getD 0
  slippageSellBpsEst := (known.pair.bind PairSnapshot.slippageSellBps).getD 0
  tradesPerMin := (known.pair.bind PairSnapshot.tradesPerMin).getD 0
  p95TradeGapMs := (known.pair.bind PairSnapshot.p95TradeGapMs).getD 0
  vol1sBps := (known.pair.bind PairSnapshot.vol1sBps).getD 0
  impulseBps := (known.pair.bind PairSnapshot.impulseBps).getD 0
  spikeDirection := (known.pair.bind fun s => s.spikeDirection).getD 0
  spikeStrengthBps := (known.pair.bind fun s => s.spikeStrengthBps).getD 0
  minRequiredSpreadBps := (known.pair.bind PairSnapshot.minRequiredSpreadBps).getD 0
  scannerStatus := (known.pair.bind PairSnapshot.status).getD "NA"
  modelVersion := Text.orEmpty tags.modelVersion
  profileId := intent.profileId
  actionEntryTickOffset := intent.actionEntryTickOffset
  actionOrderQtyBase := tags.actionOrderQtyBase
  actionTargetProfit := intent.actionTargetProfit
  actionSafetyBuffer := intent.actionSafetyBuffer
  actionMinTopBookQty := tags.actionMinTopBookQty
  actionStopLossPct := intent.actionStopLossPct
  actionTakeProfitPct := intent.actionTakeProfitPct
  actionHoldTimeoutSec := intent.actionHoldTimeoutSec
  actionMakerOnly := intent.actionMakerOnly.map fun makerOnly => if makerOnly then 1 else 0
  policyUsed := (Text.truthy (known.policyMeta.map PolicyMeta.policyUsed)).getD
    (if known.policyModelId.isSome then "ML" else "Bandit")
  predOpenProb := known.policyMeta.bind PolicyMeta.predOpenProb
  predExpEdgeBps := known.policyMeta.bind PolicyMeta.predExpEdgeBps
  activeModelId := Text.orEmpty (Text.firstTruthy
    (known.policyMeta.bind PolicyMeta.activeModelId) known.policyModelId)
  modelId := Text.orEmpty (Text.firstTruthy
    (known.policyMeta.bind PolicyMeta.activeModelId) known.policyModelId)
  orderSizeQuote := intent.price * intent.qty
  orderSizeBase := intent.qty
  entryPrice := intent.price

/-- The runtime records the part of the row it reads. -/
theorem recordSignal_eq (env : IntentEnv) (known : SignalContext) (tags : IntentTags)
    (intent : OrderIntent) :
    recordSignal env intent = write env.faults (.intent .signalSnapshot) fun w => { w with
      lifecycle := w.lifecycle.insertSignalSnapshot (intentSignalId intent)
        (signalSnapshot env known tags intent).runtimeRow } := rfl

end Botik
