import Botik.Execution.ReconciliationService
import Botik.Main.ExitQuote
import Botik.Main.EntryGate
import Botik.Risk.Manager

/-!
# The intents of the strategy

The body of the last loop of `trading_loop`: an intent is repriced, recorded as a signal, and has
to pass the reconciliation locks, the hold policy, the futures gates, the risk manager and the pair
filter before it is sent. What the loop counts on its way, the exposures and the symbols with new
orders, is a parameter here.

## Main definitions

* `OrderIntent`, `IntentEnv`
* `LoopVars` — the local variables of one iteration
* `prepareIntentForSend`, `guardedPlaceOrder`
* `submitIntent` — from the intent to the answer of the exchange
* `recordEntry` — what follows an accepted order
-/

namespace Botik

open Program

/-- What the strategy wants to send; an action it leaves open is `none`. -/
structure OrderIntent where
  symbol : String
  side : String
  price : ℚ
  qty : ℚ
  orderLinkId : String
  profileId : Option String
  actionEntryTickOffset : Option ℤ
  actionTargetProfit : Option ℚ
  actionSafetyBuffer : Option ℚ
  actionStopLossPct : Option ℚ
  actionTakeProfitPct : Option ℚ
  actionHoldTimeoutSec : Option ℤ
  actionMakerOnly : Option Bool
  deriving DecidableEq, Repr

/-- A snapshot of the pair filter. -/
structure PairFilter where
  status : Option String
  staleData : Bool

/-- What `evaluate_pair_admission` answers. -/
structure PairDecision where
  status : String
  minRequiredSpreadBps : ℚ

/-- What an intent sees of the outside. -/
structure IntentEnv where
  faults : Faults
  /-- `time.monotonic()` until the order is sent. -/
  clock : ℚ
  /-- `time.monotonic()` after it is answered. -/
  sentClock : ℚ
  /-- `int(time.time() * 1000)`. -/
  wallMs : ℤ
  /-- `utc_now_iso()`. -/
  utc : ℕ
  book : Option OrderBookAggregate
  bookUpdateMs : Option ℤ
  tickSize : Option ℚ
  pairFilter : Option PairFilter
  pairDecision : PairDecision
  answer : OrderAnswer

/-! ### Repricing -/

/-- The distance of an entry from the top of the book. -/
def entryTick (c : Config) (env : IntentEnv) (intent : OrderIntent) : ℚ :=
  tickSizeOr c env.tickSize *
    max ((intent.actionEntryTickOffset.filter (· ≠ 0)).getD c.entryTickOffset) 0

/-- The price of an entry: inside the spread for a maker, across it for a taker. -/
def targetPrice (book : OrderBookAggregate) (tick : ℚ) (isBuy makerOnly : Bool) : ℚ :=
  match isBuy, makerOnly with
  | true, true => if book.bestAsk ≤ book.bestBid + tick then book.bestBid else book.bestBid + tick
  | true, false => book.bestAsk + tick
  | false, true => if book.bestAsk - tick ≤ book.bestBid then book.bestAsk else book.bestAsk - tick
  | false, false => book.bestBid - tick

/-- `_prepare_intent_for_send`. -/
def prepareIntentForSend (c : Config) (env : IntentEnv) (intent : OrderIntent)
    (makerOnly : Bool) : Option OrderIntent :=
  if ¬ c.fastRepriceOnSend then some intent
  else do
    let book ← env.book.filter OrderBookAggregate.isUsable
    let bookUpdateMs ← env.bookUpdateMs
    if c.quoteMaxBookAgeMs < env.wallMs - bookUpdateMs then none
    else
      let target := targetPrice book (entryTick c env intent)
        (Text.upper intent.side = "BUY") makerOnly
      let price := snap (tickSizeOr c env.tickSize) target
      if price ≤ 0 then none else some { intent with price := price }

/-- An entry rests on the book, unless the intent or the mode of the strategy says otherwise. -/
def isMakerOnly (c : Config) (intent : OrderIntent) : Bool :=
  intent.actionMakerOnly.getD (¬ c.spikeReversal)

/-- The intent as it is sent. -/
def intentToSend (c : Config) (env : IntentEnv) (intent : OrderIntent) : Option OrderIntent :=
  (prepareIntentForSend c env intent (isMakerOnly c intent)).map fun intent =>
    { intent with actionMakerOnly := some (isMakerOnly c intent) }

/-- Only the price of an intent is adjusted, and whether it rests is settled. -/
theorem intentToSend_eq_some {c : Config} {env : IntentEnv} {intent sent : OrderIntent}
    (h : intentToSend c env intent = some sent) :
    ∃ price, sent = { intent with
      price := price
      actionMakerOnly := some (isMakerOnly c intent) } := by
  unfold intentToSend at h
  obtain ⟨prepared, hprepared, rfl⟩ := Option.map_eq_some_iff.mp h
  unfold prepareIntentForSend at hprepared
  split_ifs at hprepared with hreprice
  · obtain ⟨book, -, hrest⟩ := Option.bind_eq_some_iff.mp hprepared
    obtain ⟨updated, -, hrest⟩ := Option.bind_eq_some_iff.mp hrest
    dsimp only at hrest
    split_ifs at hrest
    obtain rfl := Option.some.inj hrest
    exact ⟨_, rfl⟩
  · obtain rfl := Option.some.inj hprepared
    exact ⟨_, rfl⟩

/-! ### The local variables of an iteration -/

structure LoopVars where
  totalExposure : ℚ
  symbolExposure : String → ℚ
  openOrderSymbols : List String
  /-- `our_mm_order_link_ids`. -/
  ourOrderLinks : List (String × String)
  /-- The orders of `open_position_orders`, of all symbols. -/
  openPositionOrders : List OpenOrder
  blockedSymbols : List String
  /-- The intents accepted so far; their symbols are `newly_placed_symbols`. -/
  accepted : List OrderIntent

namespace LoopVars

def initial : LoopVars where
  totalExposure := 0
  symbolExposure := fun _ => 0
  openOrderSymbols := []
  ourOrderLinks := []
  openPositionOrders := []
  blockedSymbols := []
  accepted := []

/-- Count a notional. -/
def addExposure (vars : LoopVars) (symbol : String) (notional : ℚ) : LoopVars :=
  { vars with
    totalExposure := vars.totalExposure + notional
    symbolExposure := Function.update vars.symbolExposure symbol
      (vars.symbolExposure symbol + notional) }

/-- Count an accepted intent; its leverage is left out. -/
def addAccepted (vars : LoopVars) (intent : OrderIntent) : LoopVars :=
  { vars.addExposure intent.symbol (intent.price * intent.qty) with
    accepted := vars.accepted ++ [intent] }

end LoopVars

/-! ### The gates -/

/-- The text of an issue type. -/
def IssueType.text : IssueType → String
  | .orphanedExchangePosition => "orphaned_exchange_position"
  | .orphanedExchangeOrder => "orphaned_exchange_order"
  | .localPositionMissingOnExchange => "local_position_missing_on_exchange"
  | .localOrderMissingOnExchange => "local_order_missing_on_exchange"
  | .walletBalanceApiError => "wallet_balance_api_error"
  | .spotAssetRecoveredFromExchange => "spot_asset_recovered_from_exchange"
  | .localHoldingMissingOnExchange => "local_holding_missing_on_exchange"
  | .unprotectedPosition => "unprotected_position"
  | .other name => name

/-- The open issues that lock a symbol. -/
def symbolLocks (db : CoreStore) (symbolU : String) : List IssueType :=
  (db.issues.entries.filter fun e =>
    e.2.isOpen ∧ e.2.issueType.isEntryLock ∧ Text.orEmpty e.2.symbol ≠ "" ∧
      readSymbol e.2.symbol = symbolU).map fun e => e.2.issueType

/-- `get_reconciliation_entry_block_reason`: the issue types that lock the symbol. -/
def getReconciliationEntryBlockReason (db : CoreStore) (symbol : String) : Option (List String) :=
  let symbolU := readSymbol (some symbol)
  if symbolU = "" then none
  else
    match symbolLocks db symbolU with
    | [] => none
    | issueTypes => some ((issueTypes.map IssueType.text).dedup.insertionSort (· ≤ ·))

/-- The query of the hold policy is only made for a sale on the spot market. -/
def holdPolicyBlocks (x : Context) (env : IntentEnv) (intent : OrderIntent) : RunM Bool :=
  if x.config.marketCategory = .spot ∧ Text.lower (Text.strip intent.side) = "sell" then
    read env.faults (.intent .holdPolicy) fun w =>
      (spotSellBlockedByHoldPolicy x.config.marketCategory w.spot intent.symbol intent.side).1
  else return false

/-- The stop and take of an entry: those of the intent, else those of the symbol. -/
def entryStops (rt : Runtime) (intent : OrderIntent) : ℚ × ℚ :=
  (intent.actionStopLossPct.getD (rt.details intent.symbol).stopLossPct,
    intent.actionTakeProfitPct.getD (rt.details intent.symbol).takeProfitPct)

/-- Why the futures gates refuse an entry. -/
def futuresRejection (x : Context) (env : IntentEnv) (intent : OrderIntent) :
    RunM (Option String) :=
  match x.config.marketCategory with
  | .spot => return none
  | .linear => do
    let w ← get
    let (stopLossPct, takeProfitPct) := entryStops w.rt intent
    read env.faults (.intent .entryGate) fun w =>
      linearEntryRejection w.futures intent.symbol
        (usablePrice (env.book.map OrderBookAggregate.mid)) stopLossPct takeProfitPct

/-- The symbols of which something is held or ordered. -/
def activeSymbols (c : Config) (rt : Runtime) (vars : LoopVars) : List String :=
  (rt.tracked.filter fun s => positionFloor c rt s ≤ |(rt.position s).qty|) ++
    vars.openOrderSymbols ++ rt.walletHeldBaseSymbols.map (· ++ "USDT") ++
    vars.accepted.map OrderIntent.symbol

/-- `current_open_pos_count`: the active symbols besides the one of the intent. -/
def currentOpenPosCount (c : Config) (rt : Runtime) (vars : LoopVars) (symbol : String) : ℕ :=
  ((activeSymbols c rt vars).dedup.filter (· ≠ symbol)).length

/-- The risk manager of a run. -/
def Config.riskManager (c : Config) : RiskManager where
  initialEquity := c.initialEquityUsdt
  maxTotalPct := c.maxTotalExposurePctOfInitial
  maxSymbolExposurePct := c.maxSymbolExposurePct
  maxOrdersPerMinute := c.maxOrdersPerMinute
  maxOpenPositions := c.maxOpenPositions

/-- `resolve_risk_leverage`. -/
def Config.riskLeverage (c : Config) : ℚ :=
  match c.marketCategory with
  | .spot => 1
  | .linear => effectiveLeverage c.defaultLeverage

/-- `check_order` for an intent. -/
def checkIntent (c : Config) (rt : Runtime) (vars : LoopVars) (intent : OrderIntent) :
    RiskCheckResult :=
  c.riskManager.checkOrder rt.orderTimestamps.length intent.price intent.qty vars.totalExposure
    (vars.symbolExposure intent.symbol) (currentOpenPosCount c rt vars intent.symbol)
    (some c.riskLeverage)

/-- `check_order`, which first drops the orders older than a minute. -/
def checkRisk (x : Context) (env : IntentEnv) (vars : LoopVars) (intent : OrderIntent) :
    RunM Bool := do
  modify fun w => { w with rt := { w.rt with
    orderTimestamps := lastMinute env.clock w.rt.orderTimestamps } }
  let w ← get
  return (checkIntent x.config w.rt vars intent).allowed

/-! ### Sending -/

/-- The order of an intent. -/
def OrderIntent.request (intent : OrderIntent) (timeInForce : String) : OrderRequest where
  symbol := intent.symbol
  side := intent.side
  qty := Text.fixed8 intent.qty
  price := Text.fixed8 intent.price
  orderLinkId := intent.orderLinkId
  timeInForce := timeInForce
  orderType := "Limit"

/-- A resting order that would take. -/
def postOnlyWouldTake (book : OrderBookAggregate) (intent : OrderIntent) (timeInForce : String) :
    Bool :=
  timeInForce = "PostOnly" ∧
    (intent.side = "Buy" ∧ book.bestAsk ≤ intent.price ∨
      intent.side = "Sell" ∧ intent.price ≤ book.bestBid)

/-- The last checks of a pair, on the book. -/
def bookRefusal (env : IntentEnv) (intent : OrderIntent) (timeInForce : String) :
    Option ApiReply :=
  match env.book with
  | none => some ⟨some 90005, some "NO_ORDERBOOK"⟩
  | some book =>
    if book.mid ≤ 0 then some ⟨some 90005, some "NO_ORDERBOOK"⟩
    else if (book.bestAsk - book.bestBid) / book.mid * 10000 <
        env.pairDecision.minRequiredSpreadBps then
      some ⟨some 90006, some "SPREAD_BELOW_REQUIRED"⟩
    else if postOnlyWouldTake book intent timeInForce then
      some ⟨some 90007, some "POSTONLY_WOULD_TAKE"⟩
    else none

/-- Why the pair filter refuses an entry, as the answer of an exchange. -/
def guardRefusal (c : Config) (env : IntentEnv) (intent : OrderIntent) (timeInForce : String) :
    Option ApiReply :=
  if ¬ c.strictPairFilter then none
  else
    match env.pairFilter with
    | none => some ⟨some 90001, some "PAIR_FILTER_MISSING"⟩
    | some filter =>
      if Text.upper (Text.orEmpty filter.status) ≠ "PASS" then
        some ⟨some 90002, some "PAIR_FILTER_NOT_PASS"⟩
      else if filter.staleData then some ⟨some 90003, some "STALE_DATA"⟩
      else if env.pairDecision.status ≠ "PASS" then
        some ⟨some 90004, some ("LIVE_FILTER_" ++ env.pairDecision.status)⟩
      else bookRefusal env intent timeInForce

/-- `guarded_place_order`. -/
def guardedPlaceOrder (c : Config) (env : IntentEnv) (intent : OrderIntent)
    (timeInForce : String) : RunM OrderReply :=
  match guardRefusal c env intent timeInForce with
  | some refusal => return { toApiReply := refusal, orderId := none }
  | none => placeOrder (intent.request timeInForce) env.answer

/-- What became of an intent. -/
inductive Submission
  | skipped
  /-- The signature is invalid: the loop is left. -/
  | stopped
  | accepted (intent : OrderIntent) (reply : OrderReply)

/-- The signal of an intent. -/
def intentSignalId (intent : OrderIntent) : String := "sig-" ++ intent.orderLinkId

/-- `insert_signal_snapshot`. -/
def recordSignal (env : IntentEnv) (intent : OrderIntent) : RunM Unit :=
  write env.faults (.intent .signalSnapshot) fun w => { w with
    lifecycle := w.lifecycle.insertSignalSnapshot (intentSignalId intent)
      { symbol := intent.symbol
        profileId := intent.profileId
        entryPrice := intent.price
        orderSizeBase := intent.qty
        rewardNetEdgeBps := none } }

/-- Whether a reconciliation lock blocks the symbol, which is audited. -/
def lockBlocks (x : Context) (env : IntentEnv) (intent : OrderIntent) : RunM Bool := do
  let reason ← read env.faults (.intent .reconciliationLocks) fun w =>
    getReconciliationEntryBlockReason w.core intent.symbol
  match reason with
  | none => return false
  | some _ => do
    write env.faults (.intent .lockAudit) fun w => { w with
      core := w.core.insertEventAudit ⟨"entry_blocked_reconciliation_lock",
        auditDomain x.config, some intent.symbol, some intent.orderLinkId⟩ }
    return true

/-- The time in force of an entry. -/
def entryTimeInForce (c : Config) (intent : OrderIntent) : String :=
  if isMakerOnly c intent then "PostOnly" else "IOC"

/-- Send an intent that passed the gates. -/
def placeIntent (x : Context) (env : IntentEnv) (intent : OrderIntent) : RunM Submission := do
  let reply ← guardedPlaceOrder x.config env intent (entryTimeInForce x.config intent)
  if reply.retCode = some 10004 then return .stopped
  else if reply.retCode = some 0 then return .accepted intent reply
  else return .skipped

/-- The gates in their order, the risk manager last. -/
def gateIntent (x : Context) (env : IntentEnv) (vars : LoopVars) (intent : OrderIntent) :
    RunM Submission := do
  if ← lockBlocks x env intent then return .skipped
  else if ← holdPolicyBlocks x env intent then return .skipped
  else
    match ← futuresRejection x env intent with
    | some _ => return .skipped
    | none => do
      if ← checkRisk x env vars intent then placeIntent x env intent
      else return .skipped

/-- An intent up to the answer of the exchange. -/
def submitIntent (x : Context) (env : IntentEnv) (vars : LoopVars) (intent : OrderIntent) :
    RunM Submission :=
  match intentToSend x.config env intent with
  | none => return .skipped
  | some intent => do
    recordSignal env intent
    gateIntent x env vars intent

/-! ### Accepted entries -/

/-- The limits of a symbol are those of its last accepted intent. -/
def adoptActions (intent : OrderIntent) (w : World) : World :=
  setDetails intent.symbol
    (fun details => { details with
      holdTimeoutSec :=
        (intent.actionHoldTimeoutSec.map fun sec => ((max sec 1 : ℤ) : ℚ)).getD
          details.holdTimeoutSec
      stopLossPct := (intent.actionStopLossPct.map (max · 0)).getD details.stopLossPct
      takeProfitPct := (intent.actionTakeProfitPct.map (max · 0)).getD details.takeProfitPct
      targetProfitRatio :=
        (intent.actionTargetProfit.map (max · 0)).getD details.targetProfitRatio
      safetyBufferRatio :=
        (intent.actionSafetyBuffer.map (max · 0)).getD details.safetyBufferRatio }) w

/-- The record of an accepted entry; its price and quantity are not formatted. -/
def OrderIntent.runtimeOrder (intent : OrderIntent) (reply : OrderReply) (timeInForce : String) :
    RuntimeOrder where
  symbol := intent.symbol
  side := intent.side
  orderLinkId := intent.orderLinkId
  price := intent.price
  qty := intent.qty
  exchangeOrderId := reply.orderId
  orderType := "Limit"
  timeInForce := timeInForce
  signalId := some (intentSignalId intent)

/-- The side of an entry; whatever is no buy counts as a sale. -/
def OrderIntent.entrySide (intent : OrderIntent) : Side :=
  if Text.lower intent.side = "buy" then .buy else .sell

/-- The planned protection of a futures entry. -/
def planEntryProtection (x : Context) (env : IntentEnv) (intent : OrderIntent) : RunM Unit := do
  let w ← get
  let (stopLossPct, takeProfitPct) := entryStops w.rt intent
  match x.config.marketCategory, buildFuturesProtectionPlan intent.price
      (intent.entrySide.signed intent.qty) stopLossPct takeProfitPct with
  | .linear, some plan =>
    write env.faults (.intent .protection) fun w => { w with
      futures := w.futures.upsertFuturesProtection
        ⟨unified, Text.upper intent.symbol, intent.entrySide.text, 0⟩
        { status := .pending
          stopLoss := some plan.stopLoss
          takeProfit := some plan.takeProfit
          trailingStop := plan.trailingStop
          sourceOfTruth := "strategy_entry_plan"
          updatedAtUtc := env.utc } }
  | _, _ => pure ()

/-- The statements after an accepted entry. -/
def recordEntry (x : Context) (env : IntentEnv) (intent : OrderIntent) (reply : OrderReply) :
    RunM Unit := do
  let timeInForce := entryTimeInForce x.config intent
  recordOrder x env.faults (fun site => .intent (.order site)) env.utc timeInForce
    (intent.runtimeOrder reply timeInForce)
  planEntryProtection x env intent

end Botik
