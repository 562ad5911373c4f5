import Botik.Main.EntryGate
import Botik.Main.Orders
import Botik.Risk.ExitRules

/-!
# Forced exits

`maybe_force_exit` of `main.py`: for a symbol whose position is at its floors and is not suppressed
as dust, decide whether to close it now, and send the closing order. The answer of the routine
says whether the symbol is closed for entries in this iteration.

## Main definitions

* `ExitEnv` — what the outside answers during one call
* `exitReason` — why the position is closed, from the state alone
* `forceExitOrder`, `sendForceExit`
* `maybeForceExit`
-/

namespace Botik

open Program

/-- What one call sees of the outside. -/
structure ExitEnv where
  faults : Faults
  /-- `time.monotonic()` until the order is sent. -/
  clock : ℚ
  /-- `time.monotonic()` after it is answered. -/
  sentClock : ℚ
  /-- `utc_now_iso()`. -/
  utc : ℕ
  book : Option OrderBookAggregate
  /-- The random part of the link of the order. -/
  linkId : String
  answer : OrderAnswer

/-! ### The decision -/

/-- When the position of a symbol was opened; a position seen for the first time is taken as timed
out if its entry price is unknown. -/
def openedAtOr (c : Config) (clock : ℚ) (rt : Runtime) (symbol : String) : ℚ :=
  (rt.details symbol).openedAt.getD
    (if (rt.position symbol).avgEntry ≤ 0 then clock - c.positionHoldTimeoutSec - 1 else clock)

/-- Remember when the position was opened. -/
def noteOpenedAt (c : Config) (clock : ℚ) (symbol : String) (w : World) : World :=
  setDetails symbol
    (fun details => { details with openedAt := some (openedAtOr c clock w.rt symbol) }) w

/-- The limits of a symbol for `decide_exit_reason`. -/
def exitRules (c : Config) (details : SymbolState) : ExitRules where
  holdTimeoutSec := max details.holdTimeoutSec 1
  pnlExitEnabled := c.pnlExitEnabled
  stopLossPct := max details.stopLossPct 0
  takeProfitPct := max details.takeProfitPct 0
  fallbackStoplossBps := max c.fallbackStoplossBpsSetting 0
  fallbackBreakevenBps := max c.fallbackBreakevenBpsSetting 0
  fallbackTrailingBps := max c.fallbackTrailingBpsSetting 0
  fallbackTrailingActivationBps := max c.fallbackTrailingActivationBpsSetting 0

/-- The price at which a position could be closed now. -/
def markPrice (book : OrderBookAggregate) (qty : ℚ) : ℚ :=
  if 0 < qty then book.bestBid else book.bestAsk

/-- The answer of `decide_exit_reason` for a symbol at a mark. -/
def exitDecision (c : Config) (clock mark : ℚ) (rt : Runtime) (symbol : String) :
    Option ExitReason × ℚ :=
  let position := rt.position symbol
  decideExitReason (exitRules c (rt.details symbol))
    (unrealizedPnlPct position.qty position.avgEntry mark)
    (clock - openedAtOr c clock rt symbol) (rt.details symbol).peakPnlBps

/-- The reason with the override by the risk state, which only futures have. -/
def overrideReason (c : Config) (mark : ℚ) (db : FuturesStore) (symbol : String)
    (reason : Option ExitReason) : Option ExitReason :=
  match c.marketCategory with
  | .spot => reason
  | .linear => futuresForceExitReasonFromRiskState reason
      (evaluateFuturesSymbolRisk db symbol unified (some mark)).riskState

/-- Why the position of a symbol is to be closed. -/
def exitReason (c : Config) (clock mark : ℚ) (w : World) (symbol : String) : Option ExitReason :=
  overrideReason c mark w.futures symbol (exitDecision c clock mark w.rt symbol).1

/-- Evaluate the exit rules; the query for the risk state is only made for futures. -/
def decideExit (x : Context) (env : ExitEnv) (symbol : String) (mark : ℚ) :
    RunM (Option ExitReason) := do
  let w ← get
  let decision := exitDecision x.config env.clock mark w.rt symbol
  modify (note (.decideExit symbol))
  modify (setDetails symbol fun details => { details with peakPnlBps := decision.2 })
  match x.config.marketCategory with
  | .spot => return decision.1
  | .linear =>
    read env.faults (.forceExit .riskView) fun w =>
      overrideReason x.config mark w.futures symbol decision.1

/-! ### The order -/

/-- The reasons that may close at the market. -/
def ExitReason.isEmergency : ExitReason → Bool
  | .stopLoss | .fallbackStoploss | .holdTimeout => true
  | _ => false

/-- The order of a forced exit. -/
def forceExitOrder (c : Config) (env : ExitEnv) (symbol : String) (qty : ℚ)
    (book : OrderBookAggregate) (reason : ExitReason) : OrderRequest where
  symbol := symbol
  side := (closingSide qty).text
  qty := Text.fixed8 |qty|
  price := Text.fixed8 (markPrice book qty)
  orderLinkId := "force-exit-" ++ symbol ++ "-" ++ env.linkId
  timeInForce := if c.allowTakerExit then c.forceExitTimeInForce else "PostOnly"
  orderType := if c.forceExitUseMarket && reason.isEmergency then "Market" else "Limit"

/-- The domain of an audit event of the trading loop. -/
def auditDomain (c : Config) : String :=
  match c.marketCategory with
  | .linear => "futures"
  | .spot => "spot"

/-- `insert_event_audit` in a forced exit. -/
def auditExit (x : Context) (env : ExitEnv) (site : ExitSite) (symbol eventType : String)
    (refId : Option String) : RunM Unit :=
  write env.faults (.forceExit site) fun w => { w with
    core := w.core.insertEventAudit ⟨eventType, auditDomain x.config, some symbol, refId⟩ }

/-- `last_force_exit_ts[symbol] = …`. -/
def noteForceExit (clock : ℚ) (symbol : String) (w : World) : World :=
  { w with rt := { w.rt with
    lastForceExitTs := Function.update w.rt.lastForceExitTs symbol clock } }

/-- What follows an accepted order. -/
def recordForceExit (x : Context) (env : ExitEnv) (order : OrderRequest) (reply : OrderReply) :
    RunM Bool := do
  modify (registerOrderPlaced env.sentClock)
  let w ← get
  recordOrder x env.faults (fun site => .forceExit (.order site)) env.utc
    x.config.forceExitTimeInForce
    (.ofRequest order reply (w.rt.details order.symbol).signalId)
  auditExit x env .submittedAudit order.symbol "forced_exit_submitted" (some order.orderLinkId)
  return true

/-- Send the order. One whose quantity the executor cannot normalize is given up as dust; after
any other answer the symbol stays closed for entries. -/
def sendForceExit (x : Context) (env : ExitEnv) (order : OrderRequest) : RunM Bool := do
  let reply ← placeOrder order env.answer
  modify (noteForceExit env.sentClock order.symbol)
  if reply.retCode = some 0 then recordForceExit x env order reply
  else if reply.isInvalidQty then do
    modify (suppressDust x.config env.sentClock order.symbol)
    return false
  else do
    auditExit x env .failureAudit order.symbol "forced_exit_submission_failed"
      (some order.orderLinkId)
    return true

/-- Close a position for a reason, unless exits are disabled or one was just sent. -/
def forceExit (x : Context) (env : ExitEnv) (symbol : String) (book : OrderBookAggregate)
    (reason : ExitReason) : RunM Bool := do
  let w ← get
  auditExit x env .decisionAudit symbol "forced_exit_decision" (w.rt.details symbol).signalId
  if ¬ x.config.forceExitEnabled then return true
  else if env.clock - w.rt.lastForceExitTs symbol < x.config.forceExitCooldownSec then return true
  else
    sendForceExit x env
      (forceExitOrder x.config env symbol (w.rt.position symbol).qty book reason)

/-! ### The routine -/

/-- The part with a book. -/
def exitAtBook (x : Context) (env : ExitEnv) (symbol : String) (notionalFloor : ℚ)
    (book : OrderBookAggregate) : RunM Bool := do
  let w ← get
  let qty := (w.rt.position symbol).qty
  if IsDust x.config notionalFloor qty (markPrice book qty) then do
    modify (suppressDust x.config env.clock symbol)
    return false
  else do
    let reason ← decideExit x env symbol (markPrice book qty)
    match reason with
    | none => return true
    | some reason => forceExit x env symbol book reason

/-- A position whose notional at its known entry price is below the floor. -/
def IsEntryDust (c : Config) (notionalFloor : ℚ) (position : Position) : Prop :=
  0 < position.avgEntry ∧ IsDust c notionalFloor position.qty position.avgEntry

instance (c : Config) (notionalFloor : ℚ) (position : Position) :
    Decidable (IsEntryDust c notionalFloor position) :=
  inferInstanceAs (Decidable (_ ∧ _))

/-- The part for a position at its quantity floor. -/
def exitPosition (x : Context) (env : ExitEnv) (symbol : String) : RunM Bool := do
  let notionalFloor ← resolvePositionNotionalFloor x symbol
  let w ← get
  if IsEntryDust x.config notionalFloor (w.rt.position symbol) then do
    modify (suppressDust x.config env.clock symbol)
    return false
  else do
    modify (noteOpenedAt x.config env.clock symbol)
    match env.book with
    | none => return true
    | some book => exitAtBook x env symbol notionalFloor book

/-- `maybe_force_exit`: whether the symbol is closed for entries. -/
def maybeForceExit (x : Context) (env : ExitEnv) (symbol : String) : RunM Bool := do
  let w ← get
  if x.executor.isNone then return false
  else if env.clock < w.rt.dustExitSuppressedUntil symbol then return false
  else do
    let floor ← resolvePositionFloor x symbol
    if |(w.rt.position symbol).qty| < floor then return false
    else exitPosition x env symbol

end Botik
