import Botik.Library.OpenItems
import Botik.Main.World

/-!
# The reconciliation service

`execution/reconciliation_service.py`. A run fetches the wallet, the open orders, the
executions and, for futures, the positions, writes what it sees into the tables, raises
issues for conflicts and at last resolves the entry locks whose conflict is gone. The calls to
the executor may raise, which ends the run; the tables' statements are taken to succeed. The texts
of an answer are ASCII, and none of its numbers is written `inf` or `nan`.

Account snapshots, liquidation risk snapshots, payloads and details are left out; nothing
reads them.

## Main definitions

* `WalletCoin`, `OpenOrderItem`, `ExchangePosition`, `Answers` — what the executor answers
* `ReconciliationService`, `ReconState`, `ReconSummary`
* `issueOnce`, `reportIssue` — an issue, unless one is open for the same conflict
* `reconcileWallet`, `reconcileOpenOrders`, `reconcileFills`, `reconcileFuturesPositions`
* `resolveStaleEntryLockIssues`, `ReconciliationService.run`
-/

namespace Botik

open Program

/-! ### Answers -/

/-- One coin of `get_wallet_balance`, with the fields the reconciliation reads. -/
structure WalletCoin extends CoinBalance where
  equity : Option String
  free : Option String
  availableToWithdraw : Option String

/-- One item of `get_open_orders`. -/
structure OpenOrderItem where
  symbol : Option String
  side : Option String
  orderLinkId : Option String
  orderId : Option String
  orderStatus : Option String
  orderType : Option String
  timeInForce : Option String
  price : Option String
  qty : Option String
  cumExecQty : Option String
  reduceOnly : Option String
  closeOnTrigger : Option String

/-- One item of `get_execution_list`, with the fields of a funding event. -/
structure FundingItem extends ExecutionItem where
  execType : Option String
  positionIdx : Option String
  fundingRate : Option String

/-- One item of `get_positions`, with the fields the reconciliation reads. -/
structure ExchangePosition extends PositionItem where
  tradeMode : Option String
  marginMode : Option String
  leverage : Option String
  avgPrice : Option String
  entryPrice : Option String
  markPrice : Option String
  liqPrice : Option String
  unrealisedPnl : Option String
  unrealizedPnl : Option String
  cumRealisedPnl : Option String
  realizedPnl : Option String

/-- An answer with a list: its head, and the list, empty where there is none. -/
structure ListReply (α : Type) where
  retCode : Option ℤ
  list : List α

/-- What the executor answers, or the text of the exception it raises, and the time. -/
structure Answers where
  wallet : Except String (ListReply WalletCoin)
  openOrders : Except String (ListReply OpenOrderItem)
  executions : String → Except String (ListReply FundingItem)
  positions : Except String (ListReply ExchangePosition)
  utc : ℕ

/-- `_f`: a missing or unreadable number is zero. -/
def readFloat (field : Option String) : ℚ := (field.bind Text.float?).getD 0

/-- `_i`, likewise. -/
def readInt (field : Option String) : ℤ := (field.bind Text.int?).getD 0

/-- `str(x or "").upper().strip()`. -/
def readSymbol (field : Option String) : String := Text.strip (Text.upper (Text.orEmpty field))

/-- `bool(x)` of a flag. -/
def readFlag (field : Option String) : Bool := Text.lower (Text.orEmpty field) ∉ ["", "false"]

/-! ### The service and its state -/

/-- The attributes of the service; the account is in upper case. -/
structure ReconciliationService where
  marketCategory : MarketCategory
  accountType : String
  managedSymbols : List String
  symbolsLimit : ℕ
  serviceName : String

/-- What an issue is about: its type, domain and symbol, no symbol being empty. -/
abbrev IssueKey := IssueType × String × String

instance IssueKey.lawfulBEq : LawfulBEq IssueKey := inferInstance

/-- The answer of a run. -/
structure ReconSummary where
  triggerSource : String
  category : MarketCategory
  status : String
  error : Option String
  spotBalancesSeen : ℕ
  spotHoldingsRecovered : ℕ
  ordersSeen : ℕ
  ordersOrphaned : ℕ
  futuresPositionsSeen : ℕ
  futuresPositionsOrphaned : ℕ
  fillsSeen : ℕ
  fundingEventsSeen : ℕ
  liqRiskSnapshots : ℕ
  issuesCreated : ℕ
  issuesResolved : ℕ
  locksReleased : ℕ
  unlockedSymbols : List String
  openOrdersChecked : Bool
  futuresPositionsChecked : Bool
  deriving DecidableEq, Repr

def ReconSummary.initial (triggerSource : String) (category : MarketCategory) : ReconSummary where
  triggerSource := triggerSource
  category := category
  status := "success"
  error := none
  spotBalancesSeen := 0
  spotHoldingsRecovered := 0
  ordersSeen := 0
  ordersOrphaned := 0
  futuresPositionsSeen := 0
  futuresPositionsOrphaned := 0
  fillsSeen := 0
  fundingEventsSeen := 0
  liqRiskSnapshots := 0
  issuesCreated := 0
  issuesResolved := 0
  locksReleased := 0
  unlockedSymbols := []
  openOrdersChecked := false
  futuresPositionsChecked := false

/-- The tables, `_active_lock_issue_keys` and the summary in the middle of a run. -/
structure ReconState where
  world : World
  activeLockIssueKeys : List IssueKey
  summary : ReconSummary

/-- A run in progress: its id and time. -/
structure RunInfo where
  runId : ℕ
  utc : ℕ

/-- Change the tables. -/
def ReconState.mapWorld (f : World → World) (s : ReconState) : ReconState :=
  { s with world := f s.world }

/-- Change the summary. -/
def ReconState.count (f : ReconSummary → ReconSummary) (s : ReconState) : ReconState :=
  { s with summary := f s.summary }

def ReconState.audit (event : AuditEvent) (s : ReconState) : ReconState :=
  s.mapWorld fun w => { w with core := w.core.insertEventAudit event }

/-! ### Issues -/

/-- The key of a stored issue, as the queries compare it. -/
def IssueRow.key (row : IssueRow) : IssueKey := (row.issueType, row.domain, row.symbol.getD "")

/-- The text of an issue's id. -/
def issueRef (issueId : ℕ) : String := "issue-" ++ toString issueId

/-- The text of a run's id. -/
def runRef (runId : ℕ) : String := "recon-" ++ toString runId

/-- Remember the conflict of an entry lock. -/
def rememberLock (key : IssueKey) (keys : List IssueKey) : List IssueKey :=
  if key.1.isEntryLock ∧ key.2.2 ≠ "" then
    if key ∈ keys then keys else keys ++ [key]
  else keys

/-- The row of a new issue. -/
def newIssue (info : RunInfo) (key : IssueKey) (severity : String) : IssueRow where
  reconciliationRunId := some info.runId
  issueType := key.1
  domain := key.2.1
  symbol := if key.2.2 = "" then none else some key.2.2
  severity := severity
  status := "open"
  createdAtUtc := info.utc
  resolvedAtUtc := none

/-- `_issue_once` on the table: the issue that is open under the key, or a new one. -/
def openOnce (info : RunInfo) (key : IssueKey) (severity : String) (db : CoreStore) :
    ℕ × CoreStore :=
  match OpenItems.openNumber IssueRow.isOpen IssueRow.key db.issues key with
  | some issueId => (issueId, db)
  | none => db.insertReconciliationIssue (newIssue info key severity)

/-- `_issue_once`: the id of the issue, and the state with the conflict remembered. -/
def issueOnce (info : RunInfo) (issueType : IssueType) (domain severity : String)
    (symbol : Option String) (s : ReconState) : ℕ × ReconState :=
  let key : IssueKey := (issueType, domain, readSymbol symbol)
  let result := openOnce info key severity s.world.core
  (result.1, { s with
    world := { s.world with core := result.2 }
    activeLockIssueKeys := rememberLock key s.activeLockIssueKeys })

/-- An issue, counted and audited. -/
def reportIssue (info : RunInfo) (issueType : IssueType) (domain severity : String)
    (symbol : Option String) (eventType : String) (s : ReconState) : ReconState :=
  let result := issueOnce info issueType domain severity symbol s
  (result.2.count fun summary => { summary with issuesCreated := summary.issuesCreated + 1 }).audit
    ⟨eventType, domain, symbol, some (issueRef result.1)⟩

/-! ### The wallet -/

namespace WalletCoin

def asset (coin : WalletCoin) : String := readSymbol coin.coin

def total (coin : WalletCoin) : ℚ :=
  readFloat (Text.firstTruthy coin.walletBalance coin.equity)

/-- The free quantity, at most the total. -/
def freeQty (coin : WalletCoin) : ℚ :=
  let free := match Text.firstTruthy coin.free coin.availableToWithdraw with
    | some text => readFloat (some text)
    | none => coin.total
  min (max free 0) coin.total

def lockedQty (coin : WalletCoin) : ℚ := max (coin.total - coin.freeQty) 0

/-- A coin with a name and a balance. -/
def isHeld (coin : WalletCoin) : Bool := coin.asset ≠ "" ∧ 0 < coin.total

end WalletCoin

/-- The coins that get no holding. -/
def quoteCoins : List String := ["USDT", "USDC", "BUSD"]

/-- The base asset of a holding, as the reconciliation compares it. -/
def HoldingKey.asset (key : HoldingKey) : String := Text.upper key.baseAsset

/-- The row of a coin without a local row. -/
def recoveredRow (info : RunInfo) (coin : WalletCoin) : HoldingRow where
  freeQty := coin.freeQty
  lockedQty := coin.lockedQty
  avgEntryPrice := none
  holdReason := "unknown_recovered_from_exchange"
  sourceOfTruth := "exchange_wallet_balance"
  recoveredFromExchange := true
  strategyOwner := none
  autoSellAllowed := false
  updatedAtUtc := info.utc

/-- One coin of the wallet, with the holdings listed before. -/
def importBalance (svc : ReconciliationService) (info : RunInfo)
    (localHoldings : List (HoldingKey × HoldingRow)) (coin : WalletCoin) (s : ReconState) :
    ReconState :=
  if coin.isHeld then
    let s := (s.mapWorld fun w => { w with
      spot := w.spot.upsertSpotBalance svc.accountType coin.asset coin.freeQty coin.lockedQty
        "exchange_wallet_balance" info.utc }).count
      fun summary => { summary with spotBalancesSeen := summary.spotBalancesSeen + 1 }
    -- quote coins and coins with a local row, whatever its quantity, are left alone
    if coin.asset ∈ quoteCoins ∨ coin.asset ∈ localHoldings.map fun e => e.1.asset then s
    else
      let symbol := coin.asset ++ "USDT"
      let s := s.mapWorld fun w => { w with
        spot := w.spot.upsertSpotHolding ⟨svc.accountType, symbol, coin.asset⟩
          (recoveredRow info coin) }
      (reportIssue info .spotAssetRecoveredFromExchange "spot" "warning" (some symbol)
        "imported_recovered_holding" s).count fun summary =>
          { summary with spotHoldingsRecovered := summary.spotHoldingsRecovered + 1 }
  else s

/-- The row of a holding that is not in the wallet. -/
def staleRow (info : RunInfo) (row : HoldingRow) : HoldingRow :=
  { row with
    holdReason := "stale_hold"
    sourceOfTruth := "reconciliation_local_db"
    strategyOwner := Text.truthy row.strategyOwner
    updatedAtUtc := info.utc }

/-- A holding with an asset and a quantity that the wallet does not list. -/
def isStale (seenAssets : List String) (e : HoldingKey × HoldingRow) : Bool :=
  e.1.asset ≠ "" ∧ 0 < e.2.freeQty + e.2.lockedQty ∧ e.1.asset ∉ seenAssets

/-- The symbol under which a holding is written back. -/
def HoldingKey.symbolOrDefault (key : HoldingKey) : String :=
  if key.symbol = "" then key.asset ++ "USDT" else key.symbol

/-- One local holding. -/
def markStale (svc : ReconciliationService) (info : RunInfo) (seenAssets : List String)
    (s : ReconState) (e : HoldingKey × HoldingRow) : ReconState :=
  if isStale seenAssets e then
    let symbol := e.1.symbolOrDefault
    let s := s.mapWorld fun w => { w with
      spot := w.spot.upsertSpotHolding ⟨svc.accountType, symbol, e.1.asset⟩ (staleRow info e.2) }
    reportIssue info .localHoldingMissingOnExchange "spot" "warning" (some symbol)
      "reconciliation_repair_applied" s
  else s

/-- The assets of the coins that are held. -/
def seenAssets (coins : List WalletCoin) : List String :=
  (coins.filter WalletCoin.isHeld).map WalletCoin.asset

/-- `_reconcile_wallet`, on an answer with the code zero. -/
def reconcileCoins (svc : ReconciliationService) (info : RunInfo) (coins : List WalletCoin)
    (s : ReconState) : ReconState :=
  let localHoldings := s.world.spot.listSpotHoldings svc.accountType
  localHoldings.foldl (markStale svc info (seenAssets coins))
    (coins.foldl (fun s coin => importBalance svc info localHoldings coin s) s)

/-- `_reconcile_wallet`. -/
def reconcileWallet (svc : ReconciliationService) (info : RunInfo)
    (answer : ListReply WalletCoin) (s : ReconState) : ReconState :=
  if answer.retCode = some 0 then reconcileCoins svc info answer.list s
  else
    reportIssue info .walletBalanceApiError "shared" "error" none "reconciliation_issue" s

/-! ### The open orders -/

namespace OpenOrderItem

def symbolU (order : OpenOrderItem) : String := readSymbol order.symbol

def linkId (order : OpenOrderItem) : String := Text.strip (Text.orEmpty order.orderLinkId)

def idText (order : OpenOrderItem) : String := Text.strip (Text.orEmpty order.orderId)

def status (order : OpenOrderItem) : String := (Text.truthy order.orderStatus).getD "New"

end OpenOrderItem

namespace ReconciliationService

/-- The domain of the orders. -/
def orderDomain (svc : ReconciliationService) : String :=
  match svc.marketCategory with
  | .linear => "futures"
  | .spot => "spot"

/-- The columns of the order table of the category that both tables have. -/
def domainOrders (svc : ReconciliationService) (w : World) : List (OrderLink × DomainOrderRow) :=
  match svc.marketCategory with
  | .linear => w.futures.openOrders.entries.map fun e => (e.1, e.2.toDomainOrderRow)
  | .spot => w.spot.orders.entries.map fun e => (e.1, e.2.toDomainOrderRow)

/-- The shared columns of a listed order. -/
def orderRow (svc : ReconciliationService) (info : RunInfo) (order : OpenOrderItem) :
    DomainOrderRow where
  accountType := svc.accountType
  symbol := order.symbolU
  orderId := Text.truthy (some order.idText)
  orderType := order.orderType
  timeInForce := order.timeInForce
  status := order.status
  strategyOwner := some svc.serviceName
  updatedAtUtc := info.utc

/-- Write a listed order into the table of the category. -/
def importOrder (svc : ReconciliationService) (info : RunInfo) (order : OpenOrderItem)
    (w : World) : World :=
  match svc.marketCategory with
  | .linear => { w with
      futures := w.futures.upsertFuturesOpenOrder (some order.linkId)
        { toDomainOrderRow := svc.orderRow info order
          side := order.side
          price := some (readFloat order.price)
          qty := some (readFloat order.qty)
          reduceOnly := some (readFlag order.reduceOnly)
          closeOnTrigger := some (readFlag order.closeOnTrigger) } }
  | .spot => { w with
      spot := w.spot.upsertSpotOrder (some order.linkId)
        { toDomainOrderRow := svc.orderRow info order
          side := Text.orEmpty order.side
          price := readFloat order.price
          qty := readFloat order.qty
          filledQty := readFloat order.cumExecQty } }

/-- The order is in neither table, by its link or by its id. -/
def isOrphanedOrder (svc : ReconciliationService) (order : OpenOrderItem) (w : World) : Bool :=
  (w.legacy.orders.all fun row =>
      ¬ (order.linkId ≠ "" ∧ row.orderLinkId = order.linkId ∨
        order.idText ≠ "" ∧ row.exchangeOrderId = some order.idText)) &&
    (svc.domainOrders w).all fun e =>
      ¬ (order.linkId ≠ "" ∧ e.1 = .link order.linkId ∨
        order.idText ≠ "" ∧ e.2.orderId = some order.idText)

/-- An order the tables do not know. -/
def reportOrphanedOrder (svc : ReconciliationService) (info : RunInfo) (order : OpenOrderItem)
    (s : ReconState) : ReconState :=
  if svc.isOrphanedOrder order s.world then
    (reportIssue info .orphanedExchangeOrder svc.orderDomain "warning" (some order.symbolU)
      "imported_orphaned_order" s).count fun summary =>
        { summary with ordersOrphaned := summary.ordersOrphaned + 1 }
  else s

/-- One listed order. -/
def reconcileOrder (svc : ReconciliationService) (info : RunInfo) (s : ReconState)
    (order : OpenOrderItem) : ReconState :=
  if order.symbolU = "" then s
  else
    (svc.reportOrphanedOrder info order (s.count fun summary =>
      { summary with ordersSeen := summary.ordersSeen + 1 })).mapWorld (svc.importOrder info order)

end ReconciliationService

/-- The listed orders with a symbol. -/
def namedOrders (orders : List OpenOrderItem) : List OpenOrderItem :=
  orders.filter fun order => order.symbolU ≠ ""

/-- `LOWER(status) IN ('new', 'partiallyfilled', 'partially_filled')`. -/
def DomainOrderRow.isOpen (row : DomainOrderRow) : Bool :=
  Text.lower row.status ∈ ["new", "partiallyfilled", "partially_filled"]

/-- A stored order the answer lists, by its link or by its id. -/
def isListed (orders : List OpenOrderItem) (e : OrderLink × DomainOrderRow) : Bool :=
  (namedOrders orders).any fun order =>
    order.linkId ≠ "" ∧ e.1 = .link order.linkId ∨
      order.idText ≠ "" ∧ Text.orEmpty e.2.orderId = order.idText

namespace ReconciliationService

/-- `UPDATE … SET status='MissingOnExchange' WHERE order_link_id=?`. -/
def markMissing (svc : ReconciliationService) (link : OrderLink) (w : World) : World :=
  match svc.marketCategory with
  | .linear => { w with
      futures := { w.futures with
        openOrders := w.futures.openOrders.update link fun row =>
          { row with status := "MissingOnExchange" } } }
  | .spot => { w with
      spot := { w.spot with
        orders := w.spot.orders.update link fun row =>
          { row with status := "MissingOnExchange" } } }

/-- The stored orders that are open but not listed. -/
def missingOrders (svc : ReconciliationService) (orders : List OpenOrderItem) (w : World) :
    List (OrderLink × DomainOrderRow) :=
  (svc.domainOrders w).filter fun e => e.2.isOpen && !isListed orders e

/-- One stored order that is open but not listed. -/
def reportMissingOrder (svc : ReconciliationService) (info : RunInfo) (s : ReconState)
    (e : OrderLink × DomainOrderRow) : ReconState :=
  reportIssue info .localOrderMissingOnExchange svc.orderDomain "warning" (some e.2.symbol)
    "reconciliation_repair_applied" (s.mapWorld (svc.markMissing e.1))

/-- `_reconcile_open_orders`, on an answer with the code zero. -/
def reconcileListedOrders (svc : ReconciliationService) (info : RunInfo)
    (orders : List OpenOrderItem) (s : ReconState) : ReconState :=
  let s := s.count fun summary => { summary with openOrdersChecked := true }
  let s := orders.foldl (svc.reconcileOrder info) s
  (svc.missingOrders orders s.world).foldl (svc.reportMissingOrder info) s

/-- `_reconcile_open_orders`. -/
def reconcileOpenOrders (svc : ReconciliationService) (info : RunInfo)
    (answer : ListReply OpenOrderItem) (s : ReconState) : ReconState :=
  if answer.retCode = some 0 then svc.reconcileListedOrders info answer.list s else s

/-! ### The executions -/

/-- `_symbols`. -/
def symbols (svc : ReconciliationService) : List String :=
  ((svc.managedSymbols.map fun symbol => readSymbol (some symbol)).filter (· ≠ "")).eraseDups.take
    (max svc.symbolsLimit 1)

/-- The mirrored row of an execution. -/
def fillRow (symbol : String) (item : FundingItem) : DomainFillRow where
  symbol := Text.upper ((Text.truthy item.symbol).getD symbol)
  side := Text.orEmpty item.side
  orderId := Text.truthy item.orderId
  orderLinkId := Text.truthy item.orderLinkId
  price := readFloat (Text.firstTruthy item.execPrice item.price)
  qty := readFloat (Text.firstTruthy item.execQty item.qty)
  fee := some (readFloat item.execFee)
  feeCurrency := Text.truthy item.feeCurrency
  isMaker := readFlag item.isMaker
  execTimeMs := readInt item.execTime

/-- The funding event of an execution. -/
def fundingRow (svc : ReconciliationService) (symbol : String) (item : FundingItem) :
    FundingEventRow where
  accountType := svc.accountType
  symbol := Text.upper ((Text.truthy item.symbol).getD symbol)
  side := Text.truthy (some (Text.strip (Text.orEmpty item.side)))
  positionIdx := item.positionIdx.map fun text => readInt (some text)
  fundingRate := (Text.truthy item.fundingRate).map fun text => readFloat (some text)
  fundingFee := readFloat item.execFee
  fundingTimeMs := readInt item.execTime

/-- `"funding" in exec_type`. -/
def isFunding (item : FundingItem) : Bool :=
  (Text.lower (Text.strip (Text.orEmpty item.execType))).toList.tails.any
    fun tail => "funding".toList.isPrefixOf tail

/-- The funding event of a futures execution, where it is one. -/
def mirrorFunding (svc : ReconciliationService) (symbol : String) (item : FundingItem)
    (db : FuturesStore) : Bool × FuturesStore :=
  if isFunding item then db.insertFuturesFundingEvent (svc.fundingRow symbol item) else (false, db)

/-- An execution in the tables of its category. -/
def mirrorFill (svc : ReconciliationService) (symbol execId : String) (item : FundingItem)
    (s : ReconState) : ReconState :=
  match svc.marketCategory with
  | .linear =>
    let funding := svc.mirrorFunding symbol item
      (s.world.futures.insertFuturesFill execId (fillRow symbol item))
    (s.mapWorld fun w => { w with futures := funding.2 }).count fun summary =>
      { summary with fundingEventsSeen := summary.fundingEventsSeen + funding.1.toNat }
  | .spot =>
    s.mapWorld fun w => { w with spot := w.spot.insertSpotFill execId (fillRow symbol item) }

/-- One execution of a symbol. -/
def reconcileFill (svc : ReconciliationService) (symbol : String) (s : ReconState)
    (item : FundingItem) : ReconState :=
  let execId := Text.strip (Text.orEmpty item.execId)
  if execId = "" then s
  else (svc.mirrorFill symbol execId item s).count fun summary =>
    { summary with fillsSeen := summary.fillsSeen + 1 }

/-- The executions of one symbol. -/
def reconcileSymbolFills (svc : ReconciliationService) (symbol : String)
    (answer : ListReply FundingItem) (s : ReconState) : ReconState :=
  if answer.retCode = some 0 then answer.list.foldl (svc.reconcileFill symbol) s else s

/-! ### The positions -/

end ReconciliationService

/-- How a position is compared: symbol, side and index. -/
abbrev LocalKey := String × String × ℤ

instance LocalKey.lawfulBEq : LawfulBEq LocalKey := inferInstance

/-- The local key of a stored position. -/
def PositionKey.localKey (key : PositionKey) : LocalKey :=
  (Text.upper key.symbol, key.side, key.positionIdx)

namespace ExchangePosition

def symbolU (item : ExchangePosition) : String := readSymbol item.symbol

def sideText (item : ExchangePosition) : String := Text.strip (Text.orEmpty item.side)

def listedQty (item : ExchangePosition) : ℚ := readFloat (Text.firstTruthy item.size item.qty)

/-- A position with a symbol, a side and a quantity. -/
def isHeld (item : ExchangePosition) : Bool :=
  item.symbolU ≠ "" ∧ item.sideText ≠ "" ∧ 0 < |item.listedQty|

def localKey (item : ExchangePosition) : LocalKey :=
  (item.symbolU, item.sideText, readInt item.positionIdx)

/-- A positive price, or none. -/
def positive (price : ℚ) : Option ℚ := if 0 < price then some price else none

def status (item : ExchangePosition) : ProtectionStatus :=
  if 0 < readFloat item.stopLoss ∧ 0 < readFloat item.takeProfit then .«protected»
  else .unprotected

end ExchangePosition

namespace ReconciliationService

/-- The key of a listed position. -/
def positionKey (svc : ReconciliationService) (item : ExchangePosition) : PositionKey :=
  ⟨svc.accountType, item.symbolU, item.sideText, readInt item.positionIdx⟩

/-- The row of a listed position. -/
def positionRow (svc : ReconciliationService) (info : RunInfo) (orphaned : Bool)
    (item : ExchangePosition) : PositionRow where
  marginMode := (Text.firstTruthy item.tradeMode item.marginMode).getD ""
  leverage := some (readFloat item.leverage)
  qty := item.listedQty
  entryPrice := some (readFloat (Text.firstTruthy item.avgPrice item.entryPrice))
  markPrice := some (readFloat item.markPrice)
  liqPrice := some (readFloat item.liqPrice)
  unrealizedPnl := some (readFloat (Text.firstTruthy item.unrealisedPnl item.unrealizedPnl))
  realizedPnl := some (readFloat (Text.firstTruthy item.cumRealisedPnl item.realizedPnl))
  takeProfit := ExchangePosition.positive (readFloat item.takeProfit)
  stopLoss := ExchangePosition.positive (readFloat item.stopLoss)
  trailingStop := ExchangePosition.positive (readFloat item.trailingStop)
  protectionStatus := item.status
  sourceOfTruth := "exchange_position_list"
  recoveredFromExchange := orphaned
  strategyOwner := some svc.serviceName
  updatedAtUtc := info.utc

/-- The protection record of a listed position. -/
def protectionRow (info : RunInfo) (item : ExchangePosition) : ProtectionRow where
  status := item.status
  stopLoss := ExchangePosition.positive (readFloat item.stopLoss)
  takeProfit := ExchangePosition.positive (readFloat item.takeProfit)
  trailingStop := ExchangePosition.positive (readFloat item.trailingStop)
  sourceOfTruth := "exchange_position_list"
  updatedAtUtc := info.utc

/-- The keys of the stored positions of the account that have a quantity. -/
def localKeys (svc : ReconciliationService) (w : World) : List LocalKey :=
  (((w.futures.listFuturesPositions svc.accountType).filter fun e => 0 < |e.2.qty|).map
    fun e => e.1.localKey).eraseDups

/-- Write a listed position and its protection. -/
def importPosition (svc : ReconciliationService) (info : RunInfo) (orphaned : Bool)
    (item : ExchangePosition) (w : World) : World :=
  { w with
    futures := (w.futures.upsertFuturesPosition (svc.positionKey item)
      (svc.positionRow info orphaned item)).upsertFuturesProtection (svc.positionKey item)
        (protectionRow info item) }

/-- A position the tables do not know. -/
def reportOrphanedPosition (info : RunInfo) (orphaned : Bool) (item : ExchangePosition)
    (s : ReconState) : ReconState :=
  if orphaned then
    (reportIssue info .orphanedExchangePosition "futures" "error" (some item.symbolU)
      "imported_orphaned_position" s).count fun summary =>
        { summary with futuresPositionsOrphaned := summary.futuresPositionsOrphaned + 1 }
  else s

/-- A position without a stop or a take. -/
def reportUnprotected (info : RunInfo) (item : ExchangePosition) (s : ReconState) : ReconState :=
  if item.status = .unprotected then
    reportIssue info .unprotectedPosition "futures" "critical" (some item.symbolU)
      "protection_failure" s
  else s

/-- One listed position, with the local keys from before. -/
def reconcilePosition (svc : ReconciliationService) (info : RunInfo) (locals : List LocalKey)
    (s : ReconState) (item : ExchangePosition) : ReconState :=
  if item.isHeld then
    let orphaned : Bool := item.localKey ∉ locals
    let s := (s.mapWorld (svc.importPosition info orphaned item)).count fun summary =>
      { summary with
        futuresPositionsSeen := summary.futuresPositionsSeen + 1
        liqRiskSnapshots := summary.liqRiskSnapshots + 1 }
    reportUnprotected info item (reportOrphanedPosition info orphaned item s)
  else s

/-- The keys of the listed positions. -/
def exchangeKeys (items : List ExchangePosition) : List LocalKey :=
  (items.filter ExchangePosition.isHeld).map ExchangePosition.localKey

/-- One local key that is not listed; its row stays as it is. -/
def reportMissingPosition (info : RunInfo) (s : ReconState) (key : LocalKey) : ReconState :=
  reportIssue info .localPositionMissingOnExchange "futures" "warning" (some key.1)
    "reconciliation_issue" s

/-- `_reconcile_futures_positions`, on an answer with the code zero. -/
def reconcileListedPositions (svc : ReconciliationService) (info : RunInfo)
    (items : List ExchangePosition) (s : ReconState) : ReconState :=
  let s := s.count fun summary => { summary with futuresPositionsChecked := true }
  let locals := svc.localKeys s.world
  let s := items.foldl (svc.reconcilePosition info locals) s
  (locals.filter fun key => key ∉ exchangeKeys items).foldl (reportMissingPosition info) s

/-- `_reconcile_futures_positions`. -/
def reconcileFuturesPositions (svc : ReconciliationService) (info : RunInfo)
    (answer : ListReply ExchangePosition) (s : ReconState) : ReconState :=
  if answer.retCode = some 0 then svc.reconcileListedPositions info answer.list s else s

/-! ### Stale entry locks -/

/-- The issue types and domains that were checked. -/
def eligiblePairs (svc : ReconciliationService) (summary : ReconSummary) :
    List (IssueType × String) :=
  (if summary.openOrdersChecked then
    [(.orphanedExchangeOrder, svc.orderDomain), (.localOrderMissingOnExchange, svc.orderDomain)]
  else []) ++
  (if svc.marketCategory = .linear ∧ summary.futuresPositionsChecked then
    [(.orphanedExchangePosition, "futures"), (.localPositionMissingOnExchange, "futures")]
  else [])

/-- The key of a stored issue, as the sweep compares it. -/
def sweepKey (row : IssueRow) : IssueKey :=
  (row.issueType, Text.strip row.domain, readSymbol row.symbol)

/-- One open issue of a checked type. -/
def resolveIfStale (info : RunInfo) (e : ℕ × IssueRow) (s : ReconState) : ReconState :=
  let key := sweepKey e.2
  if key ∈ s.activeLockIssueKeys then s
  else
    let result := s.world.core.resolveReconciliationIssue e.1 info.utc
    if result.1 then
      let s := (s.mapWorld fun w => { w with core := result.2 }).count fun summary =>
        { summary with
          issuesResolved := summary.issuesResolved + 1
          unlockedSymbols :=
            if key.2.2 = "" then summary.unlockedSymbols
            else summary.unlockedSymbols.insert key.2.2 }
      s.audit ⟨"reconciliation_issue_resolved", if key.2.1 = "" then "shared" else key.2.1,
        Text.truthy (some key.2.2), some (issueRef e.1)⟩
    else s

/-- The open issues of the checked types. -/
def openIssuesOf (pairs : List (IssueType × String)) (w : World) : List (ℕ × IssueRow) :=
  w.core.issues.entries.filter fun e => e.2.isOpen ∧ (e.2.issueType, e.2.domain) ∈ pairs

/-- The symbols unlocked by the sweep, sorted and counted. -/
def countUnlocked (summary : ReconSummary) : ReconSummary :=
  { summary with
    locksReleased := summary.locksReleased + summary.unlockedSymbols.length
    unlockedSymbols := summary.unlockedSymbols.insertionSort (· ≤ ·) }

/-- `_resolve_stale_entry_lock_issues`. -/
def resolveStaleEntryLockIssues (svc : ReconciliationService) (info : RunInfo) (s : ReconState) :
    ReconState :=
  let pairs := svc.eligiblePairs s.summary
  ((openIssuesOf pairs s.world).foldl (fun s e => resolveIfStale info e s) s).count countUnlocked

/-! ### A run -/

/-- Wait for an answer, and work on it. -/
def onAnswer {α : Type} (answer : Except String α) (work : α → ReconState → ReconState) :
    EStateM String ReconState Unit := do
  let answer ← fromExcept answer
  modify (work answer)

/-- `_reconcile_fills`. -/
def reconcileFills (svc : ReconciliationService) (answers : Answers) :
    EStateM String ReconState Unit :=
  each (fun symbol => onAnswer (answers.executions symbol) (svc.reconcileSymbolFills symbol))
    svc.symbols

/-- The positions, which only futures have. -/
def reconcilePositions (svc : ReconciliationService) (info : RunInfo) (answers : Answers) :
    EStateM String ReconState Unit :=
  match svc.marketCategory with
  | .linear => onAnswer answers.positions (svc.reconcileFuturesPositions info)
  | .spot => pure ()

/-- The part of a run that may raise. -/
def body (svc : ReconciliationService) (info : RunInfo) (answers : Answers) :
    EStateM String ReconState Unit := do
  onAnswer answers.wallet (reconcileWallet svc info)
  onAnswer answers.openOrders (svc.reconcileOpenOrders info)
  svc.reconcileFills answers
  svc.reconcilePositions info answers
  modify (svc.resolveStaleEntryLockIssues info)

/-- The state when the calls begin: no conflict is known yet. -/
def start (svc : ReconciliationService) (triggerSource : String) (utc : ℕ) (w : World) :
    RunInfo × ReconState :=
  let result := w.core.startReconciliationRun triggerSource utc
  let core := result.2.insertEventAudit
    ⟨"reconciliation_start", "shared", none, some (runRef result.1)⟩
  (⟨result.1, utc⟩, ⟨{ w with core := core }, [], .initial triggerSource svc.marketCategory⟩)

/-- Close the row of the run. -/
def finish (info : RunInfo) (status eventType : String) (s : ReconState) : ReconState :=
  (s.mapWorld fun w => { w with
    core := w.core.finishReconciliationRun info.runId status info.utc }).audit
      ⟨eventType, "shared", none, some (runRef info.runId)⟩

/-- `run`: the tables and the summary after it. -/
def run (svc : ReconciliationService) (triggerSource : String) (answers : Answers) (w : World) :
    World × ReconSummary :=
  let begun := svc.start triggerSource answers.utc w
  let ended := match svc.body begun.1 answers begun.2 with
    | .ok _ s => finish begun.1 "success" "reconciliation_end" s
    | .error e s => finish begun.1 "failed" "reconciliation_failed" (s.count fun summary =>
        { summary with status := "failed", error := some e })
  (ended.world, ended.summary)

end ReconciliationService

end Botik
