import Botik.Library.Dict
import Botik.Library.Runs
import Botik.Library.Text
import Botik.Position.SimpleExit

/-!
# The spot paper engine

`SpotPaperEngine`: it buys and sells on paper, keeps its holdings in memory and in the rows of
`spot_holdings` of its account, and asks its policy at every tick. What the rows do not store, the
stop and target, the fee and the time of the purchase, is made up when the engine starts again.

## Main definitions

* `PaperHolding`, `SpotPaperRow`, `SpotPaperState`
* `SpotPaper.buy`, `SpotPaper.sell`, `SpotPaper.onPriceTick`
* `SpotPaper.start` — the constructor over a table
* `SpotPaper.step` — one call, with its answer
-/

namespace Botik

/-- `SPOT_FEE_RATE`. -/
def spotFeeRate : ℚ := 1 / 1000

/-- A value of `_holdings`. -/
structure PaperHolding where
  tradeId : String
  baseAsset : String
  qty : ℚ
  avgEntryPrice : ℚ
  currentPrice : ℚ
  entryFee : ℚ
  purchaseValueUsdt : ℚ
  openedAtMs : ℤ
  deriving DecidableEq, Repr

/-- What the engine has spent on a holding. -/
def PaperHolding.costBasis (h : PaperHolding) : ℚ := h.avgEntryPrice * h.qty + h.entryFee

/-- A row of `spot_holdings` with the account type `SPOT_PAPER`. -/
structure SpotPaperRow where
  freeQty : ℚ
  avgEntryPrice : ℚ
  currentPrice : ℚ
  purchaseValueUsdt : ℚ
  deriving DecidableEq, Repr

/-- The engine and its rows, under symbol and base asset. -/
structure SpotPaperState where
  balance : ℚ
  holdings : Dict String PaperHolding
  /-- `_protection`: stop and target. -/
  protection : String → Option (ℚ × ℚ)
  table : Dict (String × String) SpotPaperRow

/-- The result of a sale. -/
structure SpotPaperTrade where
  symbol : String
  entryPrice : ℚ
  exitPrice : ℚ
  qty : ℚ
  netPnl : ℚ
  holdTimeMs : ℤ
  exitReason : String
  deriving DecidableEq, Repr

namespace SpotPaper

/-- The base asset of a symbol. -/
def baseAsset (symbol : String) : String :=
  if Text.contains "USDT" symbol then Text.removeAll "USDT" symbol
  else String.ofList (symbol.toList.take 3)

/-! ### Buying -/

/-- The holding of a purchase. -/
def newHolding (symbol tradeId : String) (qty entryPrice : ℚ) (nowMs : ℤ) : PaperHolding where
  tradeId := tradeId
  baseAsset := baseAsset symbol
  qty := qty
  avgEntryPrice := entryPrice
  currentPrice := entryPrice
  entryFee := entryPrice * qty * spotFeeRate
  purchaseValueUsdt := entryPrice * qty
  openedAtMs := nowMs

/-- The row of a purchase; where there is one already its price column stays. -/
def boughtRow (qty entryPrice : ℚ) (old : Option SpotPaperRow) : SpotPaperRow where
  freeQty := qty
  avgEntryPrice := entryPrice
  currentPrice := (old.map SpotPaperRow.currentPrice).getD entryPrice
  purchaseValueUsdt := entryPrice * qty

/-- A purchase as it is asked for. -/
structure BuyOrder where
  symbol : String
  qty : ℚ
  entryPrice : ℚ
  stopLoss : ℚ
  takeProfit : ℚ

/-- The price with the fee. -/
def BuyOrder.totalCost (o : BuyOrder) : ℚ :=
  o.entryPrice * o.qty + o.entryPrice * o.qty * spotFeeRate

/-- The purchase can be made: nothing is held of the symbol, and the balance covers it. -/
def Affordable (s : SpotPaperState) (o : BuyOrder) : Prop :=
  s.holdings.get? o.symbol = none ∧ o.totalCost ≤ s.balance

instance (s : SpotPaperState) (o : BuyOrder) : Decidable (Affordable s o) :=
  inferInstanceAs (Decidable (_ ∧ _))

/-- What the rows are after a purchase, if its transaction is committed. -/
def boughtTable (o : BuyOrder) (committed : Bool) (table : Dict (String × String) SpotPaperRow) :
    Dict (String × String) SpotPaperRow :=
  let key := (o.symbol, baseAsset o.symbol)
  if committed then table.set key (boughtRow o.qty o.entryPrice (table.get? key)) else table

/-- The state after a purchase. -/
def bought (o : BuyOrder) (tradeId : String) (nowMs : ℤ) (committed : Bool) (s : SpotPaperState) :
    SpotPaperState where
  balance := s.balance - o.totalCost
  holdings := s.holdings.set o.symbol (newHolding o.symbol tradeId o.qty o.entryPrice nowMs)
  protection := Function.update s.protection o.symbol (some (o.stopLoss, o.takeProfit))
  table := boughtTable o committed s.table

/-- `buy`: the trade id, or nothing where the purchase cannot be made. -/
def buy (o : BuyOrder) (tradeId : String) (nowMs : ℤ) (committed : Bool) (s : SpotPaperState) :
    Option String × SpotPaperState :=
  if Affordable s o then (some tradeId, bought o tradeId nowMs committed s) else (none, s)

/-! ### Selling -/

/-- What a sale brings in. -/
def netProceeds (h : PaperHolding) (exitPrice : ℚ) : ℚ :=
  exitPrice * h.qty - exitPrice * h.qty * spotFeeRate

/-- The result of selling a holding. -/
def soldTrade (symbol : String) (h : PaperHolding) (exitPrice : ℚ) (exitReason : String)
    (nowMs : ℤ) : SpotPaperTrade where
  symbol := symbol
  entryPrice := h.avgEntryPrice
  exitPrice := exitPrice
  qty := h.qty
  netPnl := netProceeds h exitPrice - h.costBasis
  holdTimeMs := nowMs - h.openedAtMs
  exitReason := exitReason

/-- The state after a holding was sold. -/
def sold (symbol : String) (h : PaperHolding) (exitPrice : ℚ) (committed : Bool)
    (s : SpotPaperState) : SpotPaperState where
  balance := s.balance + netProceeds h exitPrice
  holdings := s.holdings.erase symbol
  protection := Function.update s.protection symbol none
  table := if committed then s.table.erase (symbol, h.baseAsset) else s.table

/-- `sell`: the trade, or nothing where nothing is held. -/
def sell (symbol : String) (exitPrice : ℚ) (exitReason : String) (nowMs : ℤ) (committed : Bool)
    (s : SpotPaperState) : Option SpotPaperTrade × SpotPaperState :=
  match s.holdings.get? symbol with
  | none => (none, s)
  | some h => (some (soldTrade symbol h exitPrice exitReason nowMs),
      sold symbol h exitPrice committed s)

/-! ### Ticks -/

/-- `_update_holding_pnl`. -/
def updateHoldingPnl (symbol : String) (h : PaperHolding) (price : ℚ) (committed : Bool)
    (table : Dict (String × String) SpotPaperRow) : Dict (String × String) SpotPaperRow :=
  if committed then
    table.update (symbol, h.baseAsset) fun row => { row with currentPrice := price }
  else table

/-- A tick before the policy is asked. -/
def priced (symbol : String) (h : PaperHolding) (price : ℚ) (committed : Bool)
    (s : SpotPaperState) : SpotPaperState :=
  { s with
    holdings := s.holdings.set symbol { h with currentPrice := price }
    table := updateHoldingPnl symbol h price committed s.table }

/-- What the policy is asked about; without an entry the stop and the target are zero. -/
def snapshot (symbol : String) (h : PaperHolding) (price : ℚ) (s : SpotPaperState) :
    PositionSnapshot where
  tradeId := h.tradeId
  symbol := symbol
  side := .long
  entryPrice := h.avgEntryPrice
  qty := h.qty
  stopLoss := ((s.protection symbol).getD (0, 0)).1
  takeProfit := ((s.protection symbol).getD (0, 0)).2
  markPrice := price
  openedAtMs := h.openedAtMs

/-- `on_price_tick`: the closed trades. -/
def onPriceTick (policy : Policy) (symbol : String) (price : ℚ) (nowMs : ℤ)
    (pricedCommitted soldCommitted : Bool) (s : SpotPaperState) :
    List SpotPaperTrade × SpotPaperState :=
  match s.holdings.get? symbol with
  | none => ([], s)
  | some h =>
    let action := policy (snapshot symbol h price s)
    let s' := priced symbol h price pricedCommitted s
    if action.action = .closeAll then
      let (trade, s'') := sell symbol price action.reason nowMs soldCommitted s'
      (trade.toList, s'')
    else ([], s')

/-! ### Starting -/

/-- The holding a row is loaded as. -/
def loadedHolding (tradeId : String) (nowMs : ℤ) (base : String) (row : SpotPaperRow) :
    PaperHolding where
  tradeId := tradeId
  baseAsset := base
  qty := row.freeQty
  avgEntryPrice := row.avgEntryPrice
  currentPrice := if row.currentPrice = 0 then row.avgEntryPrice else row.currentPrice
  entryFee := row.purchaseValueUsdt * spotFeeRate
  purchaseValueUsdt := row.purchaseValueUsdt
  openedAtMs := nowMs

/-- Load one row; a later one of the same symbol takes its place. -/
def loadRow (tradeIds : String → String) (nowMs : ℤ) (holdings : Dict String PaperHolding)
    (e : (String × String) × SpotPaperRow) : Dict String PaperHolding :=
  holdings.set e.1.1 (loadedHolding (tradeIds e.1.1) nowMs e.1.2 e.2)

/-- `_load_holdings_from_db`. -/
def loadHoldings (tradeIds : String → String) (nowMs : ℤ)
    (table : Dict (String × String) SpotPaperRow) : Dict String PaperHolding :=
  table.entries.foldl (loadRow tradeIds nowMs) .empty

/-- The constructor. -/
def start (balanceUsdt : ℚ) (tradeIds : String → String) (nowMs : ℤ)
    (table : Dict (String × String) SpotPaperRow) : SpotPaperState where
  balance := balanceUsdt
  holdings := loadHoldings tradeIds nowMs table
  protection := fun _ => none
  table := table

/-! ### Calls -/

/-- A call with what it sees of the outside: the clock, the trade id, the answer of the policy and
whether its transactions are committed. -/
inductive Call
  | buy (order : BuyOrder) (tradeId : String) (nowMs : ℤ) (committed : Bool)
  | sell (symbol : String) (exitPrice : ℚ) (exitReason : String) (nowMs : ℤ) (committed : Bool)
  | tick (policy : Policy) (symbol : String) (price : ℚ) (nowMs : ℤ)
      (pricedCommitted soldCommitted : Bool)

/-- What a call returns. -/
inductive Answer
  | bought (tradeId : Option String)
  | sold (trades : List SpotPaperTrade)
  deriving DecidableEq, Repr

/-- The trades an answer reports. -/
def Answer.trades : Answer → List SpotPaperTrade
  | .bought _ => []
  | .sold trades => trades

/-- One call. -/
def step : Call → SpotPaperState → Answer × SpotPaperState
  | .buy order tradeId nowMs committed, s =>
    let (answer, s') := buy order tradeId nowMs committed s
    (.bought answer, s')
  | .sell symbol exitPrice exitReason nowMs committed, s =>
    let (trade, s') := sell symbol exitPrice exitReason nowMs committed s
    (.sold trade.toList, s')
  | .tick policy symbol price nowMs pricedCommitted soldCommitted, s =>
    let (trades, s') := onPriceTick policy symbol price nowMs pricedCommitted soldCommitted s
    (.sold trades, s')

end SpotPaper

end Botik
