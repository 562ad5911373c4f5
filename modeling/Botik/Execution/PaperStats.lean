import Botik.Execution.FuturesPaper
import Botik.Execution.SpotPaper
import Botik.Library.Json
import Mathlib.Data.List.Sort

/-!
# The statistics of the paper engines

`get_stats` reads the tables, not the results the engines returned. For futures it is one row of
aggregates over `futures_paper_trades`, whose columns are read by position. For spot it is a join
of `spot_fills` with `spot_orders`, and a loop over the rows.

The tables of the engines stand in their own files; here are the columns only the statistics read.

## Main definitions

* `ScopedPaperState`, `FuturesPaper.scopedStep` — the tables with the scope of every trade
* `FuturesPaper.getStats`
* `SpotPaperBooks`, `SpotPaper.bookedStep` — the engine with its orders and fills
* `SpotPaper.getStats`
-/

namespace Botik

/-- What `get_stats` returns. -/
structure PaperStats where
  total : ℤ
  wins : ℤ
  winRate : ℚ
  totalPnl : ℚ
  avgPnl : Option ℚ
  deriving DecidableEq, Repr

/-- The statistics without trades. -/
def PaperStats.zero : PaperStats where
  total := 0
  wins := 0
  winRate := 0
  totalPnl := 0
  avgPnl := none

/-- `round(x, 4)`. -/
def round4 (x : ℚ) : ℚ := Text.roundHalfEven (x * 10 ^ 4) / 10 ^ 4

/-- `round(x, 1)`. -/
def round1 (x : ℚ) : ℚ := Text.roundHalfEven (x * 10) / 10

/-! ### Futures -/

/-- The tables of the futures engines, with the column `model_scope` of the trades. -/
structure ScopedPaperState where
  tables : FuturesPaperState
  scopes : Dict String String

namespace FuturesPaper

/-- A call of the engine of a scope, or the protection its runner saves. -/
inductive ScopedCall
  | call (scope : String) (c : Call)
  | saveProtection (symbol : String) (side : PositionSide) (sl tp : ℚ)

/-- One call, with the results of its `close_position`. -/
def scopedStep : ScopedCall → ScopedPaperState → List FuturesPaperClose × ScopedPaperState
  | .call scope (.openPosition o tradeId nowMs), s =>
    let (answer, tables) := openPosition o tradeId nowMs s.tables
    ([], { tables, scopes := if answer.isSome then s.scopes.set tradeId scope else s.scopes })
  | .call _ (.onPriceTick policy symbol markPrice nowMs), s =>
    let (closed, tables) := onPriceTick policy symbol markPrice nowMs s.tables
    (closed, { s with tables })
  | .saveProtection symbol side sl tp, s =>
    ([], { s with tables := saveProtection symbol side sl tp s.tables })

/-- The rows `closed_at_utc IS NOT NULL AND model_scope=?`. -/
def closedRows (scope : String) (s : ScopedPaperState) : List PaperExit :=
  s.tables.trades.entries.filterMap fun e =>
    if s.scopes.get? e.1 = some scope then e.2.exit else none

/-- The row of the query: `total`, `wins`, `total_pnl`, `avg_pnl`. A sum over no rows is `NULL`. -/
def statsRow (scope : String) (s : ScopedPaperState) : List (Option ℚ) :=
  let rows := closedRows scope s
  let pnl := (rows.map PaperExit.netPnl).sum
  let some? (x : ℚ) := if rows = [] then none else some x
  [some rows.length, some? (rows.filter fun row => row.wasProfitable).length, some? pnl,
    some? (pnl / rows.length)]

/-- `row[i]`. -/
def column (row : List (Option ℚ)) (i : ℕ) : Except PyError (Option ℚ) :=
  match row[i]? with
  | some value => .ok value
  | none => .error .indexError

/-- What `get_stats` makes of the row, column by column. -/
def statsOf (row : List (Option ℚ)) : Except PyError PaperStats := do
  if (← column row 0).getD 0 = 0 then return PaperStats.zero
  let total := Text.truncate ((← column row 0).getD 0)
  let wins := Text.truncate ((← column row 1).getD 0)
  return {
    total := total
    wins := wins
    winRate := if total ≠ 0 then round1 (wins / total * 100) else 0
    totalPnl := round4 ((← column row 3).getD 0)
    avgPnl := some (round4 ((← column row 4).getD 0)) }

/-- `get_stats`; an exception leaves the empty dictionary, which has no statistics at all. -/
def getStats (scope : String) (s : ScopedPaperState) : Option PaperStats :=
  (statsOf (statsRow scope s)).toOption

end FuturesPaper

/-! ### Spot -/

/-- The side of an order or a fill. -/
inductive SpotSide
  | buy
  | sell
  deriving DecidableEq, Repr

/-- A row of `spot_orders`, under its `order_link_id`. -/
structure SpotPaperOrder where
  symbol : String
  side : SpotSide
  price : ℚ
  qty : ℚ
  deriving DecidableEq, Repr

/-- A row of `spot_fills`, under its `exec_id`. -/
structure SpotPaperFill where
  orderLinkId : String
  symbol : String
  side : SpotSide
  execPrice : ℚ
  execQty : ℚ
  execTimeMs : ℤ
  deriving DecidableEq, Repr

/-- The engine with the orders and fills it books. -/
structure SpotPaperBooks where
  engine : SpotPaperState
  orders : Dict String SpotPaperOrder
  fills : Dict String SpotPaperFill

/-- A sale of a call, and whether its transaction was committed. -/
structure BookedSale where
  trade : SpotPaperTrade
  committed : Bool
  deriving DecidableEq, Repr

namespace SpotPaper

/-- What happens to an engine: a call, with the ids its sale would draw, or a new engine over the
tables. -/
inductive BookedCall
  | call (c : Call) (execId sellOrderId : String)
  | restart (balanceUsdt : ℚ) (tradeIds : String → String) (nowMs : ℤ)

/-- The order of a purchase. -/
def BuyOrder.row (o : BuyOrder) : SpotPaperOrder where
  symbol := o.symbol
  side := .buy
  price := o.entryPrice
  qty := o.qty

/-- The order of a sale. -/
def sellOrder (trade : SpotPaperTrade) : SpotPaperOrder where
  symbol := trade.symbol
  side := .sell
  price := trade.exitPrice
  qty := trade.qty

/-- The fill of a sale. -/
def sellFill (sellOrderId : String) (nowMs : ℤ) (trade : SpotPaperTrade) : SpotPaperFill where
  orderLinkId := sellOrderId
  symbol := trade.symbol
  side := .sell
  execPrice := trade.exitPrice
  execQty := trade.qty
  execTimeMs := nowMs

/-- Book some sales of a call; it makes at most one. -/
def bookSales (execId sellOrderId : String) (nowMs : ℤ) (committed : Bool)
    (trades : List SpotPaperTrade) (b : SpotPaperBooks) : SpotPaperBooks :=
  match committed, trades with
  | true, trade :: _ => { b with
      orders := b.orders.set sellOrderId (sellOrder trade)
      fills := b.fills.insertIfAbsent execId (sellFill sellOrderId nowMs trade) }
  | _, _ => b

/-- One call, with its sales. An order whose `order_link_id` is taken fails the whole transaction. -/
def bookedStep : BookedCall → SpotPaperBooks → List BookedSale × SpotPaperBooks
  | .call (.buy o tradeId nowMs committed) _ _, b =>
    let committed := committed && (b.orders.get? tradeId).isNone
    let (answer, engine) := buy o tradeId nowMs committed b.engine
    ([], { b with
      engine
      orders := if answer.isSome ∧ committed then b.orders.set tradeId o.row else b.orders })
  | .call (.sell symbol exitPrice exitReason nowMs committed) execId sellOrderId, b =>
    let committed := committed && (b.orders.get? sellOrderId).isNone
    let (trade, engine) := sell symbol exitPrice exitReason nowMs committed b.engine
    (trade.toList.map fun t => ⟨t, committed⟩,
      bookSales execId sellOrderId nowMs committed trade.toList { b with engine })
  | .call (.tick policy symbol price nowMs pricedCommitted soldCommitted) execId sellOrderId, b =>
    let committed := soldCommitted && (b.orders.get? sellOrderId).isNone
    let (trades, engine) :=
      onPriceTick policy symbol price nowMs pricedCommitted committed b.engine
    (trades.map fun t => ⟨t, committed⟩,
      bookSales execId sellOrderId nowMs committed trades { b with engine })
  | .restart balanceUsdt tradeIds nowMs, b =>
    ([], { b with engine := start balanceUsdt tradeIds nowMs b.engine.table })

/-- A row of the query: `exec_price`, `exec_qty`, `entry_price`, and the time it is ordered by. -/
structure StatsRow where
  execPrice : ℚ
  execQty : ℚ
  entryPrice : ℚ
  execTimeMs : ℤ
  deriving DecidableEq, Repr

/-- The sell fills, each with the orders of its `order_link_id`. -/
def joinedRows (b : SpotPaperBooks) : List StatsRow :=
  (b.fills.entries.filter fun f => f.2.side = .sell).flatMap fun f =>
    (b.orders.entries.filter fun o => o.1 = f.2.orderLinkId).map fun o =>
      { execPrice := f.2.execPrice, execQty := f.2.execQty, entryPrice := o.2.price,
        execTimeMs := f.2.execTimeMs }

/-- `ORDER BY sf.exec_time_ms DESC LIMIT 500`. -/
def statsRows (b : SpotPaperBooks) : List StatsRow :=
  ((joinedRows b).insertionSort fun r r' => r'.execTimeMs ≤ r.execTimeMs).take 500

/-- `pnl` of a row, if it counts. -/
def StatsRow.pnl? (r : StatsRow) : Option ℚ :=
  if 0 < r.entryPrice then some ((r.execPrice - r.entryPrice) * r.execQty) else none

/-- `get_stats`. -/
def getStats (b : SpotPaperBooks) : PaperStats :=
  let rows := statsRows b
  let pnls := rows.filterMap StatsRow.pnl?
  let wins : ℤ := (pnls.filter fun pnl => 0 < pnl).length
  if rows = [] then PaperStats.zero
  else {
    total := rows.length
    wins := wins
    winRate := wins / rows.length * 100
    totalPnl := pnls.sum
    avgPnl := none }

end SpotPaper

end Botik
