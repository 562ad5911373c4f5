import Botik.Library.Dict
import Botik.Library.Runs
import Botik.Position.SimpleExit

/-!
# The futures paper engine

`FuturesPaperEngine` keeps nothing in memory: every call works on its tables. One row of
`futures_positions` stands for all trades of a symbol and a side, and so does one row of
`futures_protection_orders`, from which the stop and target are read at every tick. Its statements
succeed here.

## Main definitions

* `FuturesPaperState` — the three tables
* `FuturesPaper.openPosition`, `FuturesPaper.saveProtection`
* `FuturesPaper.onPriceTick` — the loop over the open trades
* `FuturesPaper.step` — one call
-/

namespace Botik

/-- How a paper trade was closed. -/
structure PaperExit where
  exitPrice : ℚ
  grossPnl : ℚ
  netPnl : ℚ
  exitReason : String
  wasProfitable : Bool
  closedAtSec : ℤ
  deriving DecidableEq, Repr

/-- A row of `futures_paper_trades`; times are stored in seconds. -/
structure PaperTrade where
  symbol : String
  side : PositionSide
  entryPrice : ℚ
  qty : ℚ
  openedAtSec : ℤ
  /-- The columns of the exit, once the trade is closed. -/
  exit : Option PaperExit
  deriving DecidableEq, Repr

/-- A row of `futures_positions` of the account of the engine. -/
structure PaperPositionRow where
  size : ℚ
  entryPrice : ℚ
  markPrice : ℚ
  unrealisedPnl : ℚ
  deriving DecidableEq, Repr

/-- A row of `futures_protection_orders`. -/
structure PaperProtection where
  slPrice : Option ℚ
  tpPrice : Option ℚ
  deriving DecidableEq, Repr

/-- The tables: trades under their ids, the others under symbol and side. -/
structure FuturesPaperState where
  trades : Dict String PaperTrade
  positions : Dict (String × PositionSide) PaperPositionRow
  protections : Dict (String × PositionSide) PaperProtection

/-- What `close_position` returns. -/
structure FuturesPaperClose where
  tradeId : String
  symbol : String
  side : PositionSide
  exitPrice : ℚ
  netPnl : ℚ
  exitReason : String
  wasProfitable : Bool
  deriving DecidableEq, Repr

namespace FuturesPaper

/-- `_utc_now`: the seconds of a time in milliseconds. -/
def seconds (nowMs : ℤ) : ℤ := nowMs / 1000

/-! ### Opening -/

/-- The arguments of `open_position`. -/
structure OpenRequest where
  symbol : String
  side : PositionSide
  entryPrice : ℚ
  qty : ℚ
  stopLoss : ℚ
  takeProfit : ℚ

/-- The row of a new trade; it has no columns for the stop and the target. -/
def OpenRequest.trade (o : OpenRequest) (nowMs : ℤ) : PaperTrade where
  symbol := o.symbol
  side := o.side
  entryPrice := o.entryPrice
  qty := o.qty
  openedAtSec := seconds nowMs
  exit := none

/-- The row of the position, which takes the place of an earlier one. -/
def OpenRequest.position (o : OpenRequest) : PaperPositionRow where
  size := o.qty
  entryPrice := o.entryPrice
  markPrice := o.entryPrice
  unrealisedPnl := 0

/-- `open_position`: the trade id, which must be new. -/
def openPosition (o : OpenRequest) (tradeId : String) (nowMs : ℤ) (s : FuturesPaperState) :
    Option String × FuturesPaperState :=
  if (s.trades.get? tradeId).isSome then (none, s)
  else (some tradeId, { s with
    trades := s.trades.set tradeId (o.trade nowMs)
    positions := s.positions.set (o.symbol, o.side) o.position })

/-- `_save_protection`, which the runner calls after it opened a position. -/
def saveProtection (symbol : String) (side : PositionSide) (sl tp : ℚ) (s : FuturesPaperState) :
    FuturesPaperState :=
  { s with protections := s.protections.set (symbol, side) ⟨some sl, some tp⟩ }

/-! ### Closing -/

/-- `gross_pnl` of a part of a position. -/
def grossPnl (pos : PositionSnapshot) (qtyClosed : ℚ) : ℚ :=
  match pos.side with
  | .long => (pos.markPrice - pos.entryPrice) * qtyClosed
  | .short => (pos.entryPrice - pos.markPrice) * qtyClosed

/-- `net_pnl`: less the taker fee of 0.055 %. -/
def netPnl (pos : PositionSnapshot) (qtyClosed : ℚ) : ℚ :=
  grossPnl pos qtyClosed - pos.markPrice * qtyClosed * (55 / 100000)

/-- The columns of the exit of a part of a position. -/
def exitOf (pos : PositionSnapshot) (qtyClosed : ℚ) (reason : String) (nowMs : ℤ) : PaperExit where
  exitPrice := pos.markPrice
  grossPnl := grossPnl pos qtyClosed
  netPnl := netPnl pos qtyClosed
  exitReason := reason
  wasProfitable := 0 < netPnl pos qtyClosed
  closedAtSec := seconds nowMs

/-- The tables after `close_position`: the trade is closed and the row of the position is empty. -/
def closePosition (pos : PositionSnapshot) (qtyClosed : ℚ) (reason : String) (nowMs : ℤ)
    (s : FuturesPaperState) : FuturesPaperState :=
  { s with
    trades := s.trades.update pos.tradeId fun t =>
      { t with exit := some (exitOf pos qtyClosed reason nowMs) }
    positions := s.positions.update (pos.symbol, pos.side) fun row =>
      { row with size := 0, unrealisedPnl := 0 } }

/-- What `close_position` returns. -/
def closeResult (pos : PositionSnapshot) (qtyClosed : ℚ) (reason : String) :
    FuturesPaperClose where
  tradeId := pos.tradeId
  symbol := pos.symbol
  side := pos.side
  exitPrice := pos.markPrice
  netPnl := netPnl pos qtyClosed
  exitReason := reason
  wasProfitable := 0 < netPnl pos qtyClosed

/-! ### Ticks -/

/-- The trade is open, and of this symbol. -/
def IsOpenOf (symbol : String) (t : PaperTrade) : Prop := t.symbol = symbol ∧ t.exit = none

instance (symbol : String) (t : PaperTrade) : Decidable (IsOpenOf symbol t) :=
  inferInstanceAs (Decidable (_ ∧ _))

/-- A row of `_load_open_positions` at a price: the stop and target come from the protection of
symbol and side, and are zero where there is none. -/
def snapshot (s : FuturesPaperState) (markPrice : ℚ) (tradeId : String) (t : PaperTrade) :
    PositionSnapshot where
  tradeId := tradeId
  symbol := t.symbol
  side := t.side
  entryPrice := t.entryPrice
  qty := t.qty
  stopLoss := ((s.protections.get? (t.symbol, t.side)).bind PaperProtection.slPrice).getD 0
  takeProfit := ((s.protections.get? (t.symbol, t.side)).bind PaperProtection.tpPrice).getD 0
  markPrice := markPrice
  openedAtMs := t.openedAtSec * 1000

/-- `_load_open_positions`, as the policy sees them. -/
def loadOpenPositions (s : FuturesPaperState) (symbol : String) (markPrice : ℚ) :
    List PositionSnapshot :=
  (s.trades.entries.filter fun e => IsOpenOf symbol e.2).map fun e => snapshot s markPrice e.1 e.2

/-- `_update_mark_price`. -/
def updateMarkPrice (pos : PositionSnapshot) (s : FuturesPaperState) : FuturesPaperState :=
  { s with positions := s.positions.update (pos.symbol, pos.side) fun row =>
      { row with markPrice := pos.markPrice, unrealisedPnl := pos.unrealizedPnl } }

/-- The quantity an action closes, if it closes any. -/
def qtyToClose (action : PolicyAction) (pos : PositionSnapshot) : Option ℚ :=
  match action.action with
  | .closeAll => some pos.qty
  | .closePartial => some (pos.qty * action.qtyPct)
  | _ => none

/-- One open trade of a tick. -/
def tickRow (policy : Policy) (nowMs : ℤ) (acc : List FuturesPaperClose × FuturesPaperState)
    (pos : PositionSnapshot) : List FuturesPaperClose × FuturesPaperState :=
  let s := updateMarkPrice pos acc.2
  match qtyToClose (policy pos) pos with
  | none => (acc.1, s)
  | some qtyClosed => (acc.1 ++ [closeResult pos qtyClosed (policy pos).reason],
      closePosition pos qtyClosed (policy pos).reason nowMs s)

/-- `on_price_tick`: the closed trades. -/
def onPriceTick (policy : Policy) (symbol : String) (markPrice : ℚ) (nowMs : ℤ)
    (s : FuturesPaperState) : List FuturesPaperClose × FuturesPaperState :=
  (loadOpenPositions s symbol markPrice).foldl (tickRow policy nowMs) ([], s)

/-- The trade is open. -/
def IsOpen (s : FuturesPaperState) (tradeId : String) : Prop :=
  ∃ t, s.trades.get? tradeId = some t ∧ t.exit = none

/-! ### Calls -/

/-- A call with what it sees of the outside: the new trade id, the clock and the policy. -/
inductive Call
  | openPosition (o : OpenRequest) (tradeId : String) (nowMs : ℤ)
  | onPriceTick (policy : Policy) (symbol : String) (markPrice : ℚ) (nowMs : ℤ)

/-- The tables after a call. -/
def step : Call → FuturesPaperState → FuturesPaperState
  | .openPosition o tradeId nowMs, s => (openPosition o tradeId nowMs s).2
  | .onPriceTick policy symbol markPrice nowMs, s =>
    (onPriceTick policy symbol markPrice nowMs s).2

end FuturesPaper

end Botik
