import Mathlib.Data.List.Induction
import Botik.Library.Json
import Botik.Library.RunningStatistics
import Botik.Ml.FeatureEngine
import Botik.Position.SimpleExit
import Botik.Position.Sizer

/-!
# A backtest over candles

`FuturesBacktestRunner` and `SpotBacktestRunner` keep their one position in memory and check its
stop and target themselves at every tick.

`_BaseBacktestRunner.run`: every candle is first a tick for the open position and then, where none
is open, maybe an entry after a spike. The two runners differ in their engine.

`round` and the Sharpe ratio, which takes a square root, are parameters. A time of opening is kept
in milliseconds, where the code keeps its text, and the time of a closing, which is the wall clock,
is left out.

## Main definitions

* `FuturesBacktest.openTrade`, `FuturesBacktest.tick`
* `SpotBacktest.openTrade`, `SpotBacktest.tick`
* `BacktestEngine` — what a runner supplies, with the laws of `_open_trade` and `_tick`
* `FuturesBacktest.engine`, `SpotBacktest.engine`
* `BacktestParams`, `BacktestParams.default`, `BacktestState`
* `BacktestRun.stepCandle`, `loop` — one candle, and all of them
* `BacktestRun.buildResult`, `run`
-/

namespace Botik

/-! ### The positions of the runners -/

/-- `_open_position` of the futures runner. -/
structure FuturesBacktestPosition where
  tradeId : String
  symbol : String
  side : PositionSide
  entryPrice : ℚ
  qty : ℚ
  stopLoss : ℚ
  takeProfit : ℚ
  deriving DecidableEq, Repr

/-- `_holding` of the spot runner, which is always long. -/
structure SpotBacktestHolding where
  tradeId : String
  symbol : String
  entryPrice : ℚ
  qty : ℚ
  entryFee : ℚ
  stopLoss : ℚ
  takeProfit : ℚ
  deriving DecidableEq, Repr

/-- A closed trade of a backtest. -/
structure BacktestTrade where
  tradeId : String
  symbol : String
  side : PositionSide
  entryPrice : ℚ
  exitPrice : ℚ
  qty : ℚ
  netPnl : ℚ
  exitReason : String
  deriving DecidableEq, Repr

namespace FuturesBacktest

/-- `_open_trade`: nothing happens while a position is open. -/
def openTrade (pos : FuturesBacktestPosition) :
    Option FuturesBacktestPosition → Option FuturesBacktestPosition
  | none => some pos
  | some old => some old

/-- Why a price closes the position, if it does. -/
def exitReason (pos : FuturesBacktestPosition) (price : ℚ) : Option String :=
  match pos.side with
  | .long =>
    if price ≤ pos.stopLoss then some "sl_hit"
    else if price ≥ pos.takeProfit then some "tp_hit" else none
  | .short =>
    if price ≥ pos.stopLoss then some "sl_hit"
    else if price ≤ pos.takeProfit then some "tp_hit" else none

/-- `gross_pnl`. -/
def grossPnl (pos : FuturesBacktestPosition) (price : ℚ) : ℚ :=
  match pos.side with
  | .long => (price - pos.entryPrice) * pos.qty
  | .short => (pos.entryPrice - price) * pos.qty

/-- The result of closing at a price. -/
def closed (pos : FuturesBacktestPosition) (price : ℚ) (reason : String) : BacktestTrade where
  tradeId := pos.tradeId
  symbol := pos.symbol
  side := pos.side
  entryPrice := pos.entryPrice
  exitPrice := price
  qty := pos.qty
  netPnl := grossPnl pos price - price * pos.qty * (55 / 100000)
  exitReason := reason

/-- `_tick`. -/
def tick (symbol : String) (price : ℚ) :
    Option FuturesBacktestPosition → List BacktestTrade × Option FuturesBacktestPosition
  | none => ([], none)
  | some pos =>
    if pos.symbol = symbol then
      match exitReason pos price with
      | none => ([], some pos)
      | some reason => ([closed pos price reason], none)
    else ([], some pos)

end FuturesBacktest

namespace SpotBacktest

/-- The holding of a purchase, with its fee. -/
def newHolding (tradeId symbol : String) (entryPrice qty stopLoss takeProfit : ℚ) :
    SpotBacktestHolding where
  tradeId := tradeId
  symbol := symbol
  entryPrice := entryPrice
  qty := qty
  entryFee := entryPrice * qty * (1 / 1000)
  stopLoss := stopLoss
  takeProfit := takeProfit

/-- `_open_trade`: only long, and nothing happens while something is held. -/
def openTrade (side : PositionSide) (tradeId symbol : String)
    (entryPrice qty stopLoss takeProfit : ℚ) :
    Option SpotBacktestHolding → Option SpotBacktestHolding
  | none =>
    match side with
    | .long => some (newHolding tradeId symbol entryPrice qty stopLoss takeProfit)
    | .short => none
  | some old => some old

/-- Why a price closes the holding, if it does. -/
def exitReason (pos : SpotBacktestHolding) (price : ℚ) : Option String :=
  if price ≤ pos.stopLoss then some "sl_hit"
  else if price ≥ pos.takeProfit then some "tp_hit" else none

/-- The result of selling at a price. -/
def closed (pos : SpotBacktestHolding) (price : ℚ) (reason : String) : BacktestTrade where
  tradeId := pos.tradeId
  symbol := pos.symbol
  side := .long
  entryPrice := pos.entryPrice
  exitPrice := price
  qty := pos.qty
  netPnl := price * pos.qty - price * pos.qty * (1 / 1000) -
    (pos.entryPrice * pos.qty + pos.entryFee)
  exitReason := reason

/-- `_tick`. -/
def tick (symbol : String) (price : ℚ) :
    Option SpotBacktestHolding → List BacktestTrade × Option SpotBacktestHolding
  | none => ([], none)
  | some pos =>
    if pos.symbol = symbol then
      match exitReason pos price with
      | none => ([], some pos)
      | some reason => ([closed pos price reason], none)
    else ([], some pos)

end SpotBacktest

/-! ### Candles -/

/-- The columns of a candle that a backtest uses. -/
structure HistoryCandle where
  openTimeMs : ℤ
  high : ℚ
  low : ℚ
  close : ℚ
  deriving DecidableEq, Repr

/-- The word for a side. -/
def PositionSide.word : PositionSide → String
  | .long => "long"
  | .short => "short"

/-- The period of `calc_atr`. -/
def atrPeriod : ℕ := 14

/-- `calc_atr`. -/
def calcAtr (highs lows closes : List ℚ) : ℚ :=
  if highs.length < atrPeriod + 1 then 0
  else
    let recent := FeatureEngine.lastN (FeatureEngine.trueRanges highs lows closes) atrPeriod
    if recent = [] then 0 else recent.sum / recent.length

/-! ### Engines -/

/-- What a runner supplies: its position, when that closes, and how it is opened and ticked. -/
structure BacktestEngine (π : Type) where
  scope : String
  imbalanceThreshold : ℚ
  symbolOf : π → String
  exitReason : π → ℚ → Option String
  closed : π → ℚ → String → BacktestTrade
  /-- `_open_trade`, of side, trade id, symbol, price, quantity, stop and target. -/
  openTrade : PositionSide → String → String → ℚ → ℚ → ℚ → ℚ → Option π → Option π
  /-- `_tick`. -/
  tick : String → ℚ → Option π → List BacktestTrade × Option π
  symbolOf_openTrade : ∀ {side tradeId symbol entryPrice qty stopLoss takeProfit pos},
    openTrade side tradeId symbol entryPrice qty stopLoss takeProfit none = some pos →
      symbolOf pos = symbol
  tick_none : ∀ symbol price, tick symbol price none = ([], none)
  tick_some : ∀ {symbol pos} price, symbolOf pos = symbol → tick symbol price (some pos) =
    match exitReason pos price with
    | none => ([], some pos)
    | some reason => ([closed pos price reason], none)

/-- `FuturesBacktestRunner`. -/
def FuturesBacktest.engine : BacktestEngine FuturesBacktestPosition where
  scope := "futures"
  imbalanceThreshold := 65 / 100
  symbolOf := FuturesBacktestPosition.symbol
  exitReason := FuturesBacktest.exitReason
  closed := FuturesBacktest.closed
  openTrade := fun side tradeId symbol entryPrice qty stopLoss takeProfit =>
    FuturesBacktest.openTrade ⟨tradeId, symbol, side, entryPrice, qty, stopLoss, takeProfit⟩
  tick := FuturesBacktest.tick
  symbolOf_openTrade := by
    rintro side tradeId symbol entryPrice qty stopLoss takeProfit pos h
    cases h
    rfl
  tick_none := fun _ _ => rfl
  tick_some := fun _ h => if_pos h

/-- `SpotBacktestRunner`. -/
def SpotBacktest.engine : BacktestEngine SpotBacktestHolding where
  scope := "spot"
  imbalanceThreshold := 67 / 100
  symbolOf := SpotBacktestHolding.symbol
  exitReason := SpotBacktest.exitReason
  closed := SpotBacktest.closed
  openTrade := SpotBacktest.openTrade
  tick := SpotBacktest.tick
  symbolOf_openTrade := by
    rintro side tradeId symbol entryPrice qty stopLoss takeProfit pos h
    cases side with
    | long =>
      cases h
      rfl
    | short => cases h
  tick_none := fun _ _ => rfl
  tick_some := fun _ h => if_pos h

/-! ### The loop -/

/-- The parameters of a runner; the candles are those of its symbol, category and interval. -/
structure BacktestParams where
  symbol : String
  interval : String
  balance : ℚ
  /-- Of `risk_pct`, `atr_sl_mult`, `atr_tp_mult` and `max_pos_pct`. -/
  sizer : PositionSizer
  spikeBps : ℚ
  holdTimeoutH : ℚ

/-- The defaults of the futures runner. -/
def BacktestParams.default (symbol interval : String) : BacktestParams where
  symbol := symbol
  interval := interval
  balance := 10000
  sizer := { PositionSizer.default with maxPositionPct := 15 / 100 }
  spikeBps := 80
  holdTimeoutH := 4

/-- What is kept of a closed trade. -/
structure ClosedTrade where
  openTimeMs : ℤ
  side : PositionSide
  entry : ℚ
  exit : ℚ
  pnl : ℚ
  reason : String
  deriving DecidableEq, Repr

/-- The variables of the loop, and the open position with the time of its opening. -/
structure BacktestState (π : Type) where
  equity : ℚ
  equityCurve : List ℚ
  closedTrades : List ClosedTrade
  highs : List ℚ
  lows : List ℚ
  closes : List ℚ
  held : Option (π × ℤ)

namespace BacktestRun

variable {π : Type} (round : ℚ → ℕ → ℚ) (e : BacktestEngine π) (x : BacktestParams)
  (tradeIds : ℕ → String)

/-- `_MIN_CANDLES_FOR_TRADE`. -/
def minCandlesForTrade : ℕ := 20

/-- Before the first candle. -/
def initial : BacktestState π := ⟨x.balance, [x.balance], [], [], [], [], none⟩

/-- The candle joins the buffers. -/
def pushCandle (candle : HistoryCandle) (s : BacktestState π) : BacktestState π :=
  { s with
    highs := s.highs ++ [candle.high]
    lows := s.lows ++ [candle.low]
    closes := s.closes ++ [candle.close] }

/-- `_tick`; a trade that is closed and a position that stays keep the time of the opening. -/
def tickHeld (price : ℚ) (held : Option (π × ℤ)) : List (BacktestTrade × ℤ) × Option (π × ℤ) :=
  let (trades, pos) := e.tick x.symbol price (held.map Prod.fst)
  let openTimeMs := (held.map Prod.snd).getD 0
  (trades.map fun trade => (trade, openTimeMs), pos.map fun pos => (pos, openTimeMs))

/-- A closed trade is booked. -/
def bookTrade (s : BacktestState π) (trade : BacktestTrade × ℤ) : BacktestState π :=
  let equity := s.equity + trade.1.netPnl
  { s with
    equity := equity
    equityCurve := s.equityCurve ++ [equity]
    closedTrades := s.closedTrades ++
      [{ openTimeMs := trade.2
         side := trade.1.side
         entry := trade.1.entryPrice
         exit := trade.1.exitPrice
         pnl := round trade.1.netPnl 4
         reason := trade.1.exitReason }] }

/-- The exit of a candle. -/
def exitCandle (candle : HistoryCandle) (s : BacktestState π) : BacktestState π :=
  let (trades, held) := tickHeld e x candle.close s.held
  trades.foldl (bookTrade round) { s with held := held }

/-- `_has_open_position`. -/
def hasOpenPosition (s : BacktestState π) : Bool :=
  s.held.any fun held => e.symbolOf held.1 = x.symbol

/-- `closes[-6]`, or the first of fewer closes. -/
def refPrice (closes : List ℚ) : ℚ :=
  if 6 ≤ closes.length then FeatureEngine.fromEnd closes 6 else closes.getD 0 0

/-- The move from the reference in basis points. -/
def spikeBpsOf (closes : List ℚ) (price : ℚ) : ℚ :=
  (price - refPrice closes) / refPrice closes * 10000

/-- The side of an entry, from the move and the imbalance. -/
def entrySide (threshold imb spikeBps : ℚ) : Option PositionSide :=
  if spikeBps < -threshold ∧ 1 / 2 < imb then some .long
  else if threshold < spikeBps ∧ imb < 1 / 2 then some .short
  else none

/-- The side of an entry of the live `futures_runner`, by the imbalance of the order book. -/
def liveEntrySide (threshold imbThreshold imbalance spikeBps : ℚ) : Option PositionSide :=
  if spikeBps < -threshold ∧ imbThreshold < imbalance then some .long
  else if threshold < spikeBps ∧ imbalance < 1 - imbThreshold then some .short
  else none

/-- The average true range of the last candles. -/
def atrOf (s : BacktestState π) : ℚ :=
  calcAtr (FeatureEngine.lastN s.highs 50) (FeatureEngine.lastN s.lows 50)
    (FeatureEngine.lastN s.closes 50)

/-- What a runner tells the sizer: nothing of a model. -/
def noRecord : TradeRecord := ⟨false, 0, 0, 0⟩

/-- The side of the entry a candle asks for, if it does. -/
def signalOf (price : ℚ) (s : BacktestState π) : Option PositionSide :=
  if s.closes.length < minCandlesForTrade then none
  else if hasOpenPosition e x s then none
  else if atrOf s ≤ 0 then none
  else if s.closes.length < 5 then none
  else if refPrice s.closes ≤ 0 then none
  else entrySide x.spikeBps e.imbalanceThreshold (spikeBpsOf s.closes price)

/-- An opened position is held from this time on. -/
def openHeld (side : PositionSide) (tradeId : String) (entryPrice qty stopLoss takeProfit : ℚ)
    (openTimeMs : ℤ) (held : Option (π × ℤ)) : Option (π × ℤ) :=
  (e.openTrade side tradeId x.symbol entryPrice qty stopLoss takeProfit (held.map Prod.fst)).map
    fun pos => (pos, (held.map Prod.snd).getD openTimeMs)

/-- The entry of a candle. -/
def entryCandle (candle : HistoryCandle) (s : BacktestState π) :
    Except SizingError (BacktestState π) :=
  match signalOf e x candle.close s with
  | none => .ok s
  | some side => do
    let (stopLoss, takeProfit) ←
      x.sizer.calcSlTp candle.close (atrOf s) side.word none none
    let qty ← x.sizer.calcQty s.equity candle.close stopLoss noRecord
    if qty ≤ 0 then return s
    else
      let tradeId := tradeIds s.closes.length
      return { s with held := openHeld e x side tradeId candle.close qty stopLoss takeProfit
                        candle.openTimeMs s.held }

/-- One candle. -/
def stepCandle (candle : HistoryCandle) (s : BacktestState π) :
    Except SizingError (BacktestState π) :=
  entryCandle e x tradeIds candle (exitCandle round e x candle (pushCandle candle s))

/-- All candles, one after the other. -/
def loop : List HistoryCandle → BacktestState π → Except SizingError (BacktestState π)
  | [], s => .ok s
  | candle :: candles, s => do
    let s ← stepCandle round e x tradeIds candle s
    loop candles s

/-! ### The result -/

/-- `_calc_max_drawdown`. -/
def calcMaxDrawdown : List ℚ → ℚ × ℚ
  | [] => (0, 0)
  | [_] => (0, 0)
  | first :: rest =>
    let maxDd := (Drawdown.scan first (first :: rest)).2
    let base := if first ≠ 0 then first else 1
    (maxDd, maxDd / |base| * 100)

/-- `_calc_profit_factor`. -/
def calcProfitFactor (winPnls lossPnls : List ℚ) : PyFloat :=
  if lossPnls.sum = 0 then
    if 0 < winPnls.sum then .infinity false else .finite 0
  else .finite (winPnls.sum / |lossPnls.sum|)

structure BacktestResult where
  symbol : String
  scope : String
  interval : String
  /-- `start_date` and `end_date`, of which there is none without candles. -/
  startMs : Option ℤ
  endMs : Option ℤ
  totalCandles : ℕ
  trades : ℕ
  wins : ℕ
  losses : ℕ
  winRate : ℚ
  totalPnl : ℚ
  maxDrawdown : ℚ
  maxDrawdownPct : ℚ
  sharpeRatio : ℚ
  avgWin : ℚ
  avgLoss : ℚ
  profitFactor : PyFloat
  tradesList : List ClosedTrade

variable (sharpe : List ℚ → ℚ)

/-- The average of some numbers, zero of none. -/
def averageOf (qs : List ℚ) : ℚ := if qs = [] then 0 else qs.sum / qs.length

/-- `_build_result`. -/
def buildResult (candles : List HistoryCandle) (s : BacktestState π) : BacktestResult :=
  let pnls := s.closedTrades.map ClosedTrade.pnl
  let winPnls := pnls.filter (0 < ·)
  let lossPnls := pnls.filter (· ≤ 0)
  let winRate := if 0 < pnls.length then (winPnls.length : ℚ) / pnls.length * 100 else 0
  let drawdown := calcMaxDrawdown s.equityCurve
  { symbol := x.symbol
    scope := e.scope
    interval := x.interval
    startMs := candles.head?.map HistoryCandle.openTimeMs
    endMs := candles.getLast?.map HistoryCandle.openTimeMs
    totalCandles := candles.length
    trades := s.closedTrades.length
    wins := winPnls.length
    losses := lossPnls.length
    winRate := round winRate 2
    totalPnl := round pnls.sum 4
    maxDrawdown := round drawdown.1 4
    maxDrawdownPct := round drawdown.2 4
    sharpeRatio := round (sharpe pnls) 4
    avgWin := round (averageOf winPnls) 4
    avgLoss := round (averageOf lossPnls) 4
    profitFactor := calcProfitFactor winPnls lossPnls
    tradesList := s.closedTrades }

/-- `_empty_result`. -/
def emptyResult : BacktestResult where
  symbol := x.symbol
  scope := e.scope
  interval := x.interval
  startMs := none
  endMs := none
  totalCandles := 0
  trades := 0
  wins := 0
  losses := 0
  winRate := 0
  totalPnl := 0
  maxDrawdown := 0
  maxDrawdownPct := 0
  sharpeRatio := 0
  avgWin := 0
  avgLoss := 0
  profitFactor := .finite 0
  tradesList := []

/-- `run`, on the candles that were loaded. -/
def runBacktest (candles : List HistoryCandle) : Except SizingError BacktestResult :=
  if candles = [] then .ok (emptyResult e x)
  else do
    let s ← loop round e x tradeIds candles (initial x)
    return buildResult round e x sharpe candles s

/-! ### One candle -/

/-- A computation whose value passes a test has a value. -/
theorem exists_of_any_toOption {ε α : Type} {r : Except ε α} {test : α → Bool}
    (h : r.toOption.any test = true) : ∃ a, r = .ok a ∧ test a = true := by
  cases r with
  | error err => simp [Except.toOption] at h
  | ok a => exact ⟨a, rfl, h⟩

section Steps

variable {round e x tradeIds} {s s' : BacktestState π} {candle : HistoryCandle}
  {before : List HistoryCandle} {pos : π} {openTimeMs : ℤ} {price : ℚ}

/-- Whatever is held is of the symbol of the runner. -/
def OwnSymbol (e : BacktestEngine π) (x : BacktestParams) (s : BacktestState π) : Prop :=
  ∀ pos openTimeMs, s.held = some (pos, openTimeMs) → e.symbolOf pos = x.symbol

theorem ownSymbol_initial : OwnSymbol e x (initial x) := by
  intro pos openTimeMs h
  cases h

theorem tickHeld_none (price : ℚ) : tickHeld e x price none = ([], none) := by
  simp [tickHeld, e.tick_none]

theorem tickHeld_of_stays (h : e.symbolOf pos = x.symbol) (hstays : e.exitReason pos price = none) :
    tickHeld e x price (some (pos, openTimeMs)) = ([], some (pos, openTimeMs)) := by
  have htick := e.tick_some price h
  rw [hstays] at htick
  simp [tickHeld, htick]

theorem tickHeld_of_closes {reason : String} (h : e.symbolOf pos = x.symbol)
    (hcloses : e.exitReason pos price = some reason) :
    tickHeld e x price (some (pos, openTimeMs)) =
      ([(e.closed pos price reason, openTimeMs)], none) := by
  have htick := e.tick_some price h
  rw [hcloses] at htick
  simp [tickHeld, htick]

/-- Without a position the exit does nothing. -/
theorem exitCandle_of_none (h : s.held = none) : exitCandle round e x candle s = s := by
  rw [exitCandle, h, tickHeld_none]
  cases s
  cases h
  rfl

/-- A price that does not close leaves everything. -/
theorem exitCandle_of_stays (h : s.held = some (pos, openTimeMs))
    (hsymbol : e.symbolOf pos = x.symbol) (hstays : e.exitReason pos candle.close = none) :
    exitCandle round e x candle s = s := by
  rw [exitCandle, h, tickHeld_of_stays hsymbol hstays]
  cases s
  cases h
  rfl

/-- A price that closes books the trade. -/
theorem exitCandle_of_closes {reason : String} (h : s.held = some (pos, openTimeMs))
    (hsymbol : e.symbolOf pos = x.symbol)
    (hcloses : e.exitReason pos candle.close = some reason) :
    exitCandle round e x candle s =
      bookTrade round { s with held := none } (e.closed pos candle.close reason, openTimeMs) := by
  rw [exitCandle, h, tickHeld_of_closes hsymbol hcloses]
  rfl

/-- No entry is asked for while a position of the symbol is open. -/
theorem signalOf_of_held (h : s.held = some (pos, openTimeMs))
    (hsymbol : e.symbolOf pos = x.symbol) : signalOf e x price s = none := by
  have hopen : hasOpenPosition e x s = true := by
    rw [hasOpenPosition, h]
    exact decide_eq_true hsymbol
  unfold signalOf
  rw [if_pos hopen]
  split_ifs <;> rfl

/-- An entry leaves the state, or opens what the sizer allows. -/
theorem entryCandle_inv (h : entryCandle e x tradeIds candle s = .ok s') :
    s' = s ∨ ∃ side stops qty, signalOf e x candle.close s = some side ∧
      x.sizer.calcSlTp candle.close (atrOf s) side.word none none = .ok stops ∧
      x.sizer.calcQty s.equity candle.close stops.1 noRecord = .ok qty ∧ 0 < qty ∧
      s' = { s with held := openHeld e x side (tradeIds s.closes.length) candle.close qty stops.1
                      stops.2 candle.openTimeMs s.held } := by
  unfold entryCandle at h
  cases hside : signalOf e x candle.close s with
  | none =>
    rw [hside] at h
    exact Or.inl (Except.ok.inj h).symm
  | some side =>
    rw [hside] at h
    cases hstops : x.sizer.calcSlTp candle.close (atrOf s) side.word none none with
    | error err => simp [hstops, bind, Except.bind] at h
    | ok stops =>
      cases hqty : x.sizer.calcQty s.equity candle.close stops.1 noRecord with
      | error err => simp [hstops, hqty, bind, Except.bind] at h
      | ok qty =>
        simp only [hstops, hqty, bind, Except.bind] at h
        split_ifs at h with hnone
        · exact Or.inl (Except.ok.inj h).symm
        · exact Or.inr ⟨side, stops, qty, rfl, hstops, hqty, not_le.mp hnone,
            (Except.ok.inj h).symm⟩

/-- An entry leaves the state, or holds a position from now on where none was held. -/
theorem entryCandle_cases (hsymbol : OwnSymbol e x s)
    (h : entryCandle e x tradeIds candle s = .ok s') :
    s' = s ∨ s.held = none ∧ ∃ pos, e.symbolOf pos = x.symbol ∧
      s' = { s with held := some (pos, candle.openTimeMs) } := by
  rcases entryCandle_inv h with hsame | ⟨side, stops, qty, hside, -, -, -, rfl⟩
  · exact Or.inl hsame
  cases hheld : s.held with
  | some held =>
    obtain ⟨pos, openTimeMs⟩ := held
    rw [signalOf_of_held hheld (hsymbol pos openTimeMs hheld)] at hside
    cases hside
  | none =>
    unfold openHeld
    cases hopened : e.openTrade side (tradeIds s.closes.length) x.symbol candle.close qty stops.1
        stops.2 none with
    | none =>
      refine Or.inl ?_
      simp only [Option.map_none, hopened]
      cases s
      cases hheld
      rfl
    | some pos => exact Or.inr ⟨rfl, pos, e.symbolOf_openTrade hopened, by simp [hopened]⟩

/-- The exit of a candle leaves what is held, or nothing. -/
theorem held_exitCandle (round : ℚ → ℕ → ℚ) (candle : HistoryCandle) (hsymbol : OwnSymbol e x s) :
    (exitCandle round e x candle s).held = s.held ∨
      (exitCandle round e x candle s).held = none := by
  cases hheld : s.held with
  | none =>
    rw [exitCandle_of_none hheld]
    exact Or.inl hheld
  | some held =>
    obtain ⟨pos, openTimeMs⟩ := held
    cases hexit : e.exitReason pos candle.close with
    | none =>
      rw [exitCandle_of_stays hheld (hsymbol pos openTimeMs hheld) hexit]
      exact Or.inl hheld
    | some reason =>
      rw [exitCandle_of_closes hheld (hsymbol pos openTimeMs hheld) hexit]
      exact Or.inr rfl

theorem OwnSymbol.pushCandle (h : OwnSymbol e x s) (candle : HistoryCandle) :
    OwnSymbol e x (pushCandle candle s) := h

theorem OwnSymbol.exitCandle (h : OwnSymbol e x s) (candle : HistoryCandle) :
    OwnSymbol e x (exitCandle round e x candle s) := by
  intro pos openTimeMs hheld
  rcases held_exitCandle round candle h with hsame | hnone
  · exact h pos openTimeMs (hsame.symm.trans hheld)
  · rw [hnone] at hheld
    cases hheld

theorem OwnSymbol.stepCandle (h : OwnSymbol e x s)
    (hstep : stepCandle round e x tradeIds candle s = .ok s') : OwnSymbol e x s' := by
  have hexit : OwnSymbol e x (BacktestRun.exitCandle round e x candle
      (BacktestRun.pushCandle candle s)) := (h.pushCandle candle).exitCandle candle
  rcases entryCandle_cases hexit hstep with rfl | ⟨-, pos, hsymbol, rfl⟩
  · exact hexit
  · intro pos' openTimeMs hheld
    cases hheld
    exact hsymbol

/-! ### All candles -/

theorem loop_concat : loop round e x tradeIds (before ++ [candle]) s =
    (loop round e x tradeIds before s).bind (stepCandle round e x tradeIds candle) := by
  induction before generalizing s with
  | nil =>
    cases h : stepCandle round e x tradeIds candle s with
    | error err => simp [loop, h, bind, Except.bind]
    | ok s' => simp [loop, h, bind, Except.bind]
  | cons first before ih =>
    cases h : stepCandle round e x tradeIds first s with
    | error err => simp [loop, h, bind, Except.bind]
    | ok s' => simpa [loop, h, bind, Except.bind] using ih

theorem exists_of_loop_concat
    (h : loop round e x tradeIds (before ++ [candle]) s = .ok s') :
    ∃ s₀, loop round e x tradeIds before s = .ok s₀ ∧
      stepCandle round e x tradeIds candle s₀ = .ok s' := by
  rw [loop_concat] at h
  cases hbefore : loop round e x tradeIds before s with
  | error err => simp [hbefore, Except.bind] at h
  | ok s₀ =>
    rw [hbefore] at h
    exact ⟨s₀, rfl, h⟩

/-- In every run what is held is of the symbol of the runner. -/
theorem ownSymbol_loop (h : loop round e x tradeIds before (initial x) = .ok s) :
    OwnSymbol e x s := by
  induction before using List.reverseRecOn generalizing s with
  | nil =>
    obtain rfl := Except.ok.inj h
    exact ownSymbol_initial
  | append_singleton before candle ih =>
    obtain ⟨s₀, hbefore, hstep⟩ := exists_of_loop_concat h
    exact (ih hbefore).stepCandle hstep

end Steps

end BacktestRun

end Botik
