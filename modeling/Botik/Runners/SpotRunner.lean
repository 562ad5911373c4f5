import Botik.Execution.SpotPaper
import Botik.Runners.Learning
import Botik.Runners.PriceFeed

/-!
# The spot runner

`SpotRunner` of `runners/spot_runner.py`: every candle is a tick for its holding, and every book may
be the reason for a purchase against a fall. A model that is connected may reject a purchase. What
raises in the middle of a message is caught: the work on the message ends there.

A book is read when a level has come on both sides. The texts for the log are left out.

## Main definitions

* `SpotRunnerSettings`, `SpotTrading`, `SpotRunner`
* `SpotRunner.onKline`, `SpotRunner.onOrderbook`
* `SpotRunner.step` — one event, of the market or of another process
-/

namespace Botik

open Ml

/-- The parameters of the environment. -/
structure SpotRunnerSettings where
  balance : ℚ
  sizer : PositionSizer
  holdTimeoutMs : ℤ
  spikeThresholdBps : ℚ

/-- The parameters where the environment has none. -/
def SpotRunnerSettings.default : SpotRunnerSettings where
  balance := 10000
  sizer := ⟨8 / 1000, 12 / 10, 2, 1 / 10⟩
  holdTimeoutMs := 8 * 3600 * 1000
  spikeThresholdBps := 20

/-- A candle of a message, with what its tick sees of the outside: the clocks of the policy and of
the engine, whether transactions are committed, and what a training writes. -/
structure SpotCandle extends CandleCells where
  policyMs : ℤ
  engineMs : ℤ
  pricedCommitted : Bool
  soldCommitted : Bool
  stamps : DeployStamps

/-- A message of the stream. -/
inductive SpotMessage
  | kline (symbol : String) (candles : List SpotCandle)
  | orderbook (symbol : String) (bids asks : List LevelCells) (tradeId : String) (nowMs : ℤ)
      (committed : Bool)

/-- The part of the runner that trades, with its calls of the engine and the trades they closed. -/
structure SpotTrading where
  engine : SpotPaperState
  priceBuf : Dict String (List Bar)
  calls : List SpotPaper.Call
  closed : List SpotPaperTrade

structure SpotRunner (μ : Type) where
  trading : SpotTrading
  learning : RunnerLearning μ

/-- What happens to a runner. -/
inductive SpotEvent (μ : Type)
  | message (m : SpotMessage)
  /-- Another process writes to what is shared. -/
  | others (store : TrainingStore μ)

namespace SpotTrading

/-- `IMB_THRESHOLD`. -/
def imbThreshold : ℚ := 62 / 100

/-- The constructor, over the rows of its account. -/
def start (x : SpotRunnerSettings) (symbols : List String) (tradeIds : String → String)
    (nowMs : ℤ) (table : Dict (String × String) SpotPaperRow) : SpotTrading where
  engine := SpotPaper.start x.balance tradeIds nowMs table
  priceBuf := symbols.foldl (fun buf symbol => buf.set symbol []) .empty
  calls := []
  closed := []

/-- The buffer of a symbol. -/
def buffer (symbol : String) (s : SpotTrading) : List Bar := (s.priceBuf.get? symbol).getD []

/-- Call the engine. -/
def call (c : SpotPaper.Call) (s : SpotTrading) : SpotTrading :=
  let (answer, engine) := SpotPaper.step c s.engine
  { s with
    engine := engine
    calls := s.calls ++ [c]
    closed := s.closed ++ answer.trades }

/-- The tick of a candle. -/
def tickCall (x : SpotRunnerSettings) (symbol : String) (c : SpotCandle) (price : ℚ) :
    SpotPaper.Call :=
  .tick (SimpleExitPolicy.onTick x.holdTimeoutMs c.policyMs) symbol price c.engineMs
    c.pricedCommitted c.soldCommitted

/-- The trades a tick closes. -/
def closedBy (x : SpotRunnerSettings) (symbol : String) (c : SpotCandle) (price : ℚ)
    (s : SpotTrading) : List SpotPaperTrade :=
  (SpotPaper.step (tickCall x symbol c price) s.engine).1.trades

/-- A candle of the buffer more, and its tick. -/
def onBar (x : SpotRunnerSettings) (symbol : String) (c : SpotCandle) (bar : Bar)
    (s : SpotTrading) : SpotTrading :=
  { s with priceBuf := s.priceBuf.set symbol (PriceFeed.pushBar (s.buffer symbol) bar) }.call
    (tickCall x symbol c bar.close)

/-- `get_holdings`; an empty name asks for all. -/
def getHoldings (symbol : String) (s : SpotTrading) : List PaperHolding :=
  if symbol = "" then s.engine.holdings.entries.map Prod.snd
  else (s.engine.holdings.get? symbol).toList

/-- What a book says of a symbol. -/
def signal (symbol : String) (bids asks : List LevelCells) (s : SpotTrading) :
    Except PyError (Option BookSignal) :=
  PriceFeed.signalOf (s.getHoldings symbol ≠ []) (s.buffer symbol) bids asks

/-- The price has fallen, and there are more buyers. -/
def IsReversal (x : SpotRunnerSettings) (g : BookSignal) : Prop :=
  ¬ (-x.spikeThresholdBps ≤ g.spikeBps ∨ g.imbalance ≤ imbThreshold)

instance (x : SpotRunnerSettings) (g : BookSignal) : Decidable (IsReversal x g) :=
  inferInstanceAs (Decidable (¬ _))

/-- The purchase for a signal, of a quantity that is positive. -/
def orderFor (x : SpotRunnerSettings) (symbol : String) (g : BookSignal) :
    Except SizingError (Option SpotPaper.BuyOrder) := do
  let entry := g.bestAsk
  let (sl, tp) ← x.sizer.calcSlTp entry g.atr "long" none none
  let qty ← x.sizer.calcQty x.balance entry sl BacktestRun.noRecord
  return if qty ≤ 0 then none else some ⟨symbol, qty, entry, sl, tp⟩

/-- Buy, if there is an order. -/
def buyOrder (order : Except SizingError (Option SpotPaper.BuyOrder)) (tradeId : String)
    (nowMs : ℤ) (committed : Bool) (s : SpotTrading) : SpotTrading :=
  match order with
  | .ok (some o) => s.call (.buy o tradeId nowMs committed)
  | _ => s

end SpotTrading

namespace SpotRunner

variable {μ : Type} (x : SpotRunnerSettings) (e : Estimators μ)

/-- The constructor. -/
def start (symbols : List String) (tradeIds : String → String) (nowMs : ℤ)
    (table : Dict (String × String) SpotPaperRow) (store : TrainingStore μ) : SpotRunner μ where
  trading := .start x symbols tradeIds nowMs table
  learning := .start .spot store

/-! ### Candles -/

/-- What the learner is told of a trade. -/
def learned (trade : SpotPaperTrade) : LearnedTrade where
  pnl := trade.netPnl
  holdMs := trade.holdTimeMs
  exit := trade.exitReason

/-- A closed trade is recorded; fifty of them are followed by a training. -/
def recordClosed (stamps : DeployStamps) (l : RunnerLearning μ) (trade : SpotPaperTrade) :
    RunnerLearning μ :=
  l.recordClosed e false (learned trade) stamps

/-- The tick of a candle, and what its learner makes of it. -/
def onBar (symbol : String) (c : SpotCandle) (bar : Bar) (s : SpotRunner μ) : SpotRunner μ where
  trading := s.trading.onBar x symbol c bar
  learning := (s.trading.closedBy x symbol c bar.close).foldl (recordClosed e c.stamps) s.learning

/-- `_on_kline`; an exception ends the work on the message. -/
def onKline (symbol : String) (candles : List SpotCandle) (s : SpotRunner μ) : SpotRunner μ :=
  Program.after
    (Program.each (PriceFeed.withBar SpotCandle.toCandleCells (onBar x e symbol)) candles) s

/-! ### Books -/

/-- A candle of the buffer as it is passed on. -/
def namedBar (bar : Bar) : List (String × ℚ) :=
  [("high", bar.high), ("low", bar.low), ("close", bar.close)]

/-- A candle with all its columns; a missing one raises. -/
def namedCandle (row : List (String × ℚ)) : Option PriceCandle := do
  let close ← row.lookup "close"
  let high ← row.lookup "high"
  let low ← row.lookup "low"
  let volume ← row.lookup "volume"
  let openPrice ← row.lookup "open"
  return { openPrice, high, low, close, volume }

/-- `build_futures_features`, of candles with names; `none` where it raises. -/
def buildFeatures (rows : List (List (String × ℚ))) (obImbalance : ℚ) :
    Option (Option (List ℚ)) :=
  if rows.length < 21 then some none
  else (rows.mapM namedCandle).map fun candles =>
    FeatureEngine.buildFuturesFeatures candles obImbalance

/-- The rows of the features: `buf[-20:]`. -/
def featureRows (buf : List Bar) : List (List (String × ℚ)) := (buf.rtake 20).map namedBar

/-- The connected model rejects the purchase; what it raises is caught, and rejects nothing. -/
def rejects (buf : List Bar) (imbalance : ℚ) (l : RunnerLearning μ) : Bool :=
  if l.connected then
    match buildFeatures (featureRows buf) imbalance with
    | some (some features) => l.trainer.score e features < l.trainer.predictor.entryThreshold
    | _ => false
  else false

/-- `_on_orderbook`. -/
def onOrderbook (symbol : String) (bids asks : List LevelCells) (tradeId : String) (nowMs : ℤ)
    (committed : Bool) (s : SpotRunner μ) : SpotRunner μ :=
  match s.trading.signal symbol bids asks with
  | .ok (some g) =>
    if SpotTrading.IsReversal x g then
      if rejects e (s.trading.buffer symbol) g.imbalance s.learning then s
      else
        { s with
          trading := s.trading.buyOrder (SpotTrading.orderFor x symbol g) tradeId nowMs committed }
    else s
  | _ => s

/-- One event. -/
def step (event : SpotEvent μ) (s : SpotRunner μ) : SpotRunner μ :=
  match event with
  | .message (.kline symbol candles) => onKline x e symbol candles s
  | .message (.orderbook symbol bids asks tradeId nowMs committed) =>
    onOrderbook x e symbol bids asks tradeId nowMs committed s
  | .others store => { s with learning := { s.learning with store := store } }

end SpotRunner

end Botik
