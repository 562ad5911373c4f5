import Botik.Execution.FuturesPaper
import Botik.Runners.Learning
import Botik.Runners.PriceFeed
import Botik.Strategy.FuturesSpikeReversal

/-!
# The futures runner

`FuturesRunner` of `runners/futures_runner.py`: every candle is a tick for the open trades of its
symbol, and every book of a symbol without one may be the reason for a trade against a spike, whose
stop and target are saved with it. The engine works on the tables only, which a restart finds as
they were. Of its strategy the runner reads the thresholds; the prediction of the models is set in
the strategy, which is never asked.

What raises in the middle of a message is caught: the work on the message ends there. The texts for
the log are left out.

## Main definitions

* `FuturesRunnerSettings`, `FuturesTrading`, `FuturesRunner`
* `FuturesRunner.onKline`, `FuturesRunner.onOrderbook`
* `FuturesRunner.step` — one event, of the market, of another process, or a restart
-/

namespace Botik

open Ml

/-- The parameters of the environment. -/
structure FuturesRunnerSettings where
  balance : ℚ
  sizer : PositionSizer
  holdTimeoutMs : ℤ
  spikeBps : ℚ
  maxPositions : ℤ

/-- The parameters where the environment has none. -/
def FuturesRunnerSettings.default : FuturesRunnerSettings where
  balance := 10000
  sizer := ⟨1 / 100, 15 / 10, 25 / 10, 15 / 100⟩
  holdTimeoutMs := 4 * 3600 * 1000
  spikeBps := 80
  maxPositions := 3

/-- The strategy of a runner. -/
def FuturesRunnerSettings.strategy (x : FuturesRunnerSettings)
    (predict : Option (List ℚ → Option ℚ)) : FuturesSpike :=
  { FuturesSpike.default with
    spikeThresholdBps := x.spikeBps
    maxOpenPositions := x.maxPositions
    modelPredictFn := predict }

/-- A candle of a message, with the clocks of the policy and of the engine, and what a training
writes. -/
structure FuturesCandle extends CandleCells where
  policyMs : ℤ
  engineMs : ℤ
  stamps : DeployStamps

/-- A message of the stream. -/
inductive FuturesMessage
  | kline (symbol : String) (candles : List FuturesCandle)
  | orderbook (symbol : String) (bids asks : List LevelCells) (tradeId : String) (nowMs : ℤ)

/-- A trade the runner has opened. -/
structure OpenedTrade where
  tradeId : String
  request : FuturesPaper.OpenRequest
  openedAtMs : ℤ

/-- The part of the runner that trades, with the trades it has opened and those that this process
has seen closed. -/
structure FuturesTrading where
  tables : FuturesPaperState
  priceBuf : Dict String (List Bar)
  opened : List OpenedTrade
  closed : List FuturesPaperClose

structure FuturesRunner (μ : Type) where
  trading : FuturesTrading
  learning : RunnerLearning μ

/-- What happens to a runner. -/
inductive FuturesEvent (μ : Type)
  | message (m : FuturesMessage)
  /-- The process is started again. -/
  | restart (symbols : List String)
  /-- Another process writes to what is shared. -/
  | others (store : TrainingStore μ)

namespace FuturesTrading

/-- The buffers of a new process. -/
def freshBuf (symbols : List String) : Dict String (List Bar) :=
  symbols.foldl (fun buf symbol => buf.set symbol []) .empty

/-- The first process, over empty tables. -/
def start (symbols : List String) : FuturesTrading :=
  ⟨⟨.empty, .empty, .empty⟩, freshBuf symbols, [], []⟩

/-- A new process over the tables. -/
def restart (symbols : List String) (s : FuturesTrading) : FuturesTrading :=
  { s with priceBuf := freshBuf symbols, closed := [] }

/-- The buffer of a symbol. -/
def buffer (symbol : String) (s : FuturesTrading) : List Bar := (s.priceBuf.get? symbol).getD []

/-- `on_price_tick` of the engine, with the policy of the runner. -/
def tick (x : FuturesRunnerSettings) (symbol : String) (c : FuturesCandle) (price : ℚ)
    (s : FuturesTrading) : List FuturesPaperClose × FuturesPaperState :=
  FuturesPaper.onPriceTick (SimpleExitPolicy.onTick x.holdTimeoutMs c.policyMs) symbol price
    c.engineMs s.tables

/-- A candle of the buffer more, and its tick. -/
def onBar (x : FuturesRunnerSettings) (symbol : String) (c : FuturesCandle) (bar : Bar)
    (s : FuturesTrading) : FuturesTrading :=
  { s with
    tables := (s.tick x symbol c bar.close).2
    priceBuf := s.priceBuf.set symbol (PriceFeed.pushBar (s.buffer symbol) bar)
    closed := s.closed ++ (s.tick x symbol c bar.close).1 }

/-- `get_open_positions`; an empty name asks for all. -/
def getOpenPositions (symbol : String) (s : FuturesTrading) : List (String × PaperTrade) :=
  s.tables.trades.entries.filter fun e => (symbol = "" ∨ e.2.symbol = symbol) ∧ e.2.exit = none

/-- What a book says of a symbol. -/
def signal (symbol : String) (bids asks : List LevelCells) (s : FuturesTrading) :
    Except PyError (Option BookSignal) :=
  PriceFeed.signalOf (s.getOpenPositions symbol ≠ []) (s.buffer symbol) bids asks

/-- The price of an entry. -/
def entryOf (g : BookSignal) : PositionSide → ℚ
  | .long => g.bestAsk
  | .short => g.bestBid

/-- The trade for a signal, of a quantity that is positive. -/
def requestFor (c : FuturesSpike) (x : FuturesRunnerSettings) (symbol : String) (g : BookSignal) :
    Except SizingError (Option FuturesPaper.OpenRequest) :=
  match BacktestRun.liveEntrySide c.spikeThresholdBps c.imbalanceThreshold g.imbalance
    g.spikeBps with
  | none => .ok none
  | some side => do
    let entry := entryOf g side
    let (sl, tp) ← x.sizer.calcSlTp entry g.atr side.word none none
    let qty ← x.sizer.calcQty x.balance entry sl BacktestRun.noRecord
    return if qty ≤ 0 then none else some ⟨symbol, side, entry, qty, sl, tp⟩

/-- Open a trade and save its stop and target, if there is a request. -/
def openRequest (request : Except SizingError (Option FuturesPaper.OpenRequest)) (tradeId : String)
    (nowMs : ℤ) (s : FuturesTrading) : FuturesTrading :=
  match request with
  | .ok (some o) =>
    match FuturesPaper.openPosition o tradeId nowMs s.tables with
    | (none, _) => s
    | (some tradeId, tables) =>
      { s with
        tables := FuturesPaper.saveProtection o.symbol o.side o.stopLoss o.takeProfit tables
        opened := s.opened ++ [⟨tradeId, o, nowMs⟩] }
  | _ => s

end FuturesTrading

namespace FuturesRunner

variable {μ : Type} (x : FuturesRunnerSettings) (e : Estimators μ)

/-- The constructor, over empty tables. -/
def start (symbols : List String) (store : TrainingStore μ) : FuturesRunner μ where
  trading := .start symbols
  learning := .start .futures store

/-- The prediction that is set in the strategy. -/
def predictFn (l : RunnerLearning μ) : Option (List ℚ → Option ℚ) :=
  if l.connected then some fun features => some (l.trainer.score e features) else none

/-- What the learner is told of a trade. -/
def learned (trade : FuturesPaperClose) : LearnedTrade where
  pnl := trade.netPnl
  holdMs := 0
  exit := trade.exitReason

/-- A closed trade is recorded; an update of the parameters, or fifty trades, are followed by a
training. -/
def recordClosed (stamps : DeployStamps) (l : RunnerLearning μ) (trade : FuturesPaperClose) :
    RunnerLearning μ :=
  l.recordClosed e true (learned trade) stamps

/-- The tick of a candle, and what its learner makes of it. -/
def onBar (symbol : String) (c : FuturesCandle) (bar : Bar) (s : FuturesRunner μ) :
    FuturesRunner μ where
  trading := s.trading.onBar x symbol c bar
  learning := (s.trading.tick x symbol c bar.close).1.foldl (recordClosed e c.stamps) s.learning

/-- `_on_kline`; an exception ends the work on the message. -/
def onKline (symbol : String) (candles : List FuturesCandle) (s : FuturesRunner μ) :
    FuturesRunner μ :=
  Program.after
    (Program.each (PriceFeed.withBar FuturesCandle.toCandleCells (onBar x e symbol)) candles) s

/-- `_on_orderbook`. -/
def onOrderbook (symbol : String) (bids asks : List LevelCells) (tradeId : String) (nowMs : ℤ)
    (s : FuturesRunner μ) : FuturesRunner μ :=
  match s.trading.signal symbol bids asks with
  | .ok (some g) =>
    { s with
      trading := s.trading.openRequest
        (FuturesTrading.requestFor (x.strategy (predictFn e s.learning)) x symbol g) tradeId
        nowMs }
  | _ => s

/-- One event. -/
def step (event : FuturesEvent μ) (s : FuturesRunner μ) : FuturesRunner μ :=
  match event with
  | .message (.kline symbol candles) => onKline x e symbol candles s
  | .message (.orderbook symbol bids asks tradeId nowMs) =>
    onOrderbook x e symbol bids asks tradeId nowMs s
  | .restart symbols =>
    { trading := s.trading.restart symbols
      learning := .start .futures s.learning.store }
  | .others store => { s with learning := { s.learning with store := store } }

end FuturesRunner

end Botik
