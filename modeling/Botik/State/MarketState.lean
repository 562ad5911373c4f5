import Mathlib.Algebra.Order.Field.Rat
import Mathlib.Data.List.DropRight
import Botik.Library.Dict

/-!
# The market data of the trading state

What `TradingState` keeps of every symbol about its order book: the top of book, the levels, the
tick size, whether a snapshot was published, and two series of the last fifteen minutes.

Beside the books `TradingState` keeps the public trades of every symbol. Its two writers are
`set_orderbook` and `record_public_trade`.

## Main definitions

* `Market.OrderBookAggregate`, `Market.computeImbalance`
* `MarketState`, `MarketState.setOrderbook`
* `PublicTradeEvent`
* `MarketHistory`, `MarketHistory.recordPublicTrade`
* `MarketCall`, `MarketHistory.call` — the calls of the two writers
-/

namespace Botik

/-! ### The market data of the trading state -/

namespace Market

/-- The top of a book, with all its fields. -/
structure OrderBookAggregate where
  symbol : String
  bestBid : ℚ
  bestAsk : ℚ
  mid : ℚ
  spreadTicks : ℤ
  imbalanceTopN : ℚ
  bestBidSize : ℚ
  bestAskSize : ℚ
  tsMs : ℤ
  deriving DecidableEq, Repr

/-- A price and its size. -/
abbrev Level := ℚ × ℚ

/-- `compute_imbalance`. -/
def computeImbalance (bids asks : List Level) (topN : ℕ) : ℚ :=
  let bVol := ((bids.take topN).map Prod.snd).sum
  let aVol := ((asks.take topN).map Prod.snd).sum
  let total := bVol + aVol
  if total ≤ 0 then 0 else (bVol - aVol) / total

end Market

open Market

/-- The dictionaries of `TradingState` that hold market data. -/
structure MarketState where
  orderbooks : Dict String OrderBookAggregate
  orderbookLevels : Dict String (List Level × List Level)
  symbolTickSize : Dict String ℚ
  bookSnapshotReady : Dict String Bool
  lastBookUpdateMs : Dict String ℤ
  spreadBpsHistory : Dict String (List (ℤ × ℚ))
  midHistory : Dict String (List (ℤ × ℚ))

namespace MarketState

def empty : MarketState := ⟨.empty, .empty, .empty, .empty, .empty, .empty, .empty⟩

/-- The length of a series, in milliseconds. -/
def maxAgeMs : ℤ := 15 * 60 * 1000

/-- A value appended to a series, without the values that are too old by then. -/
def appendPruned (store : Dict String (List (ℤ × ℚ))) (symbol : String) (tsMs : ℤ) (value : ℚ) :
    Dict String (List (ℤ × ℚ)) :=
  let series := (store.get? symbol).getD [] ++ [(tsMs, value)]
  store.set symbol (series.dropWhile fun e => decide (maxAgeMs < tsMs - e.1))

/-- `set_orderbook`. -/
def setOrderbook (nowMs : ℤ) (symbol : String) (agg : OrderBookAggregate)
    (levels : Option (List Level × List Level)) (isSnapshot : Bool) (tickSize : Option ℚ)
    (s : MarketState) : MarketState :=
  let tsMs := if agg.tsMs ≠ 0 then agg.tsMs else nowMs
  { orderbooks := s.orderbooks.set symbol agg
    orderbookLevels := match levels with
      | some levels => s.orderbookLevels.set symbol levels
      | none => s.orderbookLevels
    symbolTickSize := match tickSize with
      | some tick => if 0 < tick then s.symbolTickSize.set symbol tick else s.symbolTickSize
      | none => s.symbolTickSize
    bookSnapshotReady :=
      if isSnapshot then s.bookSnapshotReady.set symbol true
      else s.bookSnapshotReady.insertIfAbsent symbol false
    lastBookUpdateMs := s.lastBookUpdateMs.set symbol tsMs
    spreadBpsHistory :=
      if 0 < agg.mid ∧ agg.bestBid < agg.bestAsk ∧ 0 < agg.bestBid then
        appendPruned s.spreadBpsHistory symbol tsMs
          ((agg.bestAsk - agg.bestBid) / agg.mid * 10000)
      else s.spreadBpsHistory
    midHistory :=
      if 0 < agg.mid then appendPruned s.midHistory symbol tsMs agg.mid else s.midHistory }

/-- `is_book_snapshot_ready`. -/
def isBookSnapshotReady (s : MarketState) (symbol : String) : Bool :=
  (s.bookSnapshotReady.get? symbol).getD false

section SetOrderbook

variable {nowMs : ℤ} {symbol symbol' : String} {agg : OrderBookAggregate}
  {levels : List Level × List Level} {isSnapshot : Bool} {tickSize : Option ℚ} {s : MarketState}

@[simp] theorem orderbooks_setOrderbook :
    (s.setOrderbook nowMs symbol agg (some levels) isSnapshot tickSize).orderbooks.get? symbol' =
      if symbol' = symbol then some agg else s.orderbooks.get? symbol' :=
  Dict.get?_set _ _ _ _

@[simp] theorem orderbookLevels_setOrderbook :
    (s.setOrderbook nowMs symbol agg (some levels) isSnapshot tickSize).orderbookLevels.get?
        symbol' =
      if symbol' = symbol then some levels else s.orderbookLevels.get? symbol' :=
  Dict.get?_set _ _ _ _

/-- A snapshot makes a symbol ready; nothing takes that back. -/
theorem isBookSnapshotReady_setOrderbook :
    (s.setOrderbook nowMs symbol agg (some levels) isSnapshot tickSize).isBookSnapshotReady
        symbol' =
      if symbol' = symbol ∧ isSnapshot = true then true else s.isBookSnapshotReady symbol' := by
  unfold isBookSnapshotReady setOrderbook
  dsimp only
  cases isSnapshot with
  | true =>
    rw [if_pos rfl, Dict.get?_set]
    by_cases hsymbol : symbol' = symbol
    · simp [hsymbol]
    · simp [hsymbol]
  | false =>
    rw [if_neg Bool.false_ne_true]
    by_cases hsymbol : symbol' = symbol
    · rw [hsymbol, Dict.get?_insertIfAbsent_self]
      simp
    · rw [Dict.get?_insertIfAbsent_of_ne hsymbol]
      simp

end SetOrderbook

end MarketState

/-! ### The tape of trades -/

structure PublicTradeEvent where
  symbol : String
  tradeId : String
  seq : ℤ
  tsMs : ℤ
  takerSide : String
  price : ℚ
  qty : ℚ
  deriving DecidableEq, Repr

/-- The market data with the trades. -/
structure MarketHistory extends MarketState where
  publicTrades : Dict String (List PublicTradeEvent)
  lastTradeUpdateMs : Dict String ℤ

namespace MarketHistory

def empty : MarketHistory := ⟨.empty, .empty, .empty⟩

/-- The length of a tape. -/
def maxTrades : ℕ := 100000

/-- `record_public_trade`. -/
def recordPublicTrade (event : PublicTradeEvent) (s : MarketHistory) : MarketHistory :=
  let trades := (s.publicTrades.get? event.symbol).getD [] ++ [event]
  let cutoff := event.tsMs - 15 * 60 * 1000
  { s with
    publicTrades := s.publicTrades.set event.symbol
      ((trades.rtake maxTrades).dropWhile fun trade => trade.tsMs < cutoff)
    lastTradeUpdateMs := s.lastTradeUpdateMs.set event.symbol event.tsMs }

/-- `get_spread_bps_series`. -/
def getSpreadBpsSeries (s : MarketHistory) (symbol : String) : List (ℤ × ℚ) :=
  (s.spreadBpsHistory.get? symbol).getD []

/-- `get_mid_series`. -/
def getMidSeries (s : MarketHistory) (symbol : String) : List (ℤ × ℚ) :=
  (s.midHistory.get? symbol).getD []

/-- `get_public_trades`. -/
def getPublicTrades (s : MarketHistory) (symbol : String) : List PublicTradeEvent :=
  (s.publicTrades.get? symbol).getD []

end MarketHistory

/-- A call of `set_orderbook`, with the clock it may read, or of `record_public_trade`. -/
inductive MarketCall
  | setOrderbook (nowMs : ℤ) (symbol : String) (agg : Market.OrderBookAggregate)
      (levels : Option (List Market.Level × List Market.Level)) (isSnapshot : Bool)
      (tickSize : Option ℚ)
  | recordPublicTrade (event : PublicTradeEvent)
  deriving DecidableEq, Repr

namespace MarketCall

/-- The symbol a call writes. -/
def symbol : MarketCall → String
  | .setOrderbook _ symbol _ _ _ _ => symbol
  | .recordPublicTrade event => event.symbol

end MarketCall

namespace MarketHistory

/-- A call. -/
def call : MarketCall → MarketHistory → MarketHistory
  | .setOrderbook nowMs symbol agg levels isSnapshot tickSize, s =>
    { s with
      toMarketState :=
        s.toMarketState.setOrderbook nowMs symbol agg levels isSnapshot tickSize }
  | .recordPublicTrade event, s => s.recordPublicTrade event

end MarketHistory

end Botik
