import Botik.Library.Listing
import Botik.Library.Text
import Botik.State.MarketState

/-!
# The public order book stream

`BybitPublicOrderbookWS` keeps the raw book of every subscribed symbol, applies the snapshots and
deltas of the stream to it, and publishes the result in the trading state. A book with an empty side
is not published.

## Main definitions

* `WsPublic.applyDelta`, `WsPublic.aggregateFromBook`
* `WsPublic.handleMessage`, `WsPublic.updateSymbols`
-/

namespace Botik

open Market

namespace WsPublic

/-- The values of `_bids` and `_asks` for one symbol. -/
structure RawBook where
  bids : Dict ℚ ℚ
  asks : Dict ℚ ℚ

def RawBook.empty : RawBook := ⟨.empty, .empty⟩

/-- The client: its symbols, its raw books, and the state it publishes to. `_bids` and `_asks`
always have the same symbols. -/
structure Client where
  symbols : List String
  books : Dict String RawBook
  state : MarketState

/-- What the client is configured with. -/
structure Settings where
  depth : ℕ
  tickSize : ℚ

/-- A message of an order book topic, its numbers parsed. -/
structure BookMessage where
  symbol : String
  isSnapshot : Bool
  bids : List Level
  asks : List Level
  ts : Option ℤ
  deriving DecidableEq, Repr

/-! ### Books -/

/-- One update of `_apply_delta`. -/
def applyUpdate (book : Dict ℚ ℚ) (update : Level) : Dict ℚ ℚ :=
  if update.2 = 0 then book.erase update.1 else book.set update.1 update.2

/-- `_apply_delta`. -/
def applyDelta (book : Dict ℚ ℚ) (updates : List Level) : Dict ℚ ℚ := updates.foldl applyUpdate book

/-- The book of a snapshot; of two sizes of a price the later one stays. -/
def ofLevels (levels : List Level) : Dict ℚ ℚ :=
  levels.foldl (fun book level => book.set level.1 level.2) .empty

/-- `_book_to_sorted_list`, descending. -/
def sortedBids (book : Dict ℚ ℚ) : List Level := book.listing (fun p q => q ≤ p) fun _ => true

/-- `_book_to_sorted_list`, ascending. -/
def sortedAsks (book : Dict ℚ ℚ) : List Level := book.listing (fun p q => p ≤ q) fun _ => true

/-- The distances of neighbouring levels. -/
def levelDiffs : List Level → List ℚ
  | [] => []
  | [_] => []
  | a :: b :: levels => |a.1 - b.1| :: levelDiffs (b :: levels)

/-- `_infer_tick_size`. -/
def inferTickSize (bids asks : List Level) (fallback : ℚ) : ℚ :=
  let diffs := (levelDiffs (bids.take 25) ++ levelDiffs (asks.take 25)).filter fun d => 0 < d
  match diffs.min? with
  | none => max fallback (1 / 10 ^ 12)
  | some diff => max diff (1 / 10 ^ 12)

/-- `aggregate_from_book`; the text of the time is left out. -/
def aggregateFromBook (symbol : String) (bids asks : List Level) (tickSize : ℚ) (topN : ℕ)
    (tsMs : ℤ) : Option OrderBookAggregate :=
  match bids, asks with
  | (bestBid, bestBidSize) :: _, (bestAsk, bestAskSize) :: _ =>
    some
      { symbol := symbol
        bestBid := bestBid
        bestAsk := bestAsk
        mid := (bestBid + bestAsk) / 2
        spreadTicks :=
          if 0 < tickSize then Text.roundHalfEven ((bestAsk - bestBid) / tickSize) else 0
        imbalanceTopN := computeImbalance bids asks topN
        bestBidSize := bestBidSize
        bestAskSize := bestAskSize
        tsMs := tsMs }
  | _, _ => none

/-! ### Messages -/

/-- The raw book after a message. -/
def BookMessage.applyTo (m : BookMessage) (book : RawBook) : RawBook :=
  if m.isSnapshot then ⟨ofLevels m.bids, ofLevels m.asks⟩
  else ⟨applyDelta book.bids m.bids, applyDelta book.asks m.asks⟩

/-- `int(msg.get("ts") or now)`. -/
def BookMessage.tsMs (m : BookMessage) (nowMs : ℤ) : ℤ := (m.ts.filter (· ≠ 0)).getD nowMs

/-- Publish a raw book, unless a side of it is empty. -/
def publish (x : Settings) (nowMs : ℤ) (m : BookMessage) (book : RawBook) (s : MarketState) :
    MarketState :=
  let bids := sortedBids book.bids
  let asks := sortedAsks book.asks
  let tickSize := inferTickSize bids asks x.tickSize
  match aggregateFromBook m.symbol bids asks tickSize (min 10 x.depth) (m.tsMs nowMs) with
  | none => s
  | some agg => s.setOrderbook nowMs m.symbol agg (some (bids, asks)) m.isSnapshot (some tickSize)

theorem aggregateFromBook_isSome_iff (symbol : String) (bids asks : List Level) (tickSize : ℚ)
    (topN : ℕ) (tsMs : ℤ) :
    (aggregateFromBook symbol bids asks tickSize topN tsMs).isSome ↔ bids ≠ [] ∧ asks ≠ [] := by
  cases bids with
  | nil => simp [aggregateFromBook]
  | cons bid bids =>
    cases asks with
    | nil => simp [aggregateFromBook]
    | cons ask asks => simp [aggregateFromBook]

/-- A book with levels on both sides is published, any other is not. -/
theorem publish_cases (x : Settings) (nowMs : ℤ) (m : BookMessage) (book : RawBook)
    (s : MarketState) :
    ((sortedBids book.bids ≠ [] ∧ sortedAsks book.asks ≠ []) ∧ ∃ agg tickSize,
        aggregateFromBook m.symbol (sortedBids book.bids) (sortedAsks book.asks) tickSize
          (min 10 x.depth) (m.tsMs nowMs) = some agg ∧
        publish x nowMs m book s = s.setOrderbook nowMs m.symbol agg
          (some (sortedBids book.bids, sortedAsks book.asks)) m.isSnapshot (some tickSize)) ∨
      ¬ (sortedBids book.bids ≠ [] ∧ sortedAsks book.asks ≠ []) ∧ publish x nowMs m book s = s := by
  unfold publish
  dsimp only
  rw [← aggregateFromBook_isSome_iff m.symbol _ _ (inferTickSize (sortedBids book.bids)
    (sortedAsks book.asks) x.tickSize) (min 10 x.depth) (m.tsMs nowMs)]
  cases hagg : aggregateFromBook m.symbol (sortedBids book.bids) (sortedAsks book.asks)
      (inferTickSize (sortedBids book.bids) (sortedAsks book.asks) x.tickSize) (min 10 x.depth)
      (m.tsMs nowMs) with
  | none => exact Or.inr ⟨by simp, rfl⟩
  | some agg => exact Or.inl ⟨rfl, agg, _, hagg, rfl⟩

/-- `_handle_message`, for a message of an order book topic. -/
def handleMessage (x : Settings) (nowMs : ℤ) (m : BookMessage) (c : Client) : Client :=
  match c.books.get? m.symbol with
  | none => c
  | some book =>
    { c with
      books := c.books.set m.symbol (m.applyTo book)
      state := publish x nowMs m (m.applyTo book) c.state }

/-! ### Symbols -/

/-- One symbol of `_normalize_symbols`. -/
def addNormalized (out : List String) (raw : String) : List String :=
  let s := Text.upper (Text.strip raw)
  if s = "" ∨ s ∈ out then out else out ++ [s]

/-- `_normalize_symbols`. -/
def normalizeSymbols (symbols : List String) : List String := symbols.foldl addNormalized []

/-- The constructor. -/
def Client.start (symbols : List String) (state : MarketState) : Client where
  symbols := normalizeSymbols symbols
  books := (normalizeSymbols symbols).foldl (fun books s => books.set s .empty) .empty
  state := state

/-- Subscribe to a symbol. -/
def addSymbol (c : Client) (s : String) : Client := { c with books := c.books.set s .empty }

/-- Drop a symbol; the levels, the tick size and the readiness stay. -/
def dropSymbol (c : Client) (s : String) : Client :=
  { c with
    books := c.books.erase s
    state := { c.state with orderbooks := c.state.orderbooks.erase s } }

/-- `update_symbols`. -/
def updateSymbols (symbols : List String) (c : Client) : Client :=
  let new := normalizeSymbols symbols
  let added := new.filter fun s => s ∉ c.symbols
  let removed := c.symbols.filter fun s => s ∉ new
  if new = [] ∨ (added = [] ∧ removed = []) then c
  else removed.foldl dropSymbol (added.foldl addSymbol { c with symbols := new })

end WsPublic

end Botik
