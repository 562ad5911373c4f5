import Mathlib.Algebra.Order.Field.Rat
import Mathlib.Data.Prod.Lex
import Botik.Execution.Executor
import Botik.Library.Json
import Botik.Library.Listing
import Botik.Library.Text

/-!
# The discovery of symbols

`marketdata/symbol_universe.py` and `marketdata/universe_discovery.py`: the tickers of the exchange
that trade on both sides are ranked by their spread, by the notional of their best levels and by
their turnover, and the first ones above three floors are taken. While they are too few, the floors
are halved, six times at most.

The requests are given by their answers; an answer that is not successful raises. The texts of an
answer are ASCII, and none of its numbers is written `inf` or `nan`.

## Main definitions

* `SpotInstrument`, `filterSpotSymbols`
* `Ticker`, `Candidate`, `spotCandidates`, `linearCandidates`
* `Floors`, `pick`, `pickRankedSymbols`
* `discoverTopSymbolsByCategory`
-/

namespace Botik.Discovery

/-! ### Instruments -/

structure SpotInstrument where
  symbol : String
  quoteCoin : String
  status : String
  stTag : String
  deriving DecidableEq, Repr

/-- An entry of the answer, a field `none` where it is missing or null. -/
structure InstrumentItem where
  symbol : Option String
  quoteCoin : Option String
  status : Option String
  stTag : Option String

/-- The loop of `fetch_spot_instruments`. -/
def spotInstruments (items : List InstrumentItem) : List SpotInstrument :=
  items.filterMap fun item =>
    let symbol := Text.strip (Text.upper (Text.orEmpty item.symbol))
    if symbol = "" then none
    else some
      { symbol := symbol
        quoteCoin := Text.strip (Text.upper (Text.orEmpty item.quoteCoin))
        status := Text.strip (Text.orEmpty item.status)
        stTag := Text.strip (Text.orEmpty item.stTag) }

/-- `filter_spot_symbols`. -/
def filterSpotSymbols (quoteCoin : String) (excludeStTag1 : Bool)
    (instruments : List SpotInstrument) : List String :=
  let q := Text.strip (Text.upper quoteCoin)
  (instruments.filter fun item =>
    (q = "" ∨ item.quoteCoin = q) ∧ item.status = "Trading" ∧
      ¬ (excludeStTag1 ∧ item.stTag = "1")).map SpotInstrument.symbol

/-! ### Candidates -/

/-- An entry of the tickers. -/
structure Ticker where
  symbol : Option String
  status : Option String
  turnover24h : Option String
  bid1Price : Option String
  ask1Price : Option String
  bid1Size : Option String
  ask1Size : Option String

/-- `float(item.get(key) or 0.0)`. -/
def cell (field : Option String) : Except PyError ℚ :=
  match Text.truthy field with
  | none => .ok 0
  | some text => (Text.float? text).elim (.error .valueError) .ok

/-- A symbol that may be taken. -/
structure Candidate where
  rawSpreadBps : ℚ
  topBookNotional : ℚ
  turnover : ℚ
  symbol : String
  deriving DecidableEq, Repr

/-- The prices and sizes of a ticker that has two sides, as a candidate. -/
def quoted (symbol : String) (t : Ticker) : Except PyError (Option Candidate) := do
  let turnover ← cell t.turnover24h
  let bid ← cell t.bid1Price
  let ask ← cell t.ask1Price
  let bidSize ← cell t.bid1Size
  let askSize ← cell t.ask1Size
  let mid := (bid + ask) / 2
  if bid ≤ 0 ∨ ask ≤ 0 ∨ ask ≤ bid ∨ bidSize ≤ 0 ∨ askSize ≤ 0 ∨ mid ≤ 0 then return none
  else
    return some
      { rawSpreadBps := (ask - bid) / mid * 10000
        topBookNotional := min (bid * bidSize) (ask * askSize)
        turnover := turnover
        symbol := symbol }

/-- The loop of `discover_top_spot_symbols`. -/
def spotCandidates (allowed : List String) (tickers : List Ticker) :
    Except PyError (List (Option Candidate)) :=
  tickers.mapM fun t =>
    let symbol := Text.upper (Text.orEmpty t.symbol)
    if symbol = "" ∨ symbol ∉ allowed then .ok none else quoted symbol t

/-- The loop of `discover_top_linear_symbols`. -/
def linearCandidates (quote : String) (tickers : List Ticker) :
    Except PyError (List (Option Candidate)) :=
  let quoteU := Text.strip (Text.upper quote)
  tickers.mapM fun t =>
    let symbol := Text.strip (Text.upper (Text.orEmpty t.symbol))
    let status := Text.lower (Text.strip (Text.orEmpty t.status))
    if symbol = "" ∨ (quoteU ≠ "" ∧ ¬ quoteU.toList.isSuffixOf symbol.toList) ∨
        (status ≠ "" ∧ status ∉ ["trading", "tradable"]) then .ok none
    else quoted symbol t

/-! ### The ranking -/

/-- The key of the ranking. -/
def Candidate.rank (c : Candidate) : ℚ ×ₗ ℚ ×ₗ ℚ :=
  toLex (c.rawSpreadBps, toLex (c.topBookNotional, c.turnover))

/-- What a candidate has to reach. -/
structure Floors where
  turnover : ℚ
  spread : ℚ
  notional : ℚ
  deriving DecidableEq, Repr

namespace Floors

def halved (f : Floors) : Floors :=
  ⟨f.turnover * (1 / 2), f.spread * (1 / 2), f.notional * (1 / 2)⟩

/-- A candidate reaches the floors. -/
def Admits (f : Floors) (c : Candidate) : Prop :=
  f.turnover ≤ c.turnover ∧ f.spread ≤ c.rawSpreadBps ∧ f.notional ≤ c.topBookNotional

instance (f : Floors) (c : Candidate) : Decidable (f.Admits c) :=
  inferInstanceAs (Decidable (_ ∧ _))

/-- It is no use to halve them again. -/
def IsLow (f : Floors) : Prop := f.turnover ≤ 1 ∧ f.spread ≤ 1 / 100 ∧ f.notional ≤ 1

instance (f : Floors) : Decidable f.IsLow := inferInstanceAs (Decidable (_ ∧ _))

end Floors

/-- The candidates that reach the floors. -/
def admitted (candidates : List Candidate) (f : Floors) : List Candidate :=
  candidates.filter fun c => f.Admits c

/-- `_pick`: the highest ranks first, equal ones in the order they came in. -/
def pick (candidates : List Candidate) (size : ℕ) (f : Floors) : List Candidate :=
  (Newest.sortedBy (fun c => OrderDual.toDual c.rank) (admitted candidates f)).take size

/-- The rounds that halve the floors, with what is picked before them. -/
def relax (candidates : List Candidate) (size : ℕ) : ℕ → Floors → List Candidate → List Candidate
  | 0, _, picked => picked
  | rounds + 1, f, _ =>
    let picked := pick candidates size f.halved
    if size ≤ picked.length ∨ f.halved.IsLow then picked
    else relax candidates size rounds f.halved picked

/-- The parameters of a discovery. -/
structure DiscoverySettings where
  quote : String
  limit : ℤ
  minSymbols : ℤ
  minTurnover24h : ℚ
  minRawSpreadBps : ℚ
  minTopBookNotional : ℚ
  excludeStTag1 : Bool

namespace DiscoverySettings

variable (x : DiscoverySettings)

/-- `target_size`. -/
def targetSize : ℕ := max (max x.limit.toNat 1) x.minSymbols.toNat

/-- The floors to begin with. -/
def floors : Floors :=
  ⟨max x.minTurnover24h 0, max x.minRawSpreadBps 0, max x.minTopBookNotional 0⟩

end DiscoverySettings

/-- `_pick_ranked_symbols`. -/
def pickRanked (x : DiscoverySettings) (candidates : List Candidate) : List Candidate :=
  let picked := pick candidates x.targetSize x.floors
  if x.targetSize ≤ picked.length then picked else relax candidates x.targetSize 6 x.floors picked

def pickRankedSymbols (x : DiscoverySettings) (candidates : List Candidate) : List String :=
  (pickRanked x candidates).map Candidate.symbol

/-- `discover_top_spot_symbols`. -/
def discoverTopSpotSymbols (x : DiscoverySettings)
    (instruments : Except PyError (List InstrumentItem)) (tickers : Except PyError (List Ticker)) :
    Except PyError (List String) := do
  let allowed := filterSpotSymbols (Text.strip (Text.upper x.quote)) x.excludeStTag1
    (spotInstruments (← instruments))
  if allowed = [] then return []
  else
    let candidates ← spotCandidates allowed (← tickers)
    return pickRankedSymbols x (candidates.filterMap id)

/-- `discover_top_linear_symbols`. -/
def discoverTopLinearSymbols (x : DiscoverySettings) (tickers : Except PyError (List Ticker)) :
    Except PyError (List String) := do
  let candidates ← linearCandidates x.quote (← tickers)
  return pickRankedSymbols x (candidates.filterMap id)

/-- `discover_top_symbols_by_category`. -/
def discoverTopSymbolsByCategory (category : MarketCategory) (x : DiscoverySettings)
    (instruments : Except PyError (List InstrumentItem)) (tickers : Except PyError (List Ticker)) :
    Except PyError (List String) :=
  match category with
  | .linear => discoverTopLinearSymbols x tickers
  | .spot => discoverTopSpotSymbols x instruments tickers

end Botik.Discovery
