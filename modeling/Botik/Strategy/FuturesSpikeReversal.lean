import Botik.Learning.Policy
import Botik.Main.Intents

/-!
# Trading against a spike of the futures

`FuturesSpikeReversalStrategy.get_intents`: for each active symbol in turn, a spike and the
imbalance of its book decide on an order against the spike. The spike is that of prices made from
the median spread of the pair filter, and the levels of the book are looked for in its aggregate,
which has none. The model that filters the orders is a parameter.

## Main definitions

* `FuturesView` — the trading state, as the strategy reads it
* `FuturesSpike.detectSpike`, `FuturesSpike.calcImbalance`
* `FuturesSpike.evaluate` — `_evaluate`
* `FuturesSpike.getIntents`
-/

namespace Botik

/-- The trading state, with what the pair filter published. -/
structure FuturesView extends MarketState where
  paused : Bool
  activeSymbols : List String
  pairFilterSnapshot : Dict String PairSnapshot

/-- The settings of the strategy. -/
structure FuturesSpike where
  spikeThresholdBps : ℚ
  imbalanceThreshold : ℚ
  cooldownSec : ℤ
  maxOpenPositions : ℤ
  /-- The confidence of the model in a row of features. -/
  modelPredictFn : Option (List ℚ → Option ℚ)

/-- What the strategy keeps between its calls. -/
structure SpikeRecord where
  lastTrigger : Dict String ℚ
  lastSummary : List (String × ℕ)

namespace FuturesSpike

/-- The defaults of the constructor. -/
def default : FuturesSpike where
  spikeThresholdBps := 80
  imbalanceThreshold := 13 / 20
  cooldownSec := 120
  maxOpenPositions := 3
  modelPredictFn := none

/-! ### The helpers -/

/-- The number of prices a spike is looked for in. -/
def lookback : ℕ := 5

/-- The prices made from a spread. A division by zero raises, which is caught, and leaves none. -/
def pricesOf (ref currentPrice : ℚ) : List ℚ :=
  if (List.range lookback).any fun i : ℕ => 1 + ref * i / 10000 = 0 then []
  else (List.range lookback).map fun i : ℕ => currentPrice / (1 + ref * i / 10000)

/-- The prices of `_detect_spike`. -/
def spikePrices (v : FuturesView) (symbol : String) (currentPrice : ℚ) : List ℚ :=
  match v.pairFilterSnapshot.get? symbol with
  | some s =>
    let ref := toFloat s.medianSpreadBps
    if ref ≠ 0 ∧ currentPrice ≠ 0 then pricesOf ref currentPrice else []
  | none => []

/-- `_detect_spike`: the size of the spike in basis points, and its direction. -/
def detectSpike (v : FuturesView) (symbol : String) (currentPrice : ℚ) : ℚ × ℤ :=
  let prices := spikePrices v symbol currentPrice
  if prices.length < 2 then (0, 0)
  else
    let refPrice := prices.getLast?.getD 0
    if refPrice = 0 then (0, 0)
    else
      let spikeBps := (currentPrice - refPrice) / refPrice * 10000
      (spikeBps, if 0 < spikeBps then 1 else -1)

/-- The share of the bids in the five best levels of each side. -/
def bidShare (bids asks : List Market.Level) : ℚ :=
  let bidVol := ((bids.take 5).map Prod.snd).sum
  let askVol := ((asks.take 5).map Prod.snd).sum
  if bidVol + askVol = 0 then 1 / 2 else bidVol / (bidVol + askVol)

/-- `_calc_imbalance`. The aggregate has no attributes `bids` and `asks`, so `getattr` gives the
empty lists. -/
def calcImbalance (_ob : Market.OrderBookAggregate) : ℚ := bidShare [] []

/-- `_build_features`. -/
def buildFeatures (spikeBps : ℚ) (spikeDirection : ℤ) (imbalance midPrice : ℚ) : List ℚ :=
  [spikeBps, spikeDirection, imbalance, midPrice]

variable (c : FuturesSpike)

/-- The side and the price of an order against a spike. -/
def orderAgainst (ob : Market.OrderBookAggregate) (spikeDirection : ℤ) (imbalance : ℚ) :
    Option (Side × ℚ) :=
  if spikeDirection < 0 ∧ c.imbalanceThreshold < imbalance then some (.buy, ob.bestAsk)
  else if 0 < spikeDirection ∧ imbalance < 1 - c.imbalanceThreshold then some (.sell, ob.bestBid)
  else none

/-- The model, if there is one, has confidence in the order. -/
def passesModel (features : List ℚ) : Bool :=
  match c.modelPredictFn with
  | none => true
  | some predict =>
    match predict features with
    | none => false
    | some confidence => ¬ confidence < 11 / 20

/-- The order of an intent. -/
def intentOf (symbol : String) (side : Side) (entry spikeBps : ℚ) (hex : String) : OrderIntent where
  symbol := symbol
  side := side.text
  price := entry
  qty := 0
  orderLinkId := "fsr-" ++ hex
  profileId := some "futures_spike_reversal"
  actionEntryTickOffset := some (Text.truncate |spikeBps|)
  actionTargetProfit := none
  actionSafetyBuffer := none
  actionStopLossPct := some (15 / 1000)
  actionTakeProfitPct := some (25 / 1000)
  actionHoldTimeoutSec := some (4 * 3600)
  actionMakerOnly := none

/-- `_evaluate`. -/
def evaluate (v : FuturesView) (symbol : String) (ob : Market.OrderBookAggregate) (hex : String) :
    Option OrderIntent :=
  if ob.bestBid ≤ 0 ∨ ob.bestAsk ≤ 0 then none
  else
    let midPrice := (ob.bestBid + ob.bestAsk) / 2
    let (spikeBps, spikeDirection) := detectSpike v symbol midPrice
    if |spikeBps| < c.spikeThresholdBps then none
    else
      let imbalance := calcImbalance ob
      match c.orderAgainst ob spikeDirection imbalance with
      | none => none
      | some (side, entry) =>
        if c.passesModel (buildFeatures spikeBps spikeDirection imbalance midPrice) then
          some (intentOf symbol side entry spikeBps hex)
        else none

/-! ### A call -/

/-- The intents of a call so far, and the times of the last triggers. -/
structure Scan where
  intents : List OrderIntent
  lastTrigger : Dict String ℚ

variable (v : FuturesView) (now : ℚ) (hex : ℕ → String)

/-- The body of the loop for a symbol. -/
def visit (symbol : String) (scan : Scan) : Scan :=
  if now - (scan.lastTrigger.get? symbol).getD 0 < c.cooldownSec then scan
  else
    match v.orderbooks.get? symbol with
    | none => scan
    | some ob =>
      match c.evaluate v symbol ob (hex scan.intents.length) with
      | none => scan
      | some intent => ⟨scan.intents ++ [intent], scan.lastTrigger.set symbol now⟩

/-- The loop over the symbols. -/
def scanSymbols : List String → Scan → Scan
  | [], scan => scan
  | symbol :: symbols, scan =>
    if c.maxOpenPositions ≤ scan.intents.length then scan
    else scanSymbols symbols (c.visit v now hex symbol scan)

/-- `get_intents`, at a time, with `uuid.uuid4().hex[:10]` by the number of the intent. -/
def getIntents (r : SpikeRecord) : List OrderIntent × SpikeRecord :=
  if v.paused then ([], { r with lastSummary := [("paused", 1)] })
  else if v.activeSymbols = [] then ([], { r with lastSummary := [("no_symbols", 1)] })
  else
    let scan := c.scanSymbols v now hex v.activeSymbols ⟨[], r.lastTrigger⟩
    (scan.intents,
      { lastTrigger := scan.lastTrigger
        lastSummary := [("evaluated", v.activeSymbols.length), ("intents", scan.intents.length)] })

end FuturesSpike

end Botik
