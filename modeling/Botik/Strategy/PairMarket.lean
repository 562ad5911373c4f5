import Mathlib.Data.List.Sort
import Botik.Library.GreedyFill
import Botik.Library.Text
import Botik.State.MarketState
import Botik.Strategy.PairAdmission

/-!
# The measurements of the pair admission filter

What `evaluate_pair_admission` measures before it decides: the walks through the two sides of the
book, the depth near the middle, the spreads, the trades and the moves of the last seconds, and the
slippage and the fees, which the file of the autocalibration may override. The standard deviation is
a parameter.

## Main definitions

* `simulateVwapBuy`, `simulateVwapSell` — the average price of an order of a given notional
* `depthNearMidQuote`, `median`, `percentile`, `bpsChangesFromMidSeries`
* `Autocalibration`, `maxTotalSlippage`, `feesBps`
* `measurePair`, `evaluatePair`

## Main results

* `simulateVwap_eq` — a walk that completes, by what the levels cost
-/

namespace Botik

open Market

/-! ### The walk -/

/-- The totals of a walk. -/
structure VwapTotals where
  remaining : ℚ
  totalBase : ℚ
  totalQuote : ℚ
  deriving DecidableEq, Repr

/-- The loop of both simulations. -/
def vwapWalk : List Level → VwapTotals → VwapTotals
  | [], t => t
  | (price, qty) :: levels, t =>
    if price ≤ 0 ∨ qty ≤ 0 ∨ t.remaining ≤ 0 then vwapWalk levels t
    else
      let take := min t.remaining (price * qty)
      let t' : VwapTotals :=
        ⟨t.remaining - take, t.totalBase + take / price, t.totalQuote + take⟩
      if t'.remaining ≤ 0 then t' else vwapWalk levels t'

/-- Walk through a side until the notional is taken. -/
def simulateVwap (levels : List Level) (orderNotionalQuote : ℚ) : Option ℚ :=
  let t := vwapWalk levels ⟨orderNotionalQuote, 0, 0⟩
  if 0 < t.remaining ∨ t.totalBase ≤ 0 then none else some (t.totalQuote / t.totalBase)

/-- `_simulate_vwap_buy`. -/
def simulateVwapBuy (asks : List Level) (orderNotionalQuote : ℚ) : Option ℚ :=
  simulateVwap asks orderNotionalQuote

/-- `_simulate_vwap_sell`. -/
def simulateVwapSell (bids : List Level) (orderNotionalQuote : ℚ) : Option ℚ :=
  simulateVwap bids orderNotionalQuote

/-- The levels a walk does not skip. -/
def validLevels (levels : List Level) : List Level := levels.filter fun l => GreedyFill.IsLevel l

/-- What these levels cost together. -/
def quoteValue (levels : List Level) : ℚ := GreedyFill.capacity (validLevels levels)

section Walk

variable {levels : List Level} {price qty : ℚ} {t : VwapTotals}

theorem isLevel_of_mem_validLevels : ∀ l ∈ validLevels levels, GreedyFill.IsLevel l := by
  intro l hl
  exact of_decide_eq_true (List.mem_filter.mp hl).2

theorem quoteValue_nonneg (levels : List Level) : 0 ≤ quoteValue levels :=
  GreedyFill.capacity_nonneg isLevel_of_mem_validLevels

@[simp] theorem validLevels_cons_of_pos {l : Level} (h : GreedyFill.IsLevel l) :
    validLevels (l :: levels) = l :: validLevels levels :=
  List.filter_cons_of_pos (decide_eq_true h)

@[simp] theorem validLevels_cons_of_neg {l : Level} (h : ¬ GreedyFill.IsLevel l) :
    validLevels (l :: levels) = validLevels levels :=
  List.filter_cons_of_neg (by simpa using h)

@[simp] theorem quoteValue_cons_of_pos {l : Level} (h : GreedyFill.IsLevel l) :
    quoteValue (l :: levels) = l.1 * l.2 + quoteValue levels := by
  rw [quoteValue, validLevels_cons_of_pos h, GreedyFill.capacity_cons, quoteValue]

@[simp] theorem quoteValue_cons_of_neg {l : Level} (h : ¬ GreedyFill.IsLevel l) :
    quoteValue (l :: levels) = quoteValue levels := by
  rw [quoteValue, validLevels_cons_of_neg h, quoteValue]

/-- A walk takes what the valid levels cost, as long as something remains. -/
theorem vwapWalk_eq (hremaining : 0 < t.remaining) :
    vwapWalk levels t =
      ⟨t.remaining - min t.remaining (quoteValue levels),
        t.totalBase + GreedyFill.bought (validLevels levels)
          (min t.remaining (quoteValue levels)),
        t.totalQuote + min t.remaining (quoteValue levels)⟩ := by
  induction levels generalizing t with
  | nil => simp [vwapWalk, quoteValue, validLevels, hremaining.le]
  | cons l levels ih =>
    obtain ⟨price, qty⟩ := l
    have hrest := quoteValue_nonneg levels
    rw [vwapWalk]
    by_cases hlevel : GreedyFill.IsLevel (price, qty)
    · have hcost : 0 < price * qty := mul_pos hlevel.1 hlevel.2
      have hguard : ¬ (price ≤ 0 ∨ qty ≤ 0 ∨ t.remaining ≤ 0) := by
        simp [hlevel.1, hlevel.2, hremaining]
      rw [if_neg hguard, quoteValue_cons_of_pos hlevel, validLevels_cons_of_pos hlevel,
        GreedyFill.bought_cons]
      dsimp only
      rcases le_or_gt t.remaining (price * qty) with hlast | hmore
      · -- the walk ends in this level
        have hall : min t.remaining (price * qty + quoteValue levels) = t.remaining :=
          min_eq_left (by linarith)
        rw [hall, min_eq_left hlast, sub_self, if_pos le_rfl,
          GreedyFill.bought_zero isLevel_of_mem_validLevels, add_zero]
      -- the level is taken whole, and the walk goes on with the rest
      · have htaken : min t.remaining (price * qty + quoteValue levels) =
            price * qty + min (t.remaining - price * qty) (quoteValue levels) := by
          rw [← min_add_add_left, add_sub_cancel]
        have hcapped : min (price * qty + min (t.remaining - price * qty) (quoteValue levels))
            (price * qty) = price * qty :=
          min_eq_right (le_add_of_nonneg_right (le_min (sub_pos.mpr hmore).le hrest))
        rw [htaken, hcapped, min_eq_right hmore.le, if_neg (not_le.mpr (sub_pos.mpr hmore)),
          ih (sub_pos.mpr hmore), add_sub_cancel_left]
        congr 1 <;> ring
    -- an invalid level is passed over
    · have hguard : price ≤ 0 ∨ qty ≤ 0 ∨ t.remaining ≤ 0 := by
        rcases not_and_or.mp hlevel with hprice | hqty
        · exact Or.inl (not_lt.mp hprice)
        · exact Or.inr (Or.inl (not_lt.mp hqty))
      rw [if_pos hguard, quoteValue_cons_of_neg hlevel, validLevels_cons_of_neg hlevel,
        ih hremaining]

/-- A walk completes exactly when the valid levels cost the notional, at the average price of what
it buys. -/
theorem simulateVwap_eq {notional : ℚ} (hnotional : 0 < notional) :
    simulateVwap levels notional =
      if notional ≤ quoteValue levels then
        some (notional / GreedyFill.bought (validLevels levels) notional)
      else none := by
  unfold simulateVwap
  rw [vwapWalk_eq hnotional]
  dsimp only
  rw [zero_add, zero_add]
  by_cases hle : notional ≤ quoteValue levels
  · have hbought := GreedyFill.bought_pos isLevel_of_mem_validLevels hnotional hle
    rw [min_eq_left hle, sub_self, if_pos hle,
      if_neg (not_or.mpr ⟨lt_irrefl 0, not_le.mpr hbought⟩)]
  · rw [if_neg hle, min_eq_right (not_le.mp hle).le, if_pos (Or.inl (by linarith))]

end Walk

/-! ### Statistics -/

/-- `_depth_near_mid_quote`: what the levels around the middle cost, on both sides. -/
def depthNearMidQuote (bids asks : List Level) (mid depthBandBps : ℚ) : ℚ × ℚ :=
  if mid ≤ 0 then (0, 0)
  else
    let band := max depthBandBps 0 / 10000
    let low := mid * (1 - band)
    let high := mid * (1 + band)
    (((bids.filter fun l => low ≤ l.1 ∧ l.1 ≤ mid).map fun l => l.1 * l.2).sum,
      ((asks.filter fun l => mid ≤ l.1 ∧ l.1 ≤ high).map fun l => l.1 * l.2).sum)

/-- `statistics.median`, of a list that is not empty. -/
def median (values : List ℚ) : ℚ :=
  let sorted := values.insertionSort (· ≤ ·)
  let half := sorted.length / 2
  if sorted.length % 2 = 1 then sorted.getD half 0
  else (sorted.getD (half - 1) 0 + sorted.getD half 0) / 2

/-- `_percentile`: linear between the two ranks around it. -/
def percentile (values : List ℚ) (p : ℚ) : ℚ :=
  let vals := values.insertionSort (· ≤ ·)
  match vals with
  | [] => 0
  | [v] => v
  | _ =>
    let rank := max 0 (min 100 p) / 100 * (vals.length - 1)
    let lo := (Text.truncate rank).toNat
    let hi := min (lo + 1) (vals.length - 1)
    let frac := rank - lo
    vals.getD lo 0 * (1 - frac) + vals.getD hi 0 * frac

/-- The differences of neighbours. -/
def gaps (times : List ℤ) : List ℚ := List.zipWith (fun a b => ((b - a : ℤ) : ℚ)) times times.tail

/-- `_bps_changes_from_mid_series`: the moves from second to second, by the last price of each. -/
def bpsChangesFromMidSeries (series : List (ℤ × ℚ)) : List ℚ :=
  let secondMid := series.foldl (fun d e => if 0 < e.2 then d.set (e.1 / 1000) e.2 else d)
    (Dict.empty : Dict ℤ ℚ)
  let mids := (secondMid.entries.insertionSort fun a b => a.1 ≤ b.1).map Prod.snd
  ((mids.zip mids.tail).filter fun m => 0 < m.1).map fun m => (m.2 - m.1) / m.1 * 10000

/-- The values of a series that are no older than a window in seconds, which is one at least. -/
def inWindow {α : Type} (now windowSec : ℤ) (ts : α → ℤ) (series : List α) : List α :=
  series.filter fun e => now - ts e ≤ max windowSec 1 * 1000

/-! ### Configuration and market data -/

/-- What the measurements are configured with, besides the thresholds. -/
structure PairMarketConfig extends PairConfig where
  spreadWindowSec : ℤ
  tradeWindowSec : ℤ
  volWindowSec : ℤ
  depthBandBps : ℚ
  maxTotalSlippageBps : ℚ
  bootstrapFeeEntryBps : ℚ
  bootstrapFeeExitBps : ℚ
  makerOnlyEntry : Bool
  makerRate : ℚ
  takerRate : ℚ
  safetyBufferBps : ℚ
  targetEdgeBps : ℚ
  minFillsForAutocalibration : ℤ

/-- A value of the file: not there, or not a number, or a number. -/
inductive CalibrationValue
  | missing
  | unreadable
  | number (q : ℚ)
  deriving DecidableEq, Repr

/-- What is read of the file of the autocalibration. -/
structure Autocalibration where
  /-- `int(... or 0)` of the number of fills; `none` where that raises. -/
  sampleFills : Option ℤ
  recommendedTotalSlippageBps : CalibrationValue
  recommendedMaxTotalSlippageBps : CalibrationValue
  recommendedFeeEntryBps : CalibrationValue
  recommendedFeeExitBps : CalibrationValue

/-- No file, or one that cannot be read. -/
def Autocalibration.empty : Autocalibration := ⟨some 0, .missing, .missing, .missing, .missing⟩

/-- The market data of one symbol. -/
structure PairMarket where
  orderbook : Option Market.OrderBookAggregate
  levels : Option (List Level × List Level)
  snapshotReady : Bool
  bookTs : Option ℤ
  tradeTs : Option ℤ
  spreadSeries : List (ℤ × ℚ)
  midSeries : List (ℤ × ℚ)
  /-- The times of the public trades. -/
  trades : List ℤ

/-- What the trading state keeps of a symbol; the trades are kept beside the books. -/
def MarketState.pairMarket (s : MarketState) (publicTrades : Dict String (List ℤ))
    (lastTradeUpdateMs : Dict String ℤ) (symbol : String) : PairMarket where
  orderbook := s.orderbooks.get? symbol
  levels := s.orderbookLevels.get? symbol
  snapshotReady := s.isBookSnapshotReady symbol
  bookTs := s.lastBookUpdateMs.get? symbol
  tradeTs := lastTradeUpdateMs.get? symbol
  spreadSeries := (s.spreadBpsHistory.get? symbol).getD []
  midSeries := (s.midHistory.get? symbol).getD []
  trades := (publicTrades.get? symbol).getD []

namespace PairMarket

variable (m : PairMarket)

/-- The bids and asks, empty where there are none. -/
def bids : List Level := (m.levels.map Prod.fst).getD []

def asks : List Level := (m.levels.map Prod.snd).getD []

def bestBid : ℚ := (m.orderbook.map Market.OrderBookAggregate.bestBid).getD 0

def bestAsk : ℚ := (m.orderbook.map Market.OrderBookAggregate.bestAsk).getD 0

def mid : ℚ := (m.orderbook.map Market.OrderBookAggregate.mid).getD 0

end PairMarket

/-! ### Slippage and fees -/

section Costs

variable (c : PairMarketConfig) (a : Autocalibration) (ready : Bool)

/-- `local_max_total_slippage_bps`: the configured bound, or the recommended one. -/
def maxTotalSlippage : ℚ :=
  let configured := max c.maxTotalSlippageBps 0
  let recommended := match a.recommendedTotalSlippageBps with
    | .missing => a.recommendedMaxTotalSlippageBps
    | value => value
  match ready, recommended with
  | true, .number q => max q 0
  | _, _ => configured

/-- The bootstrap fees, or the recommended ones; a fee that cannot be read ends the overriding. -/
def bootstrapFeesBps : ℚ × ℚ :=
  let entry := max c.bootstrapFeeEntryBps 0
  let exit := max c.bootstrapFeeExitBps 0
  if ready = false then (entry, exit)
  else
    match a.recommendedFeeEntryBps with
    | .unreadable => (entry, exit)
    | .missing =>
      match a.recommendedFeeExitBps with
      | .number q => (entry, max q 0)
      | _ => (entry, exit)
    | .number p =>
      match a.recommendedFeeExitBps with
      | .number q => (max p 0, max q 0)
      | _ => (max p 0, exit)

/-- `configured_fee_bps`. -/
def configuredFeeBps : ℚ :=
  if c.makerOnlyEntry then max c.makerRate 0 * 10000 else max c.takerRate 0 * 10000

/-- `fee_entry_bps` and `fee_exit_bps`. -/
def feesBps : ℚ × ℚ :=
  (max (bootstrapFeesBps c a ready).1 (configuredFeeBps c),
    max (bootstrapFeesBps c a ready).2 (configuredFeeBps c))

end Costs

/-- `slippage_buy_bps`: how far a buy is above the best ask; the fallback where there is no such
price. -/
def slippageBuyBps (vwapBuy : Option ℚ) (bestAsk fallback : ℚ) : ℚ :=
  match vwapBuy with
  | some vwap => if 0 < bestAsk then (vwap - bestAsk) / bestAsk * 10000 else fallback
  | none => fallback

/-- `slippage_sell_bps`: how far a sale is below the best bid. -/
def slippageSellBps (vwapSell : Option ℚ) (bestBid fallback : ℚ) : ℚ :=
  match vwapSell with
  | some vwap => if 0 < bestBid then (bestBid - vwap) / bestBid * 10000 else fallback
  | none => fallback

/-! ### One evaluation -/

section Measure

variable (pstdev : List ℚ → ℚ) (c : PairMarketConfig) (a : Autocalibration) (ready : Bool) (now : ℤ)
  (m : PairMarket)

/-- The slippages of both sides. -/
def pairSlippagesBps : ℚ × ℚ :=
  let fallback := maxTotalSlippage c a ready / 2
  let vwapBuy := if m.asks = [] then none else simulateVwapBuy m.asks c.orderNotionalQuote
  let vwapSell := if m.bids = [] then none else simulateVwapSell m.bids c.orderNotionalQuote
  (slippageBuyBps vwapBuy m.bestAsk fallback, slippageSellBps vwapSell m.bestBid fallback)

/-- `min_required_spread_bps`. -/
def minRequiredSpreadBps : ℚ :=
  let fees := feesBps c a ready
  let slippages := pairSlippagesBps c a ready m
  fees.1 + fees.2 + max slippages.1 0 + max slippages.2 0 + c.safetyBufferBps + c.targetEdgeBps

/-- `median_spread_bps`, over the spread window. -/
def medianSpreadBps : ℚ :=
  let spreads := (inWindow now c.spreadWindowSec Prod.fst m.spreadSeries).map Prod.snd
  if spreads = [] then 0 else median spreads

/-- All measurements. -/
def measurePair : PairMeasurements :=
  let trades := inWindow now c.tradeWindowSec id m.trades
  let tradeGaps := gaps trades
  let depth :=
    if m.bids ≠ [] ∧ m.asks ≠ [] ∧ 0 < m.mid then
      depthNearMidQuote m.bids m.asks m.mid c.depthBandBps
    else (0, 0)
  let slippages := pairSlippagesBps c a ready m
  let moves := bpsChangesFromMidSeries (inWindow now c.volWindowSec Prod.fst m.midSeries)
  { snapshotReady := m.snapshotReady
    bookTs := m.bookTs
    tradeTs := m.tradeTs
    hasBook := m.orderbook.isSome
    hasLevels := m.levels.isSome
    tradesPerMin := trades.length * 60 / max (c.tradeWindowSec : ℚ) 1
    p95TradeGapMs := if tradeGaps = [] then none else some (percentile tradeGaps 95)
    maxTradeGapMs := tradeGaps.max?
    depthBidQuote := depth.1
    depthAskQuote := depth.2
    totalSlippageBps := max slippages.1 0 + max slippages.2 0
    maxTotalSlippageBps := maxTotalSlippage c a ready
    liveSpreadBps :=
      if 0 < m.mid ∧ m.bestBid ≤ m.bestAsk then (m.bestAsk - m.bestBid) / m.mid * 10000 else 0
    medianSpreadBps := medianSpreadBps c now m
    minRequiredSpreadBps := minRequiredSpreadBps c a ready m
    vol1sBps := if 2 ≤ moves.length then pstdev moves else 0 }

/-- `evaluate_pair_admission`, from the market data; a number of fills that cannot be read raises. -/
def evaluatePair (s : PairState) : Option (PairAdmissionDecision × PairState) := do
  let sampleFills ← a.sampleFills
  let ready := decide (c.minFillsForAutocalibration ≤ sampleFills)
  return evaluatePairAdmission c.toPairConfig ⟨now, measurePair pstdev c a ready now m⟩ s

end Measure

end Botik
