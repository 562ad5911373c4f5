import Botik.Strategy.PairMarket
import Botik.Theorems.PairGate

/-!
# A pass can be executed and pays for itself

When depth is missing, the slippage is replaced by a value that passes its own test. The depth that
a pass asks for is taken from levels the walk does not skip, so both walks complete and the
slippages a pass was decided on are measured.

## Main definitions

* `PairMarket.IsPriced` — every level has a price and no negative size
* `PaysForItself` — slippages within their bound, and a spread that covers the costs

## Main results

* `near_mid_le_quoteValue` — the depth near the middle is part of what the levels cost
* `executable_of_allOk` — what the conditions imply
* `pass_is_executable`
-/

namespace Botik

open Market

/-- Every level has a positive price, and a size that is not negative. -/
def PairMarket.IsPriced (m : PairMarket) : Prop := ∀ l ∈ m.bids ++ m.asks, 0 < l.1 ∧ 0 ≤ l.2

section Pass

variable {pstdev : List ℚ → ℚ} {c : PairMarketConfig} {a : Autocalibration} {ready : Bool} {now : ℤ}
  {m : PairMarket} {s s' : PairState} {d : PairAdmissionDecision}

/-- What some of the levels cost is part of what the valid levels cost. -/
theorem sum_filter_le_quoteValue {levels : List Level} {p : Level → Bool}
    (h : ∀ l ∈ levels, 0 < l.1 ∧ 0 ≤ l.2) :
    ((levels.filter p).map fun l => l.1 * l.2).sum ≤ quoteValue levels := by
  induction levels with
  | nil => exact le_rfl
  | cons l levels ih =>
    obtain ⟨⟨hprice, hsize⟩, hrest⟩ := List.forall_mem_cons.mp h
    have hlater := ih hrest
    -- a level of size zero is skipped, and costs nothing
    have hvalue : quoteValue (l :: levels) = l.1 * l.2 + quoteValue levels := by
      rcases hsize.eq_or_lt with hempty | hsize
      · have hskipped : ¬ GreedyFill.IsLevel l := fun hlevel => hlevel.2.ne hempty
        rw [quoteValue_cons_of_neg hskipped, ← hempty, mul_zero, zero_add]
      · exact quoteValue_cons_of_pos ⟨hprice, hsize⟩
    have hcost : 0 ≤ l.1 * l.2 := mul_nonneg hprice.le hsize
    rw [hvalue, List.filter_cons]
    split_ifs
    · rw [List.map_cons, List.sum_cons]
      linarith
    · linarith

/-- The depth near the middle is part of what the levels cost, on both sides. -/
theorem near_mid_le_quoteValue (h : m.IsPriced) (mid band : ℚ) :
    (depthNearMidQuote m.bids m.asks mid band).1 ≤ quoteValue m.bids ∧
      (depthNearMidQuote m.bids m.asks mid band).2 ≤ quoteValue m.asks := by
  unfold depthNearMidQuote
  split_ifs
  · exact ⟨quoteValue_nonneg _, quoteValue_nonneg _⟩
  · exact ⟨sum_filter_le_quoteValue fun l hl => h l (List.mem_append_left _ hl),
      sum_filter_le_quoteValue fun l hl => h l (List.mem_append_right _ hl)⟩

/-- The measured depths are part of what the levels cost. -/
theorem depth_le_quoteValue (h : m.IsPriced) :
    (measurePair pstdev c a ready now m).depthBidQuote ≤ quoteValue m.bids ∧
      (measurePair pstdev c a ready now m).depthAskQuote ≤ quoteValue m.asks := by
  unfold measurePair
  dsimp only
  split_ifs
  · exact near_mid_le_quoteValue h _ _
  · exact ⟨quoteValue_nonneg _, quoteValue_nonneg _⟩

/-- Where the required depth is measured, the walks through both sides complete, and the slippages
are taken from them. -/
theorem executable_of_depth (hnotional : 0 < c.orderNotionalQuote)
    (hmult : 1 ≤ c.minDepthMultiplier) (hpriced : m.IsPriced)
    (hdepth : c.orderNotionalQuote * c.minDepthMultiplier ≤
      (measurePair pstdev c a ready now m).depth) :
    ∃ vwapBuy vwapSell, simulateVwapBuy m.asks c.orderNotionalQuote = some vwapBuy ∧
      simulateVwapSell m.bids c.orderNotionalQuote = some vwapSell ∧
      pairSlippagesBps c a ready m =
        (slippageBuyBps (some vwapBuy) m.bestAsk (maxTotalSlippage c a ready / 2),
          slippageSellBps (some vwapSell) m.bestBid (maxTotalSlippage c a ready / 2)) := by
  have hfloor : c.orderNotionalQuote ≤ c.orderNotionalQuote * c.minDepthMultiplier :=
    le_mul_of_one_le_right hnotional.le hmult
  obtain ⟨hbid, hask⟩ := le_min_iff.mp (hfloor.trans hdepth)
  have hcost : (measurePair pstdev c a ready now m).depthBidQuote ≤ quoteValue m.bids ∧
      (measurePair pstdev c a ready now m).depthAskQuote ≤ quoteValue m.asks :=
    depth_le_quoteValue hpriced
  have hbuy := (simulateVwap_eq hnotional).trans (if_pos (hask.trans hcost.2))
  have hsell := (simulateVwap_eq hnotional).trans (if_pos (hbid.trans hcost.1))
  refine ⟨_, _, hbuy, hsell, ?_⟩
  -- a side without levels costs nothing
  have hsome : ∀ {levels : List Level} {vwap : ℚ},
      simulateVwap levels c.orderNotionalQuote = some vwap → levels ≠ [] := by
    rintro levels vwap h rfl
    have hfits : ¬ c.orderNotionalQuote ≤ quoteValue [] := not_le.mpr hnotional
    rw [simulateVwap_eq hnotional, if_neg hfits] at h
    cases h
  unfold pairSlippagesBps simulateVwapBuy simulateVwapSell
  rw [if_neg (hsome hbuy), if_neg (hsome hsell), hbuy, hsell]

/-- The conditions on slippage and spread, of measurements that meet all conditions. -/
theorem conditions_of_allOk
    (h : (PairEvaluation.mk now (measurePair pstdev c a ready now m)).AllOk c.toPairConfig) :
    (∃ levels, m.levels = some levels) ∧ (∃ book, m.orderbook = some book) ∧
      c.orderNotionalQuote * c.minDepthMultiplier ≤ (measurePair pstdev c a ready now m).depth ∧
      max (pairSlippagesBps c a ready m).1 0 + max (pairSlippagesBps c a ready m).2 0 ≤
        maxTotalSlippage c a ready ∧
      minRequiredSpreadBps c a ready m ≤ medianSpreadBps c now m := by
  obtain ⟨hfresh, hall⟩ := h
  unfold PairEvaluation.StaleData at hfresh
  simp only [not_or] at hfresh
  obtain ⟨-, -, -, hbook, hlevels⟩ := hfresh
  simp only [PairMeasurements.conditions, List.mem_cons, List.not_mem_nil, or_false,
    forall_eq_or_imp, forall_eq] at hall
  obtain ⟨-, -, -, hdepth, hslippage, -, hspread, -⟩ := hall
  exact ⟨Option.ne_none_iff_exists'.mp (by simpa [measurePair] using hlevels),
    Option.ne_none_iff_exists'.mp (by simpa [measurePair] using hbook), of_decide_eq_true hdepth,
    of_decide_eq_true hslippage, of_decide_eq_true hspread⟩

end Pass

/-- Slippages within their bound, and a median spread that covers the fees, the slippages, the
buffer and the target. -/
structure PaysForItself (c : PairMarketConfig) (a : Autocalibration) (ready : Bool) (now : ℤ)
    (m : PairMarket) (slippageBuy slippageSell : ℚ) : Prop where
  slippage : max slippageBuy 0 + max slippageSell 0 ≤ maxTotalSlippage c a ready
  spread : (feesBps c a ready).1 + (feesBps c a ready).2 + max slippageBuy 0 + max slippageSell 0 +
    c.safetyBufferBps + c.targetEdgeBps ≤ medianSpreadBps c now m

/-- In every state of the market whose levels have prices and no negative sizes, a pass means that
both walks complete and that the pair pays for itself at the slippages of these walks. -/
theorem pass_is_executable (pstdev : List ℚ → ℚ) (c : PairMarketConfig) (a : Autocalibration)
    (now : ℤ) (m : PairMarket) (s s' : PairState) (d : PairAdmissionDecision)
    (hnotional : 0 < c.orderNotionalQuote) (hmult : 1 ≤ c.minDepthMultiplier)
    (hpriced : m.IsPriced) (h : evaluatePair pstdev c a now m s = some (d, s'))
    (hpass : d.status = .pass) :
    ∃ bids asks book sampleFills vwapBuy vwapSell, m.levels = some (bids, asks) ∧
      m.orderbook = some book ∧ a.sampleFills = some sampleFills ∧
      simulateVwapBuy asks c.orderNotionalQuote = some vwapBuy ∧
      simulateVwapSell bids c.orderNotionalQuote = some vwapSell ∧
      ∃ slippageBuy slippageSell,
        (0 < book.bestAsk → slippageBuy = (vwapBuy - book.bestAsk) / book.bestAsk * 10000) ∧
        (0 < book.bestBid → slippageSell = (book.bestBid - vwapSell) / book.bestBid * 10000) ∧
        PaysForItself c a (decide (c.minFillsForAutocalibration ≤ sampleFills)) now m slippageBuy
          slippageSell := by
  obtain ⟨sampleFills, hfills, h⟩ := Option.bind_eq_some_iff.mp h
  obtain rfl : (evaluatePairAdmission c.toPairConfig ⟨now, measurePair pstdev c a
      (decide (c.minFillsForAutocalibration ≤ sampleFills)) now m⟩ s).1 = d :=
    congrArg Prod.fst (Option.some.inj h)
  obtain ⟨hok, -⟩ := PairAdmission.gateStatus_eq_pass_iff.mp hpass
  obtain ⟨⟨⟨bids, asks⟩, hlevels⟩, ⟨book, hbook⟩, hdepth, hslippage, hspread⟩ :=
    conditions_of_allOk hok
  obtain ⟨vwapBuy, vwapSell, hbuy, hsell, hslippages⟩ :=
    executable_of_depth hnotional hmult hpriced hdepth
  have hasks : m.asks = asks := by simp [PairMarket.asks, hlevels]
  have hbids : m.bids = bids := by simp [PairMarket.bids, hlevels]
  have hbestAsk : m.bestAsk = book.bestAsk := by simp [PairMarket.bestAsk, hbook]
  have hbestBid : m.bestBid = book.bestBid := by simp [PairMarket.bestBid, hbook]
  unfold minRequiredSpreadBps at hspread
  rw [hslippages] at hslippage hspread
  rw [hasks] at hbuy
  rw [hbids] at hsell
  refine ⟨bids, asks, book, sampleFills, vwapBuy, vwapSell, hlevels, hbook, hfills, hbuy, hsell,
    _, _, fun hask => ?_, fun hbid => ?_, hslippage, hspread⟩
  · rw [hbestAsk, slippageBuyBps, if_pos hask]
  · rw [hbestBid, slippageSellBps, if_pos hbid]

/-! ### An order that needs two levels -/

/-- Orders of fifty, a depth of eight times as much, and no hold. -/
def fiftyDollars : PairMarketConfig where
  maxBookSilenceMs := 2000
  maxTradeSilenceMs := 20000
  minTradesPerMin := 0
  maxP95TradeGapMs := 5000
  maxMaxGapMs := 15000
  orderNotionalQuote := 50
  minDepthMultiplier := 8
  minSpreadBps := 10
  maxVolToSpreadRatio := 6 / 5
  minHoldSeconds := 0
  cooldownSeconds := 60
  spreadWindowSec := 60
  tradeWindowSec := 300
  volWindowSec := 60
  depthBandBps := 100
  maxTotalSlippageBps := 30
  bootstrapFeeEntryBps := 2
  bootstrapFeeExitBps := 2
  makerOnlyEntry := true
  makerRate := 1 / 1000
  takerRate := 1 / 1000
  safetyBufferBps := 1 / 2
  targetEdgeBps := 1
  minFillsForAutocalibration := 20

/-- A best ask of a quarter of a coin, and a second level behind it. -/
def thinAsk : PairMarket where
  orderbook := some ⟨"BTCUSDT", 100, 101, 201 / 2, 100, 0, 10, 1 / 4, 1000⟩
  levels := some ([(100, 10)], [(101, 1 / 4), (203 / 2, 10)])
  snapshotReady := true
  bookTs := some 1000
  tradeTs := some 1000
  spreadSeries := [(500, 90), (1000, 99)]
  midSeries := [(1000, 201 / 2)]
  trades := [200, 1000]

/-- The pair passes, and pays for itself although a buy takes from both asks. -/
theorem thin_ask_is_executable :
    (evaluatePair (fun _ => 0) fiftyDollars .empty 1000 thinAsk .initial).map (·.1.status) =
        some .pass ∧
      ∃ slippageBuy slippageSell,
        PaysForItself fiftyDollars .empty false 1000 thinAsk slippageBuy slippageSell := by
  have hpass : (evaluatePair (fun _ => 0) fiftyDollars .empty 1000 thinAsk .initial).map
      (·.1.status) = some .pass := by decide +kernel
  obtain ⟨⟨d, s'⟩, hd, hstatus⟩ := Option.map_eq_some_iff.mp hpass
  obtain ⟨-, -, -, sampleFills, -, -, -, -, hfills, -, -, slippageBuy, slippageSell, -, -, hpays⟩ :=
    pass_is_executable (fun _ => 0) fiftyDollars .empty 1000 thinAsk .initial s' d
      (by decide +kernel) (by decide +kernel) (by unfold PairMarket.IsPriced; decide +kernel)
      hd hstatus
  obtain rfl := Option.some.inj hfills
  exact ⟨hpass, slippageBuy, slippageSell, hpays⟩

end Botik
