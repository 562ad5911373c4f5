import Botik.Main.TickGrid
import Botik.Marketdata.WsPublic
import Botik.Theorems.QuoteLadder

/-!
# What rounding leaves of the edge

The scanner accepts a spread at its exact prices; the quote is then rounded to the tick on both
sides. A slice keeps the required profit exactly when rounding takes less than the scan had to
spare and the distance of the slice adds. On a grid that holds both prices nothing is taken.

## Main definitions

* `MicroSpread.scanMargin` — what the scan has to spare
* `MicroSpread.roundingLoss`, `MicroSpread.sliceGain` — what rounding takes and a slice adds
* `MicroSpread.KeepsEdge` — every slice of a symbol leaves more than the required profit

## Main results

* `keepsEdge_iff` — when the slices of a symbol keep the edge
* `keepsEdge_of_onGrid` — they do when both prices are multiples of the tick
* `coarseTick_loses_edge` — with the tick inferred from a book, a profit becomes a loss
-/

namespace Botik.MicroSpread

variable {c : StrategyConfig} {v : TradingView} {symbol : String}
  {book : Market.OrderBookAggregate}

/-! ### Prices and profits -/

/-- What a sale leaves after its fee. -/
def saleFactor (c : StrategyConfig) : ℚ := 1 - max (feeRate c c.bootstrapFeeExitBps) 0

/-- What a purchase costs with its fee and the required profit. -/
def buyFactor (c : StrategyConfig) (quote : Quote) : ℚ :=
  (1 + (quote.targetProfit + quote.safetyBuffer)) * (1 + max (feeRate c c.bootstrapFeeEntryBps) 0)

/-- The prices the scanner accepts or refuses. -/
def entryPrice (quote : Quote) (book : Market.OrderBookAggregate) : ℚ :=
  book.bestBid + entryShift quote.tickSize quote.entryTickOffset

def exitPrice (quote : Quote) (book : Market.OrderBookAggregate) : ℚ :=
  book.bestAsk - entryShift quote.tickSize quote.entryTickOffset

/-- What the scan has to spare. -/
def scanMargin (c : StrategyConfig) (quote : Quote) (book : Market.OrderBookAggregate) : ℚ :=
  saleFactor c * exitPrice quote book - buyFactor c quote * entryPrice quote book

/-- What rounding both prices takes. -/
def roundingLoss (c : StrategyConfig) (quote : Quote) (book : Market.OrderBookAggregate) : ℚ :=
  saleFactor c * (exitPrice quote book - snap quote.tickSize (exitPrice quote book)) +
    buyFactor c quote * (snap quote.tickSize (entryPrice quote book) - entryPrice quote book)

/-- What the distance of a slice adds. -/
def sliceGain (c : StrategyConfig) (quote : Quote) (idx : ℕ) : ℚ :=
  (saleFactor c + buyFactor c quote) * sliceShift c quote idx

/-- A profit as a comparison without a division. -/
theorem lt_computeNetEdge_iff {entry exit buyFee sellFee required : ℚ} (hentry : 0 < entry)
    (hexit : 0 < exit) : required < computeNetEdge entry exit buyFee sellFee ↔
      (1 + required) * (1 + max buyFee 0) * entry < (1 - max sellFee 0) * exit := by
  have hfee : 0 < 1 + max buyFee 0 := by
    have := le_max_right buyFee 0
    linarith
  have hcost : 0 < entry * (1 + max buyFee 0) := mul_pos hentry hfee
  unfold computeNetEdge
  rw [if_neg (by simp [hentry, hexit])]
  dsimp only
  rw [if_neg (not_le.mpr hcost), lt_sub_iff_add_lt, lt_div_iff₀ hcost]
  constructor
  · intro h
    linarith
  · intro h
    linarith

/-- The scan spares something, or the spread is refused. -/
theorem scanMargin_pos {quote : Quote} (hspec : QuoteSpec c v quote book) :
    0 < scanMargin c quote book := by
  have hentry : 0 < entryPrice quote book := by
    have hshift : 0 ≤ entryShift quote.tickSize quote.entryTickOffset := by
      unfold entryShift
      exact mul_nonneg (le_max_right _ _) (by exact_mod_cast le_max_right _ _)
    have := hspec.scan.bestBid_pos
    unfold entryPrice
    linarith
  have hedge := (lt_computeNetEdge_iff hentry hspec.scan.exit_pos).mp hspec.scan.edge
  unfold scanMargin buyFactor saleFactor exitPrice
  linarith

/-- The edge of a slice, from the scan. -/
theorem lt_edge_iff {idx : ℕ} (hidx : idx ∈ kept c (candidate c v symbol book)) :
    (candidate c v symbol book).targetProfit + (candidate c v symbol book).safetyBuffer <
        computeNetEdge (bidPx c (candidate c v symbol book) idx)
          (askPx c (candidate c v symbol book) idx) (feeRate c c.bootstrapFeeEntryBps)
          (feeRate c c.bootstrapFeeExitBps) ↔
      roundingLoss c (candidate c v symbol book) book <
        scanMargin c (candidate c v symbol book) book +
          sliceGain c (candidate c v symbol book) idx := by
  obtain ⟨hbid, hask, -⟩ := (mem_kept.mp hidx).2
  rw [lt_computeNetEdge_iff hbid hask]
  have hbidPx : bidPx c (candidate c v symbol book) idx =
      snap (candidate c v symbol book).tickSize (entryPrice (candidate c v symbol book) book) -
        sliceShift c (candidate c v symbol book) idx := rfl
  have haskPx : askPx c (candidate c v symbol book) idx =
      snap (candidate c v symbol book).tickSize (exitPrice (candidate c v symbol book) book) +
        sliceShift c (candidate c v symbol book) idx := rfl
  rw [hbidPx, haskPx]
  unfold roundingLoss scanMargin sliceGain saleFactor buyFactor
  constructor
  · intro h
    linarith
  · intro h
    linarith

/-! ### The slices of a call -/

/-- Every slice of a symbol, a buy and the sale after it, leaves more than the required profit. -/
def KeepsEdge (c : StrategyConfig) (symbol : String) (intents : List OrderIntent) : Prop :=
  ∀ n buy sale, intents[2 * n]? = some buy → intents[2 * n + 1]? = some sale →
    buy.symbol = symbol →
      buy.actionTargetProfit.getD 0 + buy.actionSafetyBuffer.getD 0 <
        computeNetEdge buy.price sale.price (feeRate c c.bootstrapFeeEntryBps)
          (feeRate c c.bootstrapFeeExitBps)

theorem keepsEdge_iff_slices (slices : List Slice) :
    KeepsEdge c symbol (slices.flatMap (Slice.orders c)) ↔
      ∀ s ∈ slices, s.quote.symbol = symbol →
        s.quote.targetProfit + s.quote.safetyBuffer <
          computeNetEdge (bidPx c s.quote s.idx) (askPx c s.quote s.idx)
            (feeRate c c.bootstrapFeeEntryBps) (feeRate c c.bootstrapFeeExitBps) := by
  constructor
  · intro h s hs hsymbol
    obtain ⟨n, hn⟩ := List.mem_iff_getElem?.mp hs
    obtain ⟨hbuy, hsale⟩ := getElem?_flatMap_orders (c := c) slices n
    rw [hn] at hbuy hsale
    simpa using h n (s.buy c) (s.sale c) hbuy hsale hsymbol
  · intro h n buy sale hbuy hsale hsymbol
    obtain ⟨hbuy', hsale'⟩ := getElem?_flatMap_orders (c := c) slices n
    rw [hbuy] at hbuy'
    rw [hsale] at hsale'
    obtain ⟨s, hs, rfl⟩ := Option.map_eq_some_iff.mp hbuy'.symm
    rw [hs] at hsale'
    obtain rfl := Option.some.inj hsale'
    simpa using h s (List.mem_of_getElem? hs) hsymbol

/-- The slices of a quoted symbol keep the edge exactly when rounding takes less than the scan has
to spare and the distance of the slice adds. -/
theorem keepsEdge_iff {intents : List OrderIntent} {times times' : String → ℚ}
    (hbook : v.orderbook symbol = some book)
    (hrun : getIntents c v times = .ok intents times')
    (hquoted : ∃ intent ∈ intents, intent.symbol = symbol) :
    KeepsEdge c symbol intents ↔
      ∀ idx ∈ kept c (candidate c v symbol book),
        roundingLoss c (candidate c v symbol book) book <
          scanMargin c (candidate c v symbol book) book +
            sliceGain c (candidate c v symbol book) idx := by
  obtain ⟨quotes, slices, hsliced⟩ := exists_slices hrun
  rw [hsliced.intents_eq, keepsEdge_iff_slices]
  rw [hsliced.forall_slices_iff hbook hquoted (P := fun q idx =>
    q.targetProfit + q.safetyBuffer < computeNetEdge (bidPx c q idx) (askPx c q idx)
      (feeRate c c.bootstrapFeeEntryBps) (feeRate c c.bootstrapFeeExitBps))]
  exact forall₂_congr fun idx hidx => lt_edge_iff hidx

/-- Each of the four slices of a burst leaves more than the required profit. -/
theorem spikeView_keepsEdge :
    ∃ intents times,
      getIntents (.default ["BTCUSDT"]) spikeView (fun _ => 0) = .ok intents times ∧
        intents.length = 8 ∧ KeepsEdge (.default ["BTCUSDT"]) "BTCUSDT" intents := by
  obtain ⟨times, hrun⟩ := getIntents_of_firstIntents_ne (c := .default ["BTCUSDT"])
    (v := spikeView) (by decide +kernel)
  have hbook : spikeView.orderbook "BTCUSDT" = some (bookOf 100 101) := rfl
  exact ⟨_, times, hrun, by decide +kernel,
    (keepsEdge_iff hbook hrun (by decide +kernel)).mpr (by decide +kernel)⟩

/-! ### Prices on the grid -/

/-- On a grid that holds both prices rounding takes nothing. -/
theorem roundingLoss_of_onGrid {quote : Quote} (htick : 0 < quote.tickSize)
    (hbid : OnGrid quote.tickSize book.bestBid) (hask : OnGrid quote.tickSize book.bestAsk) :
    roundingLoss c quote book = 0 := by
  obtain ⟨m, hm⟩ := hbid
  obtain ⟨n, hn⟩ := hask
  have hshift : entryShift quote.tickSize quote.entryTickOffset =
      (max quote.entryTickOffset 0 : ℤ) * quote.tickSize := by
    unfold entryShift
    rw [max_eq_left htick.le, mul_comm]
  have hentry : OnGrid quote.tickSize (entryPrice quote book) :=
    ⟨m + max quote.entryTickOffset 0, by
      unfold entryPrice
      rw [hm, hshift]
      push_cast
      ring⟩
  have hexit : OnGrid quote.tickSize (exitPrice quote book) :=
    ⟨n - max quote.entryTickOffset 0, by
      unfold exitPrice
      rw [hn, hshift]
      push_cast
      ring⟩
  unfold roundingLoss
  rw [snap_eq_self htick hentry, snap_eq_self htick hexit]
  ring

/-- Slices on such a grid keep the edge, unless a slice further out is worth less. -/
theorem keepsEdge_of_onGrid {intents : List OrderIntent} {times times' : String → ℚ}
    (hbook : v.orderbook symbol = some book) (htick : 0 < c.tickSizeOf v symbol)
    (hrun : getIntents c v times = .ok intents times')
    (hbid : OnGrid (c.tickSizeOf v symbol) book.bestBid)
    (hask : OnGrid (c.tickSizeOf v symbol) book.bestAsk)
    (hfactors : 0 ≤ saleFactor c + buyFactor c (candidate c v symbol book)) :
    KeepsEdge c symbol intents := by
  by_cases hquoted : ∃ intent ∈ intents, intent.symbol = symbol
  · refine (keepsEdge_iff hbook hrun hquoted).mpr fun idx _ => ?_
    have hloss : roundingLoss c (candidate c v symbol book) book = 0 :=
      roundingLoss_of_onGrid htick hbid hask
    have hgain : 0 ≤ sliceGain c (candidate c v symbol book) idx :=
      mul_nonneg hfactors (sliceShift_nonneg htick idx)
    have hmargin : 0 < scanMargin c (candidate c v symbol book) book := by
      obtain ⟨quotes, slices, hsliced⟩ := exists_slices hrun
      obtain ⟨intent, hintent, rfl⟩ := hquoted
      rw [hsliced.intents_eq] at hintent
      obtain ⟨s, hs, hside⟩ := mem_flatMap_orders.mp hintent
      have hsymbol : intent.symbol = s.quote.symbol := by
        rcases hside with rfl | rfl
        · rfl
        · rfl
      rw [hsymbol] at hbook ⊢
      obtain ⟨heq, hspec⟩ := hsliced.quote_eq (hsliced.of_mem hs).1 hbook
      rw [← heq]
      exact scanMargin_pos hspec
    linarith
  · intro n buy sale hbuy _ hsymbol
    exact absurd ⟨buy, List.mem_of_getElem? hbuy, hsymbol⟩ hquoted

/-! ### A coarse tick -/

/-- The levels of a book whose prices are no multiples of their distance. -/
def coarseBids : List Market.Level := [(9998 / 100, 1), (9993 / 100, 1)]

def coarseAsks : List Market.Level := [(10032 / 100, 1), (10037 / 100, 1)]

/-- The tick inferred from these levels. -/
def coarseTick : ℚ := WsPublic.inferTickSize coarseBids coarseAsks (1 / 100)

def coarseBook : Market.OrderBookAggregate where
  symbol := "BTCUSDT"
  bestBid := 9998 / 100
  bestAsk := 10032 / 100
  mid := 10015 / 100
  spreadTicks := 7
  imbalanceTopN := 0
  bestBidSize := 1
  bestAskSize := 1
  tsMs := 0

def coarseView : TradingView := quietView ["BTCUSDT"] coarseBook coarseTick

/-- The default configuration accepts the spread at 100.03 and 100.27 and quotes 100.05 and 100.25,
which loses money after fees. -/
theorem coarseTick_loses_edge :
    WsPublic.aggregateFromBook "BTCUSDT" coarseBids coarseAsks coarseTick 2 0 = some coarseBook ∧
      ∃ intents times,
        getIntents (.default ["BTCUSDT"]) coarseView (fun _ => 0) = .ok intents times ∧
        intents.map OrderIntent.price = [10005 / 100, 10025 / 100] ∧
        computeNetEdge (10005 / 100) (10025 / 100)
          (feeRate (.default ["BTCUSDT"]) (StrategyConfig.default ["BTCUSDT"]).bootstrapFeeEntryBps)
          (feeRate (.default ["BTCUSDT"]) (StrategyConfig.default ["BTCUSDT"]).bootstrapFeeExitBps)
          < 0 ∧
        ¬ KeepsEdge (.default ["BTCUSDT"]) "BTCUSDT" intents := by
  refine ⟨by decide +kernel, ?_⟩
  obtain ⟨times, hrun⟩ := getIntents_of_firstIntents_ne (c := .default ["BTCUSDT"])
    (v := coarseView) (by decide +kernel)
  refine ⟨_, times, hrun, by decide +kernel, by decide +kernel, fun hkeeps => ?_⟩
  have hedge := hkeeps 0 _ _ (List.getElem?_eq_getElem (by decide +kernel))
    (List.getElem?_eq_getElem (by decide +kernel)) (by decide +kernel)
  exact absurd hedge (by decide +kernel)

end Botik.MicroSpread
