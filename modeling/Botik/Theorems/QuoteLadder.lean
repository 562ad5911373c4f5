import Botik.Strategy.MicroSpreadFacts

/-!
# The quotes of a symbol

One call of the spread strategy may quote a symbol in several slices, each further from the spread
than the one before. No buy of the symbol reaches a sale of it or the other side of the book, and no
two slices share a price; for this the symbol must be quoted once, which a list of symbols without
repetitions ensures, and so does an interval between two quotes.

The quantity of a quote is the ceiling divided by the middle of the book. An order priced above the
middle is therefore worth more than the ceiling, and the sales of a spread are. The orders of a
symbol stay within the ceiling exactly when no sale of the ladder, times the scale of a burst, is
priced above the middle, and the least quantity is worth no more.

## Main definitions

* `Uncrossed` — orders that rest apart from each other and from the book

## Main results

* `quotes_uncrossed`
* `MicroSpread.withinCeiling_iff`
* `MicroSpread.wideView_above_ceiling` — a plain quote of the default configuration
-/

namespace Botik

/-- Orders that rest on their own side of a book, each at its own price. -/
structure Uncrossed (book : Market.OrderBookAggregate) (intents : List OrderIntent) : Prop where
  buy : ∀ intent ∈ intents, intent.side = "Buy" → 0 < intent.price ∧ intent.price < book.bestAsk
  sale : ∀ intent ∈ intents, intent.side = "Sell" → book.bestBid < intent.price
  buy_lt_sale : ∀ intent ∈ intents, intent.side = "Buy" →
    ∀ intent' ∈ intents, intent'.side = "Sell" → intent.price < intent'.price
  apart : intents.Pairwise fun intent intent' =>
    intent.side = intent'.side → intent.price ≠ intent'.price

theorem uncrossed_iff {book : Market.OrderBookAggregate} {intents : List OrderIntent} :
    Uncrossed book intents ↔
      (∀ intent ∈ intents, intent.side = "Buy" →
        0 < intent.price ∧ intent.price < book.bestAsk) ∧
      (∀ intent ∈ intents, intent.side = "Sell" → book.bestBid < intent.price) ∧
      (∀ intent ∈ intents, intent.side = "Buy" →
        ∀ intent' ∈ intents, intent'.side = "Sell" → intent.price < intent'.price) ∧
      intents.Pairwise fun intent intent' =>
        intent.side = intent'.side → intent.price ≠ intent'.price :=
  ⟨fun h => ⟨h.buy, h.sale, h.buy_lt_sale, h.apart⟩, fun h => ⟨h.1, h.2.1, h.2.2.1, h.2.2.2⟩⟩

instance (book : Market.OrderBookAggregate) (intents : List OrderIntent) :
    Decidable (Uncrossed book intents) := decidable_of_iff' _ uncrossed_iff

namespace MicroSpread

variable {c : StrategyConfig} {v : TradingView} {intents : List OrderIntent}
  {quotes : List Quote} {slices : List Slice}

/-- The slices of a symbol are those of its quote. -/
theorem filter_orders (slices : List Slice) (symbol : String) :
    (slices.flatMap (Slice.orders c)).filter (·.symbol = symbol) =
      (slices.filter (·.quote.symbol = symbol)).flatMap (Slice.orders c) := by
  induction slices with
  | nil => rfl
  | cons s slices ih =>
    by_cases hsymbol : s.quote.symbol = symbol
    · simp [Slice.orders, Slice.buy, Slice.sale, sideIntent, hsymbol, ih]
    · simp [Slice.orders, Slice.buy, Slice.sale, sideIntent, hsymbol, ih]

/-- The slices of one quote do not cross. -/
theorem uncrossed_slices {book : Market.OrderBookAggregate} {quote : Quote}
    (hspec : QuoteSpec c v quote book) (htick : 0 < quote.tickSize) {slices : List Slice}
    (hquote : ∀ s ∈ slices, s.quote = quote ∧ HasRoom c quote s.idx)
    (hapart : slices.Pairwise fun s s' => s.idx ≠ s'.idx) :
    Uncrossed book (slices.flatMap (Slice.orders c)) := by
  have hshift := sliceShift_nonneg (c := c) htick
  refine ⟨?_, ?_, ?_, ?_⟩
  · intro intent hintent hside
    obtain ⟨s, hs, rfl | rfl⟩ := mem_flatMap_orders.mp hintent
    · obtain ⟨rfl, hroom⟩ := hquote s hs
      have hbelow : bidPx c s.quote s.idx ≤ s.quote.bidPrice := sub_le_self _ (hshift _)
      exact ⟨hroom.1, hbelow.trans_lt hspec.bid_lt_bestAsk⟩
    · simp [Slice.sale, sideIntent] at hside
  · intro intent hintent hside
    obtain ⟨s, hs, rfl | rfl⟩ := mem_flatMap_orders.mp hintent
    · simp [Slice.buy, sideIntent] at hside
    · obtain ⟨rfl, hroom⟩ := hquote s hs
      have habove : s.quote.askPrice ≤ askPx c s.quote s.idx := le_add_of_nonneg_right (hshift _)
      exact hspec.bestBid_lt_ask.trans_le habove
  · intro intent hintent hside intent' hintent' hside'
    obtain ⟨s, hs, rfl | rfl⟩ := mem_flatMap_orders.mp hintent
    · obtain ⟨s', hs', rfl | rfl⟩ := mem_flatMap_orders.mp hintent'
      · simp [Slice.buy, sideIntent] at hside'
      · obtain ⟨hq, _⟩ := hquote s hs
        obtain ⟨hq', _⟩ := hquote s' hs'
        calc (s.buy c).price = quote.bidPrice - sliceShift c quote s.idx := by
              rw [← hq]; rfl
          _ ≤ quote.bidPrice := sub_le_self _ (hshift _)
          _ < quote.askPrice := hspec.bid_lt_ask
          _ ≤ quote.askPrice + sliceShift c quote s'.idx := le_add_of_nonneg_right (hshift _)
          _ = (s'.sale c).price := by rw [← hq']; rfl
    · simp [Slice.sale, sideIntent] at hside
  · rw [List.pairwise_flatMap]
    constructor
    · intro s _
      -- a slice has two sides
      simp [Slice.orders, Slice.buy, Slice.sale, sideIntent]
    · refine hapart.imp_of_mem fun {s s'} hs hs' hne intent hintent intent' hintent' hside => ?_
      obtain ⟨hq, _⟩ := hquote s hs
      obtain ⟨hq', _⟩ := hquote s' hs'
      have hshifts := sliceShift_ne (c := c) htick hne
      simp only [Slice.orders, List.mem_cons, List.not_mem_nil, or_false] at hintent hintent'
      rcases hintent with rfl | rfl <;> rcases hintent' with rfl | rfl
      · simpa [Slice.buy, sideIntent, bidPx, hq, hq'] using hshifts
      · simp [Slice.buy, Slice.sale, sideIntent] at hside
      · simp [Slice.buy, Slice.sale, sideIntent] at hside
      · simpa [Slice.sale, sideIntent, askPx, hq, hq'] using hshifts

/-- What a call answers for a symbol does not cross, if the symbols are not repeated or a quote is
kept for some time. -/
theorem quotes_uncrossed {book : Market.OrderBookAggregate} {symbol : String}
    {times times' : String → ℚ} (hsymbols : (c.symbolsOf v).Nodup ∨ 0 < c.replaceIntervalMs)
    (htick : 0 < c.tickSizeOf v symbol) (hbook : v.orderbook symbol = some book)
    (hrun : getIntents c v times = .ok intents times') :
    Uncrossed book (intents.filter (·.symbol = symbol)) := by
  obtain ⟨quotes, slices, hsliced⟩ := exists_slices hrun
  rw [hsliced.intents_eq, filter_orders]
  have hmem : ∀ s ∈ slices.filter (·.quote.symbol = symbol),
      s ∈ slices ∧ s.quote.symbol = symbol := fun s hs => by simpa using hs
  cases hfirst : slices.filter (·.quote.symbol = symbol) with
  | nil => exact ⟨by simp, by simp, by simp, by simp⟩
  | cons first rest =>
    rw [← hfirst]
    obtain ⟨hslice, hsymbol⟩ := hmem first (by simp [hfirst])
    have hisQuote := hsliced.isQuote _ (hsliced.of_mem hslice).1
    obtain ⟨book', hspec⟩ := hisQuote
    have hsame : book' = book := by
      have := hspec.orderbook
      rw [hsymbol, hbook] at this
      exact (Option.some.inj this).symm
    subst hsame
    have htick' : 0 < first.quote.tickSize := by
      rw [hspec.eq_candidate, hsymbol]
      exact htick
    refine uncrossed_slices hspec htick' (fun s hs => ?_) ?_
    · obtain ⟨hin, hs⟩ := hmem s hs
      have hunique := (hsliced.isQuote _ (hsliced.of_mem hin).1).unique ⟨_, hspec⟩
        (hs.trans hsymbol.symm)
      exact ⟨hunique, hunique ▸ (mem_kept.mp (hsliced.of_mem hin).2).2⟩
    · refine ((hsliced.pairwise hsymbols).filter _).imp_of_mem fun {s s'} hs hs' h => ?_
      exact (h ((hmem s hs).2.trans (hmem s' hs').2.symm)).2

/-! ### One book -/

/-- The view of a strategy with one book, whose symbol neither spikes nor has a profile. -/
def quietView (activeSymbols : List String) (book : Market.OrderBookAggregate) (tickSize : ℚ) :
    TradingView where
  paused := false
  activeSymbols := activeSymbols
  scannerReady := false
  orderbook := fun symbol => if symbol = book.symbol then some book else none
  pairFilter := fun _ => none
  activeProfileId := fun _ => none
  tickSize := fun _ => some tickSize
  clock := 1000
  hex := fun _ => "0123456789ab"

/-- A book of bitcoin with one level on each side. -/
def bookOf (bestBid bestAsk : ℚ) : Market.OrderBookAggregate where
  symbol := "BTCUSDT"
  bestBid := bestBid
  bestAsk := bestAsk
  mid := (bestBid + bestAsk) / 2
  spreadTicks := 10
  imbalanceTopN := 0
  bestBidSize := 1
  bestAskSize := 1
  tsMs := 0

/-- A spread of ten ticks. -/
def wideView (activeSymbols : List String) : TradingView :=
  quietView activeSymbols (bookOf 100 101) (1 / 10)

/-- The price of the symbol spikes up, so that its quotes are sliced. -/
def spikeView : TradingView :=
  { wideView ["BTCUSDT"] with pairFilter := fun _ => some ⟨some 1, some 20⟩ }

/-- The four slices of a burst rest apart. -/
theorem spikeView_uncrossed :
    ∃ intents times,
      getIntents (.default ["BTCUSDT"]) spikeView (fun _ => 0) = .ok intents times ∧
      (intents.filter (·.side = "Buy")).map OrderIntent.price =
        [1001 / 10, 1000 / 10, 999 / 10, 998 / 10] ∧
      (intents.filter (·.side = "Sell")).map OrderIntent.price =
        [1009 / 10, 1010 / 10, 1011 / 10, 1012 / 10] ∧
      Uncrossed (bookOf 100 101) (intents.filter (·.symbol = "BTCUSDT")) := by
  obtain ⟨times, hrun⟩ := getIntents_of_firstIntents_ne (c := .default ["BTCUSDT"])
    (v := spikeView) (by decide +kernel)
  exact ⟨_, times, hrun, by decide +kernel, by decide +kernel,
    quotes_uncrossed (Or.inr (by decide)) (by decide +kernel) rfl hrun⟩

/-- A symbol that is configured twice, with no interval between two quotes. -/
def configuredTwice : StrategyConfig :=
  { StrategyConfig.default ["BTCUSDT", "BTCUSDT"] with replaceIntervalMs := 0 }

/-- Without active symbols the configured ones are quoted, here twice at one price. -/
theorem configuredTwice_not_uncrossed :
    (wideView []).activeSymbols.Nodup ∧ 0 < configuredTwice.tickSizeOf (wideView []) "BTCUSDT" ∧
      ∃ intents times,
        getIntents configuredTwice (wideView []) (fun _ => 0) = .ok intents times ∧
        intents.map (fun intent => (intent.side, intent.price)) =
          [("Buy", 1001 / 10), ("Sell", 1009 / 10), ("Buy", 1001 / 10), ("Sell", 1009 / 10)] ∧
        ¬ Uncrossed (bookOf 100 101) (intents.filter (·.symbol = "BTCUSDT")) := by
  obtain ⟨times, hrun⟩ := getIntents_of_firstIntents_ne (c := configuredTwice)
    (v := wideView []) (by decide +kernel)
  exact ⟨List.nodup_nil, by decide +kernel, _, times, hrun, by decide +kernel, by decide +kernel⟩

/-! ### The ceiling of an order -/

section Ceiling

variable {c : StrategyConfig} {v : TradingView} {symbol : String}
  {book : Market.OrderBookAggregate}

/-- The greatest notional of an order. -/
def ceiling (c : StrategyConfig) : ℚ := max c.maxOrderNotionalUsdt 1

/-- How much of the quantity a slice has. -/
def sliceScale (c : StrategyConfig) (quote : Quote) : ℚ :=
  if quote.spikeTrigger then max c.spikeBurstQtyScale (1 / 100) else 1

/-- The least quantity of an order. -/
def leastQty : ℚ := 1 / 10 ^ 12

theorem ceiling_pos : 0 < ceiling c := lt_max_of_lt_right one_pos

theorem sliceScale_pos (quote : Quote) : 0 < sliceScale c quote := by
  unfold sliceScale
  split_ifs
  · exact lt_max_of_lt_right (by norm_num)
  · exact one_pos

/-- The quantity of a slice, at a positive middle. -/
theorem qtyPerSlice_candidate (hmid : 0 < book.mid) :
    qtyPerSlice c (candidate c v symbol book) =
      max (ceiling c / book.mid * sliceScale c (candidate c v symbol book))
        (leastQty * max (sliceScale c (candidate c v symbol book)) 1) := by
  have hqty : (candidate c v symbol book).orderQty = max (ceiling c / book.mid) leastQty := by
    change orderQty c book _ = _
    unfold orderQty
    dsimp only
    rw [if_pos hmid, if_pos hmid]
    rfl
  have hscale := (sliceScale_pos (c := c) (candidate c v symbol book)).le
  unfold qtyPerSlice
  rw [hqty]
  unfold sliceScale at hscale ⊢
  split_ifs at hscale ⊢ with hspike
  · have hleast : leastQty * max (max c.spikeBurstQtyScale (1 / 100)) 1 =
        max (leastQty * max c.spikeBurstQtyScale (1 / 100)) leastQty := by
      rw [mul_max_of_nonneg _ _ (by norm_num [leastQty]), mul_one]
    rw [hleast, ← max_assoc, ← max_mul_of_nonneg _ _ hscale]
    rfl
  · rw [mul_one, max_self, mul_one]

/-- A price at which a slice is worth no more than the ceiling. -/
theorem price_mul_qty_le_iff (hmid : 0 < book.mid) {price : ℚ} (hprice : 0 < price) :
    price * qtyPerSlice c (candidate c v symbol book) ≤ ceiling c ↔
      price * sliceScale c (candidate c v symbol book) ≤ book.mid ∧
        price * (leastQty * max (sliceScale c (candidate c v symbol book)) 1) ≤ ceiling c := by
  have hceiling := ceiling_pos (c := c)
  rw [qtyPerSlice_candidate hmid, mul_max_of_nonneg _ _ hprice.le, max_le_iff]
  refine and_congr_left fun _ => ?_
  have hregroup : price * (ceiling c / book.mid * sliceScale c (candidate c v symbol book)) =
      ceiling c * (price * sliceScale c (candidate c v symbol book)) / book.mid := by ring
  rw [hregroup, div_le_iff₀ hmid, mul_le_mul_iff_right₀ hceiling]

/-- The orders of a symbol are worth no more than the ceiling. -/
def WithinCeiling (c : StrategyConfig) (symbol : String) (intents : List OrderIntent) : Prop :=
  ∀ intent ∈ intents, intent.symbol = symbol → intent.price * intent.qty ≤ ceiling c

instance (c : StrategyConfig) (symbol : String) (intents : List OrderIntent) :
    Decidable (WithinCeiling c symbol intents) := List.decidableBAll _ _

theorem withinCeiling_iff_slices (slices : List Slice) :
    WithinCeiling c symbol (slices.flatMap (Slice.orders c)) ↔
      ∀ s ∈ slices, s.quote.symbol = symbol →
        bidPx c s.quote s.idx * qtyPerSlice c s.quote ≤ ceiling c ∧
          askPx c s.quote s.idx * qtyPerSlice c s.quote ≤ ceiling c := by
  constructor
  · intro h s hs hsymbol
    exact ⟨h _ (mem_flatMap_orders.mpr ⟨s, hs, Or.inl rfl⟩) hsymbol,
      h _ (mem_flatMap_orders.mpr ⟨s, hs, Or.inr rfl⟩) hsymbol⟩
  · intro h intent hintent hsymbol
    obtain ⟨s, hs, rfl | rfl⟩ := mem_flatMap_orders.mp hintent
    · exact (h s hs hsymbol).1
    · exact (h s hs hsymbol).2

/-- The orders of a quoted symbol stay within the ceiling exactly when the sale of every slice does:
its price, scaled, is at most the middle, and the least quantity costs no more than the ceiling. -/
theorem withinCeiling_iff {intents : List OrderIntent} {times times' : String → ℚ}
    (hbook : v.orderbook symbol = some book) (hmid : 0 < book.mid)
    (hrun : getIntents c v times = .ok intents times')
    (hquoted : ∃ intent ∈ intents, intent.symbol = symbol) :
    WithinCeiling c symbol intents ↔
      ∀ idx ∈ kept c (candidate c v symbol book),
        askPx c (candidate c v symbol book) idx * sliceScale c (candidate c v symbol book) ≤
            book.mid ∧
          askPx c (candidate c v symbol book) idx *
            (leastQty * max (sliceScale c (candidate c v symbol book)) 1) ≤ ceiling c := by
  obtain ⟨quotes, slices, hsliced⟩ := exists_slices hrun
  rw [hsliced.intents_eq, withinCeiling_iff_slices]
  rw [hsliced.forall_slices_iff hbook hquoted (P := fun q idx =>
    bidPx c q idx * qtyPerSlice c q ≤ ceiling c ∧ askPx c q idx * qtyPerSlice c q ≤ ceiling c)]
  refine forall₂_congr fun idx hidx => ?_
  obtain ⟨hbid, hask, horder⟩ := (mem_kept.mp hidx).2
  rw [← price_mul_qty_le_iff hmid hask]
  refine ⟨And.right, fun hsale => ⟨?_, hsale⟩⟩
  -- the buy of a slice is cheaper than its sale
  have hqty : 0 ≤ qtyPerSlice c (candidate c v symbol book) := by
    rw [qtyPerSlice_candidate hmid]
    refine le_max_of_le_right (mul_nonneg (by norm_num [leastQty]) ?_)
    exact le_max_of_le_right zero_le_one
  exact (mul_le_mul_of_nonneg_right horder.le hqty).trans hsale

/-- The slices of a burst are within the ceiling. -/
theorem spikeView_withinCeiling :
    ∃ intents times, getIntents (.default ["BTCUSDT"]) spikeView (fun _ => 0) = .ok intents times ∧
      intents.length = 8 ∧ WithinCeiling (.default ["BTCUSDT"]) "BTCUSDT" intents := by
  obtain ⟨times, hrun⟩ := getIntents_of_firstIntents_ne (c := .default ["BTCUSDT"])
    (v := spikeView) (by decide +kernel)
  have hbook : spikeView.orderbook "BTCUSDT" = some (bookOf 100 101) := rfl
  exact ⟨_, times, hrun, by decide +kernel,
    (withinCeiling_iff hbook (by decide +kernel) hrun (by decide +kernel)).mpr
      (by decide +kernel)⟩

/-- A plain quote is the whole ceiling at the middle, and its sale is above it. -/
theorem wideView_above_ceiling :
    ∃ intents times,
      getIntents (.default ["BTCUSDT"]) (wideView ["BTCUSDT"]) (fun _ => 0) = .ok intents times ∧
        intents.map (fun intent => intent.price * intent.qty) = [2002 / 201, 2018 / 201] ∧
        ceiling (.default ["BTCUSDT"]) = 10 ∧
        ¬ WithinCeiling (.default ["BTCUSDT"]) "BTCUSDT" intents := by
  obtain ⟨times, hrun⟩ := getIntents_of_firstIntents_ne (c := .default ["BTCUSDT"])
    (v := wideView ["BTCUSDT"]) (by decide +kernel)
  exact ⟨_, times, hrun, by decide +kernel, by decide +kernel, by decide +kernel⟩

end Ceiling

end MicroSpread

end Botik
