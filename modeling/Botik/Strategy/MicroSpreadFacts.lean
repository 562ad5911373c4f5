import Botik.Strategy.MicroSpread

/-!
# What the spread strategy quotes

A call of `MicroSpreadStrategy.get_intents` answers a list of slices, each a buy followed by a sale.
The slices of one symbol come from one quote, and which of them have room is decided by the quote
alone.

## Main definitions

* `MicroSpread.Slice`, `Slice.orders` — a slice with its links, and its two orders
* `MicroSpread.HasRoom` — the prices of a slice are usable
* `MicroSpread.IsQuote` — a quote the strategy makes of what it sees

## Main results

* `MicroSpread.exists_slices` — the intents of a call, slice by slice
* `MicroSpread.IsQuote.spec` — what is known of a quote
-/

namespace Botik.MicroSpread

open Program

variable {c : StrategyConfig} {v : TradingView}

/-! ### Slices -/

/-- How far a slice is from the quote. -/
def sliceShift (c : StrategyConfig) (quote : Quote) (idx : ℕ) : ℚ :=
  (idx * tickStep c quote : ℤ) * quote.tickSize

def bidPx (c : StrategyConfig) (quote : Quote) (idx : ℕ) : ℚ :=
  quote.bidPrice - sliceShift c quote idx

def askPx (c : StrategyConfig) (quote : Quote) (idx : ℕ) : ℚ :=
  quote.askPrice + sliceShift c quote idx

/-- The prices of a slice are usable; one without room is left out. -/
def HasRoom (c : StrategyConfig) (quote : Quote) (idx : ℕ) : Prop :=
  0 < bidPx c quote idx ∧ 0 < askPx c quote idx ∧ bidPx c quote idx < askPx c quote idx

instance (c : StrategyConfig) (quote : Quote) : DecidablePred (HasRoom c quote) :=
  fun _ => inferInstanceAs (Decidable (_ ∧ _))

/-- The slices of a quote that have room. -/
def kept (c : StrategyConfig) (quote : Quote) : List ℕ :=
  (List.range (sliceCount c quote)).filter (HasRoom c quote)

theorem mem_kept {quote : Quote} {idx : ℕ} :
    idx ∈ kept c quote ↔ idx < sliceCount c quote ∧ HasRoom c quote idx := by
  simp [kept]

theorem tickStep_pos (quote : Quote) : 0 < tickStep c quote := by
  unfold tickStep
  split_ifs <;> omega

theorem sliceShift_nonneg {quote : Quote} (htick : 0 < quote.tickSize) (idx : ℕ) :
    0 ≤ sliceShift c quote idx := by
  have hstep := (tickStep_pos (c := c) quote).le
  have : (0 : ℤ) ≤ idx * tickStep c quote := mul_nonneg (by omega) hstep
  exact mul_nonneg (by exact_mod_cast this) htick.le

/-- The further a slice is from the quote, the greater its number. -/
theorem sliceShift_lt {quote : Quote} (htick : 0 < quote.tickSize) {idx idx' : ℕ}
    (h : idx < idx') : sliceShift c quote idx < sliceShift c quote idx' := by
  have hstep := tickStep_pos (c := c) quote
  have : (idx * tickStep c quote : ℤ) < idx' * tickStep c quote :=
    mul_lt_mul_of_pos_right (by exact_mod_cast h) hstep
  exact mul_lt_mul_of_pos_right (by exact_mod_cast this) htick

theorem sliceShift_ne {quote : Quote} (htick : 0 < quote.tickSize) {idx idx' : ℕ}
    (h : idx ≠ idx') : sliceShift c quote idx ≠ sliceShift c quote idx' := by
  rcases lt_or_gt_of_ne h with hlt | hgt
  · exact (sliceShift_lt htick hlt).ne
  · exact (sliceShift_lt htick hgt).ne'

/-- A slice with the links of its two orders. -/
structure Slice where
  quote : Quote
  idx : ℕ
  bidLink : String
  askLink : String

namespace Slice

/-- The buy of a slice. -/
def buy (c : StrategyConfig) (s : Slice) : OrderIntent :=
  sideIntent c s.quote "Buy" (bidPx c s.quote s.idx) s.bidLink

/-- The sale of a slice. -/
def sale (c : StrategyConfig) (s : Slice) : OrderIntent :=
  sideIntent c s.quote "Sell" (askPx c s.quote s.idx) s.askLink

def orders (c : StrategyConfig) (s : Slice) : List OrderIntent := [s.buy c, s.sale c]

@[simp] theorem buy_price (s : Slice) : (s.buy c).price = bidPx c s.quote s.idx := rfl

@[simp] theorem sale_price (s : Slice) : (s.sale c).price = askPx c s.quote s.idx := rfl

@[simp] theorem buy_targetProfit (s : Slice) :
    (s.buy c).actionTargetProfit = some s.quote.targetProfit := rfl

@[simp] theorem buy_safetyBuffer (s : Slice) :
    (s.buy c).actionSafetyBuffer = some s.quote.safetyBuffer := rfl

/-- What decides the prices of a slice. -/
def key (s : Slice) : Quote × ℕ := (s.quote, s.idx)

end Slice

theorem mem_flatMap_orders {slices : List Slice} {intent : OrderIntent} :
    intent ∈ slices.flatMap (Slice.orders c) ↔
      ∃ s ∈ slices, intent = s.buy c ∨ intent = s.sale c := by
  simp [Slice.orders]

/-- The orders of a slice stand at two neighbouring places. -/
theorem getElem?_flatMap_orders (slices : List Slice) (n : ℕ) :
    (slices.flatMap (Slice.orders c))[2 * n]? = slices[n]?.map (Slice.buy c) ∧
      (slices.flatMap (Slice.orders c))[2 * n + 1]? = slices[n]?.map (Slice.sale c) := by
  induction slices generalizing n with
  | nil => simp
  | cons s slices ih =>
    cases n with
    | zero => simp [Slice.orders]
    | succ n =>
      have := ih n
      simpa [Slice.orders, Nat.mul_succ, List.getElem?_cons_succ] using this

/-- A slice with room is appended, any other is not. -/
theorem addSlice_eq (quote : Quote) (intents : List OrderIntent) (idx : ℕ) :
    ∃ new : List Slice, addSlice c v quote intents idx = intents ++ new.flatMap (Slice.orders c) ∧
      new.map Slice.key = if HasRoom c quote idx then [(quote, idx)] else [] := by
  by_cases hroom : HasRoom c quote idx
  · refine ⟨[⟨quote, idx, orderLink quote "bid" (v.hex intents.length),
      orderLink quote "ask" (v.hex (intents.length + 1))⟩], ?_, by simp [Slice.key, hroom]⟩
    have hpos := hroom
    simp only [HasRoom, bidPx, askPx, sliceShift] at hpos
    obtain ⟨hbid, hask, horder⟩ := hpos
    unfold addSlice
    simp only [not_le.mpr hbid, not_le.mpr hask, not_le.mpr horder, or_self, if_false]
    rfl
  · refine ⟨[], ?_, by simp [hroom]⟩
    have hneg := hroom
    simp only [HasRoom, bidPx, askPx, sliceShift, not_and_or, not_lt] at hneg
    unfold addSlice
    simp only [if_pos hneg, List.flatMap_nil, List.append_nil]

theorem foldl_addSlice_eq (quote : Quote) (idxs : List ℕ) (intents : List OrderIntent) :
    ∃ new : List Slice,
      idxs.foldl (addSlice c v quote) intents = intents ++ new.flatMap (Slice.orders c) ∧
        new.map Slice.key = (idxs.filter (HasRoom c quote)).map (quote, ·) := by
  induction idxs generalizing intents with
  | nil => exact ⟨[], by simp⟩
  | cons idx idxs ih =>
    obtain ⟨first, hfirst, hkey⟩ := addSlice_eq (c := c) (v := v) quote intents idx
    obtain ⟨rest, hrest, hkeys⟩ := ih (addSlice c v quote intents idx)
    refine ⟨first ++ rest, ?_, ?_⟩
    · rw [List.foldl_cons, hrest, hfirst, List.flatMap_append, List.append_assoc]
    · rw [List.map_append, hkey, hkeys, List.filter_cons]
      split_ifs with hroom
      all_goals simp_all

/-- The slices of a quote follow the intents before. -/
theorem addSlices_eq (quote : Quote) (intents : List OrderIntent) :
    ∃ new : List Slice,
      addSlices c v quote intents = intents ++ new.flatMap (Slice.orders c) ∧
        new.map Slice.key = (kept c quote).map (quote, ·) :=
  foldl_addSlice_eq quote _ intents

/-! ### The scan -/

/-- How far an entry is from its side of the book. -/
def entryShift (tickSize : ℚ) (entryTickOffset : ℤ) : ℚ := max tickSize 0 * max entryTickOffset 0

section Scan

variable {book : Market.OrderBookAggregate} {tickSize : ℚ} {entryTickOffset : ℤ}
  {buyFee sellFee targetProfit safetyBuffer minTopBookQty : ℚ}

/-- What is known of a spread that is accepted. -/
structure ScanSpec (book : Market.OrderBookAggregate) (shift buyFee sellFee required : ℚ) : Prop where
  bestBid_pos : 0 < book.bestBid
  bestBid_lt_bestAsk : book.bestBid < book.bestAsk
  exit_pos : 0 < book.bestAsk - shift
  entry_lt_exit : book.bestBid + shift < book.bestAsk - shift
  edge : required <
    computeNetEdge (book.bestBid + shift) (book.bestAsk - shift) buyFee sellFee

theorem scanSpread_spec
    (h : (scanSpread book tickSize entryTickOffset buyFee sellFee targetProfit safetyBuffer
      minTopBookQty).tradable = true) :
    ScanSpec book (entryShift tickSize entryTickOffset) buyFee sellFee
        (targetProfit + safetyBuffer) ∧
      (scanSpread book tickSize entryTickOffset buyFee sellFee targetProfit safetyBuffer
        minTopBookQty).entryPrice = book.bestBid + entryShift tickSize entryTickOffset ∧
      (scanSpread book tickSize entryTickOffset buyFee sellFee targetProfit safetyBuffer
        minTopBookQty).exitPrice = book.bestAsk - entryShift tickSize entryTickOffset := by
  unfold scanSpread at h ⊢
  dsimp only at h ⊢
  split_ifs at h ⊢ with htop hqty hprices hedge
  · simp only [not_or, not_le] at htop hprices
    exact ⟨⟨htop.1, htop.2.2, hprices.2.1, hprices.2.2, hedge⟩, rfl, rfl⟩
  · exact absurd (of_decide_eq_true h) hedge

end Scan

/-! ### Quotes -/

/-- The quote of a symbol with this book, on the grid of ticks, whether it is made or not. -/
def candidate (c : StrategyConfig) (v : TradingView) (symbol : String)
    (book : Market.OrderBookAggregate) : Quote :=
  let (profileId, profile) := activeProfile c v symbol
  let tickSize := c.tickSizeOf v symbol
  let entryTickOffset := (profile.map ActionProfile.entryTickOffset).getD c.entryTickOffset
  { symbol := symbol
    bidPrice := snap tickSize (book.bestBid + entryShift tickSize entryTickOffset)
    askPrice := snap tickSize (book.bestAsk - entryShift tickSize entryTickOffset)
    tickSize := tickSize
    orderQty := orderQty c book profile
    entryTickOffset := entryTickOffset
    targetProfit := (profile.map ActionProfile.targetProfit).getD c.targetProfit
    safetyBuffer := (profile.map ActionProfile.safetyBuffer).getD c.safetyBuffer
    profileId := profileId
    profile := profile
    spikeTrigger := spikeTrigger c v symbol }

/-- What is known of a quote that is made. -/
structure QuoteSpec (c : StrategyConfig) (v : TradingView) (quote : Quote)
    (book : Market.OrderBookAggregate) : Prop where
  orderbook : v.orderbook quote.symbol = some book
  eq_candidate : quote = candidate c v quote.symbol book
  scan : ScanSpec book (entryShift quote.tickSize quote.entryTickOffset)
    (feeRate c c.bootstrapFeeEntryBps) (feeRate c c.bootstrapFeeExitBps)
    (quote.targetProfit + quote.safetyBuffer)
  bid_pos : 0 < quote.bidPrice
  bid_lt_ask : quote.bidPrice < quote.askPrice
  bid_lt_bestAsk : quote.bidPrice < book.bestAsk
  bestBid_lt_ask : book.bestBid < quote.askPrice

/-- A quote the strategy makes of what it sees. -/
def IsQuote (c : StrategyConfig) (v : TradingView) (quote : Quote) : Prop :=
  ∃ book, QuoteSpec c v quote book

theorem snapQuote_eq_some {book : Market.OrderBookAggregate} {quote quote' : Quote}
    {scan : SpreadScanResult} (h : snapQuote book quote scan = .ok (some quote')) :
    quote' = { quote with
        bidPrice := snap quote.tickSize scan.entryPrice
        askPrice := snap quote.tickSize scan.exitPrice } ∧
      0 < quote'.bidPrice ∧ quote'.bidPrice < quote'.askPrice ∧
      quote'.bidPrice < book.bestAsk ∧ book.bestBid < quote'.askPrice := by
  unfold snapQuote at h
  dsimp only at h
  split_ifs at h with htick hprices htake
  · cases h
  · cases h
  · simp only [not_or, not_le] at hprices htake
    cases h
    exact ⟨rfl, hprices.1, hprices.2.2, htake⟩

/-- A symbol that is quoted has cooled down, and its quote is known from what the strategy sees. -/
theorem quoteOf_eq_some {last : ℚ} {symbol : String} {quote : Quote}
    (h : quoteOf c v last symbol = .ok (some quote)) :
    quote.symbol = symbol ∧ c.replaceIntervalMs / 1000 ≤ v.clock - last ∧ IsQuote c v quote := by
  unfold quoteOf at h
  cases hbook : v.orderbook symbol with
  | none => simp [hbook] at h
  | some book =>
    simp only [hbook] at h
    split_ifs at h with hticks hspread hcool hscan
    · cases h
    · cases h
    · cases h
    · obtain ⟨hspec, hentry, hexit⟩ := scanSpread_spec hscan
      obtain ⟨rfl, hpos, horder, hask, hbid⟩ := snapQuote_eq_some h
      refine ⟨rfl, not_lt.mp hcool, book, ?_⟩
      simp only [hentry, hexit] at hpos horder hask hbid ⊢
      exact
        { orderbook := hbook
          eq_candidate := rfl
          scan := hspec
          bid_pos := hpos
          bid_lt_ask := horder
          bid_lt_bestAsk := hask
          bestBid_lt_ask := hbid }
    · cases h

/-- The strategy makes one quote of a symbol. -/
theorem IsQuote.unique {quote quote' : Quote} (h : IsQuote c v quote) (h' : IsQuote c v quote')
    (hsymbol : quote.symbol = quote'.symbol) : quote = quote' := by
  obtain ⟨book, hq⟩ := h
  obtain ⟨book', hq'⟩ := h'
  have hbook := hq.orderbook
  rw [hsymbol, hq'.orderbook] at hbook
  obtain rfl := Option.some.inj hbook
  rw [hq.eq_candidate, hq'.eq_candidate, hsymbol]

/-! ### A whole call -/

/-- The quotes of the symbols that are left, and their slices; a symbol just quoted is passed over
while its interval lasts. -/
theorem exists_slices_quoteSymbols {symbols : List String} {before intents : List OrderIntent}
    {times times' : String → ℚ}
    (hrun : quoteSymbols c v symbols before times = .ok intents times') :
    ∃ (quotes : List Quote) (slices : List Slice),
      intents = before ++ slices.flatMap (Slice.orders c) ∧
        slices.map Slice.key = quotes.flatMap (fun q => (kept c q).map (q, ·)) ∧
        (∀ q ∈ quotes, IsQuote c v q ∧
          (c.replaceIntervalMs : ℚ) / 1000 ≤ v.clock - times q.symbol) ∧
        (quotes.map Quote.symbol).Sublist symbols ∧
        (0 < c.replaceIntervalMs → (quotes.map Quote.symbol).Nodup) := by
  induction symbols generalizing before times with
  | nil =>
    cases hrun
    exact ⟨[], [], by simp⟩
  | cons symbol symbols ih =>
    unfold quoteSymbols at hrun
    obtain ⟨last, times₁, hget, hrun⟩ := bind_eq_ok hrun
    cases hget
    obtain ⟨quote, times₂, hquote, hrun⟩ := bind_eq_ok hrun
    obtain ⟨hquote, rfl⟩ := fromExcept_eq_ok hquote
    cases quote with
    | none =>
      -- a symbol without a quote leaves the times as they were
      obtain ⟨quotes, slices, hintents, hkeys, hquotes, hsub, hnodup⟩ := ih hrun
      exact ⟨quotes, slices, hintents, hkeys, hquotes, hsub.cons _, hnodup⟩
    | some quote =>
      obtain ⟨⟨⟩, times₃, hkeep, hrun⟩ := bind_eq_ok hrun
      cases hkeep
      obtain ⟨hsymbol, hcool, hmade⟩ := quoteOf_eq_some hquote
      obtain ⟨new, hnew, hnewKeys⟩ := addSlices_eq (c := c) (v := v) quote before
      obtain ⟨quotes, slices, hintents, hkeys, hquotes, hsub, hnodup⟩ := ih hrun
      subst hsymbol
      refine ⟨quote :: quotes, new ++ slices, ?_, ?_, ?_, ?_, ?_⟩
      · rw [hintents, hnew, List.flatMap_append, List.append_assoc]
      · rw [List.map_append, hnewKeys, hkeys, List.flatMap_cons]
      · intro q hq
        rcases List.mem_cons.mp hq with rfl | hq
        · exact ⟨hmade, hcool⟩
        · obtain ⟨hisQuote, hlater⟩ := hquotes q hq
          refine ⟨hisQuote, ?_⟩
          -- only the time of the quoted symbol was moved
          by_cases hsame : q.symbol = quote.symbol
          · rwa [hsame]
          · simpa only [Function.update_of_ne hsame] using hlater
      · exact hsub.cons_cons _
      · intro hpos
        refine List.nodup_cons.mpr ⟨?_, hnodup hpos⟩
        -- a second quote of the symbol would come within the interval
        intro hmem
        obtain ⟨q, hq, hsame⟩ := List.mem_map.mp hmem
        have hagain := (hquotes q hq).2
        simp only [hsame, Function.update_self, sub_self] at hagain
        have : (0 : ℚ) < c.replaceIntervalMs / 1000 := by positivity
        linarith

/-- The intents are the slices of the quotes, in their order. -/
structure Sliced (c : StrategyConfig) (v : TradingView) (intents : List OrderIntent)
    (quotes : List Quote) (slices : List Slice) : Prop where
  intents_eq : intents = slices.flatMap (Slice.orders c)
  keys_eq : slices.map Slice.key = quotes.flatMap fun q => (kept c q).map (q, ·)
  isQuote : ∀ q ∈ quotes, IsQuote c v q
  nodup : (c.symbolsOf v).Nodup ∨ 0 < c.replaceIntervalMs → (quotes.map Quote.symbol).Nodup

theorem exists_slices {intents : List OrderIntent} {times times' : String → ℚ}
    (hrun : getIntents c v times = .ok intents times') :
    ∃ quotes slices, Sliced c v intents quotes slices := by
  unfold getIntents at hrun
  split_ifs at hrun with hpaused
  · cases hrun
    exact ⟨[], [], by simp, by simp, by simp, by simp⟩
  · obtain ⟨quotes, slices, hintents, hkeys, hquotes, hsub, hnodup⟩ :=
      exists_slices_quoteSymbols hrun
    refine ⟨quotes, slices, by simpa using hintents, hkeys, fun q hq => (hquotes q hq).1, ?_⟩
    rintro (hsymbols | hpos)
    · exact hsymbols.sublist hsub
    · exact hnodup hpos

/-- What a call answers when nothing has been quoted before. -/
def firstIntents (c : StrategyConfig) (v : TradingView) : List OrderIntent :=
  match getIntents c v fun _ => 0 with
  | .ok intents _ => intents
  | .error _ _ => []

theorem getIntents_of_firstIntents_ne (h : firstIntents c v ≠ []) :
    ∃ times, getIntents c v (fun _ => 0) = .ok (firstIntents c v) times := by
  unfold firstIntents at h ⊢
  cases hrun : getIntents c v fun _ => 0 with
  | ok intents times => exact ⟨times, rfl⟩
  | error e times => simp [hrun] at h

namespace Sliced

variable {intents : List OrderIntent} {quotes : List Quote} {slices : List Slice}

theorem key_mem_iff (h : Sliced c v intents quotes slices) {q : Quote} {idx : ℕ} :
    (q, idx) ∈ slices.map Slice.key ↔ q ∈ quotes ∧ idx ∈ kept c q := by
  rw [h.keys_eq]
  simp only [List.mem_flatMap, List.mem_map, Prod.mk.injEq]
  constructor
  · rintro ⟨q', hq', idx', hidx, rfl, rfl⟩
    exact ⟨hq', hidx⟩
  · rintro ⟨hq, hidx⟩
    exact ⟨q, hq, idx, hidx, rfl, rfl⟩

/-- A slice that is answered is one of a quote, and has room. -/
theorem of_mem (h : Sliced c v intents quotes slices) {s : Slice} (hs : s ∈ slices) :
    s.quote ∈ quotes ∧ s.idx ∈ kept c s.quote :=
  h.key_mem_iff.mp (List.mem_map_of_mem hs)

/-- Every slice with room of a quote is answered. -/
theorem exists_mem (h : Sliced c v intents quotes slices) {q : Quote} {idx : ℕ} (hq : q ∈ quotes)
    (hidx : idx ∈ kept c q) : ∃ s ∈ slices, s.quote = q ∧ s.idx = idx := by
  obtain ⟨s, hs, hkey⟩ := List.mem_map.mp (h.key_mem_iff.mpr ⟨hq, hidx⟩)
  exact ⟨s, hs, congrArg Prod.fst hkey, congrArg Prod.snd hkey⟩

/-- The quote of a symbol is known from its book. -/
theorem quote_eq (h : Sliced c v intents quotes slices) {q : Quote}
    {book : Market.OrderBookAggregate} (hq : q ∈ quotes) (hbook : v.orderbook q.symbol = some book) :
    q = candidate c v q.symbol book ∧ QuoteSpec c v q book := by
  obtain ⟨book', hspec⟩ := h.isQuote q hq
  obtain rfl : book' = book := by
    have horderbook := hspec.orderbook
    rw [hbook] at horderbook
    exact (Option.some.inj horderbook).symm
  exact ⟨hspec.eq_candidate, hspec⟩

/-- What holds of the slices of a quoted symbol, from its book alone. -/
theorem forall_slices_iff (h : Sliced c v intents quotes slices) {symbol : String}
    {book : Market.OrderBookAggregate} (hbook : v.orderbook symbol = some book)
    (hquoted : ∃ intent ∈ intents, intent.symbol = symbol) {P : Quote → ℕ → Prop} :
    (∀ s ∈ slices, s.quote.symbol = symbol → P s.quote s.idx) ↔
      ∀ idx ∈ kept c (candidate c v symbol book), P (candidate c v symbol book) idx := by
  have hquote : ∀ s ∈ slices, s.quote.symbol = symbol → s.quote = candidate c v symbol book := by
    intro s hs hsymbol
    have := (h.quote_eq (h.of_mem hs).1 (hsymbol ▸ hbook)).1
    rwa [hsymbol] at this
  constructor
  · intro hall idx hidx
    obtain ⟨intent, hintent, hsymbol⟩ := hquoted
    rw [h.intents_eq] at hintent
    obtain ⟨s, hs, hside⟩ := mem_flatMap_orders.mp hintent
    have hs' : s.quote.symbol = symbol := by
      rcases hside with rfl | rfl
      · exact hsymbol
      · exact hsymbol
    have hmem : candidate c v symbol book ∈ quotes := hquote s hs hs' ▸ (h.of_mem hs).1
    obtain ⟨s', hs', hcandidate, rfl⟩ := h.exists_mem hmem hidx
    rw [← hcandidate]
    exact hall s' hs' (by rw [hcandidate]; rfl)
  · intro hall s hs hsymbol
    rw [hquote s hs hsymbol]
    exact hall s.idx (hquote s hs hsymbol ▸ (h.of_mem hs).2)

/-- Two slices of one symbol are different slices of one quote. -/
theorem pairwise (h : Sliced c v intents quotes slices)
    (hsymbols : (c.symbolsOf v).Nodup ∨ 0 < c.replaceIntervalMs) :
    slices.Pairwise fun s s' => s.quote.symbol = s'.quote.symbol →
      s.quote = s'.quote ∧ s.idx ≠ s'.idx := by
  have hkeys : (slices.map Slice.key).Pairwise fun k k' : Quote × ℕ =>
      k.1.symbol = k'.1.symbol → k.1 = k'.1 ∧ k.2 ≠ k'.2 := by
    rw [h.keys_eq, List.pairwise_flatMap]
    constructor
    · intro q _
      -- the slices of one quote
      rw [List.pairwise_map]
      have hnodup : (kept c q).Nodup := (List.nodup_range).filter _
      exact hnodup.imp fun hne _ => ⟨rfl, hne⟩
    · -- two quotes have different symbols
      refine (List.pairwise_map.mp (h.nodup hsymbols)).imp fun hne => ?_
      intro k hk k' hk' hsame
      obtain ⟨idx, _, rfl⟩ := List.mem_map.mp hk
      obtain ⟨idx', _, rfl⟩ := List.mem_map.mp hk'
      exact absurd hsame hne
  exact List.pairwise_map.mp hkeys

end Sliced

end Botik.MicroSpread
