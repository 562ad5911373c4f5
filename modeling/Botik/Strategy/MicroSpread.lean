import Botik.Main.Intents
import Botik.Strategy.TradingView

/-!
# Quoting the spread

`MicroSpreadStrategy.get_intents`: for every symbol whose spread leaves the required profit after
fees, a resting buy and a resting sale, in several slices while the price spikes.

## Main definitions

* `scanSpread` — `spread_scanner.py`
* `MicroSpread.quoteOf` — the quote of a symbol, if it is quoted now
* `MicroSpread.getIntents`

## Main results

* `MicroSpread.link_of_mem` — every link begins with `mm-` or `spk-`
-/

namespace Botik

open Program

/-! ### The scanner -/

structure SpreadScanResult where
  tradable : Bool
  reason : String
  entryPrice : ℚ
  exitPrice : ℚ
  netEdge : ℚ
  requiredEdge : ℚ
  deriving DecidableEq, Repr

/-- `compute_net_edge`: the profit of buying at one price and selling at the other. -/
def computeNetEdge (entryPrice exitPrice buyFee sellFee : ℚ) : ℚ :=
  if entryPrice ≤ 0 ∨ exitPrice ≤ 0 then -1
  else
    let denominator := entryPrice * (1 + max buyFee 0)
    if denominator ≤ 0 then -1 else exitPrice * (1 - max sellFee 0) / denominator - 1

/-- `scan_spread`, with the tick and its multiple for the entry. -/
def scanSpread (book : Market.OrderBookAggregate) (tickSize : ℚ) (entryTickOffset : ℤ)
    (buyFee sellFee targetProfit safetyBuffer minTopBookQty : ℚ) : SpreadScanResult :=
  let requiredEdge := targetProfit + safetyBuffer
  if book.bestBid ≤ 0 ∨ book.bestAsk ≤ 0 ∨ book.bestAsk ≤ book.bestBid then
    ⟨false, "invalid_top_of_book", 0, 0, -1, requiredEdge⟩
  else
    let tick := max tickSize 0 * max entryTickOffset 0
    let entryPrice := book.bestBid + tick
    let exitPrice := book.bestAsk - tick
    if 0 < minTopBookQty ∧ (book.bestBidSize < minTopBookQty ∨ book.bestAskSize < minTopBookQty) then
      ⟨false, "top_book_liquidity_too_low", entryPrice, exitPrice, -1, requiredEdge⟩
    else if entryPrice ≤ 0 ∨ exitPrice ≤ 0 ∨ exitPrice ≤ entryPrice then
      ⟨false, "invalid_entry_exit_after_tick", entryPrice, exitPrice, -1, requiredEdge⟩
    else
      let netEdge := computeNetEdge entryPrice exitPrice buyFee sellFee
      ⟨requiredEdge < netEdge, if requiredEdge < netEdge then "ok" else "net_edge_below_threshold",
        entryPrice, exitPrice, netEdge, requiredEdge⟩

namespace MicroSpread

/-- Two resting orders around the middle, before they are sliced. -/
structure Quote where
  symbol : String
  bidPrice : ℚ
  askPrice : ℚ
  tickSize : ℚ
  orderQty : ℚ
  entryTickOffset : ℤ
  targetProfit : ℚ
  safetyBuffer : ℚ
  profileId : Option String
  profile : Option ActionProfile
  spikeTrigger : Bool

variable (c : StrategyConfig) (v : TradingView)

/-- The price of the symbol spikes. -/
def spikeTrigger (symbol : String) : Bool :=
  c.spikeBurstEnabled ∧ |v.spikeDirection symbol| = 1 ∧
    max c.spikeThresholdBps 0 ≤ v.spikeStrengthBps symbol

/-- The profile id and the profile of a symbol; a spike has its own, if one is configured. -/
def activeProfile (symbol : String) : Option String × Option ActionProfile :=
  let profileId := c.profileIdOf v symbol
  let profile := c.profileOf profileId
  let spikeProfileId := Text.strip c.spikeProfileId
  if spikeTrigger c v symbol ∧ spikeProfileId ≠ "" then
    (some spikeProfileId, (c.profilesById.get? spikeProfileId).or profile)
  else (profileId, profile)

/-- The quantity of an order of the greatest notional. -/
def orderQty (book : Market.OrderBookAggregate) (profile : Option ActionProfile) : ℚ :=
  let refPrice := if 0 < book.mid then book.mid else book.bestBid
  if 0 < refPrice then max (max c.maxOrderNotionalUsdt 1 / refPrice) (1 / 10 ^ 12)
  else (profile.map ActionProfile.orderQtyBase).getD c.orderQtyBase

/-- The fee of a side; with the strict pair filter it is no less than its bootstrap fee. -/
def feeRate (bootstrapBps : ℚ) : ℚ :=
  if c.strictPairFilter then
    let bootstrap := max bootstrapBps 0 / 10000
    if 0 < bootstrap then max (max c.makerRate 0) bootstrap else max c.makerRate 0
  else c.makerRate

/-- The spread of a book in basis points. -/
def spreadBps (book : Market.OrderBookAggregate) : ℚ :=
  if 0 < book.mid ∧ book.bestBid ≤ book.bestAsk then
    (book.bestAsk - book.bestBid) / book.mid * 10000
  else 0

/-- The quote on the grid of ticks, if it is one and takes nothing. -/
def snapQuote (book : Market.OrderBookAggregate) (quote : Quote) (scan : SpreadScanResult) :
    Except String (Option Quote) :=
  if quote.tickSize = 0 then .error "float division by zero"
  else
    let bidPrice := snap quote.tickSize scan.entryPrice
    let askPrice := snap quote.tickSize scan.exitPrice
    if bidPrice ≤ 0 ∨ askPrice ≤ 0 ∨ askPrice ≤ bidPrice then .ok none
    else if book.bestAsk ≤ bidPrice ∨ askPrice ≤ book.bestBid then .ok none
    else .ok (some { quote with bidPrice := bidPrice, askPrice := askPrice })

/-- The quote of a symbol, if it is quoted now. -/
def quoteOf (lastReplaceTime : ℚ) (symbol : String) : Except String (Option Quote) :=
  match v.orderbook symbol with
  | none => .ok none
  | some book =>
    let (profileId, profile) := activeProfile c v symbol
    let quote : Quote :=
      { symbol := symbol
        bidPrice := 0
        askPrice := 0
        tickSize := c.tickSizeOf v symbol
        orderQty := orderQty c book profile
        entryTickOffset := (profile.map ActionProfile.entryTickOffset).getD c.entryTickOffset
        targetProfit := (profile.map ActionProfile.targetProfit).getD c.targetProfit
        safetyBuffer := (profile.map ActionProfile.safetyBuffer).getD c.safetyBuffer
        profileId := profileId
        profile := profile
        spikeTrigger := spikeTrigger c v symbol }
    if book.spreadTicks < c.minSpreadTicks then .ok none
    else if spreadBps book < max c.minSpreadBps 0 then .ok none
    else if v.clock - lastReplaceTime < c.replaceIntervalMs / 1000 then .ok none
    else
      let scan := scanSpread book quote.tickSize quote.entryTickOffset
        (feeRate c c.bootstrapFeeEntryBps) (feeRate c c.bootstrapFeeExitBps) quote.targetProfit
        quote.safetyBuffer ((profile.map ActionProfile.minTopBookQty).getD c.minTopBookQty)
      if scan.tradable then snapQuote book quote scan else .ok none

/-! ### Slices -/

/-- The number of slices, at most eight. -/
def sliceCount (quote : Quote) : ℕ :=
  if quote.spikeTrigger then (min (max c.spikeBurstSlices 1) 8).toNat else 1

def qtyPerSlice (quote : Quote) : ℚ :=
  if quote.spikeTrigger then
    max (quote.orderQty * max c.spikeBurstQtyScale (1 / 100)) (1 / 10 ^ 12)
  else quote.orderQty

/-- How far two slices are apart, in ticks. -/
def tickStep (quote : Quote) : ℤ := if quote.spikeTrigger then max c.spikeBurstTickStep 1 else 1

/-- The link of an order. -/
def orderLink (quote : Quote) (side hex : String) : String :=
  (if quote.spikeTrigger then "spk" else "mm") ++ "-" ++ quote.symbol ++ "-" ++ side ++ "-" ++ hex

/-- One side of a slice; entries always rest. -/
def sideIntent (quote : Quote) (side : String) (price : ℚ) (link : String) : OrderIntent where
  symbol := quote.symbol
  side := side
  price := price
  qty := qtyPerSlice c quote
  orderLinkId := link
  profileId := quote.profileId
  actionEntryTickOffset := some quote.entryTickOffset
  actionTargetProfit := some quote.targetProfit
  actionSafetyBuffer := some quote.safetyBuffer
  actionStopLossPct := quote.profile.bind ActionProfile.stopLossPct
  actionTakeProfitPct := quote.profile.bind ActionProfile.takeProfitPct
  actionHoldTimeoutSec := quote.profile.bind ActionProfile.holdTimeoutSec
  actionMakerOnly := some true

/-- Append a slice; the random part of a link is numbered by the links made before. -/
def addSlice (quote : Quote) (intents : List OrderIntent) (idx : ℕ) : List OrderIntent :=
  let shift := (idx * tickStep c quote : ℤ) * quote.tickSize
  let bidPx := quote.bidPrice - shift
  let askPx := quote.askPrice + shift
  if bidPx ≤ 0 ∨ askPx ≤ 0 ∨ askPx ≤ bidPx then intents
  else intents ++
    [sideIntent c quote "Buy" bidPx (orderLink quote "bid" (v.hex intents.length)),
      sideIntent c quote "Sell" askPx (orderLink quote "ask" (v.hex (intents.length + 1)))]

/-- All slices of a quote. -/
def addSlices (quote : Quote) (intents : List OrderIntent) : List OrderIntent :=
  (List.range (sliceCount c quote)).foldl (addSlice c v quote) intents

/-- The symbols in turn; a symbol that is quoted is not quoted again for a while. -/
def quoteSymbols : List String → List OrderIntent → StrategyM (List OrderIntent)
  | [], intents => pure intents
  | symbol :: symbols, intents => do
    let lastReplaceTime ← get
    match ← fromExcept (quoteOf c v (lastReplaceTime symbol) symbol) with
    | none => quoteSymbols symbols intents
    | some quote => do
      modify fun times => Function.update times symbol v.clock
      quoteSymbols symbols (addSlices c v quote intents)

/-- `MicroSpreadStrategy.get_intents`. -/
def getIntents : StrategyM (List OrderIntent) :=
  if v.paused then pure [] else quoteSymbols c v (c.symbolsOf v) []

/-! ### Links -/

section Links

variable {c : StrategyConfig} {v : TradingView}

/-- The links the strategy makes. -/
def IsLink (link : String) : Prop :=
  Text.startsWith "mm-" link = true ∨ Text.startsWith "spk-" link = true

/-- No link is one of an exit quote. -/
theorem not_exitQuote {link : String} (h : IsLink link) : Text.startsWith "px-" link = false := by
  unfold IsLink Text.startsWith at h
  unfold Text.startsWith
  rcases h with hmm | hspk
  · obtain ⟨rest, hrest⟩ := List.isPrefixOf_iff_prefix.mp hmm
    rw [← hrest]
    simp [List.isPrefixOf]
  · obtain ⟨rest, hrest⟩ := List.isPrefixOf_iff_prefix.mp hspk
    rw [← hrest]
    simp [List.isPrefixOf]

theorem isLink_orderLink (quote : Quote) (side hex : String) :
    IsLink (orderLink quote side hex) := by
  unfold orderLink IsLink
  cases quote.spikeTrigger with
  | true =>
    right
    unfold Text.startsWith
    simp [String.toList_append]
  | false =>
    left
    unfold Text.startsWith
    simp [String.toList_append]

theorem isLink_addSlice {quote : Quote} {intents : List OrderIntent} {idx : ℕ}
    (h : ∀ intent ∈ intents, IsLink intent.orderLinkId) :
    ∀ intent ∈ addSlice c v quote intents idx, IsLink intent.orderLinkId := by
  unfold addSlice
  dsimp only
  split_ifs with hprices
  · exact h
  · intro intent hintent
    rcases List.mem_append.mp hintent with hbefore | hnew
    · exact h intent hbefore
    · -- both sides of the slice
      simp only [List.mem_cons, List.not_mem_nil, or_false] at hnew
      rcases hnew with rfl | rfl
      · exact isLink_orderLink quote "bid" _
      · exact isLink_orderLink quote "ask" _

theorem isLink_addSlices {quote : Quote} {intents : List OrderIntent}
    (h : ∀ intent ∈ intents, IsLink intent.orderLinkId) :
    ∀ intent ∈ addSlices c v quote intents, IsLink intent.orderLinkId := by
  unfold addSlices
  induction List.range (sliceCount c quote) generalizing intents with
  | nil => exact h
  | cons idx rest ih => exact ih (isLink_addSlice h)

theorem isLink_quoteSymbols {symbols : List String} {before intents : List OrderIntent}
    {times times' : String → ℚ} (h : ∀ intent ∈ before, IsLink intent.orderLinkId)
    (hrun : quoteSymbols c v symbols before times = .ok intents times') :
    ∀ intent ∈ intents, IsLink intent.orderLinkId := by
  induction symbols generalizing before times with
  | nil =>
    cases hrun
    exact h
  | cons symbol symbols ih =>
    unfold quoteSymbols at hrun
    obtain ⟨last, times₁, hget, hrun⟩ := bind_eq_ok hrun
    obtain ⟨quote, times₂, hquote, hrun⟩ := bind_eq_ok hrun
    cases quote with
    | none => exact ih h hrun
    | some quote =>
      obtain ⟨⟨⟩, times₃, hkeep, hrun⟩ := bind_eq_ok hrun
      exact ih (isLink_addSlices h) hrun

/-- Every intent of the strategy has such a link. -/
theorem link_of_mem {intents : List OrderIntent} {times times' : String → ℚ}
    (hrun : getIntents c v times = .ok intents times') :
    ∀ intent ∈ intents, IsLink intent.orderLinkId := by
  unfold getIntents at hrun
  split_ifs at hrun with hpaused
  · cases hrun
    simp
  · exact isLink_quoteSymbols (by simp) hrun

end Links

end MicroSpread

end Botik
