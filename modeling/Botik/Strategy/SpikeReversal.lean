import Botik.Strategy.MicroSpread
import Mathlib.Data.List.Sort

/-!
# Trading against a spike

`SpikeReversalStrategy.get_intents`: for the symbols with the strongest spikes, one order against
the move, or along with it.

## Main definitions

* `SpikeReversal.triggerOf` — the order of a symbol, if it is triggered now
* `SpikeReversal.getIntents`

## Main results

* `SpikeReversal.link_of_mem` — every link begins with `spkrev-`
* `SpikeReversal.not_isLink` — no such link is one of `MicroSpreadStrategy`
-/

namespace Botik

open Program

namespace SpikeReversal

variable (c : StrategyConfig) (v : TradingView)

/-- The symbols by the strength of their spikes, the strongest first. -/
def orderedSymbols : List String :=
  ((c.symbolsOf v).insertionSort fun a b => |v.spikeStrengthBps b| ≤ |v.spikeStrengthBps a|).take
    (max c.spikeReversalMaxSymbols 1).toNat

/-- The strength from which a spike counts. -/
def minStrength : ℚ := max (max c.spikeReversalMinStrengthBps c.spikeThresholdBps) 0

def entryOffset : ℤ := max c.spikeReversalEntryOffsetTicks 0

def makerOnly : Bool := !c.spikeReversalTaker

/-- The side of the order: against the spike, unless the configuration says along. -/
def sideOf (direction : ℤ) : Side :=
  if c.spikeReversalReverse then
    if 0 < direction then .sell else .buy
  else if 0 < direction then .buy else .sell

def tickSize (symbol : String) : ℚ :=
  max (((v.tickSize symbol).filter (· ≠ 0)).getD (max c.defaultTickSize (1 / 10 ^ 12)))
    (1 / 10 ^ 12)

/-- The price of the order on the grid of ticks. -/
def priceOf (book : Market.OrderBookAggregate) (side : Side) (tick : ℚ) : ℚ :=
  snap tick (targetPrice { bestBid := book.bestBid, bestAsk := book.bestAsk, mid := book.mid }
    (entryOffset c * tick) (side = .buy) (makerOnly c))

/-- A resting order that would take. -/
def wouldTake (book : Market.OrderBookAggregate) (side : Side) (price : ℚ) : Bool :=
  makerOnly c ∧ (side = .buy ∧ book.bestAsk ≤ price ∨ side = .sell ∧ price ≤ book.bestBid)

/-- The profile id and the limits of a symbol: those of its profile, or the configured ones. -/
def limitsOf (symbol : String) : Option String × Option ℚ × Option ℚ × Option ℤ :=
  let profileId := c.profileIdOf v symbol
  match c.profileOf profileId with
  | some profile => (profileId, profile.stopLossPct, profile.takeProfitPct, profile.holdTimeoutSec)
  | none =>
    (profileId, some c.stopLossPct, some c.takeProfitPct, some c.positionHoldTimeoutSec)

/-- The order of a symbol. -/
def spikeIntent (symbol : String) (side : Side) (price : ℚ) (hex : String) : OrderIntent :=
  let (profileId, stopLossPct, takeProfitPct, holdTimeoutSec) := limitsOf c v symbol
  { symbol := symbol
    side := side.text
    price := price
    qty := max (max c.orderNotionalQuote 1 * max c.spikeReversalQtyScale (1 / 100) / price)
      (1 / 10 ^ 12)
    orderLinkId := "spkrev-" ++ symbol ++ "-" ++ hex
    profileId := profileId
    actionEntryTickOffset := some (entryOffset c)
    actionTargetProfit := some c.targetProfit
    actionSafetyBuffer := some c.safetyBuffer
    actionStopLossPct := stopLossPct
    actionTakeProfitPct := takeProfitPct
    actionHoldTimeoutSec := holdTimeoutSec
    actionMakerOnly := some (makerOnly c) }

/-- The side and the price of the order of a symbol, if it is triggered now. -/
def triggerOf (lastTrigger : ℚ) (symbol : String) : Option (Side × ℚ) :=
  match v.orderbook symbol with
  | none => none
  | some book =>
    if book.bestBid ≤ 0 ∨ book.bestAsk ≤ 0 ∨ book.bestAsk ≤ book.bestBid then none
    else if |v.spikeDirection symbol| ≠ 1 ∨ v.spikeStrengthBps symbol < minStrength c then none
    else if v.clock - lastTrigger < max c.spikeReversalCooldownSec (1 / 10) then none
    else
      let side := sideOf c (v.spikeDirection symbol)
      let price := priceOf c book side (tickSize c v symbol)
      if price ≤ 0 then none
      else if wouldTake c book side price then none
      else some (side, price)

/-- The symbols in turn; a symbol that is triggered cools down. -/
def triggerSymbols : List String → List OrderIntent → StrategyM (List OrderIntent)
  | [], intents => pure intents
  | symbol :: symbols, intents => do
    let lastTrigger ← get
    match triggerOf c v (lastTrigger symbol) symbol with
    | none => triggerSymbols symbols intents
    | some (side, price) => do
      modify fun times => Function.update times symbol v.clock
      triggerSymbols symbols
        (intents ++ [spikeIntent c v symbol side price (v.hex intents.length)])

/-- `SpikeReversalStrategy.get_intents`. -/
def getIntents : StrategyM (List OrderIntent) :=
  if v.paused then pure [] else triggerSymbols c v (orderedSymbols c v) []

/-! ### Links -/

section Links

variable {c : StrategyConfig} {v : TradingView}

/-- The links the strategy makes. -/
def IsLink (link : String) : Prop := Text.startsWith "spkrev-" link = true

theorem isLink_spikeIntent (symbol : String) (side : Side) (price : ℚ) (hex : String) :
    IsLink (spikeIntent c v symbol side price hex).orderLinkId := by
  unfold IsLink Text.startsWith
  simp [spikeIntent, String.toList_append]

theorem isLink_triggerSymbols {symbols : List String} {before intents : List OrderIntent}
    {times times' : String → ℚ} (h : ∀ intent ∈ before, IsLink intent.orderLinkId)
    (hrun : triggerSymbols c v symbols before times = .ok intents times') :
    ∀ intent ∈ intents, IsLink intent.orderLinkId := by
  induction symbols generalizing before times with
  | nil =>
    cases hrun
    exact h
  | cons symbol symbols ih =>
    unfold triggerSymbols at hrun
    obtain ⟨last, times₁, hget, hrun⟩ := bind_eq_ok hrun
    cases htrigger : triggerOf c v (last symbol) symbol with
    | none =>
      rw [htrigger] at hrun
      exact ih h hrun
    | some order =>
      rw [htrigger] at hrun
      obtain ⟨⟨⟩, times₂, hkeep, hrun⟩ := bind_eq_ok hrun
      refine ih (fun intent hintent => ?_) hrun
      rcases List.mem_append.mp hintent with hbefore | hnew
      · exact h intent hbefore
      · obtain rfl := List.mem_singleton.mp hnew
        exact isLink_spikeIntent symbol _ _ _

/-- Every intent of the strategy has such a link. -/
theorem link_of_mem {intents : List OrderIntent} {times times' : String → ℚ}
    (hrun : getIntents c v times = .ok intents times') :
    ∀ intent ∈ intents, IsLink intent.orderLinkId := by
  unfold getIntents at hrun
  split_ifs at hrun with hpaused
  · cases hrun
    simp
  · exact isLink_triggerSymbols (by simp) hrun

/-- The links of the two strategies begin differently. -/
theorem not_isLink {link : String} (h : IsLink link) : ¬ MicroSpread.IsLink link := by
  unfold IsLink Text.startsWith at h
  obtain ⟨rest, hrest⟩ := List.isPrefixOf_iff_prefix.mp h
  unfold MicroSpread.IsLink Text.startsWith
  rw [← hrest]
  rintro (hmm | hspk)
  · simp at hmm
  · simp at hspk

/-- No link is one of an exit quote. -/
theorem not_exitQuote {link : String} (h : IsLink link) : Text.startsWith "px-" link = false := by
  unfold IsLink Text.startsWith at h
  obtain ⟨rest, hrest⟩ := List.isPrefixOf_iff_prefix.mp h
  unfold Text.startsWith
  rw [← hrest]
  simp [List.isPrefixOf]

end Links

end SpikeReversal

end Botik
