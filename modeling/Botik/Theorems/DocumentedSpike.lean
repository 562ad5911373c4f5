import Mathlib.Data.List.DropRight
import Mathlib.Tactic.FieldSimp
import Mathlib.Tactic.Linarith
import Mathlib.Tactic.Ring
import Botik.Strategy.FuturesSpikeReversal

/-!
# The documented signal of the futures strategy

The strategy documents a signal of the stored middles and levels of a symbol: after a fall of the
price and with most of the size bid it buys, after a rise and with most of it offered it sells. What
it computes is four times the published median spread, which as a rule is no fall, and an imbalance
of one half. So it trades on the documented signal exactly where that happens to say the same, and
with an imbalance threshold of one half or more it never trades.

## Main definitions

* `FuturesSpike.DocumentedBuys`, `DocumentedSells` — the documented signal
* `FuturesSpike.SpreadBuys`, `SpreadSells` — what the median spread says
* `FuturesSpike.SignalMatches` — where the two agree
* `FuturesSpike.intentsUpTo` — the intents of a call up to a symbol

## Main results

* `detectSpike_eq`, `calcImbalance_eq` — what the two helpers compute
* `getIntents_eq_nil` — no intent with a threshold of one half or more
* `futures_spike_trades_signal_iff`
-/

namespace Botik

namespace FuturesSpike

variable (c : FuturesSpike) (v : FuturesView) (symbol : String)

/-! ### The documented signal -/

/-- The move of the stored middles over the look-back, in basis points of the first one. -/
def documentedMoveBps : ℚ :=
  let prices := (((v.midHistory.get? symbol).getD []).rtake lookback).map Prod.snd
  match prices.head?, prices.getLast? with
  | some first, some last => if first = 0 then 0 else (last - first) / first * 10000
  | _, _ => 0

/-- The bid share of the stored levels. -/
def documentedShare : ℚ :=
  let levels := (v.orderbookLevels.get? symbol).getD ([], [])
  bidShare levels.1 levels.2

/-- The price fell far enough, and most of the size is bid. -/
def DocumentedBuys : Prop :=
  documentedMoveBps v symbol < 0 ∧ c.spikeThresholdBps ≤ -documentedMoveBps v symbol ∧
    c.imbalanceThreshold < documentedShare v symbol

/-- The price rose far enough, and most of the size is offered. -/
def DocumentedSells : Prop :=
  0 < documentedMoveBps v symbol ∧ c.spikeThresholdBps ≤ documentedMoveBps v symbol ∧
    documentedShare v symbol < 1 - c.imbalanceThreshold

instance decidableDocumentedBuys : Decidable (DocumentedBuys c v symbol) :=
  inferInstanceAs (Decidable (_ ∧ _))

instance decidableDocumentedSells : Decidable (DocumentedSells c v symbol) :=
  inferInstanceAs (Decidable (_ ∧ _))

/-- A buy at the best ask, a sale at the best bid, or nothing. -/
def orderFor (ob : Market.OrderBookAggregate) (buys sells : Prop) [Decidable buys]
    [Decidable sells] : Option (String × String × ℚ) :=
  if buys then some (symbol, "Buy", ob.bestAsk)
  else if sells then some (symbol, "Sell", ob.bestBid)
  else none

/-- The documented order of a symbol, its side and its price. -/
def documentedOrder : Option (String × String × ℚ) :=
  match v.orderbooks.get? symbol with
  | none => none
  | some ob => orderFor symbol ob (DocumentedBuys c v symbol) (DocumentedSells c v symbol)

/-! ### What the strategy computes -/

/-- The median spread the pair filter published. -/
def medianSpread : ℚ :=
  toFloat ((v.pairFilterSnapshot.get? symbol).bind PairSnapshot.medianSpreadBps)

/-- Prices can be made from a spread: it is not zero, and no divisor is. -/
def MakesPrices (ref : ℚ) : Prop := ref ≠ 0 ∧ ∀ i < lookback, 1 + ref * i / 10000 ≠ 0

/-- A call for an unpaused state with a quote, a median spread far enough from zero, and a threshold
below one half. -/
structure SpreadSignals (ob : Market.OrderBookAggregate) : Prop where
  unpaused : v.paused = false
  bid_pos : 0 < ob.bestBid
  ask_pos : 0 < ob.bestAsk
  makesPrices : MakesPrices (medianSpread v symbol)
  strong : c.spikeThresholdBps ≤ 4 * |medianSpread v symbol|
  threshold : c.imbalanceThreshold < 1 / 2

/-- The median spread is negative. -/
def SpreadBuys (ob : Market.OrderBookAggregate) : Prop :=
  medianSpread v symbol < 0 ∧ SpreadSignals c v symbol ob

/-- The median spread is positive. -/
def SpreadSells (ob : Market.OrderBookAggregate) : Prop :=
  0 < medianSpread v symbol ∧ SpreadSignals c v symbol ob

/-- Where a symbol has a book, the median spread says what is documented. -/
def SignalMatches : Prop :=
  ∀ ob, v.orderbooks.get? symbol = some ob →
    (DocumentedBuys c v symbol ↔ SpreadBuys c v symbol ob) ∧
      (DocumentedSells c v symbol ↔ SpreadSells c v symbol ob)

instance decidableMakesPrices (ref : ℚ) : Decidable (MakesPrices ref) :=
  inferInstanceAs (Decidable (_ ∧ _))

instance decidableSpreadSignals (ob : Market.OrderBookAggregate) :
    Decidable (SpreadSignals c v symbol ob) :=
  decidable_of_iff (v.paused = false ∧ 0 < ob.bestBid ∧ 0 < ob.bestAsk ∧
      MakesPrices (medianSpread v symbol) ∧
      c.spikeThresholdBps ≤ 4 * |medianSpread v symbol| ∧ c.imbalanceThreshold < 1 / 2)
    ⟨fun ⟨h₁, h₂, h₃, h₄, h₅, h₆⟩ => ⟨h₁, h₂, h₃, h₄, h₅, h₆⟩,
      fun ⟨h₁, h₂, h₃, h₄, h₅, h₆⟩ => ⟨h₁, h₂, h₃, h₄, h₅, h₆⟩⟩

instance decidableSpreadBuys (ob : Market.OrderBookAggregate) :
    Decidable (SpreadBuys c v symbol ob) :=
  inferInstanceAs (Decidable (_ ∧ _))

instance decidableSpreadSells (ob : Market.OrderBookAggregate) :
    Decidable (SpreadSells c v symbol ob) :=
  inferInstanceAs (Decidable (_ ∧ _))

section Helpers

variable {c : FuturesSpike} {v : FuturesView} {symbol : String} {currentPrice ref : ℚ}
  {ob : Market.OrderBookAggregate}

theorem makesPrices_iff :
    MakesPrices ref ↔ ref ≠ 0 ∧
      (List.range lookback).any (fun i : ℕ => 1 + ref * i / 10000 = 0) = false := by
  unfold MakesPrices
  simp only [List.any_eq_false, List.mem_range, decide_eq_true_eq]

theorem pricesOf_of_makesPrices (h : MakesPrices ref) :
    pricesOf ref currentPrice =
      (List.range lookback).map fun i : ℕ => currentPrice / (1 + ref * i / 10000) := by
  rw [pricesOf, (makesPrices_iff.mp h).2]
  rfl

theorem pricesOf_of_not_makesPrices (href : ref ≠ 0) (h : ¬ MakesPrices ref) :
    pricesOf ref currentPrice = [] := by
  rw [makesPrices_iff, not_and, Bool.not_eq_false] at h
  rw [pricesOf, h href]
  rfl

theorem spikePrices_of_not_makesPrices (h : ¬ MakesPrices (medianSpread v symbol)) :
    spikePrices v symbol currentPrice = [] := by
  unfold spikePrices
  unfold medianSpread at h
  cases hs : v.pairFilterSnapshot.get? symbol with
  | none => rfl
  | some s =>
    rw [hs, Option.bind_some] at h
    dsimp only
    split_ifs with hboth
    · exact pricesOf_of_not_makesPrices hboth.1 h
    · rfl

theorem spikePrices_of_makesPrices (hprice : 0 < currentPrice)
    (h : MakesPrices (medianSpread v symbol)) :
    spikePrices v symbol currentPrice = (List.range lookback).map fun i : ℕ =>
      currentPrice / (1 + medianSpread v symbol * i / 10000) := by
  unfold spikePrices
  unfold medianSpread at h ⊢
  cases hs : v.pairFilterSnapshot.get? symbol with
  | none =>
    rw [hs] at h
    exact absurd rfl h.1
  | some s =>
    rw [hs, Option.bind_some] at h
    dsimp only [Option.bind_some]
    rw [if_pos ⟨h.1, hprice.ne'⟩]
    exact pricesOf_of_makesPrices h

/-- Without prices no spike is found. -/
theorem detectSpike_of_not_makesPrices (currentPrice : ℚ)
    (h : ¬ MakesPrices (medianSpread v symbol)) :
    detectSpike v symbol currentPrice = (0, 0) := by
  rw [detectSpike, spikePrices_of_not_makesPrices h]
  rfl

/-- The spike is four times the median spread. -/
theorem detectSpike_of_makesPrices (hprice : 0 < currentPrice)
    (h : MakesPrices (medianSpread v symbol)) :
    detectSpike v symbol currentPrice =
      (4 * medianSpread v symbol, if 0 < medianSpread v symbol then 1 else -1) := by
  have hprices := spikePrices_of_makesPrices hprice h
  have hdivisor : 1 + medianSpread v symbol * 4 / 10000 ≠ 0 := h.2 4 (by decide)
  generalize medianSpread v symbol = ref at hprices hdivisor ⊢
  have hlength : ¬ (spikePrices v symbol currentPrice).length < 2 := by
    rw [hprices, List.length_map, List.length_range]
    decide
  have hlast : (spikePrices v symbol currentPrice).getLast?.getD 0 =
      currentPrice / (1 + ref * 4 / 10000) := by
    rw [hprices]
    simp [lookback, List.range_succ]
  have hne : currentPrice / (1 + ref * 4 / 10000) ≠ 0 := div_ne_zero hprice.ne' hdivisor
  have hspike : (currentPrice - currentPrice / (1 + ref * 4 / 10000)) /
      (currentPrice / (1 + ref * 4 / 10000)) * 10000 = 4 * ref := by
    rw [sub_div, div_self hne, div_div_cancel₀ hprice.ne']
    ring
  unfold detectSpike
  dsimp only
  rw [if_neg hlength, hlast, if_neg hne, hspike]
  simp

theorem calcImbalance_eq (ob : Market.OrderBookAggregate) : calcImbalance ob = 1 / 2 := by
  simp [calcImbalance, bidShare]

end Helpers

/-! ### One symbol -/

/-- What an intent trades: the symbol, the side and the price. -/
def tradeOf (intent : OrderIntent) : String × String × ℚ :=
  (intent.symbol, intent.side, intent.price)

section Evaluate

variable {c : FuturesSpike} {v : FuturesView} {symbol : String} {ob : Market.OrderBookAggregate}
  {direction : ℤ} {hex : String} {P Q P' Q' : Prop} [Decidable P] [Decidable Q] [Decidable P']
  [Decidable Q']

/-- Two decisions are the same if and only if they buy and sell in the same cases. -/
theorem orderFor_eq_iff (h : ¬ (P ∧ Q)) (h' : ¬ (P' ∧ Q')) :
    orderFor symbol ob P Q = orderFor symbol ob P' Q' ↔ (P ↔ P') ∧ (Q ↔ Q') := by
  unfold orderFor
  by_cases hP : P <;> by_cases hP' : P' <;> by_cases hQ : Q <;> by_cases hQ' : Q' <;>
    simp_all

theorem not_documentedBuys_and_sells :
    ¬ (DocumentedBuys c v symbol ∧ DocumentedSells c v symbol) := by
  rintro ⟨⟨hfell, -⟩, hrose, -⟩
  exact lt_asymm hfell hrose

theorem not_spreadBuys_and_sells :
    ¬ (SpreadBuys c v symbol ob ∧ SpreadSells c v symbol ob) := by
  rintro ⟨⟨hneg, -⟩, hpos, -⟩
  exact lt_asymm hneg hpos

theorem orderAgainst_half_neg :
    c.orderAgainst ob (-1) (1 / 2) =
      if c.imbalanceThreshold < 1 / 2 then some (.buy, ob.bestAsk) else none := by
  unfold orderAgainst
  simp

theorem orderAgainst_half_pos :
    c.orderAgainst ob 1 (1 / 2) =
      if c.imbalanceThreshold < 1 / 2 then some (.sell, ob.bestBid) else none := by
  have hhalf : (1 / 2 : ℚ) < 1 - c.imbalanceThreshold ↔ c.imbalanceThreshold < 1 / 2 := by
    constructor
    · intro h
      linarith
    · intro h
      linarith
  unfold orderAgainst
  rw [if_neg (by simp)]
  exact if_congr ((and_iff_right zero_lt_one).trans hhalf) rfl rfl

theorem orderAgainst_zero (imbalance : ℚ) : c.orderAgainst ob 0 imbalance = none := by
  unfold orderAgainst
  simp

theorem orderFor_of_not_signals (h : ¬ SpreadSignals c v symbol ob) :
    orderFor symbol ob (SpreadBuys c v symbol ob) (SpreadSells c v symbol ob) = none := by
  simp [orderFor, SpreadBuys, SpreadSells, h]

/-- Without a filter an order against the spike becomes an intent. -/
theorem evaluate_of_quote (hmodel : c.modelPredictFn = none)
    (hquote : ¬ (ob.bestBid ≤ 0 ∨ ob.bestAsk ≤ 0)) {spikeBps : ℚ}
    (hspike : detectSpike v symbol ((ob.bestBid + ob.bestAsk) / 2) = (spikeBps, direction))
    (hstrong : c.spikeThresholdBps ≤ |spikeBps|) :
    (c.evaluate v symbol ob hex).map tradeOf =
      (c.orderAgainst ob direction (1 / 2)).map fun o => (symbol, o.1.text, o.2) := by
  have hpasses : ∀ features, c.passesModel features = true := by
    intro features
    rw [passesModel, hmodel]
  unfold evaluate
  dsimp only
  rw [if_neg hquote, hspike]
  dsimp only
  rw [if_neg (not_lt.mpr hstrong), calcImbalance_eq]
  cases c.orderAgainst ob direction (1 / 2) with
  | none => rfl
  | some o =>
    dsimp only
    rw [if_pos (hpasses _)]
    rfl

theorem evaluate_of_weak {spikeBps : ℚ}
    (hspike : detectSpike v symbol ((ob.bestBid + ob.bestAsk) / 2) = (spikeBps, direction))
    (hweak : |spikeBps| < c.spikeThresholdBps) : c.evaluate v symbol ob hex = none := by
  unfold evaluate
  dsimp only
  rw [hspike]
  dsimp only
  rw [if_pos hweak, ite_self]

/-- Without a filter the median spread decides. -/
theorem evaluate_eq (hmodel : c.modelPredictFn = none) (hpaused : v.paused = false) :
    (c.evaluate v symbol ob hex).map tradeOf =
      orderFor symbol ob (SpreadBuys c v symbol ob) (SpreadSells c v symbol ob) := by
  by_cases hquote : ob.bestBid ≤ 0 ∨ ob.bestAsk ≤ 0
  · rw [orderFor_of_not_signals fun h => not_or.mpr ⟨h.bid_pos.not_ge, h.ask_pos.not_ge⟩ hquote,
      evaluate, if_pos hquote]
    rfl
  obtain ⟨hbid, hask⟩ := not_or.mp hquote
  rw [not_le] at hbid hask
  by_cases hprices : MakesPrices (medianSpread v symbol)
  swap
  · -- no prices, no spike
    have hspike := detectSpike_of_not_makesPrices ((ob.bestBid + ob.bestAsk) / 2) hprices
    rw [orderFor_of_not_signals fun h => hprices h.makesPrices]
    rcases lt_or_ge |(0 : ℚ)| c.spikeThresholdBps with hweak | hstrong
    · rw [evaluate_of_weak hspike hweak]
      rfl
    · rw [evaluate_of_quote hmodel hquote hspike hstrong, orderAgainst_zero]
      rfl
  -- the made-up prices differ by four median spreads
  have hspike := detectSpike_of_makesPrices (by linarith : 0 < (ob.bestBid + ob.bestAsk) / 2)
    hprices
  have habs : |4 * medianSpread v symbol| = 4 * |medianSpread v symbol| := by
    rw [abs_mul, abs_of_pos (by norm_num : (0 : ℚ) < 4)]
  rcases lt_or_ge |4 * medianSpread v symbol| c.spikeThresholdBps with hweak | hstrong
  · rw [orderFor_of_not_signals fun h => hweak.not_ge (habs ▸ h.strong),
      evaluate_of_weak hspike hweak]
    rfl
  rw [evaluate_of_quote hmodel hquote hspike hstrong]
  by_cases hthreshold : c.imbalanceThreshold < 1 / 2
  swap
  · rw [orderFor_of_not_signals fun h => hthreshold h.threshold]
    split_ifs
    · rw [orderAgainst_half_pos, if_neg hthreshold]
      rfl
    · rw [orderAgainst_half_neg, if_neg hthreshold]
      rfl
  have hsignals : SpreadSignals c v symbol ob :=
    ⟨hpaused, hbid, hask, hprices, habs ▸ hstrong, hthreshold⟩
  -- the sign of the median decides the side
  rcases lt_or_gt_of_ne hprices.1 with hneg | hpos
  · have hbuys : SpreadBuys c v symbol ob := ⟨hneg, hsignals⟩
    rw [if_neg hneg.not_gt, orderAgainst_half_neg, if_pos hthreshold, orderFor, if_pos hbuys]
    rfl
  · have hsells : SpreadSells c v symbol ob := ⟨hpos, hsignals⟩
    have hnot : ¬ SpreadBuys c v symbol ob := fun h => hpos.not_gt h.1
    rw [if_pos hpos, orderAgainst_half_pos, if_pos hthreshold, orderFor, if_neg hnot,
      if_pos hsells]
    rfl

end Evaluate

/-! ### The loop -/

section Loop

variable {c : FuturesSpike} {v : FuturesView} {now : ℚ} {hex : ℕ → String} {symbol : String}
  {symbols rest : List String} {scan : Scan}

theorem scanSymbols_of_full (h : c.maxOpenPositions ≤ scan.intents.length) :
    c.scanSymbols v now hex symbols scan = scan := by
  cases symbols with
  | nil => rfl
  | cons symbol symbols => rw [scanSymbols, if_pos h]

theorem scanSymbols_append :
    c.scanSymbols v now hex (symbols ++ rest) scan =
      c.scanSymbols v now hex rest (c.scanSymbols v now hex symbols scan) := by
  induction symbols generalizing scan with
  | nil => rfl
  | cons symbol symbols ih =>
    rw [List.cons_append, scanSymbols, scanSymbols]
    split_ifs with hfull
    · exact (scanSymbols_of_full hfull).symm
    · exact ih

/-- The loop sees nothing of the list it goes through. -/
theorem scanSymbols_activeSymbols (active : List String) :
    c.scanSymbols { v with activeSymbols := active } now hex symbols scan =
      c.scanSymbols v now hex symbols scan := by
  induction symbols generalizing scan with
  | nil => rfl
  | cons symbol symbols ih =>
    rw [scanSymbols, scanSymbols]
    split_ifs
    · rfl
    · exact ih

theorem intents_visit_prefix : scan.intents <+: (c.visit v now hex symbol scan).intents := by
  unfold visit
  split_ifs
  · exact List.prefix_rfl
  · split
    · exact List.prefix_rfl
    · split
      · exact List.prefix_rfl
      · exact List.prefix_append _ _

theorem intents_scanSymbols_prefix :
    scan.intents <+: (c.scanSymbols v now hex symbols scan).intents := by
  induction symbols generalizing scan with
  | nil => exact List.prefix_rfl
  | cons symbol symbols ih =>
    rw [scanSymbols]
    split_ifs
    · exact List.prefix_rfl
    · exact intents_visit_prefix.trans ih

/-- What the loop adds for a symbol that has rested. -/
theorem intents_visit (hcool : c.cooldownSec ≤ now - (scan.lastTrigger.get? symbol).getD 0) :
    (c.visit v now hex symbol scan).intents =
      scan.intents ++ ((v.orderbooks.get? symbol).bind fun ob =>
        c.evaluate v symbol ob (hex scan.intents.length)).toList := by
  unfold visit
  rw [if_neg (not_lt.mpr hcool)]
  cases v.orderbooks.get? symbol with
  | none => exact (List.append_nil _).symm
  | some ob =>
    rw [Option.bind_some]
    dsimp only
    cases c.evaluate v symbol ob (hex scan.intents.length) with
    | none => exact (List.append_nil _).symm
    | some intent => rfl

end Loop

/-! ### A call -/

/-- The intents a call has made when it has come through some symbols. -/
def intentsUpTo (now : ℚ) (hex : ℕ → String) (r : SpikeRecord) (symbols : List String) :
    List OrderIntent :=
  (c.getIntents { v with activeSymbols := symbols } now hex r).1

/-- The times of the last triggers when a call has come through some symbols. -/
def lastTriggerUpTo (now : ℚ) (hex : ℕ → String) (r : SpikeRecord) (symbols : List String) :
    Dict String ℚ :=
  (c.getIntents { v with activeSymbols := symbols } now hex r).2.lastTrigger

section Call

variable {c : FuturesSpike} {v : FuturesView} {now : ℚ} {hex : ℕ → String} {r : SpikeRecord}
  {symbol : String} {symbols rest : List String}

theorem intentsUpTo_of_paused (h : v.paused = true) : c.intentsUpTo v now hex r symbols = [] := by
  unfold intentsUpTo getIntents
  rw [if_pos h]

/-- A call that is not paused is its loop. -/
theorem getIntents_eq_scanSymbols (h : v.paused = false) :
    c.intentsUpTo v now hex r symbols =
        (c.scanSymbols v now hex symbols ⟨[], r.lastTrigger⟩).intents ∧
      c.lastTriggerUpTo v now hex r symbols =
        (c.scanSymbols v now hex symbols ⟨[], r.lastTrigger⟩).lastTrigger := by
  unfold intentsUpTo lastTriggerUpTo getIntents
  rw [if_neg (Bool.eq_false_iff.mp h)]
  dsimp only
  rw [scanSymbols_activeSymbols]
  split_ifs with hnone
  · rw [hnone]
    exact ⟨rfl, rfl⟩
  · exact ⟨rfl, rfl⟩

theorem intentsUpTo_eq (h : v.paused = false) :
    c.intentsUpTo v now hex r symbols =
      (c.scanSymbols v now hex symbols ⟨[], r.lastTrigger⟩).intents :=
  (getIntents_eq_scanSymbols h).1

theorem lastTriggerUpTo_eq (h : v.paused = false) :
    c.lastTriggerUpTo v now hex r symbols =
      (c.scanSymbols v now hex symbols ⟨[], r.lastTrigger⟩).lastTrigger :=
  (getIntents_eq_scanSymbols h).2

/-- What a call has made on its way is the beginning of what it makes. -/
theorem intentsUpTo_isPrefix (h : symbols <+: v.activeSymbols) :
    c.intentsUpTo v now hex r symbols <+: (c.getIntents v now hex r).1 := by
  obtain ⟨rest, hrest⟩ := h
  change _ <+: c.intentsUpTo v now hex r v.activeSymbols
  cases hpaused : v.paused with
  | true => rw [intentsUpTo_of_paused hpaused]; exact List.nil_prefix
  | false =>
    rw [intentsUpTo_eq hpaused, intentsUpTo_eq hpaused, ← hrest, scanSymbols_append]
    exact intents_scanSymbols_prefix

/-- What a call adds for a symbol that it comes to and that has rested is what the median spread
says. -/
theorem trades_intentsUpTo (hmodel : c.modelPredictFn = none)
    (hroom : (c.intentsUpTo v now hex r symbols).length < c.maxOpenPositions)
    (hcool : c.cooldownSec ≤
      now - ((c.lastTriggerUpTo v now hex r symbols).get? symbol).getD 0) :
    (c.intentsUpTo v now hex r (symbols ++ [symbol])).map tradeOf =
      (c.intentsUpTo v now hex r symbols).map tradeOf ++
        ((v.orderbooks.get? symbol).bind fun ob =>
          orderFor symbol ob (SpreadBuys c v symbol ob) (SpreadSells c v symbol ob)).toList := by
  cases hpaused : v.paused with
  | true =>
    have hnothing : ∀ ob,
        orderFor symbol ob (SpreadBuys c v symbol ob) (SpreadSells c v symbol ob) = none :=
      fun ob => orderFor_of_not_signals fun h => by simp [h.unpaused] at hpaused
    rw [intentsUpTo_of_paused hpaused, intentsUpTo_of_paused hpaused]
    cases v.orderbooks.get? symbol with
    | none => rfl
    | some ob => rw [Option.bind_some, hnothing]; rfl
  | false =>
    rw [lastTriggerUpTo_eq hpaused] at hcool
    rw [intentsUpTo_eq hpaused] at hroom
    rw [intentsUpTo_eq hpaused, intentsUpTo_eq hpaused, scanSymbols_append, scanSymbols,
      if_neg (not_le.mpr hroom), scanSymbols, intents_visit hcool, List.map_append]
    congr 1
    cases v.orderbooks.get? symbol with
    | none => rfl
    | some ob =>
      rw [Option.bind_some, Option.bind_some, ← Option.toList_map, evaluate_eq hmodel hpaused]

theorem toList_eq_toList_iff {α : Type} {a b : Option α} : a.toList = b.toList ↔ a = b := by
  constructor
  · intro h
    have hhead := congrArg List.head? h
    rwa [Option.head?_toList, Option.head?_toList] at hhead
  · intro h
    rw [h]

/-- The decision of the median spread is the documented one exactly where the two signals match. -/
theorem spread_eq_documentedOrder_iff :
    ((v.orderbooks.get? symbol).bind fun ob =>
        orderFor symbol ob (SpreadBuys c v symbol ob) (SpreadSells c v symbol ob)) =
      documentedOrder c v symbol ↔ SignalMatches c v symbol := by
  unfold documentedOrder SignalMatches
  cases v.orderbooks.get? symbol with
  | none => simp
  | some ob =>
    simp only [Option.bind_some, Option.some.injEq, forall_eq']
    rw [eq_comm, orderFor_eq_iff not_documentedBuys_and_sells not_spreadBuys_and_sells]

end Call

/-! ### A threshold of one half or more -/

section Half

variable {c : FuturesSpike} {v : FuturesView} {now : ℚ} {hex : ℕ → String} {r : SpikeRecord}
  {symbols : List String} {scan : Scan}

theorem evaluate_eq_none (h : 1 / 2 ≤ c.imbalanceThreshold) (v : FuturesView) (symbol : String)
    (ob : Market.OrderBookAggregate) (link : String) : c.evaluate v symbol ob link = none := by
  have hnone : ∀ direction, c.orderAgainst ob direction (calcImbalance ob) = none := by
    intro direction
    rw [calcImbalance_eq, orderAgainst, if_neg fun hbuy => h.not_gt hbuy.2,
      if_neg fun hsell => by linarith [hsell.2]]
  unfold evaluate
  dsimp only
  split_ifs
  · rfl
  · rfl
  · rw [hnone]
  · rw [hnone]

theorem scanSymbols_eq_self (h : 1 / 2 ≤ c.imbalanceThreshold) :
    c.scanSymbols v now hex symbols scan = scan := by
  induction symbols with
  | nil => rfl
  | cons symbol symbols ih =>
    have hvisit : c.visit v now hex symbol scan = scan := by
      unfold visit
      split_ifs
      · rfl
      · cases v.orderbooks.get? symbol with
        | none => rfl
        | some ob => dsimp only; rw [evaluate_eq_none h]
    rw [scanSymbols, hvisit, ih, ite_self]

/-- With a threshold of one half or more, as by default, no call makes an intent, whatever the state
and with any filter. -/
theorem getIntents_eq_nil (h : 1 / 2 ≤ c.imbalanceThreshold) :
    (c.getIntents v now hex r).1 = [] := by
  unfold getIntents
  dsimp only
  rw [scanSymbols_eq_self h]
  split_ifs
  all_goals rfl

end Half

end FuturesSpike

open FuturesSpike

/-- When a call comes to an active symbol with room for another intent and after its cooldown, and
no model filters, it adds exactly the documented order of the symbol if and only if the published
median spread says what is documented. -/
theorem futures_spike_trades_signal_iff (c : FuturesSpike) (v : FuturesView) (now : ℚ)
    (hex : ℕ → String) (r : SpikeRecord) (before : List String) (symbol : String)
    (hmodel : c.modelPredictFn = none) (hactive : before ++ [symbol] <+: v.activeSymbols)
    (hroom : (c.intentsUpTo v now hex r before).length < c.maxOpenPositions)
    (hcool : c.cooldownSec ≤
      now - ((c.lastTriggerUpTo v now hex r before).get? symbol).getD 0) :
    c.intentsUpTo v now hex r (before ++ [symbol]) <+: (c.getIntents v now hex r).1 ∧
      ((c.intentsUpTo v now hex r (before ++ [symbol])).map tradeOf =
          (c.intentsUpTo v now hex r before).map tradeOf ++
            (documentedOrder c v symbol).toList ↔
        SignalMatches c v symbol) := by
  refine ⟨intentsUpTo_isPrefix hactive, ?_⟩
  rw [trades_intentsUpTo hmodel hroom hcool, List.append_cancel_left_eq, toList_eq_toList_iff,
    spread_eq_documentedOrder_iff]

/-! ### Two states -/

/-- A book with a spread of two. -/
def spikeBook (mid : ℚ) (tsMs : ℤ) : Market.OrderBookAggregate where
  symbol := "BTCUSDT"
  bestBid := mid - 1
  bestAsk := mid + 1
  mid := mid
  spreadTicks := 2
  imbalanceTopN := 0
  bestBidSize := 1
  bestAskSize := 1
  tsMs := tsMs

/-- Two books of a symbol, with the levels of the second one and a median spread. -/
def spikeState (mid mid' bidSize askSize medianSpreadBps : ℚ) : FuturesView where
  toMarketState :=
    (MarketState.empty.setOrderbook 0 "BTCUSDT" (spikeBook mid 1) none true none).setOrderbook 0
      "BTCUSDT" (spikeBook mid' 2) (some ([(mid' - 1, bidSize)], [(mid' + 1, askSize)])) false none
  paused := false
  activeSymbols := ["BTCUSDT"]
  pairFilterSnapshot := Dict.empty.set "BTCUSDT"
    { spikeDirection := none
      spikeStrengthBps := none
      status := some "TRADABLE"
      mid := some mid'
      medianSpreadBps := some medianSpreadBps
      depthBidQuote := none
      depthAskQuote := none
      slippageBuyBps := none
      slippageSellBps := none
      tradesPerMin := none
      p95TradeGapMs := none
      vol1sBps := none
      minRequiredSpreadBps := none
      impulseBps := none }

/-- A rise by two percent into a book with most of its size offered, where the threshold is below
one half. -/
theorem risen_state_sells :
    (({ FuturesSpike.default with imbalanceThreshold := 2 / 5 } : FuturesSpike).intentsUpTo
        (spikeState 100 102 1 9 50) 1000 (fun _ => "0") ⟨.empty, []⟩ ["BTCUSDT"]).map tradeOf =
      [("BTCUSDT", "Sell", 101)] := by
  have hmatches : SignalMatches { FuturesSpike.default with imbalanceThreshold := 2 / 5 }
      (spikeState 100 102 1 9 50) "BTCUSDT" := by
    intro ob hob
    have hbook : (spikeState 100 102 1 9 50).orderbooks.get? "BTCUSDT" =
        some (spikeBook 102 2) := by
      decide +kernel
    obtain rfl := Option.some.inj (hbook.symm.trans hob)
    exact ⟨by decide +kernel, by decide +kernel⟩
  obtain ⟨-, hiff⟩ := futures_spike_trades_signal_iff
    { FuturesSpike.default with imbalanceThreshold := 2 / 5 } (spikeState 100 102 1 9 50) 1000
    (fun _ => "0") ⟨.empty, []⟩ [] "BTCUSDT" rfl (by decide +kernel) (by decide +kernel)
    (by decide +kernel)
  rw [List.nil_append] at hiff
  rw [hiff.mpr hmatches]
  decide +kernel

/-- A fall by two percent into a book with nine tenths of its size bid, and no order. -/
theorem fallen_state_not_bought :
    ¬ ∀ (c : FuturesSpike) (v : FuturesView) (now : ℚ) (hex : ℕ → String) (r : SpikeRecord)
      (before : List String) (symbol : String), c.modelPredictFn = none →
        before ++ [symbol] <+: v.activeSymbols →
        (c.intentsUpTo v now hex r before).length < c.maxOpenPositions →
        c.cooldownSec ≤ now - ((c.lastTriggerUpTo v now hex r before).get? symbol).getD 0 →
        (c.intentsUpTo v now hex r (before ++ [symbol])).map tradeOf =
          (c.intentsUpTo v now hex r before).map tradeOf ++
            (documentedOrder c v symbol).toList := by
  intro hclaim
  have hbought := hclaim FuturesSpike.default (spikeState 102 100 9 1 200) 1000 (fun _ => "0")
    ⟨.empty, []⟩ [] "BTCUSDT" rfl (by decide +kernel) (by decide +kernel) (by decide +kernel)
  have hdocumented : documentedOrder FuturesSpike.default (spikeState 102 100 9 1 200) "BTCUSDT" =
      some ("BTCUSDT", "Buy", 101) := by
    decide +kernel
  have hnothing : FuturesSpike.default.intentsUpTo (spikeState 102 100 9 1 200) 1000
      (fun _ => "0") ⟨.empty, []⟩ ([] ++ ["BTCUSDT"]) = [] := by
    decide +kernel
  rw [hnothing, hdocumented] at hbought
  simp at hbought

end Botik
