import Botik.Backtest.BacktestRun
import Botik.Library.Program
import Botik.Library.SlidingWindow

/-!
# What the runners see of the market

Both runners, `runners/spot_runner.py` and `runners/futures_runner.py`, keep the last candles of
every symbol and measure a book against them: the move of its middle from the close five candles
ago, the share of the bids in its best levels, and the average true range. The numbers of a message
come as texts and may be unreadable, which raises and ends the work on the message.

The numbers that can be read are finite.

## Main definitions

* `CandleCells`, `LevelCells` — the cells of a message
* `Bar`, `PriceFeed.pushBar` — the buffer of a symbol
* `PriceFeed.withBar`, `PriceFeed.readBars` — the loop over the candles of a message
* `BookSignal`, `PriceFeed.signalOf` — what a book says

## Main results

* `PriceFeed.after_each_withBar` — the loop is one over the candles that are ticks
* `PriceFeed.foldl_pushBar` — the buffer holds the last fifty candles
* `PriceFeed.signalOf_sound` — the prices and the range of a signal are positive
-/

namespace Botik

/-- A candle of a message, its cells as `float` reads them. -/
structure CandleCells where
  high : Except PyError ℚ
  low : Except PyError ℚ
  close : Except PyError ℚ

/-- A level of a book, its cells as `float` reads them. -/
structure LevelCells where
  price : Except PyError ℚ
  size : Except PyError ℚ

/-- A candle of the buffer. -/
structure Bar where
  high : ℚ
  low : ℚ
  close : ℚ
  deriving DecidableEq, Repr

/-- The candle of a message. -/
def CandleCells.bar (c : CandleCells) : Except PyError Bar := do
  let high ← c.high
  let low ← c.low
  let close ← c.close
  return ⟨high, low, close⟩

/-- What a runner makes of a book. -/
structure BookSignal where
  bestBid : ℚ
  bestAsk : ℚ
  atr : ℚ
  spikeBps : ℚ
  imbalance : ℚ
  deriving DecidableEq, Repr

namespace PriceFeed

/-- The length of the buffer. -/
def bufferSize : ℕ := 50

/-- `MIN_BUF_SIZE`. -/
def minBufSize : ℕ := 15

/-- A candle more; the first one goes where there is no room. -/
def pushBar (buf : List Bar) (bar : Bar) : List Bar :=
  if bufferSize < (buf ++ [bar]).length then (buf ++ [bar]).tail else buf ++ [bar]

/-- The sizes of some levels, added up. -/
def volume (levels : List LevelCells) : Except PyError ℚ := do
  let sizes ← levels.mapM LevelCells.size
  return sizes.sum

/-- The share of the bids in the five best levels of each side. -/
def bookImbalance (bids asks : List LevelCells) : Except PyError ℚ := do
  let bidVol ← volume (bids.take 5)
  let askVol ← volume (asks.take 5)
  return if 0 < bidVol + askVol then bidVol / (bidVol + askVol) else 1 / 2

/-- `calc_atr` over a buffer. -/
def atrOf (buf : List Bar) : ℚ := calcAtr (buf.map Bar.high) (buf.map Bar.low) (buf.map Bar.close)

/-- The first part of `_on_orderbook`: nothing, where the runner would not trade. -/
def signalOf (holds : Bool) (buf : List Bar) (bids asks : List LevelCells) :
    Except PyError (Option BookSignal) :=
  match bids, asks with
  | bid :: _, ask :: _ => do
    let bestBid ← bid.price
    let bestAsk ← ask.price
    if bestBid ≤ 0 ∨ bestAsk ≤ 0 then return none
    else
      let mid := (bestBid + bestAsk) / 2
      if holds ∨ buf.length < minBufSize then return none
      else
        let atr := atrOf buf
        let refPrice := FeatureEngine.fromEnd (buf.map Bar.close) 5
        if atr ≤ 0 ∨ buf.length < 5 ∨ refPrice ≤ 0 then return none
        else
          let spikeBps := (mid - refPrice) / refPrice * 10000
          let imbalance ← bookImbalance bids asks
          return some ⟨bestBid, bestAsk, atr, spikeBps, imbalance⟩
  | _, _ => .ok none

/-! ### The candles of a message -/

section Candles

open Program

variable {σ γ : Type}

/-- One turn of the loop of `_on_kline`: a candle without a price is skipped. -/
def withBar (cells : γ → CandleCells) (tick : γ → Bar → σ → σ) (c : γ) :
    EStateM PyError σ Unit := do
  let bar ← fromExcept (cells c).bar
  if bar.close ≤ 0 then return else modify (tick c bar)

/-- The candles that are ticks: those with a price, up to the first one that cannot be read. -/
def readBars (cells : γ → CandleCells) : List γ → List (γ × Bar)
  | [] => []
  | c :: cs =>
    match (cells c).bar with
    | .error _ => []
    | .ok bar => if bar.close ≤ 0 then readBars cells cs else (c, bar) :: readBars cells cs

variable {cells : γ → CandleCells} {tick : γ → Bar → σ → σ}

theorem after_each_withBar (cs : List γ) (s : σ) :
    after (each (withBar cells tick) cs) s =
      (readBars cells cs).foldl (fun s c => tick c.1 c.2 s) s := by
  induction cs generalizing s with
  | nil => rfl
  | cons c cs ih =>
    rw [each_cons, readBars]
    cases hbar : (cells c).bar with
    | error err =>
      have hraised : withBar cells tick c s = .error err s := by
        rw [withBar, hbar]
        rfl
      exact after_bind_of_error hraised
    | ok bar =>
      have hturn : withBar cells tick c s = (if bar.close ≤ 0 then pure ()
          else modify (tick c bar) : EStateM PyError σ Unit) s := by
        rw [withBar, hbar]
        rfl
      dsimp only
      split_ifs with hprice
      · rw [if_pos hprice] at hturn
        rw [after_bind_of_ok hturn]
        exact ih s
      · rw [if_neg hprice] at hturn
        rw [after_bind_of_ok hturn, List.foldl_cons]
        exact ih _

theorem forall_readBars (cs : List γ) : ∀ c ∈ readBars cells cs, 0 < c.2.close := by
  induction cs with
  | nil => simp [readBars]
  | cons c cs ih =>
    rw [readBars]
    cases (cells c).bar with
    | error err => simp
    | ok bar =>
      dsimp only
      split_ifs with hprice
      · exact ih
      · exact List.forall_mem_cons.mpr ⟨not_le.mp hprice, ih⟩

end Candles

/-! ### The buffer -/

theorem pushBar_eq_rtake {buf : List Bar} (h : buf.length ≤ bufferSize) (bar : Bar) :
    pushBar buf bar = (buf ++ [bar]).rtake bufferSize := by
  have hlength : (buf ++ [bar]).length = buf.length + 1 := by simp
  unfold pushBar
  split_ifs with hfull
  · have hskip : (buf ++ [bar]).length - bufferSize = 1 := by omega
    rw [List.rtake, hskip, List.drop_one]
  · exact (RecentEntries.rtake_of_length_le (not_lt.mp hfull)).symm

/-- The buffer holds the last fifty candles of those that came. -/
theorem foldl_pushBar (bars : List Bar) : bars.foldl pushBar [] = bars.rtake bufferSize := by
  induction bars using List.reverseRecOn with
  | nil => rfl
  | append_singleton bars bar ih =>
    have hlength : (bars.rtake bufferSize).length ≤ bufferSize := by
      rw [RecentEntries.length_rtake]
      exact min_le_left _ _
    rw [List.foldl_append, ih, List.foldl_cons, List.foldl_nil, pushBar_eq_rtake hlength,
      RecentEntries.rtake_rtake_append]

/-! ### Signals -/

/-- A signal comes for a symbol that is free, from positive prices and a positive range. -/
theorem signalOf_sound {holds : Bool} {buf : List Bar} {bids asks : List LevelCells}
    {g : BookSignal} (h : signalOf holds buf bids asks = .ok (some g)) :
    holds = false ∧ 0 < g.bestBid ∧ 0 < g.bestAsk ∧ 0 < g.atr := by
  cases bids with
  | nil => cases h
  | cons bid bids =>
    cases asks with
    | nil => cases h
    | cons ask asks =>
      unfold signalOf at h
      dsimp only at h
      cases hbid : bid.price with
      | error err =>
        rw [hbid] at h
        cases h
      | ok bestBid =>
        cases hask : ask.price with
        | error err =>
          rw [hbid, hask] at h
          cases h
        | ok bestAsk =>
          rw [hbid, hask] at h
          simp only [bind, Except.bind, pure, Except.pure] at h
          -- the three guards of the source, in its order
          split_ifs at h with hprices hfree hrange
          · cases h
          · cases h
          · cases h
          · cases himbalance : bookImbalance (bid :: bids) (ask :: asks) with
            | error err =>
              rw [himbalance] at h
              cases h
            | ok imbalance =>
              rw [himbalance] at h
              cases h
              push Not at hprices hfree hrange
              exact ⟨by simpa using hfree.1, hprices.1, hprices.2, hrange.1⟩

end PriceFeed

end Botik
