import Mathlib.Algebra.Order.Field.Rat
import Mathlib.Algebra.Order.Group.Abs
import Botik.Library.Text

/-!
# Feature vectors

`build_futures_features` and `build_spot_features` of `ml/feature_engine.py`: the numbers a model
sees of the last candles. They are exact here; the source rounds the vector to single precision.

## Main definitions

* `PriceCandle` — a row of `price_history` as the models read it
* `calcRsi`, `calcAtrNorm`
* `buildFuturesFeatures`, `buildSpotFeatures`
-/

namespace Botik

/-- A candle, from the columns that are read. -/
structure PriceCandle where
  openPrice : ℚ
  high : ℚ
  low : ℚ
  close : ℚ
  volume : ℚ
  deriving DecidableEq, Repr

namespace FeatureEngine

/-- `round`, to some digits. -/
def roundDigits (q : ℚ) (digits : ℕ) : ℚ := Text.roundHalfEven (q * 10 ^ digits) / 10 ^ digits

/-- `xs[-k]`, of a list of `k` values at least. -/
def fromEnd (xs : List ℚ) (k : ℕ) : ℚ := xs.getD (xs.length - k) 0

/-- `xs[-n:]`. -/
def lastN (xs : List ℚ) (n : ℕ) : List ℚ := xs.drop (xs.length - n)

/-- `_calc_rsi`. -/
def calcRsi (closes : List ℚ) (period : ℕ) : ℚ :=
  if closes.length < period + 1 then 1 / 2
  else
    let moves := List.zipWith (fun a b => b - a) closes closes.tail
    let avgGain := (lastN (moves.map (max · 0)) period).sum / period
    let avgLoss := (lastN (moves.map fun d => max (-d) 0) period).sum / period
    if avgLoss = 0 then 1
    else
      let rs := avgGain / avgLoss
      roundDigits (rs / (1 + rs)) 4

/-- The true ranges, from the second candle on. -/
def trueRanges (highs lows closes : List ℚ) : List ℚ :=
  (List.range' 1 (highs.length - 1)).map fun i =>
    max (highs.getD i 0 - lows.getD i 0)
      (max |highs.getD i 0 - closes.getD (i - 1) 0| |lows.getD i 0 - closes.getD (i - 1) 0|)

/-- `_calc_atr_norm`: the average true range over the last price. -/
def calcAtrNorm (highs lows closes : List ℚ) (period : ℕ) : ℚ :=
  if highs.length < period + 1 ∨ fromEnd closes 1 = 0 then 0
  else
    let atr := (lastN (trueRanges highs lows closes) period).sum / period
    roundDigits (atr / fromEnd closes 1) 6

/-- A move in basis points; none from a price of zero. -/
def moveBps (fromPrice toPrice : ℚ) : ℚ :=
  if fromPrice = 0 then 0 else (toPrice - fromPrice) / fromPrice * 10000

/-- A ratio, or a default where the denominator is not positive. -/
def ratioOr (default a b : ℚ) : ℚ := if 0 < b then a / b else default

/-- `build_futures_features`; `none` for fewer than 21 candles or a last price of zero. -/
def buildFuturesFeatures (candles : List PriceCandle) (obImbalance : ℚ) : Option (List ℚ) :=
  let closes := candles.map PriceCandle.close
  let highs := candles.map PriceCandle.high
  let lows := candles.map PriceCandle.low
  let vols := candles.map PriceCandle.volume
  let opens := candles.map PriceCandle.openPrice
  let c := fromEnd closes 1
  let o := fromEnd opens 1
  if candles.length < 21 ∨ c = 0 then none
  else
    let priceChange1 := moveBps (fromEnd closes 2) c
    let hl := fromEnd highs 1 - fromEnd lows 1
    let avgVol5 := (lastN vols 6).dropLast.sum / 5
    let avgVol20 := (lastN vols 21).dropLast.sum / 20
    let high20 := (lastN highs 20).max?.getD 0
    let low20 := (lastN lows 20).min?.getD 0
    some
      [priceChange1, moveBps (fromEnd closes 6) c, moveBps (fromEnd closes 21) c,
        calcAtrNorm highs lows closes 14,
        calcAtrNorm (lastN highs 6) (lastN lows 6) (lastN closes 6) 5, hl / c,
        ratioOr 1 (fromEnd vols 1) avgVol5, ratioOr 1 (fromEnd vols 1) avgVol20,
        ratioOr 0 (avgVol5 - avgVol20) avgVol20,
        ratioOr 0 |c - o| hl, ratioOr 0 (fromEnd highs 1 - max c o) hl,
        ratioOr 0 (min c o - fromEnd lows 1) hl,
        priceChange1, if 0 < priceChange1 then 1 else -1,
        calcRsi closes 14,
        ratioOr (1 / 2) (high20 - c) (high20 - low20), ratioOr (1 / 2) (c - low20) (high20 - low20),
        obImbalance]

/-- `build_spot_features`, with what is known of the book and the trades. -/
def buildSpotFeatures (candles : List PriceCandle)
    (spreadBps obImbalance askDepth bidDepth tradesPerMin : ℚ) : Option (List ℚ) :=
  let closes := candles.map PriceCandle.close
  let highs := candles.map PriceCandle.high
  let lows := candles.map PriceCandle.low
  let vols := candles.map PriceCandle.volume
  let opens := candles.map PriceCandle.openPrice
  let c := fromEnd closes 1
  if candles.length < 21 ∨ c = 0 then none
  else
    let avgVol5 := (lastN vols 6).dropLast.sum / 5
    let hl := fromEnd highs 1 - fromEnd lows 1
    let high20 := (lastN highs 20).max?.getD 0
    let low20 := (lastN lows 20).min?.getD 0
    some
      [spreadBps, obImbalance, tradesPerMin,
        moveBps (fromEnd closes 2) c, moveBps (fromEnd closes 6) c,
        ratioOr 1 (fromEnd vols 1) avgVol5, calcAtrNorm highs lows closes 14,
        ratioOr 0 |c - fromEnd opens 1| hl, calcRsi closes 14,
        ratioOr (1 / 2) (high20 - c) (high20 - low20), ratioOr (1 / 2) (c - low20) (high20 - low20),
        obImbalance, askDepth, bidDepth]

end FeatureEngine

end Botik
