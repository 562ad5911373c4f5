import Botik.Library.Dict
import Botik.Library.Program
import Botik.Library.Text
import Botik.State.MarketState

/-!
# What the strategies see

A strategy turns the trading state into intents. It reads its configuration with the action
profiles, the books and the pair filter, and keeps one time for every symbol between its calls.

## Main definitions

* `ActionProfile`, `StrategyConfig`, `StrategyConfig.profilesById`
* `TradingView` — the trading state, as a strategy reads it
* `StrategyM` — code that may raise and keeps the times
-/

namespace Botik

open Program

/-- `ActionProfileConfig`. -/
structure ActionProfile where
  profileId : String
  entryTickOffset : ℤ
  orderQtyBase : ℚ
  targetProfit : ℚ
  safetyBuffer : ℚ
  minTopBookQty : ℚ
  stopLossPct : Option ℚ
  takeProfitPct : Option ℚ
  holdTimeoutSec : Option ℤ

/-- The part of the configuration the strategies read. -/
structure StrategyConfig where
  symbols : List String
  scannerEnabled : Bool
  actionProfiles : List ActionProfile
  minSpreadTicks : ℤ
  minSpreadBps : ℚ
  replaceIntervalMs : ℤ
  defaultTickSize : ℚ
  orderQtyBase : ℚ
  entryTickOffset : ℤ
  targetProfit : ℚ
  safetyBuffer : ℚ
  minTopBookQty : ℚ
  stopLossPct : ℚ
  takeProfitPct : ℚ
  positionHoldTimeoutSec : ℤ
  maxOrderNotionalUsdt : ℚ
  orderNotionalQuote : ℚ
  strictPairFilter : Bool
  bootstrapFeeEntryBps : ℚ
  bootstrapFeeExitBps : ℚ
  makerRate : ℚ
  spikeThresholdBps : ℚ
  spikeBurstEnabled : Bool
  spikeBurstSlices : ℤ
  spikeBurstQtyScale : ℚ
  spikeBurstTickStep : ℤ
  spikeProfileId : String
  spikeReversalReverse : Bool
  spikeReversalTaker : Bool
  spikeReversalMinStrengthBps : ℚ
  spikeReversalEntryOffsetTicks : ℤ
  spikeReversalQtyScale : ℚ
  spikeReversalMaxSymbols : ℤ
  spikeReversalCooldownSec : ℚ

/-- What the pair filter says about a spike. -/
structure SpikeSnapshot where
  spikeDirection : Option ℤ
  spikeStrengthBps : Option ℚ

/-- The trading state, as a strategy reads it. -/
structure TradingView where
  paused : Bool
  activeSymbols : List String
  /-- The scanner has produced a snapshot. -/
  scannerReady : Bool
  orderbook : String → Option Market.OrderBookAggregate
  pairFilter : String → Option SpikeSnapshot
  activeProfileId : String → Option String
  tickSize : String → Option ℚ
  /-- `time.monotonic()`. -/
  clock : ℚ
  /-- `uuid.uuid4().hex[:12]`, by the number of the call. -/
  hex : ℕ → String

/-- Strategy code: it may raise, and keeps a time for every symbol. -/
abbrev StrategyM := EStateM String (String → ℚ)

namespace StrategyConfig

/-- The defaults of `config.py`. -/
def default (symbols : List String) : StrategyConfig where
  symbols := symbols
  scannerEnabled := true
  actionProfiles := []
  minSpreadTicks := 1
  minSpreadBps := 8
  replaceIntervalMs := 5000
  defaultTickSize := 1 / 100
  orderQtyBase := 1 / 1000
  entryTickOffset := 1
  targetProfit := 1 / 10000
  safetyBuffer := 5 / 100000
  minTopBookQty := 0
  stopLossPct := 3 / 1000
  takeProfitPct := 5 / 1000
  positionHoldTimeoutSec := 180
  maxOrderNotionalUsdt := 10
  orderNotionalQuote := 50
  strictPairFilter := true
  bootstrapFeeEntryBps := 2
  bootstrapFeeExitBps := 2
  makerRate := 1 / 1000
  spikeThresholdBps := 12
  spikeBurstEnabled := true
  spikeBurstSlices := 4
  spikeBurstQtyScale := 1 / 4
  spikeBurstTickStep := 1
  spikeProfileId := "spike"
  spikeReversalReverse := true
  spikeReversalTaker := true
  spikeReversalMinStrengthBps := 12
  spikeReversalEntryOffsetTicks := 1
  spikeReversalQtyScale := 1
  spikeReversalMaxSymbols := 40
  spikeReversalCooldownSec := 2

variable (c : StrategyConfig)

/-- `profiles_by_id`: a later profile of the same id replaces an earlier one. -/
def profilesById : Dict String ActionProfile :=
  (c.actionProfiles.filter fun p => Text.strip p.profileId ≠ "").foldl
    (fun d p => d.set (Text.strip p.profileId) p) .empty

/-- The profile id of a symbol, or the first of the configuration. -/
def profileIdOf (v : TradingView) (symbol : String) : Option String :=
  (Text.truthy (v.activeProfileId symbol)).or c.profilesById.keys.head?

/-- The profile of an id, if it is configured. -/
def profileOf (profileId : Option String) : Option ActionProfile :=
  c.profilesById.get? (profileId.getD "")

/-- The symbols of a call: those of the scanner once it is ready, else the active ones or all. -/
def symbolsOf (v : TradingView) : List String :=
  if (c.scannerEnabled ∧ v.scannerReady) ∨ v.activeSymbols ≠ [] then v.activeSymbols
  else c.symbols

/-- The tick of a symbol; a missing or zero one is replaced by the configured one. -/
def tickSizeOf (v : TradingView) (symbol : String) : ℚ :=
  ((v.tickSize symbol).filter (· ≠ 0)).getD c.defaultTickSize

end StrategyConfig

namespace TradingView

variable (v : TradingView) (symbol : String)

def spikeDirection : ℤ := ((v.pairFilter symbol).bind SpikeSnapshot.spikeDirection).getD 0

def spikeStrengthBps : ℚ := ((v.pairFilter symbol).bind SpikeSnapshot.spikeStrengthBps).getD 0

end TradingView

end Botik
