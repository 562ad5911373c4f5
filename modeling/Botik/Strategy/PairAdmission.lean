import Mathlib.Algebra.Order.Field.Rat

/-!
# The pair admission filter

`evaluate_pair_admission` measures a pair, checks every measurement against its threshold, and keeps
a gate with two clocks: since when the pair has met all conditions, and until when it cools down
after a critical failure. The measurements are statistics of the recent market data; any values of
them are considered here.

## Main definitions

* `PairConfig`, `PairMeasurements`
* `PairMeasurements.failed`, `PairMeasurements.IsCritical`, `PairMeasurements.AllOk`
* `evaluatePairAdmission` — one call
-/

namespace Botik

/-- The thresholds and durations of the configuration. -/
structure PairConfig where
  maxBookSilenceMs : ℤ
  maxTradeSilenceMs : ℤ
  minTradesPerMin : ℚ
  maxP95TradeGapMs : ℚ
  maxMaxGapMs : ℚ
  orderNotionalQuote : ℚ
  minDepthMultiplier : ℚ
  minSpreadBps : ℚ
  maxVolToSpreadRatio : ℚ
  minHoldSeconds : ℤ
  cooldownSeconds : ℤ

/-- What is measured of a pair. A gap of `none` is infinite: there are no two trades. -/
structure PairMeasurements where
  snapshotReady : Bool
  bookTs : Option ℤ
  tradeTs : Option ℤ
  hasBook : Bool
  hasLevels : Bool
  tradesPerMin : ℚ
  p95TradeGapMs : Option ℚ
  maxTradeGapMs : Option ℚ
  depthBidQuote : ℚ
  depthAskQuote : ℚ
  totalSlippageBps : ℚ
  /-- The bound on the slippage, after autocalibration. -/
  maxTotalSlippageBps : ℚ
  liveSpreadBps : ℚ
  medianSpreadBps : ℚ
  minRequiredSpreadBps : ℚ
  vol1sBps : ℚ

/-- A call: the time and what is measured then. -/
structure PairEvaluation where
  now : ℤ
  measured : PairMeasurements

/-- The gate of a symbol; a clock that is not set is zero. -/
structure PairGate where
  cooldownUntilMs : ℤ
  passSinceMs : ℤ
  deriving DecidableEq, Repr

inductive PairStatus
  | pass
  | watch
  | reject
  deriving DecidableEq, Repr

def PairStatus.text : PairStatus → String
  | .pass => "PASS"
  | .watch => "WATCH"
  | .reject => "REJECT"

structure PairAdmissionDecision where
  status : PairStatus
  reason : String
  staleData : Bool
  dataAgeMs : ℤ
  minRequiredSpreadBps : ℚ
  deriving DecidableEq, Repr

/-- What the trading state keeps of a symbol: the gate, and the snapshot of the last decision. -/
structure PairState where
  gate : PairGate
  snapshot : Option PairAdmissionDecision

def PairState.initial : PairState := ⟨⟨0, 0⟩, none⟩

/-! ### Conditions -/

/-- The age of what was last seen at a time, if anything was. -/
def ageMs (now : ℤ) (ts : Option ℤ) : ℤ := (ts.map fun ts => now - ts).getD (10 ^ 9)

namespace PairEvaluation

variable (c : PairConfig) (e : PairEvaluation)

/-- `data_age_ms`. -/
def dataAgeMs : ℤ := max (ageMs e.now e.measured.bookTs) (ageMs e.now e.measured.tradeTs)

/-- `stale_data`. -/
def StaleData : Prop :=
  e.measured.snapshotReady = false ∨
    c.maxBookSilenceMs < ageMs e.now e.measured.bookTs ∨
    c.maxTradeSilenceMs < ageMs e.now e.measured.tradeTs ∨
    e.measured.hasBook = false ∨ e.measured.hasLevels = false

instance : Decidable (StaleData c e) := inferInstanceAs (Decidable (_ ∨ _))

end PairEvaluation

namespace PairMeasurements

variable (c : PairConfig) (m : PairMeasurements)

/-- A gap is within a limit; an infinite one is not. -/
def gapWithin (gap : Option ℚ) (limit : ℚ) : Bool := gap.any (· ≤ limit)

def depth : ℚ := min m.depthBidQuote m.depthAskQuote

def depthFloor : ℚ := c.orderNotionalQuote * c.minDepthMultiplier

def condTrades : Bool := c.minTradesPerMin ≤ m.tradesPerMin

def condGapP95 : Bool := gapWithin m.p95TradeGapMs c.maxP95TradeGapMs

def condGapMax : Bool := gapWithin m.maxTradeGapMs c.maxMaxGapMs

def condDepth : Bool := depthFloor c ≤ m.depth

def condSlippage : Bool := m.totalSlippageBps ≤ m.maxTotalSlippageBps

def condMinSpread : Bool := max c.minSpreadBps 0 ≤ m.liveSpreadBps

def condSpread : Bool := m.minRequiredSpreadBps ≤ m.medianSpreadBps

def condVol : Bool :=
  m.vol1sBps ≤ if 0 < m.medianSpreadBps then m.medianSpreadBps * c.maxVolToSpreadRatio else 0

/-- The conditions with their names, in the order of the source. -/
def conditions : List (Bool × String) :=
  [(m.condTrades c, "trades_per_min"), (m.condGapP95 c, "p95_trade_gap"),
    (m.condGapMax c, "max_trade_gap"), (m.condDepth c, "depth"), (m.condSlippage, "slippage"),
    (m.condMinSpread c, "min_spread"), (m.condSpread, "spread"), (m.condVol c, "vol")]

/-- `failed`. -/
def failed : List String := ((m.conditions c).filter fun cond => ¬ cond.1).map Prod.snd

/-- The first three failed conditions, as a text. -/
def failedText : String := String.intercalate "," ((m.failed c).take 3)

end PairMeasurements

namespace PairEvaluation

variable (c : PairConfig) (e : PairEvaluation)

/-- `critical`. -/
def IsCritical : Prop :=
  e.StaleData c ∨
    (e.measured.condDepth c = false ∧
      e.measured.depth < PairMeasurements.depthFloor c * (1 / 2)) ∨
    (e.measured.condGapMax c = false ∧
      PairMeasurements.gapWithin e.measured.maxTradeGapMs (c.maxMaxGapMs * (3 / 2)) = false) ∨
    (e.measured.condSlippage = false ∧
      e.measured.maxTotalSlippageBps * (3 / 2) < e.measured.totalSlippageBps)

instance : Decidable (IsCritical c e) := inferInstanceAs (Decidable (_ ∨ _))

/-- `all_ok`. -/
def AllOk : Prop := ¬ e.StaleData c ∧ ∀ cond ∈ e.measured.conditions c, cond.1 = true

instance : Decidable (AllOk c e) := inferInstanceAs (Decidable (_ ∧ _))

end PairEvaluation

/-! ### The gate -/

/-- `hold_ms_required`. -/
def PairConfig.holdMs (c : PairConfig) : ℤ := max c.minHoldSeconds 0 * 1000

/-- The length of a cooldown. -/
def PairConfig.cooldownMs (c : PairConfig) : ℤ := max c.cooldownSeconds 0 * 1000

/-- Since when all conditions have been met, at a call that meets them. -/
def PairGate.passSince (g : PairGate) (now : ℤ) : ℤ :=
  if g.passSinceMs ≤ 0 then now else g.passSinceMs

/-- Status, reason and gate of a call. -/
def gateStatus (c : PairConfig) (e : PairEvaluation) (g : PairGate) :
    PairStatus × String × PairGate :=
  if e.AllOk c then
    let gate := { g with passSinceMs := g.passSince e.now }
    if e.now < g.cooldownUntilMs then (.watch, "COOLDOWN", gate)
    else if e.now - g.passSince e.now < c.holdMs then (.watch, "PASS_HOLD", gate)
    else (.pass, "OK", gate)
  else if e.IsCritical c then
    (.reject,
      if e.StaleData c then "STALE_DATA"
      else if e.measured.failed c = [] then "CRITICAL"
      else "CRITICAL_" ++ e.measured.failedText c,
      ⟨e.now + c.cooldownMs, 0⟩)
  else
    (.watch,
      if e.measured.failed c = [] then "WATCH" else "WATCH_" ++ e.measured.failedText c,
      { g with passSinceMs := 0 })

/-- `evaluate_pair_admission`. -/
def evaluatePairAdmission (c : PairConfig) (e : PairEvaluation) (s : PairState) :
    PairAdmissionDecision × PairState :=
  let (status, reason, gate) := gateStatus c e s.gate
  let decision : PairAdmissionDecision :=
    { status := status
      reason := reason
      staleData := e.StaleData c
      dataAgeMs := e.dataAgeMs
      minRequiredSpreadBps := e.measured.minRequiredSpreadBps }
  (decision, ⟨gate, some decision⟩)

end Botik
