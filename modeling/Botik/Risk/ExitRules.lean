import Mathlib.Algebra.Order.Field.Rat
import Mathlib.Algebra.Order.Group.Abs
import Botik.Risk.FuturesRules

/-!
# Exit rules

`decide_exit_reason` of `risk/exit_rules.py` and the override by the futures risk
state, `futures_force_exit_reason_from_risk_state` of `main.py`.

## Main definitions

* `ExitReason`, `ExitRules`, `decideExitReason`
* `futuresForceExitReasonFromRiskState`
-/

namespace Botik

inductive ExitReason
  | stopLoss
  | takeProfit
  | fallbackStoploss
  | fallbackBreakeven
  | fallbackTrailing
  | holdTimeout
  | futuresHardFailure
  | futuresUnprotectedPosition
  deriving DecidableEq, Repr

def ExitReason.text : ExitReason → String
  | .stopLoss => "stop_loss"
  | .takeProfit => "take_profit"
  | .fallbackStoploss => "fallback_stoploss"
  | .fallbackBreakeven => "fallback_breakeven"
  | .fallbackTrailing => "fallback_trailing"
  | .holdTimeout => "hold_timeout"
  | .futuresHardFailure => "futures_hard_failure"
  | .futuresUnprotectedPosition => "futures_unprotected_position"

/-- The limits `decide_exit_reason` compares with. -/
structure ExitRules where
  holdTimeoutSec : ℚ
  pnlExitEnabled : Bool
  stopLossPct : ℚ
  takeProfitPct : ℚ
  fallbackStoplossBps : ℚ
  fallbackBreakevenBps : ℚ
  fallbackTrailingBps : ℚ
  fallbackTrailingActivationBps : ℚ

/-- The rules on the profit itself. -/
def pnlExitReason (rules : ExitRules) (pnlPct : Option ℚ) : Option ExitReason :=
  match pnlPct with
  | none => none
  | some pnl =>
    if ¬ rules.pnlExitEnabled then none
    else if 0 < rules.stopLossPct ∧ pnl ≤ -rules.stopLossPct then some .stopLoss
    else if 0 < rules.takeProfitPct ∧ rules.takeProfitPct ≤ pnl then some .takeProfit
    else none

/-- The fallback rules, on the profit and its peak in basis points. -/
def fallbackExitReason (rules : ExitRules) (pnlBps : Option ℚ) (peak : ℚ) : Option ExitReason :=
  match pnlBps with
  | none => none
  | some bps =>
    if 0 < rules.fallbackStoplossBps ∧ bps ≤ -|rules.fallbackStoplossBps| then
      some .fallbackStoploss
    else if 0 < rules.fallbackBreakevenBps ∧ rules.fallbackBreakevenBps ≤ peak ∧ bps ≤ 0 then
      some .fallbackBreakeven
    else if 0 < rules.fallbackTrailingBps ∧ max rules.fallbackTrailingActivationBps 0 ≤ peak ∧
        bps ≤ peak - |rules.fallbackTrailingBps| then
      some .fallbackTrailing
    else none

/-- `decide_exit_reason`: the reason, if there is one, and the updated peak. -/
def decideExitReason (rules : ExitRules) (pnlPct : Option ℚ) (ageSec peakPnlBps : ℚ) :
    Option ExitReason × ℚ :=
  let pnlBps := pnlPct.map (· * 10000)
  let peak := (pnlBps.map (max peakPnlBps ·)).getD peakPnlBps
  let reason := (pnlExitReason rules pnlPct).or (fallbackExitReason rules pnlBps peak)
  (reason.or (if rules.holdTimeoutSec ≤ ageSec then some .holdTimeout else none), peak)

/-- `futures_force_exit_reason_from_risk_state`. -/
def futuresForceExitReasonFromRiskState (currentReason : Option ExitReason)
    (riskState : FuturesRiskState) : Option ExitReason :=
  match riskState with
  | .hardFailure => currentReason.or (some .futuresHardFailure)
  | .unprotectedPosition => currentReason.or (some .futuresUnprotectedPosition)
  | _ => currentReason

end Botik
