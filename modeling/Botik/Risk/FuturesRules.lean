import Mathlib.Algebra.Order.Field.Rat
import Mathlib.Tactic.Linarith
import Botik.Library.Text

/-!
# Futures risk states and protection

`risk/futures_protection.py`: stop and take prices from an entry price and two
percentages. A plan is only built with both prices positive, and carries this as
fields.

`risk/futures_rules.py`. A protection status is stored as one of seven texts;
every writer normalizes it first, so the model keeps the seven values and not
their spelling. The text `""`, which the code uses for "no status known", is
`none`.

## Main definitions

* `FuturesProtectionPlan`, `buildFuturesProtectionPlan`
* `validateFuturesProtectionParams`, `futuresEntryAllowed`
* `ProtectionStatus`, `ProtectionStatus.isBlocking`
* `transitionProtectionStatus` — the status after one attempt to set the stops
* `FuturesRiskState`, `classifyFuturesState` — the cascade of entry gates
* `computeDistanceToLiqBps`

## Main results

* `transitionProtectionStatus_mem_settled` — an attempt always settles
* `transitionProtectionStatus_eq_protected` — what a protected status takes
* `isEntryBlocking_classifyFuturesState_iff` — when the cascade blocks an entry
-/

namespace Botik

/-! ### Planning the protection of a futures position -/

/-- The reasons to refuse protection parameters. -/
inductive ProtectionParamsError
  | missingStopLoss
  | missingTakeProfit
  deriving DecidableEq, Repr

def ProtectionParamsError.text : ProtectionParamsError → String
  | .missingStopLoss => "missing_stop_loss"
  | .missingTakeProfit => "missing_take_profit"

/-- `validate_futures_protection_params`: `none` is ok. -/
def validateFuturesProtectionParams (stopLossPct takeProfitPct : Option ℚ) :
    Option ProtectionParamsError :=
  if stopLossPct.getD 0 ≤ 0 then some .missingStopLoss
  else if takeProfitPct.getD 0 ≤ 0 then some .missingTakeProfit
  else none

/-- A protection plan with usable prices. -/
structure FuturesProtectionPlan where
  stopLoss : ℚ
  takeProfit : ℚ
  trailingStop : Option ℚ
  stopLossPct : ℚ
  takeProfitPct : ℚ
  stopLoss_pos : 0 < stopLoss
  takeProfit_pos : 0 < takeProfit

/-- `build_futures_protection_plan`, without a trailing stop as every caller
leaves it out. -/
def buildFuturesProtectionPlan (entryPrice positionQty stopLossPct takeProfitPct : ℚ) :
    Option FuturesProtectionPlan :=
  if entryPrice ≤ 0 ∨ positionQty = 0 then none
  else if (validateFuturesProtectionParams (some stopLossPct) (some takeProfitPct)).isSome then none
  else
    let stopLoss :=
      if 0 < positionQty then entryPrice * (1 - stopLossPct) else entryPrice * (1 + stopLossPct)
    let takeProfit :=
      if 0 < positionQty then entryPrice * (1 + takeProfitPct)
      else entryPrice * (1 - takeProfitPct)
    if h : 0 < stopLoss ∧ 0 < takeProfit then
      some ⟨stopLoss, takeProfit, none, stopLossPct, takeProfitPct, h.1, h.2⟩
    else none

/-- `futures_entry_allowed`: `none` is ok. -/
def futuresEntryAllowed (stopLossPct takeProfitPct : Option ℚ) (hasUnprotectedPosition : Bool) :
    Option String :=
  match validateFuturesProtectionParams stopLossPct takeProfitPct with
  | some error => some error.text
  | none => if hasUnprotectedPosition then some "symbol_has_unprotected_position" else none

/-! ### Futures risk states and the protection status machine -/

/-- `FUTURES_PROTECTION_STATUSES`. -/
inductive ProtectionStatus
  | unknown
  | pending
  | «protected»
  | unprotected
  | repairing
  | closed
  | failed
  deriving DecidableEq, Repr

namespace ProtectionStatus

/-- `BLOCKING_PROTECTION_STATUSES`. -/
def isBlocking : ProtectionStatus → Bool
  | .pending | .repairing | .failed | .unprotected => true
  | .unknown | .«protected» | .closed => false

/-- The stored text of a status. -/
def text : ProtectionStatus → String
  | .unknown => "unknown"
  | .pending => "pending"
  | .«protected» => "protected"
  | .unprotected => "unprotected"
  | .repairing => "repairing"
  | .closed => "closed"
  | .failed => "failed"

/-- The statuses an attempt to protect a position may end in. -/
def isSettled : ProtectionStatus → Bool
  | .«protected» | .failed | .unprotected | .closed => true
  | .unknown | .pending | .repairing => false

end ProtectionStatus

/-- `transition_protection_status`: a failed attempt is failed; a successful one
is what the verification saw, and a repair that stays unprotected has failed. -/
def transitionProtectionStatus (currentStatus : Option ProtectionStatus)
    (applyAttempted applySuccess : Bool) (verifyStatus : Option ProtectionStatus) :
    ProtectionStatus :=
  if ¬ applyAttempted then currentStatus.getD .pending
  else if ¬ applySuccess then .failed
  else
    match verifyStatus with
    | some .«protected» => .«protected»
    | some .closed => .closed
    | some .failed => .failed
    | some .unprotected => if currentStatus = some .pending then .unprotected else .failed
    | _ => .failed

/-- After an attempt no status is left in between. -/
theorem transitionProtectionStatus_mem_settled (current : Option ProtectionStatus)
    (success : Bool) (verify : Option ProtectionStatus) :
    (transitionProtectionStatus current true success verify).isSettled = true := by
  unfold transitionProtectionStatus
  rw [if_neg (by simp)]
  split
  · rfl
  · split <;> (try split) <;> rfl

/-- Only a successful attempt with a confirming verification protects. -/
theorem transitionProtectionStatus_eq_protected {current : Option ProtectionStatus}
    {success : Bool} {verify : Option ProtectionStatus}
    (h : transitionProtectionStatus current true success verify = .«protected») :
    success = true ∧ verify = some .«protected» := by
  unfold transitionProtectionStatus at h
  rw [if_neg (by simp)] at h
  cases success with
  | false => simp at h
  | true =>
    refine ⟨rfl, ?_⟩
    rcases verify with _ | status
    · simp at h
    · cases status <;> first | rfl | (simp at h; try split at h <;> simp at h)

/-- The risk states of a futures symbol. -/
inductive FuturesRiskState
  | unknown
  | unprotectedPosition
  | softFailure
  | hardFailure
  | floatingLoss
  | healthy
  deriving DecidableEq, Repr

/-- `ENTRY_BLOCKING_FUTURES_RISK_STATES`. -/
def FuturesRiskState.isEntryBlocking : FuturesRiskState → Bool
  | .unprotectedPosition | .softFailure | .hardFailure => true
  | .unknown | .floatingLoss | .healthy => false

/-- The texts of the risk states, as reasons of a rejected entry spell them. -/
def FuturesRiskState.text : FuturesRiskState → String
  | .unknown => "unknown"
  | .unprotectedPosition => "unprotected_position"
  | .softFailure => "soft_failure"
  | .hardFailure => "hard_failure"
  | .floatingLoss => "floating_loss"
  | .healthy => "healthy"

/-- `compute_distance_to_liq_bps`: how far the mark is from liquidation, on the
side the position can lose. -/
def computeDistanceToLiqBps (side : String) (markPrice liqPrice : Option ℚ) : Option ℚ :=
  let mark := markPrice.getD 0
  let liq := liqPrice.getD 0
  if mark ≤ 0 ∨ liq ≤ 0 then none
  else
    let sideNorm := Text.lower (Text.strip side)
    if sideNorm = "buy" ∨ sideNorm = "long" then some ((mark - liq) / mark * 10000)
    else if sideNorm = "sell" ∨ sideNorm = "short" then some ((liq - mark) / mark * 10000)
    else some (|mark - liq| / mark * 10000)

/-- The part of the cascade that reads the unrealized profit. -/
def classifyPnl : Option ℚ → FuturesRiskState
  | none => .unknown
  | some pnl =>
    if pnl ≤ -(1 / 10) then .hardFailure
    else if pnl < -(3 / 100) then .softFailure
    else if pnl < 0 then .floatingLoss
    else .healthy

/-- The part of the cascade that reads the distance to liquidation, then the
profit. -/
def classifyExposure (unrealizedPnlPct distanceToLiqBps : Option ℚ) : FuturesRiskState :=
  match distanceToLiqBps with
  | some distance => if distance ≤ 50 then .hardFailure else classifyPnl unrealizedPnlPct
  | none => classifyPnl unrealizedPnlPct

/-- `classify_futures_state`: protection first. -/
def classifyFuturesState (protectionStatus : ProtectionStatus) (unrealizedPnlPct : Option ℚ)
    (distanceToLiqBps : Option ℚ) : FuturesRiskState :=
  match protectionStatus with
  | .unprotected => .unprotectedPosition
  | .failed | .repairing => .softFailure
  | _ => classifyExposure unrealizedPnlPct distanceToLiqBps

theorem isEntryBlocking_classifyPnl_iff {pnl : Option ℚ} :
    (classifyPnl pnl).isEntryBlocking = true ↔ ∃ p ∈ pnl, p < -(3 / 100) := by
  cases pnl with
  | none => simp [classifyPnl, FuturesRiskState.isEntryBlocking]
  | some p =>
    simp only [classifyPnl, Option.mem_some_iff, exists_eq_left']
    split_ifs with hhard hsoft hloss <;> simp only [FuturesRiskState.isEntryBlocking, true_iff,
      Bool.false_eq_true, false_iff]
    · linarith
    · exact hsoft
    · exact hsoft
    · exact hsoft

theorem isEntryBlocking_classifyExposure_iff {pnl distance : Option ℚ} :
    (classifyExposure pnl distance).isEntryBlocking = true ↔
      (∃ d ∈ distance, d ≤ 50) ∨ ∃ p ∈ pnl, p < -(3 / 100) := by
  cases distance with
  | none => simpa [classifyExposure] using isEntryBlocking_classifyPnl_iff
  | some d =>
    by_cases hd : d ≤ 50
    · simp [classifyExposure, hd, FuturesRiskState.isEntryBlocking]
    · simpa [classifyExposure, hd] using isEntryBlocking_classifyPnl_iff

/-- The states of the cascade that block an entry, in its numbers. -/
theorem isEntryBlocking_classifyFuturesState_iff (status : ProtectionStatus)
    (pnl distance : Option ℚ) :
    (classifyFuturesState status pnl distance).isEntryBlocking = true ↔
      status ∈ [.unprotected, .failed, .repairing] ∨ (∃ d ∈ distance, d ≤ 50) ∨
        ∃ p ∈ pnl, p < -(3 / 100) := by
  cases status with
  | unprotected => simp [classifyFuturesState, FuturesRiskState.isEntryBlocking]
  | failed => simp [classifyFuturesState, FuturesRiskState.isEntryBlocking]
  | repairing => simp [classifyFuturesState, FuturesRiskState.isEntryBlocking]
  | unknown => simpa [classifyFuturesState] using isEntryBlocking_classifyExposure_iff
  | pending => simpa [classifyFuturesState] using isEntryBlocking_classifyExposure_iff
  | «protected» => simpa [classifyFuturesState] using isEntryBlocking_classifyExposure_iff
  | closed => simpa [classifyFuturesState] using isEntryBlocking_classifyExposure_iff

end Botik
