import Mathlib.Algebra.Order.Field.Rat

/-!
# Exit policies

A policy looks at an open paper position at every tick and says what to do with it. The paper
engines take any policy; `SimpleExitPolicy` closes at the stop, at the target, or after a time.

## Main definitions

* `PositionSnapshot`, `PolicyAction`
* `SimpleExitPolicy.onTick`, `SimpleExitPolicy.priceReason`

## Main results

* `SimpleExitPolicy.onTick_of_no_timeout` — without a timeout only the price counts
-/

namespace Botik

/-- The side of a paper position. -/
inductive PositionSide
  | long
  | short
  deriving DecidableEq, Repr

/-- A position as a policy sees it. -/
structure PositionSnapshot where
  tradeId : String
  symbol : String
  side : PositionSide
  entryPrice : ℚ
  qty : ℚ
  stopLoss : ℚ
  takeProfit : ℚ
  markPrice : ℚ
  openedAtMs : ℤ
  deriving DecidableEq, Repr

/-- `unrealized_pnl`, of a position of which nothing is closed yet. -/
def PositionSnapshot.unrealizedPnl (p : PositionSnapshot) : ℚ :=
  match p.side with
  | .long => (p.markPrice - p.entryPrice) * p.qty
  | .short => (p.entryPrice - p.markPrice) * p.qty

inductive PolicyActionKind
  | hold
  | closeAll
  | closePartial
  | add
  | hedge
  deriving DecidableEq, Repr

/-- What a policy decides. -/
structure PolicyAction where
  action : PolicyActionKind
  /-- The part of the position, for a partial action. -/
  qtyPct : ℚ
  reason : String
  deriving DecidableEq, Repr

/-- `HOLD`. -/
def PolicyAction.nothing : PolicyAction := ⟨.hold, 1, ""⟩

def PolicyAction.closing (reason : String) : PolicyAction := ⟨.closeAll, 1, reason⟩

/-- What a policy answers at one tick to each position it is asked about. -/
abbrev Policy := PositionSnapshot → PolicyAction

namespace SimpleExitPolicy

/-- The price is at the stop. -/
def StopHit (side : PositionSide) (price stopLoss : ℚ) : Prop :=
  match side with
  | .long => price ≤ stopLoss
  | .short => stopLoss ≤ price

instance (side : PositionSide) (price stopLoss : ℚ) : Decidable (StopHit side price stopLoss) := by
  cases side
  · exact inferInstanceAs (Decidable (price ≤ stopLoss))
  · exact inferInstanceAs (Decidable (stopLoss ≤ price))

/-- The price is at the target. -/
def TargetHit (side : PositionSide) (price takeProfit : ℚ) : Prop :=
  match side with
  | .long => takeProfit ≤ price
  | .short => price ≤ takeProfit

instance (side : PositionSide) (price takeProfit : ℚ) :
    Decidable (TargetHit side price takeProfit) := by
  cases side
  · exact inferInstanceAs (Decidable (takeProfit ≤ price))
  · exact inferInstanceAs (Decidable (price ≤ takeProfit))

/-- The timeout is enabled and has elapsed. -/
def TimedOut (holdTimeoutMs nowMs openedAtMs : ℤ) : Prop :=
  0 < holdTimeoutMs ∧ holdTimeoutMs ≤ nowMs - openedAtMs

instance (holdTimeoutMs nowMs openedAtMs : ℤ) :
    Decidable (TimedOut holdTimeoutMs nowMs openedAtMs) :=
  inferInstanceAs (Decidable (_ ∧ _))

/-- `SimpleExitPolicy.on_tick`. -/
def onTick (holdTimeoutMs nowMs : ℤ) : Policy := fun p =>
  if StopHit p.side p.markPrice p.stopLoss then .closing "sl_hit"
  else if TargetHit p.side p.markPrice p.takeProfit then .closing "tp_hit"
  else if TimedOut holdTimeoutMs nowMs p.openedAtMs then .closing "timeout"
  else .nothing

/-- The price or the time closes the position. -/
def Closes (holdTimeoutMs nowMs : ℤ) (p : PositionSnapshot) : Prop :=
  StopHit p.side p.markPrice p.stopLoss ∨ TargetHit p.side p.markPrice p.takeProfit ∨
    TimedOut holdTimeoutMs nowMs p.openedAtMs

theorem onTick_closeAll_iff {holdTimeoutMs nowMs : ℤ} {p : PositionSnapshot} :
    (onTick holdTimeoutMs nowMs p).action = .closeAll ↔ Closes holdTimeoutMs nowMs p := by
  unfold onTick Closes
  split_ifs with hstop htarget htime
  · simp [hstop, PolicyAction.closing]
  · simp [htarget, PolicyAction.closing]
  · simp [htime, PolicyAction.closing]
  · simp [hstop, htarget, htime, PolicyAction.nothing]

/-- The policy closes everything or nothing. -/
theorem onTick_action (holdTimeoutMs nowMs : ℤ) (p : PositionSnapshot) :
    (onTick holdTimeoutMs nowMs p).action = .closeAll ∨
      (onTick holdTimeoutMs nowMs p).action = .hold := by
  unfold onTick
  split_ifs
  · exact Or.inl rfl
  · exact Or.inl rfl
  · exact Or.inl rfl
  · exact Or.inr rfl

/-- Why a price closes a position, if it does. -/
def priceReason (side : PositionSide) (price stopLoss takeProfit : ℚ) : Option String :=
  if StopHit side price stopLoss then some "sl_hit"
  else if TargetHit side price takeProfit then some "tp_hit" else none

/-- Without a timeout only the price counts. -/
theorem onTick_of_no_timeout (nowMs : ℤ) (p : PositionSnapshot) :
    onTick 0 nowMs p =
      ((priceReason p.side p.markPrice p.stopLoss p.takeProfit).map PolicyAction.closing).getD
        .nothing := by
  have hnever : ¬ TimedOut 0 nowMs p.openedAtMs := fun h => lt_irrefl 0 h.1
  unfold onTick priceReason
  rw [if_neg hnever]
  split_ifs with hstop htarget
  · rfl
  · rfl
  · rfl

end SimpleExitPolicy

end Botik
