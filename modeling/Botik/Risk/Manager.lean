import Mathlib.Algebra.Order.Field.Rat
import Mathlib.Tactic.Linarith

/-!
# The risk manager

`check_order` of `risk/manager.py`: the limits every entry order has to respect. The exposures are
given by the caller; the new order counts with its leverage.

## Main definitions

* `RiskManager` and its two caps
* `RiskCheckResult`, `RiskManager.checkOrder`
* `lastMinute` — the registered orders that count for the rate
* `RiskCall`, `RiskManager.call` — the two methods, on the times that are kept

## Main results

* `checkOrder_allowed_iff` — what an admitted order respects
-/

namespace Botik

/-- The limits of a run. -/
structure RiskManager where
  initialEquity : ℚ
  maxTotalPct : ℚ
  maxSymbolExposurePct : ℚ
  maxOrdersPerMinute : ℤ
  maxOpenPositions : ℤ
  deriving DecidableEq, Repr

/-- The verdict on an order, with the numbers its reason shows. -/
inductive RiskCheckResult
  | ok
  | notionalNotPositive
  | maxOrdersPerMinuteExceeded
  | maxOpenPositionsReached (current limit : ℤ)
  | totalExposureExceeded (newTotal limit : ℚ)
  | symbolExposureExceeded (newSymbol limit : ℚ)
  deriving DecidableEq, Repr

/-- The order may be sent. -/
def RiskCheckResult.allowed (result : RiskCheckResult) : Bool := result = .ok

/-- The leverage that counts: at least one, and one where none is given. -/
def effectiveLeverage (leverage : Option ℚ) : ℚ := max (leverage.getD 1) 1

theorem one_le_effectiveLeverage (leverage : Option ℚ) : 1 ≤ effectiveLeverage leverage :=
  le_max_right _ _

namespace RiskManager

variable (m : RiskManager)

def maxTotalExposureUsdt : ℚ := m.initialEquity * (m.maxTotalPct / 100)

def maxSymbolExposureUsdt : ℚ := m.initialEquity * (m.maxSymbolExposurePct / 100)

/-- `check_order`, with the number of orders of the last minute. -/
def checkOrder (ordersInLastMinute : ℕ) (price qty currentTotalExposure currentSymbolExposure : ℚ)
    (currentOpenPositions : ℕ) (leverage : Option ℚ) : RiskCheckResult :=
  let notional := price * qty * effectiveLeverage leverage
  if notional ≤ 0 then .notionalNotPositive
  else if m.maxOrdersPerMinute ≤ ordersInLastMinute then .maxOrdersPerMinuteExceeded
  else if 0 < m.maxOpenPositions ∧ m.maxOpenPositions ≤ currentOpenPositions then
    .maxOpenPositionsReached currentOpenPositions m.maxOpenPositions
  else if m.maxTotalExposureUsdt < currentTotalExposure + notional then
    .totalExposureExceeded (currentTotalExposure + notional) m.maxTotalExposureUsdt
  else if m.maxSymbolExposureUsdt < currentSymbolExposure + notional then
    .symbolExposureExceeded (currentSymbolExposure + notional) m.maxSymbolExposureUsdt
  else .ok

variable {m} {ordersInLastMinute currentOpenPositions : ℕ} {leverage : Option ℚ}
  {price qty currentTotalExposure currentSymbolExposure : ℚ}

/-- An admitted order has a notional, and respects the four limits. -/
theorem checkOrder_allowed_iff :
    (m.checkOrder ordersInLastMinute price qty currentTotalExposure currentSymbolExposure
        currentOpenPositions leverage).allowed = true ↔
      0 < price * qty * effectiveLeverage leverage ∧ ordersInLastMinute < m.maxOrdersPerMinute ∧
        (0 < m.maxOpenPositions → currentOpenPositions < m.maxOpenPositions) ∧
        currentTotalExposure + price * qty * effectiveLeverage leverage ≤ m.maxTotalExposureUsdt ∧
        currentSymbolExposure + price * qty * effectiveLeverage leverage ≤
          m.maxSymbolExposureUsdt := by
  unfold checkOrder RiskCheckResult.allowed
  dsimp only
  split_ifs with hnotional horders hpositions htotal hsymbol
  · simp [hnotional.not_gt]
  · simp [horders.not_gt]
  · simp [hpositions.1, hpositions.2.not_gt]
  · simp [htotal.not_ge]
  · simp [hsymbol.not_ge]
  · have hopen : 0 < m.maxOpenPositions → currentOpenPositions < m.maxOpenPositions :=
      fun hlimit => not_le.mp fun hreached => hpositions ⟨hlimit, hreached⟩
    exact iff_of_true (decide_eq_true rfl) ⟨not_le.mp hnotional, not_le.mp horders, hopen,
      not_lt.mp htotal, not_lt.mp hsymbol⟩

end RiskManager

/-! ### The rate -/

/-- The times of the last minute. -/
def lastMinute (clock : ℚ) (timestamps : List ℚ) : List ℚ :=
  timestamps.dropWhile fun timestamp => 60 < clock - timestamp

/-- The arguments of `check_order`. -/
structure RiskOrder where
  price : ℚ
  qty : ℚ
  currentTotalExposure : ℚ
  currentSymbolExposure : ℚ
  currentOpenPositions : ℕ
  leverage : Option ℚ
  deriving DecidableEq, Repr

/-- A call of one of the two methods, at a time of the clock. -/
inductive RiskCall
  | checkOrder (now : ℚ) (order : RiskOrder)
  | registerOrderPlaced (now : ℚ)
  deriving DecidableEq, Repr

def RiskCall.now : RiskCall → ℚ
  | .checkOrder now _ => now
  | .registerOrderPlaced now => now

/-- The verdict of `check_order`, and the times it keeps; an order without a notional is refused
before the times are looked at. -/
def RiskManager.checkAt (m : RiskManager) (now : ℚ) (order : RiskOrder) (timestamps : List ℚ) :
    RiskCheckResult × List ℚ :=
  if order.price * order.qty * effectiveLeverage order.leverage ≤ 0 then
    (.notionalNotPositive, timestamps)
  else
    (m.checkOrder (lastMinute now timestamps).length order.price order.qty
      order.currentTotalExposure order.currentSymbolExposure order.currentOpenPositions
      order.leverage, lastMinute now timestamps)

/-- The times after a call. -/
def RiskManager.call (m : RiskManager) (c : RiskCall) (timestamps : List ℚ) : List ℚ :=
  match c with
  | .checkOrder now order => (m.checkAt now order timestamps).2
  | .registerOrderPlaced now => lastMinute now (timestamps ++ [now])

section Rate

variable {m : RiskManager} {now : ℚ} {order : RiskOrder} {timestamps : List ℚ}

/-- An admitted order finds fewer than the limit in the last minute. -/
theorem length_lt_of_checkAt_ok (h : (m.checkAt now order timestamps).1.allowed = true) :
    (((lastMinute now timestamps).length : ℕ) : ℤ) < m.maxOrdersPerMinute := by
  unfold RiskManager.checkAt at h
  split_ifs at h
  · cases h
  · exact (RiskManager.checkOrder_allowed_iff.mp h).2.1

/-- An order refused for the rate finds the limit in the last minute. -/
theorem le_length_of_checkAt_exceeded
    (h : (m.checkAt now order timestamps).1 = .maxOrdersPerMinuteExceeded) :
    m.maxOrdersPerMinute ≤ (((lastMinute now timestamps).length : ℕ) : ℤ) := by
  unfold RiskManager.checkAt at h
  split_ifs at h with hnotional
  unfold RiskManager.checkOrder at h
  dsimp only at h
  split_ifs at h with hrate
  exact hrate

end Rate

end Botik
