import Botik.Library.Rounding

/-!
# Position sizing

`PositionSizer` of `position/sizer.py`: stop and target from the average true range, and the
quantity from the risk of the stop or, with a trained model, by the Kelly criterion. Both are
limited by a part of the balance. `round(x, 8)` is `Text.fixed8`; a division by zero raises.

## Main definitions

* `PositionSizer`, `TradeRecord` — the limits, and what is known of earlier trades
* `PositionSizer.calcSlTp`, `riskQty`, `kellyQty`, `calcQty`
* `TradeRecord.fullKelly`, `TradeRecord.UsesKelly` — when the Kelly criterion decides

## Main results

* `calcSlTp_eq` — the stop and target, with the multiplier that keeps the ratio
* `riskQty_eq`, `calcQty_of_usesKelly`, `calcQty_of_not_usesKelly`
-/

namespace Botik

/-- `ZeroDivisionError`. -/
inductive SizingError
  | zeroDivision
  deriving DecidableEq, Repr

/-- A division that raises on zero. -/
def divide (a b : ℚ) : Except SizingError ℚ := if b = 0 then .error .zeroDivision else .ok (a / b)

theorem divide_of_ne_zero (a : ℚ) {b : ℚ} (hb : b ≠ 0) : divide a b = .ok (a / b) := if_neg hb

/-- `MIN_RR_RATIO`. -/
def minRrRatio : ℚ := 3 / 2

/-- The parameters of a `PositionSizer`. -/
structure PositionSizer where
  riskPct : ℚ
  atrSlMult : ℚ
  atrTpMult : ℚ
  maxPositionPct : ℚ
  deriving DecidableEq, Repr

/-- The defaults of the constructor. -/
def PositionSizer.default : PositionSizer where
  riskPct := 1 / 100
  atrSlMult := 3 / 2
  atrTpMult := 5 / 2
  maxPositionPct := 1 / 5

/-- What `calc_qty` is told of the model and of earlier trades. -/
structure TradeRecord where
  isTrained : Bool
  winRate : ℚ
  avgWin : ℚ
  avgLoss : ℚ
  deriving DecidableEq, Repr

namespace PositionSizer

variable (z : PositionSizer)

/-- `calc_sl_tp`: the stop loss and the take profit. -/
def calcSlTp (entry atr : ℚ) (direction : String) (slMult tpMult : Option ℚ) :
    Except SizingError (ℚ × ℚ) := do
  let sm := slMult.getD z.atrSlMult
  let tm := tpMult.getD z.atrTpMult
  let ratio ← divide tm sm
  let tm := if ratio < minRrRatio then sm * minRrRatio else tm
  if direction = "long" then
    return (Text.fixed8 (entry - sm * atr), Text.fixed8 (entry + tm * atr))
  else
    return (Text.fixed8 (entry + sm * atr), Text.fixed8 (entry - tm * atr))

/-- `risk_qty`: a fixed part of the balance is at risk. -/
def riskQty (balance entry stopLoss : ℚ) : Except SizingError ℚ :=
  let stopDistance := |entry - stopLoss|
  if stopDistance = 0 ∨ entry = 0 then .ok 0
  else do
    let riskAmount := balance * z.riskPct
    let qty ← divide riskAmount stopDistance
    let maxQty ← divide (balance * z.maxPositionPct) entry
    return Text.fixed8 (min qty maxQty)

/-- `kelly_qty`: a part of the Kelly criterion, or the fixed risk where it is not positive. -/
def kellyQty (balance entry stopLoss winRate avgWin avgLoss kellyFraction : ℚ) :
    Except SizingError ℚ :=
  if avgLoss = 0 ∨ winRate ≤ 0 then z.riskQty balance entry stopLoss
  else do
    let rr ← divide avgWin avgLoss
    let odds ← divide (1 - winRate) rr
    let fullKelly := winRate - odds
    if fullKelly ≤ 0 then z.riskQty balance entry stopLoss
    else
      let fractional := fullKelly * kellyFraction
      let qty ← divide (balance * fractional) entry
      let maxQty ← divide (balance * z.maxPositionPct) entry
      return Text.fixed8 (min qty maxQty)

/-- `calc_qty`: the Kelly criterion for a trained model with a good record, else the fixed risk. -/
def calcQty (balance entry stopLoss : ℚ) (record : TradeRecord) : Except SizingError ℚ :=
  if record.isTrained = true ∧ 1 / 2 < record.winRate ∧ 0 < record.avgWin ∧ 0 < record.avgLoss then
    z.kellyQty balance entry stopLoss record.winRate record.avgWin record.avgLoss (1 / 4)
  else z.riskQty balance entry stopLoss

end PositionSizer

/-! ### The paths -/

namespace TradeRecord

variable (record : TradeRecord)

/-- The full Kelly criterion. -/
def fullKelly : ℚ := record.winRate - (1 - record.winRate) / (record.avgWin / record.avgLoss)

/-- The Kelly criterion decides the quantity. -/
def UsesKelly : Prop :=
  record.isTrained = true ∧ 1 / 2 < record.winRate ∧ 0 < record.avgWin ∧ 0 < record.avgLoss ∧
    0 < record.fullKelly

instance : Decidable record.UsesKelly := inferInstanceAs (Decidable (_ ∧ _ ∧ _ ∧ _ ∧ _))

end TradeRecord

section Paths

variable {z : PositionSizer} {balance entry stopLoss atr : ℚ} {record : TradeRecord}

theorem riskQty_eq (hentry : entry ≠ 0) (hstop : entry ≠ stopLoss) :
    z.riskQty balance entry stopLoss = .ok (Text.fixed8
      (min (balance * z.riskPct / |entry - stopLoss|) (balance * z.maxPositionPct / entry))) := by
  have hdistance : |entry - stopLoss| ≠ 0 := abs_ne_zero.mpr (sub_ne_zero.mpr hstop)
  unfold PositionSizer.riskQty
  dsimp only
  rw [if_neg (not_or.mpr ⟨hdistance, hentry⟩), divide_of_ne_zero _ hdistance,
    divide_of_ne_zero _ hentry]
  rfl

/-- Without a distance to the stop nothing is bought. -/
theorem riskQty_of_eq (h : entry = stopLoss) : z.riskQty balance entry stopLoss = .ok 0 := by
  unfold PositionSizer.riskQty
  dsimp only
  rw [if_pos (Or.inl (by rw [h, sub_self, abs_zero]))]

/-- Either the Kelly criterion is positive, or `kelly_qty` falls back to the fixed risk. -/
theorem kellyQty_eq (hentry : entry ≠ 0) (hrate : 1 / 2 < record.winRate)
    (hwin : 0 < record.avgWin) (hloss : 0 < record.avgLoss) :
    z.kellyQty balance entry stopLoss record.winRate record.avgWin record.avgLoss (1 / 4) =
      if record.fullKelly ≤ 0 then z.riskQty balance entry stopLoss
      else .ok (Text.fixed8 (min (balance * (record.fullKelly * (1 / 4)) / entry)
        (balance * z.maxPositionPct / entry))) := by
  have hrr : record.avgWin / record.avgLoss ≠ 0 := (div_pos hwin hloss).ne'
  have hguard : ¬ (record.avgLoss = 0 ∨ record.winRate ≤ 0) := by
    rintro (h | h)
    · exact hloss.ne' h
    · linarith
  unfold PositionSizer.kellyQty
  rw [if_neg hguard, divide_of_ne_zero _ hloss.ne', divide_of_ne_zero _ hentry]
  change (divide (1 - record.winRate) (record.avgWin / record.avgLoss) >>= _) = _
  rw [divide_of_ne_zero _ hrr]
  change (if record.fullKelly ≤ 0 then z.riskQty balance entry stopLoss
    else divide (balance * (record.fullKelly * (1 / 4))) entry >>= _) = _
  rw [divide_of_ne_zero _ hentry]
  rfl

theorem calcQty_of_usesKelly (hentry : entry ≠ 0) (h : record.UsesKelly) :
    z.calcQty balance entry stopLoss record =
      .ok (Text.fixed8 (min (balance * (record.fullKelly * (1 / 4)) / entry)
        (balance * z.maxPositionPct / entry))) := by
  obtain ⟨htrained, hrate, hwin, hloss, hkelly⟩ := h
  rw [PositionSizer.calcQty, if_pos ⟨htrained, hrate, hwin, hloss⟩,
    kellyQty_eq hentry hrate hwin hloss, if_neg (not_le.mpr hkelly)]

/-- Wherever the Kelly criterion does not decide, the fixed risk does. -/
theorem calcQty_of_not_usesKelly (hentry : entry ≠ 0) (h : ¬ record.UsesKelly) :
    z.calcQty balance entry stopLoss record = z.riskQty balance entry stopLoss := by
  unfold PositionSizer.calcQty
  split_ifs with hrecord
  · obtain ⟨htrained, hrate, hwin, hloss⟩ := hrecord
    have hkelly : record.fullKelly ≤ 0 :=
      not_lt.mp fun hpos => h ⟨htrained, hrate, hwin, hloss, hpos⟩
    rw [kellyQty_eq hentry hrate hwin hloss, if_pos hkelly]
  · rfl

/-- The stop and the target, with a multiplier of the target that keeps the ratio. -/
theorem calcSlTp_eq (entry atr : ℚ) (direction : String) {slMult : Option ℚ} (tpMult : Option ℚ)
    (hsl : 0 < slMult.getD z.atrSlMult) :
    ∃ tm, slMult.getD z.atrSlMult * minRrRatio ≤ tm ∧
      z.calcSlTp entry atr direction slMult tpMult = .ok
        (if direction = "long" then
          (Text.fixed8 (entry - slMult.getD z.atrSlMult * atr), Text.fixed8 (entry + tm * atr))
        else
          (Text.fixed8 (entry + slMult.getD z.atrSlMult * atr), Text.fixed8 (entry - tm * atr))) := by
  refine ⟨if tpMult.getD z.atrTpMult / slMult.getD z.atrSlMult < minRrRatio then
    slMult.getD z.atrSlMult * minRrRatio else tpMult.getD z.atrTpMult, ?_, ?_⟩
  · split_ifs with hratio
    · exact le_rfl
    · rw [not_lt, le_div_iff₀ hsl] at hratio
      linarith
  · unfold PositionSizer.calcSlTp
    dsimp only
    rw [divide_of_ne_zero _ hsl.ne']
    change (if direction = "long" then _ else _) = _
    split_ifs <;> rfl

end Paths

end Botik
