import Botik.Position.Sizer
import Mathlib.Tactic.FieldSimp

/-!
# The limits of a sized position

The target is one and a half times as far from the entry as the stop, the notional stays below its
part of the balance whichever way the quantity is found, and at the fixed risk no more than its part
of the balance is lost at the stop. Printing eight decimals can go up, so each limit holds up to
half of the last one.

## Main definitions

* `halfDigit` — half of the eighth decimal
* `KeepsRatio`, `KeepsLimits` — the limits of a stop and target, and of a quantity

## Main results

* `keepsRatio_calcSlTp`, `keepsLimits_calcQty`
* `sizing_within_limits`
-/

namespace Botik

/-- Half of the eighth decimal. -/
def halfDigit : ℚ := 1 / 2 / 10 ^ 8

/-- The target is one and a half times as far as the stop, up to the rounding of both. -/
def KeepsRatio (entry : ℚ) (slTp : ℚ × ℚ) : Prop :=
  minRrRatio * |entry - slTp.1| ≤ |slTp.2 - entry| + (1 + minRrRatio) * halfDigit

/-- A quantity that is not negative, of a notional below its limit and, at the fixed risk, a loss
below its limit, up to the rounding of the quantity. -/
structure KeepsLimits (z : PositionSizer) (balance entry stopLoss : ℚ) (record : TradeRecord)
    (qty : ℚ) : Prop where
  nonneg : 0 ≤ qty
  notional : qty * entry ≤ balance * z.maxPositionPct + halfDigit * entry
  risk : ¬ record.UsesKelly →
    qty * |entry - stopLoss| ≤ balance * z.riskPct + halfDigit * |entry - stopLoss|

variable {z : PositionSizer} {balance entry stopLoss atr : ℚ} {record : TradeRecord}

/-! ### Stop and target -/

/-- A distance to a number that was rounded, or to the one it was rounded from. -/
theorem abs_sub_le_add_halfDigit {x y : ℚ} (h : |x - y| ≤ halfDigit) (a : ℚ) :
    |a - x| ≤ |a - y| + halfDigit := by
  have htriangle := abs_sub_le a y x
  rw [abs_sub_comm y x] at htriangle
  linarith

/-- The rounded distances, from the exact ones. -/
theorem keepsRatio_of_distances {sl tp : ℚ} (h : minRrRatio * |entry - sl| ≤ |tp - entry|) :
    KeepsRatio entry (Text.fixed8 sl, Text.fixed8 tp) := by
  have hsl : |Text.fixed8 sl - sl| ≤ halfDigit := Rounding.abs_fixed8_sub_le sl
  have htp : |tp - Text.fixed8 tp| ≤ halfDigit := by
    rw [abs_sub_comm]
    exact Rounding.abs_fixed8_sub_le tp
  have hstop := abs_sub_le_add_halfDigit hsl entry
  have htarget := abs_sub_le_add_halfDigit htp entry
  rw [abs_sub_comm entry tp, abs_sub_comm entry (Text.fixed8 tp)] at htarget
  unfold KeepsRatio minRrRatio at *
  linarith

/-- The multiplier of the target is raised until the ratio holds. -/
theorem keepsRatio_calcSlTp {slMult tpMult : Option ℚ} (hatr : 0 ≤ atr)
    (hsl : 0 < slMult.getD z.atrSlMult) (entry : ℚ) (direction : String) :
    ∃ slTp, z.calcSlTp entry atr direction slMult tpMult = .ok slTp ∧ KeepsRatio entry slTp := by
  obtain ⟨tm, hratio, heq⟩ := calcSlTp_eq entry atr direction tpMult hsl
  refine ⟨_, heq, ?_⟩
  have htm : 0 ≤ tm := le_trans (mul_nonneg hsl.le (by norm_num [minRrRatio])) hratio
  have hstop : 0 ≤ slMult.getD z.atrSlMult * atr := mul_nonneg hsl.le hatr
  have htarget : 0 ≤ tm * atr := mul_nonneg htm hatr
  have hfar : minRrRatio * (slMult.getD z.atrSlMult * atr) ≤ tm * atr := by
    calc
      _ = slMult.getD z.atrSlMult * minRrRatio * atr := by ring
      _ ≤ tm * atr := mul_le_mul_of_nonneg_right hratio hatr
  split_ifs
  · apply keepsRatio_of_distances
    rwa [sub_sub_cancel, add_sub_cancel_left, abs_of_nonneg hstop, abs_of_nonneg htarget]
  · apply keepsRatio_of_distances
    rwa [sub_add_cancel_left, sub_sub_cancel_left, abs_neg, abs_neg, abs_of_nonneg hstop,
      abs_of_nonneg htarget]

/-! ### Quantities -/

/-- A quantity below a quotient, printed with eight decimals. -/
theorem fixed8_mul_le {raw limit per : ℚ} (hper : 0 < per) (h : raw ≤ limit / per) :
    Text.fixed8 raw * per ≤ limit + halfDigit * per := by
  have hround := (abs_le.mp (Rounding.abs_fixed8_sub_le raw)).2
  have hup : Text.fixed8 raw ≤ limit / per + halfDigit := by
    unfold halfDigit
    linarith
  calc
    _ ≤ (limit / per + halfDigit) * per := mul_le_mul_of_nonneg_right hup hper.le
    _ = limit + halfDigit * per := by rw [add_mul, div_mul_cancel₀ _ hper.ne']

section Qty

variable (hentry : 0 < entry) (hbalance : 0 ≤ balance) (hmax : 0 ≤ z.maxPositionPct)

include hentry hbalance hmax

theorem maxQty_nonneg : 0 ≤ balance * z.maxPositionPct / entry :=
  div_nonneg (mul_nonneg hbalance hmax) hentry.le

/-- The fixed risk keeps both limits. -/
theorem keepsLimits_riskQty (hrisk : 0 ≤ z.riskPct) (stopLoss : ℚ) (record : TradeRecord) :
    ∃ qty, z.riskQty balance entry stopLoss = .ok qty ∧
      KeepsLimits z balance entry stopLoss record qty := by
  have hdigit : 0 ≤ halfDigit := by norm_num [halfDigit]
  by_cases hstop : entry = stopLoss
  · refine ⟨0, riskQty_of_eq hstop, le_rfl, ?_, fun _ => ?_⟩
    · rw [zero_mul]
      exact add_nonneg (mul_nonneg hbalance hmax) (mul_nonneg hdigit hentry.le)
    · rw [zero_mul]
      exact add_nonneg (mul_nonneg hbalance hrisk) (mul_nonneg hdigit (abs_nonneg _))
  · have hdistance : 0 < |entry - stopLoss| := abs_pos.mpr (sub_ne_zero.mpr hstop)
    have hqty : 0 ≤ balance * z.riskPct / |entry - stopLoss| :=
      div_nonneg (mul_nonneg hbalance hrisk) hdistance.le
    refine ⟨_, riskQty_eq hentry.ne' hstop, ?_, ?_, fun _ => ?_⟩
    · exact Rounding.fixed8_nonneg (le_min hqty (maxQty_nonneg hentry hbalance hmax))
    · exact fixed8_mul_le hentry (min_le_right _ _)
    · exact fixed8_mul_le hdistance (min_le_left _ _)

/-- Whichever way the quantity is found, it keeps its limits. -/
theorem keepsLimits_calcQty (hrisk : 0 ≤ z.riskPct) (stopLoss : ℚ) (record : TradeRecord) :
    ∃ qty, z.calcQty balance entry stopLoss record = .ok qty ∧
      KeepsLimits z balance entry stopLoss record qty := by
  by_cases hkelly : record.UsesKelly
  · have hpos : 0 < record.fullKelly := hkelly.2.2.2.2
    have hqty : 0 ≤ balance * (record.fullKelly * (1 / 4)) / entry :=
      div_nonneg (mul_nonneg hbalance (mul_nonneg hpos.le (by norm_num))) hentry.le
    refine ⟨_, calcQty_of_usesKelly hentry.ne' hkelly, ?_, ?_, fun h => absurd hkelly h⟩
    · exact Rounding.fixed8_nonneg (le_min hqty (maxQty_nonneg hentry hbalance hmax))
    · exact fixed8_mul_le hentry (min_le_right _ _)
  · rw [calcQty_of_not_usesKelly hentry.ne' hkelly]
    exact keepsLimits_riskQty hentry hbalance hmax hrisk stopLoss record

end Qty

/-- For every entry, range, balance and record, the stop and the target keep their ratio and the
quantity keeps its limits, and the fixed risk is taken wherever the Kelly criterion does not
decide. -/
theorem sizing_within_limits (z : PositionSizer) (entry atr balance stopLoss : ℚ)
    (direction : String) (slMult tpMult : Option ℚ) (record : TradeRecord) (hentry : 0 < entry)
    (hatr : 0 ≤ atr) (hsl : 0 < slMult.getD z.atrSlMult) (hbalance : 0 ≤ balance)
    (hrisk : 0 ≤ z.riskPct) (hmax : 0 ≤ z.maxPositionPct) :
    (∃ slTp, z.calcSlTp entry atr direction slMult tpMult = .ok slTp ∧ KeepsRatio entry slTp) ∧
      (∃ qty, z.calcQty balance entry stopLoss record = .ok qty ∧
        KeepsLimits z balance entry stopLoss record qty) ∧
      (¬ record.UsesKelly →
        z.calcQty balance entry stopLoss record = z.riskQty balance entry stopLoss) :=
  ⟨keepsRatio_calcSlTp hatr hsl entry direction,
    keepsLimits_calcQty hentry hbalance hmax hrisk stopLoss record,
    calcQty_of_not_usesKelly hentry.ne'⟩

/-- A target multiplier below the ratio, and a stop so near that the balance is the limit. -/
theorem near_stop_within_limits :
    (PositionSizer.default.calcSlTp 3 (1 / 7) "long" none (some 1)).toOption =
        some (278571429 / 10 ^ 8, 332142857 / 10 ^ 8) ∧
      (PositionSizer.default.calcQty 1000 3 (299 / 100) ⟨false, 0, 0, 0⟩).toOption =
        some (6666666667 / 10 ^ 8) ∧
      KeepsLimits .default 1000 3 (299 / 100) ⟨false, 0, 0, 0⟩ (6666666667 / 10 ^ 8) := by
  have hqty : (PositionSizer.default.calcQty 1000 3 (299 / 100) ⟨false, 0, 0, 0⟩).toOption =
      some (6666666667 / 10 ^ 8) := by decide +kernel
  have hlimits := (sizing_within_limits .default 3 (1 / 7) 1000 (299 / 100) "long" none (some 1)
    ⟨false, 0, 0, 0⟩ (by norm_num) (by norm_num) (by norm_num [PositionSizer.default])
    (by norm_num) (by norm_num [PositionSizer.default]) (by norm_num [PositionSizer.default])).2.1
  obtain ⟨qty, hok, hkeeps⟩ := hlimits
  rw [hok] at hqty
  obtain rfl := Option.some.inj hqty
  exact ⟨by decide +kernel, congrArg Except.toOption hok, hkeeps⟩

end Botik
