import Botik.Library.Rounding
import Botik.Main.ExitQuote

/-!
# The grid of ticks

Prices are rounded to a multiple of the tick. A price of the grid attracts what lies between the
middles to its two neighbours, so which grid price a number is rounded to, and on which side of a
bound it comes out, is decided by the middles.

## Main definitions

* `OnGrid` — a whole number of ticks
* `InLowerHalf` — below the middle of two neighbouring prices of the grid

## Main results

* `abs_snap_sub_le` — a rounded price is within half a tick
* `snap_lt_iff`, `lt_snap_iff` — rounded below and above a bound
* `snap_lt_snap_iff` — rounded to different prices
-/

namespace Botik

/-- A price below the middle of the `n`-th price of the grid and the next; the middle itself belongs
to the even one. -/
def InLowerHalf (tick : ℚ) (n : ℤ) (price : ℚ) : Prop :=
  price < (n + 1 / 2) * tick ∨ price = (n + 1 / 2) * tick ∧ Even n

instance (tick : ℚ) (n : ℤ) (price : ℚ) : Decidable (InLowerHalf tick n price) :=
  inferInstanceAs (Decidable (_ ∨ _ ∧ _))

theorem tickSizeOr_pos (c : Config) (tickSize : Option ℚ) : 0 < tickSizeOr c tickSize :=
  lt_max_of_lt_right (by norm_num)

variable {tick price price' bound : ℚ}

/-- Rounding moves a price by half a tick at most. -/
theorem abs_snap_sub_le (htick : 0 < tick) (price : ℚ) : |snap tick price - price| ≤ tick / 2 := by
  have hround := Rounding.abs_roundHalfEven_sub_le (price / tick)
  have hscaled : snap tick price - price =
      (Text.roundHalfEven (price / tick) - price / tick) * tick := by
    unfold snap
    rw [sub_mul, div_mul_cancel₀ _ htick.ne']
  rw [hscaled, abs_mul, abs_of_pos htick]
  calc
    _ ≤ 1 / 2 * tick := mul_le_mul_of_nonneg_right hround htick.le
    _ = tick / 2 := by ring

theorem snap_le_iff (htick : 0 < tick) {n : ℤ} :
    snap tick price ≤ n * tick ↔ InLowerHalf tick n price := by
  unfold snap InLowerHalf
  rw [mul_le_mul_iff_left₀ htick, Int.cast_le, Rounding.roundHalfEven_le_iff, div_lt_iff₀ htick,
    div_eq_iff htick.ne']

/-- A price is rounded below a bound exactly when it is rounded to a price of the grid below. -/
theorem snap_lt_iff (htick : 0 < tick) :
    snap tick price < bound ↔ InLowerHalf tick (⌈bound / tick⌉ - 1) price := by
  rw [← snap_le_iff htick]
  unfold snap
  rw [mul_le_mul_iff_left₀ htick, Int.cast_le, ← lt_div_iff₀ htick, ← Int.lt_ceil]
  omega

theorem lt_snap_iff (htick : 0 < tick) :
    bound < snap tick price ↔ ¬ InLowerHalf tick ⌊bound / tick⌋ price := by
  rw [← snap_le_iff htick]
  unfold snap
  rw [mul_le_mul_iff_left₀ htick, Int.cast_le, ← div_lt_iff₀ htick, ← Int.floor_lt, not_le]

/-- Two prices are rounded apart exactly when a middle of the grid lies between them. -/
theorem snap_lt_snap_iff (htick : 0 < tick) : snap tick price < snap tick price' ↔
    ∃ n : ℤ, InLowerHalf tick n price ∧ ¬ InLowerHalf tick n price' := by
  constructor
  · intro h
    refine ⟨Text.roundHalfEven (price / tick), (snap_le_iff htick).mp le_rfl, fun hlow => ?_⟩
    exact absurd ((snap_le_iff htick).mpr hlow) (not_le.mpr h)
  · rintro ⟨n, hlow, hhigh⟩
    rw [← snap_le_iff htick] at hlow hhigh
    exact hlow.trans_lt (not_le.mp hhigh)

theorem snap_ne_snap_iff (htick : 0 < tick) : snap tick price ≠ snap tick price' ↔
    ∃ n : ℤ, ¬ (InLowerHalf tick n price ↔ InLowerHalf tick n price') := by
  constructor
  · intro hne
    rcases lt_or_gt_of_ne hne with hlt | hgt
    · obtain ⟨n, hlow, hhigh⟩ := (snap_lt_snap_iff htick).mp hlt
      exact ⟨n, fun h => hhigh (h.mp hlow)⟩
    · obtain ⟨n, hlow, hhigh⟩ := (snap_lt_snap_iff htick).mp hgt
      exact ⟨n, fun h => hhigh (h.mpr hlow)⟩
  · rintro ⟨n, hn⟩ heq
    refine hn ?_
    rw [← snap_le_iff htick, ← snap_le_iff htick, heq]

theorem snap_pos_iff (htick : 0 < tick) : 0 < snap tick price ↔ tick / 2 < price := by
  rw [lt_snap_iff htick]
  unfold InLowerHalf
  simp only [zero_div, Int.floor_zero, Int.cast_zero, zero_add, Even.zero, and_true, not_or, not_lt]
  constructor
  · rintro ⟨hle, hne⟩
    exact lt_of_le_of_ne (by linarith) fun h => hne (by linarith)
  · intro h
    exact ⟨by linarith, fun heq => by linarith⟩

/-- Some whole number of ticks. -/
def OnGrid (tick price : ℚ) : Prop := ∃ n : ℤ, price = n * tick

theorem onGrid_snap (tick price : ℚ) : OnGrid tick (snap tick price) := ⟨_, rfl⟩

theorem snap_eq_self (htick : 0 < tick) (h : OnGrid tick price) : snap tick price = price := by
  obtain ⟨n, rfl⟩ := h
  unfold snap
  rw [mul_div_cancel_right₀ _ htick.ne', Rounding.roundHalfEven_intCast]

/-- A price moved by some ticks is rounded back only if it was not moved. -/
theorem snap_add_ticks_eq_iff (htick : 0 < tick) (k : ℤ) :
    snap tick (price + k * tick) = price ↔ OnGrid tick price ∧ k = 0 := by
  constructor
  · intro h
    have hgrid : OnGrid tick price := h ▸ onGrid_snap tick (price + k * tick)
    obtain ⟨n, rfl⟩ := hgrid
    have hmoved : OnGrid tick (n * tick + k * tick) := ⟨n + k, by push_cast; ring⟩
    rw [snap_eq_self htick hmoved, add_eq_left, mul_eq_zero, or_iff_left htick.ne'] at h
    exact ⟨⟨n, rfl⟩, by exact_mod_cast h⟩
  · rintro ⟨hgrid, rfl⟩
    rw [Int.cast_zero, zero_mul, add_zero, snap_eq_self htick hgrid]

end Botik
