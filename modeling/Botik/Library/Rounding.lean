import Botik.Library.Text
import Mathlib.Algebra.Order.Archimedean.Basic
import Mathlib.Algebra.Order.Round
import Mathlib.Data.Rat.Floor
import Mathlib.Tactic.Linarith
import Mathlib.Tactic.Ring

/-!
# Rounding to the nearest integer, ties to even

Where the rounded number lies is decided by the halves between two integers: a half belongs to the
even one of its neighbours.

## Main results

* `Rounding.roundHalfEven_le_iff`, `le_roundHalfEven_iff` — the bounds of a rounded number
* `Rounding.roundHalfEven_intCast`
* `Rounding.abs_roundHalfEven_sub_le`, `abs_fixed8_sub_le` — a rounded number is near
-/

namespace Rounding

open Text

variable {q q' : ℚ} {n : ℤ}

/-- A number is rounded to one of the two integers around it, by its place between them. -/
theorem roundHalfEven_cases (q : ℚ) :
    (roundHalfEven q = ⌊q⌋ ∧ (q < ⌊q⌋ + 1 / 2 ∨ q = ⌊q⌋ + 1 / 2 ∧ Even ⌊q⌋)) ∨
      (roundHalfEven q = ⌊q⌋ + 1 ∧ (⌊q⌋ + 1 / 2 < q ∨ q = ⌊q⌋ + 1 / 2 ∧ ¬ Even ⌊q⌋)) := by
  have hround : roundHalfEven q =
      if q - ⌊q⌋ < 1 / 2 then ⌊q⌋ else if 1 / 2 < q - ⌊q⌋ then ⌊q⌋ + 1
      else if ⌊q⌋ % 2 = 0 then ⌊q⌋ else ⌊q⌋ + 1 := rfl
  rw [hround]
  split_ifs with hlow hhigh heven
  · exact Or.inl ⟨rfl, Or.inl (by linarith)⟩
  · exact Or.inr ⟨rfl, Or.inl (by linarith)⟩
  · exact Or.inl ⟨rfl, Or.inr ⟨by linarith, Int.even_iff.mpr heven⟩⟩
  · exact Or.inr ⟨rfl, Or.inr ⟨by linarith, fun h => heven (Int.even_iff.mp h)⟩⟩

theorem roundHalfEven_le_iff :
    roundHalfEven q ≤ n ↔ q < n + 1 / 2 ∨ q = n + 1 / 2 ∧ Even n := by
  have hfloor := Int.floor_le q
  have hnext := Int.lt_floor_add_one q
  rcases lt_trichotomy ⌊q⌋ n with hlt | rfl | hgt
  · -- the number lies below the integer
    have hle : (⌊q⌋ : ℚ) + 1 ≤ n := by exact_mod_cast hlt
    refine iff_of_true ?_ (Or.inl (by linarith))
    rcases roundHalfEven_cases q with ⟨hround, _⟩ | ⟨hround, _⟩ <;> omega
  · rcases roundHalfEven_cases q with ⟨hround, hplace⟩ | ⟨hround, hplace⟩
    · exact iff_of_true hround.le hplace
    · refine iff_of_false (by omega) ?_
      rcases hplace with habove | ⟨htie, hodd⟩
      · rintro (h | ⟨h, _⟩) <;> linarith
      · rintro (h | ⟨_, h⟩)
        · linarith
        · exact hodd h
  · -- the number lies above the integer
    have hle : (n : ℚ) + 1 ≤ ⌊q⌋ := by exact_mod_cast hgt
    refine iff_of_false ?_ ?_
    · rcases roundHalfEven_cases q with ⟨hround, _⟩ | ⟨hround, _⟩ <;> omega
    · rintro (h | ⟨h, _⟩) <;> linarith

theorem lt_roundHalfEven_iff :
    n < roundHalfEven q ↔ n + 1 / 2 < q ∨ q = n + 1 / 2 ∧ ¬ Even n := by
  rw [← not_le, roundHalfEven_le_iff, not_or, not_lt, not_and]
  constructor
  · rintro ⟨hle, htie⟩
    rcases hle.lt_or_eq with hlt | heq
    · exact Or.inl hlt
    · exact Or.inr ⟨heq.symm, htie heq.symm⟩
  · rintro (hlt | ⟨heq, hodd⟩)
    · exact ⟨hlt.le, fun heq => absurd heq hlt.ne'⟩
    · exact ⟨heq.ge, fun _ => hodd⟩

@[simp] theorem roundHalfEven_intCast (n : ℤ) : roundHalfEven (n : ℚ) = n := by
  apply le_antisymm
  · exact roundHalfEven_le_iff.mpr (Or.inl (by linarith))
  · have : n - 1 < roundHalfEven (n : ℚ) :=
      lt_roundHalfEven_iff.mpr (Or.inl (by push_cast; linarith))
    omega

theorem abs_roundHalfEven_sub_le (q : ℚ) : |(roundHalfEven q : ℚ) - q| ≤ 1 / 2 := by
  have hfloor := Int.floor_le q
  have hnext := Int.lt_floor_add_one q
  rw [abs_le]
  rcases roundHalfEven_cases q with ⟨hround, hplace⟩ | ⟨hround, hplace⟩
  · have hle : q ≤ ⌊q⌋ + 1 / 2 := hplace.elim le_of_lt fun h => h.1.le
    rw [hround]
    constructor <;> linarith
  · have hle : (⌊q⌋ : ℚ) + 1 / 2 ≤ q := hplace.elim le_of_lt fun h => h.1.ge
    rw [hround]
    push_cast
    constructor <;> linarith

/-- Printing eight decimals moves a number by half of the last one at most. -/
theorem abs_fixed8_sub_le (q : ℚ) : |fixed8 q - q| ≤ 1 / 2 / 10 ^ 8 := by
  have hround := abs_roundHalfEven_sub_le (q * 10 ^ 8)
  have hscaled : fixed8 q - q = (roundHalfEven (q * 10 ^ 8) - q * 10 ^ 8) / 10 ^ 8 := by
    unfold fixed8
    ring
  rw [hscaled, abs_div, abs_of_pos (by norm_num : (0 : ℚ) < 10 ^ 8)]
  gcongr

theorem fixed8_nonneg (h : 0 ≤ q) : 0 ≤ fixed8 q := by
  have hround : -1 < roundHalfEven (q * 10 ^ 8) := by
    refine lt_roundHalfEven_iff.mpr (Or.inl ?_)
    have : 0 ≤ q * 10 ^ 8 := mul_nonneg h (by norm_num)
    push_cast
    linarith
  have hnonneg : 0 ≤ roundHalfEven (q * 10 ^ 8) := by omega
  exact div_nonneg (Int.cast_nonneg hnonneg) (by norm_num)

end Rounding
