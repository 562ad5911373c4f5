import Mathlib.Algebra.BigOperators.Group.List.Basic
import Mathlib.Algebra.Order.Field.Basic
import Mathlib.Tactic.FieldSimp
import Mathlib.Tactic.Linarith
import Mathlib.Tactic.Positivity
import Mathlib.Tactic.Ring

/-!
# Greedy fills

An amount is spent on levels of a price and a size, one level after the other. What it buys grows
with the amount, by less and less where the prices rise and by more and more where they fall; so the
average price moves with the amount the way the prices of the levels move. Both directions are one
statement, with a sign.

## Main definitions

* `GreedyFill.IsLevel`, `capacity` — a level that can be filled, and what all levels cost
* `GreedyFill.bought` — what an amount buys

## Main results

* `bought_sub_le` — what more of the amount buys, from the best price
* `amount_mul_bought_le` — the average price of a larger amount
-/

namespace GreedyFill

variable {α : Type*} [Field α]

/-- What all levels together cost. -/
def capacity (levels : List (α × α)) : α := (levels.map fun l => l.1 * l.2).sum

@[simp] theorem capacity_nil : capacity ([] : List (α × α)) = 0 := rfl

@[simp] theorem capacity_cons (l : α × α) (levels : List (α × α)) :
    capacity (l :: levels) = l.1 * l.2 + capacity levels := by
  simp [capacity]

variable [LinearOrder α]

/-- A price and a size that can be filled. -/
def IsLevel (l : α × α) : Prop := 0 < l.1 ∧ 0 < l.2

instance (l : α × α) : Decidable (IsLevel l) := inferInstanceAs (Decidable (_ ∧ _))

/-- What an amount buys, level by level. -/
def bought : List (α × α) → α → α
  | [], _ => 0
  | l :: levels, amount =>
    min amount (l.1 * l.2) / l.1 + bought levels (amount - min amount (l.1 * l.2))

variable {l : α × α} {levels : List (α × α)} {amount amount' price sign : α}

@[simp] theorem bought_nil : bought [] amount = 0 := rfl

theorem bought_cons : bought (l :: levels) amount =
    min amount (l.1 * l.2) / l.1 + bought levels (amount - min amount (l.1 * l.2)) := rfl

variable [IsStrictOrderedRing α]

theorem capacity_nonneg (h : ∀ l ∈ levels, IsLevel l) : 0 ≤ capacity levels := by
  induction levels with
  | nil => exact le_rfl
  | cons l levels ih =>
    obtain ⟨hl, hrest⟩ := List.forall_mem_cons.mp h
    rw [capacity_cons]
    exact add_nonneg (mul_pos hl.1 hl.2).le (ih hrest)

theorem bought_zero (h : ∀ l ∈ levels, IsLevel l) : bought levels 0 = 0 := by
  induction levels with
  | nil => rfl
  | cons l levels ih =>
    obtain ⟨hl, hrest⟩ := List.forall_mem_cons.mp h
    rw [bought_cons, min_eq_left (mul_pos hl.1 hl.2).le, sub_zero, zero_div, zero_add, ih hrest]

/-- What the first level leaves of an amount. -/
theorem sub_min_le_capacity (hcapacity : amount ≤ capacity (l :: levels))
    (h : 0 ≤ capacity levels) :
    amount - min amount (l.1 * l.2) ≤ capacity levels := by
  rw [capacity_cons] at hcapacity
  rcases min_choice amount (l.1 * l.2) with hmin | hmin
  · rwa [hmin, sub_self]
  · rw [hmin]
    linarith

theorem bought_nonneg (h : ∀ l ∈ levels, IsLevel l) (hamount : 0 ≤ amount) :
    0 ≤ bought levels amount := by
  induction levels generalizing amount with
  | nil => exact le_rfl
  | cons l levels ih =>
    obtain ⟨hl, hrest⟩ := List.forall_mem_cons.mp h
    have htaken : 0 ≤ min amount (l.1 * l.2) := le_min hamount (mul_pos hl.1 hl.2).le
    exact add_nonneg (div_nonneg htaken hl.1.le)
      (ih hrest (sub_nonneg.mpr (min_le_left _ _)))

/-- An amount that the levels can take buys something. -/
theorem bought_pos (h : ∀ l ∈ levels, IsLevel l) (hamount : 0 < amount)
    (hcapacity : amount ≤ capacity levels) : 0 < bought levels amount := by
  cases levels with
  | nil => exact absurd hamount (not_lt.mpr hcapacity)
  | cons l levels =>
    obtain ⟨hl, hrest⟩ := List.forall_mem_cons.mp h
    have htaken : 0 < min amount (l.1 * l.2) := lt_min hamount (mul_pos hl.1 hl.2)
    exact add_pos_of_pos_of_nonneg (div_pos htaken hl.1)
      (bought_nonneg hrest (sub_nonneg.mpr (min_le_left _ _)))

/-- The rest of a larger amount is larger. -/
theorem sub_min_mono (hle : amount ≤ amount') (bound : α) :
    amount - min amount bound ≤ amount' - min amount' bound := by
  rcases le_total amount bound with hlow | hlow
  · rw [min_eq_left hlow, sub_self]
    exact sub_nonneg.mpr (min_le_left _ _)
  · rw [min_eq_right hlow, min_eq_right (hlow.trans hle)]
    exact sub_le_sub_right hle bound

/-- Where all levels lie on one side of a price, more of the amount buys no more, or no less, than
at that price. -/
theorem bought_sub_le (h : ∀ l ∈ levels, IsLevel l)
    (hprice : ∀ l ∈ levels, sign * price ≤ sign * l.1)
    (hle : amount ≤ amount') (hcapacity : amount' ≤ capacity levels) (hamount : 0 ≤ amount) :
    sign * (bought levels amount' - bought levels amount) * price ≤ sign * (amount' - amount) := by
  induction levels generalizing amount amount' with
  | nil =>
    have hzero : amount' - amount = 0 := by
      have : amount' ≤ 0 := hcapacity
      linarith
    simp [hzero]
  | cons l levels ih =>
    obtain ⟨hl, hrest⟩ := List.forall_mem_cons.mp h
    obtain ⟨hfirst, hlater⟩ := List.forall_mem_cons.mp hprice
    have hleft := ih hrest hlater (sub_min_mono hle (l.1 * l.2))
      (sub_min_le_capacity hcapacity (capacity_nonneg hrest)) (sub_nonneg.mpr (min_le_left _ _))
    -- the first level alone, at its own price
    have htaken : 0 ≤ (min amount' (l.1 * l.2) - min amount (l.1 * l.2)) / l.1 :=
      div_nonneg (sub_nonneg.mpr (min_le_min_right _ hle)) hl.1.le
    have hstep := mul_le_mul_of_nonneg_left hfirst htaken
    have hown : (min amount' (l.1 * l.2) - min amount (l.1 * l.2)) / l.1 * (sign * l.1) =
        sign * (min amount' (l.1 * l.2) - min amount (l.1 * l.2)) := by
      have := hl.1.ne'
      field_simp
    rw [hown] at hstep
    have hsplit : sign * (bought (l :: levels) amount' - bought (l :: levels) amount) * price =
        (min amount' (l.1 * l.2) - min amount (l.1 * l.2)) / l.1 * (sign * price) +
          sign * (bought levels (amount' - min amount' (l.1 * l.2)) -
            bought levels (amount - min amount (l.1 * l.2))) * price := by
      rw [bought_cons, bought_cons]
      ring
    rw [hsplit]
    linarith

/-- The average price is on the side of a price on which all levels are. -/
theorem price_le_average (h : ∀ l ∈ levels, IsLevel l)
    (hprice : ∀ l ∈ levels, sign * price ≤ sign * l.1) (hamount : 0 < amount)
    (hcapacity : amount ≤ capacity levels) :
    sign * price ≤ sign * (amount / bought levels amount) := by
  have hpos := bought_pos h hamount hcapacity
  have hall := bought_sub_le h hprice hamount.le hcapacity le_rfl
  rw [bought_zero h, sub_zero, sub_zero] at hall
  rw [mul_div_assoc', le_div_iff₀ hpos]
  linarith

/-- Where the prices of the levels go one way, the average price of a larger amount goes that
way. -/
theorem amount_mul_bought_le (h : ∀ l ∈ levels, IsLevel l)
    (hsorted : levels.Pairwise fun a b => sign * a.1 ≤ sign * b.1) (hle : amount ≤ amount')
    (hcapacity : amount' ≤ capacity levels) (hamount : 0 ≤ amount) :
    sign * (amount * bought levels amount') ≤ sign * (amount' * bought levels amount) := by
  induction levels generalizing amount amount' with
  | nil => simp
  | cons l levels ih =>
    obtain ⟨hl, hrest⟩ := List.forall_mem_cons.mp h
    obtain ⟨hfirst, hsorted⟩ := List.pairwise_cons.mp hsorted
    have hleft := sub_min_le_capacity hcapacity (capacity_nonneg hrest)
    have hlmono := sub_min_mono hle (l.1 * l.2)
    have hne := hl.1.ne'
    rw [bought_cons, bought_cons]
    rcases le_total amount (l.1 * l.2) with hlow | hlow
    · -- the smaller amount stays within the first level
      rw [min_eq_left hlow, sub_self, bought_zero hrest]
      have hgrow := bought_sub_le hrest hfirst (sub_nonneg.mpr (min_le_left amount' (l.1 * l.2)))
        hleft le_rfl
      rw [bought_zero hrest, sub_zero, sub_zero] at hgrow
      have hscaled := mul_le_mul_of_nonneg_left ((le_div_iff₀ hl.1).mpr hgrow) hamount
      calc
        _ = amount * (sign * (min amount' (l.1 * l.2) / l.1)) +
            amount * (sign * bought levels (amount' - min amount' (l.1 * l.2))) := by ring
        _ ≤ amount * (sign * (min amount' (l.1 * l.2) / l.1)) +
            amount * (sign * (amount' - min amount' (l.1 * l.2)) / l.1) := by
          gcongr
        _ = _ := by ring
    · -- both amounts fill the first level
      rw [min_eq_right (hlow.trans hle)] at hleft hlmono ⊢
      rw [min_eq_right hlow] at hlmono ⊢
      have hgrow := mul_le_mul_of_nonneg_right
        (bought_sub_le hrest hfirst hlmono hleft (sub_nonneg.mpr hlow)) hl.2.le
      have hlater := ih hrest hsorted hlmono hleft (sub_nonneg.mpr hlow)
      rw [mul_div_cancel_left₀ _ hne]
      linarith

end GreedyFill
