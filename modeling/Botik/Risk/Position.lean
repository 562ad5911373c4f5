import Mathlib.Algebra.Order.Field.Rat
import Mathlib.Algebra.Order.Group.Abs
import Mathlib.Tactic.Linarith
import Mathlib.Tactic.Positivity
import Botik.Library.Text

/-!
# Position accounting

`apply_fill` of `risk/position.py`: the signed quantity and average entry price
of one symbol after one more fill. Prices and quantities are exact rationals.

## Main definitions

* `Position` — signed quantity (long is positive) and average entry price
* `applyFill` — the update by one fill, as the source computes it
* `Position.fill` — its core, for a signed quantity already validated
* `unrealizedPnlPct`

## Main results

* `Position.fill_qty` — the quantity is plain signed addition in every branch
* `Position.WellPriced.fill` — a live position has a positive average entry
* `Position.tidy_fill` — where no quantity is left, nothing is left
* `Position.fill_cases` — opening, adding, reducing, closing, reversing
-/

namespace Botik

/-- The two order sides. -/
inductive Side
  | buy
  | sell
  deriving DecidableEq, Repr

namespace Side

/-- The side a text names, whatever its case. -/
def ofText? (s : String) : Option Side :=
  if Text.lower s = "buy" then some .buy
  else if Text.lower s = "sell" then some .sell
  else none

/-- A quantity with the sign of the side. -/
def signed : Side → ℚ → ℚ
  | .buy, q => q
  | .sell, q => -q

/-- The spelling the exchange and the tables use. -/
def text : Side → String
  | .buy => "Buy"
  | .sell => "Sell"

@[simp] theorem ofText?_text (side : Side) : ofText? side.text = some side := by
  cases side <;> decide +kernel

theorem signed_ne_zero {side : Side} {q : ℚ} (hq : 0 < q) : side.signed q ≠ 0 := by
  cases side
  · exact hq.ne'
  · exact neg_ne_zero.mpr hq.ne'

end Side

/-- What the runtime tracks about the position of one symbol. -/
structure Position where
  qty : ℚ
  avgEntry : ℚ
  deriving DecidableEq, Repr

namespace Position

/-- No position. -/
def flat : Position := ⟨0, 0⟩

@[simp] theorem flat_qty : flat.qty = 0 := rfl

@[simp] theorem flat_avgEntry : flat.avgEntry = 0 := rfl

/-- Both quantities long, or both short. -/
def SameDirection (x y : ℚ) : Prop := (0 < x ∧ 0 < y) ∨ (x < 0 ∧ y < 0)

instance (x y : ℚ) : Decidable (SameDirection x y) :=
  inferInstanceAs (Decidable ((0 < x ∧ 0 < y) ∨ (x < 0 ∧ y < 0)))

/-- One validated fill: add at the weighted average, or close, or reverse. -/
def fill (current : Position) (signedFill fillPrice : ℚ) : Position :=
  if current.qty = 0 then ⟨signedFill, fillPrice⟩
  else if SameDirection current.qty signedFill then
    if current.qty + signedFill = 0 then flat
    else
      ⟨current.qty + signedFill,
        (|current.qty| * current.avgEntry + |signedFill| * fillPrice) / |current.qty + signedFill|⟩
  else if |signedFill| < |current.qty| then ⟨current.qty + signedFill, current.avgEntry⟩
  else if |signedFill| = |current.qty| then flat
  else ⟨current.qty + signedFill, fillPrice⟩

/-- A quantity of the same size that does not point the same way is the
opposite. -/
theorem add_eq_zero_of_abs_eq {x y : ℚ} (hx : x ≠ 0) (hdir : ¬ SameDirection x y)
    (habs : |y| = |x|) : x + y = 0 := by
  rcases abs_eq_abs.mp habs with rfl | rfl
  · refine absurd ?_ hdir
    rcases lt_or_gt_of_ne hx with hneg | hpos
    · exact Or.inr ⟨hneg, hneg⟩
    · exact Or.inl ⟨hpos, hpos⟩
  · exact add_neg_cancel x

/-- Whatever branch is taken, the quantity is the signed sum. -/
theorem fill_qty (p : Position) (x price : ℚ) : (p.fill x price).qty = p.qty + x := by
  unfold fill
  split_ifs with hzero hdir hsum hlt heq
  · simp [hzero]
  · exact hsum.symm
  · rfl
  · rfl
  · exact (add_eq_zero_of_abs_eq hzero hdir heq).symm
  · rfl

/-- A fill opens, adds at the weighted average, reduces, closes or reverses. -/
theorem fill_cases (p : Position) {x : ℚ} (hx : x ≠ 0) (price : ℚ) :
    (p.qty = 0 ∧ p.fill x price = ⟨x, price⟩) ∨
      (SameDirection p.qty x ∧
        p.fill x price = ⟨p.qty + x, (p.qty * p.avgEntry + x * price) / (p.qty + x)⟩) ∨
      (SameDirection p.qty (-x) ∧ |x| < |p.qty| ∧ p.fill x price = ⟨p.qty + x, p.avgEntry⟩) ∨
      (SameDirection p.qty (-x) ∧ x = -p.qty ∧ p.fill x price = flat) ∨
      (SameDirection p.qty (-x) ∧ |p.qty| < |x| ∧ p.fill x price = ⟨p.qty + x, price⟩) := by
  have hopposite : p.qty ≠ 0 → ¬ SameDirection p.qty x → SameDirection p.qty (-x) := by
    intro hqty hdir
    rcases lt_or_gt_of_ne hqty with hshort | hlong
    · exact Or.inr ⟨hshort, neg_neg_of_pos (lt_of_le_of_ne
        (not_lt.mp fun h => hdir (Or.inr ⟨hshort, h⟩)) hx.symm)⟩
    · exact Or.inl ⟨hlong, neg_pos_of_neg (lt_of_le_of_ne
        (not_lt.mp fun h => hdir (Or.inl ⟨hlong, h⟩)) hx)⟩
  unfold fill
  split_ifs with hzero hdir hsum hlt heq
  · exact Or.inl ⟨hzero, rfl⟩
  · rcases hdir with ⟨hp, hx⟩ | ⟨hp, hx⟩ <;> linarith
  · refine Or.inr (Or.inl ⟨hdir, ?_⟩)
    rcases hdir with ⟨hqty, hpos⟩ | ⟨hqty, hneg⟩
    · rw [abs_of_pos hqty, abs_of_pos hpos, abs_of_pos (add_pos hqty hpos)]
    · rw [abs_of_neg hqty, abs_of_neg hneg, abs_of_neg (add_neg hqty hneg), neg_mul, neg_mul,
        ← neg_add, neg_div_neg_eq]
  · exact Or.inr (Or.inr (Or.inl ⟨hopposite hzero hdir, hlt, rfl⟩))
  · have hclosed := add_eq_zero_of_abs_eq hzero hdir heq
    exact Or.inr (Or.inr (Or.inr (Or.inl
      ⟨hopposite hzero hdir, eq_neg_of_add_eq_zero_right hclosed, rfl⟩)))
  · have hlarger : |p.qty| < |x| := lt_of_le_of_ne (not_lt.mp hlt) (Ne.symm heq)
    exact Or.inr (Or.inr (Or.inr (Or.inr ⟨hopposite hzero hdir, hlarger, rfl⟩)))

/-- The average entry of a live position is positive. -/
def WellPriced (p : Position) : Prop := p.qty ≠ 0 → 0 < p.avgEntry

theorem wellPriced_flat : flat.WellPriced := fun h => absurd rfl h

theorem WellPriced.fill {p : Position} (hp : p.WellPriced) {x price : ℚ} (hprice : 0 < price) :
    (p.fill x price).WellPriced := by
  unfold Position.fill
  split_ifs with hzero hdir hsum hlt heq
  · exact fun _ => hprice
  · exact wellPriced_flat
  · intro hne
    have hq : 0 < |p.qty| * p.avgEntry := mul_pos (abs_pos.mpr hzero) (hp hzero)
    have hx : 0 ≤ |x| * price := mul_nonneg (abs_nonneg x) hprice.le
    exact div_pos (by linarith) (abs_pos.mpr hsum)
  · exact fun _ => hp hzero
  · exact wellPriced_flat
  · exact fun _ => hprice

/-- A position without a quantity has no entry price either. -/
def Tidy (p : Position) : Prop := p.qty = 0 → p = flat

theorem tidy_flat : flat.Tidy := fun _ => rfl

/-- A fill leaves the flat position where it leaves no quantity. -/
theorem tidy_fill (p : Position) {x : ℚ} (hx : x ≠ 0) (price : ℚ) : (p.fill x price).Tidy := by
  unfold Position.fill
  split_ifs with hzero hdir hsum hlt heq
  · exact fun h => absurd h hx
  · exact tidy_flat
  · exact fun h => absurd h hsum
  · intro h
    have hopposite : x = -p.qty := eq_neg_of_add_eq_zero_right h
    rw [hopposite, abs_neg] at hlt
    exact absurd hlt (lt_irrefl _)
  · exact tidy_flat
  · intro h
    have hopposite : x = -p.qty := eq_neg_of_add_eq_zero_right h
    exact absurd (by rw [hopposite, abs_neg]) heq

end Position

/-- `apply_fill`: ignore a fill without quantity, price or side, else add it. -/
def applyFill (current : Position) (side : String) (fillQty fillPrice : ℚ) : Position :=
  if fillQty ≤ 0 ∨ fillPrice ≤ 0 then current
  else
    match Side.ofText? side with
    | none => current
    | some s => current.fill (s.signed fillQty) fillPrice

theorem applyFill_of_valid (p : Position) {side : String} {s : Side} {q price : ℚ}
    (hside : Side.ofText? side = some s) (hq : 0 < q) (hprice : 0 < price) :
    applyFill p side q price = p.fill (s.signed q) price := by
  have hguard : ¬ (q ≤ 0 ∨ price ≤ 0) := by
    rintro (h | h)
    · exact absurd hq h.not_gt
    · exact absurd hprice h.not_gt
  rw [applyFill, if_neg hguard, hside]

theorem Position.WellPriced.applyFill {p : Position} (hp : p.WellPriced) (side : String) (q price : ℚ) :
    (applyFill p side q price).WellPriced := by
  unfold Botik.applyFill
  split_ifs with hguard
  · exact hp
  · cases Side.ofText? side with
    | none => exact hp
    | some s => exact hp.fill (not_le.mp fun h => hguard (Or.inr h))

theorem Position.Tidy.applyFill {p : Position} (hp : p.Tidy) (side : String) (q price : ℚ) :
    (applyFill p side q price).Tidy := by
  unfold Botik.applyFill
  split_ifs with hguard
  · exact hp
  · cases Side.ofText? side with
    | none => exact hp
    | some s => exact Position.tidy_fill p (Side.signed_ne_zero (not_le.mp fun h => hguard (Or.inl h))) price

/-- Profit of the open position relative to its entry, when both prices are
known. -/
def unrealizedPnlPct (positionQty avgEntryPrice markPrice : ℚ) : Option ℚ :=
  if positionQty = 0 ∨ avgEntryPrice ≤ 0 ∨ markPrice ≤ 0 then none
  else if 0 < positionQty then some (markPrice / avgEntryPrice - 1)
  else some (avgEntryPrice / markPrice - 1)

end Botik
