import Mathlib.Algebra.Order.BigOperators.Group.List
import Mathlib.Tactic.FieldSimp
import Botik.Library.Runs
import Botik.Risk.Position

/-!
# Average cost

What the fills of a symbol leave: the signed sum of their quantities, at an average entry that lies
among the prices of the fills since the position was opened. The money that was paid is the cost of
what is held, less the profit that the reducing fills realised at the average of their moment.

## Main definitions

* `PricedFill`, `applyFills` — a fill that counts, and fills one after the other
* `sinceOpened` — the fills since the position was flat or changed its sign
* `realisedBy` — the profit a fill realises at average cost

## Main results

* `avgEntry_between` — the average lies among the prices
* `cost_fill` — what one fill does to the cost
* `average_cost`
-/

namespace Botik

open Runs

/-- A fill that counts: of a side that can be read, a quantity and a price. -/
structure PricedFill where
  sideText : String
  side : Side
  qty : ℚ
  price : ℚ
  side_eq : Side.ofText? sideText = some side
  qty_pos : 0 < qty
  price_pos : 0 < price

namespace PricedFill

def signedQty (f : PricedFill) : ℚ := f.side.signed f.qty

theorem signedQty_ne_zero (f : PricedFill) : f.signedQty ≠ 0 := Side.signed_ne_zero f.qty_pos

/-- `apply_fill` on this fill. -/
def book (f : PricedFill) (p : Position) : Position := applyFill p f.sideText f.qty f.price

theorem book_eq (f : PricedFill) (p : Position) : f.book p = p.fill f.signedQty f.price :=
  applyFill_of_valid p f.side_eq f.qty_pos f.price_pos

end PricedFill

/-- The position after some fills, from a flat one. -/
def applyFills (fills : List PricedFill) : Position := run PricedFill.book fills .flat

theorem applyFills_concat (fills : List PricedFill) (f : PricedFill) :
    applyFills (fills ++ [f]) = (applyFills fills).fill f.signedQty f.price := by
  rw [applyFills, run_append, run_cons, run_nil, f.book_eq, applyFills]

/-- The signed sum of some fills. -/
def signedSum (fills : List PricedFill) : ℚ := (fills.map PricedFill.signedQty).sum

/-- What was paid for the buys, less what was received for the sales. -/
def paidOut (fills : List PricedFill) : ℚ := (fills.map fun f => f.signedQty * f.price).sum

theorem qty_applyFills (fills : List PricedFill) : (applyFills fills).qty = signedSum fills := by
  induction fills using List.reverseRecOn with
  | nil => rfl
  | append_singleton fills f ih => simp [applyFills_concat, Position.fill_qty, ih, signedSum]

/-! ### The average -/

/-- Keep the fills since the quantity was zero or changed its sign. -/
def keepOpen (f : PricedFill) (s : ℚ × List PricedFill) : ℚ × List PricedFill :=
  (s.1 + f.signedQty,
    if s.1 = 0 ∨ s.1 * (s.1 + f.signedQty) < 0 then [f] else s.2 ++ [f])

/-- The fills since the quantity was last zero or last changed its sign, from the one that opened or
reversed the position. -/
def sinceOpened (fills : List PricedFill) : List PricedFill := (run keepOpen fills (0, [])).2

theorem run_keepOpen_fst (fills : List PricedFill) :
    (run keepOpen fills (0, [])).1 = signedSum fills := by
  induction fills using List.reverseRecOn with
  | nil => rfl
  | append_singleton fills f ih => simp [run_append, keepOpen, ih, signedSum]

theorem sinceOpened_concat (fills : List PricedFill) (f : PricedFill) :
    sinceOpened (fills ++ [f]) =
      if signedSum fills = 0 ∨ signedSum fills * (signedSum fills + f.signedQty) < 0 then [f]
      else sinceOpened fills ++ [f] := by
  rw [sinceOpened, run_append, run_cons, run_nil, keepOpen, run_keepOpen_fst]
  rfl

/-- Between the prices of two of these fills. -/
def PricedBetween (fills : List PricedFill) (price : ℚ) : Prop :=
  ∃ low ∈ fills, ∃ high ∈ fills, low.price ≤ price ∧ price ≤ high.price

section Between

variable {fills : List PricedFill} {f : PricedFill} {price : ℚ}

theorem pricedBetween_singleton (f : PricedFill) : PricedBetween [f] f.price :=
  ⟨f, List.mem_singleton_self f, f, List.mem_singleton_self f, le_rfl, le_rfl⟩

theorem PricedBetween.concat (h : PricedBetween fills price) :
    PricedBetween (fills ++ [f]) price := by
  obtain ⟨low, hlow, high, hhigh, hbetween⟩ := h
  exact ⟨low, List.mem_append_left _ hlow, high, List.mem_append_left _ hhigh, hbetween⟩

/-- A weighted average of a price between them and the price of one more. -/
theorem PricedBetween.average (h : PricedBetween fills price) {a b : ℚ} (ha : 0 < a) (hb : 0 < b) :
    PricedBetween (fills ++ [f]) ((a * price + b * f.price) / (a + b)) := by
  have hf : f ∈ fills ++ [f] := List.mem_append_right _ (List.mem_singleton_self f)
  obtain ⟨low, hlow, high, hhigh, hle, hge⟩ := h.concat (f := f)
  rcases le_total price f.price with hprice | hprice
  · refine ⟨low, hlow, f, hf, ?_, ?_⟩
    · rw [le_div_iff₀ (add_pos ha hb)]
      nlinarith
    · rw [div_le_iff₀ (add_pos ha hb)]
      nlinarith
  · refine ⟨f, hf, high, hhigh, ?_, ?_⟩
    · rw [le_div_iff₀ (add_pos ha hb)]
      nlinarith
    · rw [div_le_iff₀ (add_pos ha hb)]
      nlinarith

end Between

/-- Quantities of one direction add up to one of this direction. -/
theorem mul_add_pos_of_sameDirection {a b : ℚ} (h : Position.SameDirection a b) :
    0 < a * (a + b) := by
  rcases h with ⟨ha, hb⟩ | ⟨ha, hb⟩
  · exact mul_pos ha (add_pos ha hb)
  · exact mul_pos_of_neg_of_neg ha (add_neg ha hb)

/-- A smaller quantity of the other direction leaves the direction. -/
theorem mul_add_pos_of_lt {a b : ℚ} (h : Position.SameDirection a (-b)) (hlt : |b| < |a|) :
    0 < a * (a + b) := by
  rcases h with ⟨ha, hb⟩ | ⟨ha, hb⟩
  · rw [abs_of_neg (neg_pos.mp hb), abs_of_pos ha] at hlt
    exact mul_pos ha (by linarith)
  · rw [abs_of_pos (neg_neg_iff_pos.mp hb), abs_of_neg ha] at hlt
    exact mul_pos_of_neg_of_neg ha (by linarith)

/-- A larger quantity of the other direction turns it. -/
theorem mul_add_neg_of_lt {a b : ℚ} (h : Position.SameDirection a (-b)) (hlt : |a| < |b|) :
    a * (a + b) < 0 := by
  rcases h with ⟨ha, hb⟩ | ⟨ha, hb⟩
  · rw [abs_of_neg (neg_pos.mp hb), abs_of_pos ha] at hlt
    exact mul_neg_of_pos_of_neg ha (by linarith)
  · rw [abs_of_pos (neg_neg_iff_pos.mp hb), abs_of_neg ha] at hlt
    exact mul_neg_of_neg_of_pos ha (by linarith)

/-- The average of what is held lies between the prices of the fills since it was opened. -/
theorem avgEntry_between (fills : List PricedFill) (hlive : (applyFills fills).qty ≠ 0) :
    PricedBetween (sinceOpened fills) (applyFills fills).avgEntry := by
  induction fills using List.reverseRecOn with
  | nil => exact absurd rfl hlive
  | append_singleton fills f ih =>
    rw [applyFills_concat] at hlive ⊢
    rw [sinceOpened_concat, ← qty_applyFills]
    generalize applyFills fills = p at hlive ih ⊢
    rcases p.fill_cases f.signedQty_ne_zero f.price with ⟨hopened, hfill⟩ | ⟨hdir, hfill⟩ |
      ⟨hdir, hlt, hfill⟩ | ⟨-, -, hfill⟩ | ⟨hdir, hlt, hfill⟩
    · -- opened
      rw [if_pos (Or.inl hopened), hfill]
      exact pricedBetween_singleton f
    · -- added to
      have hkept := mul_add_pos_of_sameDirection hdir
      have hlive : p.qty ≠ 0 := left_ne_zero_of_mul hkept.ne'
      rw [if_neg (not_or.mpr ⟨hlive, hkept.not_gt⟩), hfill]
      rcases hdir with ⟨hqty, hadded⟩ | ⟨hqty, hadded⟩
      · exact (ih hlive).average hqty hadded
      · have haverage := (ih hlive).average (f := f) (neg_pos.mpr hqty) (neg_pos.mpr hadded)
        rwa [neg_mul, neg_mul, ← neg_add, ← neg_add, neg_div_neg_eq] at haverage
    · -- reduced: the average stays
      have hkept := mul_add_pos_of_lt hdir hlt
      have hlive : p.qty ≠ 0 := left_ne_zero_of_mul hkept.ne'
      rw [if_neg (not_or.mpr ⟨hlive, hkept.not_gt⟩), hfill]
      exact (ih hlive).concat
    · -- closed
      rw [hfill] at hlive
      exact absurd rfl hlive
    · -- reversed: what is left of the fill opens anew
      rw [if_pos (Or.inr (mul_add_neg_of_lt hdir hlt)), hfill]
      exact pricedBetween_singleton f

/-! ### The cost -/

/-- The profit a fill realises: what it closes, at its price against the average. -/
def realisedBy (t : Transition Position PricedFill) : ℚ :=
  if 0 < t.before.qty ∧ t.input.signedQty < 0 then
    min (-t.input.signedQty) t.before.qty * (t.input.price - t.before.avgEntry)
  else if t.before.qty < 0 ∧ 0 < t.input.signedQty then
    min t.input.signedQty (-t.before.qty) * (t.before.avgEntry - t.input.price)
  else 0

/-- The profit some fills realise at average cost. -/
def realised (fills : List PricedFill) : ℚ :=
  ((transitions PricedFill.book fills .flat).map realisedBy).sum

theorem realised_concat (fills : List PricedFill) (f : PricedFill) :
    realised (fills ++ [f]) =
      realised fills + realisedBy ⟨applyFills fills, f, f.book (applyFills fills)⟩ := by
  rw [realised, transitions_append, List.map_append, List.sum_append]
  simp [realised, applyFills]

section Cost

variable {p p' : Position} {f : PricedFill}

theorem realisedBy_of_sameDirection (h : Position.SameDirection p.qty f.signedQty) :
    realisedBy ⟨p, f, p'⟩ = 0 := by
  unfold realisedBy
  dsimp only
  rcases h with ⟨hqty, hadded⟩ | ⟨hqty, hadded⟩
  · rw [if_neg (by simp [hadded.le]), if_neg (by simp [hqty.le])]
  · rw [if_neg (by simp [hqty.le]), if_neg (by simp [hadded.le])]

/-- A fill of the other direction that does not reverse the position realises all of its own
quantity. -/
theorem realisedBy_of_le (h : Position.SameDirection p.qty (-f.signedQty))
    (hle : |f.signedQty| ≤ |p.qty|) :
    realisedBy ⟨p, f, p'⟩ = f.signedQty * (p.avgEntry - f.price) := by
  unfold realisedBy
  dsimp only
  rcases h with ⟨hqty, hsold⟩ | ⟨hqty, hsold⟩
  · rw [abs_of_neg (neg_pos.mp hsold), abs_of_pos hqty] at hle
    rw [if_pos ⟨hqty, neg_pos.mp hsold⟩, min_eq_left hle]
    ring
  · rw [abs_of_pos (neg_neg_iff_pos.mp hsold), abs_of_neg hqty] at hle
    rw [if_neg (by simp [hqty.le]), if_pos ⟨hqty, neg_neg_iff_pos.mp hsold⟩, min_eq_left hle]

/-- A fill that closes or reverses the position realises all of the position. -/
theorem realisedBy_of_ge (h : Position.SameDirection p.qty (-f.signedQty))
    (hle : |p.qty| ≤ |f.signedQty|) :
    realisedBy ⟨p, f, p'⟩ = p.qty * (f.price - p.avgEntry) := by
  unfold realisedBy
  dsimp only
  rcases h with ⟨hqty, hsold⟩ | ⟨hqty, hsold⟩
  · rw [abs_of_neg (neg_pos.mp hsold), abs_of_pos hqty] at hle
    rw [if_pos ⟨hqty, neg_pos.mp hsold⟩, min_eq_right hle]
  · rw [abs_of_pos (neg_neg_iff_pos.mp hsold), abs_of_neg hqty] at hle
    rw [if_neg (by simp [hqty.le]), if_pos ⟨hqty, neg_neg_iff_pos.mp hsold⟩, min_eq_right hle]
    ring

/-- A fill changes the cost of what is held by what is paid for it and the profit it realises. -/
theorem cost_fill (p : Position) (f : PricedFill) :
    (f.book p).qty * (f.book p).avgEntry =
      p.qty * p.avgEntry + f.signedQty * f.price + realisedBy ⟨p, f, f.book p⟩ := by
  rw [f.book_eq]
  rcases p.fill_cases f.signedQty_ne_zero f.price with ⟨hopened, hfill⟩ | ⟨hdir, hfill⟩ |
    ⟨hdir, hlt, hfill⟩ | ⟨hdir, hclosed, hfill⟩ | ⟨hdir, hlt, hfill⟩
  · have hnothing : realisedBy ⟨p, f, p.fill f.signedQty f.price⟩ = 0 := by
      simp [realisedBy, hopened]
    rw [hnothing, hfill, hopened]
    ring
  · -- the new average is the one that keeps the cost
    have hsum : p.qty + f.signedQty ≠ 0 :=
      right_ne_zero_of_mul (mul_add_pos_of_sameDirection hdir).ne'
    rw [realisedBy_of_sameDirection hdir, hfill, mul_div_cancel₀ _ hsum, add_zero]
  · rw [realisedBy_of_le hdir hlt.le, hfill]
    ring
  · rw [realisedBy_of_ge hdir (by rw [hclosed, abs_neg]), hfill, hclosed]
    simp only [Position.flat_qty]
    ring
  · rw [realisedBy_of_ge hdir hlt.le, hfill]
    ring

end Cost

/-- Along any fills from a flat position, the quantity is their signed sum, the average entry of
what is held lies between the prices of the fills since it was opened, and the money that was paid
is its cost less the profit realised at average cost. -/
theorem average_cost (fills : List PricedFill) :
    (applyFills fills).qty = signedSum fills ∧
      ((applyFills fills).qty ≠ 0 →
        PricedBetween (sinceOpened fills) (applyFills fills).avgEntry) ∧
      paidOut fills = (applyFills fills).qty * (applyFills fills).avgEntry - realised fills := by
  refine ⟨qty_applyFills fills, avgEntry_between fills, ?_⟩
  induction fills using List.reverseRecOn with
  | nil => simp [paidOut, applyFills, realised]
  | append_singleton fills f ih =>
    have hpaid : paidOut (fills ++ [f]) = paidOut fills + f.signedQty * f.price := by
      simp [paidOut]
    have hbooked : applyFills (fills ++ [f]) = f.book (applyFills fills) := by
      rw [applyFills, run_append, run_cons, run_nil, applyFills]
    rw [hpaid, ih, hbooked, realised_concat, cost_fill]
    ring

/-- Two bought at 100, three sold at 110 and one of these bought back at 90. -/
example :
    let fills := [⟨"Buy", .buy, 2, 100, by decide +kernel, by norm_num, by norm_num⟩,
      ⟨"SELL", .sell, 3, 110, by decide +kernel, by norm_num, by norm_num⟩,
      ⟨"buy", .buy, 1 / 2, 90, by decide +kernel, by norm_num, by norm_num⟩]
    applyFills fills = ⟨-1 / 2, 110⟩ ∧ realised fills = 30 ∧ (sinceOpened fills).length = 2 := by
  decide +kernel

end Botik
