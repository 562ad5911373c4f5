import Botik.Strategy.PairMarket

/-!
# The simulated average prices

A walk through a side of the book has a price exactly when the levels it does not skip cost the
notional. On a side that is sorted best first, the price is no better than the best level and gets
no better with the notional.

## Main definitions

* `SortedBest` — one side of a book, best first, in one of the two directions
* `IsBest` — the first level, or the first that is not skipped

## Main results

* `best_le_vwap`, `vwap_mono` — both directions at once
* `vwap_exact`
-/

namespace Botik

open Market

/-- The prices rise with the sign one, and fall with the sign minus one. -/
def SortedBest (sign : ℚ) (levels : List Level) : Prop :=
  levels.Pairwise fun a b => sign * a.1 ≤ sign * b.1

/-- The first level, or the first one that is not skipped. -/
def IsBest (levels : List Level) (best : Level) : Prop :=
  levels.head? = some best ∨ (validLevels levels).head? = some best

section Vwap

variable {sign : ℚ} {levels : List Level} {best : Level} {notional notional' price price' : ℚ}

theorem SortedBest.validLevels (h : SortedBest sign levels) :
    SortedBest sign (validLevels levels) :=
  h.sublist List.filter_sublist

/-- The first of a sorted side is the best. -/
theorem SortedBest.le_of_head (h : SortedBest sign levels) (hbest : levels.head? = some best) :
    ∀ l ∈ levels, sign * best.1 ≤ sign * l.1 := by
  obtain ⟨rest, rfl⟩ := List.head?_eq_some_iff.mp hbest
  intro l hl
  rcases List.mem_cons.mp hl with rfl | hl
  · exact le_rfl
  · exact (List.pairwise_cons.mp h).1 l hl

/-- The best level is the best of those that are not skipped. -/
theorem IsBest.le (h : SortedBest sign levels) (hbest : IsBest levels best) :
    ∀ l ∈ validLevels levels, sign * best.1 ≤ sign * l.1 := by
  intro l hl
  rcases hbest with hfirst | hvalid
  · exact h.le_of_head hfirst l (List.mem_of_mem_filter hl)
  · exact h.validLevels.le_of_head hvalid l hl

theorem isSome_simulateVwap_iff (hnotional : 0 < notional) :
    (simulateVwap levels notional).isSome ↔ notional ≤ quoteValue levels := by
  rw [simulateVwap_eq hnotional]
  split_ifs with hle
  · simp [hle]
  · simp [hle]

/-- A price is the average over what the notional buys. -/
theorem eq_of_simulateVwap (hnotional : 0 < notional)
    (h : simulateVwap levels notional = some price) :
    notional ≤ quoteValue levels ∧
      price = notional / GreedyFill.bought (validLevels levels) notional := by
  rw [simulateVwap_eq hnotional] at h
  split_ifs at h with hle
  exact ⟨hle, (Option.some.inj h).symm⟩

/-- The price is no better than the best level. -/
theorem best_le_vwap (hsorted : SortedBest sign levels) (hbest : IsBest levels best)
    (hnotional : 0 < notional) (h : simulateVwap levels notional = some price) :
    sign * best.1 ≤ sign * price := by
  obtain ⟨hle, rfl⟩ := eq_of_simulateVwap hnotional h
  exact GreedyFill.price_le_average isLevel_of_mem_validLevels (hbest.le hsorted) hnotional hle

/-- The price of a larger notional is no better. -/
theorem vwap_mono (hsorted : SortedBest sign levels) (hnotional : 0 < notional)
    (hle : notional ≤ notional') (h : simulateVwap levels notional = some price)
    (h' : simulateVwap levels notional' = some price') : sign * price ≤ sign * price' := by
  obtain ⟨hfits, rfl⟩ := eq_of_simulateVwap hnotional h
  obtain ⟨hfits', rfl⟩ := eq_of_simulateVwap (hnotional.trans_le hle) h'
  have hbought := GreedyFill.bought_pos isLevel_of_mem_validLevels hnotional hfits
  have hbought' := GreedyFill.bought_pos isLevel_of_mem_validLevels (hnotional.trans_le hle) hfits'
  have hcross := GreedyFill.amount_mul_bought_le isLevel_of_mem_validLevels hsorted.validLevels hle
    hfits' hnotional.le
  rw [mul_div_assoc', mul_div_assoc', div_le_div_iff₀ hbought hbought']
  linarith

end Vwap

/-- For every list of levels and every notional there is a price exactly when the valid levels cost
the notional; on asks that are sorted best first the price of a buy is at least the best ask and
does not fall with the notional, and on bids the price of a sale is at most the best bid and does
not rise. -/
theorem vwap_exact (levels : List Level) (notional notional' : ℚ) (hnotional : 0 < notional)
    (hle : notional ≤ notional') :
    ((simulateVwapBuy levels notional).isSome ↔ notional ≤ quoteValue levels) ∧
      ((simulateVwapSell levels notional).isSome ↔ notional ≤ quoteValue levels) ∧
      (levels.Pairwise (fun a b => a.1 ≤ b.1) →
        ∀ price, simulateVwapBuy levels notional = some price →
          (∀ best, IsBest levels best → best.1 ≤ price) ∧
            ∀ price', simulateVwapBuy levels notional' = some price' → price ≤ price') ∧
      (levels.Pairwise (fun a b => b.1 ≤ a.1) →
        ∀ price, simulateVwapSell levels notional = some price →
          (∀ best, IsBest levels best → price ≤ best.1) ∧
            ∀ price', simulateVwapSell levels notional' = some price' → price' ≤ price) := by
  refine ⟨isSome_simulateVwap_iff hnotional, isSome_simulateVwap_iff hnotional, ?_, ?_⟩
  · intro hasks price hprice
    have hsorted : SortedBest 1 levels := hasks.imp fun h => by linarith
    refine ⟨fun best hbest => ?_, fun price' hprice' => ?_⟩
    · linarith [best_le_vwap hsorted hbest hnotional hprice]
    · linarith [vwap_mono hsorted hnotional hle hprice hprice']
  · intro hbids price hprice
    have hsorted : SortedBest (-1) levels := hbids.imp fun h => by linarith
    refine ⟨fun best hbest => ?_, fun price' hprice' => ?_⟩
    · linarith [best_le_vwap hsorted hbest hnotional hprice]
    · linarith [vwap_mono hsorted hnotional hle hprice hprice']

/-- Three asks, of which the second is empty: 150 is bought at 100 and 150, and 400 is all there
is. -/
theorem three_asks_exact :
    simulateVwapBuy [(100, 1), (120, 0), (150, 2)] 150 = some (225 / 2) ∧
      simulateVwapBuy [(100, 1), (120, 0), (150, 2)] 400 = some (400 / 3) ∧
      simulateVwapBuy [(100, 1), (120, 0), (150, 2)] 401 = none ∧ (225 / 2 : ℚ) ≤ 400 / 3 := by
  have hsmall : simulateVwapBuy [(100, 1), (120, 0), (150, 2)] 150 = some (225 / 2) := by
    decide +kernel
  have hall : simulateVwapBuy [(100, 1), (120, 0), (150, 2)] 400 = some (400 / 3) := by
    decide +kernel
  have hsorted : ([(100, 1), (120, 0), (150, 2)] : List Level).Pairwise fun a b => a.1 ≤ b.1 := by
    decide +kernel
  exact ⟨hsmall, hall, by decide +kernel,
    ((vwap_exact [(100, 1), (120, 0), (150, 2)] 150 400 (by norm_num) (by norm_num)).2.2.1 hsorted
      _ hsmall).2 _ hall⟩

end Botik
