import Mathlib.Tactic.Linarith
import Mathlib.Tactic.Ring
import Botik.Execution.SpotPaper
import Botik.Library.Sums

/-!
# The money of the spot paper engine

Every call changes the balance and the cost of the holdings together by the profit it reports. The
table does not matter: the statements hold whether or not a transaction is committed.

## Main definitions

* `SpotPaperState.worth` — the balance with the cost of the open holdings
* `SpotPaper.Call.IsPriced` — prices are not negative, quantities are positive

## Main results

* `SpotPaper.worth_step` — one call
* `spot_paper_money_conserved` — every run
-/

namespace Botik

open Machines

/-- The balance with the cost of the open holdings. -/
def SpotPaperState.worth (s : SpotPaperState) : ℚ :=
  s.balance + Sums.total (fun _ h => h.costBasis) s.holdings

namespace SpotPaper

/-- The profit an answer reports. -/
def Answer.netPnl (answer : Answer) : ℚ := (answer.trades.map SpotPaperTrade.netPnl).sum

/-- The prices of a call are not negative, its quantity is positive. -/
def Call.IsPriced : Call → Prop
  | .buy order _ _ _ => 0 < order.qty ∧ 0 ≤ order.entryPrice
  | .sell _ exitPrice _ _ _ => 0 ≤ exitPrice
  | .tick _ _ price _ _ _ => 0 ≤ price

/-- The balance and every quantity held are not negative. -/
structure Solvent (s : SpotPaperState) : Prop where
  balance : 0 ≤ s.balance
  qty : ∀ symbol h, s.holdings.get? symbol = some h → 0 ≤ h.qty

section Steps

variable {s : SpotPaperState} {symbol exitReason tradeId : String} {h : PaperHolding} {price : ℚ}
  {nowMs : ℤ} {committed : Bool}

/-- A purchase moves its cost from the balance to the holdings. -/
theorem worth_bought {o : BuyOrder} (hfree : s.holdings.get? o.symbol = none) :
    (bought o tradeId nowMs committed s).worth = s.worth := by
  have hcost : (newHolding o.symbol tradeId o.qty o.entryPrice nowMs).costBasis = o.totalCost := rfl
  unfold SpotPaperState.worth bought
  dsimp only
  rw [Sums.total_set_of_none _ hfree, hcost]
  ring

/-- A sale exchanges the cost for the proceeds. -/
theorem worth_sold (hheld : s.holdings.get? symbol = some h) :
    (sold symbol h price committed s).worth =
      s.worth + (soldTrade symbol h price exitReason nowMs).netPnl := by
  have htotal := Sums.total_erase (fun _ h => PaperHolding.costBasis h) hheld
  unfold SpotPaperState.worth sold soldTrade
  dsimp only
  rw [htotal]
  ring

/-- The price of a holding costs nothing. -/
theorem worth_priced (hheld : s.holdings.get? symbol = some h) :
    (priced symbol h price committed s).worth = s.worth := by
  have htotal := Sums.total_set_of_some (fun _ h => PaperHolding.costBasis h) hheld
    { h with currentPrice := price }
  have hsame : Sums.total (fun _ h => PaperHolding.costBasis h)
      (s.holdings.set symbol { h with currentPrice := price }) =
        Sums.total (fun _ h => PaperHolding.costBasis h) s.holdings := add_right_cancel htotal
  unfold SpotPaperState.worth priced
  dsimp only
  rw [hsame]

end Steps

/-! ### One call -/

section Calls

variable {s : SpotPaperState}

theorem worth_buy (o : BuyOrder) (tradeId : String) (nowMs : ℤ) (committed : Bool) :
    (buy o tradeId nowMs committed s).2.worth = s.worth := by
  unfold buy
  split_ifs with hafford
  · exact worth_bought hafford.1
  · rfl

theorem worth_sell (symbol : String) (price : ℚ) (exitReason : String) (nowMs : ℤ)
    (committed : Bool) :
    (sell symbol price exitReason nowMs committed s).2.worth = s.worth +
      ((sell symbol price exitReason nowMs committed s).1.toList.map SpotPaperTrade.netPnl).sum := by
  unfold sell
  cases hheld : s.holdings.get? symbol with
  | none => simp
  | some h => simpa using worth_sold hheld

theorem worth_onPriceTick (policy : Policy) (symbol : String) (price : ℚ) (nowMs : ℤ)
    (pricedCommitted soldCommitted : Bool) :
    (onPriceTick policy symbol price nowMs pricedCommitted soldCommitted s).2.worth = s.worth +
      ((onPriceTick policy symbol price nowMs pricedCommitted soldCommitted s).1.map
        SpotPaperTrade.netPnl).sum := by
  unfold onPriceTick
  cases hheld : s.holdings.get? symbol with
  | none => simp
  | some h =>
    dsimp only
    have hpriced : (priced symbol h price pricedCommitted s).worth = s.worth := worth_priced hheld
    split_ifs
    · rw [← hpriced]
      exact worth_sell _ _ _ _ _
    · simpa using hpriced

/-- Every call changes the worth by the profit it reports. -/
theorem worth_step (call : Call) : (step call s).2.worth = s.worth + (step call s).1.netPnl := by
  cases call with
  | buy o tradeId nowMs committed =>
    have hworth := worth_buy (s := s) o tradeId nowMs committed
    simpa [step, Answer.netPnl, Answer.trades] using hworth
  | sell symbol price exitReason nowMs committed => exact worth_sell _ _ _ _ _
  | tick policy symbol price nowMs pricedCommitted soldCommitted =>
    exact worth_onPriceTick _ _ _ _ _ _

/-- A purchase is covered by the balance. -/
theorem Solvent.buy {o : BuyOrder} (hs : Solvent s) (hqty : 0 < o.qty) (tradeId : String)
    (nowMs : ℤ) (committed : Bool) : Solvent (buy o tradeId nowMs committed s).2 := by
  unfold SpotPaper.buy
  split_ifs with hafford
  · constructor
    · exact sub_nonneg.mpr hafford.2
    · intro symbol h hget
      have hset : (s.holdings.set o.symbol
          (newHolding o.symbol tradeId o.qty o.entryPrice nowMs)).get? symbol = some h := hget
      rw [Dict.get?_set] at hset
      split_ifs at hset with hsame
      · cases hset
        exact hqty.le
      · exact hs.qty symbol h hset
  · exact hs

/-- A sale brings in what is not negative. -/
theorem Solvent.sell (hs : Solvent s) {price : ℚ} (hprice : 0 ≤ price) (symbol exitReason : String)
    (nowMs : ℤ) (committed : Bool) :
    Solvent (sell symbol price exitReason nowMs committed s).2 := by
  unfold SpotPaper.sell
  cases hheld : s.holdings.get? symbol with
  | none => exact hs
  | some h =>
    have hgross : 0 ≤ price * h.qty := mul_nonneg hprice (hs.qty symbol h hheld)
    have hproceeds : 0 ≤ netProceeds h price := by
      unfold netProceeds spotFeeRate
      linarith
    constructor
    · exact add_nonneg hs.balance hproceeds
    · intro symbol' h' hget
      have herased : (s.holdings.erase symbol).get? symbol' = some h' := hget
      rw [Dict.get?_erase] at herased
      split_ifs at herased
      exact hs.qty symbol' h' herased

theorem Solvent.priced (hs : Solvent s) {symbol : String} {h : PaperHolding}
    (hheld : s.holdings.get? symbol = some h) (price : ℚ) (committed : Bool) :
    Solvent (priced symbol h price committed s) := by
  constructor
  · exact hs.balance
  · intro symbol' h' hget
    have hset : (s.holdings.set symbol { h with currentPrice := price }).get? symbol' =
        some h' := hget
    rw [Dict.get?_set] at hset
    split_ifs at hset
    · cases hset
      exact hs.qty symbol h hheld
    · exact hs.qty symbol' h' hset

theorem Solvent.step (hs : Solvent s) {call : Call} (hcall : call.IsPriced) :
    Solvent (step call s).2 := by
  cases call with
  | buy o tradeId nowMs committed => exact hs.buy hcall.1 _ _ _
  | sell symbol price exitReason nowMs committed => exact hs.sell hcall _ _ _ _
  | tick policy symbol price nowMs pricedCommitted soldCommitted =>
    change Solvent (onPriceTick policy symbol price nowMs pricedCommitted soldCommitted s).2
    unfold onPriceTick
    cases hheld : s.holdings.get? symbol with
    | none => exact hs
    | some h =>
      dsimp only
      split_ifs
      · exact (hs.priced hheld price _).sell hcall _ _ _ _
      · exact hs.priced hheld price _

end Calls

end SpotPaper

/-! ### Every run -/

open SpotPaper

/-- The balance and the cost of the open holdings are the initial balance and the profits reported,
the balance never becomes negative, and no symbol has two holdings. -/
theorem spot_paper_money_conserved (calls : List Call) (s : SpotPaperState)
    (hempty : s.holdings = .empty) (hcalls : ∀ call ∈ calls, call.IsPriced) :
    (final SpotPaper.step calls s).balance +
          ((final SpotPaper.step calls s).holdings.entries.map fun e =>
            e.2.avgEntryPrice * e.2.qty + e.2.entryFee).sum =
        s.balance + ((outputs SpotPaper.step calls s).map Answer.netPnl).sum ∧
      (0 ≤ s.balance → 0 ≤ (final SpotPaper.step calls s).balance) ∧
      ∀ symbol,
        ((final SpotPaper.step calls s).holdings.entries.filter fun e => decide (e.1 = symbol)).length ≤ 1 := by
  refine ⟨?_, fun hbalance => ?_, fun symbol => Dict.length_filter_key_le_one symbol⟩
  · have hworth := val_final_eq_add_sum SpotPaperState.worth Answer.netPnl
      (fun s call => worth_step call) calls s
    have hinitial : s.worth = s.balance := by
      unfold SpotPaperState.worth
      rw [hempty, Sums.total_empty, add_zero]
    rw [hinitial] at hworth
    exact hworth
  · have hsolvent : Solvent s := by
      constructor
      · exact hbalance
      · intro symbol h hget
        rw [hempty, Dict.get?_empty] at hget
        cases hget
    have hfinal : Solvent (final SpotPaper.step calls s) :=
      final_of_inv (fun s call hs hcall => hs.step hcall) hsolvent hcalls
    exact hfinal.balance

/-- Bought at 100, sold at 120 by the policy. -/
def roundTripCalls : List Call :=
  [.buy ⟨"BTCUSDT", 1, 100, 90, 110⟩ "t1" 0 true,
    .tick (SimpleExitPolicy.onTick 0 1000) "BTCUSDT" 120 1000 true true]

/-- The balance grows by the profit of 20 less both fees. -/
theorem round_trip_conserved :
    (final SpotPaper.step roundTripCalls (start 1000 id 0 .empty)).balance +
        ((final SpotPaper.step roundTripCalls (start 1000 id 0 .empty)).holdings.entries.map fun e =>
          e.2.avgEntryPrice * e.2.qty + e.2.entryFee).sum =
      1000 + ((outputs SpotPaper.step roundTripCalls (start 1000 id 0 .empty)).map Answer.netPnl).sum ∧
    (final SpotPaper.step roundTripCalls (start 1000 id 0 .empty)).balance = 1000 + 1978 / 100 :=
  ⟨(spot_paper_money_conserved roundTripCalls (start 1000 id 0 .empty) rfl (by
      unfold roundTripCalls
      simp [Call.IsPriced])).1, by decide +kernel⟩

end Botik
