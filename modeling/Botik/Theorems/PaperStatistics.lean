import Botik.Execution.FuturesPaperFacts
import Botik.Execution.PaperStats

/-!
# What the paper statistics say of the closed trades

The futures query has four columns and `get_stats` reads a fifth, so there are no statistics once
a trade of the scope was closed. The spot query joins every fill with the order of its own sale, so
the entry price of a row is the exit price and no sale ever counts as a win.

## Main definitions

* `FuturesPaper.Agrees`, `SpotPaper.Agrees` — the statistics are those of the results
* `SpotPaper.DistinctIds` — the ids a run draws are distinct
* `SpotPaper.Booked` — the invariant of the orders and fills

## Main results

* `FuturesPaper.getStats_eq_none` — one closed trade of a scope leaves it without statistics
* `SpotPaper.booked_final` — the fills are the committed sales, each at the price of its order
* `paper_stats_agree_iff`
-/

namespace Botik

open Machines

/-! ### Futures -/

namespace FuturesPaper

/-- The results of `close_position` for the trades of a scope. -/
def resultsOf (scope : String) (calls : List ScopedCall) (s : ScopedPaperState) :
    List FuturesPaperClose :=
  (outputs scopedStep calls s).flatten.filter fun r =>
    (final scopedStep calls s).scopes.get? r.tradeId = some scope

/-- The statistics are those of some results. -/
def Agrees (stats : Option PaperStats) (results : List FuturesPaperClose) : Prop :=
  ∃ st, stats = some st ∧ st.total = results.length ∧
    st.wins = (results.filter fun r => 0 < r.netPnl).length ∧
    st.totalPnl = round4 (results.map FuturesPaperClose.netPnl).sum

/-- The trade is closed. -/
def IsClosed (s : FuturesPaperState) (tradeId : String) : Prop :=
  ∃ t, s.trades.get? tradeId = some t ∧ t.exit.isSome

section Closed

variable {s : ScopedPaperState} {tradeId : String}

/-- A tick closes the trades it returns. -/
theorem isClosed_of_mem_closes {s : FuturesPaperState} {policy : Policy} {symbol : String}
    {markPrice : ℚ} {nowMs : ℤ} {r : FuturesPaperClose}
    (hr : r ∈ (onPriceTick policy symbol markPrice nowMs s).1) :
    IsClosed (onPriceTick policy symbol markPrice nowMs s).2 r.tradeId := by
  rw [closes_onPriceTick] at hr
  obtain ⟨pos, hpos, hclose⟩ := List.mem_filterMap.mp hr
  obtain ⟨⟨id, t⟩, hrow, rfl⟩ := List.mem_map.mp hpos
  obtain ⟨hmem, hopen⟩ := List.mem_filter.mp hrow
  obtain ⟨qtyClosed, hqty, rfl⟩ := Option.map_eq_some_iff.mp hclose
  have hget : s.trades.get? id = some t := Dict.mem_entries_iff.mp hmem
  have hopen : IsOpenOf symbol t := of_decide_eq_true hopen
  refine ⟨settled policy symbol markPrice nowMs s id t, ?_, ?_⟩
  · change (onPriceTick policy symbol markPrice nowMs s).2.trades.get? id = _
    rw [get?_onPriceTick, hget]
    rfl
  · rw [settled, if_pos hopen, closedRow, hqty]
    rfl

/-- A closed trade stays closed at a tick. -/
theorem IsClosed.onPriceTick {s : FuturesPaperState} (h : IsClosed s tradeId) (policy : Policy)
    (symbol : String) (markPrice : ℚ) (nowMs : ℤ) :
    IsClosed (onPriceTick policy symbol markPrice nowMs s).2 tradeId := by
  obtain ⟨t, hget, hexit⟩ := h
  refine ⟨t, ?_, hexit⟩
  have hnot : ¬ IsOpenOf symbol t := by
    intro hopen
    rw [hopen.2] at hexit
    exact absurd hexit (by simp)
  rw [get?_onPriceTick, hget, Option.map_some, settled, if_neg hnot]

/-- A closed trade stays closed when a position is opened: its id is taken. -/
theorem IsClosed.openPosition {s : FuturesPaperState} (h : IsClosed s tradeId) (o : OpenRequest)
    (newId : String) (nowMs : ℤ) : IsClosed (openPosition o newId nowMs s).2 tradeId := by
  obtain ⟨t, hget, hexit⟩ := h
  refine ⟨t, ?_, hexit⟩
  unfold FuturesPaper.openPosition
  split_ifs with htaken
  · exact hget
  · have hne : tradeId ≠ newId := by
      rintro rfl
      exact htaken (by rw [hget]; rfl)
    rw [Dict.get?_set_of_ne hne, hget]

theorem IsClosed.scopedStep (h : IsClosed s.tables tradeId) (call : ScopedCall) :
    IsClosed (scopedStep call s).2.tables tradeId := by
  match call with
  | .call scope (.openPosition o newId nowMs) => exact h.openPosition o newId nowMs
  | .call scope (.onPriceTick policy symbol markPrice nowMs) =>
    exact h.onPriceTick policy symbol markPrice nowMs
  | .saveProtection symbol side sl tp => exact h

theorem isClosed_of_mem_scopedStep {call : ScopedCall} {r : FuturesPaperClose}
    (hr : r ∈ (scopedStep call s).1) : IsClosed (scopedStep call s).2.tables r.tradeId := by
  match call with
  | .call scope (.openPosition o newId nowMs) => exact absurd hr List.not_mem_nil
  | .call scope (.onPriceTick policy symbol markPrice nowMs) => exact isClosed_of_mem_closes hr
  | .saveProtection symbol side sl tp => exact absurd hr List.not_mem_nil

theorem IsClosed.final (h : IsClosed s.tables tradeId) (calls : List ScopedCall) :
    IsClosed (final FuturesPaper.scopedStep calls s).tables tradeId := by
  induction calls generalizing s with
  | nil => exact h
  | cons call calls ih => exact ih (h.scopedStep call)

/-- Every result is of a trade that is closed at the end. -/
theorem isClosed_of_mem_outputs {calls : List ScopedCall} {r : FuturesPaperClose}
    (hr : r ∈ (outputs scopedStep calls s).flatten) :
    IsClosed (final scopedStep calls s).tables r.tradeId := by
  induction calls generalizing s with
  | nil => exact absurd hr List.not_mem_nil
  | cons call calls ih =>
    rw [outputs_cons, List.flatten_cons, List.mem_append] at hr
    rcases hr with hnow | hlater
    · exact (isClosed_of_mem_scopedStep hnow).final calls
    · exact ih hlater

/-- A scope with a closed trade has no statistics: the row has no fifth column. -/
theorem getStats_eq_none {scope : String} (hclosed : IsClosed s.tables tradeId)
    (hscope : s.scopes.get? tradeId = some scope) : getStats scope s = none := by
  obtain ⟨t, hget, hexit⟩ := hclosed
  obtain ⟨exit, hexit⟩ := Option.isSome_iff_exists.mp hexit
  have hrow : exit ∈ closedRows scope s := by
    refine List.mem_filterMap.mpr ⟨(tradeId, t), Dict.mem_entries_iff.mpr hget, ?_⟩
    rw [if_pos hscope, hexit]
  have hpos : 0 < (closedRows scope s).length := List.length_pos_of_mem hrow
  have hcount : ((closedRows scope s).length : ℚ) ≠ 0 := by
    exact_mod_cast hpos.ne'
  unfold getStats statsOf statsRow column
  simp [hcount, bind, Except.bind, Except.toOption]

end Closed

/-- No history of closed trades agrees with the statistics of its scope. -/
theorem not_agrees_of_closed {scope : String} {calls : List ScopedCall} {s : ScopedPaperState}
    (hclosed : resultsOf scope calls s ≠ []) :
    ¬ Agrees (getStats scope (final scopedStep calls s)) (resultsOf scope calls s) := by
  obtain ⟨r, hr⟩ := List.exists_mem_of_ne_nil _ hclosed
  obtain ⟨hmem, hscope⟩ := List.mem_filter.mp hr
  rintro ⟨st, hst, -⟩
  rw [getStats_eq_none (isClosed_of_mem_outputs hmem) (of_decide_eq_true hscope)] at hst
  exact absurd hst (by simp)

end FuturesPaper

/-! ### Spot -/

namespace SpotPaper

/-- The id of the fill a call would book. -/
def BookedCall.execIds : BookedCall → List String
  | .call (.buy _ _ _ _) _ _ => []
  | .call _ execId _ => [execId]
  | .restart _ _ _ => []

/-- No two calls draw one id for their fills. -/
def DistinctIds (calls : List BookedCall) : Prop := (calls.flatMap BookedCall.execIds).Nodup

/-- The books of an engine before its first order. -/
def openBooks (engine : SpotPaperState) : SpotPaperBooks where
  engine := engine
  orders := .empty
  fills := .empty

/-- The sales of a run. -/
def salesOf (calls : List BookedCall) (engine : SpotPaperState) : List BookedSale :=
  (outputs bookedStep calls (openBooks engine)).flatten

/-- The statistics are those of some sales. -/
def Agrees (stats : PaperStats) (sales : List BookedSale) : Prop :=
  stats.total = sales.length ∧
    stats.wins = (sales.filter fun sale => sale.trade.entryPrice < sale.trade.exitPrice).length

/-- Every fill is of a sale, and the order it is joined with has its price. -/
structure Booked (b : SpotPaperBooks) : Prop where
  side : ∀ f ∈ b.fills.entries, f.2.side = .sell
  priced : ∀ f ∈ b.fills.entries,
    ∃ o, b.orders.get? f.2.orderLinkId = some o ∧ o.price = f.2.execPrice

theorem booked_openBooks (engine : SpotPaperState) : Booked (openBooks engine) where
  side := fun _ hf => absurd hf List.not_mem_nil
  priced := fun _ hf => absurd hf List.not_mem_nil

section Rows

variable {b : SpotPaperBooks}

/-- A new order takes nothing from the fills. -/
theorem Booked.set_order (h : Booked b) {linkId : String} (hnew : b.orders.get? linkId = none)
    (order : SpotPaperOrder) (engine : SpotPaperState) :
    Booked { b with engine, orders := b.orders.set linkId order } where
  side := h.side
  priced := by
    intro f hf
    obtain ⟨o, hget, hprice⟩ := h.priced f hf
    have hne : f.2.orderLinkId ≠ linkId := by
      rintro heq
      rw [heq, hnew] at hget
      exact absurd hget (by simp)
    exact ⟨o, by rw [Dict.get?_set_of_ne hne, hget], hprice⟩

theorem Booked.with_engine (h : Booked b) (engine : SpotPaperState) :
    Booked { b with engine } := ⟨h.side, h.priced⟩

/-- The fill of a sale and its order are written together, at one price. -/
theorem Booked.bookSales (h : Booked b) {execId sellOrderId : String} {nowMs : ℤ}
    {committed : Bool} {trades : List SpotPaperTrade}
    (hnew : committed = true → b.orders.get? sellOrderId = none) :
    Booked (bookSales execId sellOrderId nowMs committed trades b) := by
  match committed, trades with
  | false, _ => exact h
  | true, [] => exact h
  | true, trade :: rest =>
    have horder := h.set_order (hnew rfl) (sellOrder trade) b.engine
    have hget : (b.orders.set sellOrderId (sellOrder trade)).get? sellOrderId =
        some (sellOrder trade) := Dict.get?_set_self _ _ _
    have hfill : ∀ f ∈ (b.fills.insertIfAbsent execId (sellFill sellOrderId nowMs trade)).entries,
        f ∈ b.fills.entries ∨ f.2 = sellFill sellOrderId nowMs trade := by
      intro f hf
      unfold Dict.insertIfAbsent at hf
      split_ifs at hf with hthere
      · exact Or.inl hf
      · rw [Dict.entries_set_of_get?_eq_none (by simpa using hthere)] at hf
        rcases List.mem_append.mp hf with hold | hlast
        · exact Or.inl hold
        · rw [List.mem_singleton.mp hlast]
          exact Or.inr rfl
    constructor
    · intro f hf
      rcases hfill f hf with hold | heq
      · exact h.side f hold
      · rw [heq]; rfl
    · intro f hf
      rcases hfill f hf with hold | heq
      · exact horder.priced f hold
      · rw [heq]
        exact ⟨sellOrder trade, hget, rfl⟩

/-- A call keeps the fills priced like their orders. -/
theorem Booked.bookedStep (h : Booked b) (call : BookedCall) : Booked (bookedStep call b).2 := by
  match call with
  | .call (.buy o tradeId nowMs committed) _ _ =>
    unfold SpotPaper.bookedStep
    dsimp only
    split_ifs with hbooked
    · have hnew : b.orders.get? tradeId = none := by
        have hfree := hbooked.2
        simp only [Bool.and_eq_true, Option.isNone_iff_eq_none] at hfree
        exact hfree.2
      exact h.set_order hnew o.row _
    · exact h.with_engine _
  | .call (.sell symbol exitPrice exitReason nowMs committed) execId sellOrderId =>
    apply (h.with_engine _).bookSales
    intro hcommitted
    rw [Bool.and_eq_true, Option.isNone_iff_eq_none] at hcommitted
    exact hcommitted.2
  | .call (.tick policy symbol price nowMs pricedCommitted soldCommitted) execId sellOrderId =>
    apply (h.with_engine _).bookSales
    intro hcommitted
    rw [Bool.and_eq_true, Option.isNone_iff_eq_none] at hcommitted
    exact hcommitted.2
  | .restart balanceUsdt tradeIds nowMs => exact h.with_engine _

/-- Every fill is joined with one order, that of its own sale. -/
theorem joinedRows_eq (h : Booked b) : joinedRows b = b.fills.entries.map fun f =>
    { execPrice := f.2.execPrice, execQty := f.2.execQty, entryPrice := f.2.execPrice,
      execTimeMs := f.2.execTimeMs } := by
  have hsell : (b.fills.entries.filter fun f => f.2.side = .sell) = b.fills.entries :=
    List.filter_eq_self.mpr fun f hf => decide_eq_true (h.side f hf)
  rw [joinedRows, hsell, List.map_eq_flatMap]
  apply List.flatMap_congr
  intro f hf
  obtain ⟨o, hget, hprice⟩ := h.priced f hf
  have hone : (b.orders.entries.filter fun o => o.1 = f.2.orderLinkId) =
      [(f.2.orderLinkId, o)] := by
    apply Dict.filter_entries_eq_singleton hget
    · exact decide_eq_true rfl
    · intro linkId order _ hkey
      exact of_decide_eq_true hkey
  rw [hone, List.map_singleton, hprice]

/-- No row is a win. -/
theorem wins_getStats (h : Booked b) : (getStats b).wins = 0 := by
  have hpnl : ∀ pnl ∈ (statsRows b).filterMap StatsRow.pnl?, ¬ 0 < pnl := by
    intro pnl hpnl
    obtain ⟨r, hr, hvalue⟩ := List.mem_filterMap.mp hpnl
    have hjoined : r ∈ joinedRows b :=
      (List.mem_insertionSort _).mp (List.mem_of_mem_take hr)
    rw [joinedRows_eq h] at hjoined
    obtain ⟨f, -, rfl⟩ := List.mem_map.mp hjoined
    simp only [StatsRow.pnl?, sub_self, zero_mul, Option.ite_none_right_eq_some,
      Option.some.injEq] at hvalue
    rw [← hvalue.2]
    exact lt_irrefl 0
  have hnone : ((statsRows b).filterMap StatsRow.pnl?).filter (fun pnl => 0 < pnl) = [] :=
    List.filter_eq_nil_iff.mpr fun pnl hmem => by simpa using hpnl pnl hmem
  unfold getStats
  dsimp only
  rw [hnone]
  split_ifs <;> rfl

/-- The total is the number of fills, up to 500. -/
theorem total_getStats (h : Booked b) (hfew : b.fills.entries.length ≤ 500) :
    (getStats b).total = b.fills.entries.length := by
  have hlength : (statsRows b).length = b.fills.entries.length := by
    rw [statsRows, List.length_take, List.length_insertionSort, joinedRows_eq h, List.length_map]
    omega
  unfold getStats
  dsimp only
  split_ifs with hempty
  · rw [hempty] at hlength
    rw [← hlength]
    rfl
  · rw [← hlength]

end Rows

/-! ### Counting the fills -/

section Counting

variable {b : SpotPaperBooks}

/-- How many of some sales were committed. -/
def committedCount (sales : List BookedSale) : ℕ :=
  (sales.filter fun sale => sale.committed).length

theorem committedCount_append (sales sales' : List BookedSale) :
    committedCount (sales ++ sales') = committedCount sales + committedCount sales' := by
  rw [committedCount, List.filter_append, List.length_append]
  rfl

/-- One committed sale books one fill. -/
theorem length_fills_bookSales {execId sellOrderId : String} {nowMs : ℤ} {committed : Bool}
    {trades : List SpotPaperTrade} (hone : trades.length ≤ 1)
    (hnew : b.fills.get? execId = none) :
    (bookSales execId sellOrderId nowMs committed trades b).fills.entries.length =
      b.fills.entries.length + committedCount (trades.map fun t => ⟨t, committed⟩) := by
  match committed, trades, hone with
  | false, [], _ => rfl
  | false, [trade], _ => rfl
  | true, [], _ => rfl
  | true, [trade], _ =>
    change (b.fills.insertIfAbsent execId _).entries.length = _
    rw [Dict.insertIfAbsent_of_none hnew, Dict.entries_set_of_get?_eq_none hnew,
      List.length_append]
    rfl

theorem get?_fills_bookSales {execId sellOrderId id : String} (hne : id ≠ execId) (nowMs : ℤ)
    (committed : Bool) (trades : List SpotPaperTrade) :
    (bookSales execId sellOrderId nowMs committed trades b).fills.get? id = b.fills.get? id := by
  match committed, trades with
  | false, _ => rfl
  | true, [] => rfl
  | true, trade :: rest => exact Dict.get?_insertIfAbsent_of_ne hne _ _

/-- A tick sells at most one holding. -/
theorem length_onPriceTick_le_one (policy : Policy) (symbol : String) (price : ℚ) (nowMs : ℤ)
    (pricedCommitted soldCommitted : Bool) (s : SpotPaperState) :
    (onPriceTick policy symbol price nowMs pricedCommitted soldCommitted s).1.length ≤ 1 := by
  unfold onPriceTick
  cases s.holdings.get? symbol with
  | none => exact Nat.zero_le 1
  | some h =>
    dsimp only
    split_ifs
    · exact Option.length_toList_le
    · exact Nat.zero_le 1

/-- A call books a fill for every committed sale it makes. -/
theorem length_fills_bookedStep {call : BookedCall}
    (hnew : ∀ id ∈ call.execIds, b.fills.get? id = none) :
    (bookedStep call b).2.fills.entries.length =
      b.fills.entries.length + committedCount (bookedStep call b).1 := by
  match call with
  | .call (.buy o tradeId nowMs committed) _ _ => rfl
  | .call (.sell symbol exitPrice exitReason nowMs committed) execId sellOrderId =>
    exact length_fills_bookSales Option.length_toList_le (hnew execId List.mem_cons_self)
  | .call (.tick policy symbol price nowMs pricedCommitted soldCommitted) execId sellOrderId =>
    exact length_fills_bookSales (length_onPriceTick_le_one policy symbol price nowMs _ _ _)
      (hnew execId List.mem_cons_self)
  | .restart balanceUsdt tradeIds nowMs => rfl

/-- A call leaves the ids free that it does not draw. -/
theorem get?_fills_bookedStep {call : BookedCall} {id : String} (hid : id ∉ call.execIds) :
    (bookedStep call b).2.fills.get? id = b.fills.get? id := by
  match call with
  | .call (.buy o tradeId nowMs committed) _ _ => rfl
  | .call (.sell symbol exitPrice exitReason nowMs committed) execId sellOrderId =>
    exact get?_fills_bookSales (List.ne_of_not_mem_cons hid) nowMs _ _
  | .call (.tick policy symbol price nowMs pricedCommitted soldCommitted) execId sellOrderId =>
    exact get?_fills_bookSales (List.ne_of_not_mem_cons hid) nowMs _ _
  | .restart balanceUsdt tradeIds nowMs => rfl

/-- Along a run the fills are the committed sales, each at the price of its order. -/
theorem booked_final {calls : List BookedCall} (hids : DistinctIds calls) (h : Booked b)
    (hnew : ∀ id ∈ calls.flatMap BookedCall.execIds, b.fills.get? id = none) :
    Booked (final bookedStep calls b) ∧
      (final bookedStep calls b).fills.entries.length =
        b.fills.entries.length + committedCount (outputs bookedStep calls b).flatten := by
  induction calls generalizing b with
  | nil => exact ⟨h, rfl⟩
  | cons call calls ih =>
    rw [DistinctIds, List.flatMap_cons] at hids
    obtain ⟨-, hrest, hdisjoint⟩ := List.nodup_append.mp hids
    have hnow : ∀ id ∈ call.execIds, b.fills.get? id = none := fun id hid =>
      hnew id (List.mem_flatMap.mpr ⟨call, List.mem_cons_self, hid⟩)
    have hlater : ∀ id ∈ calls.flatMap BookedCall.execIds,
        (bookedStep call b).2.fills.get? id = none := by
      intro id hid
      have hfree : id ∉ call.execIds := fun hdrawn => hdisjoint id hdrawn id hid rfl
      obtain ⟨c, hc, hmem⟩ := List.mem_flatMap.mp hid
      rw [get?_fills_bookedStep hfree]
      exact hnew id (List.mem_flatMap.mpr ⟨c, List.mem_cons_of_mem _ hc, hmem⟩)
    obtain ⟨hbooked, hlength⟩ := ih hrest (h.bookedStep call) hlater
    refine ⟨hbooked, ?_⟩
    rw [final_cons, hlength, length_fills_bookedStep hnow, outputs_cons, List.flatten_cons,
      committedCount_append, Nat.add_assoc]

end Counting

/-- The statistics agree with the sales of a run exactly if every sale was committed and none was
at a higher price than the purchase. -/
theorem agrees_iff {calls : List BookedCall} {engine : SpotPaperState} (hids : DistinctIds calls)
    (hfew : (salesOf calls engine).length ≤ 500) :
    Agrees (getStats (final bookedStep calls (openBooks engine))) (salesOf calls engine) ↔
      ∀ sale ∈ salesOf calls engine,
        sale.committed = true ∧ sale.trade.exitPrice ≤ sale.trade.entryPrice := by
  obtain ⟨hbooked, hlength⟩ := booked_final hids (booked_openBooks engine) fun id _ => rfl
  have hcount : (final bookedStep calls (openBooks engine)).fills.entries.length =
      committedCount (salesOf calls engine) := by
    rw [hlength]
    exact Nat.zero_add _
  have hle : committedCount (salesOf calls engine) ≤ (salesOf calls engine).length :=
    List.length_filter_le _ _
  rw [Agrees, total_getStats hbooked (by omega), wins_getStats hbooked, hcount]
  constructor
  · rintro ⟨htotal, hwins⟩ sale hsale
    have hall := List.length_filter_eq_length_iff.mp (Int.ofNat_inj.mp htotal) sale hsale
    have hnone := List.length_eq_zero_iff.mp (Int.ofNat_inj.mp hwins).symm
    have hnot := List.filter_eq_nil_iff.mp hnone sale hsale
    exact ⟨hall, not_lt.mp (by simpa using hnot)⟩
  · intro hsales
    have hall : committedCount (salesOf calls engine) = (salesOf calls engine).length :=
      List.length_filter_eq_length_iff.mpr fun sale hsale => (hsales sale hsale).1
    have hnone : (salesOf calls engine).filter
        (fun sale => sale.trade.entryPrice < sale.trade.exitPrice) = [] :=
      List.filter_eq_nil_iff.mpr fun sale hsale => by
        simpa using (hsales sale hsale).2
    rw [hall, hnone]
    exact ⟨rfl, rfl⟩

end SpotPaper

/-- The futures statistics agree with no history of closed trades. The spot statistics agree with
the sales exactly if all were committed and none was at a higher price than the purchase. -/
theorem paper_stats_agree_iff {scope : String} {futuresCalls : List FuturesPaper.ScopedCall}
    {futures : ScopedPaperState} {spotCalls : List SpotPaper.BookedCall} {spot : SpotPaperState}
    (hclosed : FuturesPaper.resultsOf scope futuresCalls futures ≠ [])
    (hids : SpotPaper.DistinctIds spotCalls)
    (hfew : (SpotPaper.salesOf spotCalls spot).length ≤ 500) :
    ¬ FuturesPaper.Agrees
        (FuturesPaper.getStats scope (final FuturesPaper.scopedStep futuresCalls futures))
        (FuturesPaper.resultsOf scope futuresCalls futures) ∧
      (SpotPaper.Agrees
          (SpotPaper.getStats (final SpotPaper.bookedStep spotCalls (SpotPaper.openBooks spot)))
          (SpotPaper.salesOf spotCalls spot) ↔
        ∀ sale ∈ SpotPaper.salesOf spotCalls spot,
          sale.committed = true ∧ sale.trade.exitPrice ≤ sale.trade.entryPrice) :=
  ⟨FuturesPaper.not_agrees_of_closed hclosed, SpotPaper.agrees_iff hids hfew⟩

/-- Bought at 100 and sold at a price. -/
def boughtAndSold (exitPrice : ℚ) : List SpotPaper.BookedCall :=
  [.call (.buy ⟨"BTCUSDT", 1, 100, 90, 110⟩ "buy" 0 true) "unused" "unused",
    .call (.sell "BTCUSDT" exitPrice "manual" 1000 true) "fill" "sell"]

/-- A long futures position that reaches its target. -/
def closedAtTarget : List FuturesPaper.ScopedCall :=
  [.call "futures" (.openPosition ⟨"BTCUSDT", .long, 100, 1, 90, 110⟩ "paper" 0),
    .saveProtection "BTCUSDT" .long 90 110,
    .call "futures" (.onPriceTick (SimpleExitPolicy.onTick 14400000 1000) "BTCUSDT" 112 1000)]

/-- No trades and no tables yet. -/
def noTrades : ScopedPaperState where
  tables := { trades := .empty, positions := .empty, protections := .empty }
  scopes := .empty

/-- An engine without holdings. -/
def freshEngine : SpotPaperState := SpotPaper.start 10000 id 0 .empty

/-- After it, a short position that is stopped. -/
def closedTwice : List FuturesPaper.ScopedCall :=
  closedAtTarget ++
    [.call "futures" (.openPosition ⟨"ETHUSDT", .short, 50, 2, 55, 40⟩ "second" 2000),
      .saveProtection "ETHUSDT" .short 55 40,
      .call "futures" (.onPriceTick (SimpleExitPolicy.onTick 14400000 3000) "ETHUSDT" 56 3000)]

/-- Sold below the price of the purchase, at that price, and at the stop. -/
def threeSales : List SpotPaper.BookedCall :=
  [.call (.buy ⟨"BTCUSDT", 1, 100, 90, 110⟩ "b1" 0 true) "unused" "unused",
    .call (.sell "BTCUSDT" 95 "manual" 1000 true) "f1" "s1",
    .call (.buy ⟨"ETHUSDT", 2, 50, 45, 60⟩ "b2" 2000 true) "unused" "unused",
    .call (.buy ⟨"BTCUSDT", 1, 96, 90, 110⟩ "b3" 3000 true) "unused" "unused",
    .call (.sell "ETHUSDT" 50 "manual" 4000 true) "f2" "s2",
    .call (.tick (SimpleExitPolicy.onTick 14400000 5000) "BTCUSDT" 89 5000 true true) "f3" "s3"]

/-- Three losses are counted by the spot engine; of two futures trades nothing is. -/
theorem losses_are_counted :
    ((FuturesPaper.resultsOf "futures" closedTwice noTrades).length = 2 ∧
      (SpotPaper.salesOf threeSales freshEngine).length = 3) ∧
      ¬ FuturesPaper.Agrees
        (FuturesPaper.getStats "futures" (final FuturesPaper.scopedStep closedTwice noTrades))
        (FuturesPaper.resultsOf "futures" closedTwice noTrades) ∧
      SpotPaper.Agrees
        (SpotPaper.getStats
          (final SpotPaper.bookedStep threeSales (SpotPaper.openBooks freshEngine)))
        (SpotPaper.salesOf threeSales freshEngine) := by
  have hids : SpotPaper.DistinctIds threeSales := by
    change ["f1", "f2", "f3"].Nodup
    decide
  have hclosed : FuturesPaper.resultsOf "futures" closedTwice noTrades ≠ [] := by
    decide +kernel
  have hfew : (SpotPaper.salesOf threeSales freshEngine).length ≤ 500 := by
    decide +kernel
  have hstats := paper_stats_agree_iff hclosed hids hfew
  exact ⟨by decide +kernel, hstats.1, hstats.2.mpr (by decide +kernel)⟩

/-- A futures trade closed at its target leaves no statistics; a spot sale at 120 is no win. -/
theorem profit_not_counted :
    ¬ (∀ scope calls s, FuturesPaper.resultsOf scope calls s ≠ [] → FuturesPaper.Agrees
        (FuturesPaper.getStats scope (final FuturesPaper.scopedStep calls s))
        (FuturesPaper.resultsOf scope calls s)) ∧
      ¬ (∀ calls engine, SpotPaper.DistinctIds calls →
        (SpotPaper.salesOf calls engine).length ≤ 500 → SpotPaper.Agrees
          (SpotPaper.getStats (final SpotPaper.bookedStep calls (SpotPaper.openBooks engine)))
          (SpotPaper.salesOf calls engine)) := by
  constructor
  · intro hclaim
    obtain ⟨st, hst, -⟩ := hclaim "futures" closedAtTarget noTrades (by decide +kernel)
    revert hst
    have hnone : FuturesPaper.getStats "futures"
        (final FuturesPaper.scopedStep closedAtTarget noTrades) = none := by decide +kernel
    rw [hnone]
    exact fun h => absurd h (by simp)
  · intro hclaim
    have hids : SpotPaper.DistinctIds (boughtAndSold 120) := by
      change ["fill"].Nodup
      exact List.nodup_singleton _
    obtain ⟨-, hwins⟩ := hclaim (boughtAndSold 120) freshEngine hids (by decide +kernel)
    revert hwins
    decide +kernel

end Botik
