import Mathlib.Data.List.Forall2
import Botik.Backtest.BacktestRun
import Botik.Execution.FuturesPaperFacts
import Botik.Execution.SpotPaper

/-!
# The backtest and the paper engines

A backtest runner and the paper engine of its market, asked with the same prices, close a position
at the same tick with the same result. The engines may hold other positions beside it: only what
they answer for this one is compared.

## Main definitions

* `ExitReport` — what is compared of a closed trade
* `FuturesPaper.OnlyOpenTrade` — the only open trade of a symbol and side, with its protection
* `FuturesPaper.Follows`, `SpotPaper.Follows` — the engine holds what the runner holds

## Main results

* `FuturesPaper.follows_tick`, `SpotPaper.follows_tick` — one tick
* `backtest_refines_paper` — every run of ticks
-/

namespace Botik

open Machines

/-- What is compared of a closed trade. -/
structure ExitReport where
  exitPrice : ℚ
  netPnl : ℚ
  exitReason : String
  deriving DecidableEq, Repr

def BacktestTrade.report (trade : BacktestTrade) : ExitReport :=
  ⟨trade.exitPrice, trade.netPnl, trade.exitReason⟩

def FuturesPaperClose.report (close : FuturesPaperClose) : ExitReport :=
  ⟨close.exitPrice, close.netPnl, close.exitReason⟩

def SpotPaperTrade.report (trade : SpotPaperTrade) : ExitReport :=
  ⟨trade.exitPrice, trade.netPnl, trade.exitReason⟩

/-- A price as an engine gets it: with the clock, and with the fate of its transactions. -/
structure PaperTick where
  symbol : String
  price : ℚ
  nowMs : ℤ
  pricedCommitted : Bool
  soldCommitted : Bool

/-! ### Futures -/

namespace FuturesPaper

/-- A tick under the policy without a timeout. -/
def simpleTick (tick : PaperTick) (s : FuturesPaperState) :
    List FuturesPaperClose × FuturesPaperState :=
  onPriceTick (SimpleExitPolicy.onTick 0 tick.nowMs) tick.symbol tick.price tick.nowMs s

/-- What the runner answers to the same tick. -/
def backtestTick (tick : PaperTick) :
    Option FuturesBacktestPosition → List BacktestTrade × Option FuturesBacktestPosition :=
  FuturesBacktest.tick tick.symbol tick.price

/-- The closes of a symbol and side. -/
def reportsOf (key : String × PositionSide) (closes : List FuturesPaperClose) : List ExitReport :=
  (closes.filter fun close => (close.symbol, close.side) = key).map FuturesPaperClose.report

/-- The only open trade of its symbol and side, with its stop and target saved. -/
structure OnlyOpenTrade (s : FuturesPaperState) (tradeId : String) (t : PaperTrade)
    (stopLoss takeProfit : ℚ) : Prop where
  row : s.trades.get? tradeId = some t
  isOpen : t.exit = none
  only : ∀ id t', s.trades.get? id = some t' → t'.exit = none →
    (t'.symbol, t'.side) = (t.symbol, t.side) → id = tradeId
  protection : s.protections.get? (t.symbol, t.side) = some ⟨some stopLoss, some takeProfit⟩

/-- The position of the runner for a trade. -/
def asBacktest (btId : String) (t : PaperTrade) (stopLoss takeProfit : ℚ) :
    FuturesBacktestPosition where
  tradeId := btId
  symbol := t.symbol
  side := t.side
  entryPrice := t.entryPrice
  qty := t.qty
  stopLoss := stopLoss
  takeProfit := takeProfit

/-- The engine holds the trade exactly when the runner holds the position. -/
def Follows (tradeId btId : String) (key : String × PositionSide) (s : FuturesPaperState) :
    Option FuturesBacktestPosition → Prop
  | some pos => ∃ t, (t.symbol, t.side) = key ∧
      OnlyOpenTrade s tradeId t pos.stopLoss pos.takeProfit ∧
      pos = asBacktest btId t pos.stopLoss pos.takeProfit
  | none => ¬ IsOpen s tradeId ∧
      ∀ id t, s.trades.get? id = some t → t.exit = none → (t.symbol, t.side) ≠ key

/-- A position that was just opened, with its protection saved, is such a trade. -/
theorem onlyOpenTrade_openPosition {o : OpenRequest} {tradeId : String} {nowMs : ℤ}
    {s : FuturesPaperState} (hnew : s.trades.get? tradeId = none)
    (hfree : ∀ id t, s.trades.get? id = some t → t.exit = none →
      (t.symbol, t.side) ≠ (o.symbol, o.side)) :
    OnlyOpenTrade (saveProtection o.symbol o.side o.stopLoss o.takeProfit
      (openPosition o tradeId nowMs s).2) tradeId (o.trade nowMs) o.stopLoss o.takeProfit := by
  have hopened : (openPosition o tradeId nowMs s).2.trades =
      s.trades.set tradeId (o.trade nowMs) := by
    simp [openPosition, hnew]
  constructor
  · change (openPosition o tradeId nowMs s).2.trades.get? tradeId = _
    rw [hopened, Dict.get?_set_self]
  · rfl
  · intro id t hrow hopen hkey
    by_contra hid
    have hold : s.trades.get? id = some t := by
      have hrow' : (openPosition o tradeId nowMs s).2.trades.get? id = some t := hrow
      rwa [hopened, Dict.get?_set_of_ne hid] at hrow'
    exact hfree id t hold hopen hkey
  · exact Dict.get?_set_self _ _ _

/-- The runner decides as the policy does. -/
theorem exitReason_eq (pos : FuturesBacktestPosition) (price : ℚ) :
    FuturesBacktest.exitReason pos price =
      SimpleExitPolicy.priceReason pos.side price pos.stopLoss pos.takeProfit := by
  unfold FuturesBacktest.exitReason SimpleExitPolicy.priceReason
  cases pos.side
  · simp only [SimpleExitPolicy.StopHit, SimpleExitPolicy.TargetHit, ge_iff_le]
    congr
  · simp only [SimpleExitPolicy.StopHit, SimpleExitPolicy.TargetHit, ge_iff_le]
    congr

/-- What the runner reports is what the engine reports of the same position. -/
theorem report_closed (p : PositionSnapshot) (pos : FuturesBacktestPosition) (reason : String)
    (hside : p.side = pos.side) (hentry : p.entryPrice = pos.entryPrice) (hqty : p.qty = pos.qty) :
    (closeResult p p.qty reason).report =
      (FuturesBacktest.closed pos p.markPrice reason).report := by
  have hgross : grossPnl p pos.qty = FuturesBacktest.grossPnl pos p.markPrice := by
    cases hpos : pos.side
    · simp only [grossPnl, FuturesBacktest.grossPnl, hside, hentry, hpos]
    · simp only [grossPnl, FuturesBacktest.grossPnl, hside, hentry, hpos]
  simp [FuturesPaperClose.report, BacktestTrade.report, closeResult, FuturesBacktest.closed, netPnl,
    hgross, hqty]

section Tick

variable {s : FuturesPaperState} {tradeId btId : String} {key : String × PositionSide}
  {t : PaperTrade} {stopLoss takeProfit : ℚ} {tick : PaperTick}

/-- What the policy is asked about the trade. -/
theorem snapshot_protected (honly : OnlyOpenTrade s tradeId t stopLoss takeProfit) (price : ℚ) :
    (snapshot s price tradeId t).stopLoss = stopLoss ∧
      (snapshot s price tradeId t).takeProfit = takeProfit := by
  unfold snapshot
  rw [honly.protection]
  exact ⟨rfl, rfl⟩

/-- What the tick closes of the trade: all of it or nothing. -/
theorem qtyToClose_simple (honly : OnlyOpenTrade s tradeId t stopLoss takeProfit) (price : ℚ)
    (nowMs : ℤ) :
    qtyToClose (SimpleExitPolicy.onTick 0 nowMs (snapshot s price tradeId t))
        (snapshot s price tradeId t) =
      (SimpleExitPolicy.priceReason t.side price stopLoss takeProfit).map fun _ => t.qty := by
  obtain ⟨hstop, htarget⟩ := snapshot_protected honly price
  rw [SimpleExitPolicy.onTick_of_no_timeout, hstop, htarget]
  change qtyToClose (((SimpleExitPolicy.priceReason t.side price stopLoss takeProfit).map
    PolicyAction.closing).getD .nothing) _ = _
  cases SimpleExitPolicy.priceReason t.side price stopLoss takeProfit <;> rfl

/-- The rows of the symbol and side the tick asks about. -/
theorem rows_eq_singleton (honly : OnlyOpenTrade s tradeId t stopLoss takeProfit)
    (hsymbol : t.symbol = tick.symbol) :
    s.trades.entries.filter (fun e => decide (IsOpenOf tick.symbol e.2 ∧
      (e.2.symbol, e.2.side) = (t.symbol, t.side))) = [(tradeId, t)] := by
  apply Dict.filter_entries_eq_singleton honly.row
  · simp [IsOpenOf, hsymbol, honly.isOpen]
  · intro id t' hrow hsel
    obtain ⟨hopen, hkey⟩ := of_decide_eq_true hsel
    exact honly.only id t' hrow hopen.2 hkey

theorem rows_eq_nil (h : ∀ id t, s.trades.get? id = some t → t.exit = none → t.symbol = tick.symbol →
    (t.symbol, t.side) ≠ key) :
    s.trades.entries.filter (fun e => decide (IsOpenOf tick.symbol e.2 ∧
      (e.2.symbol, e.2.side) = key)) = [] := by
  apply Dict.filter_entries_eq_nil
  intro id t hrow
  apply decide_eq_false
  rintro ⟨hopen, hkey⟩
  exact h id t hrow hopen.2 hopen.1 hkey

/-- A trade the tick does not close is still the only one. -/
theorem OnlyOpenTrade.stays (honly : OnlyOpenTrade s tradeId t stopLoss takeProfit)
    (hstays : ¬ ClosedBy (SimpleExitPolicy.onTick 0 tick.nowMs) tick.symbol tick.price s tradeId t) :
    OnlyOpenTrade (simpleTick tick s).2 tradeId t stopLoss takeProfit where
  row := (open_onPriceTick_iff honly.isOpen).mpr ⟨honly.row, hstays⟩
  isOpen := honly.isOpen
  only := fun id t' hrow hopen => honly.only id t' ((open_onPriceTick_iff hopen).mp hrow).1 hopen
  protection := by
    unfold simpleTick
    rw [protections_onPriceTick]
    exact honly.protection

/-- The tick closes the trade when its price reaches the stop or the target. -/
theorem closedBy_iff (honly : OnlyOpenTrade s tradeId t stopLoss takeProfit) :
    ClosedBy (SimpleExitPolicy.onTick 0 tick.nowMs) tick.symbol tick.price s tradeId t ↔
      t.symbol = tick.symbol ∧
        (SimpleExitPolicy.priceReason t.side tick.price stopLoss takeProfit).isSome := by
  unfold ClosedBy IsOpenOf
  rw [qtyToClose_simple honly, Option.isSome_map]
  simp [honly.isOpen]

variable (btId) in
/-- What the engine reports of the trade. -/
theorem reportsOf_tick (honly : OnlyOpenTrade s tradeId t stopLoss takeProfit)
    (hsymbol : t.symbol = tick.symbol) :
    reportsOf (t.symbol, t.side) (simpleTick tick s).1 =
      ((SimpleExitPolicy.priceReason t.side tick.price stopLoss takeProfit).map fun reason =>
        (FuturesBacktest.closed (asBacktest btId t stopLoss takeProfit) tick.price reason).report
        ).toList := by
  obtain ⟨hstop, htarget⟩ := snapshot_protected honly tick.price
  unfold reportsOf simpleTick
  rw [closes_filter_eq, rows_eq_singleton honly hsymbol, List.map_singleton,
    List.filterMap_cons, List.filterMap_nil, qtyToClose_simple honly]
  cases hreason : SimpleExitPolicy.priceReason t.side tick.price stopLoss takeProfit with
  | none => rfl
  | some reason =>
    have haction : SimpleExitPolicy.onTick 0 tick.nowMs (snapshot s tick.price tradeId t) =
        PolicyAction.closing reason := by
      rw [SimpleExitPolicy.onTick_of_no_timeout, hstop, htarget]
      change ((SimpleExitPolicy.priceReason t.side tick.price stopLoss takeProfit).map
        PolicyAction.closing).getD .nothing = _
      rw [hreason]
      rfl
    rw [haction]
    simp only [Option.map_some, List.map_singleton, Option.toList_some, List.cons.injEq, and_true]
    exact report_closed (snapshot s tick.price tradeId t) (asBacktest btId t stopLoss takeProfit)
      reason rfl rfl rfl

variable (tick) in
/-- One tick. -/
theorem follows_tick {b : Option FuturesBacktestPosition} (hfollows : Follows tradeId btId key s b) :
    reportsOf key (simpleTick tick s).1 =
        (backtestTick tick b).1.map BacktestTrade.report ∧
      Follows tradeId btId key (simpleTick tick s).2 (backtestTick tick b).2 := by
  have hlater : ∀ id t', (simpleTick tick s).2.trades.get? id = some t' → t'.exit = none →
      s.trades.get? id = some t' := fun id t' hrow hopen => ((open_onPriceTick_iff hopen).mp hrow).1
  cases b with
  | none =>
    obtain ⟨hclosed, hfree⟩ := hfollows
    refine ⟨?_, fun ⟨t', hrow, hopen⟩ => hclosed ⟨t', hlater tradeId t' hrow hopen, hopen⟩,
      fun id t' hrow hopen => hfree id t' (hlater id t' hrow hopen) hopen⟩
    unfold reportsOf simpleTick
    rw [closes_filter_eq, rows_eq_nil fun id t' hrow hopen _ => hfree id t' hrow hopen]
    rfl
  | some pos =>
    obtain ⟨t, hkey, honly, hpos⟩ := hfollows
    have hreasons := exitReason_eq pos tick.price
    have hside : pos.side = t.side := by rw [hpos]; rfl
    have hsymbols : pos.symbol = t.symbol := by rw [hpos]; rfl
    unfold backtestTick FuturesBacktest.tick
    dsimp only
    rw [hsymbols]
    by_cases hsymbol : t.symbol = tick.symbol
    · rw [if_pos hsymbol, hreasons, hside, ← hkey, reportsOf_tick btId honly hsymbol]
      cases hreason : SimpleExitPolicy.priceReason t.side tick.price pos.stopLoss
          pos.takeProfit with
      | none =>
        have hstays := mt (closedBy_iff honly).mp fun h => by rw [hreason] at h; simp at h
        exact ⟨rfl, t, rfl, honly.stays hstays, hpos⟩
      | some reason =>
        -- the only open trade of the symbol and side was the one that is closed
        have hgone : ∀ t', (simpleTick tick s).2.trades.get? tradeId = some t' →
            t'.exit ≠ none := by
          intro t' hrow hopen
          obtain ⟨hbefore, hstays⟩ := (open_onPriceTick_iff hopen).mp hrow
          rw [honly.row] at hbefore
          obtain rfl := Option.some.inj hbefore
          exact hstays ((closedBy_iff honly).mpr ⟨hsymbol, by rw [hreason]; rfl⟩)
        refine ⟨by rw [← hpos]; rfl, fun ⟨t', hrow, hopen⟩ => hgone t' hrow hopen, ?_⟩
        intro id t' hrow hopen hsame
        obtain rfl := honly.only id t' (hlater id t' hrow hopen) hopen hsame
        exact hgone t' hrow hopen
    · rw [if_neg hsymbol]
      have hstays := mt (closedBy_iff honly).mp fun h => hsymbol h.1
      refine ⟨?_, t, hkey, honly.stays hstays, hpos⟩
      unfold reportsOf simpleTick
      rw [closes_filter_eq, rows_eq_nil]
      · rfl
      · intro id t' _ _ hsymbol' hsame
        rw [← hkey] at hsame
        exact hsymbol ((Prod.mk.inj hsame).1.symm.trans hsymbol')

end Tick

end FuturesPaper

/-! ### Spot -/

namespace SpotPaper

/-- A tick under the policy without a timeout. -/
def simpleTick (tick : PaperTick) (s : SpotPaperState) : List SpotPaperTrade × SpotPaperState :=
  onPriceTick (SimpleExitPolicy.onTick 0 tick.nowMs) tick.symbol tick.price tick.nowMs
    tick.pricedCommitted tick.soldCommitted s

/-- What the runner answers to the same tick. -/
def backtestTick (tick : PaperTick) :
    Option SpotBacktestHolding → List BacktestTrade × Option SpotBacktestHolding :=
  SpotBacktest.tick tick.symbol tick.price

/-- The sales of a symbol. -/
def reportsOf (symbol : String) (trades : List SpotPaperTrade) : List ExitReport :=
  (trades.filter fun trade => trade.symbol = symbol).map SpotPaperTrade.report

/-- The engine holds what the runner holds, with the same stop and target. -/
def Follows (symbol : String) (s : SpotPaperState) : Option SpotBacktestHolding → Prop
  | some pos => pos.symbol = symbol ∧
      s.protection symbol = some (pos.stopLoss, pos.takeProfit) ∧
      ∃ h, s.holdings.get? symbol = some h ∧ h.avgEntryPrice = pos.entryPrice ∧
        h.qty = pos.qty ∧ h.entryFee = pos.entryFee
  | none => s.holdings.get? symbol = none

theorem exitReason_eq (pos : SpotBacktestHolding) (price : ℚ) :
    SpotBacktest.exitReason pos price =
      SimpleExitPolicy.priceReason .long price pos.stopLoss pos.takeProfit := by
  unfold SpotBacktest.exitReason SimpleExitPolicy.priceReason
  simp only [SimpleExitPolicy.StopHit, SimpleExitPolicy.TargetHit, ge_iff_le]
  congr

section Tick

variable {s : SpotPaperState} {symbol tradeId btId : String} {pos : SpotBacktestHolding}
  {h : PaperHolding} {o : BuyOrder} {nowMs : ℤ} {committed : Bool} {tick : PaperTick}

variable (tradeId btId nowMs committed) in
/-- A purchase that goes through is what the runner opens. -/
theorem follows_buy (hafford : Affordable s o) :
    Follows o.symbol (buy o tradeId nowMs committed s).2
      (SpotBacktest.openTrade .long btId o.symbol o.entryPrice o.qty o.stopLoss o.takeProfit
        none) := by
  unfold buy
  rw [if_pos hafford]
  exact ⟨rfl, Function.update_self _ _ _, newHolding o.symbol tradeId o.qty o.entryPrice nowMs,
    Dict.get?_set_self _ _ _, rfl, rfl, rfl⟩

variable (h nowMs) in
/-- What the policy says to a holding. -/
theorem onTick_snapshot (hprot : s.protection symbol = some (pos.stopLoss, pos.takeProfit))
    (price : ℚ) :
    SimpleExitPolicy.onTick 0 nowMs (snapshot symbol h price s) =
      ((SpotBacktest.exitReason pos price).map PolicyAction.closing).getD .nothing := by
  rw [SimpleExitPolicy.onTick_of_no_timeout, exitReason_eq]
  unfold snapshot
  rw [hprot]
  rfl

/-- One tick of the symbol, with something held. -/
theorem simpleTick_of_held (hheld : s.holdings.get? tick.symbol = some h)
    (hprot : s.protection tick.symbol = some (pos.stopLoss, pos.takeProfit)) :
    simpleTick tick s =
      match SpotBacktest.exitReason pos tick.price with
      | none => ([], priced tick.symbol h tick.price tick.pricedCommitted s)
      | some reason =>
        ([soldTrade tick.symbol { h with currentPrice := tick.price } tick.price reason tick.nowMs],
          sold tick.symbol { h with currentPrice := tick.price } tick.price tick.soldCommitted
            (priced tick.symbol h tick.price tick.pricedCommitted s)) := by
  have haction := onTick_snapshot h tick.nowMs hprot tick.price
  have hpriced : (priced tick.symbol h tick.price tick.pricedCommitted s).holdings.get? tick.symbol =
      some { h with currentPrice := tick.price } := Dict.get?_set_self _ _ _
  unfold simpleTick onPriceTick
  rw [hheld]
  dsimp only
  rw [haction]
  cases SpotBacktest.exitReason pos tick.price with
  | none => rfl
  | some reason =>
    change (_, _) = _
    simp only [Option.map_some, Option.getD_some, PolicyAction.closing]
    unfold sell
    rw [hpriced]
    rfl

/-- A tick of another symbol leaves the holding and its protection. -/
theorem simpleTick_of_ne (hne : symbol ≠ tick.symbol) :
    (simpleTick tick s).2.holdings.get? symbol = s.holdings.get? symbol ∧
      (simpleTick tick s).2.protection symbol = s.protection symbol ∧
      reportsOf symbol (simpleTick tick s).1 = [] := by
  unfold simpleTick onPriceTick
  cases hheld : s.holdings.get? tick.symbol with
  | none => exact ⟨rfl, rfl, rfl⟩
  | some h =>
    have hpriced : (priced tick.symbol h tick.price tick.pricedCommitted s).holdings.get?
        tick.symbol = some { h with currentPrice := tick.price } := Dict.get?_set_self _ _ _
    have hother : (priced tick.symbol h tick.price tick.pricedCommitted s).holdings.get? symbol =
        s.holdings.get? symbol := Dict.get?_set_of_ne hne _ _
    dsimp only
    split_ifs with hclose
    · unfold sell
      rw [hpriced]
      refine ⟨(Dict.get?_erase_of_ne hne _).trans hother, Function.update_of_ne hne _ _, ?_⟩
      simp [reportsOf, soldTrade, hne.symm]
    · exact ⟨hother, rfl, rfl⟩

variable (tick) in
/-- One tick. -/
theorem follows_tick {b : Option SpotBacktestHolding} (hfollows : Follows symbol s b) :
    reportsOf symbol (simpleTick tick s).1 = (backtestTick tick b).1.map BacktestTrade.report ∧
      Follows symbol (simpleTick tick s).2 (backtestTick tick b).2 := by
  by_cases hsymbol : symbol = tick.symbol
  · subst hsymbol
    cases b with
    | none =>
      have hnone : s.holdings.get? tick.symbol = none := hfollows
      unfold simpleTick onPriceTick
      rw [hnone]
      exact ⟨rfl, hnone⟩
    | some pos =>
      obtain ⟨hpos, hprot, h, hheld, hentry, hqty, hfee⟩ := hfollows
      rw [simpleTick_of_held hheld hprot]
      unfold backtestTick SpotBacktest.tick
      dsimp only
      rw [if_pos hpos]
      cases SpotBacktest.exitReason pos tick.price with
      | none => exact ⟨rfl, hpos, hprot, _, Dict.get?_set_self _ _ _, hentry, hqty, hfee⟩
      | some reason =>
        refine ⟨?_, Dict.get?_erase_self _ _⟩
        simp [reportsOf, soldTrade, SpotPaperTrade.report, BacktestTrade.report,
          SpotBacktest.closed, netProceeds, PaperHolding.costBasis, spotFeeRate, hentry, hqty, hfee]
  · obtain ⟨hholding, hprotection, hreports⟩ := simpleTick_of_ne (s := s) hsymbol
    rw [hreports]
    cases b with
    | none => exact ⟨rfl, hholding.trans hfollows⟩
    | some pos =>
      obtain ⟨hpos, hprot, h, hheld, hsame⟩ := hfollows
      unfold backtestTick SpotBacktest.tick
      dsimp only
      rw [if_neg fun heq => hsymbol (hpos.symm.trans heq)]
      exact ⟨rfl, hpos, hprotection.trans hprot, h, hholding.trans hheld, hsame⟩

end Tick

end SpotPaper

/-! ### Runs -/

/-- Runs that a simulation relates answer the same reports. -/
theorem map_outputs_of_simulation {ι σ τ ω υ : Type*} {step : ι → σ → ω × σ}
    {step' : ι → τ → υ × τ} {f : ω → List ExitReport} {g : υ → List ExitReport}
    {Sim : σ → τ → Prop} (h : ∀ i s t, Sim s t →
      f (step i s).1 = g (step' i t).1 ∧ Sim (step i s).2 (step' i t).2)
    {s : σ} {t : τ} (hst : Sim s t) (is : List ι) :
    (outputs step is s).map f = (outputs step' is t).map g := by
  have hall := forall₂_outputs_of_simulation (R := fun a b => f a = g b) h hst is
  rwa [← List.forall₂_eq_eq_eq, List.forall₂_map_left_iff, List.forall₂_map_right_iff]

/-- A backtest runner closes its position at the tick at which the paper engine of its market
closes the same position, with the same result, and holds it as long. -/
theorem backtest_refines_paper :
    (∀ (s : FuturesPaperState) (tradeId btId : String) (t : PaperTrade) (stopLoss takeProfit : ℚ),
      FuturesPaper.OnlyOpenTrade s tradeId t stopLoss takeProfit → ∀ ticks : List PaperTick,
        (outputs FuturesPaper.simpleTick ticks s).map (FuturesPaper.reportsOf (t.symbol, t.side)) =
            (outputs FuturesPaper.backtestTick ticks (FuturesBacktest.openTrade
              (FuturesPaper.asBacktest btId t stopLoss takeProfit) none)).map
                (List.map BacktestTrade.report) ∧
          (FuturesPaper.IsOpen (final FuturesPaper.simpleTick ticks s) tradeId ↔
            (final FuturesPaper.backtestTick ticks (FuturesBacktest.openTrade
              (FuturesPaper.asBacktest btId t stopLoss takeProfit) none)).isSome)) ∧
      ∀ (s : SpotPaperState) (o : SpotPaper.BuyOrder) (tradeId btId : String) (nowMs : ℤ)
        (committed : Bool), SpotPaper.Affordable s o → ∀ ticks : List PaperTick,
        (outputs SpotPaper.simpleTick ticks (SpotPaper.buy o tradeId nowMs committed s).2).map
              (SpotPaper.reportsOf o.symbol) =
            (outputs SpotPaper.backtestTick ticks (SpotBacktest.openTrade .long btId o.symbol
              o.entryPrice o.qty o.stopLoss o.takeProfit none)).map
                (List.map BacktestTrade.report) ∧
          (((final SpotPaper.simpleTick ticks
              (SpotPaper.buy o tradeId nowMs committed s).2).holdings.get? o.symbol).isSome ↔
            (final SpotPaper.backtestTick ticks (SpotBacktest.openTrade .long btId o.symbol
              o.entryPrice o.qty o.stopLoss o.takeProfit none)).isSome) := by
  constructor
  · intro s tradeId btId t stopLoss takeProfit honly ticks
    have hstart : FuturesPaper.Follows tradeId btId (t.symbol, t.side) s
        (FuturesBacktest.openTrade (FuturesPaper.asBacktest btId t stopLoss takeProfit) none) :=
      ⟨t, rfl, honly, rfl⟩
    have htick : ∀ (tick : PaperTick) (s : FuturesPaperState) (b : Option FuturesBacktestPosition),
        FuturesPaper.Follows tradeId btId (t.symbol, t.side) s b → _ :=
      fun tick _ _ => FuturesPaper.follows_tick tick
    refine ⟨map_outputs_of_simulation htick hstart ticks, ?_⟩
    have hend := final_of_simulation (fun tick s b h => (htick tick s b h).2) hstart ticks
    revert hend
    cases final FuturesPaper.backtestTick ticks (FuturesBacktest.openTrade
        (FuturesPaper.asBacktest btId t stopLoss takeProfit) none) with
    | none => exact fun hend => iff_of_false hend.1 Bool.false_ne_true
    | some pos =>
      rintro ⟨t', -, honly', -⟩
      exact iff_of_true ⟨t', honly'.row, honly'.isOpen⟩ rfl
  · intro s o tradeId btId nowMs committed hafford ticks
    have hstart := SpotPaper.follows_buy tradeId btId nowMs committed hafford
    have htick : ∀ (tick : PaperTick) (s : SpotPaperState) (b : Option SpotBacktestHolding),
        SpotPaper.Follows o.symbol s b → _ :=
      fun tick _ _ => SpotPaper.follows_tick tick
    refine ⟨map_outputs_of_simulation htick hstart ticks, ?_⟩
    have hend := final_of_simulation (fun tick s b h => (htick tick s b h).2) hstart ticks
    revert hend
    cases final SpotPaper.backtestTick ticks (SpotBacktest.openTrade .long btId o.symbol
        o.entryPrice o.qty o.stopLoss o.takeProfit none) with
    | none => exact fun hend => iff_of_false (by rw [hend]; simp) Bool.false_ne_true
    | some pos =>
      rintro ⟨-, -, h, hheld, -⟩
      exact iff_of_true (by rw [hheld]; rfl) rfl

/-- Two prices of a symbol. -/
def twoTicks : List PaperTick := [⟨"BTCUSDT", 100, 0, true, true⟩, ⟨"BTCUSDT", 110, 1, true, true⟩]

/-- A long position of one coin, bought at 100. -/
def longAt100 : FuturesPaper.OpenRequest := ⟨"BTCUSDT", .long, 100, 1, 90, 110⟩

def boughtAt100 : SpotPaper.BuyOrder := ⟨"BTCUSDT", 1, 100, 90, 110⟩

/-- Both markets close at the target, which the second price reaches exactly. -/
theorem long_closes_at_target :
    (outputs FuturesPaper.simpleTick twoTicks (FuturesPaper.saveProtection "BTCUSDT" .long 90 110
        (FuturesPaper.openPosition longAt100 "t" 0 ⟨.empty, .empty, .empty⟩).2)).map
          (FuturesPaper.reportsOf ("BTCUSDT", .long)) =
        [[], [⟨110, 10 - 110 * (55 / 100000), "tp_hit"⟩]] ∧
      (outputs SpotPaper.simpleTick twoTicks
        (SpotPaper.buy boughtAt100 "t" 0 true ⟨1000, .empty, fun _ => none, .empty⟩).2).map
          (SpotPaper.reportsOf "BTCUSDT") =
        [[], [⟨110, 110 - 110 / 1000 - (100 + 100 / 1000), "tp_hit"⟩]] := by
  have honly : FuturesPaper.OnlyOpenTrade (FuturesPaper.saveProtection "BTCUSDT" .long 90 110
      (FuturesPaper.openPosition longAt100 "t" 0 ⟨.empty, .empty, .empty⟩).2) "t"
      (longAt100.trade 0) 90 110 :=
    FuturesPaper.onlyOpenTrade_openPosition (Dict.get?_empty _) fun id t hrow => by simp at hrow
  have hafford : SpotPaper.Affordable ⟨1000, .empty, fun _ => none, .empty⟩ boughtAt100 := by
    decide +kernel
  have hfutures := (backtest_refines_paper.1 _ "t" "b" _ _ _ honly twoTicks).1
  have hspot := (backtest_refines_paper.2 _ boughtAt100 "t" "b" 0 true hafford twoTicks).1
  exact ⟨hfutures.trans (by decide +kernel), hspot.trans (by decide +kernel)⟩

end Botik
