import Botik.Library.Runs
import Botik.Runners.FuturesRunner
import Botik.Theorems.OwnProtection
import Botik.Theorems.PositionSizing

/-!
# Runs of the futures runner

The engine decides by symbol and side which stop and target a tick reads, so trades of one symbol
may take over each other's. The runner opens no trade of a symbol that has one, across restarts too,
and saves the stop and target in the same step: every trade is closed by its own ones. The models
have no part in it. The strategy that holds them is never asked, and neither is its limit on the
number of trades.

## Main definitions

* `FuturesTrading.step` — the runner without models
* `FuturesTrading.Guarded` — what every step keeps

## Main results

* `futures_runner_trades_by_rules`
* `Guarded.openRequest`, `Guarded.onBar` — one step
* `futures_runner_guards_trades`, `futures_runner_trains_every_fifty`
-/

namespace Botik

open Ml

/-- The part of an event that is not about models. -/
inductive FuturesInput
  | message (m : FuturesMessage)
  | restart (symbols : List String)

/-- The input of an event. -/
def FuturesEvent.input? {μ : Type} : FuturesEvent μ → Option FuturesInput
  | .message m => some (.message m)
  | .restart symbols => some (.restart symbols)
  | .others _ => none

namespace FuturesTrading

/-- One input, for a runner without models. -/
def step (x : FuturesRunnerSettings) (i : FuturesInput) (s : FuturesTrading) : FuturesTrading :=
  match i with
  | .message (.kline symbol candles) =>
    (PriceFeed.readBars FuturesCandle.toCandleCells candles).foldl
      (fun s c => s.onBar x symbol c.1 c.2) s
  | .message (.orderbook symbol bids asks tradeId nowMs) =>
    match s.signal symbol bids asks with
    | .ok (some g) => s.openRequest (requestFor (x.strategy none) x symbol g) tradeId nowMs
    | _ => s
  | .restart symbols => s.restart symbols

end FuturesTrading

/-- The same parameters with another limit on the number of trades. -/
def FuturesRunnerSettings.withLimit (x : FuturesRunnerSettings) (maxPositions : ℤ) :
    FuturesRunnerSettings :=
  { x with maxPositions := maxPositions }

namespace FuturesRunner

variable {μ : Type} {x : FuturesRunnerSettings} {e : Estimators μ} {symbol : String}

/-- What a message of candles leaves. -/
theorem onKline_eq (candles : List FuturesCandle) (s : FuturesRunner μ) :
    onKline x e symbol candles s = (PriceFeed.readBars FuturesCandle.toCandleCells candles).foldl
      (fun s c => onBar x e symbol c.1 c.2 s) s :=
  PriceFeed.after_each_withBar candles s

/-- A request reads the thresholds of the strategy, neither its model nor its limit. -/
theorem requestFor_strategy (predict : Option (List ℚ → Option ℚ)) (maxPositions : ℤ)
    (g : BookSignal) :
    FuturesTrading.requestFor ((x.withLimit maxPositions).strategy predict)
        (x.withLimit maxPositions) symbol g =
      FuturesTrading.requestFor (x.strategy none) x symbol g := rfl

/-- Trading after an event is that of a runner without models, whatever the limits are. -/
theorem trading_step (maxPositions : ℤ) (event : FuturesEvent μ) (s : FuturesRunner μ) :
    (step (x.withLimit maxPositions) e event s).trading =
      event.input?.elim s.trading fun i => FuturesTrading.step x i s.trading := by
  cases event with
  | others store => rfl
  | restart symbols => rfl
  | message m =>
    cases m with
    | kline symbol candles =>
      change (onKline (x.withLimit maxPositions) e symbol candles s).trading =
        (PriceFeed.readBars FuturesCandle.toCandleCells candles).foldl
          (fun s c => s.onBar x symbol c.1 c.2) s.trading
      rw [onKline_eq]
      generalize PriceFeed.readBars FuturesCandle.toCandleCells candles = bars
      induction bars generalizing s with
      | nil => rfl
      | cons c bars ih => exact ih _
    | orderbook symbol bids asks tradeId nowMs =>
      change (onOrderbook (x.withLimit maxPositions) e symbol bids asks tradeId nowMs s).trading =
        FuturesTrading.step x (.message (.orderbook symbol bids asks tradeId nowMs)) s.trading
      unfold onOrderbook FuturesTrading.step
      dsimp only
      cases s.trading.signal symbol bids asks with
      | error err => rfl
      | ok signal =>
        cases signal with
        | none => rfl
        | some g =>
          dsimp only
          rw [requestFor_strategy]

end FuturesRunner

/-- The parameters make sense. -/
structure FuturesRunnerSettings.Valid (x : FuturesRunnerSettings) : Prop where
  balance : 0 ≤ x.balance
  atrSlMult : 0 < x.sizer.atrSlMult
  riskPct : 0 ≤ x.sizer.riskPct
  maxPositionPct : 0 ≤ x.sizer.maxPositionPct

theorem FuturesRunnerSettings.valid_default : FuturesRunnerSettings.default.Valid where
  balance := by norm_num [FuturesRunnerSettings.default]
  atrSlMult := by norm_num [FuturesRunnerSettings.default]
  riskPct := by norm_num [FuturesRunnerSettings.default]
  maxPositionPct := by norm_num [FuturesRunnerSettings.default]

namespace FuturesTrading

open FuturesPaper SimpleExitPolicy

/-- A trade with a stop, a target and a quantity as the sizer promises them. -/
structure WithinLimits (x : FuturesRunnerSettings) (o : OpenRequest) : Prop where
  qty : 0 < o.qty
  entryPrice : 0 < o.entryPrice
  ratio : KeepsRatio o.entryPrice (o.stopLoss, o.takeProfit)
  limits : KeepsLimits x.sizer x.balance o.entryPrice o.stopLoss BacktestRun.noRecord o.qty

/-- No two open trades have one symbol, and the protection of an open trade is its own. -/
structure Guarded (x : FuturesRunnerSettings) (s : FuturesTrading) : Prop where
  rows : ∀ t ∈ s.opened, ∃ row, s.tables.trades.get? t.tradeId = some row ∧
    (row.exit = none → row = t.request.trade t.openedAtMs)
  single : ∀ symbol id id' row row', s.tables.trades.get? id = some row →
    s.tables.trades.get? id' = some row' → IsOpenOf symbol row → IsOpenOf symbol row' → id = id'
  own : ∀ t ∈ s.opened, IsOpen s.tables t.tradeId →
    s.tables.protections.get? (t.request.symbol, t.request.side) =
      some ⟨some t.request.stopLoss, some t.request.takeProfit⟩
  limits : ∀ t ∈ s.opened, WithinLimits x t.request

section Steps

variable {x : FuturesRunnerSettings} {s : FuturesTrading} {g : BookSignal} {symbol : String}
  {o : OpenRequest} {t : OpenedTrade}

/-- The row of an open trade. -/
theorem Guarded.row_of_isOpen (h : Guarded x s) (ht : t ∈ s.opened)
    (hopen : IsOpen s.tables t.tradeId) :
    s.tables.trades.get? t.tradeId = some (t.request.trade t.openedAtMs) := by
  obtain ⟨row, hrow, hsame⟩ := h.rows t ht
  obtain ⟨row', hrow', hexit⟩ := hopen
  rw [hrow] at hrow'
  obtain rfl := Option.some.inj hrow'
  rw [hrow, hsame hexit]

/-- A tick closes trades and changes nothing else of them. -/
theorem Guarded.onBar (h : Guarded x s) (symbol : String) (c : FuturesCandle) (bar : Bar) :
    Guarded x (s.onBar x symbol c bar) := by
  have hbefore : ∀ {id row}, (s.onBar x symbol c bar).tables.trades.get? id = some row →
      row.exit = none → s.tables.trades.get? id = some row := by
    intro id row hrow hexit
    exact ((open_onPriceTick_iff hexit).mp hrow).1
  constructor
  · intro t ht
    obtain ⟨row, hrow, hsame⟩ := h.rows t ht
    have hafter : (s.onBar x symbol c bar).tables.trades.get? t.tradeId = _ :=
      get?_onPriceTick t.tradeId
    rw [hrow, Option.map_some] at hafter
    refine ⟨_, hafter, fun hexit => ?_⟩
    have hrow' := hbefore hafter hexit
    rw [hrow] at hrow'
    rw [← Option.some.inj hrow'] at hexit ⊢
    exact hsame hexit
  · intro symbol' id id' row row' hrow hrow' hopen hopen'
    exact h.single symbol' id id' row row' (hbefore hrow hopen.2) (hbefore hrow' hopen'.2) hopen
      hopen'
  · rintro t ht ⟨row, hrow, hexit⟩
    have hkept : (s.onBar x symbol c bar).tables.protections = s.tables.protections :=
      protections_onPriceTick
    rw [hkept]
    exact h.own t ht ⟨row, hbefore hrow hexit, hexit⟩
  · exact h.limits

/-- A request is of its symbol and within the limits. -/
theorem sound_of_requestFor (hx : x.Valid) (hbid : 0 < g.bestBid) (hask : 0 < g.bestAsk)
    (hatr : 0 < g.atr) {c : FuturesSpike} (h : requestFor c x symbol g = .ok (some o)) :
    o.symbol = symbol ∧ WithinLimits x o := by
  unfold requestFor at h
  cases hside : BacktestRun.liveEntrySide c.spikeThresholdBps c.imbalanceThreshold g.imbalance
      g.spikeBps with
  | none =>
    rw [hside] at h
    cases h
  | some side =>
    rw [hside] at h
    dsimp only at h
    have hentry : 0 < entryOf g side := by
      cases side
      · exact hask
      · exact hbid
    have hmult : 0 < (none : Option ℚ).getD x.sizer.atrSlMult := hx.atrSlMult
    obtain ⟨slTp, hslTp, hratio⟩ : ∃ slTp,
        x.sizer.calcSlTp (entryOf g side) g.atr side.word none none = .ok slTp ∧
          KeepsRatio (entryOf g side) slTp :=
      keepsRatio_calcSlTp hatr.le hmult (entryOf g side) side.word
    obtain ⟨qty, hqty, hlimits⟩ := keepsLimits_calcQty hentry hx.balance hx.maxPositionPct
      hx.riskPct slTp.1 BacktestRun.noRecord
    rw [hslTp] at h
    change (x.sizer.calcQty x.balance (entryOf g side) slTp.1 BacktestRun.noRecord >>= _) = _ at h
    rw [hqty] at h
    change Except.ok (if qty ≤ 0 then none
      else some (OpenRequest.mk symbol side (entryOf g side) qty slTp.1 slTp.2)) = _ at h
    split_ifs at h with hpos
    · cases h
    · cases h
      exact ⟨rfl, not_le.mp hpos, hentry, hratio, hlimits⟩

/-- A trade of a symbol without an open one. -/
theorem Guarded.openTrade (h : Guarded x s) {tradeId : String} {nowMs : ℤ}
    (hfree : ∀ id row, s.tables.trades.get? id = some row → ¬ IsOpenOf o.symbol row)
    (hlimits : WithinLimits x o) : Guarded x (s.openRequest (.ok (some o)) tradeId nowMs) := by
  unfold openRequest openPosition
  dsimp only
  split_ifs with htaken
  · exact h
  · have hnew : s.tables.trades.get? tradeId = none := Option.not_isSome_iff_eq_none.mp htaken
    let trade := o.trade nowMs
    -- a row that was there is not the new one
    have hold : ∀ {id row}, s.tables.trades.get? id = some row →
        (s.tables.trades.set tradeId trade).get? id = some row := by
      intro id row hrow
      have hne : id ≠ tradeId := by
        rintro rfl
        rw [hnew] at hrow
        cases hrow
      exact (Dict.get?_set_of_ne hne _ _).trans hrow
    constructor
    · intro t ht
      rcases List.mem_append.mp ht with hmem | hlast
      · obtain ⟨row, hrow, hsame⟩ := h.rows t hmem
        exact ⟨row, hold hrow, hsame⟩
      · rw [List.mem_singleton.mp hlast]
        exact ⟨trade, Dict.get?_set_self _ _ _, fun _ => rfl⟩
    · intro symbol id id' row row' hrow hrow' hopen hopen'
      change (s.tables.trades.set tradeId trade).get? id = some row at hrow
      change (s.tables.trades.set tradeId trade).get? id' = some row' at hrow'
      rw [Dict.get?_set] at hrow hrow'
      split_ifs at hrow hrow' with hid hid'
      · rw [hid, hid']
      · cases hrow
        exact absurd ⟨hopen'.1.trans hopen.1.symm, hopen'.2⟩ (hfree id' row' hrow')
      · cases hrow'
        exact absurd ⟨hopen.1.trans hopen'.1.symm, hopen.2⟩ (hfree id row hrow)
      · exact h.single symbol id id' row row' hrow hrow' hopen hopen'
    · rintro t ht ⟨row, hrow, hexit⟩
      change (s.tables.protections.set (o.symbol, o.side) ⟨some o.stopLoss, some o.takeProfit⟩).get?
        (t.request.symbol, t.request.side) = _
      change (s.tables.trades.set tradeId trade).get? t.tradeId = some row at hrow
      rcases List.mem_append.mp ht with hmem | hlast
      · obtain ⟨row', hrow', hsame⟩ := h.rows t hmem
        rw [hold hrow'] at hrow
        obtain rfl := Option.some.inj hrow
        have hne : (t.request.symbol, t.request.side) ≠ (o.symbol, o.side) := by
          intro heq
          refine hfree t.tradeId row' hrow' ⟨?_, hexit⟩
          rw [hsame hexit]
          exact congrArg Prod.fst heq
        rw [Dict.get?_set_of_ne hne]
        exact h.own t hmem ⟨row', hrow', hexit⟩
      · rw [List.mem_singleton.mp hlast]
        exact Dict.get?_set_self _ _ _
    · intro t ht
      rcases List.mem_append.mp ht with hmem | hlast
      · exact h.limits t hmem
      · rw [List.mem_singleton.mp hlast]
        exact hlimits

/-- Where a book says something of a symbol, it has no open trade. -/
theorem not_isOpenOf_of_signal {bids asks : List LevelCells}
    (h : s.signal symbol bids asks = .ok (some g)) (id : String) (row : PaperTrade)
    (hrow : s.tables.trades.get? id = some row) : ¬ IsOpenOf symbol row := by
  intro hopen
  have hnone := of_decide_eq_false (PriceFeed.signalOf_sound h).1
  rw [not_not] at hnone
  have hmem : (id, row) ∈ s.getOpenPositions symbol :=
    List.mem_filter.mpr ⟨Dict.mem_entries_iff.mpr hrow,
      decide_eq_true ⟨Or.inr hopen.1, hopen.2⟩⟩
  rw [hnone] at hmem
  cases hmem

theorem Guarded.step (h : Guarded x s) (hx : x.Valid) (i : FuturesInput) :
    Guarded x (FuturesTrading.step x i s) := by
  cases i with
  | restart symbols => exact ⟨h.rows, h.single, h.own, h.limits⟩
  | message m =>
    cases m with
    | kline symbol candles =>
      unfold FuturesTrading.step
      dsimp only
      generalize PriceFeed.readBars FuturesCandle.toCandleCells candles = bars
      induction bars generalizing s with
      | nil => exact h
      | cons c bars ih => exact ih (h.onBar symbol c.1 c.2)
    | orderbook symbol bids asks tradeId nowMs =>
      unfold FuturesTrading.step
      dsimp only
      cases hsignal : s.signal symbol bids asks with
      | error err => exact h
      | ok signal =>
        cases signal with
        | none => exact h
        | some g =>
          dsimp only
          obtain ⟨-, hbid, hask, hatr⟩ := PriceFeed.signalOf_sound hsignal
          cases hrequest : requestFor (x.strategy none) x symbol g with
          | error err => exact h
          | ok request =>
            cases request with
            | none => exact h
            | some o =>
              obtain ⟨rfl, hlimits⟩ := sound_of_requestFor hx hbid hask hatr hrequest
              exact h.openTrade (not_isOpenOf_of_signal hsignal) hlimits

/-- A tick closes an open trade exactly where its own stop, target or timeout says so. -/
theorem Guarded.isOpen_tick_iff (h : Guarded x s) (ht : t ∈ s.opened)
    (hopen : IsOpen s.tables t.tradeId) (symbol : String) (c : FuturesCandle) (price : ℚ) :
    IsOpen (s.tick x symbol c price).2 t.tradeId ↔
      ¬ (symbol = t.request.symbol ∧
        (Hit t.request.side price t.request.stopLoss t.request.takeProfit ∨
          TimedOut x.holdTimeoutMs c.policyMs (seconds t.openedAtMs * 1000))) := by
  have hrow := h.row_of_isOpen ht hopen
  have hown := h.own t ht hopen
  have hexit : (t.request.trade t.openedAtMs).exit = none := rfl
  have hdue : StoredReaches x.holdTimeoutMs s.tables (t.request.trade t.openedAtMs)
      (.onPriceTick (onTick x.holdTimeoutMs c.policyMs) symbol price c.policyMs) ↔
        (symbol = t.request.symbol ∧
          (Hit t.request.side price t.request.stopLoss t.request.takeProfit ∨
            TimedOut x.holdTimeoutMs c.policyMs (seconds t.openedAtMs * 1000))) := by
    unfold StoredReaches storedStop storedTarget
    change Reaches _ t.request.symbol t.request.side
      (((s.tables.protections.get? (t.request.symbol, t.request.side)).bind _).getD 0)
      (((s.tables.protections.get? (t.request.symbol, t.request.side)).bind _).getD 0) _ _ ↔ _
    rw [hown]
    rfl
  rw [← hdue, ← closedBy_simple_iff t.tradeId hexit]
  constructor
  · rintro ⟨row, hrow', hexit'⟩
    obtain ⟨hbefore, hstays⟩ := (open_onPriceTick_iff hexit').mp hrow'
    rw [hrow] at hbefore
    obtain rfl := Option.some.inj hbefore
    exact hstays
  · intro hstays
    exact ⟨_, (open_onPriceTick_iff hexit).mpr ⟨hrow, hstays⟩, hexit⟩

end Steps

end FuturesTrading

open FuturesPaper SimpleExitPolicy FuturesTrading

/-- Over every run of the futures runner from empty tables, restarts included, no two open trades
have one symbol, every tick closes exactly the open trades whose own stop, target or timeout it
reaches, and every trade keeps the limits of the sizer. -/
theorem futures_runner_guards_trades {μ : Type} (x : FuturesRunnerSettings) (e : Estimators μ)
    (events : List (FuturesEvent μ)) (symbols : List String) (store : TrainingStore μ)
    (hx : x.Valid) :
    let s := (Runs.run (FuturesRunner.step x e) events (.start symbols store)).trading
    (∀ symbol id id' row row', s.tables.trades.get? id = some row →
      s.tables.trades.get? id' = some row' → IsOpenOf symbol row → IsOpenOf symbol row' →
        id = id') ∧
      (∀ t ∈ s.opened, IsOpen s.tables t.tradeId → ∀ symbol c price,
        (IsOpen (s.tick x symbol c price).2 t.tradeId ↔
          ¬ (symbol = t.request.symbol ∧
            (Hit t.request.side price t.request.stopLoss t.request.takeProfit ∨
              TimedOut x.holdTimeoutMs c.policyMs (seconds t.openedAtMs * 1000))))) ∧
      ∀ t ∈ s.opened, WithinLimits x t.request := by
  intro s
  have hstart : Guarded x (FuturesTrading.start symbols) := by
    refine ⟨?_, ?_, ?_, ?_⟩ <;> simp [FuturesTrading.start]
  have hguarded : Guarded x s := by
    have hpart : ∀ event (s : FuturesRunner μ), (FuturesRunner.step x e event s).trading =
        event.input?.elim s.trading fun i => FuturesTrading.step x i s.trading :=
      FuturesRunner.trading_step x.maxPositions
    change Guarded x (Runs.run (FuturesRunner.step x e) events (.start symbols store)).trading
    rw [Runs.part_run_eq_run FuturesRunner.trading hpart]
    exact Runs.run_of_inv (P := fun _ _ => True) (fun _ i h _ => h.step hx i) hstart
      fun _ _ => trivial
  exact ⟨hguarded.single, fun t ht hopen => hguarded.isOpen_tick_iff ht hopen, hguarded.limits⟩

/-- A minute of futures, that closes at a price. -/
def futuresMinuteAt (close : ℚ) : FuturesCandle where
  high := .ok (close + 1)
  low := .ok (close - 1)
  close := .ok close
  policyMs := 0
  engineMs := 0
  stamps := ⟨"h", "p", "2026-01-01T00:00:00Z"⟩

/-- A fall of one symbol with more buyers than sellers and a rise of another with more sellers. The
first trade reaches its stop, the process is started again, and the first symbol falls once more. -/
def futuresFall : List (FuturesEvent ℕ) :=
  [.message (.kline "BTCUSDT" (List.replicate 16 (futuresMinuteAt 100))),
    .message (.orderbook "BTCUSDT" [⟨.ok 98, .ok 80⟩] [⟨.ok (491 / 5), .ok 20⟩] "t1" 0),
    .message (.kline "ETHUSDT" (List.replicate 16 (futuresMinuteAt 100))),
    .message (.orderbook "ETHUSDT" [⟨.ok (509 / 5), .ok 20⟩] [⟨.ok 102, .ok 80⟩] "t2" 0),
    .message (.kline "BTCUSDT" [futuresMinuteAt 95]),
    .restart ["BTCUSDT", "ETHUSDT"],
    .message (.kline "BTCUSDT" (List.replicate 16 (futuresMinuteAt 90))),
    .message (.orderbook "BTCUSDT" [⟨.ok 88, .ok 80⟩] [⟨.ok (441 / 5), .ok 20⟩] "t3" 0)]

/-- Three trades were opened, two of them of one symbol with stops of their own, and no two of one
symbol are open. -/
theorem futures_fall_guarded :
    let s := (Runs.run (FuturesRunner.step .default .quiet) futuresFall
      (.start ["BTCUSDT", "ETHUSDT"] ⟨⟨.empty, .empty, .empty⟩, .empty, []⟩)).trading
    s.opened.map (fun t => (t.tradeId, t.request.stopLoss, t.request.takeProfit)) =
        [("t1", 476 / 5, 516 / 5), ("t2", 524 / 5, 484 / 5), ("t3", 426 / 5, 466 / 5)] ∧
      (∀ symbol id id' row row', s.tables.trades.get? id = some row →
        s.tables.trades.get? id' = some row' → IsOpenOf symbol row → IsOpenOf symbol row' →
          id = id') ∧
      ∀ t ∈ s.opened, WithinLimits .default t.request := by
  intro s
  have hguarded := futures_runner_guards_trades .default .quiet futuresFall ["BTCUSDT", "ETHUSDT"]
    ⟨⟨.empty, .empty, .empty⟩, .empty, []⟩ FuturesRunnerSettings.valid_default
  exact ⟨by decide +kernel, hguarded.1, hguarded.2.2⟩

/-! ### Training -/

/-- What the learner was told is what this process has closed. -/
structure FuturesRunner.Learns {μ : Type} (s : FuturesRunner μ) : Prop where
  counts : s.learning.Counts
  recorded : s.learning.recorded = s.trading.closed.map FuturesRunner.learned

/-- Opening a trade closes nothing. -/
theorem FuturesTrading.closed_openRequest
    (request : Except SizingError (Option FuturesPaper.OpenRequest)) (tradeId : String)
    (nowMs : ℤ) (s : FuturesTrading) :
    (s.openRequest request tradeId nowMs).closed = s.closed := by
  unfold openRequest
  split
  · split <;> rfl
  · rfl

theorem FuturesRunner.Learns.step {μ : Type} {x : FuturesRunnerSettings} {e : Estimators μ}
    {s : FuturesRunner μ} (h : s.Learns) (event : FuturesEvent μ) :
    (FuturesRunner.step x e event s).Learns := by
  cases event with
  | others store => exact ⟨⟨h.counts.sinceRetrain, h.counts.trainings, h.counts.fed⟩, h.recorded⟩
  | restart symbols => exact ⟨RunnerLearning.counts_start .futures s.learning.store, rfl⟩
  | message m =>
    cases m with
    | kline symbol candles =>
      change (FuturesRunner.onKline x e symbol candles s).Learns
      rw [FuturesRunner.onKline_eq]
      generalize PriceFeed.readBars FuturesCandle.toCandleCells candles = bars
      induction bars generalizing s with
      | nil => exact h
      | cons c bars ih =>
        obtain ⟨hcounts, hrecorded⟩ := h.counts.foldl_recordClosed e true c.1.stamps
          FuturesRunner.learned (s.trading.tick x symbol c.1 c.2.close).1
        refine ih ⟨hcounts, hrecorded.trans ?_⟩
        rw [h.recorded, ← List.map_append]
        rfl
    | orderbook symbol bids asks tradeId nowMs =>
      change (FuturesRunner.onOrderbook x e symbol bids asks tradeId nowMs s).Learns
      unfold FuturesRunner.onOrderbook
      split
      · exact ⟨h.counts, h.recorded.trans (congrArg _ (closed_openRequest _ _ _ _).symm)⟩
      · exact h

end Botik
