import Mathlib.Data.List.Induction
import Mathlib.Tactic.Linarith
import Botik.Backtest.BacktestRun

/-!
# The books of a backtest

Every candle closes what it closes and then opens at most one position, where none is held. So what
was opened is closed or held, the equity is the balance with the results of the closed trades, and
each of these was opened by an earlier candle. The drawdown of the result is the greatest fall of
the equity curve.

## Main definitions

* `BacktestRun.exact` — no rounding
* `BacktestRun.openings` — how many positions some candles open
* `BacktestRun.Booked` — the invariant of the loop
* `BacktestRun.Bookkeeping`

## Main results

* `Booked.step`, `booked_loop` — one candle, and all of them
* `returns_runBacktest` — a multiplier of the stop that is not zero lets the run return
* `backtest_bookkeeping`
-/

namespace Botik

namespace BacktestRun

variable {π : Type} {round : ℚ → ℕ → ℚ} {e : BacktestEngine π} {x : BacktestParams}
  {tradeIds : ℕ → String} {s s' : BacktestState π} {candle : HistoryCandle}
  {candles before : List HistoryCandle} {opened : ℕ}

/-- No rounding. -/
def exact (q : ℚ) (_ : ℕ) : ℚ := q

/-! ### Openings -/

/-- A candle opens a position: one is held after its entry that was not held after its exit. -/
def opensAt [DecidableEq π] (round : ℚ → ℕ → ℚ) (e : BacktestEngine π) (x : BacktestParams)
    (candle : HistoryCandle) (s s' : BacktestState π) : Bool :=
  s'.held.isSome && s'.held ≠ (exitCandle round e x candle (pushCandle candle s)).held

/-- How many positions some candles open. -/
def openings [DecidableEq π] (round : ℚ → ℕ → ℚ) (e : BacktestEngine π) (x : BacktestParams)
    (tradeIds : ℕ → String) : List HistoryCandle → BacktestState π → ℕ
  | [], _ => 0
  | candle :: candles, s =>
    match stepCandle round e x tradeIds candle s with
    | .error _ => 0
    | .ok s' => (opensAt round e x candle s s').toNat + openings round e x tradeIds candles s'

theorem openings_concat [DecidableEq π] {s₀ : BacktestState π}
    (h : loop round e x tradeIds before s = .ok s₀)
    (hstep : stepCandle round e x tradeIds candle s₀ = .ok s') :
    openings round e x tradeIds (before ++ [candle]) s =
      openings round e x tradeIds before s + (opensAt round e x candle s₀ s').toNat := by
  induction before generalizing s with
  | nil =>
    obtain rfl := Except.ok.inj h
    simp [openings, hstep]
  | cons first before ih =>
    cases hfirst : stepCandle round e x tradeIds first s with
    | error err => simp [loop, hfirst, bind, Except.bind] at h
    | ok s₁ =>
      simp only [loop, hfirst, bind, Except.bind] at h
      simp only [List.cons_append, openings, hfirst, ih h]
      omega

/-! ### The invariant -/

/-- The books after some candles, which opened so many positions. -/
structure Booked (x : BacktestParams) (before : List HistoryCandle) (opened : ℕ)
    (s : BacktestState π) : Prop where
  curve : s.equityCurve.getLast? = some s.equity
  equity : s.equity = x.balance + (s.closedTrades.map ClosedTrade.pnl).sum
  heldBefore : ∀ pos openTimeMs, s.held = some (pos, openTimeMs) →
    openTimeMs ∈ before.map HistoryCandle.openTimeMs
  count : opened = s.closedTrades.length + s.held.toList.length

theorem booked_initial : Booked x [] 0 (initial x : BacktestState π) where
  curve := rfl
  equity := by simp [initial]
  heldBefore := by
    intro pos openTimeMs h
    cases h
  count := rfl

theorem Booked.pushCandle (h : Booked x before opened s) (candle : HistoryCandle) :
    Booked x before opened (pushCandle candle s) :=
  ⟨h.curve, h.equity, h.heldBefore, h.count⟩

/-- The trades a step adds were opened by earlier candles. -/
def AddsEarlier (before : List HistoryCandle) (s s' : BacktestState π) : Prop :=
  ∃ new, s'.closedTrades = s.closedTrades ++ new ∧
    ∀ trade ∈ new, trade.openTimeMs ∈ before.map HistoryCandle.openTimeMs

/-- The exit of a candle closes what is held, or leaves it. -/
theorem Booked.exitCandle (h : Booked x before opened s) (hown : OwnSymbol e x s)
    (candle : HistoryCandle) :
    Booked x before opened (exitCandle exact e x candle s) ∧
      AddsEarlier before s (BacktestRun.exitCandle exact e x candle s) := by
  cases hheld : s.held with
  | none =>
    rw [exitCandle_of_none hheld]
    exact ⟨h, [], by simp, by simp⟩
  | some held =>
    obtain ⟨pos, openTimeMs⟩ := held
    have hsymbol := hown pos openTimeMs hheld
    cases hexit : e.exitReason pos candle.close with
    | none =>
      rw [exitCandle_of_stays hheld hsymbol hexit]
      exact ⟨h, [], by simp, by simp⟩
    | some reason =>
      rw [exitCandle_of_closes hheld hsymbol hexit]
      refine ⟨⟨?_, ?_, ?_, ?_⟩, [_], rfl, ?_⟩
      · simp [bookTrade]
      · simp only [bookTrade, List.map_append, List.map_cons, List.map_nil, List.sum_append,
          List.sum_cons, List.sum_nil, h.equity, exact]
        ring
      · intro pos' openTimeMs' hnone
        cases hnone
      · have hcount := h.count
        rw [hheld] at hcount
        simpa [bookTrade] using hcount
      · intro trade htrade
        obtain rfl := List.mem_singleton.mp htrade
        exact h.heldBefore pos openTimeMs hheld

/-- One candle keeps the books. -/
theorem Booked.step [DecidableEq π] (h : Booked x before opened s) (hown : OwnSymbol e x s)
    (hstep : stepCandle exact e x tradeIds candle s = .ok s') :
    Booked x (before ++ [candle]) (opened + (opensAt exact e x candle s s').toNat) s' ∧
      AddsEarlier before s s' := by
  obtain ⟨hexit, hadds⟩ := (h.pushCandle candle).exitCandle (hown.pushCandle candle) candle
  have hownexit : OwnSymbol e x
      (BacktestRun.exitCandle exact e x candle (BacktestRun.pushCandle candle s)) :=
    (hown.pushCandle candle).exitCandle candle
  rw [stepCandle] at hstep
  generalize hmiddle : BacktestRun.exitCandle exact e x candle (BacktestRun.pushCandle candle s) =
    middle at hstep hexit hadds hownexit
  have hlater : ∀ openTimeMs, openTimeMs ∈ before.map HistoryCandle.openTimeMs →
      openTimeMs ∈ (before ++ [candle]).map HistoryCandle.openTimeMs := by
    intro openTimeMs hmem
    rw [List.map_append]
    exact List.mem_append_left _ hmem
  rcases entryCandle_cases hownexit hstep with rfl | ⟨hnone, pos, -, rfl⟩
  · have hopens : opensAt exact e x candle s s' = false := by
      simp [opensAt, hmiddle]
    refine ⟨⟨hexit.curve, hexit.equity, ?_, ?_⟩, hadds⟩
    · intro pos openTimeMs hheld
      exact hlater openTimeMs (hexit.heldBefore pos openTimeMs hheld)
    · rw [hopens]
      exact hexit.count
  · have hopens : opensAt exact e x candle s
        { middle with held := some (pos, candle.openTimeMs) } = true := by
      simp [opensAt, hmiddle, hnone]
    refine ⟨⟨hexit.curve, hexit.equity, ?_, ?_⟩, hadds⟩
    · intro pos' openTimeMs hheld
      cases hheld
      simp
    · rw [hopens, hexit.count, hnone]
      simp

/-- After any candles the books are kept. -/
theorem booked_loop [DecidableEq π]
    (h : loop exact e x tradeIds before (initial x) = .ok s) :
    Booked x before (openings exact e x tradeIds before (initial x)) s := by
  induction before using List.reverseRecOn generalizing s with
  | nil =>
    obtain rfl := Except.ok.inj h
    exact booked_initial
  | append_singleton before candle ih =>
    obtain ⟨s₀, hbefore, hstep⟩ := exists_of_loop_concat h
    rw [openings_concat hbefore hstep]
    exact ((ih hbefore).step (ownSymbol_loop hbefore) hstep).1

/-! ### The run returns -/

/-- The fixed risk raises nothing. -/
theorem exists_calcQty (z : PositionSizer) (balance entry stopLoss : ℚ) :
    ∃ qty, z.calcQty balance entry stopLoss noRecord = .ok qty := by
  have hrisk : z.calcQty balance entry stopLoss noRecord = z.riskQty balance entry stopLoss :=
    if_neg fun h => Bool.false_ne_true h.1
  rw [hrisk]
  by_cases hentry : entry = 0
  · exact ⟨0, if_pos (Or.inr hentry)⟩
  · by_cases hstop : entry = stopLoss
    · exact ⟨0, riskQty_of_eq hstop⟩
    · exact ⟨_, riskQty_eq hentry hstop⟩

theorem exists_calcSlTp {z : PositionSizer} (h : z.atrSlMult ≠ 0) (entry atr : ℚ)
    (direction : String) : ∃ stops, z.calcSlTp entry atr direction none none = .ok stops := by
  unfold PositionSizer.calcSlTp
  simp only [Option.getD_none, divide_of_ne_zero _ h, bind, Except.bind]
  by_cases hlong : direction = "long"
  · exact ⟨_, if_pos hlong⟩
  · exact ⟨_, if_neg hlong⟩

theorem exists_stepCandle (round : ℚ → ℕ → ℚ) (e : BacktestEngine π) (tradeIds : ℕ → String)
    (h : x.sizer.atrSlMult ≠ 0) (candle : HistoryCandle) (s : BacktestState π) :
    ∃ s', stepCandle round e x tradeIds candle s = .ok s' := by
  rw [stepCandle]
  generalize exitCandle round e x candle (pushCandle candle s) = middle
  unfold entryCandle
  cases hside : signalOf e x candle.close middle with
  | none => exact ⟨middle, rfl⟩
  | some side =>
    obtain ⟨stops, hstops⟩ := exists_calcSlTp h candle.close (atrOf middle) side.word
    obtain ⟨qty, hqty⟩ := exists_calcQty x.sizer middle.equity candle.close stops.1
    simp only [hstops, hqty, bind, Except.bind]
    by_cases hnone : qty ≤ 0
    · exact ⟨_, if_pos hnone⟩
    · exact ⟨_, if_neg hnone⟩

theorem exists_loop (round : ℚ → ℕ → ℚ) (e : BacktestEngine π) (tradeIds : ℕ → String)
    (h : x.sizer.atrSlMult ≠ 0) (candles : List HistoryCandle) (s : BacktestState π) :
    ∃ s', loop round e x tradeIds candles s = .ok s' := by
  induction candles generalizing s with
  | nil => exact ⟨s, rfl⟩
  | cons candle candles ih =>
    obtain ⟨s₁, hstep⟩ := exists_stepCandle round e tradeIds h candle s
    obtain ⟨s', hrest⟩ := ih s₁
    exact ⟨s', by simpa [loop, hstep, bind, Except.bind] using hrest⟩

/-! ### The result -/

section Result

variable {sharpe : List ℚ → ℚ} {result : BacktestResult}

/-- The result of a run is that of an empty list, or made of the last state of the loop. -/
theorem runBacktest_cases (h : runBacktest round e x tradeIds sharpe candles = .ok result) :
    candles = [] ∧ result = emptyResult e x ∨
      ∃ s, loop round e x tradeIds candles (initial x) = .ok s ∧
        result = buildResult round e x sharpe candles s := by
  unfold runBacktest at h
  split_ifs at h with hempty
  · exact Or.inl ⟨hempty, (Except.ok.inj h).symm⟩
  · cases hloop : loop round e x tradeIds candles (initial x) with
    | error err => simp [hloop, bind, Except.bind] at h
    | ok s =>
      simp only [hloop, bind, Except.bind] at h
      exact Or.inr ⟨s, rfl, (Except.ok.inj h).symm⟩

theorem returns_runBacktest (h : x.sizer.atrSlMult ≠ 0) :
    ∃ result, runBacktest round e x tradeIds sharpe candles = .ok result := by
  unfold runBacktest
  by_cases hempty : candles = []
  · exact ⟨_, if_pos hempty⟩
  · obtain ⟨s, hloop⟩ := exists_loop round e tradeIds h candles (initial x)
    rw [if_neg hempty, hloop]
    exact ⟨_, rfl⟩

/-- The drawdown of a curve is its greatest fall. -/
theorem isGreatest_calcMaxDrawdown {curve : List ℚ} (h : curve ≠ []) :
    IsGreatest (Drawdown.drops curve) (calcMaxDrawdown curve).1 := by
  match curve with
  | [] => exact absurd rfl h
  | [first] =>
    have hscan := (Drawdown.isGreatest_scan first []).2
    have hzero : (Drawdown.scan first [first]).2 = 0 := by
      simp [Drawdown.scan, Drawdown.step]
    rwa [hzero] at hscan
  | first :: second :: rest => exact (Drawdown.isGreatest_scan first (second :: rest)).2

/-- A number is positive or not. -/
theorem length_filter_pos_add (pnls : List ℚ) :
    (pnls.filter (0 < ·)).length + (pnls.filter (· ≤ 0)).length = pnls.length := by
  have hsplit := List.length_eq_length_filter_add (l := pnls) fun q => decide (0 < q)
  have hrest : pnls.filter (fun q => !decide (0 < q)) = pnls.filter (· ≤ 0) :=
    List.filter_congr fun q _ => by simp [← not_lt]
  rw [hsplit, hrest]

end Result

/-- The books of a backtest: at every moment what was opened is closed or held, the equity curve
ends with the results of the closed trades, each of these was opened by an earlier candle, every
one is a win or a loss, and the drawdown is the greatest fall of the curve. -/
structure Bookkeeping [DecidableEq π] (e : BacktestEngine π) (x : BacktestParams) (tradeIds : ℕ → String)
    (sharpe : List ℚ → ℚ) (candles : List HistoryCandle) : Prop where
  returns : x.sizer.atrSlMult ≠ 0 →
    ∃ result, runBacktest exact e x tradeIds sharpe candles = .ok result
  onePosition : ∀ before after s, candles = before ++ after →
    loop exact e x tradeIds before (initial x) = .ok s →
      openings exact e x tradeIds before (initial x) =
        s.closedTrades.length + s.held.toList.length
  equityEnd : ∀ s, loop exact e x tradeIds candles (initial x) = .ok s →
    s.equityCurve.getLast? = some (x.balance + (s.closedTrades.map ClosedTrade.pnl).sum)
  openedEarlier : ∀ before candle after s s', candles = before ++ candle :: after →
    loop exact e x tradeIds before (initial x) = .ok s →
      loop exact e x tradeIds (before ++ [candle]) (initial x) = .ok s' →
        ∃ closedNow, s'.closedTrades = s.closedTrades ++ closedNow ∧
          ∀ trade ∈ closedNow, trade.openTimeMs < candle.openTimeMs ∧
            trade.openTimeMs ∈ before.map HistoryCandle.openTimeMs
  counted : ∀ result, runBacktest exact e x tradeIds sharpe candles = .ok result →
    result.wins + result.losses = result.trades
  drawdown : ∀ result s, runBacktest exact e x tradeIds sharpe candles = .ok result →
    loop exact e x tradeIds candles (initial x) = .ok s →
      IsGreatest (Drawdown.drops s.equityCurve) result.maxDrawdown

theorem bookkeeping [DecidableEq π]
    (hsorted : candles.Pairwise fun c c' => c.openTimeMs < c'.openTimeMs)
    (e : BacktestEngine π) (x : BacktestParams) (tradeIds : ℕ → String) (sharpe : List ℚ → ℚ) :
    Bookkeeping e x tradeIds sharpe candles := by
  constructor
  · exact returns_runBacktest
  · rintro before after s - hloop
    exact (booked_loop hloop).count
  · intro s hloop
    have hbooked := booked_loop hloop
    rw [hbooked.curve, hbooked.equity]
  · rintro before candle after s s' rfl hbefore hloop
    obtain ⟨s₀, hbefore', hstep⟩ := exists_of_loop_concat hloop
    obtain rfl := Except.ok.inj (hbefore.symm.trans hbefore')
    obtain ⟨closedNow, hclosed, hearlier⟩ :=
      ((booked_loop hbefore).step (ownSymbol_loop hbefore) hstep).2
    refine ⟨closedNow, hclosed, fun trade htrade => ⟨?_, hearlier trade htrade⟩⟩
    obtain ⟨c, hc, heq⟩ := List.mem_map.mp (hearlier trade htrade)
    rw [← heq]
    exact (List.pairwise_append.mp hsorted).2.2 c hc candle List.mem_cons_self
  · intro result hrun
    rcases runBacktest_cases hrun with ⟨-, rfl⟩ | ⟨s, -, rfl⟩
    · rfl
    · have hsplit := length_filter_pos_add (s.closedTrades.map ClosedTrade.pnl)
      rwa [List.length_map] at hsplit
  · intro result s hrun hloop
    have hcurve : s.equityCurve ≠ [] := by
      intro hnil
      have hlast := (booked_loop hloop).curve
      rw [hnil] at hlast
      cases hlast
    rcases runBacktest_cases hrun with ⟨rfl, rfl⟩ | ⟨s', hloop', rfl⟩
    · obtain rfl := Except.ok.inj hloop
      exact isGreatest_calcMaxDrawdown hcurve
    · obtain rfl := Except.ok.inj (hloop.symm.trans hloop')
      exact isGreatest_calcMaxDrawdown hcurve

end BacktestRun

/-- Over candles with increasing times both runners keep their books, whatever the parameters. -/
theorem backtest_bookkeeping (candles : List HistoryCandle)
    (hsorted : candles.Pairwise fun c c' => c.openTimeMs < c'.openTimeMs)
    (x : BacktestParams) (tradeIds : ℕ → String) (sharpe : List ℚ → ℚ) :
    BacktestRun.Bookkeeping FuturesBacktest.engine x tradeIds sharpe candles ∧
      BacktestRun.Bookkeeping SpotBacktest.engine x tradeIds sharpe candles :=
  ⟨BacktestRun.bookkeeping hsorted .., BacktestRun.bookkeeping hsorted ..⟩

/-! ### A dip -/

/-- Twenty flat minutes, a dip, and a rise after it. -/
def dipAndRise : List HistoryCandle :=
  ((List.range 20).map fun n => ⟨60000 * n, 101, 99, 100⟩) ++
    [⟨1200000, 101, 97, 98⟩, ⟨1260000, 105, 98, 104⟩]

/-- The dip is bought, and the rise sells it. -/
theorem bookkeeping_dipAndRise :
    (BacktestRun.runBacktest BacktestRun.exact FuturesBacktest.engine (.default "BTCUSDT" "1")
        (fun _ => "bt-1") (fun _ => 0) dipAndRise).toOption.map
          BacktestRun.BacktestResult.trades = some 1 ∧
      BacktestRun.Bookkeeping FuturesBacktest.engine (.default "BTCUSDT" "1") (fun _ => "bt-1")
        (fun _ => 0) dipAndRise :=
  ⟨by decide +kernel, (backtest_bookkeeping dipAndRise (by decide +kernel) _ _ _).1⟩

end Botik
