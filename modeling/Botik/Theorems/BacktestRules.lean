import Botik.Backtest.BacktestRun

/-!
# Sides and timeouts of a backtest

A backtest has no order book: a constant stands for its imbalance, and a short needs a smaller one.
So a move up never opens a short, where the same move down opens a long; the live runner, which
reads the book, treats both alike.

A backtest never reads its hold timeout: a position is closed by the price or not at all. So the
timeout is honoured exactly where every position that is overdue at a candle is at its stop or at
its target there.

## Main definitions

* `BacktestRun.OpensAt` — a candle opens a position of a side
* `BacktestRun.UpMove` — all that a short needs, but for the imbalance
* `BacktestRun.Mirrored` — a long after a move down, and the same move up elsewhere
* `BacktestRun.TreatsAlike` — the move up opens a short
* `BacktestRun.AtOverdue` — of every position that is overdue at a candle
* `BacktestRun.HonoursTimeout` — an overdue position is closed

## Main results

* `liveEntrySide_neg` — the live runner
* `not_opensAt_short`
* `sides_never_alike`
* `loop_withTimeout` — runs with different timeouts are the same
* `timeout_honoured_iff`
-/

namespace Botik

/-! ### The sides of a futures backtest -/

namespace BacktestRun

variable {round : ℚ → ℕ → ℚ} {x : BacktestParams} {tradeIds : ℕ → String}
  {before down up : List HistoryCandle} {candle downCandle upCandle : HistoryCandle} {bps : ℚ}

/-- The state at the entry of a candle. -/
def atEntry (round : ℚ → ℕ → ℚ) (x : BacktestParams) (candle : HistoryCandle)
    (s : BacktestState FuturesBacktestPosition) : BacktestState FuturesBacktestPosition :=
  exitCandle round FuturesBacktest.engine x candle (pushCandle candle s)

/-- After some candles of a futures backtest the next one opens a position of a side. -/
def OpensAt (round : ℚ → ℕ → ℚ) (x : BacktestParams) (tradeIds : ℕ → String) (side : PositionSide)
    (before : List HistoryCandle) (candle : HistoryCandle) : Prop :=
  ∃ s s' pos openTimeMs, loop round FuturesBacktest.engine x tradeIds before (initial x) = .ok s ∧
    stepCandle round FuturesBacktest.engine x tradeIds candle s = .ok s' ∧
    (atEntry round x candle s).held = none ∧
    s'.held = some (pos, openTimeMs) ∧ pos.side = side

/-- All that a short needs at a candle after a move up, but for the imbalance: no open position,
enough candles, a range, a move beyond the threshold, and a quantity. -/
structure UpMove (round : ℚ → ℕ → ℚ) (x : BacktestParams) (tradeIds : ℕ → String) (bps : ℚ)
    (before : List HistoryCandle) (candle : HistoryCandle)
    (s : BacktestState FuturesBacktestPosition) : Prop where
  reached : loop round FuturesBacktest.engine x tradeIds before (initial x) = .ok s
  free : (atEntry round x candle s).held = none
  enough : minCandlesForTrade ≤ (atEntry round x candle s).closes.length
  range : 0 < atrOf (atEntry round x candle s)
  move : spikeBpsOf (atEntry round x candle s).closes candle.close = bps
  beyond : x.spikeBps < bps
  sized : ∃ stops qty, x.sizer.calcSlTp candle.close (atrOf (atEntry round x candle s))
      PositionSide.short.word none none = .ok stops ∧
    x.sizer.calcQty (atEntry round x candle s).equity candle.close stops.1 noRecord = .ok qty ∧
    0 < qty

/-- A long that is opened after a move down, and the same move up at the same candle of another
list. -/
structure Mirrored (round : ℚ → ℕ → ℚ) (x : BacktestParams) (tradeIds : ℕ → String) (bps : ℚ)
    (down : List HistoryCandle) (downCandle : HistoryCandle) (up : List HistoryCandle)
    (upCandle : HistoryCandle) : Prop where
  samePlace : down.length = up.length
  long : OpensAt round x tradeIds .long down downCandle
  moveDown : ∃ s, loop round FuturesBacktest.engine x tradeIds down (initial x) = .ok s ∧
    spikeBpsOf (atEntry round x downCandle s).closes downCandle.close = -bps
  moveUp : ∃ s, UpMove round x tradeIds bps up upCandle s

/-! ### The entry rules -/

/-- The live runner takes the other side of the opposite move in the opposite book. -/
theorem liveEntrySide_neg {threshold imbThreshold imbalance spikeBps : ℚ}
    (h : liveEntrySide threshold imbThreshold imbalance spikeBps = some .long)
    (hthreshold : 0 ≤ threshold) :
    liveEntrySide threshold imbThreshold (1 - imbalance) (-spikeBps) = some .short := by
  unfold liveEntrySide at h ⊢
  split_ifs at h with hlong hshort
  · obtain ⟨hmove, himbalance⟩ := hlong
    have hnotdown : ¬ -spikeBps < -threshold := by linarith
    rw [if_neg fun hdown => hnotdown hdown.1, if_pos ⟨by linarith, by linarith⟩]
  · cases h

/-- With the constant of the backtest no move is a reason for a short. -/
theorem entrySide_ne_short (threshold spikeBps : ℚ) :
    entrySide threshold FuturesBacktest.engine.imbalanceThreshold spikeBps ≠ some .short := by
  -- the constant stands where the live runner has the imbalance of the book
  have himbalance : ¬ FuturesBacktest.engine.imbalanceThreshold < 1 / 2 := by
    norm_num [FuturesBacktest.engine]
  unfold entrySide
  split_ifs with hlong hshort
  · simp
  · exact absurd hshort.2 himbalance
  · simp

theorem signalOf_ne_short (price : ℚ) (s : BacktestState FuturesBacktestPosition) :
    signalOf FuturesBacktest.engine x price s ≠ some .short := by
  unfold signalOf
  split_ifs
  · simp
  · simp
  · simp
  · simp
  · simp
  · exact entrySide_ne_short _ _

/-- A position that an entry opens has the side that was asked for. -/
theorem signalOf_of_opens {s s' : BacktestState FuturesBacktestPosition}
    {pos : FuturesBacktestPosition} {openTimeMs : ℤ} (hnone : s.held = none)
    (h : entryCandle FuturesBacktest.engine x tradeIds candle s = .ok s')
    (hheld : s'.held = some (pos, openTimeMs)) :
    signalOf FuturesBacktest.engine x candle.close s = some pos.side := by
  rcases entryCandle_inv h with rfl | ⟨side, stops, qty, hside, -, -, -, rfl⟩
  · rw [hnone] at hheld
    cases hheld
  · rw [hnone] at hheld
    cases hheld
    exact hside

/-! ### Shorts -/

/-- No candle of any futures backtest opens a short. -/
theorem not_opensAt_short (round : ℚ → ℕ → ℚ) (x : BacktestParams) (tradeIds : ℕ → String)
    (before : List HistoryCandle) (candle : HistoryCandle) :
    ¬ OpensAt round x tradeIds .short before candle := by
  rintro ⟨s, s', pos, openTimeMs, -, hstep, hnone, hheld, hside⟩
  have hsignal := signalOf_of_opens hnone hstep hheld
  rw [hside] at hsignal
  exact signalOf_ne_short _ _ hsignal

/-- What is opened down is opened up: a mirrored move opens a short. -/
def TreatsAlike (round : ℚ → ℕ → ℚ) (x : BacktestParams) (tradeIds : ℕ → String) (bps : ℚ)
    (down : List HistoryCandle) (downCandle : HistoryCandle) (up : List HistoryCandle)
    (upCandle : HistoryCandle) : Prop :=
  Mirrored round x tradeIds bps down downCandle up upCandle →
    OpensAt round x tradeIds .short up upCandle

end BacktestRun

open BacktestRun

/-- Wherever a move down opens a long, the same move up elsewhere opens no short. -/
theorem sides_never_alike {round : ℚ → ℕ → ℚ} {x : BacktestParams} {tradeIds : ℕ → String} {bps : ℚ}
    {down up : List HistoryCandle} {downCandle upCandle : HistoryCandle}
    (h : Mirrored round x tradeIds bps down downCandle up upCandle) :
    ¬ TreatsAlike round x tradeIds bps down downCandle up upCandle :=
  fun halike => not_opensAt_short round x tradeIds up upCandle (halike h)

/-! ### Two percent down and up -/

/-- Twenty flat minutes. -/
def flatMinutes : List HistoryCandle := (List.range 20).map fun n => ⟨60000 * n, 101, 99, 100⟩

theorem mirrored_flatMinutes :
    Mirrored FeatureEngine.roundDigits (.default "BTCUSDT" "1") (fun _ => "bt-1") 200 flatMinutes
      ⟨1200000, 100, 97, 98⟩ flatMinutes ⟨1200000, 103, 100, 102⟩ := by
  let x : BacktestParams := .default "BTCUSDT" "1"
  let down : HistoryCandle := ⟨1200000, 100, 97, 98⟩
  let up : HistoryCandle := ⟨1200000, 103, 100, 102⟩
  let entry := atEntry FeatureEngine.roundDigits x
  let step := stepCandle FeatureEngine.roundDigits FuturesBacktest.engine x fun _ => "bt-1"
  -- the run is evaluated once, and what is needed is read off it
  have hrun : (loop FeatureEngine.roundDigits FuturesBacktest.engine x (fun _ => "bt-1")
      flatMinutes (initial x)).toOption.any (fun s =>
        (entry down s).held.isNone && (entry up s).held.isNone &&
        ((step down s).toOption.any fun s' => s'.held.any fun held => held.1.side = .long) &&
        spikeBpsOf (entry down s).closes down.close = -200 &&
        spikeBpsOf (entry up s).closes up.close = 200 &&
        minCandlesForTrade ≤ (entry up s).closes.length &&
        0 < atrOf (entry up s) &&
        ((x.sizer.calcSlTp up.close (atrOf (entry up s)) "short" none none).toOption.any
          fun stops => (x.sizer.calcQty (entry up s).equity up.close stops.1 noRecord).toOption.any
            fun qty => 0 < qty)) = true := by
    decide +kernel
  obtain ⟨s, hloop, htest⟩ := exists_of_any_toOption hrun
  simp only [Bool.and_eq_true, Option.isNone_iff_eq_none, decide_eq_true_eq] at htest
  obtain ⟨⟨⟨⟨⟨⟨⟨hfreeDown, hfreeUp⟩, hopens⟩, hmoveDown⟩, hmoveUp⟩, henough⟩, hrange⟩, hsized⟩ :=
    htest
  obtain ⟨s', hstep, hheld⟩ := exists_of_any_toOption hopens
  obtain ⟨⟨pos, openTimeMs⟩, hpos, hside⟩ := (Option.any_eq_true _ _).mp hheld
  obtain ⟨stops, hstops, hqty⟩ := exists_of_any_toOption hsized
  obtain ⟨qty, hqty, hpositive⟩ := exists_of_any_toOption hqty
  exact
    { samePlace := rfl
      long := ⟨s, s', pos, openTimeMs, hloop, hstep, hfreeDown, hpos, of_decide_eq_true hside⟩
      moveDown := ⟨s, hloop, hmoveDown⟩
      moveUp := ⟨s,
        { reached := hloop
          free := hfreeUp
          enough := henough
          range := hrange
          move := hmoveUp
          beyond := by
            change (80 : ℚ) < 200
            norm_num
          sized := ⟨stops, qty, hstops, hqty, of_decide_eq_true hpositive⟩ }⟩ }

/-- Two percent up open nothing where two percent down open a long. -/
theorem not_treatsAlike_flatMinutes :
    ¬ TreatsAlike FeatureEngine.roundDigits (.default "BTCUSDT" "1") (fun _ => "bt-1") 200
      flatMinutes ⟨1200000, 100, 97, 98⟩ flatMinutes ⟨1200000, 103, 100, 102⟩ :=
  sides_never_alike mirrored_flatMinutes

/-- So not every futures backtest treats both sides alike. -/
theorem sides_not_always_alike : ¬ ∀ round x tradeIds bps down downCandle up upCandle,
    TreatsAlike round x tradeIds bps down downCandle up upCandle := by
  intro h
  have hshort := h _ _ _ _ _ _ _ _ mirrored_flatMinutes
  exact not_opensAt_short _ _ _ _ _ hshort

/-! ### The hold timeout of a backtest -/

namespace BacktestRun

variable {π : Type} {round : ℚ → ℕ → ℚ} {e : BacktestEngine π} {x : BacktestParams}
  {tradeIds : ℕ → String} {candles : List HistoryCandle} {s : BacktestState π}
  {candle : HistoryCandle} {pos : π} {openTimeMs : ℤ}

/-- Runs with different timeouts are the same. -/
theorem loop_withTimeout (holdTimeoutH : ℚ) (s : BacktestState π) :
    loop round e { x with holdTimeoutH := holdTimeoutH } tradeIds candles s =
      loop round e x tradeIds candles s := by
  induction candles generalizing s with
  | nil => rfl
  | cons candle candles ih =>
    have hstep : stepCandle round e { x with holdTimeoutH := holdTimeoutH } tradeIds candle s =
        stepCandle round e x tradeIds candle s := rfl
    simp only [loop, hstep, ih]

/-- A position opened at a time is older than the timeout at a candle. -/
def Overdue (x : BacktestParams) (candle : HistoryCandle) (openTimeMs : ℤ) : Prop :=
  x.holdTimeoutH * 3600000 < candle.openTimeMs - openTimeMs

/-- Something is so at every candle of a run at which a held position is overdue. -/
def AtOverdue (round : ℚ → ℕ → ℚ) (e : BacktestEngine π) (x : BacktestParams)
    (tradeIds : ℕ → String) (candles : List HistoryCandle)
    (P : BacktestState π → HistoryCandle → π → Prop) : Prop :=
  ∀ before candle after s pos openTimeMs, candles = before ++ candle :: after →
    loop round e x tradeIds before (initial x) = .ok s → s.held = some (pos, openTimeMs) →
      Overdue x candle openTimeMs → P s candle pos

/-- No position is still open at a candle at which it is overdue. -/
def HonoursTimeout (round : ℚ → ℕ → ℚ) (e : BacktestEngine π) (x : BacktestParams)
    (tradeIds : ℕ → String) (candles : List HistoryCandle) : Prop :=
  AtOverdue round e x tradeIds candles fun s candle pos =>
    ∀ openTimeMs, (exitCandle round e x candle (pushCandle candle s)).held ≠ some (pos, openTimeMs)

/-- At a candle a held position is closed exactly where the price closes it. -/
theorem held_exitCandle_ne_iff (hown : OwnSymbol e x s) (hheld : s.held = some (pos, openTimeMs)) :
    (∀ t, (exitCandle round e x candle (pushCandle candle s)).held ≠ some (pos, t)) ↔
      e.exitReason pos candle.close ≠ none := by
  have hpushed : (pushCandle candle s).held = some (pos, openTimeMs) := hheld
  have hsymbol := hown pos openTimeMs hheld
  cases hexit : e.exitReason pos candle.close with
  | none =>
    rw [exitCandle_of_stays hpushed hsymbol hexit]
    exact iff_of_false (fun h => h openTimeMs hpushed) fun h => h rfl
  | some reason =>
    rw [exitCandle_of_closes hpushed hsymbol hexit]
    exact iff_of_true (fun t h => by cases h) (by simp)

/-- The timeout is honoured exactly where the price closes every overdue position. -/
theorem honoursTimeout_iff : HonoursTimeout round e x tradeIds candles ↔
    AtOverdue round e x tradeIds candles fun _ candle pos =>
      e.exitReason pos candle.close ≠ none := by
  constructor
  · intro h before candle after s pos openTimeMs hsplit hloop hheld hoverdue
    exact (held_exitCandle_ne_iff (ownSymbol_loop hloop) hheld).mp
      (h before candle after s pos openTimeMs hsplit hloop hheld hoverdue)
  · intro h before candle after s pos openTimeMs hsplit hloop hheld hoverdue
    exact (held_exitCandle_ne_iff (ownSymbol_loop hloop) hheld).mpr
      (h before candle after s pos openTimeMs hsplit hloop hheld hoverdue)

theorem AtOverdue.congr {P Q : BacktestState π → HistoryCandle → π → Prop}
    (h : ∀ s candle pos, P s candle pos ↔ Q s candle pos) :
    AtOverdue round e x tradeIds candles P ↔ AtOverdue round e x tradeIds candles Q := by
  unfold AtOverdue
  simp only [h]

end BacktestRun

open BacktestRun SimpleExitPolicy

theorem FuturesBacktest.exitReason_ne_none_iff {pos : FuturesBacktestPosition} {price : ℚ} :
    FuturesBacktest.exitReason pos price ≠ none ↔
      StopHit pos.side price pos.stopLoss ∨ TargetHit pos.side price pos.takeProfit := by
  unfold FuturesBacktest.exitReason StopHit TargetHit
  cases pos.side with
  | long => simp only; split_ifs <;> simp_all
  | short => simp only; split_ifs <;> simp_all

theorem SpotBacktest.exitReason_ne_none_iff {pos : SpotBacktestHolding} {price : ℚ} :
    SpotBacktest.exitReason pos price ≠ none ↔
      price ≤ pos.stopLoss ∨ pos.takeProfit ≤ price := by
  unfold SpotBacktest.exitReason
  split_ifs <;> simp_all

/-- A backtest honours its hold timeout if and only if at every candle at which the held position is
overdue the close is at its stop or at its target. -/
theorem timeout_honoured_iff (round : ℚ → ℕ → ℚ) (x : BacktestParams) (tradeIds : ℕ → String)
    (candles : List HistoryCandle) :
    (HonoursTimeout round FuturesBacktest.engine x tradeIds candles ↔
        AtOverdue round FuturesBacktest.engine x tradeIds candles fun _ candle pos =>
          StopHit pos.side candle.close pos.stopLoss ∨
            TargetHit pos.side candle.close pos.takeProfit) ∧
      (HonoursTimeout round SpotBacktest.engine x tradeIds candles ↔
        AtOverdue round SpotBacktest.engine x tradeIds candles fun _ candle pos =>
          candle.close ≤ pos.stopLoss ∨ pos.takeProfit ≤ candle.close) :=
  ⟨honoursTimeout_iff.trans (AtOverdue.congr fun _ _ _ => FuturesBacktest.exitReason_ne_none_iff),
    honoursTimeout_iff.trans (AtOverdue.congr fun _ _ _ => SpotBacktest.exitReason_ne_none_iff)⟩

/-! ### A position that is never closed -/

/-- Twenty flat hours, a dip, and four hours more at its price. -/
def flatHours : List HistoryCandle :=
  (List.range 25).map fun n =>
    if n < 20 then ⟨3600000 * n, 101, 99, 100⟩ else ⟨3600000 * n, 99, 97, 98⟩

/-- A position of five hours is held with a timeout of four. -/
theorem timeout_not_honoured : ¬ ∀ round x tradeIds candles,
    HonoursTimeout round FuturesBacktest.engine x tradeIds candles := by
  intro h
  let x : BacktestParams := .default "BTCUSDT" "60"
  have hheld : (loop FeatureEngine.roundDigits FuturesBacktest.engine x (fun _ => "bt-1") flatHours
      (initial x)).toOption.any (fun s => s.held.any fun held =>
        (FuturesBacktest.exitReason held.1 98).isNone && held.2 = 20 * 3600000) = true := by
    decide +kernel
  obtain ⟨s, hloop, htest⟩ := exists_of_any_toOption hheld
  obtain ⟨⟨pos, openTimeMs⟩, hpos, hpair⟩ := (Option.any_eq_true _ _).mp htest
  simp only [Bool.and_eq_true, Option.isNone_iff_eq_none, decide_eq_true_eq] at hpair
  obtain ⟨hstays, rfl⟩ := hpair
  have hoverdue : Overdue x ⟨25 * 3600000, 99, 97, 98⟩ (20 * 3600000) := by
    change (4 : ℚ) * 3600000 < _
    norm_num
  have hclosed := h FeatureEngine.roundDigits x (fun _ => "bt-1")
    (flatHours ++ [⟨25 * 3600000, 99, 97, 98⟩]) flatHours _ [] s pos _ rfl hloop hpos hoverdue
  exact (held_exitCandle_ne_iff (ownSymbol_loop hloop) hpos).mp hclosed hstays

end Botik
