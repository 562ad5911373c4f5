import Botik.Library.Pages
import Botik.Marketdata.OhlcvWorker

/-!
# A server of candles

The server holds the candles of one symbol, category and interval, an interval apart or more. It
answers a request with the first candles from its start on, the newest first. Each answer that
`backfill` gets decides what it asks for next.

The cells of a candle are what they are, but its time can be read and none of them is an integer too
large for a float.

## Main definitions

* `HeldCandle`, `KlineServer`
* `KlineServer.answer` — to a request
* `OhlcvWorker.servedPass`, `OhlcvWorker.servedBackfill` — the loop of `backfill`, with its requests

## Main results

* `rowsOf_cells` — what `_save_candles` keeps of the candles of a server
-/

namespace Botik

open OhlcvWorker

/-- A candle that a server holds. -/
structure HeldCandle where
  openTimeMs : ℤ
  cells : RawCandle
  readable : cell cells 0 >>= Json.toInt = .ok openTimeMs
  inRange : ∀ value ∈ cells, value.toFloat ≠ .error .overflowError

/-- A server of candles that are so much apart, the oldest first. -/
structure KlineServer (intervalMs : ℤ) where
  candles : List HeldCandle
  spaced : Pages.Spaced HeldCandle.openTimeMs intervalMs candles

namespace KlineServer

variable {intervalMs : ℤ}

/-- The candles from a time on. -/
def fromTime (server : KlineServer intervalMs) (startMs : ℤ) : List HeldCandle :=
  Pages.fromKey HeldCandle.openTimeMs startMs server.candles

/-- The candles of an answer. -/
def page (server : KlineServer intervalMs) (startMs : ℤ) : List HeldCandle :=
  (server.fromTime startMs).take KLINE_LIMIT

/-- The answer to a request, the newest candle first. -/
def answer (server : KlineServer intervalMs) (startMs : ℤ) : KlineReply :=
  .answered 0 ((server.page startMs).map HeldCandle.cells).reverse

theorem fetchKline_answer (server : KlineServer intervalMs) (startMs : ℤ) :
    fetchKline (server.answer startMs) = (server.page startMs).map HeldCandle.cells := by
  simp [answer, fetchKline]

end KlineServer

namespace OhlcvWorker

/-- The variables of the loop of `backfill`, and the starts of the requests it has made. -/
structure BackfillState where
  currentStart : ℤ
  totalSaved : ℕ
  table : PriceHistory
  requests : List ℤ

/-- How `backfill` ended, and the starts of its requests. -/
structure BackfillEnd where
  requests : List ℤ
  result : EStateM.Result PyError PriceHistory ℕ

section

variable (answer : ℤ → KlineReply) (symbol category interval : String) (nowMs : ℤ)

/-- One pass of the loop of `backfill`. -/
def servedPass (s : BackfillState) : BackfillState ⊕ BackfillEnd :=
  if nowMs ≤ s.currentStart then .inr ⟨s.requests, .ok s.totalSaved s.table⟩
  else
    let requests := s.requests ++ [s.currentStart]
    let candles := fetchKline (answer s.currentStart)
    if candles = [] then .inr ⟨requests, .ok s.totalSaved s.table⟩
    else
      match saveCandles candles symbol category interval s.table with
      | .error e table => .inr ⟨requests, .error e table⟩
      | .ok saved table =>
        match lastTs candles with
        | .error e => .inr ⟨requests, .error e table⟩
        | .ok lastTs =>
          let nextStart := lastTs + intervalToMs interval
          -- the guard against hanging, then the end of the history
          if nextStart ≤ s.currentStart then .inr ⟨requests, .ok (s.totalSaved + saved) table⟩
          else if candles.length < KLINE_LIMIT then
            .inr ⟨requests, .ok (s.totalSaved + saved) table⟩
          else .inl ⟨nextStart, s.totalSaved + saved, table, requests⟩

/-- `backfill` from a start on, if it ends within so many passes. -/
def servedBackfill (startMs : ℤ) (d : PriceHistory) (fuel : ℕ) : Option BackfillEnd :=
  Loops.runWith (servedPass answer symbol category interval nowMs) fuel ⟨startMs, 0, d, []⟩

end

/-! ### The rows of a server -/

section Rows

variable {symbol category interval : String} {held : HeldCandle} {value : Json} {e : PyError}

theorem eq_error_of_bind {α β : Type} {x : Except PyError α} {f : α → Except PyError β}
    (h : x >>= f = .error e) : x = .error e ∨ ∃ a, x = .ok a ∧ f a = .error e := by
  cases x with
  | error e' =>
    cases h
    exact Or.inl rfl
  | ok a => exact Or.inr ⟨a, rfl, h⟩

theorem skipped_of_toFloat (h : value.toFloat = .error e)
    (hrange : value.toFloat ≠ .error .overflowError) : skipped e = true := by
  cases value with
  | null | arr items | obj fields =>
    cases h
    rfl
  | bool b | float x => cases h
  | int n =>
    simp only [Json.toFloat] at h hrange
    split_ifs at h hrange with hfits
    exact absurd rfl hrange
  | str s =>
    simp only [Json.toFloat] at h
    cases hnumber : Text.pyFloat? s with
    | none =>
      rw [hnumber] at h
      cases h
      rfl
    | some x =>
      rw [hnumber] at h
      cases h

theorem skipped_of_cell {i : ℕ} (h : cell held.cells i = .error e) : skipped e = true := by
  unfold cell at h
  split at h
  · cases h
  · cases h
    rfl

theorem mem_of_cell {i : ℕ} (h : cell held.cells i = .ok value) : value ∈ held.cells := by
  unfold cell at h
  split at h
  · next value' hvalue =>
    cases h
    exact List.mem_of_getElem? hvalue
  · cases h

/-- A number that is read fails to be one, or what follows fails. -/
theorem skipped_of_read {i : ℕ} {α : Type} {f : PyFloat → Except PyError α}
    (h : (do f (← (← cell held.cells i).toFloat)) = .error e) :
    skipped e = true ∨ ∃ x, f x = .error e := by
  rcases eq_error_of_bind h with hcell | ⟨value, hcell, hrest⟩
  · exact Or.inl (skipped_of_cell hcell)
  · rcases eq_error_of_bind hrest with hfloat | ⟨x, -, hlater⟩
    · exact Or.inl (skipped_of_toFloat hfloat (held.inRange value (mem_of_cell hcell)))
    · exact Or.inr ⟨x, hlater⟩

/-- The candles of a server are read or skipped. -/
theorem skipped_of_readCandle (h : readCandle held.cells = .error e) : skipped e = true := by
  unfold readCandle at h
  rcases eq_error_of_bind h with hcell | ⟨value, hcell, h⟩
  · exact skipped_of_cell hcell
  rcases eq_error_of_bind h with htime | ⟨openTimeMs, -, h⟩
  · -- the open time can be read
    have hreadable := held.readable
    rw [hcell] at hreadable
    cases htime.symm.trans hreadable
  rcases skipped_of_read h with hskipped | ⟨openPrice, h⟩
  · exact hskipped
  rcases skipped_of_read h with hskipped | ⟨high, h⟩
  · exact hskipped
  rcases skipped_of_read h with hskipped | ⟨low, h⟩
  · exact hskipped
  rcases skipped_of_read h with hskipped | ⟨close, h⟩
  · exact hskipped
  rcases skipped_of_read h with hskipped | ⟨volume, h⟩
  · exact hskipped
  -- the turnover may be missing
  by_cases hturnover : 6 < held.cells.length
  · rw [if_pos hturnover] at h
    rcases skipped_of_read h with hskipped | ⟨turnover, h⟩
    · exact hskipped
    · cases h
  · rw [if_neg hturnover] at h
    cases h

end Rows

/-! ### What is kept -/

/-- The key of a candle of a server. -/
def heldKey (symbol category interval : String) (held : HeldCandle) : CandleKey :=
  { symbol, category, interval, openTimeMs := held.openTimeMs }

/-- A candle of a server has numbers in all cells. -/
def WellFormed (held : HeldCandle) (candle : Candle) : Prop :=
  readCandle held.cells = .ok (held.openTimeMs, candle) ∧ candle.storable = true

/-- The row that is kept of a candle of a server, if one is. -/
def heldRow (symbol category interval : String) (held : HeldCandle) :
    Option (CandleKey × Candle) :=
  match readCandle held.cells with
  | .error _ => none
  | .ok (_, candle) =>
    if candle.close.nonpos then none else some (heldKey symbol category interval held, candle)

variable {symbol category interval : String} {held : HeldCandle} {candle : Candle}
  {openTimeMs : ℤ} {l : List HeldCandle}

theorem eq_ok_of_bind {α β : Type} {x : Except PyError α} {f : α → Except PyError β} {b : β}
    (h : x >>= f = .ok b) : ∃ a, x = .ok a ∧ f a = .ok b := by
  cases x with
  | error e => cases h
  | ok a => exact ⟨a, rfl, h⟩

theorem exists_of_read {i : ℕ} {α : Type} {f : PyFloat → Except PyError α} {b : α}
    (h : (do f (← (← cell held.cells i).toFloat)) = .ok b) : ∃ x, f x = .ok b := by
  obtain ⟨value, -, hrest⟩ := eq_ok_of_bind h
  obtain ⟨x, -, hlater⟩ := eq_ok_of_bind hrest
  exact ⟨x, hlater⟩

/-- The time of a candle that is read is its own. -/
theorem openTimeMs_of_readCandle (h : readCandle held.cells = .ok (openTimeMs, candle)) :
    openTimeMs = held.openTimeMs := by
  obtain ⟨value, hcell, htime⟩ := eq_ok_of_bind held.readable
  unfold readCandle at h
  obtain ⟨value', hcell', h⟩ := eq_ok_of_bind h
  obtain rfl := Except.ok.inj (hcell.symm.trans hcell')
  obtain ⟨time, htime', h⟩ := eq_ok_of_bind h
  obtain rfl := Except.ok.inj (htime.symm.trans htime')
  obtain ⟨openPrice, h⟩ := exists_of_read h
  obtain ⟨high, h⟩ := exists_of_read h
  obtain ⟨low, h⟩ := exists_of_read h
  obtain ⟨close, h⟩ := exists_of_read h
  obtain ⟨volume, h⟩ := exists_of_read h
  split_ifs at h with hturnover
  · obtain ⟨turnover, h⟩ := exists_of_read h
    cases h
    rfl
  · cases h
    rfl

theorem rowOf_cells (symbol category interval : String) (held : HeldCandle) :
    rowOf symbol category interval held.cells = .ok (heldRow symbol category interval held) := by
  unfold rowOf heldRow
  cases h : readCandle held.cells with
  | error e => exact if_pos (skipped_of_readCandle h)
  | ok read =>
    obtain ⟨openTimeMs, candle⟩ := read
    obtain rfl := openTimeMs_of_readCandle h
    dsimp only
    split_ifs <;> rfl

/-- What `_save_candles` keeps of the candles of a server. -/
theorem rowsOf_cells (symbol category interval : String) (l : List HeldCandle) :
    rowsOf symbol category interval (l.map HeldCandle.cells) =
      .ok (l.filterMap (heldRow symbol category interval)) := by
  induction l with
  | nil => rfl
  | cons held l ih =>
    rw [List.map_cons, rowsOf, rowOf_cells, ih]
    cases hrow : heldRow symbol category interval held with
    | none => simp [hrow, bind, Except.bind, pure, Except.pure]
    | some row => simp [hrow, bind, Except.bind, pure, Except.pure]

/-- The time of the last candle of an answer. -/
theorem lastTs_cells (h : l.getLast? = some held) :
    lastTs (l.map HeldCandle.cells) = .ok held.openTimeMs := by
  rw [lastTs, List.getLast?_map, h]
  exact held.readable

end OhlcvWorker

end Botik
