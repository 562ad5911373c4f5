import Botik.Marketdata.KlineServer

/-!
# A backfill ends and leaves no gap

Against a server of candles every full answer moves the cursor of `backfill` behind the candles it
has saved, so that what the server holds from the start on is what was saved and what comes from the
cursor on. An answer that is not full was the last one.

## Main definitions

* `OhlcvWorker.Reading` — a backfill between two requests
* `OhlcvWorker.Finished` — a backfill that ended

## Main results

* `reading_of_goes`, `finished_of_ends` — one pass
* `backfill_complete`
-/

namespace Botik

namespace OhlcvWorker

variable {symbol category interval : String} {server : KlineServer (intervalToMs interval)}
  {startMs nowMs : ℤ} {d : PriceHistory} {s s' : BackfillState} {r : BackfillEnd}
  {last held : HeldCandle} {l : List HeldCandle} {candle : Candle}

theorem intervalToMs_pos (interval : String) : 0 < intervalToMs interval := by
  unfold intervalToMs
  simp only [List.lookup_cons, List.lookup_nil]
  repeat' split
  all_goals decide

/-- The rows of some candles of a server are stored. -/
def storeHeld (symbol category interval : String) (l : List HeldCandle) (d : PriceHistory) :
    PriceHistory :=
  insertAll (l.filterMap (heldRow symbol category interval)) d

theorem storeHeld_append (l l' : List HeldCandle) (d : PriceHistory) :
    storeHeld symbol category interval (l ++ l') d =
      storeHeld symbol category interval l' (storeHeld symbol category interval l d) := by
  rw [storeHeld, List.filterMap_append]
  exact List.foldl_append

/-! ### One pass -/

/-- The table after the candles from the cursor on. -/
def pageTable (server : KlineServer (intervalToMs interval)) (symbol category : String)
    (s : BackfillState) : PriceHistory :=
  storeHeld symbol category interval (server.page s.currentStart) s.table

/-- The count after the candles from the cursor on. -/
def pageSaved (server : KlineServer (intervalToMs interval)) (symbol category : String)
    (s : BackfillState) : ℕ :=
  s.totalSaved +
    ((pageTable server symbol category s).entries.length - s.table.entries.length)

/-- A pass that does not end the loop. -/
def nextPass (server : KlineServer (intervalToMs interval)) (symbol category : String)
    (last : HeldCandle) (s : BackfillState) : BackfillState where
  currentStart := last.openTimeMs + intervalToMs interval
  totalSaved := pageSaved server symbol category s
  table := pageTable server symbol category s
  requests := s.requests ++ [s.currentStart]

theorem saveCandles_page (server : KlineServer (intervalToMs interval)) (symbol category : String)
    (s : BackfillState) :
    saveCandles ((server.page s.currentStart).map HeldCandle.cells) symbol category interval
        s.table =
      .ok ((pageTable server symbol category s).entries.length - s.table.entries.length)
        (pageTable server symbol category s) := by
  rw [saveCandles, rowsOf_cells]
  rfl

/-- The last candle of an answer is not before its start. -/
theorem le_last (hlast : (server.page startMs).getLast? = some last) :
    startMs ≤ last.openTimeMs :=
  (Pages.mem_fromKey.mp (List.mem_of_mem_take (List.mem_of_getLast? hlast))).2

/-- An answer with a last candle is not empty. -/
theorem cells_ne_nil (hlast : (server.page startMs).getLast? = some last) :
    (server.page startMs).map HeldCandle.cells ≠ [] := by
  intro hnil
  rw [List.map_eq_nil_iff.mp hnil] at hlast
  cases hlast

/-- The guard against hanging never ends the loop. -/
theorem not_hanging (hlast : (server.page startMs).getLast? = some last) :
    ¬ last.openTimeMs + intervalToMs interval ≤ startMs := by
  have hpos := intervalToMs_pos interval
  have hle := le_last hlast
  omega

theorem servedPass_of_empty (hnow : ¬ nowMs ≤ s.currentStart)
    (hempty : server.page s.currentStart = []) :
    servedPass server.answer symbol category interval nowMs s =
      .inr ⟨s.requests ++ [s.currentStart], .ok s.totalSaved s.table⟩ := by
  rw [servedPass, if_neg hnow]
  dsimp only
  rw [server.fetchKline_answer, hempty]
  rfl

/-- A page that is not full ends the loop, a full one does not. -/
theorem servedPass_of_page (hnow : ¬ nowMs ≤ s.currentStart)
    (hlast : (server.page s.currentStart).getLast? = some last) :
    servedPass server.answer symbol category interval nowMs s =
      if (server.page s.currentStart).length < KLINE_LIMIT then
        .inr ⟨s.requests ++ [s.currentStart],
          .ok (pageSaved server symbol category s) (pageTable server symbol category s)⟩
      else .inl (nextPass server symbol category last s) := by
  rw [servedPass, if_neg hnow]
  dsimp only
  rw [server.fetchKline_answer, if_neg (cells_ne_nil hlast), saveCandles_page]
  dsimp only
  rw [lastTs_cells hlast]
  dsimp only
  rw [if_neg (not_hanging hlast), List.length_map]
  rfl

/-! ### The same pass of the loop over answers -/

theorem backfillLoop_of_empty (hempty : server.page s.currentStart = [])
    (replies : List KlineReply) :
    backfillLoop symbol category interval nowMs (server.answer s.currentStart :: replies)
      s.currentStart s.totalSaved s.table = .ok s.totalSaved s.table := by
  rw [backfillLoop]
  split_ifs with hnow
  · rfl
  · dsimp only
    rw [server.fetchKline_answer, hempty]
    rfl

theorem backfillLoop_of_page (hnow : ¬ nowMs ≤ s.currentStart)
    (hlast : (server.page s.currentStart).getLast? = some last) (replies : List KlineReply) :
    backfillLoop symbol category interval nowMs (server.answer s.currentStart :: replies)
        s.currentStart s.totalSaved s.table =
      if (server.page s.currentStart).length < KLINE_LIMIT then
        .ok (pageSaved server symbol category s) (pageTable server symbol category s)
      else backfillLoop symbol category interval nowMs replies
        (nextPass server symbol category last s).currentStart
        (nextPass server symbol category last s).totalSaved
        (nextPass server symbol category last s).table := by
  rw [backfillLoop, if_neg hnow]
  dsimp only
  rw [server.fetchKline_answer, if_neg (cells_ne_nil hlast),
    Program.bind_of_ok (saveCandles_page server symbol category s), lastTs_cells hlast,
    Program.fromExcept_ok, pure_bind]
  rw [if_neg (not_hanging hlast), List.length_map]
  split_ifs <;> rfl

/-! ### Between two requests -/

/-- A backfill between two requests: what the server holds from the start on is what was saved, page
by page, and what comes from the cursor on. -/
structure Reading (server : KlineServer (intervalToMs interval)) (symbol category : String)
    (startMs nowMs : ℤ) (d : PriceHistory) (s : BackfillState) : Prop where
  full : s.requests.length * KLINE_LIMIT ≤ (server.fromTime startMs).length
  saved : s.table = storeHeld symbol category interval
    ((server.fromTime startMs).take (s.requests.length * KLINE_LIMIT)) d
  rest : server.fromTime s.currentStart =
    (server.fromTime startMs).drop (s.requests.length * KLINE_LIMIT)
  replays : ∀ replies, backfillLoop symbol category interval nowMs
    (s.requests.map server.answer ++ replies) startMs 0 d =
      backfillLoop symbol category interval nowMs replies s.currentStart s.totalSaved s.table

/-- A backfill that ended: it saved the first candles from the start on, all before the present
among them, and the loop over the answers to its requests does the same. -/
structure Finished (server : KlineServer (intervalToMs interval)) (symbol category : String)
    (startMs nowMs : ℤ) (d : PriceHistory) (r : BackfillEnd) : Prop where
  few : r.requests.length ≤ (server.fromTime startMs).length / KLINE_LIMIT + 1
  saved : ∃ totalSaved saved, saved <+: server.fromTime startMs ∧
    r.result = .ok totalSaved (storeHeld symbol category interval saved d) ∧
    ∀ held ∈ server.fromTime startMs, held.openTimeMs < nowMs → held ∈ saved
  replays : backfillLoop symbol category interval nowMs (r.requests.map server.answer) startMs 0 d =
    r.result

theorem reading_start (server : KlineServer (intervalToMs interval)) (symbol category : String)
    (startMs nowMs : ℤ) (d : PriceHistory) :
    Reading server symbol category startMs nowMs d ⟨startMs, 0, d, []⟩ where
  full := by simp
  saved := by simp [storeHeld, insertAll]
  rest := by simp
  replays := fun replies => rfl

/-- The table after a page holds one page more. -/
theorem Reading.pageTable_eq (h : Reading server symbol category startMs nowMs d s) :
    pageTable server symbol category s = storeHeld symbol category interval
      ((server.fromTime startMs).take ((s.requests.length + 1) * KLINE_LIMIT)) d := by
  rw [pageTable, KlineServer.page, h.rest, h.saved, ← storeHeld_append, Nat.succ_mul,
    List.take_add]

/-- A pass goes on after a full page. -/
theorem full_of_goes
    (hpass : servedPass server.answer symbol category interval nowMs s = .inl s') :
    ¬ nowMs ≤ s.currentStart ∧ ∃ last, (server.page s.currentStart).getLast? = some last ∧
      ¬ (server.page s.currentStart).length < KLINE_LIMIT ∧
      s' = nextPass server symbol category last s := by
  by_cases hnow : nowMs ≤ s.currentStart
  · rw [servedPass, if_pos hnow] at hpass
    cases hpass
  refine ⟨hnow, ?_⟩
  cases hlast : (server.page s.currentStart).getLast? with
  | none =>
    rw [servedPass_of_empty hnow (List.getLast?_eq_none_iff.mp hlast)] at hpass
    cases hpass
  | some last =>
    rw [servedPass_of_page hnow hlast] at hpass
    split_ifs at hpass with hshort
    exact ⟨last, rfl, hshort, (Sum.inl.inj hpass).symm⟩

theorem Reading.goes (h : Reading server symbol category startMs nowMs d s)
    (hpass : servedPass server.answer symbol category interval nowMs s = .inl s') :
    Reading server symbol category startMs nowMs d s' ∧
      (server.fromTime s'.currentStart).length < (server.fromTime s.currentStart).length := by
  obtain ⟨hnow, last, hlast, hfull, rfl⟩ := full_of_goes hpass
  -- the next cursor is behind a full page
  have hrest : server.fromTime (last.openTimeMs + intervalToMs interval) =
      (server.fromTime s.currentStart).drop KLINE_LIMIT :=
    Pages.fromKey_after server.spaced (intervalToMs_pos interval) hlast
  -- the page was full, so at least as many were left
  have hmany : KLINE_LIMIT ≤ (server.fromTime s.currentStart).length := by
    rw [KlineServer.page, List.length_take] at hfull
    omega
  have hcount : (s.requests ++ [s.currentStart]).length = s.requests.length + 1 := by simp
  refine ⟨⟨?_, ?_, ?_, ?_⟩, ?_⟩
  · change (s.requests ++ [s.currentStart]).length * KLINE_LIMIT ≤ _
    have hfull' := h.full
    rw [h.rest, List.length_drop] at hmany
    rw [hcount, Nat.succ_mul]
    omega
  · change pageTable server symbol category s = storeHeld symbol category interval
      ((server.fromTime startMs).take ((s.requests ++ [s.currentStart]).length * KLINE_LIMIT)) d
    rw [hcount]
    exact h.pageTable_eq
  · change server.fromTime (last.openTimeMs + intervalToMs interval) =
      (server.fromTime startMs).drop ((s.requests ++ [s.currentStart]).length * KLINE_LIMIT)
    rw [hrest, h.rest, List.drop_drop, hcount, Nat.succ_mul]
  · intro replies
    change backfillLoop symbol category interval nowMs
      ((s.requests ++ [s.currentStart]).map server.answer ++ replies) startMs 0 d = _
    rw [List.map_append, List.append_assoc, h.replays]
    exact (backfillLoop_of_page hnow hlast replies).trans (if_neg hfull)
  · change (server.fromTime (last.openTimeMs + intervalToMs interval)).length < _
    rw [hrest, List.length_drop]
    have hpos : 0 < KLINE_LIMIT := by decide
    omega

theorem Reading.length_requests_le (h : Reading server symbol category startMs nowMs d s) :
    s.requests.length ≤ (server.fromTime startMs).length / KLINE_LIMIT :=
  (Nat.le_div_iff_mul_le (by decide)).mpr h.full

/-- What the server holds from the start on was saved or comes from the cursor on. -/
theorem Reading.saved_or_comes (h : Reading server symbol category startMs nowMs d s)
    (hheld : held ∈ server.fromTime startMs) :
    held ∈ (server.fromTime startMs).take (s.requests.length * KLINE_LIMIT) ∨
      held ∈ server.fromTime s.currentStart := by
  rw [h.rest, ← List.mem_append, List.take_append_drop]
  exact hheld

/-- A backfill that the clock ends has saved all before the present. -/
theorem Reading.finished_of_now (h : Reading server symbol category startMs nowMs d s)
    (hnow : nowMs ≤ s.currentStart) : Finished server symbol category startMs nowMs d
      ⟨s.requests, .ok s.totalSaved s.table⟩ where
  few := h.length_requests_le.trans (Nat.le_succ _)
  saved := by
    refine ⟨_, _, List.take_prefix _ _, by rw [h.saved], ?_⟩
    intro held hheld hbefore
    rcases h.saved_or_comes hheld with hsaved | hcomes
    · exact hsaved
    · -- the cursor has reached the present
      have hafter := (Pages.mem_fromKey.mp hcomes).2
      omega
  replays := by
    have hreplay := h.replays []
    rw [List.append_nil] at hreplay
    exact hreplay

/-- A backfill that an empty answer ends has saved all there is. -/
theorem Reading.finished_of_empty (h : Reading server symbol category startMs nowMs d s)
    (hempty : server.page s.currentStart = []) : Finished server symbol category startMs nowMs d
      ⟨s.requests ++ [s.currentStart], .ok s.totalSaved s.table⟩ where
  few := by
    have hmade := h.length_requests_le
    simpa using hmade
  saved := by
    refine ⟨_, _, List.take_prefix _ _, by rw [h.saved], ?_⟩
    intro held hheld _
    rcases h.saved_or_comes hheld with hsaved | hcomes
    · exact hsaved
    · have hnone : server.fromTime s.currentStart = [] := by
        rcases List.take_eq_nil_iff.mp hempty with hzero | hnil
        · cases hzero
        · exact hnil
      rw [hnone] at hcomes
      cases hcomes
  replays := by
    have hreplay := h.replays [server.answer s.currentStart]
    rw [List.map_append]
    exact hreplay.trans (backfillLoop_of_empty hempty [])

/-- A backfill that a short answer ends has saved all there is. -/
theorem Reading.finished_of_short (h : Reading server symbol category startMs nowMs d s)
    (hnow : ¬ nowMs ≤ s.currentStart)
    (hlast : (server.page s.currentStart).getLast? = some last)
    (hshort : (server.page s.currentStart).length < KLINE_LIMIT) :
    Finished server symbol category startMs nowMs d
      ⟨s.requests ++ [s.currentStart],
        .ok (pageSaved server symbol category s) (pageTable server symbol category s)⟩ where
  few := by
    have hmade := h.length_requests_le
    simpa using hmade
  saved := by
    refine ⟨_, _, List.take_prefix _ _, by rw [h.pageTable_eq], ?_⟩
    intro held hheld _
    -- a page that is not full is all that comes from the cursor on
    rw [KlineServer.page, h.rest, List.length_take, List.length_drop] at hshort
    rw [List.take_of_length_le]
    · exact hheld
    · rw [Nat.succ_mul]
      omega
  replays := by
    have hreplay := h.replays [server.answer s.currentStart]
    rw [List.map_append]
    exact hreplay.trans ((backfillLoop_of_page hnow hlast []).trans (if_pos hshort))

theorem Reading.ends (h : Reading server symbol category startMs nowMs d s)
    (hpass : servedPass server.answer symbol category interval nowMs s = .inr r) :
    Finished server symbol category startMs nowMs d r := by
  by_cases hnow : nowMs ≤ s.currentStart
  · rw [servedPass, if_pos hnow] at hpass
    obtain rfl := Sum.inr.inj hpass
    exact h.finished_of_now hnow
  cases hlast : (server.page s.currentStart).getLast? with
  | none =>
    have hempty := List.getLast?_eq_none_iff.mp hlast
    rw [servedPass_of_empty hnow hempty] at hpass
    obtain rfl := Sum.inr.inj hpass
    exact h.finished_of_empty hempty
  | some last =>
    rw [servedPass_of_page hnow hlast] at hpass
    split_ifs at hpass with hshort
    obtain rfl := Sum.inr.inj hpass
    exact h.finished_of_short hnow hlast hshort

/-! ### What is stored -/

theorem key_of_heldRow {row : CandleKey × Candle}
    (h : heldRow symbol category interval held = some row) :
    row.1 = heldKey symbol category interval held := by
  unfold heldRow at h
  split at h
  · cases h
  · split_ifs at h
    cases h
    rfl

theorem heldRow_of_wellFormed (hwell : WellFormed held candle)
    (hclose : candle.close.nonpos = false) :
    heldRow symbol category interval held =
      some (heldKey symbol category interval held, candle) := by
  rw [heldRow, hwell.1]
  simp [hclose]

/-- The candles of a server have different keys. -/
theorem nodup_heldRows
    (hspaced : Pages.Spaced HeldCandle.openTimeMs (intervalToMs interval) l) :
    ((l.filterMap (heldRow symbol category interval)).map Prod.fst).Nodup := by
  rw [List.Nodup, List.pairwise_map, List.pairwise_filterMap]
  apply List.Pairwise.imp _ hspaced
  intro a b hab row hrow row' hrow' hsame
  rw [key_of_heldRow hrow, key_of_heldRow hrow'] at hsame
  have htime : a.openTimeMs = b.openTimeMs := congrArg CandleKey.openTimeMs hsame
  have hpos := intervalToMs_pos interval
  omega

/-- A well-formed candle that is saved has a row, its own unless there was one. -/
theorem get?_storeHeld (hspaced : Pages.Spaced HeldCandle.openTimeMs (intervalToMs interval) l)
    (hheld : held ∈ l) (hwell : WellFormed held candle) (hclose : candle.close.nonpos = false)
    (d : PriceHistory) :
    (storeHeld symbol category interval l d).get? (heldKey symbol category interval held) =
      some ((d.get? (heldKey symbol category interval held)).getD candle) := by
  let rows : Dict CandleKey Candle :=
    ⟨(l.filterMap (heldRow symbol category interval)).filter fun row => row.2.storable,
      (nodup_heldRows hspaced).sublist (List.filter_sublist.map _)⟩
  have hmem : (heldKey symbol category interval held, candle) ∈ rows.entries :=
    List.mem_filter.mpr
      ⟨List.mem_filterMap.mpr ⟨held, hheld, heldRow_of_wellFormed hwell hclose⟩, hwell.2⟩
  have hvalues : Dict.valuesOf rows.entries (heldKey symbol category interval held) = [candle] := by
    rw [Dict.valuesOf, Dict.filter_entries_eq_singleton (Dict.mem_entries_iff.mp hmem)
      (decide_eq_true rfl) fun k' v' _ hkey => of_decide_eq_true hkey]
    rfl
  have hstored : storeHeld symbol category interval l d =
      rows.entries.foldl (fun d row => d.insertIfAbsent row.1 row.2) d := by
    rw [storeHeld, insertAll, List.foldl_filter]
    rfl
  rw [hstored, Dict.get?_foldl_insertIfAbsent, hvalues]
  cases d.get? (heldKey symbol category interval held) <;> rfl

end OhlcvWorker

open OhlcvWorker

/-- Against a server of candles `backfill` ends from every start, after a request for each full page
and one more at most, as the loop over the answers to these requests does; and afterwards there is
exactly one row for every well-formed candle with a positive close that the server holds from the
start to the present, with its values where there was none before. -/
theorem backfill_complete (symbol category interval : String)
    (server : KlineServer (intervalToMs interval)) (startMs nowMs : ℤ) (d : PriceHistory) :
    ∃ requests totalSaved d',
      (∀ fuel, server.candles.length < fuel →
        servedBackfill server.answer symbol category interval nowMs startMs d fuel =
          some ⟨requests, .ok totalSaved d'⟩) ∧
      requests.length ≤ server.candles.length / KLINE_LIMIT + 1 ∧
      backfillLoop symbol category interval nowMs (requests.map server.answer) startMs 0 d =
        .ok totalSaved d' ∧
      ∀ held ∈ server.candles, ∀ candle, WellFormed held candle → candle.close.nonpos = false →
        startMs ≤ held.openTimeMs → held.openTimeMs < nowMs →
          (d'.entries.filter fun e => e.1 = heldKey symbol category interval held) =
            [(heldKey symbol category interval held,
              (d.get? (heldKey symbol category interval held)).getD candle)] := by
  have hfew : (server.fromTime startMs).length ≤ server.candles.length :=
    List.length_filter_le _ _
  -- the fuel for the first run is enough for every other one
  obtain ⟨⟨requests, result⟩, hrun, hfinished⟩ := Loops.exists_runWith
    (fun s : BackfillState => (server.fromTime s.currentStart).length)
    (fun _ _ h hpass => h.goes hpass) (fun _ _ h hpass => h.ends hpass)
    (reading_start server symbol category startMs nowMs d)
    (Nat.lt_succ_self (server.fromTime startMs).length)
  obtain ⟨totalSaved, saved, hsaved, hresult, hall⟩ := hfinished.saved
  obtain rfl : result = _ := hresult
  refine ⟨requests, totalSaved, storeHeld symbol category interval saved d, ?_, ?_,
    hfinished.replays, ?_⟩
  · intro fuel hfuel
    exact Loops.runWith_mono (by omega) hrun
  · have hdiv := Nat.div_le_div_right (c := KLINE_LIMIT) hfew
    have hrequests : requests.length ≤ _ := hfinished.few
    omega
  · intro held hheld candle hwell hclose hstart hbefore
    have hin := hall held (Pages.mem_fromKey.mpr ⟨hheld, hstart⟩) hbefore
    -- candles that are an interval apart have different keys
    have hspaced := (server.spaced.fromKey startMs).sublist hsaved.sublist
    exact Dict.filter_entries_eq_singleton (get?_storeHeld hspaced hin hwell hclose d)
      (decide_eq_true rfl) fun k' v' _ hkey => of_decide_eq_true hkey

/-! ### Many minutes -/

/-- The candle of a minute. -/
def minuteCandle {n : ℕ} (hn : n ≤ 10000) (k : Fin n) : HeldCandle where
  openTimeMs := 60000 * k
  cells := .int (60000 * k) ::
    [.str "100", .str "105", .str "99", .str "101", .str "3", .str "300"]
  readable := rfl
  inRange := by
    have hsmall : |((60000 * k : ℤ) : ℚ)| < PyFloat.overflow := by
      have hk : (k : ℚ) < 10000 := by exact_mod_cast k.isLt.trans_le hn
      have hlarge : (600000000 : ℚ) < PyFloat.overflow := by decide +kernel
      rw [abs_of_nonneg (by positivity)]
      push_cast
      linarith
    refine List.forall_mem_cons.mpr ⟨?_, by decide +kernel⟩
    rw [Json.toFloat, if_pos hsmall]
    simp

/-- A server of so many minutes. -/
def minutes {n : ℕ} (hn : n ≤ 10000) : KlineServer (intervalToMs "1") where
  candles := (List.finRange n).map (minuteCandle hn)
  spaced := by
    have hsorted : (List.finRange n).Pairwise (· < ·) := List.pairwise_lt_finRange n
    refine List.pairwise_map.mpr (hsorted.imp fun {j k} hlt => ?_)
    have hlt' : (j : ℕ) < k := hlt
    change 60000 * (j : ℤ) + 60000 ≤ 60000 * k
    omega

theorem minuteCandle_mem {n : ℕ} (hn : n ≤ 10000) (k : Fin n) :
    minuteCandle hn k ∈ (minutes hn).candles :=
  List.mem_map_of_mem (List.mem_finRange k)

theorem length_minutes {n : ℕ} (hn : n ≤ 10000) : (minutes hn).candles.length = n := by
  rw [minutes, List.length_map, List.length_finRange]

theorem wellFormed_minuteCandle {n : ℕ} (hn : n ≤ 10000) (k : Fin n) :
    WellFormed (minuteCandle hn k)
      ⟨.finite 100, .finite 105, .finite 99, .finite 101, .finite 3, .finite 300⟩ := by
  refine ⟨?_, by decide +kernel⟩
  have hopen : Text.pyFloat? "100" = some (.finite 100) := by decide +kernel
  have hhigh : Text.pyFloat? "105" = some (.finite 105) := by decide +kernel
  have hlow : Text.pyFloat? "99" = some (.finite 99) := by decide +kernel
  have hclose : Text.pyFloat? "101" = some (.finite 101) := by decide +kernel
  have hvolume : Text.pyFloat? "3" = some (.finite 3) := by decide +kernel
  have hturnover : Text.pyFloat? "300" = some (.finite 300) := by decide +kernel
  simp [readCandle, cell, minuteCandle, Json.toInt, Json.toFloat, bind, Except.bind, pure,
    Except.pure, hopen, hhigh, hlow, hclose, hvolume, hturnover]

/-- The first 2500 minutes take three answers, and each of them is stored once. -/
theorem backfill_minutes : ∃ requests totalSaved d',
    servedBackfill (minutes (n := 2500) (by decide)).answer "BTCUSDT" "linear" "1" 150000000 0
        .empty 2501 = some ⟨requests, .ok totalSaved d'⟩ ∧ requests.length ≤ 3 ∧
    ∀ k : Fin 2500, (d'.entries.filter fun e =>
      e.1 = ⟨"BTCUSDT", "linear", "1", 60000 * k⟩).length = 1 := by
  have hn : 2500 ≤ 10000 := by decide
  obtain ⟨requests, totalSaved, d', hrun, hfew, -, hstored⟩ :=
    backfill_complete "BTCUSDT" "linear" "1" (minutes hn) 0 150000000 .empty
  rw [length_minutes] at hrun hfew
  refine ⟨requests, totalSaved, d', hrun 2501 (by decide), hfew, fun k => ?_⟩
  have hk : (k : ℕ) < 2500 := k.isLt
  -- the k-th minute is well-formed and between the start and the present
  have hone := hstored _ (minuteCandle_mem hn k) _ (wellFormed_minuteCandle hn k)
    (by decide +kernel) (by change (0 : ℤ) ≤ 60000 * k; omega)
    (by change 60000 * (k : ℤ) < 150000000; omega)
  exact congrArg List.length hone

end Botik
