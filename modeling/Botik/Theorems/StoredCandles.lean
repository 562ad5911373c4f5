import Botik.Marketdata.OhlcvWorker

/-!
# Which version of a candle is stored

The newest candle of an answer is often still forming, so its key is fetched again with other
values. `INSERT OR IGNORE` keeps the version that came first.

## Main definitions

* `OhlcvWorker.saves` — the batches of rows some calls hand to the database, in order
* `OhlcvWorker.fetched` — the candles in them
* `OhlcvWorker.NeverRevised` — no key comes again with other values

## Main results

* `runCalls_eq_stored` — the table is the saves done one after the other
* `get?_stored` — a row is the first candle that was fetched of its key
* `stored_latest_iff` — it is the latest one exactly if no key is ever revised
-/

namespace Botik

namespace OhlcvWorker

open Program

/-- The rows handed to `executemany` at once. -/
abbrev Batch := List (CandleKey × Candle)

/-- The batches `backfill` saves, page after page. -/
def loopSaves (symbol category interval : String) (nowMs : ℤ) :
    List KlineReply → (currentStart : ℤ) → List Batch
  | [], _ => []
  | reply :: replies, currentStart =>
    let candles := fetchKline reply
    if nowMs ≤ currentStart ∨ candles = [] then []
    else
      match rowsOf symbol category interval candles, lastTs candles with
      | .error _, _ => []
      | .ok rows, .error _ => [rows]
      | .ok rows, .ok lastTs =>
        let nextStart := lastTs + intervalToMs interval
        if nextStart ≤ currentStart ∨ candles.length < KLINE_LIMIT then [rows]
        else rows :: loopSaves symbol category interval nowMs replies nextStart

/-- The batches a call saves. -/
def Call.saves : Call → List Batch
  | .backfill symbol category interval daysBack nowMs replies =>
    loopSaves symbol category interval nowMs replies (nowMs - daysBack * 24 * 60 * 60 * 1000)
  | .fetchRecent symbol category interval reply =>
    if fetchKline reply = [] then []
    else (rowsOf symbol category interval (fetchKline reply)).toOption.toList

/-- The batches some calls save. -/
def saves (calls : List Call) : List Batch := calls.flatMap Call.saves

/-- The table after some saves. -/
def saveAll (batches : List Batch) (d : PriceHistory) : PriceHistory :=
  batches.foldl (fun d rows => insertAll rows d) d

/-- The table after some saves into an empty one. -/
def stored (batches : List Batch) : PriceHistory := saveAll batches .empty

/-- The candles of some saves, as they were fetched. -/
def fetched (batches : List Batch) : Batch := batches.flatten.filter fun row => row.2.storable

/-- The values of the candle of a key that was fetched last. -/
def latest (batches : List Batch) (key : CandleKey) : Option Candle :=
  (Dict.valuesOf (fetched batches) key).getLast?

/-- The values of the candle of a key that was fetched first. -/
def first (batches : List Batch) (key : CandleKey) : Option Candle :=
  (Dict.valuesOf (fetched batches) key).head?

/-- A candle fetched in a save has the values its key had when it was first fetched. -/
def NeverRevised (calls : List Call) : Prop :=
  ∀ done rows, done ++ [rows] <+: saves calls → ∀ key candle,
    latest [rows] key = some candle → first (done ++ [rows]) key = some candle

/-! ### What the calls save -/

theorem saveCandles_of_ok {candles : List RawCandle} {symbol category interval : String}
    {rows : Batch} (h : rowsOf symbol category interval candles = .ok rows) (d : PriceHistory) :
    saveCandles candles symbol category interval d =
      .ok ((insertAll rows d).entries.length - d.entries.length) (insertAll rows d) := by
  rw [saveCandles, h]
  rfl

theorem saveCandles_of_error {candles : List RawCandle} {symbol category interval : String}
    {e : PyError} (h : rowsOf symbol category interval candles = .error e) (d : PriceHistory) :
    saveCandles candles symbol category interval d = .error e d := by
  rw [saveCandles, h]
  rfl

theorem after_backfillLoop (symbol category interval : String) (nowMs : ℤ)
    (replies : List KlineReply) (currentStart : ℤ) (totalSaved : ℕ) (d : PriceHistory) :
    after (backfillLoop symbol category interval nowMs replies currentStart totalSaved) d =
      saveAll (loopSaves symbol category interval nowMs replies currentStart) d := by
  induction replies generalizing currentStart totalSaved d with
  | nil => rfl
  | cons reply replies ih =>
    rw [backfillLoop, loopSaves]
    by_cases hnow : nowMs ≤ currentStart
    · rw [if_pos hnow, if_pos (Or.inl hnow)]
      rfl
    by_cases hempty : fetchKline reply = []
    · rw [if_neg hnow, if_pos hempty, if_pos (Or.inr hempty)]
      rfl
    rw [if_neg hnow, if_neg hempty, if_neg (not_or.mpr ⟨hnow, hempty⟩)]
    cases hrows : rowsOf symbol category interval (fetchKline reply) with
    | error e =>
      rw [after_bind_of_error (saveCandles_of_error hrows d)]
      rfl
    | ok rows =>
      rw [after_bind_of_ok (saveCandles_of_ok hrows d)]
      cases hlast : lastTs (fetchKline reply) with
      | error e => rfl
      | ok last =>
        rw [fromExcept_ok, pure_bind]
        dsimp only
        -- the two guards of the loop end it alike
        by_cases hguard : last + intervalToMs interval ≤ currentStart
        · rw [if_pos hguard, if_pos (Or.inl hguard)]
          rfl
        by_cases hshort : (fetchKline reply).length < KLINE_LIMIT
        · rw [if_neg hguard, if_pos hshort, if_pos (Or.inr hshort)]
          rfl
        rw [if_neg hguard, if_neg hshort, if_neg (not_or.mpr ⟨hguard, hshort⟩)]
        exact ih _ _ _

theorem after_program (call : Call) (d : PriceHistory) :
    after call.program d = saveAll call.saves d := by
  cases call with
  | backfill symbol category interval daysBack nowMs replies =>
    exact after_backfillLoop symbol category interval nowMs replies _ 0 d
  | fetchRecent symbol category interval reply =>
    rw [Call.program, fetchRecent, Call.saves]
    by_cases hempty : fetchKline reply = []
    · rw [if_pos hempty, if_pos hempty]
      rfl
    rw [if_neg hempty, if_neg hempty]
    cases hrows : rowsOf symbol category interval (fetchKline reply) with
    | error e => rw [after_of_error (saveCandles_of_error hrows d)]; rfl
    | ok rows => rw [after_of_ok (saveCandles_of_ok hrows d)]; rfl

theorem saveAll_append (batches batches' : List Batch) (d : PriceHistory) :
    saveAll (batches ++ batches') d = saveAll batches' (saveAll batches d) :=
  List.foldl_append

/-- The calls leave the table of their saves. -/
theorem runCalls_eq_saveAll (calls : List Call) (d : PriceHistory) :
    runCalls calls d = saveAll (saves calls) d := by
  induction calls generalizing d with
  | nil => rfl
  | cons call calls ih =>
    have hstep : runCalls (call :: calls) d = runCalls calls (after call.program d) := rfl
    have hsaves : saves (call :: calls) = call.saves ++ saves calls := List.flatMap_cons
    rw [hstep, ih, after_program, hsaves, saveAll_append]

/-! ### What the table holds -/

theorem saveAll_eq_foldl (batches : List Batch) (d : PriceHistory) :
    saveAll batches d = (fetched batches).foldl (fun d row => d.insertIfAbsent row.1 row.2) d := by
  rw [fetched, List.foldl_filter, List.foldl_flatten]
  rfl

/-- A row holds the candle of its key that was fetched first. -/
theorem get?_stored (batches : List Batch) (key : CandleKey) :
    (stored batches).get? key = first batches key := by
  rw [stored, saveAll_eq_foldl, Dict.get?_foldl_insertIfAbsent]
  rfl

theorem fetched_append (batches batches' : List Batch) :
    fetched (batches ++ batches') = fetched batches ++ fetched batches' := by
  rw [fetched, List.flatten_append, List.filter_append]
  rfl

/-- The latest candle of a key is one of the last save, or else that of the saves before. -/
theorem latest_append (batches batches' : List Batch) (key : CandleKey) :
    latest (batches ++ batches') key = (latest batches' key).or (latest batches key) := by
  rw [latest, fetched_append, Dict.valuesOf_append, List.getLast?_append]
  rfl

theorem first_append (batches batches' : List Batch) (key : CandleKey) :
    first (batches ++ batches') key = (first batches key).or (first batches' key) := by
  rw [first, fetched_append, Dict.valuesOf_append, List.head?_append]
  rfl

/-- A key that was fetched has a first candle and a latest one. -/
theorem first_eq_none_iff {batches : List Batch} {key : CandleKey} :
    first batches key = none ↔ latest batches key = none := by
  rw [first, latest, List.head?_eq_none_iff, List.getLast?_eq_none_iff]

/-- If no save revises a key, the first and the latest candle agree after every save. -/
theorem first_eq_latest_of_neverRevised {calls : List Call} (h : NeverRevised calls)
    {done : List Batch} (hdone : done <+: saves calls) (key : CandleKey) :
    first done key = latest done key := by
  induction done using List.reverseRecOn with
  | nil => rfl
  | append_singleton done rows ih =>
    have hbefore := ih ((List.prefix_append _ _).trans hdone)
    rw [latest_append]
    cases hlast : latest [rows] key with
    | some candle => exact h done rows hdone key candle hlast
    | none =>
      rw [Option.none_or, first_append, hbefore, first_eq_none_iff.mpr hlast, Option.or_none]

/-- After every save each row holds the most recently fetched candle of its key, exactly if no
candle is ever fetched again with other values. -/
theorem stored_latest_iff (calls : List Call) :
    runCalls calls .empty = stored (saves calls) ∧
      ((∀ done, done <+: saves calls → ∀ key, (stored done).get? key = latest done key) ↔
        NeverRevised calls) := by
  refine ⟨runCalls_eq_saveAll calls .empty, ?_⟩
  constructor
  · intro hlatest done rows hdone key candle hrows
    have hstored := hlatest _ hdone key
    rw [get?_stored, latest_append, hrows, Option.some_or] at hstored
    exact hstored
  · intro h done hdone key
    rw [get?_stored]
    exact first_eq_latest_of_neverRevised h hdone key

/-- A candle fetched while it forms, and once more when it is complete. -/
def formingCalls : List Call :=
  let candle (close : String) : RawCandle :=
    [.str "1700000000000", .str "100", .str "105", .str "99", .str close, .str "3", .str "300"]
  [.fetchRecent "BTCUSDT" "linear" "1" (.answered 0 [candle "101"]),
    .fetchRecent "BTCUSDT" "linear" "1" (.answered 0 [candle "104"])]

theorem forming_candle_stays :
    ¬ ∀ calls done, done <+: saves calls → ∀ key, (stored done).get? key = latest done key := by
  intro hclaim
  have hrow := hclaim formingCalls _ List.prefix_rfl ⟨"BTCUSDT", "linear", "1", 1700000000000⟩
  revert hrow
  decide +kernel

end OhlcvWorker

end Botik
