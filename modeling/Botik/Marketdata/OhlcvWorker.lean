import Botik.Library.Json
import Botik.Library.Program
import Botik.Library.Upserts

/-!
# The candle worker

`OHLCVWorker` loads candles from the exchange and keeps them in `price_history`, a table with one
row for each symbol, category, interval and open time. `backfill` asks page after page;
`fetch_recent` asks once. Both hand what came to `_save_candles`, which skips what is no candle and
inserts the rest with `INSERT OR IGNORE`.

Open times fit the integers of the database, and a write to the database succeeds.

## Main definitions

* `CandleKey`, `Candle`, `PriceHistory`
* `OhlcvWorker.saveCandles`, `OhlcvWorker.backfill`, `OhlcvWorker.fetchRecent`
* `OhlcvWorker.Call`, `OhlcvWorker.runCalls`
-/

namespace Botik

/-- The unique columns of `price_history`. -/
structure CandleKey where
  symbol : String
  category : String
  interval : String
  openTimeMs : ℤ
  deriving DecidableEq, Repr

/-- The other columns; `nan` in `turnover` is the `NULL` it is stored as. -/
structure Candle where
  openPrice : PyFloat
  high : PyFloat
  low : PyFloat
  close : PyFloat
  volume : PyFloat
  turnover : PyFloat
  deriving DecidableEq, Repr

/-- The table `price_history`. -/
abbrev PriceHistory := Dict CandleKey Candle

/-- The columns that are `NOT NULL` have values. -/
def Candle.storable (c : Candle) : Bool :=
  [c.openPrice, c.high, c.low, c.close, c.volume].all (· ≠ .nan)

namespace OhlcvWorker

open Program

/-- A candle as the exchange sends it: a list of JSON values. -/
abbrev RawCandle := List Json

def KLINE_LIMIT : ℕ := 1000

/-- `_interval_to_ms`. -/
def intervalToMs (interval : String) : ℤ :=
  let table := [("1", 60000), ("3", 180000), ("5", 300000), ("15", 900000), ("30", 1800000),
    ("60", 3600000), ("120", 7200000), ("240", 14400000), ("360", 21600000), ("720", 43200000),
    ("D", 86400000), ("W", 604800000)]
  (table.lookup interval).getD 60000

/-- What the exchange answers to a request for candles. -/
inductive KlineReply
  /-- The request raised, or its answer was not JSON. -/
  | failed
  | answered (retCode : ℤ) (list : List RawCandle)

/-- `_fetch_kline`: the candles of the answer, the oldest first. -/
def fetchKline : KlineReply → List RawCandle
  | .failed => []
  | .answered retCode list => if retCode ≠ 0 then [] else list.reverse

/-- `candle[i]`. -/
def cell (candle : RawCandle) (i : ℕ) : Except PyError Json :=
  match candle[i]? with
  | some value => .ok value
  | none => .error .indexError

/-- The numbers of a candle, in the order in which `_save_candles` reads them. -/
def readCandle (c : RawCandle) : Except PyError (ℤ × Candle) := do
  let openTimeMs ← (← cell c 0).toInt
  let openPrice ← (← cell c 1).toFloat
  let high ← (← cell c 2).toFloat
  let low ← (← cell c 3).toFloat
  let close ← (← cell c 4).toFloat
  let volume ← (← cell c 5).toFloat
  let turnover ← if 6 < c.length then do (← cell c 6).toFloat else pure (.finite 0)
  return (openTimeMs, { openPrice, high, low, close, volume, turnover })

/-- `except (IndexError, ValueError, TypeError)`. -/
def skipped : PyError → Bool
  | .indexError | .valueError | .typeError => true
  | .overflowError | .attributeError | .recursionError | .osError => false

/-- The row of a candle, if it is kept. -/
def rowOf (symbol category interval : String) (c : RawCandle) :
    Except PyError (Option (CandleKey × Candle)) :=
  match readCandle c with
  | .error e => if skipped e then .ok none else .error e
  | .ok (openTimeMs, candle) =>
    if candle.close.nonpos then .ok none
    else .ok (some ({ symbol, category, interval, openTimeMs }, candle))

/-- `rows`, or the exception of the first candle that is not skipped over. -/
def rowsOf (symbol category interval : String) :
    List RawCandle → Except PyError (List (CandleKey × Candle))
  | [] => .ok []
  | c :: cs => do
    let row ← rowOf symbol category interval c
    let rows ← rowsOf symbol category interval cs
    return row.toList ++ rows

/-- `INSERT OR IGNORE`: a row of a stored key, and one without a required value, is left out. -/
def insertOrIgnore (d : PriceHistory) (row : CandleKey × Candle) : PriceHistory :=
  if row.2.storable then d.insertIfAbsent row.1 row.2 else d

/-- `executemany` over the rows. -/
def insertAll (rows : List (CandleKey × Candle)) (d : PriceHistory) : PriceHistory :=
  rows.foldl insertOrIgnore d

/-- `_save_candles`, which returns the number of rows it inserted. -/
def saveCandles (candles : List RawCandle) (symbol category interval : String) :
    EStateM PyError PriceHistory ℕ := do
  let rows ← fromExcept (rowsOf symbol category interval candles)
  let d ← get
  set (insertAll rows d)
  return (insertAll rows d).entries.length - d.entries.length

/-- The open time of the last candle of a page, `int(candles[-1][0])`. -/
def lastTs (page : List RawCandle) : Except PyError ℤ := do
  let c ← match page.getLast? with
    | some c => pure c
    | none => throw .indexError
  (← cell c 0).toInt

/-- The loop of `backfill` from `current_start` on, over the answers still to come. A request after
the last of them gets none. -/
def backfillLoop (symbol category interval : String) (nowMs : ℤ) :
    List KlineReply → (currentStart : ℤ) → (totalSaved : ℕ) → EStateM PyError PriceHistory ℕ
  | [], _, totalSaved => pure totalSaved
  | reply :: replies, currentStart, totalSaved =>
    if nowMs ≤ currentStart then pure totalSaved
    else
      let candles := fetchKline reply
      if candles = [] then pure totalSaved
      else do
        let saved ← saveCandles candles symbol category interval
        let lastTs ← fromExcept (lastTs candles)
        let nextStart := lastTs + intervalToMs interval
        -- the guard against hanging, then the end of the history
        if nextStart ≤ currentStart then return totalSaved + saved
        if candles.length < KLINE_LIMIT then return totalSaved + saved
        backfillLoop symbol category interval nowMs replies nextStart (totalSaved + saved)

/-- `backfill`, at a time and with the answers of the exchange to its requests. -/
def backfill (symbol category interval : String) (daysBack nowMs : ℤ) (replies : List KlineReply) :
    EStateM PyError PriceHistory ℕ :=
  backfillLoop symbol category interval nowMs replies (nowMs - daysBack * 24 * 60 * 60 * 1000) 0

/-- `fetch_recent`, with the answer of the exchange. -/
def fetchRecent (symbol category interval : String) (reply : KlineReply) :
    EStateM PyError PriceHistory ℕ :=
  let candles := fetchKline reply
  if candles = [] then pure 0 else saveCandles candles symbol category interval

/-- A use of the worker. -/
inductive Call
  | backfill (symbol category interval : String) (daysBack nowMs : ℤ) (replies : List KlineReply)
  | fetchRecent (symbol category interval : String) (reply : KlineReply)

/-- The program of a call. -/
def Call.program : Call → EStateM PyError PriceHistory ℕ
  | .backfill symbol category interval daysBack nowMs replies =>
    OhlcvWorker.backfill symbol category interval daysBack nowMs replies
  | .fetchRecent symbol category interval reply =>
    OhlcvWorker.fetchRecent symbol category interval reply

/-- The table after some calls; what a call that raised had stored stays. -/
def runCalls (calls : List Call) (d : PriceHistory) : PriceHistory :=
  calls.foldl (fun d call => after call.program d) d

end OhlcvWorker

end Botik
