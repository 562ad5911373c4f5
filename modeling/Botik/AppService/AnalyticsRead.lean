import Botik.Library.RunningStatistics
import Botik.Library.Text
import Mathlib.Data.List.Sort
import Mathlib.Data.String.Basic

/-!
# Reading the analytics

`LegacyAnalyticsReadAdapter` reads the newest closed trades of `futures_paper_trades` and
`outcomes`, at most 250 of each, merges them by the time of closing and computes totals, an equity
curve day by day and a list of recent trades. Sums are exact here. A query that names a column the
table has not raises, as every query may; the snapshot is then the empty one.

SQLite orders rows of one time as it likes, so its order is a parameter, `NewestFirst`.

## Main definitions

* `TradeTable`, `ClosedTrade`, `NewestFirst`
* `AnalyticsRead.TradeSource` — how the two tables differ
* `AnalyticsRead.readTable`, `AnalyticsRead.collectBoundedTrades`
* `AnalyticsRead.computeAnalytics`, `AnalyticsRead.snapshotOf`
* `AnalyticsRead.buildSnapshot`, `AnalyticsRead.readSnapshot`
-/

namespace Botik.AppService

/-- A row of a table of trades. -/
structure TradeRow where
  symbol : Option String
  modelScope : Option String
  netPnl : Option ℚ
  grossPnl : Option ℚ
  wasProfitable : Option ℤ
  closedAtUtc : Option String
  deriving DecidableEq, Repr

/-- SQL finds a column whatever the case of its letters. -/
def resolvesColumn (columns : List String) (name : String) : Bool :=
  columns.any fun column => Text.lower column = name

/-- A table of trades: the columns `PRAGMA table_info` names, and the rows. No row has a time in a
column that is not there. -/
structure TradeTable where
  columns : List String
  rows : List TradeRow
  dated : ∀ row ∈ rows, row.closedAtUtc.isSome → resolvesColumn columns "closed_at_utc" = true
  deriving DecidableEq, Repr

/-- A closed trade as the adapter reads it. -/
structure ClosedTrade where
  symbol : String
  scope : String
  pnl : ℚ
  win : ℤ
  closedAt : String
  deriving DecidableEq, Repr

/-- `ORDER BY closed_at_utc DESC`, with rows of one time in any order. -/
structure NewestFirst where
  order : List ClosedTrade → List ClosedTrade
  perm : ∀ rows, (order rows).Perm rows
  sorted : ∀ rows, (order rows).Pairwise fun a b => b.closedAt ≤ a.closedAt

structure AnalyticsSummary where
  totalClosedTrades : ℕ
  winningTrades : ℤ
  losingTrades : ℤ
  winRate : ℚ
  totalNetPnl : ℚ
  averageNetPnl : ℚ
  todayNetPnl : ℚ
  deriving DecidableEq, Repr

structure AnalyticsEquityPoint where
  date : String
  dailyPnl : ℚ
  cumulativePnl : ℚ
  deriving DecidableEq, Repr

structure AnalyticsClosedTrade where
  symbol : String
  scope : String
  netPnl : ℚ
  wasProfitable : Bool
  closedAt : String
  deriving DecidableEq, Repr

structure AnalyticsReadSnapshot where
  summary : AnalyticsSummary
  equityCurve : List AnalyticsEquityPoint
  recentClosedTrades : List AnalyticsClosedTrade
  equityCurveTruncated : Bool
  recentClosedTradesTruncated : Bool
  deriving DecidableEq, Repr

/-- What `_compute_analytics` returns. -/
structure Analytics where
  winRate : ℚ
  totalPnl : ℚ
  avgPnl : ℚ
  todayPnl : ℚ
  recentTrades : List ClosedTrade
  equityCurve : List AnalyticsEquityPoint
  deriving DecidableEq, Repr

namespace AnalyticsRead

def maxTradesPerSource : ℕ := 250

def equityCurveLimit : ℕ := 60

def recentClosedTradesLimit : ℕ := 20

/-! ### The tables -/

/-- How the two tables differ: the names of the columns of the profit, and the scope a trade has by
default. -/
structure TradeSource where
  net : String
  gross : String
  defaultScope : String

def futuresPaperSource : TradeSource := ⟨"net_pnl", "gross_pnl", "futures"⟩

def outcomesSource : TradeSource := ⟨"net_pnl_quote", "gross_pnl_quote", "spot"⟩

/-- The column of the profit: net if there is one, else gross. -/
def pnlColumn (source : TradeSource) (table : TradeTable) : Option (TradeRow → Option ℚ) :=
  if source.net ∈ table.columns then some TradeRow.netPnl
  else if source.gross ∈ table.columns then some TradeRow.grossPnl
  else none

/-- The other columns that the query names. -/
def queriedColumns : List String := ["symbol", "model_scope", "was_profitable", "closed_at_utc"]

/-- The trade of a row, unless it is not closed. -/
def closedTrade (defaultScope : String) (pnl : TradeRow → Option ℚ) (row : TradeRow) :
    Option ClosedTrade :=
  row.closedAtUtc.map fun closedAt => {
    symbol := row.symbol.getD "None"
    scope := row.modelScope.getD defaultScope
    pnl := (pnl row).getD 0
    win := row.wasProfitable.getD (if (pnl row).any (0 < ·) then 1 else 0)
    closedAt := closedAt }

/-- `_read_futures_paper` and `_read_outcomes`: the newest closed trades of a table, oldest first.
There are none where the query raises. -/
def readTable (newest : NewestFirst) (source : TradeSource) (table : Option TradeTable) :
    Option (List ClosedTrade) :=
  match table with
  | none => some []
  | some table =>
    match pnlColumn source table with
    | none => some []
    | some pnl =>
      if queriedColumns.all (resolvesColumn table.columns) then
        some ((newest.order (table.rows.filterMap (closedTrade source.defaultScope pnl))).take
          maxTradesPerSource).reverse
      else none

/-- The tables the adapter reads, where they exist. -/
structure Tables where
  futuresPaperTrades : Option TradeTable
  outcomes : Option TradeTable
  deriving DecidableEq, Repr

def readFuturesPaper (newest : NewestFirst) (db : Tables) : Option (List ClosedTrade) :=
  readTable newest futuresPaperSource db.futuresPaperTrades

def readOutcomes (newest : NewestFirst) (db : Tables) : Option (List ClosedTrade) :=
  readTable newest outcomesSource db.outcomes

/-- `_collect_bounded_trades`. -/
def collectBoundedTrades (newest : NewestFirst) (db : Tables) : Option (List ClosedTrade) := do
  let futures ← readFuturesPaper newest db
  let outcomes ← readOutcomes newest db
  return (futures ++ outcomes).insertionSort fun a b => a.closedAt ≤ b.closedAt

/-! ### The analytics -/

/-- `str(closed_at)[:10]`. -/
def date (trade : ClosedTrade) : String := String.ofList (trade.closedAt.toList.take 10)

/-- The trades that have a date, with it. -/
def datedPnls (trades : List ClosedTrade) : List (String × ℚ) :=
  (trades.map fun trade => (date trade, trade.pnl)).filter fun r => r.1 ≠ ""

/-- The loop that sums up day by day. -/
def dailyPnls (trades : List ClosedTrade) : Dict String ℚ := Dict.tally (datedPnls trades)

/-- The loop over the sorted dates. -/
def curve (daily : String → ℚ) : ℚ → List String → List AnalyticsEquityPoint
  | _, [] => []
  | cumulative, d :: dates =>
    ⟨d, daily d, cumulative + daily d⟩ :: curve daily (cumulative + daily d) dates

/-- The sorted dates. -/
def sortedDates (trades : List ClosedTrade) : List String :=
  (dailyPnls trades).keys.insertionSort (· ≤ ·)

def equityCurve (trades : List ClosedTrade) : List AnalyticsEquityPoint :=
  curve (fun d => ((dailyPnls trades).get? d).getD 0) 0 (sortedDates trades)

/-- `_compute_analytics`, on the day `today`. -/
def computeAnalytics (today : String) (trades : List ClosedTrade) : Analytics :=
  if trades = [] then ⟨0, 0, 0, 0, [], []⟩
  else
    let total := trades.length
    let totalPnl := (trades.map ClosedTrade.pnl).sum
    { winRate := (trades.countP fun trade => trade.win ≠ 0 : ℕ) / (total : ℚ)
      totalPnl := totalPnl
      avgPnl := totalPnl / total
      todayPnl := ((trades.filter fun trade => Text.startsWith today trade.closedAt).map
        ClosedTrade.pnl).sum
      recentTrades := (trades.drop (trades.length - recentClosedTradesLimit)).reverse
      equityCurve := equityCurve trades }

/-! ### The snapshot -/

def emptySnapshot : AnalyticsReadSnapshot where
  summary := ⟨0, 0, 0, 0, 0, 0, 0⟩
  equityCurve := []
  recentClosedTrades := []
  equityCurveTruncated := false
  recentClosedTradesTruncated := false

/-- A recent trade as it is shown. -/
def shownTrade (trade : ClosedTrade) : AnalyticsClosedTrade :=
  ⟨trade.symbol, trade.scope, trade.pnl, trade.win ≠ 0, trade.closedAt⟩

/-- The snapshot of the trades that were read. -/
def snapshotOf (today : String) (trades : List ClosedTrade) : AnalyticsReadSnapshot :=
  if trades = [] then emptySnapshot
  else
    let analytics := computeAnalytics today trades
    let wins := (trades.map ClosedTrade.win).sum
    let points := analytics.equityCurve
    { summary := {
        totalClosedTrades := trades.length
        winningTrades := wins
        losingTrades := max (trades.length - wins) 0
        winRate := analytics.winRate
        totalNetPnl := analytics.totalPnl
        averageNetPnl := analytics.avgPnl
        todayNetPnl := analytics.todayPnl }
      equityCurve := points.drop (points.length - equityCurveLimit)
      recentClosedTrades := (analytics.recentTrades.take recentClosedTradesLimit).map shownTrade
      equityCurveTruncated := equityCurveLimit < points.length
      recentClosedTradesTruncated := recentClosedTradesLimit < analytics.recentTrades.length }

/-- `_build_snapshot`. -/
def buildSnapshot (newest : NewestFirst) (today : String) (db : Tables) :
    Option AnalyticsReadSnapshot :=
  (collectBoundedTrades newest db).map (snapshotOf today)

/-- `read_snapshot`, of a file that may not exist, and on which every statement raises where it is
locked or damaged. -/
def readSnapshot (newest : NewestFirst) (today : String) (raises : Bool) (db : Option Tables) :
    AnalyticsReadSnapshot :=
  match db with
  | none => emptySnapshot
  | some db => if raises then emptySnapshot else (buildSnapshot newest today db).getD emptySnapshot

end AnalyticsRead

end Botik.AppService
