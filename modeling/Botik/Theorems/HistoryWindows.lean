import Botik.Library.SlidingWindow
import Botik.Library.Runs
import Botik.State.MarketState

/-!
# The windows of the market history

Along any calls of the two writers the series of a symbol are the entries the calls recorded for it
that are at most fifteen minutes older than the newest one, and the tape is the last of these.

## Main definitions

* `MarketCall.bookEntryOf`, `MarketCall.trade?` — what a call records for a symbol
* `bookTimes`, `tradeTimes` — the times of the calls for a symbol

## Main results

* `getSpreadBpsSeries_call`, `getMidSeries_call`, `getPublicTrades_call` — what a call does to the
  series of a symbol
* `history_windows_exact`
-/

namespace Botik

open MarketHistory RecentEntries Runs

namespace MarketCall

variable (symbol : String)

/-- The time a call writes. -/
def tsMs : MarketCall → ℤ
  | .setOrderbook nowMs _ agg _ _ _ => if agg.tsMs ≠ 0 then agg.tsMs else nowMs
  | .recordPublicTrade event => event.tsMs

/-- The time of a book for the symbol. -/
def bookTime? : MarketCall → Option ℤ
  | .setOrderbook nowMs s agg levels isSnapshot tickSize =>
    if s = symbol then some (tsMs (.setOrderbook nowMs s agg levels isSnapshot tickSize)) else none
  | .recordPublicTrade _ => none

/-- What a call records for the symbol, of a value that not every book has. -/
def bookEntryOf (value : Market.OrderBookAggregate → Option ℚ) : MarketCall → Option (ℤ × ℚ)
  | .setOrderbook nowMs s agg levels isSnapshot tickSize =>
    if s = symbol then
      (value agg).map fun v => (tsMs (.setOrderbook nowMs s agg levels isSnapshot tickSize), v)
    else none
  | .recordPublicTrade _ => none

/-- The trade a call records for the symbol. -/
def trade? : MarketCall → Option PublicTradeEvent
  | .setOrderbook _ _ _ _ _ _ => none
  | .recordPublicTrade event => if event.symbol = symbol then some event else none

end MarketCall

open MarketCall

/-- The spread of a book with a middle and two sides that do not cross, in basis points. -/
def spreadOf (agg : Market.OrderBookAggregate) : Option ℚ :=
  if 0 < agg.mid ∧ agg.bestBid < agg.bestAsk ∧ 0 < agg.bestBid then
    some ((agg.bestAsk - agg.bestBid) / agg.mid * 10000)
  else none

/-- The middle of a book that has one. -/
def midOf (agg : Market.OrderBookAggregate) : Option ℚ := if 0 < agg.mid then some agg.mid else none

/-- The spreads the calls record for a symbol. -/
def recordedSpreads (symbol : String) (calls : List MarketCall) : List (ℤ × ℚ) :=
  calls.filterMap (bookEntryOf symbol spreadOf)

/-- The middles the calls record for a symbol. -/
def recordedMids (symbol : String) (calls : List MarketCall) : List (ℤ × ℚ) :=
  calls.filterMap (bookEntryOf symbol midOf)

/-- The trades the calls record for a symbol. -/
def recordedTrades (symbol : String) (calls : List MarketCall) : List PublicTradeEvent :=
  calls.filterMap (trade? symbol)

/-- The times of the books for a symbol. -/
def bookTimes (symbol : String) (calls : List MarketCall) : List ℤ :=
  calls.filterMap (bookTime? symbol)

/-- The times of the trades of a symbol. -/
def tradeTimes (symbol : String) (calls : List MarketCall) : List ℤ :=
  (recordedTrades symbol calls).map PublicTradeEvent.tsMs

/-! ### One call -/

section Call

variable {store : Dict String (List (ℤ × ℚ))} {symbol symbol' : String} {v : ℚ}
  {nowMs tsMs : ℤ} {agg : Market.OrderBookAggregate}
  {levels : Option (List Market.Level × List Market.Level)} {isSnapshot : Bool}
  {tickSize : Option ℚ} {value : Market.OrderBookAggregate → Option ℚ}

theorem getD_appendPruned :
    ((MarketState.appendPruned store symbol tsMs v).get? symbol').getD [] =
      if symbol = symbol' then
        pushRecent Prod.fst MarketState.maxAgeMs ((store.get? symbol').getD []) (tsMs, v)
      else (store.get? symbol').getD [] := by
  unfold MarketState.appendPruned
  by_cases hsymbol : symbol = symbol'
  · rw [if_pos hsymbol, hsymbol, Dict.get?_set_self]
    rfl
  · rw [if_neg hsymbol, Dict.get?_set_of_ne (Ne.symm hsymbol)]

/-- A series that takes a value of the books that have it. -/
theorem getD_of_takes {P : Prop} [Decidable P] (hvalue : value agg = if P then some v else none) :
    ((if P then
          MarketState.appendPruned store symbol'
            (MarketCall.tsMs (.setOrderbook nowMs symbol' agg levels isSnapshot tickSize)) v
        else store).get? symbol).getD [] =
      (bookEntryOf symbol value
          (.setOrderbook nowMs symbol' agg levels isSnapshot tickSize)).elim
        ((store.get? symbol).getD [])
        (pushRecent Prod.fst MarketState.maxAgeMs ((store.get? symbol).getD [])) := by
  rw [bookEntryOf, hvalue]
  by_cases hP : P
  · rw [if_pos hP, if_pos hP, getD_appendPruned]
    by_cases hsymbol : symbol' = symbol
    · simp [hsymbol]
    · simp [hsymbol]
  · rw [if_neg hP, if_neg hP]
    simp

/-- What a call does to the spreads of a symbol. -/
theorem getSpreadBpsSeries_call (c : MarketCall) (s : MarketHistory) :
    (call c s).getSpreadBpsSeries symbol =
      (bookEntryOf symbol spreadOf c).elim (s.getSpreadBpsSeries symbol)
        (pushRecent Prod.fst MarketState.maxAgeMs (s.getSpreadBpsSeries symbol)) := by
  cases c with
  | setOrderbook nowMs symbol' agg levels isSnapshot tickSize => exact getD_of_takes rfl
  | recordPublicTrade event => rfl

/-- What a call does to the middles of a symbol. -/
theorem getMidSeries_call (c : MarketCall) (s : MarketHistory) :
    (call c s).getMidSeries symbol =
      (bookEntryOf symbol midOf c).elim (s.getMidSeries symbol)
        (pushRecent Prod.fst MarketState.maxAgeMs (s.getMidSeries symbol)) := by
  cases c with
  | setOrderbook nowMs symbol' agg levels isSnapshot tickSize => exact getD_of_takes rfl
  | recordPublicTrade event => rfl

/-- The times before the cutoff are those too far from the new one. -/
theorem pushLast_eq_dropWhile (trades : List PublicTradeEvent) (event : PublicTradeEvent) :
    pushLast PublicTradeEvent.tsMs MarketState.maxAgeMs maxTrades trades event =
      ((trades ++ [event]).rtake maxTrades).dropWhile fun trade =>
        trade.tsMs < event.tsMs - 15 * 60 * 1000 := by
  unfold pushLast prune
  congr 1
  funext trade
  rw [decide_eq_decide]
  exact lt_sub_comm

/-- What a call does to the tape of a symbol. -/
theorem getPublicTrades_call (c : MarketCall) (s : MarketHistory) :
    (call c s).getPublicTrades symbol =
      (trade? symbol c).elim (s.getPublicTrades symbol)
        (pushLast PublicTradeEvent.tsMs MarketState.maxAgeMs maxTrades
          (s.getPublicTrades symbol)) := by
  cases c with
  | setOrderbook nowMs symbol' agg levels isSnapshot tickSize => rfl
  | recordPublicTrade event =>
    unfold call MarketHistory.recordPublicTrade getPublicTrades trade?
    dsimp only
    by_cases hsymbol : event.symbol = symbol
    · rw [if_pos hsymbol, hsymbol, Dict.get?_set_self, Option.elim_some, pushLast_eq_dropWhile,
        Option.getD_some]
    · rw [if_neg hsymbol, Dict.get?_set_of_ne (Ne.symm hsymbol), Option.elim_none]

/-- A call for another symbol leaves the three series alone. -/
theorem series_call_of_ne {c : MarketCall} (h : c.symbol ≠ symbol) (s : MarketHistory) :
    (call c s).getSpreadBpsSeries symbol = s.getSpreadBpsSeries symbol ∧
      (call c s).getMidSeries symbol = s.getMidSeries symbol ∧
      (call c s).getPublicTrades symbol = s.getPublicTrades symbol := by
  rw [getSpreadBpsSeries_call, getMidSeries_call, getPublicTrades_call]
  cases c with
  | setOrderbook nowMs symbol' agg levels isSnapshot tickSize =>
    have hentry : ∀ value, bookEntryOf symbol value
        (.setOrderbook nowMs symbol' agg levels isSnapshot tickSize) = none :=
      fun value => if_neg h
    rw [hentry, hentry]
    exact ⟨rfl, rfl, rfl⟩
  | recordPublicTrade event =>
    have htrade : trade? symbol (MarketCall.recordPublicTrade event) = none := if_neg h
    rw [htrade]
    exact ⟨rfl, rfl, rfl⟩

end Call

/-! ### All calls -/

section Calls

variable {symbol : String} {calls : List MarketCall}

/-- Where the times of the books do not go back, those of a series do not. -/
theorem ordered_bookEntries (value : Market.OrderBookAggregate → Option ℚ)
    (h : (bookTimes symbol calls).Pairwise (· ≤ ·)) :
    Ordered Prod.fst (calls.filterMap (bookEntryOf symbol value)) := by
  have htime : ∀ c e, bookEntryOf symbol value c = some e → bookTime? symbol c = some e.1 := by
    intro c e he
    cases c with
    | recordPublicTrade event => cases he
    | setOrderbook nowMs symbol' agg levels isSnapshot tickSize =>
      rw [bookEntryOf] at he
      split_ifs at he with hsymbol
      obtain ⟨v, -, rfl⟩ := Option.map_eq_some_iff.mp he
      exact if_pos hsymbol
  refine List.pairwise_filterMap.mpr ((List.pairwise_filterMap.mp h).imp ?_)
  intro c c' hle e he e' he'
  exact hle e.1 (htime c e he) e'.1 (htime c' e' he')

theorem ordered_recordedTrades (h : (tradeTimes symbol calls).Pairwise (· ≤ ·)) :
    Ordered PublicTradeEvent.tsMs (recordedTrades symbol calls) := List.pairwise_map.mp h

end Calls

/-- Along any calls whose times for a symbol do not go back, its two series are the entries recorded
for it that are at most fifteen minutes older than the newest one of the series, and its tape is the
last hundred thousand of these. A call for another symbol changes none of them. -/
theorem history_windows_exact (calls : List MarketCall) (symbol : String)
    (hbooks : (bookTimes symbol calls).Pairwise (· ≤ ·))
    (htrades : (tradeTimes symbol calls).Pairwise (· ≤ ·)) :
    (run call calls .empty).getSpreadBpsSeries symbol =
        recent Prod.fst (15 * 60 * 1000) (recordedSpreads symbol calls) ∧
      (run call calls .empty).getMidSeries symbol =
        recent Prod.fst (15 * 60 * 1000) (recordedMids symbol calls) ∧
      (run call calls .empty).getPublicTrades symbol =
        (recent PublicTradeEvent.tsMs (15 * 60 * 1000) (recordedTrades symbol calls)).rtake
          100000 ∧
      ∀ s c, c.symbol ≠ symbol →
        (call c s).getSpreadBpsSeries symbol = s.getSpreadBpsSeries symbol ∧
          (call c s).getMidSeries symbol = s.getMidSeries symbol ∧
          (call c s).getPublicTrades symbol = s.getPublicTrades symbol := by
  have hspreads : (run call calls .empty).getSpreadBpsSeries symbol =
      (recordedSpreads symbol calls).foldl (pushRecent Prod.fst MarketState.maxAgeMs) [] :=
    val_run_eq_foldl (fun s : MarketHistory => s.getSpreadBpsSeries symbol) getSpreadBpsSeries_call
  have hmids : (run call calls .empty).getMidSeries symbol =
      (recordedMids symbol calls).foldl (pushRecent Prod.fst MarketState.maxAgeMs) [] :=
    val_run_eq_foldl (fun s : MarketHistory => s.getMidSeries symbol) getMidSeries_call
  have htape : (run call calls .empty).getPublicTrades symbol =
      (recordedTrades symbol calls).foldl
        (pushLast PublicTradeEvent.tsMs MarketState.maxAgeMs maxTrades) [] :=
    val_run_eq_foldl (fun s : MarketHistory => s.getPublicTrades symbol) getPublicTrades_call
  refine ⟨?_, ?_, ?_, fun s c hother => series_call_of_ne hother s⟩
  · rw [hspreads]
    exact foldl_pushRecent (ordered_bookEntries spreadOf hbooks)
  · rw [hmids]
    exact foldl_pushRecent (ordered_bookEntries midOf hbooks)
  · rw [htape]
    exact foldl_pushLast (ordered_recordedTrades htrades)

/-! ### Two books a quarter of an hour apart -/

/-- A book from 99 to 101. -/
def quarterBook (tsMs : ℤ) : Market.OrderBookAggregate where
  symbol := "BTCUSDT"
  bestBid := 99
  bestAsk := 101
  mid := 100
  spreadTicks := 2
  imbalanceTopN := 0
  bestBidSize := 1
  bestAskSize := 1
  tsMs := tsMs

def quarterTrade (tsMs : ℤ) : PublicTradeEvent := ⟨"BTCUSDT", "1", 1, tsMs, "Buy", 100, 1⟩

/-- The second book and the second trade come a millisecond too late for the first ones, and the
third book has no bids. -/
def quarterCalls : List MarketCall :=
  [.setOrderbook 0 "BTCUSDT" (quarterBook 1) none true none,
    .recordPublicTrade (quarterTrade 1),
    .setOrderbook 900002 "BTCUSDT" (quarterBook 0) none false none,
    .setOrderbook 0 "ETHUSDT" (quarterBook 5) none true none,
    .recordPublicTrade (quarterTrade 900002),
    .setOrderbook 0 "BTCUSDT" { quarterBook 900003 with bestBid := 0 } none false none]

theorem quarter_calls_windows :
    (run call quarterCalls .empty).getSpreadBpsSeries "BTCUSDT" = [(900002, 200)] ∧
      (run call quarterCalls .empty).getMidSeries "BTCUSDT" = [(900002, 100), (900003, 100)] ∧
      (run call quarterCalls .empty).getPublicTrades "BTCUSDT" = [quarterTrade 900002] := by
  obtain ⟨hspreads, hmids, htrades, -⟩ := history_windows_exact quarterCalls "BTCUSDT"
    (by decide +kernel) (by decide +kernel)
  rw [hspreads, hmids, htrades]
  decide +kernel

end Botik
