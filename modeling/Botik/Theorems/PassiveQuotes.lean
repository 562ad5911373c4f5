import Botik.Main.ExitFacts
import Botik.Main.TickGrid

/-!
# Exit quotes rest and pay

An exit quote is planned at the better of the price that leaves the required profit and the other
side of the book, and rounded to the tick; where rounding carries it through the book it is moved
back to the other side. It then still rests, and it misses the required profit by no more than the
half tick that rounding takes.

## Main definitions

* `requiredRatio` — the profit that is asked for
* `RestsAndPays` — a price on its side of the book, half a tick off the required profit at most

## Main results

* `restsAndPays_quotePrice` — the price of the routine
* `exit_quotes_rest_and_pay` — every order of the routine
-/

namespace Botik

open Program

/-- The profit an exit quote of a symbol asks for: the target, the buffer and both fees. -/
def requiredRatio (c : Config) (rt : Runtime) (symbol : String) : ℚ :=
  (rt.details symbol).targetProfitRatio + (rt.details symbol).safetyBufferRatio + 2 * c.makerRate

/-- A price of a position of this size: above the best bid and the required profit above the entry
for a long one, between zero and the best ask and the required profit below the entry for a short
one, half a tick off at most. -/
structure RestsAndPays (tick qty entry required : ℚ) (book : OrderBookAggregate) (price : ℚ) :
    Prop where
  long : 0 < qty → book.bestBid < price ∧ entry * (1 + required) - tick / 2 ≤ price
  short : qty < 0 → 0 < price ∧ price < book.bestAsk ∧
    price ≤ entry * (1 - required) + tick / 2

/-! ### The price -/

section Price

variable {c : Config} {rt : Runtime} {symbol : String} {book : OrderBookAggregate}
  {tick qty bound price : ℚ}

/-- A quote planned at the best ask or above it stays above the best bid. -/
theorem lt_quotePrice_of_long (htick : 0 < tick) (hqty : 0 < qty)
    (hspread : book.bestBid < book.bestAsk) :
    book.bestBid < quotePrice tick qty (max bound book.bestAsk) book ∧
      bound - tick / 2 ≤ quotePrice tick qty (max bound book.bestAsk) book := by
  have hround := (abs_le.mp (abs_snap_sub_le htick (max bound book.bestAsk))).1
  have hbound := le_max_left bound book.bestAsk
  unfold quotePrice
  dsimp only
  split_ifs with hthrough hshort
  · -- the rounded price took from the bid, so the bound is half a tick above the bid at most
    exact ⟨hspread, by linarith [hthrough.2]⟩
  · exact absurd hshort.1 (not_lt.mpr hqty.le)
  · rw [not_and, not_le] at hthrough
    exact ⟨hthrough hqty, by linarith⟩

/-- A quote planned at the best bid or below it stays below the best ask. -/
theorem quotePrice_lt_of_short (htick : 0 < tick) (hqty : qty < 0)
    (hspread : book.bestBid < book.bestAsk) :
    quotePrice tick qty (min bound book.bestBid) book < book.bestAsk ∧
      quotePrice tick qty (min bound book.bestBid) book ≤ bound + tick / 2 := by
  have hround := (abs_le.mp (abs_snap_sub_le htick (min bound book.bestBid))).2
  have hbound := min_le_left bound book.bestBid
  unfold quotePrice
  dsimp only
  split_ifs with hlong hthrough
  · exact absurd hlong.1 (not_lt.mpr hqty.le)
  · exact ⟨hspread, by linarith [hthrough.2]⟩
  · rw [not_and, not_le] at hthrough
    exact ⟨hthrough hqty, by linarith⟩

/-- With a known entry the planned price is the better of the required profit and the book. -/
theorem plannedExitPrice_eq_some (hentry : 0 < (rt.position symbol).avgEntry)
    (htarget : 0 ≤ (rt.details symbol).targetProfitRatio)
    (hsafety : 0 ≤ (rt.details symbol).safetyBufferRatio) (hfee : 0 ≤ c.makerRate)
    (h : plannedExitPrice c rt symbol qty book = some price) :
    price = if 0 < qty then
        max ((rt.position symbol).avgEntry * (1 + requiredRatio c rt symbol)) book.bestAsk
      else min ((rt.position symbol).avgEntry * (1 - requiredRatio c rt symbol)) book.bestBid := by
  unfold plannedExitPrice at h
  simp only [if_neg (not_le.mpr hentry), max_eq_left htarget, max_eq_left hsafety,
    max_eq_left hfee] at h
  generalize hraw : (if 0 < qty then _ else _ : ℚ) = raw at h
  split_ifs at h
  rw [← Option.some.inj h, ← hraw]
  rfl

end Price

/-! ### The routine -/

section Routine

variable {x : Context} {env : QuoteEnv} {symbol : String} {book : OrderBookAggregate} {w : World}

/-- The price of the routine rests and pays. -/
theorem restsAndPays_quotePrice {rt : Runtime} {price : ℚ} (hbook : env.book = some book)
    (hentry : 0 < (rt.position symbol).avgEntry)
    (htarget : 0 ≤ (rt.details symbol).targetProfitRatio)
    (hsafety : 0 ≤ (rt.details symbol).safetyBufferRatio) (hfee : 0 ≤ x.config.makerRate)
    (h : plannedExitQuote x.config env rt symbol = some price) :
    RestsAndPays (tickSizeOr x.config env.tickSize) (rt.position symbol).qty
      (rt.position symbol).avgEntry (requiredRatio x.config rt symbol) book price := by
  have htick := tickSizeOr_pos x.config env.tickSize
  unfold plannedExitQuote at h
  rw [hbook] at h
  obtain ⟨book', hfilter, h⟩ := Option.bind_eq_some_iff.mp h
  obtain ⟨hsame, husable⟩ := Option.filter_eq_some_iff.mp hfilter
  obtain rfl := Option.some.inj hsame
  have hspread : book.bestBid < book.bestAsk := (of_decide_eq_true husable).2.2
  obtain ⟨planned, hplanned, h⟩ := Option.bind_eq_some_iff.mp h
  have hplan := plannedExitPrice_eq_some hentry htarget hsafety hfee hplanned
  dsimp only at h
  split_ifs at h with hpositive
  obtain rfl := Option.some.inj h
  constructor
  · intro hqty
    rw [if_pos hqty] at hplan
    rw [hplan]
    exact lt_quotePrice_of_long htick hqty hspread
  · intro hqty
    refine ⟨not_le.mp hpositive, ?_⟩
    rw [if_neg (not_lt.mpr hqty.le)] at hplan
    rw [hplan]
    exact quotePrice_lt_of_short htick hqty hspread

/-- Every order the routine sends for a position of known entry closes it at a price that rests and
pays, printed with eight decimals. -/
theorem exit_quotes_rest_and_pay (x : Context) (env : QuoteEnv) (symbol : String)
    (openQuotes : List OpenOrder) (w : World) (book : OrderBookAggregate)
    (hbook : env.book = some book) (hentry : 0 < (w.rt.position symbol).avgEntry)
    (htarget : 0 ≤ (w.rt.details symbol).targetProfitRatio)
    (hsafety : 0 ≤ (w.rt.details symbol).safetyBufferRatio) (hfee : 0 ≤ x.config.makerRate) :
    Emits (fun event => ∀ order accepted, event = .placeOrder order accepted →
        ∃ price, plannedExitQuote x.config env w.rt symbol = some price ∧
          order = exitQuoteOrder env symbol (w.rt.position symbol).qty price ∧
          |order.price - price| ≤ 1 / 2 / 10 ^ 8 ∧
          RestsAndPays (tickSizeOr x.config env.tickSize) (w.rt.position symbol).qty
            (w.rt.position symbol).avgEntry (requiredRatio x.config w.rt symbol) book price)
      w (after (maybePlacePositionExitQuote x env symbol openQuotes) w) := by
  refine (emits_maybePlacePositionExitQuote x env symbol openQuotes w).mono ?_
  intro event hevent order accepted hplaced
  obtain ⟨price, hdue, horder⟩ := hevent order accepted hplaced
  refine ⟨price, hdue.planned, horder, ?_,
    restsAndPays_quotePrice hbook hentry htarget hsafety hfee hdue.planned⟩
  rw [horder]
  exact Rounding.abs_fixed8_sub_le price

end Routine

/-! ### A quote that rounding carries through the book -/

/-- A long position of ten coins, bought at 90. -/
def tenCoins : World :=
  { World.initial bitcoinLinear.config with rt := { Runtime.initial bitcoinLinear.config with
      position := fun _ => ⟨10, 90⟩ } }

/-- A tick of one and a best ask between two prices of the grid. -/
def narrowBook : QuoteEnv where
  faults := fun _ => none
  clock := 1000
  sentClock := 1000
  utc := 0
  book := some { bestBid := 100, bestAsk := 502 / 5, mid := 501 / 5 }
  tickSize := some 1
  linkId := "1"
  cancelAnswer := fun _ => .error ""
  answer := .ok { retCode := some 0, retMsg := none, orderId := some "1" }

/-- The best ask is rounded to the best bid, and the position is quoted at the ask itself. -/
theorem narrow_book_rests_and_pays :
    .placeOrder (exitQuoteOrder narrowBook "BTCUSDT" 10 (502 / 5)) true ∈
        (after (maybePlacePositionExitQuote bitcoinLinear narrowBook "BTCUSDT" []) tenCoins).trace ∧
      RestsAndPays 1 10 90 (requiredRatio bitcoinLinear.config tenCoins.rt "BTCUSDT")
        { bestBid := 100, bestAsk := 502 / 5, mid := 501 / 5 } (502 / 5) := by
  have hsent : .placeOrder (exitQuoteOrder narrowBook "BTCUSDT" 10 (502 / 5)) true ∈
      (after (maybePlacePositionExitQuote bitcoinLinear narrowBook "BTCUSDT" []) tenCoins).trace := by
    decide +kernel
  have hplanned : plannedExitQuote bitcoinLinear.config narrowBook tenCoins.rt "BTCUSDT" =
      some (502 / 5) := by decide +kernel
  have htick : tickSizeOr bitcoinLinear.config narrowBook.tickSize = 1 := by decide +kernel
  obtain ⟨events, htrace, hrests⟩ := exit_quotes_rest_and_pay bitcoinLinear narrowBook "BTCUSDT" []
    tenCoins _ rfl (by decide +kernel) (by decide +kernel) (by decide +kernel) (by decide +kernel)
  refine ⟨hsent, ?_⟩
  rw [htrace, List.mem_append] at hsent
  obtain ⟨price, hprice, -, -, hpays⟩ := hrests _ (hsent.resolve_left (by decide)) _ _ rfl
  obtain rfl := Option.some.inj (hprice.symm.trans hplanned)
  rw [htick] at hpays
  exact hpays

end Botik
