import Botik.Main.Executions
import Botik.Main.ForceExit

/-!
# Exit quotes

`maybe_place_position_exit_quote` of `main.py`: keep one resting order that closes the position of a
symbol at its planned price. The quotes that were open when the iteration began are cancelled
before a new one is placed; a quote that already rests at this price and size is kept.

## Main definitions

* `OpenOrder` — an order of the fetched list
* `QuoteEnv` — what the outside answers during one call
* `plannedExitPrice`, `plannedExitQuote` — the price and size of the quote, from the state alone
* `maybePlacePositionExitQuote`
-/

namespace Botik

open Program

/-- An item of `get_open_orders`, with the fields the trading loop reads. -/
structure OpenOrder where
  symbol : Option String
  side : Option String
  price : Option String
  qty : Option String
  orderLinkId : Option String
  deriving DecidableEq, Repr

/-- What one call sees of the outside. -/
structure QuoteEnv where
  faults : Faults
  /-- `time.monotonic()` until the order is sent. -/
  clock : ℚ
  /-- `time.monotonic()` after it is answered. -/
  sentClock : ℚ
  /-- `utc_now_iso()`. -/
  utc : ℕ
  book : Option OrderBookAggregate
  tickSize : Option ℚ
  /-- The random part of the link of the order. -/
  linkId : String
  /-- The answers to the cancellations, by link. -/
  cancelAnswer : String → Attempt
  answer : OrderAnswer

/-! ### The price -/

/-- A book whose two sides are usable. -/
def OrderBookAggregate.isUsable (book : OrderBookAggregate) : Bool :=
  0 < book.bestBid ∧ 0 < book.bestAsk ∧ book.bestBid < book.bestAsk

/-- `_planned_exit_price`: the entry with the required profit, or the better side of the book. -/
def plannedExitPrice (c : Config) (rt : Runtime) (symbol : String) (qty : ℚ)
    (book : OrderBookAggregate) : Option ℚ :=
  let avgEntry := (rt.position symbol).avgEntry
  let entry := if avgEntry ≤ 0 then book.mid else avgEntry
  if entry ≤ 0 then none
  else
    let details := rt.details symbol
    let requiredRatio := max details.targetProfitRatio 0 + max details.safetyBufferRatio 0 +
      2 * max c.makerRate 0
    let raw := if 0 < qty then max (entry * (1 + requiredRatio)) book.bestAsk
      else min (entry * (1 - requiredRatio)) book.bestBid
    if raw ≤ 0 then none else some raw

/-- The tick of a symbol; a missing or zero one is replaced by the configured one. -/
def tickSizeOr (c : Config) (tickSize : Option ℚ) : ℚ :=
  max ((tickSize.filter (· ≠ 0)).getD c.defaultTickSize) (1 / 10 ^ 12)

/-- `round(price / tick) * tick`. -/
def snap (tick price : ℚ) : ℚ := Text.roundHalfEven (price / tick) * tick

/-- The price on the grid of ticks; one that would take is moved to the other side. -/
def quotePrice (tick qty planned : ℚ) (book : OrderBookAggregate) : ℚ :=
  let price := snap tick planned
  if 0 < qty ∧ price ≤ book.bestBid then book.bestAsk
  else if qty < 0 ∧ book.bestAsk ≤ price then book.bestBid
  else price

/-- The price of the quote of a position, where one is planned. -/
def plannedExitQuote (c : Config) (env : QuoteEnv) (rt : Runtime) (symbol : String) :
    Option ℚ := do
  let qty := (rt.position symbol).qty
  let book ← env.book.filter OrderBookAggregate.isUsable
  let planned ← plannedExitPrice c rt symbol qty book
  let price := quotePrice (tickSizeOr c env.tickSize) qty planned book
  if price ≤ 0 then none else some price

/-! ### The order -/

/-- A quote that already rests at this side, price and size; an unreadable number raises. -/
def isSameQuote (side : Side) (tick floor price qty : ℚ) (order : OpenOrder) : Except Exn Bool :=
  if Text.lower (Text.strip (Text.orEmpty order.side)) ≠ Text.lower side.text then .ok false
  else do
    let orderPrice ← floatField "price" order.price
    let orderQty ← floatField "qty" order.qty
    return decide (|orderPrice - price| ≤ tick ∧ |orderQty - qty| ≤ max floor (1 / 10 ^ 9))

/-- One of the orders is the quote. -/
def anySameQuote (side : Side) (tick floor price qty : ℚ) : List OpenOrder → Except Exn Bool
  | [] => .ok false
  | order :: orders => do
    if ← isSameQuote side tick floor price qty order then return true
    else anySameQuote side tick floor price qty orders

/-- Cancel an earlier quote, if it has a link. -/
def cancelQuote (env : QuoteEnv) (symbol : String) (order : OpenOrder) : RunM Unit :=
  let link := Text.strip (Text.orEmpty order.orderLinkId)
  let orderSymbol :=
    Text.upper (Text.strip ((Text.truthy order.symbol).getD symbol))
  if link = "" then pure ()
  else cancelOrder (if orderSymbol = "" then symbol else orderSymbol) link (env.cancelAnswer link)

/-- The order of an exit quote. -/
def exitQuoteOrder (env : QuoteEnv) (symbol : String) (qty price : ℚ) : OrderRequest where
  symbol := symbol
  side := (closingSide qty).text
  qty := Text.fixed8 |qty|
  price := Text.fixed8 price
  orderLinkId := "px-" ++ symbol ++ "-" ++ env.linkId
  timeInForce := "PostOnly"
  orderType := "Limit"

/-- What follows an accepted quote. -/
def recordExitQuote (x : Context) (env : QuoteEnv) (order : OrderRequest) (reply : OrderReply) :
    RunM Unit := do
  modify (registerOrderPlaced env.sentClock)
  let w ← get
  recordOrder x env.faults .exitQuote env.utc "PostOnly"
    (.ofRequest order reply (w.rt.details order.symbol).signalId)

/-- Send the quote. One whose quantity the executor cannot normalize is given up as dust. -/
def sendExitQuote (x : Context) (env : QuoteEnv) (order : OrderRequest) : RunM Unit := do
  let reply ← placeOrder order env.answer
  if reply.retCode = some 0 then recordExitQuote x env order reply
  else if reply.isInvalidQty then modify (suppressDust x.config env.sentClock order.symbol)
  else pure ()

/-! ### The routine -/

/-- Replace the quotes that were open by a new one. -/
def replaceQuotes (x : Context) (env : QuoteEnv) (symbol : String) (floor price : ℚ)
    (openQuotes : List OpenOrder) : RunM Unit := do
  let w ← get
  let qty := (w.rt.position symbol).qty
  let same ← fromExcept
    (anySameQuote (closingSide qty) (tickSizeOr x.config env.tickSize) floor price |qty| openQuotes)
  if same then pure ()
  else do
    each (cancelQuote env symbol) openQuotes
    sendExitQuote x env (exitQuoteOrder env symbol qty price)

/-- The part for a position at its quantity floor. -/
def quotePosition (x : Context) (env : QuoteEnv) (symbol : String) (floor : ℚ)
    (openQuotes : List OpenOrder) : RunM Unit := do
  let notionalFloor ← resolvePositionNotionalFloor x symbol
  let w ← get
  match plannedExitQuote x.config env w.rt symbol with
  | none => pure ()
  | some price =>
    if IsDust x.config notionalFloor (w.rt.position symbol).qty price then
      modify (suppressDust x.config env.clock symbol)
    else replaceQuotes x env symbol floor price openQuotes

/-- `maybe_place_position_exit_quote`; its answer is only counted. -/
def maybePlacePositionExitQuote (x : Context) (env : QuoteEnv) (symbol : String)
    (openQuotes : List OpenOrder) : RunM Unit := do
  let w ← get
  if x.executor.isNone then pure ()
  else if env.clock - w.rt.lastForceExitTs symbol < x.config.forceExitCooldownSec then pure ()
  else do
    let floor ← resolvePositionFloor x symbol
    if |(w.rt.position symbol).qty| < floor then pure ()
    else quotePosition x env symbol floor openQuotes

end Botik
