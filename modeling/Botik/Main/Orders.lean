import Botik.Execution.Paper
import Botik.Main.World
import Botik.Risk.Manager

/-!
# Sending and recording orders

What all order paths of `main.py` share: the calls `place_order` and `cancel_order`, the risk
manager's record of the last minute, and the rows of an accepted order, which go into the legacy
table, the table of the market and the lifecycle tables.

## Main definitions

* `placeOrder`, `cancelOrder` — the calls, with their answers
* `registerOrderPlaced`
* `RuntimeOrder`, `writeRuntimeOrderLegacyAndDomain`, `recordOrder`
* `SameState`, `AllowsTables` — a relation of states that no change of the other tables breaks
* `SameOrders`, `AllowsRecords` — one that recorded orders do not break
* `OrderBookAggregate`, `suppressDust` — what the exit paths share

## Main results

* `moves_recordOrder` — recording an order only writes tables
-/

namespace Botik

open Program

/-! ### Calls -/

/-- The answer to an order, or the text of the exception. -/
abbrev OrderAnswer := Except String OrderReply

def OrderAnswer.accepted : OrderAnswer → Bool
  | .ok reply => reply.retCode = some 0
  | .error _ => false

/-- Note a call or a decision. -/
def note (event : Event) (w : World) : World := { w with trace := w.trace ++ [event] }

/-- `place_order`. -/
def placeOrder (order : OrderRequest) (answer : OrderAnswer) : RunM OrderReply := do
  modify (note (.placeOrder order answer.accepted))
  match answer with
  | .ok reply => return reply
  | .error _ => throw (.api "place_order")

/-- `cancel_order`, whose answer nobody looks at. -/
def cancelOrder (symbol orderLinkId : String) (answer : Attempt) : RunM Unit := do
  modify (note (.cancelOrder symbol orderLinkId answer.accepted))
  match answer with
  | .ok _ => pure ()
  | .error _ => throw (.api "cancel_order")

/-- `register_order_placed`. -/
def registerOrderPlaced (clock : ℚ) (w : World) : World :=
  { w with rt := { w.rt with
    orderTimestamps := lastMinute clock (w.rt.orderTimestamps ++ [clock]) } }

/-! ### Records of an accepted order -/

/-- An accepted order as it is recorded. -/
structure RuntimeOrder where
  symbol : String
  side : String
  orderLinkId : String
  price : ℚ
  qty : ℚ
  exchangeOrderId : Option String
  orderType : String
  timeInForce : String
  signalId : Option String
  deriving DecidableEq, Repr

namespace RuntimeOrder

/-- The record of an order as it was sent. -/
def ofRequest (order : OrderRequest) (reply : OrderReply) (signalId : Option String) :
    RuntimeOrder where
  symbol := order.symbol
  side := order.side
  orderLinkId := order.orderLinkId
  price := order.price
  qty := order.qty
  exchangeOrderId := reply.orderId
  orderType := order.orderType
  timeInForce := order.timeInForce
  signalId := signalId

/-- The row of `orders`. -/
def legacyRow (o : RuntimeOrder) : OrderRow where
  symbol := o.symbol
  side := o.side
  exchangeOrderId := o.exchangeOrderId
  orderLinkId := o.orderLinkId
  price := Text.fixed8 o.price
  qty := Text.fixed8 o.qty
  status := "New"
  entryPrice := none
  exitPrice := none
  updatedAtUtc := none

/-- The columns the order tables of both markets share. -/
def domainRow (o : RuntimeOrder) (c : Config) (utc : ℕ) : DomainOrderRow where
  accountType := unified
  symbol := Text.upper o.symbol
  orderId := o.exchangeOrderId
  orderType := some o.orderType
  timeInForce := some o.timeInForce
  status := "New"
  strategyOwner := some c.strategyOwner
  updatedAtUtc := utc

/-- The row of `futures_open_orders`; exit quotes are marked as reducing. -/
def futuresRow (o : RuntimeOrder) (c : Config) (utc : ℕ) : FuturesOrderRow where
  toDomainOrderRow := o.domainRow c utc
  side := some o.side
  price := some o.price
  qty := some o.qty
  reduceOnly := if Text.startsWith "px-" o.orderLinkId then some true else none
  closeOnTrigger := none

/-- The row of `spot_orders`. -/
def spotRow (o : RuntimeOrder) (c : Config) (utc : ℕ) : SpotOrderRow where
  toDomainOrderRow := o.domainRow c utc
  side := o.side
  price := o.price
  qty := o.qty
  filledQty := 0

/-- The row of `order_events`; its time in force is given by the caller. -/
def eventRow (o : RuntimeOrder) (timeInForce : String) : OrderEventRow where
  orderId := o.exchangeOrderId
  orderLinkId := some o.orderLinkId
  signalId := o.signalId
  symbol := o.symbol
  side := some o.side
  orderType := some o.orderType
  timeInForce := some timeInForce
  price := o.price
  qty := o.qty
  orderStatus := "New"
  avgPrice := none
  cumExecQty := none
  cumExecValue := none
  createdTimeMs := none
  updatedTimeMs := none

end RuntimeOrder

/-- The state with the order in the table of its market. -/
def addDomainOrder (c : Config) (utc : ℕ) (o : RuntimeOrder) (w : World) : World :=
  match c.marketCategory with
  | .linear =>
    { w with futures := w.futures.upsertFuturesOpenOrder (some o.orderLinkId) (o.futuresRow c utc) }
  | .spot => { w with spot := w.spot.upsertSpotOrder (some o.orderLinkId) (o.spotRow c utc) }

/-- `insert_order`: a link that is taken violates the unique constraint. -/
def insertLegacyOrder (faults : Faults) (site : OrderSite → Site) (o : RuntimeOrder) :
    RunM Unit := do
  let w ← get
  if w.legacy.orders.any (·.orderLinkId = o.orderLinkId) then throw (.database (site .legacy))
  else
    write faults (site .legacy) fun w => { w with legacy := w.legacy.insertOrder o.legacyRow }

/-- `write_runtime_order_legacy_and_domain`: the exceptions of the second table are only logged. -/
def writeRuntimeOrderLegacyAndDomain (x : Context) (faults : Faults) (site : OrderSite → Site)
    (utc : ℕ) (o : RuntimeOrder) : RunM Unit := do
  insertLegacyOrder faults site o
  attempt (write faults (site .mirror) (addDomainOrder x.config utc o))

/-- The statements after an accepted order. -/
def recordOrder (x : Context) (faults : Faults) (site : OrderSite → Site) (utc : ℕ)
    (eventTimeInForce : String) (o : RuntimeOrder) : RunM Unit := do
  writeRuntimeOrderLegacyAndDomain x faults site utc o
  write faults (site .signalMap) fun w => { w with
    lifecycle := w.lifecycle.setOrderSignalMap o.orderLinkId o.signalId }
  write faults (site .event) fun w => { w with
    lifecycle := w.lifecycle.insertOrderEvent (o.eventRow eventTimeInForce) }

/-- What recording an order leaves alone. -/
structure SameState (w w' : World) : Prop where
  rt : w'.rt = w.rt
  trace : w'.trace = w.trace
  holdings : w'.spot.holdings = w.spot.holdings
  positions : w'.futures.positions = w.futures.positions

/-- The relation holds wherever no more than other tables changed. -/
def AllowsTables (R : World → World → Prop) : Prop := ∀ w w', SameState w w' → R w w'

/-- The orders and the issues are the same: the trace, the tables of the markets and the issues of
the reconciliation. -/
structure SameOrders (w w' : World) : Prop where
  trace : w'.trace = w.trace
  openOrders : w'.futures.openOrders = w.futures.openOrders
  spotOrders : w'.spot.orders = w.spot.orders
  issues : w'.core.issues = w.core.issues

/-- The relation allows what recording an order does: the row in the table of the market, and
changes of tables without orders. -/
structure AllowsRecords (R : World → World → Prop) : Prop where
  tables : ∀ w w', SameState w w' → SameOrders w w' → R w w'
  recorded : ∀ c utc o w, R w (addDomainOrder c utc o w)

theorem AllowsTables.allowsRecords {R : World → World → Prop} (h : AllowsTables R) :
    AllowsRecords R where
  tables w w' hsame _ := h w w' hsame
  recorded c utc o w := by
    unfold addDomainOrder
    cases c.marketCategory with
    | linear => exact h w _ ⟨rfl, rfl, rfl, rfl⟩
    | spot => exact h w _ ⟨rfl, rfl, rfl, rfl⟩

section Moves

variable {R : World → World → Prop} [IsPreorder World R]

theorem moves_placeOrder {order : OrderRequest} {answer : OrderAnswer}
    (hsend : ∀ w, R w (note (.placeOrder order answer.accepted) w)) :
    Moves R (placeOrder order answer) := by
  unfold placeOrder
  refine moves_bind (moves_modify hsend) fun _ => ?_
  cases answer with
  | ok reply => exact moves_pure _
  | error text => exact moves_throw _

theorem moves_cancelOrder {symbol link : String} {answer : Attempt}
    (hsend : ∀ w, R w (note (.cancelOrder symbol link answer.accepted) w)) :
    Moves R (cancelOrder symbol link answer) := by
  unfold cancelOrder
  refine moves_bind (moves_modify hsend) fun _ => ?_
  cases answer with
  | ok reply => exact moves_pure _
  | error text => exact moves_throw _

/-- Recording an order only writes tables, whatever raises. -/
theorem moves_recordOrder (h : AllowsRecords R) (x : Context) (faults : Faults)
    (site : OrderSite → Site) (utc : ℕ) (timeInForce : String) (o : RuntimeOrder) :
    Moves R (recordOrder x faults site utc timeInForce o) := by
  have hlegacy : Moves R (insertLegacyOrder faults site o) := by
    unfold insertLegacyOrder
    refine moves_bind moves_get fun w => ?_
    refine moves_ite (fun _ => moves_throw _) fun _ => ?_
    exact moves_write fun w => h.tables w _ ⟨rfl, rfl, rfl, rfl⟩ ⟨rfl, rfl, rfl, rfl⟩
  have hboth : Moves R (writeRuntimeOrderLegacyAndDomain x faults site utc o) :=
    moves_bind hlegacy fun _ => moves_attempt (moves_write (h.recorded x.config utc o))
  unfold recordOrder
  refine moves_bind hboth fun _ => moves_bind ?_ fun _ => ?_
  · exact moves_write fun w => h.tables w _ ⟨rfl, rfl, rfl, rfl⟩ ⟨rfl, rfl, rfl, rfl⟩
  · exact moves_write fun w => h.tables w _ ⟨rfl, rfl, rfl, rfl⟩ ⟨rfl, rfl, rfl, rfl⟩

end Moves

/-! ### Exits -/

/-- The top of a book. -/
structure OrderBookAggregate extends OrderBook where
  mid : ℚ
  deriving DecidableEq, Repr

/-- A position whose notional is below the floor, on spot. -/
def IsDust (c : Config) (notionalFloor qty price : ℚ) : Prop :=
  c.spotNotionalFloorEnabled = true ∧ 0 < notionalFloor ∧ |qty| * price < notionalFloor

instance (c : Config) (notionalFloor qty price : ℚ) : Decidable (IsDust c notionalFloor qty price) :=
  inferInstanceAs (Decidable (_ ∧ _))

/-- Suppress the exits of a symbol for a while, and forget its position. -/
def suppressDust (c : Config) (clock : ℚ) (symbol : String) (w : World) : World :=
  resetSymbolRuntimeState c symbol
    { w with rt := { w.rt with
      dustExitSuppressedUntil := Function.update w.rt.dustExitSuppressedUntil symbol
        (clock + c.forceExitDustCooldownSec) } }

/-- The side of the order that closes a position of this quantity. -/
def closingSide (qty : ℚ) : Side := if 0 < qty then .sell else .buy

end Botik
