import Botik.Library.StockClaims
import Botik.Main.World

/-!
# The account at the exchange

The position of a symbol at the exchange and the closing orders that are left there. An accepted
order is left until it is filled or cancelled; a market order or one that is immediate or cancelled
is done before the next call arrives. Whatever else trades the symbol only changes the position.

## Main definitions

* `ClosingOrder`, `ExchangeAccount`
* `Moment`, `Moment.happen` — a call that arrives, or what the exchange does on its own
* `RestingOnly` — the orders that do not rest are done
-/

namespace Botik

open StockClaims

/-- A closing order at the exchange. -/
structure ClosingOrder where
  orderLinkId : String
  /-- It stays in the book until it is filled or cancelled. -/
  rests : Bool
  deriving DecidableEq, Repr

/-- The position of a symbol, and its closing orders with the signed quantities that are left. -/
abbrev ExchangeAccount := Book ClosingOrder ℚ

namespace ClosingOrder

/-- The order as it was requested; market orders and `IOC` orders do not rest. -/
def ofRequest (order : OrderRequest) : ClosingOrder where
  orderLinkId := order.orderLinkId
  rests := ¬ (order.orderType = "Market" ∨ order.timeInForce = "IOC")

/-- The order has this link. -/
def hasLink (orderLinkId : String) (order : ClosingOrder) : Bool :=
  order.orderLinkId = orderLinkId

end ClosingOrder

/-- The change of the position when a quantity of the order is filled. -/
def OrderRequest.signed (order : OrderRequest) (qty : ℚ) : ℚ :=
  if order.side = Side.sell.text then -qty else qty

/-- Something that happens at the exchange. -/
inductive Moment
  /-- A call arrives; an accepted order is for this quantity. -/
  | arrives (event : Event) (qty : ℚ)
  | fills (orderLinkId : String) (qty : ℚ)
  | cancels (orderLinkId : String)
  /-- The position changes, but not by a closing order. -/
  | trades (qty : ℚ)

namespace Moment

/-- What a moment does to the account; only the orders of closing routines are kept. -/
def move? (closing : Bool) : Moment → Option (Move ClosingOrder ℚ)
  | arrives (.placeOrder order true) qty =>
    if closing then some (.add (.ofRequest order) (order.signed qty)) else none
  | arrives (.cancelOrder _ orderLinkId true) _ => some (.giveUp (ClosingOrder.hasLink orderLinkId))
  | arrives (.cancelAllOrders true) _ => some (.giveUp fun _ => true)
  | arrives _ _ => none
  | fills orderLinkId qty => some (.meet (ClosingOrder.hasLink orderLinkId) qty)
  | cancels orderLinkId => some (.giveUp (ClosingOrder.hasLink orderLinkId))
  | trades qty => some (.change qty)

/-- The account after a moment. -/
def happen (closing : Bool) (m : Moment) (a : ExchangeAccount) : ExchangeAccount :=
  (m.move? closing).elim a fun move => move.apply a

/-- The call that arrives, if one does. -/
def event? : Moment → Option Event
  | arrives event _ => some event
  | _ => none

/-- The order that is accepted, with its quantity, if one is. -/
def accepted? : Moment → Option (OrderRequest × ℚ)
  | arrives (.placeOrder order true) qty => some (order, qty)
  | _ => none

/-- The other change of the position, if it is one. -/
def traded? : Moment → Option ℚ
  | trades qty => some qty
  | _ => none

end Moment

/-- The orders that do not rest are done. -/
def RestingOnly (a : ExchangeAccount) : Prop :=
  ∀ claim ∈ a.claims, claim.key.rests = true ∨ claim.left = 0

instance (a : ExchangeAccount) : Decidable (RestingOnly a) := List.decidableBAll _ _

end Botik
