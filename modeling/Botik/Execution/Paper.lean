import Botik.Execution.Executor
import Botik.Library.Dict

/-!
# Paper trading

`PaperTradingClient` of `execution/paper.py`: an order that crosses the book is
executed at once at its own price, any other one rests and is never executed. The
executions are kept in the order in which they happen and listed in that order,
where the exchange lists the newest first. The price of an order is a number that
is written in ASCII digits.

## Main definitions

* `PaperTradingClient`, `recordExecution`, `placeOrder`, `getExecutionList`
* `cancelOrder`, `cancelAllOrders`
* `ExecutionSource` — the executors by the order of their lists

## Main results

* `executionsOf_placeOrder` — an order adds at most one execution, at the end
* `getExecutionList_reverse` — what a reader that reverses the list gets to see
-/

namespace Botik

/-- The best prices of an order book. -/
structure OrderBook where
  bestBid : ℚ
  bestAsk : ℚ
  deriving DecidableEq, Repr

/-- An order, its texts as they are sent. -/
structure PaperOrder where
  symbol : String
  side : String
  qty : String
  price : String
  orderId : String
  orderLinkId : String
  timeInForce : String
  orderType : String
  deriving DecidableEq, Repr

structure PaperTradingClient where
  fillOnCross : Bool
  openOrders : Dict String PaperOrder
  executions : List ExecutionItem

namespace PaperTradingClient

def empty : PaperTradingClient := ⟨true, .empty, []⟩

/-- `capabilities` and `supports_*` of the class. -/
def executor : Executor where
  capabilities := fun capability =>
    if capability ∈ ["reconciliation", "protection", "positions", "trading_stop"] then some false
    else if capability = "wallet_balance" then some true
    else none
  supportsAttribute := fun capability =>
    if capability ∈ ["reconciliation", "protection"] then some false else none
  callables := ["get_wallet_balance", "get_open_orders", "get_execution_list", "get_positions",
    "set_trading_stop"]
  getSymbolMinQty := fun _ => none
  getSymbolMinNotionalQuote := fun _ => none

/-- `_is_marketable`. -/
def isMarketable (book : Option OrderBook) (side : String) (price : ℚ) : Bool :=
  match book with
  | none => false
  | some book => if side = "Buy" then book.bestAsk ≤ price else price ≤ book.bestBid

/-- The item of an executed order. -/
def executionItem (order : PaperOrder) (execId : String) : ExecutionItem where
  symbol := some order.symbol
  side := some order.side
  orderId := some order.orderId
  orderLinkId := some order.orderLinkId
  orderType := none
  execId := some execId
  execQty := some order.qty
  qty := none
  execPrice := some order.price
  price := none
  execValue := none
  execFee := some "0"
  feeRate := none
  feeCurrency := some "USDT"
  isMaker := none
  execTime := none

/-- `_record_execution`. -/
def recordExecution (c : PaperTradingClient) (order : PaperOrder) (execId : String) :
    PaperTradingClient :=
  { c with executions := c.executions ++ [executionItem order execId] }

/-- `normalized_order_type` is `Market`. -/
def isMarketOrder (order : PaperOrder) : Bool :=
  Text.lower (Text.strip order.orderType) = "market"

/-- A market order, or one whose price crosses the book; an unreadable price
raises. -/
def marketable (c : PaperTradingClient) (book : Option OrderBook) (order : PaperOrder) :
    Except String Bool :=
  if isMarketOrder order then .ok true
  else if ¬ c.fillOnCross then .ok false
  else
    match if order.price = "" then some 0 else Text.float? order.price with
    | some price => .ok (isMarketable book order.side price)
    | none => .error "price"

/-- `place_order`: executed now, or resting. -/
def placeOrder (c : PaperTradingClient) (book : Option OrderBook) (order : PaperOrder)
    (execId : String) : Except String (ApiReply × PaperTradingClient) := do
  let marketable ← c.marketable book order
  if marketable ∧ (order.timeInForce ≠ "PostOnly" ∨ isMarketOrder order) then
    return (⟨some 0, some "OK"⟩, c.recordExecution order execId)
  else
    return (⟨some 0, some "OK"⟩, { c with openOrders := c.openOrders.set order.orderId order })

/-- The order `cancel_order` means: by its id, else the first open one of a symbol with a link. -/
def cancelTarget (c : PaperTradingClient) (symbol : String) (orderLinkId orderId : Option String) :
    Option String :=
  match orderId with
  | some orderId => Text.truthy (some orderId)
  | none => (Text.truthy orderLinkId).bind fun link =>
      Text.truthy ((c.openOrders.entries.find? fun e =>
        e.2.orderLinkId = link ∧ e.2.symbol = symbol).map Prod.fst)

/-- `cancel_order`. -/
def cancelOrder (c : PaperTradingClient) (symbol : String) (orderLinkId orderId : Option String) :
    PaperTradingClient :=
  match c.cancelTarget symbol orderLinkId orderId with
  | some target => { c with openOrders := c.openOrders.erase target }
  | none => c

/-- `cancel_all_orders`, of a symbol or of all. -/
def cancelAllOrders (c : PaperTradingClient) (symbol : Option String) : PaperTradingClient :=
  match symbol with
  | none => { c with openOrders := .empty }
  | some symbol =>
    let toDelete := (c.openOrders.entries.filter fun e => e.2.symbol = symbol).map Prod.fst
    { c with openOrders := toDelete.foldl Dict.erase c.openOrders }

/-- The executions of a symbol, oldest first. -/
def executionsOf (c : PaperTradingClient) (symbol : String) : List ExecutionItem :=
  c.executions.filter fun item => item.symbol = some symbol

/-- `items[-limit:]`. -/
def lastItems (limit : ℕ) (items : List ExecutionItem) : List ExecutionItem :=
  if limit = 0 then items else items.drop (items.length - limit)

/-- `get_execution_list` of a symbol. -/
def getExecutionList (c : PaperTradingClient) (symbol : String) (limit : ℕ) :
    List ExecutionItem :=
  lastItems limit (c.executionsOf symbol)

/-- An order adds at most one execution, and that after all earlier ones. -/
theorem executionsOf_placeOrder {c c' : PaperTradingClient} {book : Option OrderBook}
    {order : PaperOrder} {execId : String} {reply : ApiReply}
    (h : c.placeOrder book order execId = .ok (reply, c')) (symbol : String) :
    c'.executionsOf symbol = c.executionsOf symbol ∨
      c'.executionsOf symbol = c.executionsOf symbol ++ [executionItem order execId] := by
  unfold placeOrder at h
  cases hmarketable : c.marketable book order with
  | error e => simp [hmarketable, bind, Except.bind] at h
  | ok marketable =>
    simp only [hmarketable, bind, Except.bind] at h
    split_ifs at h with hnow
    · obtain rfl : c.recordExecution order execId = c' :=
        congrArg Prod.snd (Except.ok.inj h)
      by_cases hsymbol : order.symbol = symbol
      · exact Or.inr (by simp [executionsOf, recordExecution, executionItem, hsymbol])
      · exact Or.inl (by simp [executionsOf, recordExecution, executionItem, hsymbol])
    · have hc := congrArg Prod.snd (Except.ok.inj h)
      dsimp only at hc
      subst hc
      exact Or.inl rfl

end PaperTradingClient

/-! ### The two executors -/

/-- Where execution lists come from: the exchange, with all it executed for a
symbol, oldest first; or a paper client. -/
inductive ExecutionSource
  | rest (executed : String → List ExecutionItem)
  | paper (client : PaperTradingClient)

namespace ExecutionSource

/-- The executions of a symbol in the order in which they happened. -/
def executed : ExecutionSource → String → List ExecutionItem
  | rest executed, symbol => executed symbol
  | paper client, symbol => client.executionsOf symbol

/-- `get_execution_list`; the exchange lists the newest first. -/
def getExecutionList : ExecutionSource → String → ℕ → List ExecutionItem
  | rest executed, symbol, limit => (executed symbol).reverse.take limit
  | paper client, symbol, limit => client.getExecutionList symbol limit

/-- A reader that reverses the list sees the last executions, of the exchange in
their order and of a paper client from the last to the first. -/
theorem getExecutionList_reverse (source : ExecutionSource) (symbol : String) {limit : ℕ}
    (hlimit : limit ≠ 0) :
    let window := (source.executed symbol).drop ((source.executed symbol).length - limit)
    (source.getExecutionList symbol limit).reverse =
      match source with
      | rest _ => window
      | paper _ => window.reverse := by
  intro window
  cases source with
  | rest executed =>
    change ((executed symbol).reverse.take limit).reverse = window
    rw [List.take_reverse, List.reverse_reverse]
    rfl
  | paper client =>
    change (PaperTradingClient.lastItems limit (client.executionsOf symbol)).reverse = window.reverse
    rw [PaperTradingClient.lastItems, if_neg hlimit]
    rfl

end ExecutionSource

end Botik
