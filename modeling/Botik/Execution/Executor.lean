import Mathlib.Algebra.Order.Field.Rat
import Botik.Library.Text

/-!
# Executors

What the runtime knows of the object that talks to the exchange: which calls it
has, which capabilities it claims, and the form of its answers. The answers
themselves belong to the environment of a step.

## Main definitions

* `MarketCategory`
* `Executor`, `executorSupportsCapability`
* `ApiReply`, `Attempt`, `Attempt.accepted`
* `OrderRequest`, `OrderReply` — an order and its answer
* `ExecutionItem`, `PositionItem` — the items of the two list answers
-/

namespace Botik

/-- `runtime_market_category`. -/
inductive MarketCategory
  | spot
  | linear
  deriving DecidableEq, Repr

/-- The static side of an executor. -/
structure Executor where
  /-- The `capabilities` dictionary. -/
  capabilities : String → Option Bool
  /-- The attributes `supports_<capability>`. -/
  supportsAttribute : String → Option Bool
  /-- The names that are callable attributes. -/
  callables : List String
  /-- `get_symbol_min_qty`; `none` when it is missing, raises or has no answer. -/
  getSymbolMinQty : String → Option ℚ
  /-- `get_symbol_min_notional_quote`, likewise. -/
  getSymbolMinNotionalQuote : String → Option ℚ

/-- `BybitRestClient`: no claims, all calls. The lot limits come from the
exchange. -/
def bybitRestClient (minQty minNotionalQuote : String → Option ℚ) : Executor where
  capabilities := fun _ => none
  supportsAttribute := fun _ => none
  callables := ["get_wallet_balance", "get_open_orders", "get_execution_list", "get_positions",
    "set_trading_stop"]
  getSymbolMinQty := minQty
  getSymbolMinNotionalQuote := minNotionalQuote

/-- `executor_supports_capability`. -/
def executorSupportsCapability (executor : Option Executor) (capability : String)
    (marketCategory : MarketCategory) : Bool :=
  match executor with
  | none => false
  | some executor =>
    let capabilityKey := Text.lower (Text.strip capability)
    if capabilityKey = "" then false
    else
      match executor.capabilities capabilityKey, executor.supportsAttribute capabilityKey with
      | some claimed, _ => claimed
      | none, some claimed => claimed
      | none, none =>
        if capabilityKey = "reconciliation" then
          ["get_wallet_balance", "get_open_orders", "get_execution_list"].all
              (· ∈ executor.callables) &&
            (marketCategory ≠ .linear || "get_positions" ∈ executor.callables)
        else if capabilityKey = "protection" then
          ["set_trading_stop", "get_positions"].all (· ∈ executor.callables)
        else if capabilityKey = "positions" then "get_positions" ∈ executor.callables
        else if capabilityKey = "wallet_balance" then "get_wallet_balance" ∈ executor.callables
        else if capabilityKey = "trading_stop" then "set_trading_stop" ∈ executor.callables
        else false

/-! ### Answers -/

/-- The head of every answer. -/
structure ApiReply where
  retCode : Option ℤ
  retMsg : Option String
  deriving DecidableEq, Repr

/-- The outcome of a call: an answer, or the text of a raised exception. -/
abbrev Attempt := Except String ApiReply

/-- The call answered `retCode` 0. -/
def Attempt.accepted : Attempt → Bool
  | .ok reply => reply.retCode = some 0
  | .error _ => false

/-- The answer to an order, with the id the exchange gave it. -/
structure OrderReply extends ApiReply where
  orderId : Option String
  deriving DecidableEq, Repr

/-- The order was refused because its quantity cannot be normalized. -/
def ApiReply.isInvalidQty (reply : ApiReply) : Bool :=
  reply.retCode = some (-2) ∧ reply.retMsg = some "invalid_qty_after_normalization"

/-- The arguments of `place_order`; price and quantity are the numbers their texts spell. -/
structure OrderRequest where
  symbol : String
  side : String
  qty : ℚ
  price : ℚ
  orderLinkId : String
  timeInForce : String
  orderType : String
  deriving DecidableEq, Repr

/-- One item of `get_execution_list`: the fields of the JSON object, absent or
null ones `none`, numbers and flags by their texts. -/
structure ExecutionItem where
  symbol : Option String
  side : Option String
  orderId : Option String
  orderLinkId : Option String
  orderType : Option String
  execId : Option String
  execQty : Option String
  qty : Option String
  execPrice : Option String
  price : Option String
  execValue : Option String
  execFee : Option String
  feeRate : Option String
  feeCurrency : Option String
  isMaker : Option String
  execTime : Option String
  deriving DecidableEq, Repr

/-- One item of `get_positions`. -/
structure PositionItem where
  symbol : Option String
  side : Option String
  positionIdx : Option String
  size : Option String
  qty : Option String
  stopLoss : Option String
  takeProfit : Option String
  trailingStop : Option String
  deriving DecidableEq, Repr

/-- The answer of `get_positions`: its head and its list, empty where there is
none. -/
structure PositionsReply where
  reply : ApiReply
  list : List PositionItem

/-- The answer of `get_execution_list`, likewise. -/
structure ExecutionsReply where
  reply : ApiReply
  list : List ExecutionItem

/-- One coin of `get_wallet_balance`. -/
structure CoinBalance where
  coin : Option String
  walletBalance : Option String

/-- The answer of `get_wallet_balance`: its head and the coins of all accounts. -/
structure WalletReply where
  reply : ApiReply
  coins : List CoinBalance

end Botik
