import Mathlib.Algebra.Order.Field.Rat
import Botik.Storage.LifecycleStore

/-!
# The legacy tables

`orders` and `fills` of `storage/sqlite_store.py`. Both have a generated row id
and are lists. The texts in which prices and quantities are stored are kept as
the numbers they spell.

## Main definitions

* `OrderRow`, `FillRow`, `LegacyStore`
* `insertOrder`, `updateOrderStatus`, `updateOrdersEntryExitForSignal`,
  `insertFill`
-/

namespace Botik

/-- One row of `orders`. -/
structure OrderRow where
  symbol : String
  side : String
  exchangeOrderId : Option String
  orderLinkId : String
  price : ℚ
  qty : ℚ
  status : String
  entryPrice : Option ℚ
  exitPrice : Option ℚ
  updatedAtUtc : Option ℕ
  deriving DecidableEq, Repr

/-- One row of `fills`. -/
structure FillRow where
  orderLinkId : Option String
  exchangeOrderId : Option String
  symbol : String
  side : String
  price : ℚ
  qty : ℚ
  fee : ℚ
  feeCurrency : Option String
  liquidity : String
  filledAtUtc : ℕ
  deriving DecidableEq, Repr

structure LegacyStore where
  orders : List OrderRow
  fills : List FillRow

namespace LegacyStore

def empty : LegacyStore := ⟨[], []⟩

/-- `insert_order`. -/
def insertOrder (db : LegacyStore) (row : OrderRow) : LegacyStore :=
  { db with orders := db.orders ++ [row] }

/-- `update_order_status`: the exchange's id is written only where one is
given. -/
def updateOrderStatus (db : LegacyStore) (orderLinkId status : String) (updatedAtUtc : ℕ)
    (exchangeOrderId : Option String) : LegacyStore :=
  let rewrite (row : OrderRow) :=
    if row.orderLinkId = orderLinkId then
      { row with
        status := status
        updatedAtUtc := some updatedAtUtc
        exchangeOrderId := (exchangeOrderId.filter (· ≠ "")).or row.exchangeOrderId }
    else row
  { db with orders := db.orders.map rewrite }

/-- `update_orders_entry_exit_for_signal`: the orders mapped to the signal. -/
def updateOrdersEntryExitForSignal (db : LegacyStore) (lifecycle : LifecycleStore)
    (signalId : String) (entryPrice exitPrice : Option ℚ) (updatedAtUtc : ℕ) : LegacyStore :=
  let rewrite (row : OrderRow) :=
    if lifecycle.orderSignalMap.get? row.orderLinkId = some (some signalId) then
      { row with
        entryPrice := entryPrice
        exitPrice := exitPrice
        updatedAtUtc := some updatedAtUtc }
    else row
  { db with orders := db.orders.map rewrite }

/-- `insert_fill`. -/
def insertFill (db : LegacyStore) (row : FillRow) : LegacyStore :=
  { db with fills := db.fills ++ [row] }

end LegacyStore

end Botik
