import Mathlib.Algebra.Order.Field.Rat
import Botik.Library.Dict
import Botik.Library.Text
import Botik.Storage.FuturesStore

/-!
# The spot tables

`storage/spot_store.py`: balances, unique in account and asset, holdings, unique in
account, symbol and base asset, orders, unique in their link, and the mirrored fills.

## Main definitions

* `HoldingKey`, `HoldingRow`, `BalanceRow`, `SpotOrderRow`, `SpotStore`
* `upsertSpotBalance`, `upsertSpotHolding`, `upsertSpotOrder`, `insertSpotFill`
* `listSpotHoldings`
-/

namespace Botik

/-- The columns of `UNIQUE(account_type, symbol, base_asset)`. -/
structure HoldingKey where
  accountType : String
  symbol : String
  baseAsset : String
  deriving DecidableEq, Repr

/-- One row of `spot_holdings`, its key apart. -/
structure HoldingRow where
  freeQty : ℚ
  lockedQty : ℚ
  avgEntryPrice : Option ℚ
  holdReason : String
  sourceOfTruth : String
  recoveredFromExchange : Bool
  strategyOwner : Option String
  autoSellAllowed : Bool
  updatedAtUtc : ℕ
  deriving DecidableEq, Repr

/-- One row of `spot_balances`, its account and asset apart. -/
structure BalanceRow where
  freeQty : ℚ
  lockedQty : ℚ
  totalQty : ℚ
  sourceOfTruth : String
  updatedAtUtc : ℕ
  deriving DecidableEq, Repr

/-- One row of `spot_orders`. -/
structure SpotOrderRow extends DomainOrderRow where
  side : String
  price : ℚ
  qty : ℚ
  filledQty : ℚ
  deriving DecidableEq, Repr

/-- What `ON CONFLICT(order_link_id) DO UPDATE` does; the side of a stored order stays. -/
def SpotOrderRow.merge (new old : SpotOrderRow) : SpotOrderRow where
  toDomainOrderRow := new.toDomainOrderRow.merge old.toDomainOrderRow
  side := old.side
  price := new.price
  qty := new.qty
  filledQty := new.filledQty

structure SpotStore where
  balances : Dict (String × String) BalanceRow
  holdings : Dict HoldingKey HoldingRow
  orders : Dict OrderLink SpotOrderRow
  fills : Dict String DomainFillRow

namespace SpotStore

def empty : SpotStore := ⟨.empty, .empty, .empty, .empty⟩

/-- `upsert_spot_balance`, with the total it computes. -/
def upsertSpotBalance (db : SpotStore) (accountType asset : String) (freeQty lockedQty : ℚ)
    (sourceOfTruth : String) (utc : ℕ) : SpotStore :=
  let stored : BalanceRow :=
    { freeQty := max freeQty 0
      lockedQty := max lockedQty 0
      totalQty := max freeQty 0 + max lockedQty 0
      sourceOfTruth := sourceOfTruth
      updatedAtUtc := utc }
  { db with balances := db.balances.set (accountType, Text.upper asset) stored }

/-- `upsert_spot_holding`: a missing average price or owner leaves the stored
one. -/
def upsertSpotHolding (db : SpotStore) (key : HoldingKey) (row : HoldingRow) : SpotStore :=
  let storedKey :=
    { key with symbol := Text.upper key.symbol, baseAsset := Text.upper key.baseAsset }
  let old := db.holdings.get? storedKey
  let stored := { row with
    freeQty := max row.freeQty 0
    lockedQty := max row.lockedQty 0
    avgEntryPrice := row.avgEntryPrice.or (old.bind HoldingRow.avgEntryPrice)
    strategyOwner := row.strategyOwner.or (old.bind HoldingRow.strategyOwner) }
  { db with holdings := db.holdings.set storedKey stored }

/-- `list_spot_holdings`: the rows of an account, of all accounts where none is given. -/
def listSpotHoldings (db : SpotStore) (accountType : String) : List (HoldingKey × HoldingRow) :=
  (db.holdings.entries.filter fun e => accountType = "" ∨ e.1.accountType = accountType)
    |>.insertionSort fun a b => a.1.symbol ≤ b.1.symbol

/-- `upsert_spot_order`: a missing link is generated, and the account, the symbol and the
side of a stored order stay. -/
def upsertSpotOrder (db : SpotStore) (orderLinkId : Option String) (row : SpotOrderRow) :
    SpotStore :=
  let stored := { row with
    symbol := Text.upper row.symbol
    qty := max row.qty 0
    filledQty := max row.filledQty 0 }
  let link := storedLink db.orders orderLinkId
  { db with orders := db.orders.upsert SpotOrderRow.merge link stored }

/-- `insert_spot_fill`: `ON CONFLICT(exec_id) DO NOTHING`. -/
def insertSpotFill (db : SpotStore) (execId : String) (row : DomainFillRow) : SpotStore :=
  let stored := { row with symbol := Text.upper row.symbol, qty := max row.qty 0 }
  { db with fills := db.fills.insertIfAbsent execId stored }

end SpotStore

end Botik
