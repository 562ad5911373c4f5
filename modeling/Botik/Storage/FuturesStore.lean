import Mathlib.Data.List.MinMax
import Mathlib.Data.List.Sort
import Botik.Library.Text
import Botik.Library.Upserts
import Botik.Risk.FuturesRules

/-!
# The futures tables

`storage/futures_store.py`: positions, their protection records, open orders, the
mirrored fills and the funding events. `futures_positions` and
`futures_protection_orders` are unique in account, symbol, side and index,
`futures_open_orders` in the order's link, and all are written by upserts only, so
each is a `Dict` under that key. A `utc_now_iso` text is kept as its number of
seconds, whose order is the order of the texts.

## Main definitions

* `PositionKey`, `PositionRow`, `ProtectionRow`, `FuturesStore`
* `OrderLink`, `DomainOrderRow` — what the order tables of both domains share
* `upsertFuturesPosition`, `upsertFuturesProtection`, `upsertFuturesOpenOrder`,
  `insertFuturesFill`, `insertFuturesFundingEvent`
* `FuturesStore.liveRows` — the rows of one symbol with a quantity
* `latestRow` — `ORDER BY updated_at_utc DESC LIMIT 1`
-/

namespace Botik

/-- The columns of `UNIQUE(account_type, symbol, side, position_idx)`. -/
structure PositionKey where
  accountType : String
  symbol : String
  side : String
  positionIdx : ℤ
  deriving DecidableEq, Repr

/-- The account every runtime write uses. -/
def unified : String := "UNIFIED"

/-- One row of `futures_positions`, its key apart. -/
structure PositionRow where
  marginMode : String
  leverage : Option ℚ
  qty : ℚ
  entryPrice : Option ℚ
  markPrice : Option ℚ
  liqPrice : Option ℚ
  unrealizedPnl : Option ℚ
  realizedPnl : Option ℚ
  takeProfit : Option ℚ
  stopLoss : Option ℚ
  trailingStop : Option ℚ
  protectionStatus : ProtectionStatus
  sourceOfTruth : String
  recoveredFromExchange : Bool
  strategyOwner : Option String
  updatedAtUtc : ℕ
  deriving DecidableEq, Repr

/-- One row of `futures_protection_orders`, its key and its details apart. -/
structure ProtectionRow where
  status : ProtectionStatus
  stopLoss : Option ℚ
  takeProfit : Option ℚ
  trailingStop : Option ℚ
  sourceOfTruth : String
  updatedAtUtc : ℕ
  deriving DecidableEq, Repr

/-- A mirrored fill of either domain, its `exec_id` apart. -/
structure DomainFillRow where
  symbol : String
  side : String
  orderId : Option String
  orderLinkId : Option String
  price : ℚ
  qty : ℚ
  fee : Option ℚ
  feeCurrency : Option String
  isMaker : Bool
  execTimeMs : ℤ
  deriving DecidableEq, Repr

/-- The column `order_link_id` of an order table: the link of the order, or a
generated text for an order without one. The random texts differ from each other
and from every link, so they are numbered. -/
inductive OrderLink
  | link (text : String)
  | generated (number : ℕ)
  deriving DecidableEq, Repr

def OrderLink.number : OrderLink → ℕ
  | .link _ => 0
  | .generated n => n

/-- The columns the order tables of both domains share, the link apart. -/
structure DomainOrderRow where
  accountType : String
  symbol : String
  orderId : Option String
  orderType : Option String
  timeInForce : Option String
  status : String
  strategyOwner : Option String
  updatedAtUtc : ℕ
  deriving DecidableEq, Repr

/-- What `ON CONFLICT(order_link_id) DO UPDATE` does to the shared columns. -/
def DomainOrderRow.merge (new old : DomainOrderRow) : DomainOrderRow :=
  { old with
    orderId := new.orderId.or old.orderId
    orderType := new.orderType.or old.orderType
    timeInForce := new.timeInForce.or old.timeInForce
    status := new.status
    strategyOwner := new.strategyOwner.or old.strategyOwner
    updatedAtUtc := new.updatedAtUtc }

/-- One row of `futures_open_orders`. -/
structure FuturesOrderRow extends DomainOrderRow where
  side : Option String
  price : Option ℚ
  qty : Option ℚ
  reduceOnly : Option Bool
  closeOnTrigger : Option Bool
  deriving DecidableEq, Repr

def FuturesOrderRow.merge (new old : FuturesOrderRow) : FuturesOrderRow where
  toDomainOrderRow := new.toDomainOrderRow.merge old.toDomainOrderRow
  side := new.side.or old.side
  price := new.price.or old.price
  qty := new.qty.or old.qty
  reduceOnly := new.reduceOnly.or old.reduceOnly
  closeOnTrigger := new.closeOnTrigger.or old.closeOnTrigger

/-- One row of `futures_funding_events`. -/
structure FundingEventRow where
  accountType : String
  symbol : String
  side : Option String
  positionIdx : Option ℤ
  fundingRate : Option ℚ
  fundingFee : ℚ
  fundingTimeMs : ℤ
  deriving DecidableEq, Repr

structure FuturesStore where
  positions : Dict PositionKey PositionRow
  protections : Dict PositionKey ProtectionRow
  openOrders : Dict OrderLink FuturesOrderRow
  fills : Dict String DomainFillRow
  fundingEvents : List FundingEventRow

/-- The key an order is stored under: its link, or a generated one. -/
def storedLink {ν : Type} (table : Dict OrderLink ν) (orderLinkId : Option String) : OrderLink :=
  match Text.truthy orderLinkId with
  | some link => .link link
  | none => .generated (table.freshNumber OrderLink.number)

/-- The query of `insert_futures_funding_event` for the same event. -/
def FundingEventRow.sameEvent (a b : FundingEventRow) : Bool :=
  a.accountType = b.accountType ∧ a.symbol = b.symbol ∧
    Text.orEmpty a.side = Text.orEmpty b.side ∧
    a.positionIdx.getD (-1) = b.positionIdx.getD (-1) ∧
    a.fundingTimeMs = b.fundingTimeMs ∧ a.fundingFee = b.fundingFee

namespace FuturesStore

def empty : FuturesStore := ⟨.empty, .empty, .empty, .empty, []⟩

/-- `upsert_futures_position`: the symbol is stored in upper case, and a missing
owner leaves the stored one. -/
def upsertFuturesPosition (db : FuturesStore) (key : PositionKey) (row : PositionRow) :
    FuturesStore :=
  let storedKey := { key with symbol := Text.upper key.symbol }
  let owner := row.strategyOwner.or ((db.positions.get? storedKey).bind PositionRow.strategyOwner)
  { db with positions := db.positions.set storedKey { row with strategyOwner := owner } }

/-- `upsert_futures_protection`. -/
def upsertFuturesProtection (db : FuturesStore) (key : PositionKey) (row : ProtectionRow) :
    FuturesStore :=
  { db with protections := db.protections.set { key with symbol := Text.upper key.symbol } row }

/-- `insert_futures_fill`: `ON CONFLICT(exec_id) DO NOTHING`. -/
def insertFuturesFill (db : FuturesStore) (execId : String) (row : DomainFillRow) :
    FuturesStore :=
  let stored := { row with symbol := Text.upper row.symbol, qty := max row.qty 0 }
  { db with fills := db.fills.insertIfAbsent execId stored }

/-- `upsert_futures_open_order`: a missing link is generated, and the account and the
symbol of a stored order stay. -/
def upsertFuturesOpenOrder (db : FuturesStore) (orderLinkId : Option String)
    (row : FuturesOrderRow) : FuturesStore :=
  let stored := { row with symbol := Text.upper row.symbol }
  let link := storedLink db.openOrders orderLinkId
  { db with openOrders := db.openOrders.upsert FuturesOrderRow.merge link stored }

/-- `insert_futures_funding_event`: whether the event is new, and the table with it. -/
def insertFuturesFundingEvent (db : FuturesStore) (row : FundingEventRow) : Bool × FuturesStore :=
  let stored := { row with symbol := Text.upper row.symbol }
  if db.fundingEvents.any stored.sameEvent then (false, db)
  else (true, { db with fundingEvents := db.fundingEvents ++ [stored] })

/-- `ORDER BY symbol ASC, side ASC, position_idx ASC`. -/
def listedBefore (a b : PositionKey × PositionRow) : Prop :=
  a.1.symbol < b.1.symbol ∨ a.1.symbol = b.1.symbol ∧
    (a.1.side < b.1.side ∨ a.1.side = b.1.side ∧ a.1.positionIdx ≤ b.1.positionIdx)

instance : DecidableRel listedBefore := fun _ _ => inferInstanceAs (Decidable (_ ∨ _))

/-- `list_futures_positions`: the rows of an account, of all accounts where none is
given. -/
def listFuturesPositions (db : FuturesStore) (accountType : String) :
    List (PositionKey × PositionRow) :=
  (db.positions.entries.filter fun e => accountType = "" ∨ e.1.accountType = accountType)
    |>.insertionSort listedBefore

/-- `WHERE account_type=? AND symbol=? AND ABS(COALESCE(qty, 0)) > 0`. -/
def isLive (accountType symbol : String) (entry : PositionKey × PositionRow) : Bool :=
  entry.1.accountType = accountType ∧ entry.1.symbol = symbol ∧ 0 < |entry.2.qty|

/-- The rows of one symbol that hold a quantity. -/
def liveRows (db : FuturesStore) (accountType symbol : String) :
    List (PositionKey × PositionRow) :=
  db.positions.entries.filter (isLive accountType symbol)

/-- `ORDER BY updated_at_utc DESC LIMIT 1`. The index on the symbol and the time is read backwards:
among rows of one second the one inserted last comes first. -/
def latestRow (rows : List (PositionKey × PositionRow)) : Option (PositionKey × PositionRow) :=
  rows.reverse.argmax fun e => e.2.updatedAtUtc

/-- The key a row is stored under. -/
def storedKey (key : PositionKey) : PositionKey := { key with symbol := Text.upper key.symbol }

/-- An upsert writes one row, as given except for the owner. -/
theorem get?_positions_upsertFuturesPosition (db : FuturesStore) (key : PositionKey)
    (row : PositionRow) (k : PositionKey) :
    ∃ owner, (db.upsertFuturesPosition key row).positions.get? k =
      if k = storedKey key then some { row with strategyOwner := owner }
      else db.positions.get? k :=
  ⟨_, Dict.get?_set _ _ _ _⟩

theorem get?_protections_upsertFuturesProtection (db : FuturesStore) (key : PositionKey)
    (row : ProtectionRow) (k : PositionKey) :
    (db.upsertFuturesProtection key row).protections.get? k =
      if k = storedKey key then some row else db.protections.get? k :=
  Dict.get?_set _ _ _ _

end FuturesStore

end Botik
