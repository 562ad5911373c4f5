import Mathlib.Data.String.Basic
import Botik.Execution.Executor
import Botik.Storage.SpotStore
import Botik.Risk.FuturesRules
import Botik.Risk.Position
import Botik.Storage.FuturesStore

/-!
# The gates of an order

`risk/spot_rules.py` and `_spot_sell_blocked_by_hold_policy` of `main.py`: a holding that was
imported by hand or recovered from the exchange is not sold without leave.

`get_futures_blocking_protection_status`, `evaluate_futures_symbol_risk` and
`futures_entry_risk_gate` of `main.py`: two queries for the row of a symbol that
was updated last, and the checks of the entry path on what they find.

## Main definitions

* `canAutoSellHold`
* `spotSellBlockedByHoldPolicy` — the verdict on a sell order, and the reason of the holding
* `getFuturesBlockingProtectionStatus`
* `FuturesRiskView`, `evaluateFuturesSymbolRisk`, `futuresEntryRiskGate`
* `linearEntryRejection` — the checks in the order of the entry path
* `RowAtRisk` — what the risk gate refuses, in the numbers of the row

## Main results

* `spotSellBlocked_iff_of_only` — the verdict where a symbol has one holding
* `futuresEntryRiskGate_allows_iff`, `getFuturesBlockingProtectionStatus_eq_none_iff`
-/

namespace Botik

/-! ### The hold policy -/

/-- `PROTECTED_HOLD_REASONS`. -/
def protectedHoldReasons : List String := ["manual_import", "unknown_recovered_from_exchange"]

/-- `can_auto_sell_hold`. -/
def canAutoSellHold (holdReason : String) (autoSellAllowed : Bool) : Bool :=
  autoSellAllowed || decide (Text.strip holdReason ∉ protectedHoldReasons)

/-- The quantity of a holding. -/
def HoldingRow.qty (row : HoldingRow) : ℚ := row.freeQty + row.lockedQty

/-- `WHERE account_type='UNIFIED' AND symbol=? LIMIT 1`: the unique index on the account, the symbol
and the asset is read, so the smallest asset comes first. -/
def SpotStore.holdingOf (db : SpotStore) (symbol : String) : Option (HoldingKey × HoldingRow) :=
  (db.holdings.entries.filter fun e => e.1.accountType = unified ∧ e.1.symbol = symbol).argmin
    fun e => e.1.baseAsset

/-- A holding that is protected from sales. -/
def HoldingRow.isProtected (row : HoldingRow) : Bool :=
  0 < row.qty && !canAutoSellHold row.holdReason row.autoSellAllowed

/-- `_spot_sell_blocked_by_hold_policy`. -/
def spotSellBlockedByHoldPolicy (marketCategory : MarketCategory) (db : SpotStore)
    (symbol side : String) : Bool × String :=
  if marketCategory ≠ .spot then (false, "")
  else if Text.lower (Text.strip side) ≠ "sell" then (false, "")
  else
    match db.holdingOf (Text.upper symbol) with
    | none => (false, "")
    | some (_, row) => if row.isProtected then (true, row.holdReason) else (false, "")

/-- Where a symbol has one holding, its sales are blocked exactly if that is protected. -/
theorem spotSellBlocked_iff_of_only {db : SpotStore} {symbol side : String} {key : HoldingKey}
    {row : HoldingRow} (hside : Text.lower (Text.strip side) = "sell")
    (hget : db.holdings.get? key = some row) (haccount : key.accountType = unified)
    (hsymbol : key.symbol = Text.upper symbol)
    (honly : ∀ key' row', db.holdings.get? key' = some row' → key'.accountType = unified →
      key'.symbol = Text.upper symbol → key' = key) :
    (spotSellBlockedByHoldPolicy .spot db symbol side).1 = true ↔ row.isProtected = true := by
  have hrow : db.holdingOf (Text.upper symbol) = some (key, row) := by
    unfold SpotStore.holdingOf
    rw [Dict.filter_entries_eq_singleton hget (decide_eq_true ⟨haccount, hsymbol⟩)]
    · rfl
    · intro key' row' hget' hselected
      obtain ⟨haccount', hsymbol'⟩ := of_decide_eq_true hselected
      exact honly key' row' hget' haccount' hsymbol'
  unfold spotSellBlockedByHoldPolicy
  rw [if_neg (by simp), if_neg (by simp [hside]), hrow]
  dsimp only
  split_ifs with hprotected <;> simp [hprotected]

/-! ### The gates of a futures entry -/

open FuturesStore

/-- `get_futures_blocking_protection_status`. -/
def getFuturesBlockingProtectionStatus (db : FuturesStore) (symbol accountType : String) :
    Option ProtectionStatus :=
  match latestRow (db.liveRows accountType (Text.upper symbol)) with
  | none => none
  | some (_, row) => if row.protectionStatus.isBlocking then some row.protectionStatus else none

/-! ### The risk view -/

/-- A price that is known and usable. -/
def usablePrice (price : Option ℚ) : Option ℚ := price.filter (0 < ·)

/-- The mark price of a row, else the one the caller has. -/
def riskMarkPrice (fallbackMarkPrice : Option ℚ) (row : PositionRow) : Option ℚ :=
  (usablePrice row.markPrice).or (usablePrice fallbackMarkPrice)

/-- The quantity of a row with the sign of its side. -/
def signedRowQty (side : String) (row : PositionRow) : ℚ :=
  if Text.lower (Text.strip side) = "buy" ∨ Text.lower (Text.strip side) = "long" then |row.qty|
  else -|row.qty|

/-- The profit of a row at the mark, where entry and mark are known. -/
def rowPnlPct (fallbackMarkPrice : Option ℚ) (side : String) (row : PositionRow) : Option ℚ :=
  match usablePrice row.entryPrice, riskMarkPrice fallbackMarkPrice row with
  | some entry, some mark => unrealizedPnlPct (signedRowQty side row) entry mark
  | _, _ => none

/-- The distance of a row to its liquidation at the mark. -/
def rowDistanceToLiqBps (fallbackMarkPrice : Option ℚ) (side : String) (row : PositionRow) :
    Option ℚ :=
  computeDistanceToLiqBps side (riskMarkPrice fallbackMarkPrice row) (usablePrice row.liqPrice)

/-- The answer of `evaluate_futures_symbol_risk`; without a row there is neither a
status nor a time. -/
structure FuturesRiskView where
  symbol : String
  riskState : FuturesRiskState
  protectionStatus : Option ProtectionStatus
  distanceToLiqBps : Option ℚ
  unrealizedPnlPct : Option ℚ
  positionSide : String
  positionQty : ℚ
  entryPrice : Option ℚ
  markPrice : Option ℚ
  liqPrice : Option ℚ
  updatedAtUtc : Option ℕ
  deriving DecidableEq, Repr

/-- What the selected row says about the risk of a symbol. -/
def riskViewOfRow (symbolU : String) (fallbackMarkPrice : Option ℚ) :
    Option (PositionKey × PositionRow) → FuturesRiskView
  | none => ⟨symbolU, .unknown, none, none, none, "", 0, none, none, none, none⟩
  | some (key, row) =>
    let pnlPct := rowPnlPct fallbackMarkPrice key.side row
    let distance := rowDistanceToLiqBps fallbackMarkPrice key.side row
    { symbol := symbolU
      riskState := classifyFuturesState row.protectionStatus pnlPct distance
      protectionStatus := some row.protectionStatus
      distanceToLiqBps := distance
      unrealizedPnlPct := pnlPct
      positionSide := key.side
      positionQty := |row.qty|
      entryPrice := usablePrice row.entryPrice
      markPrice := riskMarkPrice fallbackMarkPrice row
      liqPrice := usablePrice row.liqPrice
      updatedAtUtc := some row.updatedAtUtc }

/-- `evaluate_futures_symbol_risk`. -/
def evaluateFuturesSymbolRisk (db : FuturesStore) (symbol accountType : String)
    (fallbackMarkPrice : Option ℚ) : FuturesRiskView :=
  let symbolU := Text.strip (Text.upper symbol)
  riskViewOfRow symbolU fallbackMarkPrice (latestRow (db.liveRows accountType symbolU))

/-- `futures_entry_risk_gate`: the verdict, its reason and the view. -/
def futuresEntryRiskGate (db : FuturesStore) (symbol accountType : String)
    (fallbackMarkPrice : Option ℚ) : Bool × String × FuturesRiskView :=
  let riskView := evaluateFuturesSymbolRisk db symbol accountType fallbackMarkPrice
  if riskView.riskState.isEntryBlocking then
    (false, "symbol_risk_state_" ++ riskView.riskState.text, riskView)
  else (true, "ok", riskView)

/-- Why the entry path rejects an intent: the risk gate, a blocking status, or the
stop and take of the intent. -/
def linearEntryRejection (db : FuturesStore) (symbol : String) (gateMarkPrice : Option ℚ)
    (stopLossPct takeProfitPct : ℚ) : Option String :=
  let gate := futuresEntryRiskGate db symbol unified gateMarkPrice
  if ¬ gate.1 then some gate.2.1
  else
    match getFuturesBlockingProtectionStatus db (Text.upper symbol) unified with
    | some status => some ("symbol_has_blocking_protection_status:" ++ status.text)
    | none => futuresEntryAllowed (some stopLossPct) (some takeProfitPct) false

/-! ### What the gates refuse -/

/-- The risk gate refuses this row: by its status, by its distance to liquidation
or by its loss. -/
def RowAtRisk (fallbackMarkPrice : Option ℚ) (e : PositionKey × PositionRow) : Prop :=
  e.2.protectionStatus ∈ [.unprotected, .failed, .repairing] ∨
    (∃ distance ∈ rowDistanceToLiqBps fallbackMarkPrice e.1.side e.2, distance ≤ 50) ∨
    ∃ pnl ∈ rowPnlPct fallbackMarkPrice e.1.side e.2, pnl < -(3 / 100)

/-- The status query answers nothing exactly if the latest row does not block. -/
theorem getFuturesBlockingProtectionStatus_eq_none_iff {db : FuturesStore}
    {symbol accountType : String} :
    getFuturesBlockingProtectionStatus db symbol accountType = none ↔
      ∀ e ∈ latestRow (db.liveRows accountType (Text.upper symbol)),
        e.2.protectionStatus.isBlocking = false := by
  unfold getFuturesBlockingProtectionStatus
  cases latestRow (db.liveRows accountType (Text.upper symbol)) with
  | none => simp
  | some e => simp

/-- The risk gate lets through exactly if the latest row is not at risk. -/
theorem futuresEntryRiskGate_allows_iff {db : FuturesStore} {symbol accountType : String}
    {fallbackMarkPrice : Option ℚ} :
    (futuresEntryRiskGate db symbol accountType fallbackMarkPrice).1 = true ↔
      ∀ e ∈ latestRow (db.liveRows accountType (Text.strip (Text.upper symbol))),
        ¬ RowAtRisk fallbackMarkPrice e := by
  have hgate : (futuresEntryRiskGate db symbol accountType fallbackMarkPrice).1 = true ↔
      (evaluateFuturesSymbolRisk db symbol accountType
        fallbackMarkPrice).riskState.isEntryBlocking = false := by
    unfold futuresEntryRiskGate
    dsimp only
    split_ifs with h <;> simp [h]
  rw [hgate]
  unfold evaluateFuturesSymbolRisk
  dsimp only
  cases latestRow (db.liveRows accountType (Text.strip (Text.upper symbol))) with
  | none => simp [riskViewOfRow, FuturesRiskState.isEntryBlocking]
  | some e =>
    have hrisk := isEntryBlocking_classifyFuturesState_iff e.2.protectionStatus
      (rowPnlPct fallbackMarkPrice e.1.side e.2)
      (rowDistanceToLiqBps fallbackMarkPrice e.1.side e.2)
    simp only [riskViewOfRow, Option.mem_some_iff, forall_eq']
    rw [RowAtRisk, ← hrisk, Bool.not_eq_true]

end Botik
