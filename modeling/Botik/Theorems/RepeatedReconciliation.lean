import Botik.Execution.RepeatedWallet
import Botik.Theorems.VanishedPositions

/-!
# Reconciling twice with the same answers

The rows of the second run are those of the first, with two exceptions. An order without a link
gets a new row in every run. And a position that was unknown is recorded as recovered by the run
that finds it, and as not recovered by the next one.

## Main definitions

* `SameTables` — the same rows in all tables the reconciliation writes, times apart
* `LinkedOrders`, `KnownPositions` — neither exception applies

## Main results

* `sameTables_iff` — two runs in a row with the same successful answers
-/

namespace Botik

open Runs Upserts

def PositionRow.untimed (row : PositionRow) : PositionRow := { row with updatedAtUtc := 0 }

def ProtectionRow.untimed (row : ProtectionRow) : ProtectionRow := { row with updatedAtUtc := 0 }

def BalanceRow.untimed (row : BalanceRow) : BalanceRow := { row with updatedAtUtc := 0 }

/-- The same rows in the tables of open orders, positions, protections, balances and holdings,
times apart. -/
structure SameTables (w w' : World) : Prop where
  futuresOrders : Dict.SameRows FuturesOrderRow.untimed w.futures.openOrders w'.futures.openOrders
  spotOrders : Dict.SameRows SpotOrderRow.untimed w.spot.orders w'.spot.orders
  positions : Dict.SameRows PositionRow.untimed w.futures.positions w'.futures.positions
  protections : Dict.SameRows ProtectionRow.untimed w.futures.protections w'.futures.protections
  balances : Dict.SameRows BalanceRow.untimed w.spot.balances w'.spot.balances
  holdings : Dict.SameRows HoldingRow.untimed w.spot.holdings w'.spot.holdings

/-- Every stored order that is missing on the exchange was so before. -/
def NoneMarked (svc : ReconciliationService) (w w' : World) : Prop :=
  ∀ link row, (link, row) ∈ svc.domainOrders w' → row.status = "MissingOnExchange" →
    ∃ row', (link, row') ∈ svc.domainOrders w ∧ row'.status = "MissingOnExchange"

/-- Every listed order with a symbol has a link. -/
def LinkedOrders (orders : List OpenOrderItem) : Prop :=
  ∀ order ∈ orders, order.symbolU ≠ "" → order.linkId ≠ ""

/-- Every listed position is stored with a quantity, where positions are compared. -/
def KnownPositions (svc : ReconciliationService) (items : List ExchangePosition) (w : World) :
    Prop :=
  svc.marketCategory = .linear → ∀ item ∈ items, item.isHeld = true →
    item.localKey ∈ svc.localKeys w

section Orders

variable {svc : ReconciliationService} {orders : List OpenOrderItem} {w w₁ w₂ : World}
  {info₁ info₂ : RunInfo}

theorem linkedOrders_iff : LinkedOrders orders ↔
    ∀ order ∈ namedOrders orders, order.linkId ≠ "" := by
  unfold LinkedOrders namedOrders
  simp only [List.mem_filter, decide_eq_true_eq, and_imp]

/-- The order tables stay if and only if the listed orders have links. -/
theorem sameOrders_iff
    (h₁ : (w₁.futures.openOrders, w₁.spot.orders) = svc.reconciledOrders info₁ orders w)
    (h₂ : (w₂.futures.openOrders, w₂.spot.orders) = svc.reconciledOrders info₂ orders w₁) :
    (Dict.SameRows FuturesOrderRow.untimed w₁.futures.openOrders w₂.futures.openOrders ∧
      Dict.SameRows SpotOrderRow.untimed w₁.spot.orders w₂.spot.orders) ↔
        LinkedOrders orders := by
  rw [linkedOrders_iff]
  unfold ReconciliationService.reconciledOrders at h₁ h₂
  cases hcategory : svc.marketCategory with
  | linear =>
    rw [hcategory] at h₁ h₂
    obtain ⟨hfutures₁, -⟩ := Prod.mk.inj h₁
    obtain ⟨hfutures₂, hspot₂⟩ := Prod.mk.inj h₂
    rw [hspot₂, hfutures₂, and_iff_left (Dict.SameRows.refl _ _)]
    constructor
    · intro hsame order hmem hlink
      exact OrderTable.not_sameRows_of_unlinked hmem hlink _ hsame
    · intro hlinked
      rw [hfutures₁]
      exact OrderTable.sameRows_reconcile (svc.futuresOrders info₂)
        (lawful_futuresOrders svc info₁) rfl rfl (fun _ => rfl) hlinked _
  | spot =>
    rw [hcategory] at h₁ h₂
    obtain ⟨-, hspot₁⟩ := Prod.mk.inj h₁
    obtain ⟨hfutures₂, hspot₂⟩ := Prod.mk.inj h₂
    rw [hspot₂, hfutures₂, and_iff_right (Dict.SameRows.refl _ _)]
    constructor
    · intro hsame order hmem hlink
      exact OrderTable.not_sameRows_of_unlinked hmem hlink _ hsame
    · intro hlinked
      rw [hspot₁]
      exact OrderTable.sameRows_reconcile (svc.spotOrders info₂)
        (lawful_spotOrders svc info₁) rfl rfl (fun _ => rfl) hlinked _

/-- Where the order tables stay, no order is marked. -/
theorem noneMarked_of_sameTables (h : SameTables w₁ w₂) : NoneMarked svc w₁ w₂ := by
  intro link row hmem hstatus
  unfold ReconciliationService.domainOrders at hmem ⊢
  cases hcategory : svc.marketCategory with
  | linear =>
    rw [hcategory] at hmem
    obtain ⟨⟨k, order⟩, hentry, heq⟩ := List.mem_map.mp hmem
    obtain ⟨rfl, rfl⟩ := Prod.mk.inj heq
    have hsame := h.futuresOrders k
    rw [Dict.mem_entries_iff.mp hentry] at hsame
    obtain ⟨order', hget, huntimed⟩ := Option.map_eq_some_iff.mp hsame.symm
    have hkept : order'.status = order.status := congrArg (fun row => row.status) huntimed
    exact ⟨order'.toDomainOrderRow, List.mem_map.mpr ⟨(k, order'), Dict.mem_entries_iff.mpr hget,
      rfl⟩, hkept.trans hstatus⟩
  | spot =>
    rw [hcategory] at hmem
    obtain ⟨⟨k, order⟩, hentry, heq⟩ := List.mem_map.mp hmem
    obtain ⟨rfl, rfl⟩ := Prod.mk.inj heq
    have hsame := h.spotOrders k
    rw [Dict.mem_entries_iff.mp hentry] at hsame
    obtain ⟨order', hget, huntimed⟩ := Option.map_eq_some_iff.mp hsame.symm
    have hkept : order'.status = order.status := congrArg (fun row => row.status) huntimed
    exact ⟨order'.toDomainOrderRow, List.mem_map.mpr ⟨(k, order'), Dict.mem_entries_iff.mpr hget,
      rfl⟩, hkept.trans hstatus⟩

end Orders

section Positions

variable {svc : ReconciliationService} {items : List ExchangePosition} {w w₁ w₂ : World}
  {info₁ info₂ : RunInfo}

/-- The listed positions are known after a run. -/
theorem localKey_mem_after
    (h₁ : w₁.futures.positions = Dict.upsertAll PositionRow.merge
      (svc.positionRows info₁ (svc.localKeys w) items) w.futures.positions)
    {item : ExchangePosition} (hitem : item ∈ items) (hheld : item.isHeld = true) :
    item.localKey ∈ svc.localKeys w₁ := by
  have hrows : ∀ row, (svc.positionKey item, row) ∈
      svc.positionRows info₁ (svc.localKeys w) items → row.qty ≠ 0 := by
    intro row hmem
    obtain ⟨item', hmem', heq⟩ := List.mem_map.mp hmem
    obtain ⟨-, rfl⟩ := Prod.mk.inj heq
    exact ne_zero_of_isHeld (mem_heldPositions.mp hmem').2
  have hmerge : ∀ new old : PositionRow, new.qty ≠ 0 → (new.merge old).qty ≠ 0 :=
    fun _ _ h => h
  have hwritten : ∃ row, (svc.positionKey item, row) ∈
      svc.positionRows info₁ (svc.localKeys w) items :=
    ⟨_, List.mem_map_of_mem (mem_heldPositions.mpr ⟨hitem, hheld⟩)⟩
  obtain ⟨row, hget, hqty⟩ :=
    Dict.exists_get?_upsertAll_of_forall hmerge hrows hwritten w.futures.positions
  rw [← h₁] at hget
  have hlocal := mem_localKeys (w := w₁) ((heldQty_of_get? hget).trans_ne hqty) (Or.inr rfl)
  rwa [localKey_positionKey] at hlocal

/-- The flag of the row of a listed position after a run. -/
theorem recovered_after
    (h₁ : w₁.futures.positions = Dict.upsertAll PositionRow.merge
      (svc.positionRows info₁ (svc.localKeys w) items) w.futures.positions)
    {item : ExchangePosition} (hitem : item ∈ items) (hheld : item.isHeld = true) :
    ∃ row, w₁.futures.positions.get? (svc.positionKey item) = some row ∧
      row.recoveredFromExchange = decide (item.localKey ∉ svc.localKeys w) := by
  have hrows : ∀ row, (svc.positionKey item, row) ∈
      svc.positionRows info₁ (svc.localKeys w) items →
        row.recoveredFromExchange = decide (item.localKey ∉ svc.localKeys w) := by
    intro row hmem
    obtain ⟨item', -, heq⟩ := List.mem_map.mp hmem
    obtain ⟨hkey, rfl⟩ := Prod.mk.inj heq
    have hlocal : item'.localKey = item.localKey := by
      rw [← localKey_positionKey svc item', hkey, localKey_positionKey]
    rw [← hlocal]
    rfl
  have hmerge : ∀ new old : PositionRow,
      new.recoveredFromExchange = decide (item.localKey ∉ svc.localKeys w) →
        (new.merge old).recoveredFromExchange = decide (item.localKey ∉ svc.localKeys w) :=
    fun _ _ h => h
  rw [h₁]
  exact Dict.exists_get?_upsertAll_of_forall hmerge hrows
    ⟨_, List.mem_map_of_mem (mem_heldPositions.mpr ⟨hitem, hheld⟩)⟩ w.futures.positions

/-- The positions stay if and only if the listed ones were known at the start. -/
theorem samePositions_iff
    (h₁ : w₁.futures.positions = Dict.upsertAll PositionRow.merge
      (svc.positionRows info₁ (svc.localKeys w) items) w.futures.positions)
    (h₂ : w₂.futures.positions = Dict.upsertAll PositionRow.merge
      (svc.positionRows info₂ (svc.localKeys w₁) items) w₁.futures.positions) :
    Dict.SameRows PositionRow.untimed w₁.futures.positions w₂.futures.positions ↔
      ∀ item ∈ items, item.isHeld = true → item.localKey ∈ svc.localKeys w := by
  constructor
  · intro hsame item hitem hheld
    by_contra hunknown
    obtain ⟨row₁, hget₁, hrecovered₁⟩ := recovered_after h₁ hitem hheld
    obtain ⟨row₂, hget₂, hrecovered₂⟩ := recovered_after h₂ hitem hheld
    have hrow := hsame (svc.positionKey item)
    rw [hget₁, hget₂] at hrow
    have hsome : some row₂.untimed = some row₁.untimed := hrow
    have huntimed : row₂.untimed = row₁.untimed := Option.some.inj hsome
    -- an unknown position is flagged as recovered, but not the second time
    have hflag : row₂.untimed.recoveredFromExchange = row₁.untimed.recoveredFromExchange :=
      congrArg PositionRow.recoveredFromExchange huntimed
    change row₂.recoveredFromExchange = row₁.recoveredFromExchange at hflag
    rw [hrecovered₁, hrecovered₂] at hflag
    have hknown := localKey_mem_after h₁ hitem hheld
    simp [hunknown, hknown] at hflag
  · intro hknown
    have hrows : (svc.positionRows info₂ (svc.localKeys w₁) items).map
        (Prod.map id PositionRow.untimed) =
          (svc.positionRows info₁ (svc.localKeys w) items).map (Prod.map id PositionRow.untimed) := by
      unfold ReconciliationService.positionRows
      rw [List.map_map, List.map_map]
      apply List.map_congr_left
      intro item hmem
      obtain ⟨hitem, hheld⟩ := mem_heldPositions.mp hmem
      -- known before and after, so the flag is the same
      have hbefore : decide (item.localKey ∉ svc.localKeys w) = false := by
        simpa using hknown item hitem hheld
      have hafter : decide (item.localKey ∉ svc.localKeys w₁) = false := by
        simpa using localKey_mem_after h₁ hitem hheld
      rw [Function.comp_apply, Function.comp_apply, hbefore, hafter]
      rfl
    have hsame := Dict.sameRows_upsertAll merging_positionRow (fun _ _ => rfl) hrows
      w.futures.positions
    rw [← h₁, ← h₂] at hsame
    exact hsame

end Positions

/-! ### Two runs -/

section Runs

variable {svc : ReconciliationService} {answers : Answers} {coins : List WalletCoin}
  {orders : List OpenOrderItem} {items : List ExchangePosition}

/-- The answers, at another time. -/
def Answers.at (answers : Answers) (utc : ℕ) : Answers := { answers with utc := utc }

theorem Answers.Successful.at (h : answers.Successful coins orders items) (utc : ℕ) :
    (answers.at utc).Successful coins orders items :=
  ⟨h.wallet, h.openOrders, h.executions, h.positions⟩

/-- The balances and the holdings stay. -/
theorem sameWallet {r₁ r₂ : ReconRun} {w : World} (hsvc : r₂.svc = r₁.svc)
    (h₁ : r₁.answers.Successful coins orders items)
    (h₂ : r₂.answers.Successful coins orders items) :
    Dict.SameRows BalanceRow.untimed (reconStep r₁ w).spot.balances
        (reconStep r₂ (reconStep r₁ w)).spot.balances ∧
      Dict.SameRows HoldingRow.untimed (reconStep r₁ w).spot.holdings
        (reconStep r₂ (reconStep r₁ w)).spot.holdings := by
  have hfirst := h₁.walletPart_eq (w := w)
  have hsecond := h₂.walletPart_eq (w := reconStep r₁ w)
  have hbalances₁ : (reconStep r₁ w).spot.balances = _ := congrArg Prod.fst hfirst
  have hbalances₂ : (reconStep r₂ (reconStep r₁ w)).spot.balances = _ := congrArg Prod.fst hsecond
  have hholdings₁ : (reconStep r₁ w).spot.holdings = _ := congrArg Prod.snd hfirst
  have hholdings₂ : (reconStep r₂ (reconStep r₁ w)).spot.holdings = _ := congrArg Prod.snd hsecond
  dsimp only at hbalances₁ hbalances₂ hholdings₁ hholdings₂
  rw [hsvc] at hbalances₂ hholdings₂
  constructor
  · have hrows : (r₁.svc.balanceRows (r₂.info (reconStep r₁ w)) coins).map
        (Prod.map id BalanceRow.untimed) =
          (r₁.svc.balanceRows (r₁.info w) coins).map (Prod.map id BalanceRow.untimed) := by
      unfold ReconciliationService.balanceRows
      rw [List.map_map, List.map_map]
      rfl
    have hsame := Dict.sameRows_upsertAll merging_balanceRow (fun _ _ => rfl) hrows
      w.spot.balances
    rw [← hbalances₁, ← hbalances₂] at hsame
    exact hsame
  · rw [hholdings₂]
    exact sameRows_holdings hholdings₁

/-- The positions and protections stay if and only if the listed positions were known. -/
theorem sameFutures_iff {r₁ r₂ : ReconRun} {w : World} (hsvc : r₂.svc = r₁.svc)
    (h₁ : r₁.answers.Successful coins orders items)
    (h₂ : r₂.answers.Successful coins orders items) :
    (Dict.SameRows PositionRow.untimed (reconStep r₁ w).futures.positions
        (reconStep r₂ (reconStep r₁ w)).futures.positions ∧
      Dict.SameRows ProtectionRow.untimed (reconStep r₁ w).futures.protections
        (reconStep r₂ (reconStep r₁ w)).futures.protections) ↔ KnownPositions r₁.svc items w := by
  unfold KnownPositions
  cases hcategory : r₁.svc.marketCategory with
  | spot =>
    have hsecond : positionPart (reconStep r₂ (reconStep r₁ w)) = positionPart (reconStep r₁ w) := by
      apply positionPart_of_not_lists
      intro items' hlists
      have hlinear := hlists.linear
      rw [hsvc, hcategory] at hlinear
      cases hlinear
    have hpositions : (reconStep r₂ (reconStep r₁ w)).futures.positions = _ :=
      congrArg Prod.fst hsecond
    have hprotections : (reconStep r₂ (reconStep r₁ w)).futures.protections = _ :=
      congrArg Prod.snd hsecond
    rw [hpositions, hprotections]
    -- a spot service reads no positions
    refine iff_of_true ⟨Dict.SameRows.refl _ _, Dict.SameRows.refl _ _⟩ fun h => ?_
    cases h
  | linear =>
    have hlists₁ : r₁.ListsPositions items w := ⟨hcategory, h₁.status, h₁.positions⟩
    have hlists₂ : r₂.ListsPositions items (reconStep r₁ w) :=
      ⟨hsvc ▸ hcategory, h₂.status, h₂.positions⟩
    have hpositions₁ : (reconStep r₁ w).futures.positions = _ :=
      congrArg Prod.fst hlists₁.positionPart_eq
    have hpositions₂ : (reconStep r₂ (reconStep r₁ w)).futures.positions = _ :=
      congrArg Prod.fst hlists₂.positionPart_eq
    have hprotections₁ : (reconStep r₁ w).futures.protections = _ :=
      congrArg Prod.snd hlists₁.positionPart_eq
    have hprotections₂ : (reconStep r₂ (reconStep r₁ w)).futures.protections = _ :=
      congrArg Prod.snd hlists₂.positionPart_eq
    dsimp only at hpositions₁ hpositions₂ hprotections₁ hprotections₂
    rw [hsvc] at hpositions₂ hprotections₂
    -- the rows of the protections do not depend on what was known
    have hrows : (r₁.svc.protectionRows (r₂.info (reconStep r₁ w)) items).map
        (Prod.map id ProtectionRow.untimed) =
          (r₁.svc.protectionRows (r₁.info w) items).map (Prod.map id ProtectionRow.untimed) := by
      unfold ReconciliationService.protectionRows
      rw [List.map_map, List.map_map]
      rfl
    have hsame := Dict.sameRows_upsertAll merging_protectionRow (fun _ _ => rfl) hrows
      w.futures.protections
    rw [← hprotections₁, ← hprotections₂] at hsame
    rw [and_iff_left hsame, samePositions_iff hpositions₁ hpositions₂]
    exact ⟨fun h _ => h, fun h => h rfl⟩

/-- Two runs in a row with the same successful answers leave the same rows, and mark no order the
second time, if and only if every listed order has a link and every listed position was known. -/
theorem sameTables_iff (svc : ReconciliationService) (trigger₁ trigger₂ : String)
    (answers : Answers) (utc : ℕ) (w : World) (coins : List WalletCoin)
    (orders : List OpenOrderItem) (items : List ExchangePosition)
    (h : answers.Successful coins orders items) :
    (SameTables (reconStep ⟨svc, trigger₁, answers⟩ w)
        (reconStep ⟨svc, trigger₂, answers.at utc⟩ (reconStep ⟨svc, trigger₁, answers⟩ w)) ∧
      NoneMarked svc (reconStep ⟨svc, trigger₁, answers⟩ w)
        (reconStep ⟨svc, trigger₂, answers.at utc⟩ (reconStep ⟨svc, trigger₁, answers⟩ w))) ↔
      LinkedOrders orders ∧ KnownPositions svc items w := by
  let r₁ : ReconRun := ⟨svc, trigger₁, answers⟩
  let r₂ : ReconRun := ⟨svc, trigger₂, answers.at utc⟩
  have h₁ : r₁.answers.Successful coins orders items := h
  have h₂ : r₂.answers.Successful coins orders items := h.at utc
  have hsvc : r₂.svc = r₁.svc := rfl
  have hfutures := sameFutures_iff (w := w) hsvc h₁ h₂
  have hwallet := sameWallet (w := w) hsvc h₁ h₂
  have horders := sameOrders_iff (h₁.orderPart_eq (w := w)) (h₂.orderPart_eq (w := reconStep r₁ w))
  constructor
  · rintro ⟨hsame, -⟩
    exact ⟨horders.mp ⟨hsame.futuresOrders, hsame.spotOrders⟩,
      hfutures.mp ⟨hsame.positions, hsame.protections⟩⟩
  · rintro ⟨hlinked, hknown⟩
    obtain ⟨hfuturesOrders, hspotOrders⟩ := horders.mpr hlinked
    obtain ⟨hpositions, hprotections⟩ := hfutures.mpr hknown
    obtain ⟨hbalances, hholdings⟩ := hwallet
    have hsame : SameTables (reconStep r₁ w) (reconStep r₂ (reconStep r₁ w)) :=
      ⟨hfuturesOrders, hspotOrders, hpositions, hprotections, hbalances, hholdings⟩
    exact ⟨hsame, noneMarked_of_sameTables hsame⟩

end Runs

/-! ### An order without a link -/

/-- A resting order, with this link. -/
def restingOrder (link : Option String) : OpenOrderItem where
  symbol := some "BTCUSDT"
  side := some "Buy"
  orderLinkId := link
  orderId := some "1001"
  orderStatus := some "New"
  orderType := some "Limit"
  timeInForce := some "PostOnly"
  price := some "60000"
  qty := some "0.01"
  cumExecQty := some "0"
  reduceOnly := none
  closeOnTrigger := none

/-- Answers with an empty wallet and some orders and positions. -/
def orderAnswers (orders : List OpenOrderItem) (positions : List ExchangePosition) : Answers where
  wallet := .ok ⟨some 0, []⟩
  openOrders := .ok ⟨some 0, orders⟩
  executions := fun _ => .ok ⟨some 0, []⟩
  positions := .ok ⟨some 0, positions⟩
  utc := 100

/-- Empty tables of a futures account. -/
def emptyFutures : World := .initial (.default ["BTCUSDT"] .linear)

/-- An order with a link gets one row. -/
theorem linked_order_stable :
    SameTables (reconStep ⟨linearService, "first", orderAnswers [restingOrder "mm-1"] []⟩
      emptyFutures)
      (reconStep ⟨linearService, "second", (orderAnswers [restingOrder "mm-1"] []).at 200⟩
        (reconStep ⟨linearService, "first", orderAnswers [restingOrder "mm-1"] []⟩
          emptyFutures)) := by
  have hsuccessful : (orderAnswers [restingOrder "mm-1"] []).Successful [] [restingOrder "mm-1"] [] :=
    ⟨rfl, rfl, fun _ => ⟨[], rfl⟩, rfl⟩
  have hlinked : LinkedOrders [restingOrder "mm-1"] := by
    intro order hmem _
    obtain rfl : order = restingOrder "mm-1" := by simpa using hmem
    decide +kernel
  have hknown : KnownPositions linearService [] emptyFutures := by
    intro _ item hmem
    exact absurd hmem List.not_mem_nil
  exact ((sameTables_iff linearService "first" "second" _ 200 emptyFutures [] _ []
    hsuccessful).mpr ⟨hlinked, hknown⟩).1

/-- An order without a link gets a row in every run, and the flag of a position that was unknown
is withdrawn by the second run. -/
theorem unlinked_order_duplicated :
    let answers := orderAnswers [restingOrder none] [listedPosition "BTCUSDT" "Buy" "0.01"]
    let w₁ := reconStep ⟨linearService, "first", answers⟩ emptyFutures
    let w₂ := reconStep ⟨linearService, "second", answers⟩ w₁
    w₁.futures.openOrders.entries.map (fun e => e.2.orderId) = [some "1001"] ∧
      w₂.futures.openOrders.entries.map (fun e => e.2.orderId) = [some "1001", some "1001"] ∧
      w₁.futures.positions.entries.map (fun e => e.2.recoveredFromExchange) = [true] ∧
      w₂.futures.positions.entries.map (fun e => e.2.recoveredFromExchange) = [false] := by
  decide +kernel

end Botik
