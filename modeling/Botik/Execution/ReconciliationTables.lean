import Botik.Execution.ReconciliationFacts

/-!
# What a reconciliation run writes

The tables after a run, as lists of upserts into the tables before it.

## Main definitions

* `HoldingRow.merge`, `PositionRow.merge` — what an upsert of a holding or a position does
* `balanceRows`, `recoveredRows`, `staleRows` — what is written for the wallet
* `OrderTable.reconcile` — what happens to the table of the open orders
* `heldPositions`, `positionRows`, `protectionRows` — what is written for the listed positions

## Main results

* `walletPart_reconcileCoins`, `orderPart_reconcileListedOrders`,
  `positionPart_reconcileListedPositions`
* `OrderTable.sameRows_reconcile` — orders with links are written once
* `OrderTable.not_sameRows_of_unlinked` — an order without a link is written again
-/

namespace Botik

open Program Upserts FuturesStore

theorem upper_readSymbol (field : Option String) :
    Text.upper (readSymbol field) = readSymbol field := by
  unfold readSymbol
  rw [Text.upper_strip, Text.upper_upper]

/-! ### Balances and holdings -/

/-- What `ON CONFLICT(account_type, symbol, base_asset) DO UPDATE` does to a holding: a missing
average price or owner leaves the stored one. -/
def HoldingRow.merge (new old : HoldingRow) : HoldingRow :=
  { new with
    avgEntryPrice := new.avgEntryPrice.or old.avgEntryPrice
    strategyOwner := new.strategyOwner.or old.strategyOwner }

/-- The quantities are stored as zero at least. -/
def HoldingRow.clamp (row : HoldingRow) : HoldingRow :=
  { row with freeQty := max row.freeQty 0, lockedQty := max row.lockedQty 0 }

/-- The row of a balance is replaced. -/
def BalanceRow.merge (new _old : BalanceRow) : BalanceRow := new

/-- The key a holding is stored under. -/
def HoldingKey.stored (key : HoldingKey) : HoldingKey :=
  { key with symbol := Text.upper key.symbol, baseAsset := Text.upper key.baseAsset }

theorem merging_holdingRow : Merging HoldingRow.merge where
  assoc := fun a b c => by simp only [HoldingRow.merge, Option.or_assoc]
  idem := fun a => by simp only [HoldingRow.merge, Option.or_self]

theorem merging_balanceRow : Merging BalanceRow.merge := ⟨fun _ _ _ => rfl, fun _ => rfl⟩

theorem holdings_upsertSpotHolding (db : SpotStore) (key : HoldingKey) (row : HoldingRow) :
    (db.upsertSpotHolding key row).holdings =
      db.holdings.upsert HoldingRow.merge key.stored row.clamp := by
  have hrow : ∀ old : Option HoldingRow,
      { row.clamp with
        avgEntryPrice := row.avgEntryPrice.or (old.bind HoldingRow.avgEntryPrice)
        strategyOwner := row.strategyOwner.or (old.bind HoldingRow.strategyOwner) } =
          stored HoldingRow.merge row.clamp old := by
    intro old
    cases old with
    | none =>
      change { row.clamp with
        avgEntryPrice := row.avgEntryPrice.or none
        strategyOwner := row.strategyOwner.or none } = row.clamp
      rw [Option.or_none, Option.or_none]
      rfl
    | some old => rfl
  exact congrArg (db.holdings.set key.stored) (hrow _)

namespace ReconciliationService

/-- The balance of a coin. -/
def balanceRow (info : RunInfo) (coin : WalletCoin) : BalanceRow where
  freeQty := max coin.freeQty 0
  lockedQty := max coin.lockedQty 0
  totalQty := max coin.freeQty 0 + max coin.lockedQty 0
  sourceOfTruth := "exchange_wallet_balance"
  updatedAtUtc := info.utc

/-- The balances a run writes. -/
def balanceRows (svc : ReconciliationService) (info : RunInfo) (coins : List WalletCoin) :
    List ((String × String) × BalanceRow) :=
  (coins.filter WalletCoin.isHeld).map fun coin =>
    ((svc.accountType, coin.asset), balanceRow info coin)

/-- The key of the holding of a coin. -/
def coinKey (svc : ReconciliationService) (asset : String) : HoldingKey :=
  ⟨svc.accountType, asset ++ "USDT", asset⟩

/-- A coin that gets a holding: it has a balance, is no quote coin, and has no row. -/
def isRecovered (locals : List (HoldingKey × HoldingRow)) (coin : WalletCoin) : Bool :=
  coin.isHeld ∧ ¬ (coin.asset ∈ quoteCoins ∨ coin.asset ∈ locals.map fun e => e.1.asset)

/-- The holdings a run writes for coins without a row. -/
def recoveredRows (svc : ReconciliationService) (info : RunInfo)
    (locals : List (HoldingKey × HoldingRow)) (coins : List WalletCoin) :
    List (HoldingKey × HoldingRow) :=
  (coins.filter (isRecovered locals)).map fun coin =>
    (svc.coinKey coin.asset, (recoveredRow info coin).clamp)

/-- The holdings a run writes for rows without a coin. -/
def staleRows (svc : ReconciliationService) (info : RunInfo)
    (locals : List (HoldingKey × HoldingRow)) (coins : List WalletCoin) :
    List (HoldingKey × HoldingRow) :=
  (locals.filter (isStale (seenAssets coins))).map fun e =>
    ((⟨svc.accountType, e.1.symbolOrDefault, e.1.asset⟩ : HoldingKey).stored,
      (staleRow info e.2).clamp)

/-- The holdings a run writes. -/
def holdingRows (svc : ReconciliationService) (info : RunInfo) (coins : List WalletCoin)
    (w : World) : List (HoldingKey × HoldingRow) :=
  svc.recoveredRows info (w.spot.listSpotHoldings svc.accountType) coins ++
    svc.staleRows info (w.spot.listSpotHoldings svc.accountType) coins

end ReconciliationService

section Wallet

variable (svc : ReconciliationService) (info : RunInfo)

/-- The name of a coin is stored as it is. -/
theorem upper_asset (coin : WalletCoin) : Text.upper coin.asset = coin.asset :=
  upper_readSymbol coin.coin

theorem upper_coinSymbol {asset : String} (h : Text.upper asset = asset) :
    Text.upper (asset ++ "USDT") = asset ++ "USDT" := by
  have husdt : Text.upper "USDT" = "USDT" := by decide +kernel
  rw [Text.upper_append, h, husdt]

theorem stored_coinKey {asset : String} (h : Text.upper asset = asset) :
    (svc.coinKey asset).stored = svc.coinKey asset := by
  unfold HoldingKey.stored ReconciliationService.coinKey
  rw [upper_coinSymbol h, h]

/-- The holding of a coin is written back under its own symbol. -/
theorem symbolOrDefault_coin {asset accountType : String} (h : Text.upper asset = asset) :
    (⟨accountType, asset ++ "USDT", asset⟩ : HoldingKey).symbolOrDefault = asset ++ "USDT" := by
  unfold HoldingKey.symbolOrDefault HoldingKey.asset
  split_ifs
  · rw [h]
  · rfl

section Rows

variable {svc info} {locals : List (HoldingKey × HoldingRow)} {coins : List WalletCoin}
  {e : HoldingKey × HoldingRow}

theorem mem_recoveredRows : e ∈ svc.recoveredRows info locals coins ↔
    ∃ coin ∈ coins, ReconciliationService.isRecovered locals coin = true ∧
      e = (svc.coinKey coin.asset, (recoveredRow info coin).clamp) := by
  unfold ReconciliationService.recoveredRows
  simp only [List.mem_map, List.mem_filter, and_assoc, eq_comm]

theorem mem_staleRows : e ∈ svc.staleRows info locals coins ↔
    ∃ l ∈ locals, isStale (seenAssets coins) l = true ∧
      e = ((⟨svc.accountType, l.1.symbolOrDefault, l.1.asset⟩ : HoldingKey).stored,
        (staleRow info l.2).clamp) := by
  unfold ReconciliationService.staleRows
  simp only [List.mem_map, List.mem_filter, and_assoc, eq_comm]

theorem mem_seenAssets {asset : String} :
    asset ∈ seenAssets coins ↔ ∃ coin ∈ coins, coin.isHeld = true ∧ coin.asset = asset := by
  unfold seenAssets
  simp only [List.mem_map, List.mem_filter, and_assoc]

/-- The free and the locked part of a held coin are its total. -/
theorem clamp_recoveredRow_qty {coin : WalletCoin} (h : coin.isHeld = true) :
    0 < (recoveredRow info coin).clamp.freeQty + (recoveredRow info coin).clamp.lockedQty := by
  have htotal : 0 < coin.total := (of_decide_eq_true h).2
  have hfree : (recoveredRow info coin).clamp.freeQty = max coin.freeQty 0 := rfl
  have hlocked : (recoveredRow info coin).clamp.lockedQty = max (max (coin.total - coin.freeQty) 0) 0 :=
    rfl
  rw [hfree, hlocked]
  have hsum : coin.total = coin.freeQty + (coin.total - coin.freeQty) := by ring
  have hle := le_max_left coin.freeQty 0
  have hle' := (le_max_left (coin.total - coin.freeQty) 0).trans
    (le_max_left (max (coin.total - coin.freeQty) 0) 0)
  linarith

/-- A stale row keeps its quantity. -/
theorem clamp_staleRow_qty {row : HoldingRow} (h : 0 < row.freeQty + row.lockedQty) :
    0 < (staleRow info row).clamp.freeQty + (staleRow info row).clamp.lockedQty := by
  have hfree : (staleRow info row).clamp.freeQty = max row.freeQty 0 := rfl
  have hlocked : (staleRow info row).clamp.lockedQty = max row.lockedQty 0 := rfl
  rw [hfree, hlocked]
  have hle := le_max_left row.freeQty 0
  have hle' := le_max_left row.lockedQty 0
  linarith

end Rows

/-- One coin: its balance, and its holding where it gets one. -/
theorem walletPart_importBalance (locals : List (HoldingKey × HoldingRow)) (coin : WalletCoin)
    (s : ReconState) :
    walletPart (importBalance svc info locals coin s).world =
      (Dict.upsertAll BalanceRow.merge (svc.balanceRows info [coin]) s.world.spot.balances,
        Dict.upsertAll HoldingRow.merge (svc.recoveredRows info locals [coin])
          s.world.spot.holdings) := by
  unfold importBalance ReconciliationService.balanceRows ReconciliationService.recoveredRows
    ReconciliationService.isRecovered
  by_cases hheld : coin.isHeld = true
  swap
  · rw [if_neg hheld, List.filter_cons_of_neg hheld, List.filter_cons_of_neg]
    · rfl
    · simp [hheld]
  have hbalance : ∀ db : SpotStore,
      (db.upsertSpotBalance svc.accountType coin.asset coin.freeQty coin.lockedQty
        "exchange_wallet_balance" info.utc).balances =
      db.balances.upsert BalanceRow.merge (svc.accountType, coin.asset)
        (ReconciliationService.balanceRow info coin) := by
    intro db
    have hrow : ∀ old : Option BalanceRow, ReconciliationService.balanceRow info coin =
        stored BalanceRow.merge (ReconciliationService.balanceRow info coin) old := by
      rintro (_ | old) <;> rfl
    unfold SpotStore.upsertSpotBalance Dict.upsert
    rw [← hrow, upper_asset]
    rfl
  rw [if_pos hheld, List.filter_cons_of_pos hheld]
  by_cases hskip : coin.asset ∈ quoteCoins ∨ coin.asset ∈ locals.map fun e => e.1.asset
  · rw [List.filter_cons_of_neg (by simp only [hheld, hskip]; decide)]
    dsimp only
    rw [if_pos hskip]
    exact Prod.ext (hbalance s.world.spot) rfl
  · rw [List.filter_cons_of_pos (by simp only [hheld, hskip]; decide)]
    dsimp only
    rw [if_neg hskip]
    have hholding := holdings_upsertSpotHolding (s.world.spot.upsertSpotBalance svc.accountType
      coin.asset coin.freeQty coin.lockedQty "exchange_wallet_balance" info.utc)
      (svc.coinKey coin.asset) (recoveredRow info coin)
    rw [stored_coinKey svc (upper_asset coin)] at hholding
    exact Prod.ext (hbalance s.world.spot) hholding

/-- One row that is stale is written back. -/
theorem walletPart_markStale (coins : List WalletCoin) (s : ReconState)
    (e : HoldingKey × HoldingRow) :
    walletPart (markStale svc info (seenAssets coins) s e).world =
      (s.world.spot.balances,
        Dict.upsertAll HoldingRow.merge (svc.staleRows info [e] coins)
          s.world.spot.holdings) := by
  unfold markStale ReconciliationService.staleRows
  by_cases hstale : isStale (seenAssets coins) e = true
  · rw [if_pos hstale, List.filter_cons_of_pos hstale]
    exact Prod.ext rfl (holdings_upsertSpotHolding s.world.spot _ _)
  · rw [if_neg hstale, List.filter_cons_of_neg hstale]
    rfl

/-- The wallet is upserted into the balances and the holdings. -/
theorem walletPart_reconcileCoins (coins : List WalletCoin) (s : ReconState) :
    walletPart (reconcileCoins svc info coins s).world =
      (Dict.upsertAll BalanceRow.merge (svc.balanceRows info coins) s.world.spot.balances,
        Dict.upsertAll HoldingRow.merge (svc.holdingRows info coins s.world)
          s.world.spot.holdings) := by
  -- the pass over the coins of the wallet
  have hcoins : ∀ locals coins (s : ReconState),
      walletPart (coins.foldl (fun s coin => importBalance svc info locals coin s) s).world =
        (Dict.upsertAll BalanceRow.merge (svc.balanceRows info coins) s.world.spot.balances,
          Dict.upsertAll HoldingRow.merge (svc.recoveredRows info locals coins)
            s.world.spot.holdings) := by
    intro locals coins
    induction coins with
    | nil => intro s; rfl
    | cons coin coins ih =>
      intro s
      have hfirst := walletPart_importBalance svc info locals coin s
      have hbalances := congrArg Prod.fst hfirst
      have hholdings := congrArg Prod.snd hfirst
      simp only [walletPart] at hbalances hholdings
      rw [List.foldl_cons, ih, hbalances, hholdings, ← Dict.upsertAll_append,
        ← Dict.upsertAll_append]
      unfold ReconciliationService.balanceRows ReconciliationService.recoveredRows
      rw [← List.map_append, ← List.map_append, ← List.filter_append, ← List.filter_append]
      rfl
  -- the pass over the stored holdings, which marks what the wallet no longer has
  have hrows : ∀ rows (s : ReconState),
      walletPart (rows.foldl (markStale svc info (seenAssets coins)) s).world =
        (s.world.spot.balances, Dict.upsertAll HoldingRow.merge (svc.staleRows info rows coins)
          s.world.spot.holdings) := by
    intro rows
    induction rows with
    | nil => intro s; rfl
    | cons e rows ih =>
      intro s
      have hfirst := walletPart_markStale svc info coins s e
      have hbalances := congrArg Prod.fst hfirst
      have hholdings := congrArg Prod.snd hfirst
      simp only [walletPart] at hbalances hholdings
      rw [List.foldl_cons, ih, hbalances, hholdings, ← Dict.upsertAll_append]
      unfold ReconciliationService.staleRows
      rw [← List.map_append, ← List.filter_append]
      rfl
  have hwritten := hcoins (s.world.spot.listSpotHoldings svc.accountType) coins s
  have hbalances := congrArg Prod.fst hwritten
  have hholdings := congrArg Prod.snd hwritten
  simp only [walletPart] at hbalances hholdings
  unfold reconcileCoins
  dsimp only
  rw [hrows, hbalances, hholdings, ← Dict.upsertAll_append]
  rfl

end Wallet

/-! ### Open orders -/

/-- A table of orders: how its rows are merged, what they share with those of the other table,
how they are marked, and what is written for a listed order. -/
structure OrderTable (ν : Type) where
  merge : ν → ν → ν
  shared : ν → DomainOrderRow
  mark : ν → ν
  row : OpenOrderItem → ν

namespace OrderTable

variable {ν : Type} (o : OrderTable ν)

/-- Write the orders one after the other. -/
def importAll (orders : List OpenOrderItem) (d : Dict OrderLink ν) : Dict OrderLink ν :=
  orders.foldl (fun d order => d.upsert o.merge (storedLink d (some order.linkId)) (o.row order)) d

/-- The links of the stored orders that are open but not listed. -/
def missingLinks (orders : List OpenOrderItem) (d : Dict OrderLink ν) : List OrderLink :=
  (d.entries.filter fun e =>
    (o.shared e.2).isOpen && !isListed orders (e.1, o.shared e.2)).map Prod.fst

/-- Mark some orders. -/
def markAll (links : List OrderLink) (d : Dict OrderLink ν) : Dict OrderLink ν :=
  links.foldl (fun d link => d.update link o.mark) d

/-- What the reconciliation does to the table. -/
def reconcile (orders : List OpenOrderItem) (d : Dict OrderLink ν) : Dict OrderLink ν :=
  o.markAll (o.missingLinks orders (o.importAll (namedOrders orders) d))
    (o.importAll (namedOrders orders) d)

/-- What the tables have in common: rows are merged, a marked order is not open, and a row is
shown without its time. -/
structure Lawful (o : OrderTable ν) (untimed : ν → ν) : Prop where
  merging : Merging o.merge
  untimed_merge : ∀ a b, untimed (o.merge a b) = o.merge (untimed a) (untimed b)
  isOpen_mark : ∀ a, (o.shared (o.mark a)).isOpen = false
  mark_mark : ∀ a, o.mark (o.mark a) = o.mark a

/-- What is written for orders with links. -/
def linkedRows (orders : List OpenOrderItem) : List (OrderLink × ν) :=
  orders.map fun order => (.link order.linkId, o.row order)

variable {o} {orders : List OpenOrderItem} {d : Dict OrderLink ν} {untimed : ν → ν}

theorem mem_missingLinks {k : OrderLink} : k ∈ o.missingLinks orders d ↔
    ∃ row, d.get? k = some row ∧ (o.shared row).isOpen = true ∧
      isListed orders (k, o.shared row) = false := by
  unfold missingLinks
  simp only [List.mem_map, List.mem_filter, Bool.and_eq_true, Bool.not_eq_true', Prod.exists,
    Dict.mem_entries_iff]
  constructor
  · rintro ⟨k', row, ⟨hget, hopen, hlisted⟩, rfl⟩
    exact ⟨row, hget, hopen, hlisted⟩
  · rintro ⟨row, hget, hopen, hlisted⟩
    exact ⟨k, row, ⟨hget, hopen, hlisted⟩, rfl⟩

theorem get?_markAll (hmark : ∀ a, o.mark (o.mark a) = o.mark a) (links : List OrderLink)
    (d : Dict OrderLink ν) (k : OrderLink) :
    (o.markAll links d).get? k =
      if k ∈ links then (d.get? k).map o.mark else d.get? k := by
  induction links generalizing d with
  | nil => rfl
  | cons link links ih =>
    have hstep : (o.markAll (link :: links) d).get? k =
        (o.markAll links (d.update link o.mark)).get? k := rfl
    have htwice : o.mark ∘ o.mark = o.mark := by
      funext a
      exact hmark a
    rw [hstep, ih, Dict.get?_update]
    by_cases hk : k = link
    · subst hk
      rw [if_pos rfl, if_pos List.mem_cons_self]
      split_ifs
      · rw [Option.map_map, htwice]
      · rfl
    · simp only [hk, if_false, List.mem_cons, false_or]

/-- A link keeps its place in the table. -/
theorem storedLink_of_linkId {order : OpenOrderItem} (h : order.linkId ≠ "")
    (d : Dict OrderLink ν) : storedLink d (some order.linkId) = .link order.linkId := by
  have htruthy : Text.truthy (some order.linkId) = some order.linkId := by
    simp [Text.truthy, h]
  unfold storedLink
  rw [htruthy]

theorem importAll_of_linked (hlinked : ∀ order ∈ orders, order.linkId ≠ "")
    (d : Dict OrderLink ν) :
    o.importAll orders d = Dict.upsertAll o.merge (o.linkedRows orders) d := by
  induction orders generalizing d with
  | nil => rfl
  | cons order orders ih =>
    obtain ⟨hfirst, hrest⟩ := List.forall_mem_cons.mp hlinked
    have hstep : o.importAll (order :: orders) d = o.importAll orders
        (d.upsert o.merge (storedLink d (some order.linkId)) (o.row order)) := rfl
    rw [hstep, storedLink_of_linkId hfirst, ih hrest]
    rfl

/-- The links that are written are listed. -/
theorem isListed_of_mem_linkedRows {k : OrderLink} {v : ν}
    (hlinked : ∀ order ∈ namedOrders orders, order.linkId ≠ "")
    (h : (k, v) ∈ o.linkedRows (namedOrders orders)) (row : DomainOrderRow) :
    isListed orders (k, row) = true := by
  obtain ⟨order, hmem, heq⟩ := List.mem_map.mp h
  obtain ⟨rfl, -⟩ := Prod.mk.inj heq
  unfold isListed
  rw [List.any_eq_true]
  exact ⟨order, hmem, decide_eq_true (Or.inl ⟨hlinked order hmem, rfl⟩)⟩

/-- After a reconciliation of linked orders no stored order is open but not listed, also when
they are written again. -/
theorem missingLinks_reconcile (o' : OrderTable ν) (h : o.Lawful untimed)
    (hshared : o'.shared = o.shared)
    (hlinked : ∀ order ∈ namedOrders orders, order.linkId ≠ "") (d : Dict OrderLink ν) :
    o'.missingLinks orders (o'.importAll (namedOrders orders) (o.reconcile orders d)) = [] := by
  rw [List.eq_nil_iff_forall_not_mem]
  intro k hk
  obtain ⟨row, hget, hopen, hlisted⟩ := mem_missingLinks.mp hk
  rw [importAll_of_linked hlinked] at hget
  rw [hshared] at hopen hlisted
  have hcases : (∃ v, (k, v) ∈ o'.linkedRows (namedOrders orders)) ∨
      (Dict.upsertAll o'.merge (o'.linkedRows (namedOrders orders)) (o.reconcile orders d)).get? k =
        (o.reconcile orders d).get? k := Dict.get?_upsertAll_cases _ _ k
  rcases hcases with ⟨v, hwritten⟩ | hsame
  · rw [isListed_of_mem_linkedRows hlinked hwritten] at hlisted
    cases hlisted
  · rw [hsame] at hget
    unfold reconcile at hget
    rw [get?_markAll h.mark_mark] at hget
    split_ifs at hget with hmissing
    · obtain ⟨old, -, rfl⟩ := Option.map_eq_some_iff.mp hget
      rw [h.isOpen_mark] at hopen
      cases hopen
    · exact hmissing (mem_missingLinks.mpr ⟨row, hget, hopen, hlisted⟩)

/-- Linked orders reconciled again leave the table as it was. -/
theorem sameRows_reconcile (o' : OrderTable ν) (h : o.Lawful untimed)
    (hmerge : o'.merge = o.merge) (hshared : o'.shared = o.shared)
    (hrow : ∀ order, untimed (o'.row order) = untimed (o.row order))
    (hlinked : ∀ order ∈ namedOrders orders, order.linkId ≠ "") (d : Dict OrderLink ν) :
    Dict.SameRows untimed (o.reconcile orders d) (o'.reconcile orders (o.reconcile orders d)) := by
  -- what is listed again is not missing
  have hnone : o'.missingLinks orders
      (o'.importAll (namedOrders orders) (o.reconcile orders d)) = [] :=
    missingLinks_reconcile o' h hshared hlinked d
  have hagain : o'.reconcile orders (o.reconcile orders d) =
      Dict.upsertAll o.merge (o'.linkedRows (namedOrders orders)) (o.reconcile orders d) := by
    generalize o.reconcile orders d = d' at hnone
    unfold reconcile
    rw [hnone, importAll_of_linked hlinked, hmerge]
    rfl
  have hrows : (o'.linkedRows (namedOrders orders)).map (Prod.map id untimed) =
      (o.linkedRows (namedOrders orders)).map (Prod.map id untimed) := by
    unfold linkedRows
    rw [List.map_map, List.map_map]
    apply List.map_congr_left
    intro order _
    exact congrArg (Prod.mk _) (hrow order)
  intro k
  rw [hagain]
  have hcases : (∃ v, (k, v) ∈ o'.linkedRows (namedOrders orders)) ∨
      (Dict.upsertAll o.merge (o'.linkedRows (namedOrders orders)) (o.reconcile orders d)).get? k =
        (o.reconcile orders d).get? k := Dict.get?_upsertAll_cases _ _ k
  rcases hcases with ⟨v, hwritten⟩ | hsame
  · -- a written order is not marked
    have hfirst : (o.reconcile orders d).get? k =
        (Dict.upsertAll o.merge (o.linkedRows (namedOrders orders)) d).get? k := by
      unfold reconcile
      rw [get?_markAll h.mark_mark, importAll_of_linked hlinked, if_neg]
      intro hmissing
      obtain ⟨row, -, -, hlisted⟩ := mem_missingLinks.mp hmissing
      rw [isListed_of_mem_linkedRows hlinked hwritten] at hlisted
      cases hlisted
    have honce := Dict.sameRows_upsertAll h.merging h.untimed_merge hrows d k
    rw [Dict.get?_upsertAll, hfirst, ← Dict.get?_upsertAll]
    exact honce
  · rw [hsame]

/-- Orders stay in the table while others are written. -/
theorem isSome_importAll {k : OrderLink} (orders : List OpenOrderItem) (d : Dict OrderLink ν)
    (h : (d.get? k).isSome) : ((o.importAll orders d).get? k).isSome := by
  induction orders generalizing d with
  | nil => exact h
  | cons order orders ih =>
    apply ih
    rw [Dict.get?_upsert]
    split_ifs
    · rfl
    · exact h

theorem isSome_markAll {k : OrderLink} (links : List OrderLink) (d : Dict OrderLink ν) :
    ((o.markAll links d).get? k).isSome = (d.get? k).isSome := by
  induction links generalizing d with
  | nil => rfl
  | cons link links ih =>
    have hstep : (o.markAll (link :: links) d).get? k =
        (o.markAll links (d.update link o.mark)).get? k := rfl
    rw [hstep, ih, Dict.get?_update]
    split_ifs
    · exact Option.isSome_map
    · rfl

/-- An order without a link gets a row of its own each time. -/
theorem not_sameRows_of_unlinked {order : OpenOrderItem} (hmem : order ∈ namedOrders orders)
    (hlink : order.linkId = "") (d : Dict OrderLink ν) :
    ¬ Dict.SameRows untimed d (o.reconcile orders d) := by
  obtain ⟨before, after, hsplit⟩ := List.append_of_mem hmem
  -- the generated link is new when the order is reached, so it was new at the start
  generalize hreached : o.importAll before d = reached
  have hstored : storedLink reached (some order.linkId) =
      .generated (reached.freshNumber OrderLink.number) := by
    rw [hlink]
    rfl
  have hnumber : OrderLink.number (.generated (reached.freshNumber OrderLink.number)) =
      reached.freshNumber OrderLink.number := rfl
  have hnew : reached.get? (.generated (reached.freshNumber OrderLink.number)) = none :=
    Dict.get?_eq_none_of_freshNumber hnumber
  generalize OrderLink.generated (reached.freshNumber OrderLink.number) = k at hstored hnew
  have hstart : d.get? k = none := by
    cases hget : d.get? k with
    | none => rfl
    | some row =>
      have hkept := isSome_importAll (o := o) before d (Option.isSome_of_eq_some hget)
      rw [hreached, hnew] at hkept
      cases hkept
  have hwritten : ((reached.upsert o.merge k (o.row order)).get? k).isSome := by
    rw [Dict.get?_upsert_self]
    rfl
  have himported : o.importAll (namedOrders orders) d =
      o.importAll after (reached.upsert o.merge k (o.row order)) := by
    unfold importAll at hreached ⊢
    rw [hsplit, List.foldl_append, List.foldl_cons, hreached, hstored]
  have hend : ((o.reconcile orders d).get? k).isSome := by
    unfold reconcile
    rw [isSome_markAll, himported]
    exact isSome_importAll after _ hwritten
  intro hsame
  have hk := congrArg Option.isSome (hsame k)
  rw [Option.isSome_map, Option.isSome_map, hstart, hend] at hk
  cases hk

end OrderTable

namespace ReconciliationService

/-- What the reconciliation does with `futures_open_orders`. -/
def futuresOrders (svc : ReconciliationService) (info : RunInfo) : OrderTable FuturesOrderRow where
  merge := FuturesOrderRow.merge
  shared := FuturesOrderRow.toDomainOrderRow
  mark := fun row => { row with status := "MissingOnExchange" }
  row := fun order =>
    { toDomainOrderRow := { svc.orderRow info order with symbol := Text.upper order.symbolU }
      side := order.side
      price := some (readFloat order.price)
      qty := some (readFloat order.qty)
      reduceOnly := some (readFlag order.reduceOnly)
      closeOnTrigger := some (readFlag order.closeOnTrigger) }

/-- What the reconciliation does with `spot_orders`. -/
def spotOrders (svc : ReconciliationService) (info : RunInfo) : OrderTable SpotOrderRow where
  merge := SpotOrderRow.merge
  shared := SpotOrderRow.toDomainOrderRow
  mark := fun row => { row with status := "MissingOnExchange" }
  row := fun order =>
    { toDomainOrderRow := { svc.orderRow info order with symbol := Text.upper order.symbolU }
      side := Text.orEmpty order.side
      price := readFloat order.price
      qty := max (readFloat order.qty) 0
      filledQty := max (readFloat order.cumExecQty) 0 }

/-- The order tables after the listed orders are reconciled. -/
def reconciledOrders (svc : ReconciliationService) (info : RunInfo) (orders : List OpenOrderItem)
    (w : World) : Dict OrderLink FuturesOrderRow × Dict OrderLink SpotOrderRow :=
  match svc.marketCategory with
  | .linear => ((svc.futuresOrders info).reconcile orders w.futures.openOrders, w.spot.orders)
  | .spot => (w.futures.openOrders, (svc.spotOrders info).reconcile orders w.spot.orders)

end ReconciliationService

/-- A row without its time. -/
def FuturesOrderRow.untimed (row : FuturesOrderRow) : FuturesOrderRow :=
  { row with updatedAtUtc := 0 }

def SpotOrderRow.untimed (row : SpotOrderRow) : SpotOrderRow := { row with updatedAtUtc := 0 }

section Orders

variable (svc : ReconciliationService) (info : RunInfo)

theorem not_isOpen_missing (row : DomainOrderRow) :
    DomainOrderRow.isOpen { row with status := "MissingOnExchange" } = false := by
  have hmissing : Text.lower "MissingOnExchange" ∉
      ["new", "partiallyfilled", "partially_filled"] := by decide +kernel
  exact decide_eq_false hmissing

theorem lawful_futuresOrders : (svc.futuresOrders info).Lawful FuturesOrderRow.untimed where
  merging :=
    { assoc := fun a b c => by
        simp only [ReconciliationService.futuresOrders, FuturesOrderRow.merge,
          DomainOrderRow.merge, Option.or_assoc]
      idem := fun a => by
        simp only [ReconciliationService.futuresOrders, FuturesOrderRow.merge,
          DomainOrderRow.merge, Option.or_self] }
  untimed_merge := fun _ _ => rfl
  isOpen_mark := fun a => not_isOpen_missing a.toDomainOrderRow
  mark_mark := fun _ => rfl

theorem lawful_spotOrders : (svc.spotOrders info).Lawful SpotOrderRow.untimed where
  merging :=
    { assoc := fun a b c => by
        simp only [ReconciliationService.spotOrders, SpotOrderRow.merge, DomainOrderRow.merge,
          Option.or_assoc]
      idem := fun a => by
        simp only [ReconciliationService.spotOrders, SpotOrderRow.merge, DomainOrderRow.merge,
          Option.or_self] }
  untimed_merge := fun _ _ => rfl
  isOpen_mark := fun a => not_isOpen_missing a.toDomainOrderRow
  mark_mark := fun _ => rfl

theorem orderPart_importOrders (orders : List OpenOrderItem) (w : World) :
    orderPart (svc.importOrders info orders w) =
      match svc.marketCategory with
      | .linear => (w.legacy.orders, (svc.futuresOrders info).importAll orders w.futures.openOrders,
          w.spot.orders)
      | .spot => (w.legacy.orders, w.futures.openOrders,
          (svc.spotOrders info).importAll orders w.spot.orders) := by
  induction orders generalizing w with
  | nil => cases svc.marketCategory <;> rfl
  | cons order orders ih =>
    rw [importOrders_cons, ih]
    unfold ReconciliationService.importOrder
    cases svc.marketCategory <;> rfl

/-- The links of the missing orders, in the table of the category. -/
theorem map_fst_missingOrders (orders : List OpenOrderItem) (w : World) :
    (svc.missingOrders orders w).map Prod.fst =
      match svc.marketCategory with
      | .linear => (svc.futuresOrders info).missingLinks orders w.futures.openOrders
      | .spot => (svc.spotOrders info).missingLinks orders w.spot.orders := by
  unfold ReconciliationService.missingOrders ReconciliationService.domainOrders
  cases svc.marketCategory <;> dsimp only <;> rw [List.filter_map, List.map_map] <;> rfl

/-- The missing orders are marked, in the table of the category. -/
theorem orderPart_foldl_reportMissing (rows : List (OrderLink × DomainOrderRow)) (s : ReconState) :
    orderPart (rows.foldl (svc.reportMissingOrder info) s).world =
      match svc.marketCategory with
      | .linear => (s.world.legacy.orders,
          (svc.futuresOrders info).markAll (rows.map Prod.fst) s.world.futures.openOrders,
          s.world.spot.orders)
      | .spot => (s.world.legacy.orders, s.world.futures.openOrders,
          (svc.spotOrders info).markAll (rows.map Prod.fst) s.world.spot.orders) := by
  induction rows generalizing s with
  | nil => cases svc.marketCategory <;> rfl
  | cons e rows ih =>
    rw [List.foldl_cons, ih]
    unfold ReconciliationService.reportMissingOrder ReconciliationService.markMissing
    cases svc.marketCategory <;> rfl

/-- The order tables after the listed orders are reconciled. -/
theorem orderPart_reconcileListedOrders (orders : List OpenOrderItem) (s : ReconState) :
    (orderPart (svc.reconcileListedOrders info orders s).world).2 =
      svc.reconciledOrders info orders s.world := by
  unfold ReconciliationService.reconcileListedOrders
  dsimp only
  generalize hs' : (s.count fun summary => { summary with openOrdersChecked := true }) = s'
  have hworld : s'.world = s.world := by
    rw [← hs']
    rfl
  rw [foldl_reconcileOrder_named]
  have himported := (raised_importOrders svc info (namedOrders orders) (s := s') (w := s.world)
    (fun order horder => by simpa using (List.mem_filter.mp horder).2) (by rw [hworld])).2
  generalize (namedOrders orders).foldl (svc.reconcileOrder info) s' = s'' at himported
  rw [orderPart_importOrders] at himported
  rw [orderPart_foldl_reportMissing]
  have hlinks := map_fst_missingOrders svc info orders s''.world
  unfold ReconciliationService.reconciledOrders OrderTable.reconcile
  cases hcategory : svc.marketCategory with
  | linear =>
    rw [hcategory] at himported hlinks
    have hopen : s''.world.futures.openOrders = _ := congrArg (fun part => part.2.1) himported
    have hspot : s''.world.spot.orders = _ := congrArg (fun part => part.2.2) himported
    dsimp only at hlinks hopen hspot ⊢
    rw [hlinks, hopen, hspot]
  | spot =>
    rw [hcategory] at himported hlinks
    have hopen : s''.world.futures.openOrders = _ := congrArg (fun part => part.2.1) himported
    have hspot : s''.world.spot.orders = _ := congrArg (fun part => part.2.2) himported
    dsimp only at hlinks hopen hspot ⊢
    rw [hlinks, hopen, hspot]

end Orders

/-! ### Positions -/

/-- What `ON CONFLICT(account_type, symbol, side, position_idx) DO UPDATE` does to a position:
a missing owner leaves the stored one. -/
def PositionRow.merge (new old : PositionRow) : PositionRow :=
  { new with strategyOwner := new.strategyOwner.or old.strategyOwner }

/-- The row of a protection is replaced. -/
def ProtectionRow.merge (new _old : ProtectionRow) : ProtectionRow := new

theorem merging_positionRow : Merging PositionRow.merge where
  assoc := fun a b c => by simp only [PositionRow.merge, Option.or_assoc]
  idem := fun a => by simp only [PositionRow.merge, Option.or_self]

theorem merging_protectionRow : Merging ProtectionRow.merge := ⟨fun _ _ _ => rfl, fun _ => rfl⟩

theorem positions_upsertFuturesPosition (db : FuturesStore) (key : PositionKey)
    (row : PositionRow) :
    (db.upsertFuturesPosition key row).positions =
      db.positions.upsert PositionRow.merge (storedKey key) row := by
  have hrow : ∀ old : Option PositionRow,
      { row with strategyOwner := row.strategyOwner.or (old.bind PositionRow.strategyOwner) } =
        stored PositionRow.merge row old := by
    intro old
    cases old with
    | none =>
      change { row with strategyOwner := row.strategyOwner.or none } = row
      rw [Option.or_none]
    | some old => rfl
  exact congrArg (db.positions.set (storedKey key)) (hrow _)

theorem protections_upsertFuturesProtection (db : FuturesStore) (key : PositionKey)
    (row : ProtectionRow) :
    (db.upsertFuturesProtection key row).protections =
      db.protections.upsert ProtectionRow.merge (storedKey key) row := by
  have hrow : ∀ old : Option ProtectionRow, row = stored ProtectionRow.merge row old := by
    rintro (_ | old) <;> rfl
  exact congrArg (db.protections.set (storedKey key)) (hrow _)

namespace ReconciliationService

/-- The listed positions that are held. -/
def heldPositions (items : List ExchangePosition) : List ExchangePosition :=
  items.filter ExchangePosition.isHeld

/-- The positions a run writes. -/
def positionRows (svc : ReconciliationService) (info : RunInfo) (locals : List LocalKey)
    (items : List ExchangePosition) : List (PositionKey × PositionRow) :=
  (heldPositions items).map fun item =>
    (svc.positionKey item, svc.positionRow info (item.localKey ∉ locals) item)

/-- The protections a run writes. -/
def protectionRows (svc : ReconciliationService) (info : RunInfo)
    (items : List ExchangePosition) : List (PositionKey × ProtectionRow) :=
  (heldPositions items).map fun item => (svc.positionKey item, protectionRow info item)

end ReconciliationService

section Positions

variable (svc : ReconciliationService) (info : RunInfo)

/-- The key of a listed position is stored as it is. -/
theorem storedKey_positionKey (item : ExchangePosition) :
    storedKey (svc.positionKey item) = svc.positionKey item := by
  have hupper : Text.upper item.symbolU = item.symbolU := upper_readSymbol item.symbol
  unfold storedKey ReconciliationService.positionKey
  rw [hupper]

/-- One listed position that is held is upserted, with its protection. -/
theorem positionPart_reconcilePosition {item : ExchangePosition} (hheld : item.isHeld = true)
    (locals : List LocalKey) (s : ReconState) :
    positionPart (svc.reconcilePosition info locals s item).world =
      (s.world.futures.positions.upsert PositionRow.merge (svc.positionKey item)
          (svc.positionRow info (item.localKey ∉ locals) item),
        s.world.futures.protections.upsert ProtectionRow.merge (svc.positionKey item)
          (ReconciliationService.protectionRow info item)) := by
  have hwritten : positionPart (svc.reconcilePosition info locals s item).world =
      positionPart (svc.importPosition info (item.localKey ∉ locals) item s.world) := by
    unfold ReconciliationService.reconcilePosition
    rw [if_pos hheld]
    dsimp only
    unfold ReconciliationService.reportUnprotected ReconciliationService.reportOrphanedPosition
    split_ifs <;> rfl
  have hposition := positions_upsertFuturesPosition s.world.futures (svc.positionKey item)
    (svc.positionRow info (item.localKey ∉ locals) item)
  have hprotection := protections_upsertFuturesProtection
    (s.world.futures.upsertFuturesPosition (svc.positionKey item)
      (svc.positionRow info (item.localKey ∉ locals) item)) (svc.positionKey item)
    (ReconciliationService.protectionRow info item)
  rw [storedKey_positionKey] at hposition hprotection
  rw [hwritten]
  exact Prod.ext hposition hprotection

/-- The listed positions are upserted one after the other. -/
theorem positionPart_foldl (locals : List LocalKey) (items : List ExchangePosition)
    (s : ReconState) :
    positionPart (items.foldl (svc.reconcilePosition info locals) s).world =
      (Dict.upsertAll PositionRow.merge (svc.positionRows info locals items)
          s.world.futures.positions,
        Dict.upsertAll ProtectionRow.merge (svc.protectionRows info items)
          s.world.futures.protections) := by
  induction items generalizing s with
  | nil => rfl
  | cons item items ih =>
    rw [List.foldl_cons, ih]
    unfold ReconciliationService.positionRows ReconciliationService.protectionRows
      ReconciliationService.heldPositions
    by_cases hheld : item.isHeld = true
    · have hwritten := positionPart_reconcilePosition svc info hheld locals s
      have hpositions := congrArg Prod.fst hwritten
      have hprotections := congrArg Prod.snd hwritten
      simp only [positionPart] at hpositions hprotections
      rw [hpositions, hprotections, List.filter_cons_of_pos hheld]
      rfl
    · have hskip : svc.reconcilePosition info locals s item = s := by
        unfold ReconciliationService.reconcilePosition
        rw [if_neg hheld]
      rw [hskip, List.filter_cons_of_neg hheld]

theorem positionPart_reconcileListedPositions (items : List ExchangePosition) (s : ReconState) :
    positionPart (svc.reconcileListedPositions info items s).world =
      (Dict.upsertAll PositionRow.merge (svc.positionRows info (svc.localKeys s.world) items)
          s.world.futures.positions,
        Dict.upsertAll ProtectionRow.merge (svc.protectionRows info items)
          s.world.futures.protections) := by
  have hmissing : ∀ s key, positionPart
      (ReconciliationService.reportMissingPosition info s key).world = positionPart s.world :=
    fun _ _ => rfl
  unfold ReconciliationService.reconcileListedPositions
  dsimp only
  rw [foldl_keeps hmissing, positionPart_foldl]
  rfl

end Positions

end Botik
