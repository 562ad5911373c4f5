import Botik.Execution.ReconciliationTables
import Botik.Library.Listing

/-!
# The wallet reconciled twice

The second time no coin is without a row, and the rows without a coin are marked again. A row may
be written back under another key than its own, in capitals, and several rows under one key; so
the key is written by the same rows in the same order, once more by its own row, which brings
nothing new.

## Main definitions

* `backKey` — the key a holding is written back under
* `staleValue` — what a key contributes to the row of its back key

## Main results

* `storedAll_absorbs` — marking again changes nothing
* `sameRows_holdings` — the holdings after two runs
-/

namespace Botik

open Upserts

/-- A holding without its time. -/
def HoldingRow.untimed (row : HoldingRow) : HoldingRow := { row with updatedAtUtc := 0 }

/-! ### Merged rows, column by column -/

section Columns

/-- Merge a row, if there is one, into another, if there is one. -/
def mergeRows (new old : Option HoldingRow) : Option HoldingRow :=
  new.elim old fun row => some (stored HoldingRow.merge row old)

/-- The columns that are overwritten. -/
def HoldingRow.overwritten (row : HoldingRow) : HoldingRow :=
  { row with avgEntryPrice := none, strategyOwner := none }

variable {a b u old : Option HoldingRow}

theorem overwritten_mergeRows (new old : Option HoldingRow) :
    (mergeRows new old).map HoldingRow.overwritten =
      (new.map HoldingRow.overwritten).or (old.map HoldingRow.overwritten) := by
  rcases new with _ | new
  · rfl
  · rcases old with _ | old <;> rfl

theorem avgEntryPrice_mergeRows (new old : Option HoldingRow) :
    (mergeRows new old).bind HoldingRow.avgEntryPrice =
      (new.bind HoldingRow.avgEntryPrice).or (old.bind HoldingRow.avgEntryPrice) := by
  rcases new with _ | new
  · rfl
  · rcases old with _ | old
    · exact (Option.or_none).symm
    · rfl

theorem strategyOwner_mergeRows (new old : Option HoldingRow) :
    (mergeRows new old).bind HoldingRow.strategyOwner =
      (new.bind HoldingRow.strategyOwner).or (old.bind HoldingRow.strategyOwner) := by
  rcases new with _ | new
  · rfl
  · rcases old with _ | old
    · exact (Option.or_none).symm
    · rfl

/-- Rows with the same columns are the same. -/
theorem eq_of_columns {x y : Option HoldingRow}
    (hoverwritten : x.map HoldingRow.overwritten = y.map HoldingRow.overwritten)
    (havg : x.bind HoldingRow.avgEntryPrice = y.bind HoldingRow.avgEntryPrice)
    (howner : x.bind HoldingRow.strategyOwner = y.bind HoldingRow.strategyOwner) : x = y := by
  rcases x with _ | x <;> rcases y with _ | y
  · rfl
  · cases hoverwritten
  · cases hoverwritten
  · simp only [Option.map_some, Option.some.injEq, HoldingRow.overwritten, HoldingRow.mk.injEq,
      Option.bind_some] at hoverwritten havg howner
    obtain ⟨hfree, hlocked, -, hreason, hsource, hrecovered, -, hauto, htime⟩ := hoverwritten
    have hrow : x = y := by
      cases x
      cases y
      simp_all
    exact congrArg some hrow

/-- Upserts of one key are one merged row, merged into the old one. -/
theorem storedAll_eq_mergeRows (vs : List HoldingRow) (old : Option HoldingRow) :
    storedAll HoldingRow.merge vs old = mergeRows (storedAll HoldingRow.merge vs none) old := by
  by_cases hvs : vs = []
  · subst hvs
    rfl
  · obtain ⟨v, hv⟩ := exists_storedAll_eq merging_holdingRow hvs
    rw [hv, hv]
    rfl

/-- A column written again, in the middle, by what it was in the end. -/
theorem or_absorbs {α : Type} {b u a old s : Option α}
    (hs : s = b.or (u.or (a.or old)) ∨ s = none ∧ b = none ∧ u = none ∧ a = none) :
    b.or (s.or (a.or (b.or (u.or (a.or old))))) = b.or (u.or (a.or old)) := by
  rcases hs with rfl | ⟨rfl, rfl, rfl, rfl⟩
  · rcases b with _ | b <;> rcases u with _ | u <;> rcases a with _ | a <;> rcases old with _ | old <;>
      rfl
  · rfl

/-- Mark a row as stale, without a time. -/
def remark (row : HoldingRow) : HoldingRow := (staleRow ⟨0, 0⟩ row).clamp

/-- A row that was marked as stale: marking it again overwrites nothing, and its owner is no empty
text. -/
structure Marked (row : HoldingRow) : Prop where
  overwritten : (remark row).overwritten = row.overwritten
  owner : row.strategyOwner ≠ some ""

theorem Marked.merge {new old : HoldingRow} (h : Marked new) (h' : Marked old) :
    Marked (new.merge old) := by
  refine ⟨h.overwritten, ?_⟩
  have howner : (new.merge old).strategyOwner = new.strategyOwner.or old.strategyOwner := rfl
  rw [howner]
  cases hnew : new.strategyOwner with
  | none => exact h'.owner
  | some name =>
    have := h.owner
    rwa [hnew] at this

theorem marked_remark (row : HoldingRow) : Marked (remark row) := by
  constructor
  · have hmax : ∀ q : ℚ, max (max q 0) 0 = max q 0 := fun q => max_eq_left (le_max_right q 0)
    simp only [remark, HoldingRow.overwritten, HoldingRow.clamp, staleRow, hmax]
  · change Text.truthy row.strategyOwner ≠ some ""
    unfold Text.truthy
    intro hempty
    have := (Option.filter_eq_some_iff.mp hempty).2
    simp at this

/-- Rows merged from marked ones are marked. -/
theorem marked_storedAll {vs : List HoldingRow} (hvs : ∀ v ∈ vs, Marked v) :
    ∀ v ∈ storedAll HoldingRow.merge vs none, Marked v := by
  induction vs using List.reverseRecOn with
  | nil => rintro v ⟨⟩
  | append_singleton vs v ih =>
    rw [List.forall_mem_append, List.forall_mem_singleton] at hvs
    intro merged hmerged
    rw [storedAll_append] at hmerged
    obtain rfl := Option.some.inj hmerged
    cases hbefore : storedAll HoldingRow.merge vs none with
    | none => exact hvs.2
    | some old => exact hvs.2.merge (ih hvs.1 old hbefore)

/-- Writing the marked rows of a key once more, with its own in the middle, changes nothing. -/
theorem storedAll_absorbs {vs ws : List HoldingRow} {u old : Option HoldingRow} {t : HoldingRow}
    (hvs : ∀ v ∈ vs, Marked v) (hu : ∀ v ∈ u, Marked v) (hws : ∀ v ∈ ws, Marked v)
    (hne : vs ++ u.toList ++ ws ≠ [])
    (ht : storedAll HoldingRow.merge (vs ++ u.toList ++ ws) old = some t) :
    storedAll HoldingRow.merge (vs ++ [remark t] ++ ws) (some t) = some t := by
  have hsingle : ∀ (u x : Option HoldingRow),
      storedAll HoldingRow.merge u.toList x = mergeRows u x := by
    rintro (_ | u) x <;> rfl
  have ha := marked_storedAll hvs
  have hb := marked_storedAll hws
  rw [storedAll_append, storedAll_append, hsingle, storedAll_eq_mergeRows vs,
    storedAll_eq_mergeRows ws] at ht
  have hsome : storedAll HoldingRow.merge vs none ≠ none ∨ u ≠ none ∨
      storedAll HoldingRow.merge ws none ≠ none := by
    by_contra hall
    simp only [not_or, not_not, ne_eq] at hall
    obtain ⟨hvs, hu, hws⟩ := hall
    have hempty : ∀ vs : List HoldingRow, storedAll HoldingRow.merge vs none = none → vs = [] := by
      intro vs hnone
      by_contra hvs
      obtain ⟨v, hv⟩ := exists_storedAll_eq merging_holdingRow hvs
      rw [hv] at hnone
      cases hnone
    rw [hempty vs hvs, hempty ws hws, hu] at hne
    exact hne rfl
  rw [storedAll_append, storedAll_append, storedAll_eq_mergeRows vs, storedAll_eq_mergeRows ws]
  change mergeRows _ (mergeRows (some (remark t)) (mergeRows _ (some t))) = some t
  generalize storedAll HoldingRow.merge vs none = a at ha ht hsome
  generalize storedAll HoldingRow.merge ws none = b at hb ht hsome
  have hoverwritten := congrArg (Option.map HoldingRow.overwritten) ht
  have havg := congrArg (fun row => row.bind HoldingRow.avgEntryPrice) ht
  have howner := congrArg (fun row => row.bind HoldingRow.strategyOwner) ht
  simp only [overwritten_mergeRows, avgEntryPrice_mergeRows, strategyOwner_mergeRows]
    at hoverwritten havg howner
  apply eq_of_columns
  · rw [overwritten_mergeRows, overwritten_mergeRows, overwritten_mergeRows, ← hoverwritten]
    apply or_absorbs
    left
    rw [hoverwritten]
    -- the overwritten columns are those of a marked row
    have hmarked : ∃ v, Marked v ∧ v.overwritten = t.overwritten := by
      rcases b with _ | b
      · rcases u with _ | u
        · rcases a with _ | a
          · simp at hsome
          · exact ⟨a, ha a rfl, Option.some.inj hoverwritten⟩
        · exact ⟨u, hu u rfl, Option.some.inj hoverwritten⟩
      · exact ⟨b, hb b rfl, Option.some.inj hoverwritten⟩
    obtain ⟨v, hv, heq⟩ := hmarked
    have hremark : ∀ row : HoldingRow,
        (remark row).overwritten = (remark row.overwritten).overwritten := fun _ => rfl
    have hself : (remark t).overwritten = t.overwritten := by
      rw [hremark, ← heq, ← hremark, hv.overwritten]
    exact congrArg some hself
  · rw [avgEntryPrice_mergeRows, avgEntryPrice_mergeRows, avgEntryPrice_mergeRows, ← havg]
    apply or_absorbs
    left
    rw [havg]
    rfl
  · rw [strategyOwner_mergeRows, strategyOwner_mergeRows, strategyOwner_mergeRows, ← howner]
    apply or_absorbs
    rw [howner]
    change Text.truthy t.strategyOwner = t.strategyOwner ∨ _
    by_cases hempty : t.strategyOwner = some ""
    · right
      change Text.truthy t.strategyOwner = none ∧ _
      rw [Option.bind_some, hempty] at howner
      have hnone : ∀ x : Option HoldingRow, (∀ v ∈ x, Marked v) → ∀ rest,
          (x.bind HoldingRow.strategyOwner).or rest = some "" →
            x.bind HoldingRow.strategyOwner = none ∧ rest = some "" := by
        intro x hx rest hor
        cases hname : x.bind HoldingRow.strategyOwner with
        | none =>
          rw [hname] at hor
          exact ⟨rfl, hor⟩
        | some name =>
          obtain ⟨v, hv, hvname⟩ := Option.bind_eq_some_iff.mp hname
          rw [hname] at hor
          obtain rfl := Option.some.inj hor
          exact absurd hvname (hx v hv).owner
      obtain ⟨hb', hrest⟩ := hnone b hb _ howner
      obtain ⟨hu', hrest⟩ := hnone u hu _ hrest
      obtain ⟨ha', -⟩ := hnone a ha _ hrest
      rw [hempty]
      exact ⟨rfl, hb', hu', ha'⟩
    · left
      cases hname : t.strategyOwner with
      | none => rfl
      | some name =>
        rw [hname] at hempty
        have hne : name ≠ "" := fun h => hempty (congrArg some h)
        simp [Text.truthy, hne]

end Columns

/-! ### What is written to one key -/

namespace ReconciliationService

/-- The key a holding is written back under. -/
def backKey (svc : ReconciliationService) (key : HoldingKey) : HoldingKey :=
  (⟨svc.accountType, key.symbolOrDefault, key.asset⟩ : HoldingKey).stored

/-- The keys the service lists. -/
def holdingKeys (svc : ReconciliationService) (d : Dict HoldingKey HoldingRow) : List HoldingKey :=
  d.keyListing (fun a b => a.symbol ≤ b.symbol)
    fun key => svc.accountType = "" ∨ key.accountType = svc.accountType

/-- What the row of a key contributes to the row of `target`. -/
def staleValue (svc : ReconciliationService) (info : RunInfo) (seen : List String)
    (target : HoldingKey) (d : Dict HoldingKey HoldingRow) (key : HoldingKey) : Option HoldingRow :=
  (d.get? key).bind fun row =>
    if isStale seen (key, row) = true ∧ svc.backKey key = target then
      some (staleRow info row).clamp
    else none

end ReconciliationService

instance : Std.Total fun a b : HoldingKey => a.symbol ≤ b.symbol :=
  ⟨fun a b => String.le_total a.symbol b.symbol⟩

instance : IsTrans HoldingKey fun a b => a.symbol ≤ b.symbol :=
  ⟨fun _ _ _ hab hbc => String.le_trans hab hbc⟩

section Keys

variable {svc : ReconciliationService} {info : RunInfo} {coins : List WalletCoin} {seen : List String}
  {db : SpotStore} {d : Dict HoldingKey HoldingRow} {key target : HoldingKey} {row : HoldingRow}

theorem asset_backKey (svc : ReconciliationService) (key : HoldingKey) :
    (svc.backKey key).asset = key.asset := by
  unfold HoldingKey.asset ReconciliationService.backKey HoldingKey.stored HoldingKey.asset
  rw [Text.upper_upper, Text.upper_upper]

/-- A key that was written back is written back under itself. -/
theorem backKey_backKey (svc : ReconciliationService) (key : HoldingKey) :
    svc.backKey (svc.backKey key) = svc.backKey key := by
  have hne : key.symbolOrDefault ≠ "" := by
    unfold HoldingKey.symbolOrDefault
    split_ifs with hempty
    · intro happend
      have hlength := congrArg String.length happend
      rw [String.length_append] at hlength
      have husdt : "USDT".length = 4 := rfl
      have hzero : "".length = 0 := rfl
      omega
    · exact hempty
  have hsymbol : (svc.backKey key).symbolOrDefault = Text.upper key.symbolOrDefault :=
    if_neg (Text.upper_ne_empty hne)
  have hback : svc.backKey (svc.backKey key) = (⟨svc.accountType,
      (svc.backKey key).symbolOrDefault, (svc.backKey key).asset⟩ : HoldingKey).stored := rfl
  rw [hback, hsymbol, asset_backKey]
  unfold ReconciliationService.backKey HoldingKey.stored
  rw [Text.upper_upper]

theorem backKey_coinKey (coin : WalletCoin) :
    svc.backKey (svc.coinKey coin.asset) = svc.coinKey coin.asset := by
  have hsymbol : (svc.coinKey coin.asset).symbolOrDefault = coin.asset ++ "USDT" :=
    symbolOrDefault_coin (upper_asset coin)
  unfold ReconciliationService.backKey
  rw [hsymbol, show (svc.coinKey coin.asset).asset = coin.asset from upper_asset coin]
  exact stored_coinKey svc (upper_asset coin)

/-- Every written key is written back under itself. -/
theorem backKey_of_mem_holdingRows {w : World}
    (h : (key, row) ∈ svc.holdingRows info coins w) : svc.backKey key = key := by
  rcases List.mem_append.mp h with h | h
  · obtain ⟨coin, -, -, heq⟩ := mem_recoveredRows.mp h
    obtain ⟨rfl, -⟩ := Prod.mk.inj heq
    exact backKey_coinKey coin
  · obtain ⟨e, -, -, heq⟩ := mem_staleRows.mp h
    obtain ⟨rfl, -⟩ := Prod.mk.inj heq
    exact backKey_backKey svc e.1

/-- The rows written back under a key, in the order of the listed keys. -/
theorem staleRows_of_key (svc : ReconciliationService) (info : RunInfo) (coins : List WalletCoin)
    (db : SpotStore) (target : HoldingKey) :
    ((svc.staleRows info (db.listSpotHoldings svc.accountType) coins).filter fun e =>
        e.1 = target).map Prod.snd =
      (svc.holdingKeys db.holdings).filterMap
        (svc.staleValue info (seenAssets coins) target db.holdings) := by
  have hselect := map_snd_filter_key (isStale (seenAssets coins)) (fun e => svc.backKey e.1)
    (fun e => (staleRow info e.2).clamp) target (db.listSpotHoldings svc.accountType)
  refine hselect.trans ?_
  exact Dict.filterMap_listing (fun a b => a.symbol ≤ b.symbol)
    (fun key => svc.accountType = "" ∨ key.accountType = svc.accountType)
    (fun key row => if isStale (seenAssets coins) (key, row) = true ∧ svc.backKey key = target then
      some (staleRow info row).clamp else none) db.holdings

theorem staleValue_eq_some {v : HoldingRow}
    (h : svc.staleValue info seen target d key = some v) :
    ∃ row, d.get? key = some row ∧ isStale seen (key, row) = true ∧ svc.backKey key = target ∧
      v = (staleRow info row).clamp := by
  obtain ⟨row, hget, hvalue⟩ := Option.bind_eq_some_iff.mp h
  split_ifs at hvalue with hcond
  exact ⟨row, hget, hcond.1, hcond.2, (Option.some.inj hvalue).symm⟩

theorem staleValue_of_stale (hget : d.get? key = some row) (hstale : isStale seen (key, row) = true)
    (hback : svc.backKey key = target) :
    svc.staleValue info seen target d key = some (staleRow info row).clamp := by
  unfold ReconciliationService.staleValue
  rw [hget, Option.bind_some, if_pos ⟨hstale, hback⟩]

end Keys

/-! ### The second time -/

section Again

variable {svc : ReconciliationService} {info₁ info₂ : RunInfo} {coins : List WalletCoin}
  {w₀ w₁ : World} {key target : HoldingKey} {row : HoldingRow}

theorem mem_listed_assets {asset : String} {db : SpotStore} :
    asset ∈ (db.listSpotHoldings svc.accountType).map (fun e => e.1.asset) ↔
      ∃ key ∈ svc.holdingKeys db.holdings, key.asset = asset := by
  have hkeys : (db.listSpotHoldings svc.accountType).map Prod.fst = svc.holdingKeys db.holdings :=
    Dict.map_fst_listing (fun a b : HoldingKey => a.symbol ≤ b.symbol)
      (fun key : HoldingKey => svc.accountType = "" ∨ key.accountType = svc.accountType) db.holdings
  rw [← hkeys, List.mem_map]
  simp only [List.mem_map, exists_exists_and_eq_and]

theorem mem_holdingKeys {d : Dict HoldingKey HoldingRow} :
    key ∈ svc.holdingKeys d ↔
      key ∈ d.keys ∧ (svc.accountType = "" ∨ key.accountType = svc.accountType) := by
  unfold ReconciliationService.holdingKeys
  rw [Dict.mem_keyListing, decide_eq_true_eq]

/-- The second time no coin is without a row. -/
theorem recoveredRows_again
    (h₁ : w₁.spot.holdings = Dict.upsertAll HoldingRow.merge (svc.holdingRows info₁ coins w₀)
      w₀.spot.holdings) :
    svc.recoveredRows info₂ (w₁.spot.listSpotHoldings svc.accountType) coins = [] := by
  unfold ReconciliationService.recoveredRows
  rw [List.map_eq_nil_iff, List.filter_eq_nil_iff]
  intro coin hcoin hrecovered
  obtain ⟨hheld, hnot⟩ := of_decide_eq_true hrecovered
  rw [not_or, mem_listed_assets] at hnot
  apply hnot.2
  by_cases hbefore : ∃ key ∈ svc.holdingKeys w₀.spot.holdings, key.asset = coin.asset
  · obtain ⟨key, hkey, hasset⟩ := hbefore
    obtain ⟨hmem, haccount⟩ := mem_holdingKeys.mp hkey
    refine ⟨key, mem_holdingKeys.mpr ⟨?_, haccount⟩, hasset⟩
    rw [h₁]
    exact Dict.mem_keys_upsertAll hmem _
  · have hwritten : (svc.coinKey coin.asset, (recoveredRow info₁ coin).clamp) ∈
        svc.holdingRows info₁ coins w₀ := by
      apply List.mem_append_left
      apply mem_recoveredRows.mpr
      refine ⟨coin, hcoin, decide_eq_true ⟨hheld, ?_⟩, rfl⟩
      rw [not_or, mem_listed_assets]
      exact ⟨hnot.1, hbefore⟩
    obtain ⟨row, hget, -⟩ := Dict.exists_get?_upsertAll_of_forall (P := fun _ => True)
      (fun _ _ _ => trivial) (fun _ _ => trivial) ⟨_, hwritten⟩ w₀.spot.holdings
    rw [← h₁] at hget
    exact ⟨svc.coinKey coin.asset, mem_holdingKeys.mpr
      ⟨Dict.mem_keys_iff.mpr ⟨row, hget⟩, Or.inr rfl⟩, upper_asset coin⟩

/-- Another key of the same row is not written. -/
theorem get?_of_backKey_ne
    (h₁ : w₁.spot.holdings = Dict.upsertAll HoldingRow.merge (svc.holdingRows info₁ coins w₀)
      w₀.spot.holdings) (hback : svc.backKey key ≠ key) :
    w₁.spot.holdings.get? key = w₀.spot.holdings.get? key := by
  rw [h₁]
  apply Dict.get?_upsertAll_of_not_mem
  rintro ⟨k, v⟩ hmem rfl
  exact hback (backKey_of_mem_holdingRows hmem)

/-- The rows written to a key of a coin that is not in the wallet. -/
theorem holdingRows_of_unseen (info : RunInfo) (w : World)
    (hunseen : target.asset ∉ seenAssets coins) :
    ((svc.holdingRows info coins w).filter fun e => e.1 = target).map Prod.snd =
      (svc.holdingKeys w.spot.holdings).filterMap
        (svc.staleValue info (seenAssets coins) target w.spot.holdings) := by
  have hnone : (svc.recoveredRows info (w.spot.listSpotHoldings svc.accountType) coins).filter
      (fun e => e.1 = target) = [] := by
    rw [List.filter_eq_nil_iff]
    intro e he htarget
    obtain ⟨coin, hcoin, hrecovered, rfl⟩ := mem_recoveredRows.mp he
    obtain rfl : svc.coinKey coin.asset = target := of_decide_eq_true htarget
    have hasset : (svc.coinKey coin.asset).asset = coin.asset := upper_asset coin
    rw [hasset] at hunseen
    exact hunseen (mem_seenAssets.mpr ⟨coin, hcoin, (of_decide_eq_true hrecovered).1, rfl⟩)
  unfold ReconciliationService.holdingRows
  rw [List.filter_append, hnone, List.nil_append]
  exact staleRows_of_key svc info coins w.spot target

/-- The first run writes to the key what the keys of the second run contribute. -/
theorem filterMap_holdingKeys
    (h₁ : w₁.spot.holdings = Dict.upsertAll HoldingRow.merge (svc.holdingRows info₁ coins w₀)
      w₀.spot.holdings) (info : RunInfo) (seen : List String) :
    (svc.holdingKeys w₁.spot.holdings).filterMap (svc.staleValue info seen target w₀.spot.holdings) =
      (svc.holdingKeys w₀.spot.holdings).filterMap
        (svc.staleValue info seen target w₀.spot.holdings) := by
  have hnewKeys : ∃ new, w₁.spot.holdings.keys = w₀.spot.holdings.keys ++ new ∧
      ∀ k ∈ new, k ∉ w₀.spot.holdings.keys ∧
        k ∈ (svc.holdingRows info₁ coins w₀).map Prod.fst := by
    rw [h₁]
    exact Dict.keys_upsertAll _ _
  obtain ⟨new, hkeys, hnew⟩ := hnewKeys
  have hold : (svc.holdingKeys w₁.spot.holdings).filter (· ∈ w₀.spot.holdings.keys) =
      svc.holdingKeys w₀.spot.holdings :=
    Dict.filter_keyListing_of_append _ _ hkeys fun k hk => (hnew k hk).1
  rw [← hold, List.filterMap_filter]
  apply List.filterMap_congr
  intro k _
  split_ifs with hk
  · rfl
  · have hnone : w₀.spot.holdings.get? k = none := Dict.get?_eq_none_iff.mpr (by simpa using hk)
    unfold ReconciliationService.staleValue
    rw [hnone, Option.bind_none]

/-- What is written to a key is marked. -/
theorem marked_staleValue {seen : List String} {d : Dict HoldingKey HoldingRow} {info : RunInfo} :
    ∀ v ∈ (svc.staleValue info seen target d key).map HoldingRow.untimed, Marked v := by
  intro v hv
  obtain ⟨value, hvalue, rfl⟩ := Option.map_eq_some_iff.mp hv
  obtain ⟨row, -, -, -, rfl⟩ := staleValue_eq_some hvalue
  exact marked_remark row.untimed

theorem untimed_merge (a b : HoldingRow) :
    (a.merge b).untimed = a.untimed.merge b.untimed := rfl

/-- A key that gets something the second time got something the first time. -/
theorem filterMap_ne_nil
    (h₁ : w₁.spot.holdings = Dict.upsertAll HoldingRow.merge (svc.holdingRows info₁ coins w₀)
      w₀.spot.holdings) (hunseen : target.asset ∉ seenAssets coins) (hkey : key ∈ svc.holdingKeys
      w₁.spot.holdings) {v : HoldingRow} (hvalue : svc.staleValue info₂ (seenAssets coins) target
      w₁.spot.holdings key = some v) :
    (svc.holdingKeys w₁.spot.holdings).filterMap
      (svc.staleValue info₁ (seenAssets coins) target w₀.spot.holdings) ≠ [] := by
  obtain ⟨row, hget, hstale, hback, -⟩ := staleValue_eq_some hvalue
  intro hnil
  have hsame : w₁.spot.holdings.get? key = w₀.spot.holdings.get? key := by
    by_cases hself : key = target
    · -- nothing was written to the key
      subst hself
      rw [filterMap_holdingKeys h₁] at hnil
      rw [h₁, Dict.get?_upsertAll, holdingRows_of_unseen info₁ w₀ hunseen, hnil, storedAll_nil]
    · exact get?_of_backKey_ne h₁ fun h => hself (h.symm.trans hback)
  rw [hsame] at hget
  have hmem : (staleRow info₁ row).clamp ∈ (svc.holdingKeys w₁.spot.holdings).filterMap
      (svc.staleValue info₁ (seenAssets coins) target w₀.spot.holdings) :=
    List.mem_filterMap.mpr ⟨key, hkey, staleValue_of_stale hget hstale hback⟩
  rw [hnil] at hmem
  exact absurd hmem List.not_mem_nil

/-- A key that is written the second time is about a coin that is not in the wallet. -/
theorem unseen_of_written_again
    (h₁ : w₁.spot.holdings = Dict.upsertAll HoldingRow.merge (svc.holdingRows info₁ coins w₀)
      w₀.spot.holdings) (hmem : (target, row) ∈ svc.holdingRows info₂ coins w₁) :
    target.asset ≠ "" ∧ target.asset ∉ seenAssets coins ∧ svc.backKey target = target ∧
      target.accountType = svc.accountType := by
  unfold ReconciliationService.holdingRows at hmem
  rw [recoveredRows_again h₁, List.nil_append] at hmem
  obtain ⟨e, -, hstale, heq⟩ := mem_staleRows.mp hmem
  obtain ⟨hne, -, hgone⟩ := of_decide_eq_true hstale
  obtain rfl : target = svc.backKey e.1 := (Prod.mk.inj heq).1
  rw [asset_backKey, backKey_backKey]
  exact ⟨hne, hgone, rfl, rfl⟩

/-- Such a key was written the first time, too. -/
theorem written_first
    (h₁ : w₁.spot.holdings = Dict.upsertAll HoldingRow.merge (svc.holdingRows info₁ coins w₀)
      w₀.spot.holdings) (hunseen : target.asset ∉ seenAssets coins)
    (hne : (svc.holdingKeys w₁.spot.holdings).filterMap
      (svc.staleValue info₁ (seenAssets coins) target w₀.spot.holdings) ≠ []) :
    ∃ t, w₁.spot.holdings.get? target = some t ∧ 0 < t.freeQty + t.lockedQty ∧
      storedAll HoldingRow.merge ((svc.holdingKeys w₁.spot.holdings).filterMap
        (svc.staleValue info₁ (seenAssets coins) target w₀.spot.holdings))
        (w₀.spot.holdings.get? target) = some t := by
  have hfirst : w₁.spot.holdings.get? target = storedAll HoldingRow.merge
      ((svc.holdingKeys w₁.spot.holdings).filterMap
        (svc.staleValue info₁ (seenAssets coins) target w₀.spot.holdings))
      (w₀.spot.holdings.get? target) := by
    conv_lhs => rw [h₁]
    rw [Dict.get?_upsertAll, holdingRows_of_unseen info₁ w₀ hunseen, filterMap_holdingKeys h₁]
  have hpositive : ∀ v ∈ (svc.holdingKeys w₁.spot.holdings).filterMap
      (svc.staleValue info₁ (seenAssets coins) target w₀.spot.holdings),
        0 < v.freeQty + v.lockedQty := by
    intro v hv
    obtain ⟨key, -, hvalue⟩ := List.mem_filterMap.mp hv
    obtain ⟨row, -, hstale, -, rfl⟩ := staleValue_eq_some hvalue
    exact clamp_staleRow_qty (of_decide_eq_true hstale).2.1
  have hmergeQty : ∀ new old : HoldingRow, 0 < new.freeQty + new.lockedQty →
      0 < (new.merge old).freeQty + (new.merge old).lockedQty := fun _ _ h => h
  obtain ⟨t, ht, hqty⟩ := exists_storedAll_of_forall hmergeQty hpositive hne
    (w₀.spot.holdings.get? target)
  exact ⟨t, hfirst.trans ht, hqty, ht⟩

/-- Other keys contribute the same both times. -/
theorem staleValue_again
    (h₁ : w₁.spot.holdings = Dict.upsertAll HoldingRow.merge (svc.holdingRows info₁ coins w₀)
      w₀.spot.holdings) {seen : List String} (hne : key ≠ target) :
    (svc.staleValue info₂ seen target w₁.spot.holdings key).map HoldingRow.untimed =
      (svc.staleValue info₁ seen target w₀.spot.holdings key).map HoldingRow.untimed := by
  unfold ReconciliationService.staleValue
  by_cases hback : svc.backKey key = target
  · rw [get?_of_backKey_ne h₁ fun h => hne (h.symm.trans hback)]
    cases w₀.spot.holdings.get? key with
    | none => rfl
    | some row =>
      rw [Option.bind_some, Option.bind_some]
      split_ifs <;> rfl
  · cases w₁.spot.holdings.get? key <;> cases w₀.spot.holdings.get? key <;> simp [hback]

/-- The holdings after two runs. -/
theorem sameRows_holdings
    (h₁ : w₁.spot.holdings = Dict.upsertAll HoldingRow.merge (svc.holdingRows info₁ coins w₀)
      w₀.spot.holdings) :
    Dict.SameRows HoldingRow.untimed w₁.spot.holdings
      (Dict.upsertAll HoldingRow.merge (svc.holdingRows info₂ coins w₁) w₁.spot.holdings) := by
  intro k
  rw [Dict.get?_upsertAll]
  by_cases hempty : ((svc.holdingRows info₂ coins w₁).filter fun e => e.1 = k) = []
  · rw [hempty, List.map_nil, storedAll_nil]
  obtain ⟨⟨k', row⟩, hmem⟩ := List.exists_mem_of_ne_nil _ hempty
  obtain ⟨hwritten, hk⟩ := List.mem_filter.mp hmem
  obtain rfl : k' = k := of_decide_eq_true hk
  obtain ⟨hasset, hunseen, hself, haccount⟩ := unseen_of_written_again h₁ hwritten
  rw [holdingRows_of_unseen info₂ w₁ hunseen]
  -- the key was written the first time, and is written now because of its own row
  have hvalue : row ∈ (svc.holdingKeys w₁.spot.holdings).filterMap
      (svc.staleValue info₂ (seenAssets coins) k' w₁.spot.holdings) := by
    rw [← holdingRows_of_unseen info₂ w₁ hunseen]
    exact List.mem_map.mpr ⟨(k', row), hmem, rfl⟩
  obtain ⟨key, hkey, hvalue⟩ := List.mem_filterMap.mp hvalue
  have hne := filterMap_ne_nil h₁ hunseen hkey hvalue
  obtain ⟨t, hget, hqty, ht⟩ := written_first h₁ hunseen hne
  have hagain : isStale (seenAssets coins) (k', t) = true :=
    decide_eq_true ⟨hasset, hqty, hunseen⟩
  have hlisted : k' ∈ svc.holdingKeys w₁.spot.holdings :=
    mem_holdingKeys.mpr ⟨Dict.mem_keys_iff.mpr ⟨t, hget⟩, Or.inr haccount⟩
  -- the keys before and after this one contribute the same both times
  obtain ⟨before, after, hsplit⟩ := List.append_of_mem hlisted
  have hnodup : (before ++ k' :: after).Nodup := hsplit ▸ Dict.nodup_keyListing _ _ _
  obtain ⟨-, hafterNodup, hdisjoint⟩ := List.nodup_append.mp hnodup
  have hbefore : ∀ key ∈ before, key ≠ k' := fun key hkey =>
    hdisjoint key hkey k' List.mem_cons_self
  have hafter : ∀ key ∈ after, key ≠ k' := fun key hkey h =>
    (List.nodup_cons.mp hafterNodup).1 (h ▸ hkey)
  have hparts : ∀ keys : List HoldingKey, (∀ key ∈ keys, key ≠ k') →
      (keys.filterMap (svc.staleValue info₂ (seenAssets coins) k' w₁.spot.holdings)).map
          HoldingRow.untimed =
        (keys.filterMap (svc.staleValue info₁ (seenAssets coins) k' w₀.spot.holdings)).map
          HoldingRow.untimed := by
    intro keys hkeys
    rw [List.map_filterMap, List.map_filterMap]
    exact List.filterMap_congr fun key hmem => staleValue_again h₁ (hkeys key hmem)
  have hmarked : ∀ keys : List HoldingKey, ∀ v ∈ (keys.filterMap
      (svc.staleValue info₁ (seenAssets coins) k' w₀.spot.holdings)).map HoldingRow.untimed,
        Marked v := by
    intro keys v hv
    rw [List.map_filterMap] at hv
    obtain ⟨key, -, hvalue⟩ := List.mem_filterMap.mp hv
    exact marked_staleValue v hvalue
  have hfirst : ((before ++ k' :: after).filterMap
      (svc.staleValue info₁ (seenAssets coins) k' w₀.spot.holdings)).map HoldingRow.untimed =
        (before.filterMap (svc.staleValue info₁ (seenAssets coins) k' w₀.spot.holdings)).map
          HoldingRow.untimed ++
        ((svc.staleValue info₁ (seenAssets coins) k' w₀.spot.holdings k').map
          HoldingRow.untimed).toList ++
        (after.filterMap (svc.staleValue info₁ (seenAssets coins) k' w₀.spot.holdings)).map
          HoldingRow.untimed := by
    rw [List.filterMap_append, List.filterMap_cons, List.map_append, List.append_assoc]
    cases svc.staleValue info₁ (seenAssets coins) k' w₀.spot.holdings k' <;> rfl
  have hold := congrArg (Option.map HoldingRow.untimed) ht
  rw [map_storedAll untimed_merge, hsplit, hfirst] at hold
  have hneMap : ((before ++ k' :: after).filterMap
      (svc.staleValue info₁ (seenAssets coins) k' w₀.spot.holdings)).map HoldingRow.untimed ≠ [] :=
    fun h => hne (hsplit ▸ List.map_eq_nil_iff.mp h)
  rw [hfirst] at hneMap
  rw [hget, map_storedAll untimed_merge, hsplit, List.filterMap_append,
    List.filterMap_cons_some (staleValue_of_stale hget hagain hself), List.map_append,
    List.map_cons, hparts before hbefore, hparts after hafter]
  have habsorbed := storedAll_absorbs (hmarked before) marked_staleValue (hmarked after) hneMap hold
  rw [List.append_assoc] at habsorbed
  exact habsorbed

end Again

end Botik
