import Botik.Theorems.EntryLocks
import Botik.Theorems.PositionTable

/-!
# Positions that vanish from the exchange

A futures run writes what the exchange lists and leaves the other rows as they are. So a row whose
position vanished keeps its quantity, and every later run that does not list it finds it missing
again and locks its symbol: the lock is held until the conflict is gone.

## Main definitions

* `PositionsMerged` — the rows and the locks after a run that lists positions
* `Lists` — a run whose answer covers a row

## Main results

* `positionsMerged_step` — one run
* `vanished_positions_stay_locked` — every run of a sequence
-/

namespace Botik

open Runs OpenItems Upserts

/-- The account of the service has the row. -/
def ReconciliationService.Covers (svc : ReconciliationService) (key : PositionKey) : Prop :=
  svc.accountType = "" ∨ key.accountType = svc.accountType

/-- The key of the lock for a position that is missing on the exchange. -/
def missingLock (symbol : String) : IssueKey :=
  (.localPositionMissingOnExchange, "futures", readSymbol (some symbol))

/-- The rows with a quantity after a run are the listed ones, with the listed quantities, and
those with a quantity before that are not listed, as they were; the latter are locked. -/
structure PositionsMerged (svc : ReconciliationService) (items : List ExchangePosition)
    (w w' : World) : Prop where
  listed : ∀ item ∈ items, item.isHeld = true →
    heldQty w'.futures (svc.positionKey item) = item.listedQty
  unlisted : ∀ key, (∀ item ∈ items, item.isHeld = true → svc.positionKey item ≠ key) →
    w'.futures.positions.get? key = w.futures.positions.get? key
  live : ∀ key, heldQty w'.futures key ≠ 0 ↔
    (∃ item ∈ items, item.isHeld = true ∧ svc.positionKey item = key) ∨ heldQty w.futures key ≠ 0
  locked : ∀ key, heldQty w.futures key ≠ 0 → svc.Covers key →
    key.localKey ∉ ReconciliationService.exchangeKeys items → readSymbol (some key.symbol) ≠ "" →
      OpenIssue (missingLock key.symbol) w'.core

/-- The answer of the run lists the position of a row. -/
def ReconRun.Lists (r : ReconRun) (key : PositionKey) : Prop :=
  ∃ items, r.answers.positions = .ok ⟨some 0, items⟩ ∧ r.svc.Covers key ∧
    key.localKey ∈ ReconciliationService.exchangeKeys items

section Step

variable {r : ReconRun} {w : World} {items : List ExchangePosition} {key : PositionKey}

theorem mem_heldPositions {item : ExchangePosition} :
    item ∈ ReconciliationService.heldPositions items ↔ item ∈ items ∧ item.isHeld = true :=
  List.mem_filter

theorem ne_zero_of_isHeld {item : ExchangePosition} (h : item.isHeld = true) :
    item.listedQty ≠ 0 := by
  have hspec := of_decide_eq_true h
  exact abs_pos.mp hspec.2.2

/-- The local key of a listed position is that of its row. -/
theorem localKey_positionKey (svc : ReconciliationService) (item : ExchangePosition) :
    (svc.positionKey item).localKey = item.localKey := by
  have hupper : Text.upper item.symbolU = item.symbolU := upper_readSymbol item.symbol
  unfold PositionKey.localKey ReconciliationService.positionKey ExchangePosition.localKey
  rw [hupper]

/-- Positions with distinct local keys have distinct rows. -/
theorem nodup_positionRows (svc : ReconciliationService) (info : RunInfo) (locals : List LocalKey)
    (h : (ReconciliationService.exchangeKeys items).Nodup) :
    ((svc.positionRows info locals items).map Prod.fst).Nodup := by
  have hkeys : ((svc.positionRows info locals items).map Prod.fst).map PositionKey.localKey =
      ReconciliationService.exchangeKeys items := by
    unfold ReconciliationService.positionRows ReconciliationService.exchangeKeys
      ReconciliationService.heldPositions
    rw [List.map_map, List.map_map]
    apply List.map_congr_left
    intro item _
    exact localKey_positionKey svc item
  exact List.Nodup.of_map PositionKey.localKey (hkeys ▸ h)

theorem mem_localKeys {svc : ReconciliationService} (hqty : heldQty w.futures key ≠ 0)
    (hcovers : svc.Covers key) : key.localKey ∈ svc.localKeys w := by
  unfold heldQty at hqty
  cases hget : w.futures.positions.get? key with
  | none =>
    rw [hget] at hqty
    exact absurd rfl hqty
  | some row =>
    rw [hget] at hqty
    have habs : 0 < |row.qty| := abs_pos.mpr hqty
    unfold ReconciliationService.localKeys FuturesStore.listFuturesPositions
    rw [List.mem_eraseDups, List.mem_map]
    refine ⟨(key, row), ?_, rfl⟩
    rw [List.mem_filter, List.mem_insertionSort, List.mem_filter]
    exact ⟨⟨Dict.mem_entries_iff.mpr hget, decide_eq_true hcovers⟩, decide_eq_true habs⟩

/-- A row with a quantity that is not listed is locked by the run. -/
theorem openIssue_of_missing (h : r.ListsPositions items w) (hqty : heldQty w.futures key ≠ 0)
    (hcovers : r.svc.Covers key)
    (hmissing : key.localKey ∉ ReconciliationService.exchangeKeys items)
    (hsymbol : readSymbol (some key.symbol) ≠ "") :
    OpenIssue (missingLock key.symbol) (reconStep r w).core := by
  have hread : readSymbol (some (Text.upper key.symbol)) = readSymbol (some key.symbol) := by
    change Text.strip (Text.upper (Text.upper key.symbol)) = Text.strip (Text.upper key.symbol)
    rw [Text.upper_upper]
  have hconflict : missingLock key.symbol ∈ r.conflicts w := by
    unfold ReconRun.conflicts ReconciliationService.conflicts
    rw [h.linear, h.answer]
    apply List.mem_append_right
    apply List.mem_append_right
    refine List.mem_map.mpr ⟨key.localKey, ?_, ?_⟩
    · exact List.mem_filter.mpr ⟨mem_localKeys hqty hcovers, decide_eq_true hmissing⟩
    · exact congrArg (fun symbol => (IssueType.localPositionMissingOnExchange, "futures", symbol))
        hread
  have hdomain : Text.strip "futures" = "futures" := by decide +kernel
  exact openIssue_of_conflict h.success hconflict rfl hdomain
    (readSymbol_readSymbol (some key.symbol)) hsymbol

/-- A row none of the listed positions writes stays. -/
theorem positions_of_unlisted (h : r.ListsPositions items w)
    (hother : ∀ item ∈ items, item.isHeld = true → r.svc.positionKey item ≠ key) :
    (reconStep r w).futures.positions.get? key = w.futures.positions.get? key := by
  have hpositions : (reconStep r w).futures.positions = Dict.upsertAll PositionRow.merge
      (r.svc.positionRows (r.info w) (r.svc.localKeys w) items) w.futures.positions :=
    congrArg Prod.fst h.positionPart_eq
  rw [hpositions]
  apply Dict.get?_upsertAll_of_not_mem
  intro write hwrite
  obtain ⟨item, hmem, rfl⟩ := List.mem_map.mp hwrite
  obtain ⟨hitem, hheld⟩ := mem_heldPositions.mp hmem
  exact hother item hitem hheld

/-- The row of a listed position has its quantity. -/
theorem heldQty_of_listed (h : r.ListsPositions items w)
    (hdistinct : (ReconciliationService.exchangeKeys items).Nodup) {item : ExchangePosition}
    (hitem : item ∈ items) (hheld : item.isHeld = true) :
    heldQty (reconStep r w).futures (r.svc.positionKey item) = item.listedQty := by
  have hpositions : (reconStep r w).futures.positions = Dict.upsertAll PositionRow.merge
      (r.svc.positionRows (r.info w) (r.svc.localKeys w) items) w.futures.positions :=
    congrArg Prod.fst h.positionPart_eq
  let row := r.svc.positionRow (r.info w) (item.localKey ∉ r.svc.localKeys w) item
  have hwrite : (r.svc.positionKey item, row) ∈
      r.svc.positionRows (r.info w) (r.svc.localKeys w) items :=
    List.mem_map_of_mem (mem_heldPositions.mpr ⟨hitem, hheld⟩)
  have hget : (reconStep r w).futures.positions.get? (r.svc.positionKey item) = some
      (stored PositionRow.merge row (w.futures.positions.get? (r.svc.positionKey item))) := by
    rw [hpositions]
    exact Dict.get?_upsertAll_of_mem
      (nodup_positionRows r.svc (r.info w) (r.svc.localKeys w) hdistinct) hwrite _
  rw [heldQty_of_get? hget]
  cases w.futures.positions.get? (r.svc.positionKey item) <;> rfl

/-- One run that gets a list of distinct positions. -/
theorem positionsMerged_step (h : r.ListsPositions items w)
    (hdistinct : (ReconciliationService.exchangeKeys items).Nodup) :
    PositionsMerged r.svc items w (reconStep r w) where
  listed := fun item hitem hheld => heldQty_of_listed h hdistinct hitem hheld
  unlisted := fun key hother => positions_of_unlisted h hother
  live := by
    intro key
    by_cases hlisted : ∃ item ∈ items, item.isHeld = true ∧ r.svc.positionKey item = key
    · obtain ⟨item, hitem, hheld, rfl⟩ := hlisted
      rw [heldQty_of_listed h hdistinct hitem hheld]
      exact iff_of_true (ne_zero_of_isHeld hheld) (Or.inl ⟨item, hitem, hheld, rfl⟩)
    · have hother : ∀ item ∈ items, item.isHeld = true → r.svc.positionKey item ≠ key :=
        fun item hitem hheld heq => hlisted ⟨item, hitem, hheld, heq⟩
      have hget := positions_of_unlisted h hother
      rw [or_iff_right hlisted, heldQty, heldQty, hget]
  locked := fun key hqty hcovers hmissing hsymbol =>
    openIssue_of_missing h hqty hcovers hmissing hsymbol

/-- A run that does not list a row leaves it alone. -/
theorem positions_of_not_lists (h : ¬ r.Lists key) :
    (reconStep r w).futures.positions.get? key = w.futures.positions.get? key := by
  by_cases hlists : ∃ items, r.ListsPositions items w
  · obtain ⟨items, hlists⟩ := hlists
    apply positions_of_unlisted hlists
    rintro item hitem hheld rfl
    refine h ⟨items, hlists.answer, Or.inr rfl, ?_⟩
    rw [localKey_positionKey]
    exact List.mem_map_of_mem (mem_heldPositions.mpr ⟨hitem, hheld⟩)
  · rw [not_exists] at hlists
    exact congrArg (fun part => part.1.get? key) (positionPart_of_not_lists hlists)

end Step

/-! ### A sequence of runs -/

/-- A row that no run of a sequence lists stays, and every run that gets a list locks it. -/
theorem locked_of_never_listed {key : PositionKey} {row : PositionRow} {runs : List ReconRun}
    {w₀ : World} (hget : w₀.futures.positions.get? key = some row) (hqty : row.qty ≠ 0)
    (hsymbol : readSymbol (some key.symbol) ≠ "") (hnever : ∀ r ∈ runs, ¬ r.Lists key) :
    ∀ t ∈ transitions reconStep runs w₀, t.after.futures.positions.get? key = some row ∧
      ∀ items, t.input.ListsPositions items t.before → t.input.svc.Covers key →
        OpenIssue (missingLock key.symbol) t.after.core := by
  intro t ht
  have hstep : ∀ (w : World) (r : ReconRun), w.futures.positions.get? key = some row →
      ¬ r.Lists key → (reconStep r w).futures.positions.get? key = some row :=
    fun w r hw hr => (positions_of_not_lists hr).trans hw
  obtain ⟨hbefore, hafter⟩ := forall_transitions_of_inv hstep hget
    (fun t ht => hnever t.input (input_mem ht)) t ht
  refine ⟨hafter, fun items hlists hcovers => ?_⟩
  have hmissing : key.localKey ∉ ReconciliationService.exchangeKeys items := fun hmem =>
    hnever t.input (input_mem ht) ⟨items, hlists.answer, hcovers, hmem⟩
  rw [after_eq_step ht]
  exact openIssue_of_missing hlists ((heldQty_of_get? hbefore).trans_ne hqty) hcovers hmissing
    hsymbol

/-- Every run that gets a list of distinct positions merges it into the rows, and a position that
vanished stays in the rows and is locked by every such run as long as none lists it. -/
theorem vanished_positions_stay_locked (runs : List ReconRun) (w₀ : World) :
    (∀ t ∈ transitions reconStep runs w₀, ∀ items, t.input.ListsPositions items t.before →
      (ReconciliationService.exchangeKeys items).Nodup →
        PositionsMerged t.input.svc items t.before t.after) ∧
    ∀ key row, w₀.futures.positions.get? key = some row → row.qty ≠ 0 →
      readSymbol (some key.symbol) ≠ "" → (∀ r ∈ runs, ¬ r.Lists key) →
        ∀ t ∈ transitions reconStep runs w₀, t.after.futures.positions.get? key = some row ∧
          ∀ items, t.input.ListsPositions items t.before → t.input.svc.Covers key →
            OpenIssue (missingLock key.symbol) t.after.core := by
  constructor
  · intro t ht items hlists hdistinct
    rw [after_eq_step ht]
    exact positionsMerged_step hlists hdistinct
  · intro key row hget hqty hsymbol hnever
    exact locked_of_never_listed hget hqty hsymbol hnever

/-! ### A position that vanished -/

/-- A successful run without positions. -/
def emptyRun : ReconRun := ⟨linearService, "scheduled", positionAnswers []⟩

/-- The row of `positionWorld`. -/
def vanishedKey : PositionKey := ⟨unified, "BTCUSDT", "Buy", 0⟩

theorem emptyRun_lists (w : World) (h : (emptyRun.summary w).status = "success") :
    emptyRun.ListsPositions [] w := ⟨rfl, h, rfl⟩

/-- Two runs in a row lock the position that vanished before the first. -/
theorem vanished_position_locked_twice :
    OpenIssue (missingLock "BTCUSDT") (reconStep emptyRun positionWorld).core ∧
      OpenIssue (missingLock "BTCUSDT")
        (reconStep emptyRun (reconStep emptyRun positionWorld)).core := by
  have hnever : ∀ r ∈ [emptyRun, emptyRun], ¬ r.Lists vanishedKey := by
    intro r hr
    obtain rfl : r = emptyRun := by simpa using hr
    rintro ⟨items, hanswer, -, hmem⟩
    cases hanswer
    exact absurd hmem List.not_mem_nil
  have hall := (vanished_positions_stay_locked [emptyRun, emptyRun] positionWorld).2 vanishedKey
    storedPosition (by decide +kernel) (by decide +kernel) (by decide +kernel) hnever
  have hfirst := (hall _ List.mem_cons_self).2 [] (emptyRun_lists _ (by decide +kernel)) (Or.inr rfl)
  have hsecond := (hall _ (List.mem_cons_of_mem _ List.mem_cons_self)).2 []
    (emptyRun_lists _ (by decide +kernel)) (Or.inr rfl)
  exact ⟨hfirst, hsecond⟩

/-- The position is not listed, the run is successful, and yet its row has a quantity; the next run
locks it again. -/
theorem vanished_position_kept :
    let w₁ := reconStep emptyRun positionWorld
    (emptyRun.summary positionWorld).status = "success" ∧
      ReconciliationService.exchangeKeys [] = [] ∧ heldQty w₁.futures vanishedKey = 1 / 100 ∧
      openCount (missingLock "BTCUSDT") w₁.core = 1 ∧
      openCount (missingLock "BTCUSDT") (reconStep emptyRun w₁).core = 1 := by
  decide +kernel

end Botik
