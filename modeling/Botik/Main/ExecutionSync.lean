import Botik.Library.Listing
import Botik.Main.LoopTurns
import Botik.Main.RefreshFacts
import Botik.Main.RefreshSteps
import Botik.Main.UniverseLoop

/-!
# Which symbols are asked for executions

The trading loop asks for executions once in an interval, and of so many symbols at most: those that
are held, those with open orders, the active ones and the configured ones, in this order.

## Main definitions

* `SyncSettings`, `SyncInput`, `SyncedWorld` — the settings, what the outside does in an iteration,
  and the state with the time of the last sync
* `orderedSymbolsForExecutionSync`, `symbolsToCheck`
* `syncedIteration` — an iteration that asks for its executions itself
* `wantedSymbols` — whom a sync would ask without a limit

## Main results

* `mem_orderedSymbols_iff`
* `rt_reconStep` — a reconciliation leaves the variables of the loop alone
-/

namespace Botik

open Program

/-! ### The symbols of a sync -/

/-- The settings of the strategy section that a sync reads. -/
structure SyncSettings where
  executionRefreshIntervalSec : ℚ
  executionRefreshMaxSymbols : ℤ

namespace SyncSettings

def intervalSec (y : SyncSettings) : ℚ := max y.executionRefreshIntervalSec 1

def maxSymbols (y : SyncSettings) : ℕ := (max y.executionRefreshMaxSymbols 1).toNat

end SyncSettings

/-- The defaults of `config.py`. -/
def SyncSettings.default : SyncSettings := ⟨8, 12⟩

/-- `_push`: the symbol is spelled as a key of the floors. -/
def pushSymbol (selected : List String) (symbol : String) : List String :=
  let s := floorKey symbol
  if s = "" ∨ s ∈ selected then selected else selected ++ [s]

/-- The configured symbols, until so many are selected. -/
def pushConfigured (limit : ℕ) : List String → List String → List String
  | selected, [] => selected
  | selected, symbol :: symbols =>
    -- only here the loop breaks; what is pushed before is cut in the end
    if limit ≤ selected.length then selected
    else pushConfigured limit (pushSymbol selected symbol) symbols

/-- `_ordered_symbols_for_execution_sync`. -/
def orderedSymbolsForExecutionSync (y : SyncSettings) (c : Config) (rt : Runtime)
    (openOrderSymbols activeSymbols : List String) : List String :=
  let selected := (heldSymbols c rt).foldl pushSymbol []
  let selected := openOrderSymbols.foldl pushSymbol selected
  let selected := activeSymbols.foldl pushSymbol selected
  (pushConfigured y.maxSymbols selected c.symbols).take y.maxSymbols

/-! ### Iterations with a sync -/

/-- What the outside does in an iteration. Which symbols are fetched is not given: the fetches of
`env` are not looked at. -/
structure SyncInput where
  env : LoopEnv
  /-- `time.monotonic()` before the sync. -/
  clock : ℚ
  /-- `time.monotonic()` after the calls. -/
  syncedClock : ℚ
  activeSymbols : List String
  /-- What `get_execution_list` would answer for a symbol. -/
  executions : String → Except String (ApiReply × List Delivery)

/-- The state, and the clock of the last sync. -/
structure SyncedWorld where
  world : World
  lastExecutionsSyncTs : ℚ

/-- The symbols of the sync of an iteration, if it gets to one that is due. -/
def symbolsToCheck (x : Context) (y : SyncSettings) (i : SyncInput) (s : SyncedWorld) :
    Option (List String) :=
  if x.executor.isNone ∨ s.world.rt.stopped = true then none
  else
    match ordersAtStart i.env with
    | none => none
    | some orders =>
      -- the reconciliation of the iteration comes before the sync
      if i.clock - s.lastExecutionsSyncTs < y.intervalSec then none
      else some (orderedSymbolsForExecutionSync y x.config (reconcileIfDue i.env s.world).rt
        (i.env.arrange (openOrderSymbols orders).dedup) i.activeSymbols)

/-- The answers for some symbols. -/
def SyncInput.fetches (i : SyncInput) (symbols : List String) : List Fetch :=
  symbols.map fun symbol => ⟨symbol, i.executions symbol⟩

/-- One iteration of the trading loop, with the sync of `refresh_positions_from_executions`. -/
def syncedIteration (x : Context) (y : SyncSettings) (i : SyncInput) (s : SyncedWorld) :
    SyncedWorld where
  world :=
    iteration x { i.env with fetches := i.fetches ((symbolsToCheck x y i s).getD []) } s.world
  lastExecutionsSyncTs :=
    match symbolsToCheck x y i s with
    | none => s.lastExecutionsSyncTs
    -- nobody is asked, and the clock is not read again
    | some [] => i.clock
    | some _ => i.syncedClock

/-! ### Who is in reach -/

/-- The symbols a sync would ask, without a limit: in their order, as they are spelled. -/
def wantedSymbols (c : Config) (rt : Runtime) (openOrderSymbols activeSymbols : List String) :
    List String :=
  ((heldSymbols c rt ++ openOrderSymbols ++ activeSymbols ++ c.symbols).map floorKey).filter
    (· ≠ "")

section Wanted

variable {y : SyncSettings} {c : Config} {rt : Runtime} {symbols selected : List String}
  {openOrderSymbols activeSymbols : List String} {limit : ℕ}

theorem foldl_pushSymbol : symbols.foldl pushSymbol selected =
    ((symbols.map floorKey).filter (· ≠ "")).foldl FirstSeen.push selected := by
  induction symbols generalizing selected with
  | nil => rw [List.map_nil, List.filter_nil, List.foldl_nil, List.foldl_nil]
  | cons symbol symbols ih =>
    rw [List.foldl_cons, ih, List.map_cons]
    unfold pushSymbol
    dsimp only
    by_cases hblank : floorKey symbol = ""
    · rw [if_pos (.inl hblank), List.filter_cons_of_neg (by simp [hblank])]
    · rw [List.filter_cons_of_pos (by simp [hblank]), List.foldl_cons, FirstSeen.push]
      simp only [hblank, false_or]

/-- Ending early leaves nothing out that would be taken. -/
theorem take_pushConfigured : (pushConfigured limit selected symbols).take limit =
    (symbols.foldl pushSymbol selected).take limit := by
  induction symbols generalizing selected with
  | nil => rw [pushConfigured, List.foldl_nil]
  | cons symbol symbols ih =>
    unfold pushConfigured
    by_cases hfull : limit ≤ selected.length
    -- what the rest would add comes behind the limit
    · rw [if_pos hfull, foldl_pushSymbol]
      obtain ⟨rest, hrest⟩ := FirstSeen.prefix_foldl_push
        (((symbol :: symbols).map floorKey).filter (· ≠ "")) selected
      rw [← hrest, List.take_append_of_le_length hfull]
    · rw [if_neg hfull, ih, List.foldl_cons]

/-- The first of the wanted symbols are asked. -/
theorem orderedSymbols_eq : orderedSymbolsForExecutionSync y c rt openOrderSymbols activeSymbols =
    (wantedSymbols c rt openOrderSymbols activeSymbols).eraseDups.take y.maxSymbols := by
  unfold orderedSymbolsForExecutionSync wantedSymbols
  dsimp only
  rw [take_pushConfigured, ← List.foldl_append, ← List.foldl_append, ← List.foldl_append,
    foldl_pushSymbol, FirstSeen.foldl_push, ← List.append_assoc, ← List.append_assoc]
  simp

/-- A symbol is asked exactly where it is wanted and fewer others come before it. -/
theorem mem_orderedSymbols_iff {symbol : String} :
    symbol ∈ orderedSymbolsForExecutionSync y c rt openOrderSymbols activeSymbols ↔
      symbol ∈ wantedSymbols c rt openOrderSymbols activeSymbols ∧
        (FirstSeen.before (wantedSymbols c rt openOrderSymbols activeSymbols) symbol).card <
          y.maxSymbols := by
  rw [orderedSymbols_eq, FirstSeen.mem_take_iff]

end Wanted

/-! ### What a reconciliation leaves alone -/

section Reconciliation

variable (svc : ReconciliationService) (info : RunInfo)

theorem keeps_rt_onAnswer {α : Type} {answer : Except String α} {work : α → ReconState → ReconState}
    (h : ∀ a s, (work a s).world.rt = s.world.rt) :
    Keeps (fun s : ReconState => s.world.rt) (ReconciliationService.onAnswer answer work) :=
  moves_bind (moves_fromExcept _) fun a => moves_modify (h a)

theorem rt_reconcileWallet (answer : ListReply WalletCoin) (s : ReconState) :
    (reconcileWallet svc info answer s).world.rt = s.world.rt := by
  have hcoin : ∀ locals s coin, (importBalance svc info locals coin s).world.rt = s.world.rt := by
    intro locals s coin
    unfold importBalance
    split_ifs <;> rfl
  have hstale : ∀ seen s e, (markStale svc info seen s e).world.rt = s.world.rt := by
    intro seen s e
    unfold markStale
    split_ifs <;> rfl
  unfold reconcileWallet
  split_ifs
  · unfold reconcileCoins
    dsimp only
    rw [foldl_keeps (f := World.rt) (hstale _),
      foldl_keeps (f := World.rt) fun s coin => hcoin _ s coin]
  · rfl

theorem rt_reconcileOpenOrders (answer : ListReply OpenOrderItem) (s : ReconState) :
    (svc.reconcileOpenOrders info answer s).world.rt = s.world.rt := by
  have himport : ∀ order w, (svc.importOrder info order w).rt = w.rt := by
    intro order w
    unfold ReconciliationService.importOrder
    cases svc.marketCategory <;> rfl
  have horder : ∀ s order, (svc.reconcileOrder info s order).world.rt = s.world.rt := by
    intro s order
    unfold ReconciliationService.reconcileOrder ReconciliationService.reportOrphanedOrder
    split_ifs
    · rfl
    · exact himport order _
    · exact himport order _
  have hmissing : ∀ s e, (svc.reportMissingOrder info s e).world.rt = s.world.rt := by
    intro s e
    unfold ReconciliationService.reportMissingOrder ReconciliationService.markMissing
    cases svc.marketCategory <;> rfl
  unfold ReconciliationService.reconcileOpenOrders
  split_ifs
  · unfold ReconciliationService.reconcileListedOrders
    dsimp only
    rw [foldl_keeps (f := World.rt) hmissing, foldl_keeps (f := World.rt) horder]
    rfl
  · rfl

theorem rt_reconcileSymbolFills (symbol : String) (answer : ListReply FundingItem)
    (s : ReconState) : (svc.reconcileSymbolFills symbol answer s).world.rt = s.world.rt := by
  have hmirror : ∀ execId s item, (svc.mirrorFill symbol execId item s).world.rt = s.world.rt := by
    intro execId s item
    unfold ReconciliationService.mirrorFill
    cases svc.marketCategory with
    | spot => rfl
    | linear =>
      dsimp only
      generalize svc.mirrorFunding symbol item _ = funding
      rfl
  have hfill : ∀ s item, (svc.reconcileFill symbol s item).world.rt = s.world.rt := by
    intro s item
    unfold ReconciliationService.reconcileFill
    dsimp only
    split_ifs
    · rfl
    · exact hmirror _ s item
  unfold ReconciliationService.reconcileSymbolFills
  split_ifs
  · exact foldl_keeps (f := World.rt) hfill _ _
  · rfl

theorem rt_reconcileFuturesPositions (answer : ListReply ExchangePosition) (s : ReconState) :
    (svc.reconcileFuturesPositions info answer s).world.rt = s.world.rt := by
  have hitem : ∀ locals s item,
      (svc.reconcilePosition info locals s item).world.rt = s.world.rt := by
    intro locals s item
    unfold ReconciliationService.reconcilePosition ReconciliationService.reportUnprotected
      ReconciliationService.reportOrphanedPosition
    dsimp only
    split_ifs <;> rfl
  have hmissing : ∀ s key,
      (ReconciliationService.reportMissingPosition info s key).world.rt = s.world.rt :=
    fun _ _ => rfl
  unfold ReconciliationService.reconcileFuturesPositions
  split_ifs
  · unfold ReconciliationService.reconcileListedPositions
    dsimp only
    rw [foldl_keeps (f := World.rt) hmissing, foldl_keeps (f := World.rt) (hitem _)]
    rfl
  · rfl

theorem rt_resolveStaleEntryLockIssues (s : ReconState) :
    (svc.resolveStaleEntryLockIssues info s).world.rt = s.world.rt := by
  have hissue : ∀ s e, (ReconciliationService.resolveIfStale info e s).world.rt = s.world.rt := by
    intro s e
    unfold ReconciliationService.resolveIfStale
    dsimp only
    split_ifs <;> rfl
  unfold ReconciliationService.resolveStaleEntryLockIssues
  exact foldl_keeps (f := World.rt) hissue _ s

/-- A reconciliation writes tables, and leaves the variables of the loop alone. -/
theorem rt_reconStep (r : ReconRun) (w : World) : (reconStep r w).rt = w.rt := by
  have hpositions : ∀ info,
      Keeps (fun s : ReconState => s.world.rt) (r.svc.reconcilePositions info r.answers) := by
    intro info
    unfold ReconciliationService.reconcilePositions
    cases r.svc.marketCategory with
    | spot => exact moves_pure _
    | linear => exact keeps_rt_onAnswer (rt_reconcileFuturesPositions r.svc info)
  have hbody : ∀ info, Keeps (fun s : ReconState => s.world.rt) (r.svc.body info r.answers) := by
    intro info
    unfold ReconciliationService.body
    refine moves_bind (keeps_rt_onAnswer (rt_reconcileWallet r.svc info)) fun _ => ?_
    refine moves_bind (keeps_rt_onAnswer (rt_reconcileOpenOrders r.svc info)) fun _ => ?_
    refine moves_bind (moves_each (fun symbol => ?_) _) fun _ => ?_
    · exact keeps_rt_onAnswer (rt_reconcileSymbolFills r.svc symbol)
    refine moves_bind (hpositions info) fun _ => ?_
    exact moves_modify (rt_resolveStaleEntryLockIssues r.svc info)
  have hkept := hbody (r.svc.start r.triggerSource r.answers.utc w).1
    (r.svc.start r.triggerSource r.answers.utc w).2
  unfold reconStep ReconciliationService.run
  dsimp only
  cases hrun : r.svc.body (r.svc.start r.triggerSource r.answers.utc w).1 r.answers
      (r.svc.start r.triggerSource r.answers.utc w).2 with
  | ok u s =>
    rw [after_of_ok hrun] at hkept
    exact hkept
  | error e s =>
    rw [after_of_error hrun] at hkept
    exact hkept

theorem rt_reconcileIfDue (env : LoopEnv) (w : World) : (reconcileIfDue env w).rt = w.rt := by
  unfold reconcileIfDue
  cases env.reconciliation with
  | none => rfl
  | some r => exact rt_reconStep r w

end Reconciliation

end Botik
