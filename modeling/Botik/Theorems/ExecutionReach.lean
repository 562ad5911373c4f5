import Botik.Main.ExecutionSync
import Botik.Main.ExitFacts
import Botik.Theorems.LeverageCap

/-!
# The reach of the execution sync

A sync asks for the executions of the first wanted symbols. The position of a symbol that is never
among them stays as it is, or is given up as dust: whatever is filled, the trading loop does not
learn of it.

## Main definitions

* `InReach` — fewer symbols than the limit come before a symbol
* `KeepsOrDrops` — the position of a symbol stays or is given up

## Main results

* `keepsOrDrops_iteration` — one iteration that does not ask for the symbol
* `execution_sync_reach` — every run of the trading loop
-/

namespace Botik

open Program Runs

/-! ### Positions that stay -/

/-- The position of a symbol stays, or is given up. -/
def KeepsOrDrops (symbol : String) (w w' : World) : Prop :=
  w'.rt.position symbol = w.rt.position symbol ∨ w'.rt.position symbol = .flat

instance (symbol : String) : IsPreorder World (KeepsOrDrops symbol) where
  refl _ := .inl rfl
  trans w₁ w₂ w₃ h₁₂ h₂₃ := by
    rcases h₂₃ with hkept | hflat
    · rcases h₁₂ with hkept' | hflat'
      · exact .inl (hkept.trans hkept')
      · exact .inr (hkept.trans hflat')
    · exact .inr hflat

section Steps

variable {x : Context} {symbol other : String} {w w' : World}

theorem keepsOrDrops_of_eq (h : w'.rt.position = w.rt.position) : KeepsOrDrops symbol w w' :=
  .inl (congrFun h symbol)

/-- Only the symbol itself can be given up. -/
theorem keepsOrDrops_suppressDust (c : Config) (clock : ℚ) (w : World) :
    KeepsOrDrops symbol w (suppressDust c clock other w) := by
  have hposition : (suppressDust c clock other w).rt.position =
      Function.update w.rt.position other .flat := rfl
  unfold KeepsOrDrops
  rw [hposition]
  by_cases hsame : symbol = other
  · exact .inr (by rw [hsame, Function.update_self])
  · exact .inl (Function.update_of_ne hsame _ _)

theorem quoteSteps_keepsOrDrops : QuoteSteps x other (KeepsOrDrops symbol) where
  tables := AllowsTables.allowsRecords fun _ _ h =>
    keepsOrDrops_of_eq (congrArg Runtime.position h.rt)
  timestamps _ _ := .inl rfl
  positionFloor w := by
    obtain ⟨floors, hcached⟩ := cachePositionFloor_eq other w (resolvedPositionFloor x w.rt other)
    rw [hcached]
    exact .inl rfl
  notionalFloor w := by
    obtain ⟨floors, hcached⟩ := cacheNotionalFloor_eq other w (resolvedNotionalFloor x w.rt other)
    rw [hcached]
    exact .inl rfl
  dust clock w := keepsOrDrops_suppressDust x.config clock w

theorem exitSteps_keepsOrDrops : ExitSteps x other (KeepsOrDrops symbol) where
  toQuoteSteps := quoteSteps_keepsOrDrops
  details _ _ := .inl rfl
  forced _ _ := .inl rfl
  decided _ := .inl rfl

theorem entrySteps_keepsOrDrops : EntrySteps (KeepsOrDrops symbol) where
  tables := AllowsTables.allowsRecords fun _ _ h =>
    keepsOrDrops_of_eq (congrArg Runtime.position h.rt)
  timestamps _ _ := .inl rfl
  details _ _ _ := .inl rfl
  stop _ := .inl rfl

end Steps

/-! ### One iteration -/

section Iteration

variable {x : Context} {env : LoopEnv} {symbol : String} {w : World}

/-- Asking for the executions of other symbols leaves the position of a symbol alone. -/
theorem keepsOrDrops_refresh {fetches : List Fetch} (h : ∀ f ∈ fetches, f.symbol ≠ symbol) :
    Moves (KeepsOrDrops symbol) (refreshPositionsFromExecutions x fetches) := by
  rw [refresh_eq_each_work]
  refine moves_each_of_mem fun u hu w => ?_
  change KeepsOrDrops symbol w (step x u w)
  unfold works at hu
  cases hexecutor : x.executor with
  | none =>
    -- without an executor nothing is asked
    rw [hexecutor] at hu
    cases hu
  | some executor =>
    rw [hexecutor] at hu
    obtain ⟨f, hf, hwork⟩ := List.mem_flatMap.mp hu
    rcases List.mem_cons.mp hwork with rfl | hitem
    -- floors are looked up for every symbol, and a fill moves the position of its own
    · exact keepsOrDrops_of_eq (position_step_floors x f.symbol w)
    · obtain ⟨d, -, rfl⟩ := List.mem_map.mp hitem
      exact .inl (position_step_of_ne (h f hf).symm)

theorem keepsOrDrops_takeStock (h : ∀ f ∈ env.fetches, f.symbol ≠ symbol)
    (orders : List OpenOrder) :
    Moves (OnWorlds (KeepsOrDrops symbol)) (takeStock x env orders) := by
  have hwallet : ∀ w, (refreshWalletBalance env w).rt.position = w.rt.position := by
    intro w
    unfold refreshWalletBalance
    split
    · split_ifs
      · split <;> rfl
      · rfl
    · rfl
  exact moves_takeStock_of_refresh (keepsOrDrops_refresh h)
    (fun w => keepsOrDrops_of_eq (hwallet w)) orders

/-- An iteration that does not ask for a symbol leaves its position alone, unless it gives it up. -/
theorem keepsOrDrops_iteration (h : ∀ f ∈ env.fetches, f.symbol ≠ symbol) :
    KeepsOrDrops symbol w (iteration x env w) := by
  by_cases hactive : x.executor.isNone ∨ w.rt.stopped = true
  · unfold iteration
    rw [if_pos hactive]
    exact .inl rfl
  have hbegin : KeepsOrDrops symbol w (startIteration env w) := by
    have hreconciled : (reconcileIfDue env w).rt.position = w.rt.position :=
      congrArg Runtime.position (rt_reconcileIfDue env w)
    refine keepsOrDrops_of_eq (Eq.trans ?_ hreconciled)
    unfold startIteration
    dsimp only
    -- a panic, a pause and an answer that stops the loop leave the positions alone
    split
    · rfl
    · split_ifs
      · rfl
      · split
        · rfl
        · split_ifs <;> rfl
  have hbody : ∀ orders, Moves (OnWorlds (KeepsOrDrops symbol))
      (takeStock x env orders >>= fun _ => sendOrders x env) := fun orders =>
    moves_bind (keepsOrDrops_takeStock h orders) fun _ =>
      moves_sendOrders (fun _ => exitSteps_keepsOrDrops) entrySteps_keepsOrDrops fun _ _ => .inl rfl
  rw [iteration_of_active hactive]
  cases ordersAtStart env with
  | none =>
    -- the iteration ends before it asks for anything
    exact hbegin
  | some orders =>
    exact trans_of (KeepsOrDrops symbol) hbegin (hbody orders ⟨startIteration env w, .initial⟩)

end Iteration

/-! ### Runs -/

/-- The symbols the sync of an iteration would ask, without a limit. -/
def SyncInput.wanted (x : Context) (i : SyncInput) (s : SyncedWorld) : List String :=
  match ordersAtStart i.env with
  | none => []
  | some orders => wantedSymbols x.config s.world.rt
      (i.env.arrange (openOrderSymbols orders).dedup) i.activeSymbols

/-- A symbol is wanted, and fewer others than the limit come before it. -/
def InReach (x : Context) (y : SyncSettings) (i : SyncInput) (s : SyncedWorld)
    (symbol : String) : Prop :=
  symbol ∈ i.wanted x s ∧ (FirstSeen.before (i.wanted x s) symbol).card < y.maxSymbols

instance (x : Context) (y : SyncSettings) (i : SyncInput) (s : SyncedWorld) (symbol : String) :
    Decidable (InReach x y i s symbol) :=
  inferInstanceAs (Decidable (_ ∧ _))

section Runs

variable {x : Context} {y : SyncSettings} {i : SyncInput} {s : SyncedWorld} {symbol : String}
  {symbols : List String}

/-- A sync asks the first of the wanted symbols. -/
theorem symbolsToCheck_eq (h : symbolsToCheck x y i s = some symbols) :
    symbols = (i.wanted x s).eraseDups.take y.maxSymbols := by
  unfold symbolsToCheck at h
  unfold SyncInput.wanted
  cases horders : ordersAtStart i.env with
  | none =>
    rw [horders] at h
    split_ifs at h
  | some orders =>
    rw [horders] at h
    dsimp only at h ⊢
    split_ifs at h
    rw [← Option.some.inj h, orderedSymbols_eq, rt_reconcileIfDue]

theorem mem_symbolsToCheck_iff (h : symbolsToCheck x y i s = some symbols) :
    symbol ∈ symbols ↔ InReach x y i s symbol := by
  rw [symbolsToCheck_eq h, FirstSeen.mem_take_iff]
  rfl

/-- One iteration that does not ask for a symbol. -/
theorem keepsOrDrops_syncedIteration
    (h : (symbolsToCheck x y i s).isSome → ¬ InReach x y i s symbol) :
    KeepsOrDrops symbol s.world (syncedIteration x y i s).world := by
  refine keepsOrDrops_iteration fun f hf => ?_
  obtain ⟨asked, hasked, rfl⟩ := List.mem_map.mp hf
  cases hsymbols : symbolsToCheck x y i s with
  | none =>
    -- no sync is due
    rw [hsymbols] at hasked
    cases hasked
  | some symbols =>
    rw [hsymbols, Option.getD_some] at hasked
    rintro rfl
    exact h (by rw [hsymbols]; rfl) ((mem_symbolsToCheck_iff hsymbols).mp hasked)

end Runs

/-- In every run of the trading loop, a sync asks for the executions of exactly the symbols in
reach, which are all it wants if and only if these are no more than the limit; and the position of
a symbol that is in reach of no sync stays as it is, or is given up as dust. -/
theorem execution_sync_reach (x : Context) (y : SyncSettings) (inputs : List SyncInput)
    (s : SyncedWorld) :
    (∀ t ∈ transitions (syncedIteration x y) inputs s, ∀ symbols,
      symbolsToCheck x y t.input t.before = some symbols →
        (∀ symbol, symbol ∈ symbols ↔ InReach x y t.input t.before symbol) ∧
          ((∀ symbol ∈ t.input.wanted x t.before, symbol ∈ symbols) ↔
            (t.input.wanted x t.before).toFinset.card ≤ y.maxSymbols)) ∧
      ∀ symbol, (∀ t ∈ transitions (syncedIteration x y) inputs s,
        (symbolsToCheck x y t.input t.before).isSome → ¬ InReach x y t.input t.before symbol) →
          KeepsOrDrops symbol s.world (run (syncedIteration x y) inputs s).world := by
  refine ⟨fun t _ symbols hsymbols => ⟨fun symbol => mem_symbolsToCheck_iff hsymbols, ?_⟩,
    fun symbol hunasked => ?_⟩
  · rw [symbolsToCheck_eq hsymbols]
    exact FirstSeen.subset_take_iff _ _
  -- along the run, the position is the first one or was given up
  · have hstep : ∀ s' i, KeepsOrDrops symbol s.world s'.world →
        ((symbolsToCheck x y i s').isSome → ¬ InReach x y i s' symbol) →
          KeepsOrDrops symbol s.world (syncedIteration x y i s').world :=
      fun s' i hkept hnot =>
        trans_of (KeepsOrDrops symbol) hkept (keepsOrDrops_syncedIteration hnot)
    exact run_of_inv hstep (refl_of (KeepsOrDrops symbol) s.world) hunasked

/-- Two markets. -/
def twoMarkets : Context := { spotMarket with config := .default ["AAAUSDT", "BBBUSDT"] .spot }

/-- An iteration in which the exchange has a purchase of the second symbol. -/
def secondBought : SyncInput where
  env := { plainEnv (smallOrder 0) 1 with openOrders := .ok ⟨some 0, []⟩, intents := .ok [] }
  clock := 100
  syncedClock := 101
  activeSymbols := ["AAAUSDT", "BBBUSDT"]
  executions := fun symbol =>
    .ok (⟨some 0, none⟩, if symbol = "BBBUSDT" then [plainDelivery "e1" "Buy" "1" "100"] else [])

/-- The purchase is seen where two symbols are asked, and is not where one is. -/
theorem second_purchase_unseen :
    let start : SyncedWorld := ⟨.initial twoMarkets.config, 0⟩
    (run (syncedIteration twoMarkets ⟨8, 1⟩) [secondBought] start).world.rt.position "BBBUSDT" =
        .flat ∧
      (run (syncedIteration twoMarkets ⟨8, 2⟩) [secondBought] start).world.rt.position
        "BBBUSDT" ≠ .flat := by
  intro start
  refine ⟨?_, by decide +kernel⟩
  rcases (execution_sync_reach twoMarkets ⟨8, 1⟩ [secondBought] start).2 "BBBUSDT"
    (by decide +kernel) with hkept | hflat
  · exact hkept
  · exact hflat

end Botik
