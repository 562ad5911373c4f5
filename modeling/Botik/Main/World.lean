import Mathlib.Data.Finset.Card
import Mathlib.Data.Finset.Insert
import Mathlib.Logic.Function.Basic
import Botik.Execution.Executor
import Botik.Library.Program
import Botik.Learning.Bandit
import Botik.Risk.Position
import Botik.Storage.CoreStore
import Botik.Storage.SpotStore
import Botik.Storage.SqliteStore

/-!
# The state of the trading runtime

The configuration and the local variables of `run` in `main.py`, and the tables.
Each per-symbol dictionary of the source is a total function; its value at a
symbol that is no key is the default every reader of the dictionary passes to
`get`.

## Main definitions

* `Config` and its derived limits
* `Runtime`, `World`, `World.initial`
* `Site`, `Fault`, `Exn`, `RunM`, `write`, `read` — database statements that may
  raise
* `resolvePositionFloor`, `resolvePositionNotionalFloor`
* `setPosition`, `resetSymbolRuntimeState`
-/

namespace Botik

open Program

/-! ### Configuration -/

/-- The part of the configuration the modelled code reads. -/
structure Config where
  symbols : List String
  marketCategory : MarketCategory
  minPositionQtyBase : ℚ
  minActivePositionUsdtSetting : ℚ
  positionHoldTimeoutSec : ℚ
  forceExitEnabled : Bool
  forceExitTimeInForce : String
  forceExitUseMarket : Bool
  allowTakerExit : Bool
  forceExitCooldownSec : ℚ
  forceExitDustCooldownSecSetting : ℚ
  stopLossPctSetting : ℚ
  takeProfitPctSetting : ℚ
  pnlExitEnabled : Bool
  fallbackStoplossBpsSetting : ℚ
  fallbackBreakevenBpsSetting : ℚ
  fallbackTrailingBpsSetting : ℚ
  fallbackTrailingActivationBpsSetting : ℚ
  targetProfit : ℚ
  safetyBuffer : ℚ
  makerRate : ℚ
  defaultTickSize : ℚ
  /-- `runtime_strategy_mode == "spike_reversal"`. -/
  spikeReversal : Bool
  fastRepriceOnSend : Bool
  quoteMaxBookAgeMsSetting : ℤ
  entryTickOffset : ℤ
  strictPairFilter : Bool
  initialEquityUsdt : ℚ
  maxTotalExposurePctOfInitial : ℚ
  maxSymbolExposurePct : ℚ
  maxOrdersPerMinute : ℤ
  maxOpenPositions : ℤ
  /-- `risk.default_leverage`; `none` where it is no number. -/
  defaultLeverage : Option ℚ
  profileIds : List String
  strategyOwner : String

namespace Config

/-- The defaults of `config.py`, and one profile. -/
def default (symbols : List String) (marketCategory : MarketCategory) : Config where
  symbols := symbols
  marketCategory := marketCategory
  minPositionQtyBase := 1 / 1000000
  minActivePositionUsdtSetting := 1
  positionHoldTimeoutSec := 180
  forceExitEnabled := true
  forceExitTimeInForce := "IOC"
  forceExitUseMarket := false
  allowTakerExit := true
  forceExitCooldownSec := 10
  forceExitDustCooldownSecSetting := 300
  stopLossPctSetting := 3 / 1000
  takeProfitPctSetting := 5 / 1000
  pnlExitEnabled := true
  fallbackStoplossBpsSetting := 0
  fallbackBreakevenBpsSetting := 0
  fallbackTrailingBpsSetting := 0
  fallbackTrailingActivationBpsSetting := 0
  targetProfit := 1 / 10000
  safetyBuffer := 5 / 100000
  makerRate := 1 / 1000
  defaultTickSize := 1 / 100
  spikeReversal := false
  fastRepriceOnSend := true
  quoteMaxBookAgeMsSetting := 1200
  entryTickOffset := 1
  strictPairFilter := true
  initialEquityUsdt := 10000
  maxTotalExposurePctOfInitial := 2
  maxSymbolExposurePct := 1
  maxOrdersPerMinute := 30
  maxOpenPositions := 0
  defaultLeverage := some 1
  profileIds := ["default"]
  strategyOwner := "MicroSpreadStrategy"

/-- `min_active_position_usdt`: an unset or zero setting is one. -/
def minActivePositionUsdt (c : Config) : ℚ :=
  max (if c.minActivePositionUsdtSetting = 0 then 1 else c.minActivePositionUsdtSetting) 0

def forceExitDustCooldownSec (c : Config) : ℚ :=
  max c.forceExitDustCooldownSecSetting c.forceExitCooldownSec

def stopLossPct (c : Config) : ℚ := max c.stopLossPctSetting 0

def takeProfitPct (c : Config) : ℚ := max c.takeProfitPctSetting 0

def quoteMaxBookAgeMs (c : Config) : ℤ := max c.quoteMaxBookAgeMsSetting 100

/-- `spot_notional_floor_enabled`. -/
def spotNotionalFloorEnabled (c : Config) : Bool := c.marketCategory = .spot

end Config

/-- What a run is given: its configuration and its executor, if it has one. -/
structure Context where
  config : Config
  executor : Option Executor

/-! ### Runtime variables -/

/-- The per-symbol variables besides the position itself. -/
structure SymbolState where
  signalId : Option String
  openedWallMs : Option ℤ
  openedAt : Option ℚ
  holdTimeoutSec : ℚ
  stopLossPct : ℚ
  takeProfitPct : ℚ
  targetProfitRatio : ℚ
  safetyBufferRatio : ℚ
  peakPnlBps : ℚ
  deriving DecidableEq, Repr

/-- The variables of a symbol without a position. -/
def SymbolState.initial (c : Config) : SymbolState where
  signalId := none
  openedWallMs := none
  openedAt := none
  holdTimeoutSec := c.positionHoldTimeoutSec
  stopLossPct := c.stopLossPct
  takeProfitPct := c.takeProfitPct
  targetProfitRatio := max c.targetProfit 0
  safetyBufferRatio := max c.safetyBuffer 0
  peakPnlBps := 0

structure Runtime where
  /-- `net_position_base` and `avg_entry_price`. -/
  position : String → Position
  /-- The keys of `net_position_base`. -/
  tracked : List String
  details : String → SymbolState
  /-- `symbol_position_floor`; `none` where it is not resolved yet. -/
  positionFloor : String → Option ℚ
  /-- `symbol_position_notional_floor`, likewise. -/
  notionalFloor : String → Option ℚ
  dustExitSuppressedUntil : String → ℚ
  lastForceExitTs : String → ℚ
  lastProtectionApplyTs : String → ℚ
  seenExecIds : Finset String
  walletHeldBaseSymbols : List String
  /-- `_order_timestamps` of the risk manager, oldest first. -/
  orderTimestamps : List ℚ
  /-- The trading loop has returned. -/
  stopped : Bool

/-- The variables at the start of a run. -/
def Runtime.initial (c : Config) : Runtime where
  position := fun _ => .flat
  tracked := c.symbols.eraseDups
  details := fun _ => .initial c
  positionFloor := fun s => if s ∈ c.symbols then some c.minPositionQtyBase else none
  notionalFloor := fun s => if s ∈ c.symbols then some c.minActivePositionUsdt else none
  dustExitSuppressedUntil := fun _ => 0
  lastForceExitTs := fun _ => 0
  lastProtectionApplyTs := fun _ => 0
  seenExecIds := ∅
  walletHeldBaseSymbols := []
  orderTimestamps := []
  stopped := false

/-- A call that reaches the exchange, and whether it was accepted, a decision taken, or a reward
given. -/
inductive Event
  | placeOrder (order : OrderRequest) (accepted : Bool)
  | cancelOrder (symbol orderLinkId : String) (accepted : Bool)
  | cancelAllOrders (accepted : Bool)
  | decideExit (symbol : String)
  | rewardArm (signalId : String)
  deriving DecidableEq, Repr

/-- The runtime variables, the tables and what was sent and decided so far. -/
structure World where
  rt : Runtime
  lifecycle : LifecycleStore
  legacy : LegacyStore
  futures : FuturesStore
  spot : SpotStore
  core : CoreStore
  bandit : BanditStore
  trace : List Event

/-- A fresh process on given tables. -/
def World.restart (c : Config) (w : World) : World :=
  { w with rt := .initial c, trace := [] }

/-- A fresh process on empty tables. -/
def World.initial (c : Config) : World where
  rt := .initial c
  lifecycle := .empty
  legacy := .empty
  futures := .empty
  spot := .empty
  core := .empty
  bandit := .empty
  trace := []

/-! ### Statements that may raise -/

/-- The database statements of `_ensure_futures_protection`. -/
inductive ProtectionSite
  | currentStatus
  | unplannedPosition
  | unplannedProtection
  | unplannedAudit
  | phasePosition
  | phaseProtection
  | finalPosition
  | finalProtection
  | finalAudit
  deriving DecidableEq, Repr

/-- The database statements that record the outcome of a signal. -/
inductive OutcomeSite
  | executions
  | entryBasis
  | outcome
  | reward
  | orders
  | banditSignal
  | banditArm
  deriving DecidableEq, Repr

/-- The database statements that record an accepted order. -/
inductive OrderSite
  | legacy
  | mirror
  | signalMap
  | event
  deriving DecidableEq, Repr

/-- The database statements of `maybe_force_exit`. -/
inductive ExitSite
  | riskView
  | decisionAudit
  | failureAudit
  | order (site : OrderSite)
  | submittedAudit
  deriving DecidableEq, Repr

/-- The database statements around an intent of the strategy. -/
inductive IntentSite
  | signalSnapshot
  | reconciliationLocks
  | lockAudit
  | holdPolicy
  | entryGate
  | order (site : OrderSite)
  | protection
  deriving DecidableEq, Repr

/-- The places where a database statement of the modelled code may raise. -/
inductive Site
  | signalId
  | executionEvent
  | protection (site : ProtectionSite)
  | spotHolding
  | flat (site : OutcomeSite)
  | flatPosition
  | flatProtection
  | orderEvent
  | fill
  | mirror
  | orderStatus
  | sync (site : OutcomeSite)
  | forceExit (site : ExitSite)
  | exitQuote (site : OrderSite)
  | intent (site : IntentSite)
  deriving DecidableEq, Repr

/-- How a writing statement raises: before it has any effect, or on commit, with its
effect left in the open transaction of the connection. A later commit of the connection
keeps that effect; the retry of a locked write rolls it back. -/
inductive Fault
  | atExecute
  | atCommit
  | rolledBack
  deriving DecidableEq, Repr

/-- An exception: of a database statement, of a text field that is no number, or
of a call to the exchange. -/
inductive Exn
  | database (site : Site)
  | value (field : String)
  | api (call : String)
  deriving DecidableEq, Repr

/-- The faults of one step. -/
abbrev Faults := Site → Option Fault

/-- Runtime code. -/
abbrev RunM := EStateM Exn World

/-- A writing statement with its commit. The tables are what the transaction it leaves
open comes to. -/
def write (faults : Faults) (site : Site) (update : World → World) : RunM Unit :=
  match faults site with
  | none => modify update
  | some .atExecute => throw (.database site)
  | some .atCommit => do
    modify update
    throw (.database site)
  -- the rollback is taken to come before the tables are read again
  | some .rolledBack => throw (.database site)

/-- A reading statement. -/
def read {α : Type} (faults : Faults) (site : Site) (query : World → α) : RunM α :=
  match faults site with
  | none => do return query (← get)
  | some _ => throw (.database site)

section Statements

variable {faults : Faults} {site : Site} {update : World → World} {α β : Type}
  {query : World → α}

theorem write_of_none (h : faults site = none) : write faults site update = modify update := by
  rw [write, h]

theorem read_run_of_none (h : faults site = none) (w : World) :
    read faults site query w = .ok (query w) w := by
  rw [read, h]
  rfl

/-- A reading statement answers or raises; the state stays. -/
theorem read_run_cases (faults : Faults) (site : Site) (query : World → α) (w : World) :
    read faults site query w = .ok (query w) w ∨
      read faults site query w = .error (.database site) w := by
  cases h : faults site with
  | none => exact Or.inl (read_run_of_none h w)
  | some fault =>
    rw [read, h]
    exact Or.inr rfl

theorem moves_write {R : World → World → Prop} [IsPreorder World R] (h : ∀ w, R w (update w)) :
    Moves R (write faults site update) := by
  unfold write
  split
  · exact moves_modify h
  · exact moves_throw _
  · exact moves_bind (moves_modify h) fun _ => moves_throw _
  · exact moves_throw _

theorem moves_read {R : World → World → Prop} [IsPreorder World R] :
    Moves R (read faults site query) := by
  unfold read
  split
  · exact moves_bind moves_get fun _ => moves_pure _
  · exact moves_throw _

@[simp] theorem raisesOnly_write {P : Exn → Prop}
    (h : faults site ≠ none → P (.database site)) :
    RaisesOnly P (write faults site update) := by
  unfold write
  split
  · exact raisesOnly_modify P update
  · exact raisesOnly_throw (h (by simp [*]))
  · exact raisesOnly_bind (raisesOnly_modify P update)
      fun _ => raisesOnly_throw (h (by simp [*]))
  · exact raisesOnly_throw (h (by simp [*]))

@[simp] theorem raisesOnly_read {P : Exn → Prop}
    (h : faults site ≠ none → P (.database site)) :
    RaisesOnly P (read faults site query) := by
  unfold read
  split
  · exact raisesOnly_bind (raisesOnly_get P) fun _ => raisesOnly_pure P _
  · exact raisesOnly_throw (h (by simp [*]))

end Statements

/-! ### Floors -/

/-- The key of the two floor dictionaries. -/
def floorKey (symbol : String) : String := Text.strip (Text.upper symbol)

/-- `_position_floor`. -/
def positionFloor (c : Config) (rt : Runtime) (symbol : String) : ℚ :=
  (rt.positionFloor (floorKey symbol)).getD c.minPositionQtyBase

/-- `_position_notional_floor`. -/
def positionNotionalFloor (c : Config) (rt : Runtime) (symbol : String) : ℚ :=
  (rt.notionalFloor (floorKey symbol)).getD c.minActivePositionUsdt

/-- A configured floor, raised to the exchange's positive minimum. -/
def raiseFloor (floor : ℚ) (exchangeMin : Option ℚ) : ℚ :=
  match exchangeMin with
  | some m => if 0 < m then max floor m else floor
  | none => floor

/-- The floor `_resolve_position_floor` answers. -/
def resolvedPositionFloor (x : Context) (rt : Runtime) (symbol : String) : ℚ :=
  let key := floorKey symbol
  if key = "" then x.config.minPositionQtyBase
  else (rt.positionFloor key).getD
    (raiseFloor x.config.minPositionQtyBase (x.executor.bind (·.getSymbolMinQty key)))

/-- The floor `_resolve_position_notional_floor` answers. -/
def resolvedNotionalFloor (x : Context) (rt : Runtime) (symbol : String) : ℚ :=
  let key := floorKey symbol
  if key = "" then x.config.minActivePositionUsdt
  else (rt.notionalFloor key).getD
    (if x.config.spotNotionalFloorEnabled then
      raiseFloor x.config.minActivePositionUsdt
        (x.executor.bind (·.getSymbolMinNotionalQuote key))
    else x.config.minActivePositionUsdt)

/-- `symbol_position_floor[symbol_u] = …`. -/
def cachePositionFloor (symbol : String) (floor : ℚ) (w : World) : World :=
  if floorKey symbol = "" then w
  else { w with rt := { w.rt with
    positionFloor := Function.update w.rt.positionFloor (floorKey symbol) (some floor) } }

/-- `symbol_position_notional_floor[symbol_u] = …`. -/
def cacheNotionalFloor (symbol : String) (floor : ℚ) (w : World) : World :=
  if floorKey symbol = "" then w
  else { w with rt := { w.rt with
    notionalFloor := Function.update w.rt.notionalFloor (floorKey symbol) (some floor) } }

/-- `_resolve_position_floor`: answer the floor and remember it. -/
def resolvePositionFloor (x : Context) (symbol : String) : RunM ℚ := do
  let w ← get
  let floor := resolvedPositionFloor x w.rt symbol
  modify (cachePositionFloor symbol floor)
  return floor

/-- `_resolve_position_notional_floor`: answer the floor and remember it. -/
def resolvePositionNotionalFloor (x : Context) (symbol : String) : RunM ℚ := do
  let w ← get
  let floor := resolvedNotionalFloor x w.rt symbol
  modify (cacheNotionalFloor symbol floor)
  return floor

/-! ### Positions -/

/-- `net_position_base[symbol] = …; avg_entry_price[symbol] = …`. -/
def setPosition (symbol : String) (p : Position) (w : World) : World :=
  { w with rt := { w.rt with
    position := Function.update w.rt.position symbol p
    tracked := if symbol ∈ w.rt.tracked then w.rt.tracked else w.rt.tracked ++ [symbol] } }

/-- Rewrite the other variables of a symbol. -/
def setDetails (symbol : String) (f : SymbolState → SymbolState) (w : World) : World :=
  { w with rt := { w.rt with
    details := Function.update w.rt.details symbol (f (w.rt.details symbol)) } }

/-- `_reset_symbol_runtime_state`. -/
def resetSymbolRuntimeState (c : Config) (symbol : String) (w : World) : World :=
  setDetails symbol (fun _ => .initial c) (setPosition symbol .flat w)

section Positions

variable (symbol : String) (p : Position) (f : SymbolState → SymbolState) (c : Config) (w : World)

@[simp] theorem position_setPosition :
    (setPosition symbol p w).rt.position = Function.update w.rt.position symbol p := rfl

@[simp] theorem position_resetSymbolRuntimeState :
    (resetSymbolRuntimeState c symbol w).rt.position =
      Function.update w.rt.position symbol .flat := rfl

end Positions

end Botik
