import Botik.Learning.Bandit
import Botik.Learning.Policy
import Botik.Main.World
import Botik.Marketdata.UniverseDiscovery
import Botik.Marketdata.WsPublic
import Botik.Strategy.SymbolScanner

/-!
# The loops over the universe

`universe_loop` of `main.py`: from time to time the symbols are discovered again. Those with an
open position stay. The new universe, the variables of its symbols and the subscriptions change in
one go; the active symbols follow when the exchange was told.

Between these two parts, and before and after them, the stream, the trading loop and the scanner
go on.

`scanner_loop`: a pass evaluates the symbols of the universe, selects the best of them and a profile
for each, and hands them to the trading loop, by a queue of size one and by the trading state. The
trading loop takes them at the beginning of an iteration. Where the queue is empty it goes on with
the active symbols, and with the whole universe if there are none.

Passes, iterations, the evaluations that are made before an order, the loop over the universe and
restarts come in any order. A restart keeps what the trading state has of the symbols.

## Main definitions

* `heldSymbols`, `mergedSymbols`
* `Universe`, `Universe.start`
* `Universe.refresh`, `Universe.activate` — the two parts of a round
* `UniverseEvent`, `Universe.step`
* `ScannerSettings`, `ScannerPass`
* `Candidates`, `Candidates.scan`, `Candidates.take`
* `CandidateEvent`, `Candidates.step`
-/

namespace Botik

open Discovery

/-! ### The universe -/

/-- The symbols whose position is not below its floor. -/
def heldSymbols (c : Config) (rt : Runtime) : List String :=
  rt.tracked.filter fun s => positionFloor c rt s ≤ |(rt.position s).qty|

/-- `merged`: the held symbols and then the discovered ones, each of them once. -/
def mergedSymbols (c : Config) (rt : Runtime) (discovered : List String) : List String :=
  WsPublic.normalizeSymbols (heldSymbols c rt ++ discovered)

/-- The `setdefault` calls for one symbol. -/
def trackSymbol (c : Config) (rt : Runtime) (s : String) : Runtime :=
  { rt with
    tracked := if s ∈ rt.tracked then rt.tracked else rt.tracked ++ [s]
    positionFloor := Function.update rt.positionFloor s
      ((rt.positionFloor s).or (some c.minPositionQtyBase))
    notionalFloor := Function.update rt.notionalFloor s
      ((rt.notionalFloor s).or (some c.minActivePositionUsdt)) }

/-- What the loops share: `config.symbols`, the variables of the symbols, the client of the stream,
and what is active. -/
structure Universe where
  symbols : List String
  rt : Runtime
  client : WsPublic.Client
  activeSymbols : List String
  activeProfiles : Dict String String
  activePolicyMeta : Dict String PolicyMeta

/-- The settings of a round. -/
structure UniverseSettings where
  config : Config
  stream : WsPublic.Settings
  category : MarketCategory
  discovery : DiscoverySettings
  scannerTopK : ℤ
  policyModelId : Option String

namespace Universe

variable (x : UniverseSettings)

/-- `profile_ids[0]`. -/
def firstProfile : String := x.config.profileIds.headD ""

/-- The meta data of a symbol that nothing was selected for. -/
def staticMeta (modelId : Option String) (reason profileId : String) : PolicyMeta where
  policyUsed := "Static"
  profileId := profileId
  predOpenProb := none
  predExpEdgeBps := none
  activeModelId := modelId
  reason := reason

/-- `set_active_profiles`, of symbols and their profiles. -/
def profilesOf (profiles : List (String × String)) : Dict String String :=
  (profiles.filter fun p => p.2 ≠ "").foldl (fun d p => d.set p.1 p.2) .empty

/-- Before the loops begin. -/
def start (state : MarketState) : Universe where
  symbols := x.config.symbols
  rt := .initial x.config
  client := .start x.config.symbols state
  activeSymbols := x.config.symbols
  activeProfiles := profilesOf (x.config.symbols.map fun s => (s, firstProfile x))
  activePolicyMeta := x.config.symbols.foldl
    (fun d s => d.set s (staticMeta none "startup" (firstProfile x))) .empty

/-- A round, up to the first request to the exchange. -/
def refresh (discovered : Except PyError (List String)) (u : Universe) : Universe :=
  match discovered with
  | .error _ => u
  | .ok discovered =>
    let merged := mergedSymbols x.config u.rt discovered
    if discovered = [] ∨ merged = [] ∨ merged = u.symbols then u
    else
      { u with
        symbols := merged
        rt := merged.foldl (trackSymbol x.config) u.rt
        client := WsPublic.updateSymbols merged u.client }

/-- `get_active_profile_id(s) or profile_ids[0]`. -/
def profileOf (profiles : Dict String String) (s : String) : String :=
  (Text.truthy (profiles.get? s)).getD (firstProfile x)

/-- The rest of a round that has changed the universe. -/
def activate (u : Universe) : Universe :=
  let kept := u.activeSymbols.filter (· ∈ u.symbols)
  let active := if kept = [] then u.symbols.take (max x.scannerTopK.toNat 1) else kept
  let profiles := profilesOf (active.map fun s => (s, profileOf x u.activeProfiles s))
  { u with
    activeSymbols := active
    activeProfiles := profiles
    activePolicyMeta := active.foldl (fun d s => d.set s
      ((u.activePolicyMeta.get? s).getD
        (staticMeta x.policyModelId "universe_refresh" (profileOf x profiles s)))) .empty }

end Universe

/-- What happens to the universe, in any order. -/
inductive UniverseEvent
  /-- A round begins, with the answers to its two requests. -/
  | refresh (instruments : Except PyError (List InstrumentItem))
      (tickers : Except PyError (List Ticker))
  /-- The round ends. -/
  | activate
  /-- The stream sends a book. -/
  | message (nowMs : ℤ) (m : WsPublic.BookMessage)
  /-- The trading loop goes on. -/
  | trade (rt : Runtime)
  /-- The scanner makes its choice. -/
  | scan (selected : List String) (profiles : List (String × String))
      (policyMeta : Dict String PolicyMeta)

/-- One event. -/
def Universe.step (x : UniverseSettings) (event : UniverseEvent) (u : Universe) : Universe :=
  match event with
  | .refresh instruments tickers =>
    u.refresh x (discoverTopSymbolsByCategory x.category x.discovery instruments tickers)
  | .activate => u.activate x
  | .message nowMs m => { u with client := WsPublic.handleMessage x.stream nowMs m u.client }
  | .trade rt => { u with rt := rt }
  | .scan selected profiles policyMeta =>
    { u with
      activeSymbols := selected
      activeProfiles := Universe.profilesOf profiles
      activePolicyMeta := policyMeta }

/-! ### The scanner -/

/-- `profile_ids` of the configured profiles. -/
def profileIdsOf (actionProfiles : List PolicyProfile) : List String :=
  let ids := (actionProfiles.map fun p => Text.strip p.profileId).filter (· ≠ "")
  if ids = [] then ["default"] else ids

/-- `policy_profiles`: the configured profiles, or one of the settings of the strategy. -/
def policyProfilesOf (c : StrategyConfig) (makerOnly : Bool) (actionProfiles : List PolicyProfile) :
    List PolicyProfile :=
  if actionProfiles = [] then
    [{ profileId := "default"
       entryTickOffset := c.entryTickOffset
       orderQtyBase := c.orderQtyBase
       targetProfit := c.targetProfit
       safetyBuffer := c.safetyBuffer
       minTopBookQty := c.minTopBookQty
       stopLossPct := some c.stopLossPct
       takeProfitPct := some c.takeProfitPct
       holdTimeoutSec := some c.positionHoldTimeoutSec
       makerOnly := some makerOnly }]
  else actionProfiles

structure ScannerSettings extends UniverseSettings where
  pstdev : List ℚ → ℚ
  pair : PairMarketConfig
  scannerEnabled : Bool
  /-- `policy_ml_enabled`. -/
  policyMlEnabled : Bool
  banditEnabled : Bool
  bandit : BanditConfig
  /-- `policy_profiles`. -/
  policyProfiles : List PolicyProfile

/-- What a pass of the scanner meets. -/
structure ScannerPass where
  /-- What the evaluations read, by the place of the symbol. -/
  readings : ℕ → PairReading
  policyModel : Option ModelBundle
  /-- The snapshots of all symbols. -/
  pairCtx : String → Option PairSnapshot
  arms : BanditStore
  banditDraws : ℕ → BanditDraw
  policyDraws : ℕ → PolicyDraw
  /-- What the policy selector remembers of its last selection. -/
  lastMeta : Dict String PolicyMeta
  /-- The selection of the profiles raises. -/
  raises : Bool

namespace ScannerSettings

variable (x : ScannerSettings)

/-- What the symbols of a pass read. -/
def readingsOf (p : ScannerPass) (symbols : List String) : List (String × PairReading) :=
  symbols.zipIdx.map fun e => (e.1, p.readings e.2)

/-- The symbols of a pass; where none passes, there are none or the first of the universe. -/
def selectSymbols (symbols : List String) (scanned : List ScannedSymbol) : List String :=
  let selected := (pickActiveSymbols x.scannerTopK scanned).1
  if selected = [] then
    if x.config.strictPairFilter then [] else symbols.take (max x.scannerTopK 1).toNat
  else selected

/-- The policy selector is asked. -/
def AsksPolicy (p : ScannerPass) : Prop :=
  (x.policyMlEnabled = true ∧ p.policyModel.isSome = true) ∨ x.banditEnabled = true

instance (p : ScannerPass) : Decidable (x.AsksPolicy p) := inferInstanceAs (Decidable (_ ∨ _))

/-- What the policy selector answers. -/
def policyAnswer (p : ScannerPass) (selected : List String) : Dict String PolicyMeta :=
  select (banditSelect x.bandit p.arms
      (fun s => toFloat ((p.pairCtx s).bind PairSnapshot.medianSpreadBps)) p.banditDraws)
    selected x.policyProfiles p.pairCtx (if x.policyMlEnabled then p.policyModel else none)
    x.bandit.epsilon p.policyDraws

/-- `selected_profiles`. -/
def selectProfiles (p : ScannerPass) (selected : List String) : List (String × String) :=
  if x.AsksPolicy p then
    (x.policyAnswer p selected).entries.map fun e => (e.1, e.2.profileId)
  else selected.map fun s => (s, Universe.firstProfile x.toUniverseSettings)

/-- The meta data of a symbol the selector says nothing of. -/
def defaultMeta (p : ScannerPass) (profileId : String) : PolicyMeta where
  policyUsed := if x.banditEnabled then "Bandit" else "Static"
  profileId := profileId
  predOpenProb := none
  predExpEdgeBps := none
  activeModelId := p.policyModel.map ModelBundle.modelId
  reason := "default"

/-- `policy_meta`. -/
def policyMetaOf (p : ScannerPass) (selected : List String) : Dict String PolicyMeta :=
  (x.selectProfiles p selected).foldl (fun d e => d.insertIfAbsent e.1 (x.defaultMeta p e.2))
    (if x.AsksPolicy p then x.policyAnswer p selected else p.lastMeta)

end ScannerSettings

/-- What the loops share, with the gates of the symbols and what the scanner hands over. -/
structure Candidates extends Universe where
  pairs : String → PairState
  /-- `candidate_queue`, which holds one list. -/
  candidateQueue : Option (List String)
  /-- There is a snapshot of the scanner. -/
  scannerReady : Bool

namespace Candidates

variable (x : ScannerSettings)

/-- Before the loops begin. -/
def start (state : MarketState) : Candidates where
  toUniverse := .start x.toUniverseSettings state
  pairs := fun _ => .initial
  candidateQueue := none
  scannerReady := true

/-- The evaluations of a pass. -/
def evaluated (p : ScannerPass) (u : Candidates) :
    Option (List ScannedSymbol) × (String → PairState) :=
  evaluateSymbols x.pstdev x.pair (ScannerSettings.readingsOf p u.symbols) u.pairs

/-- A pass of the scanner. -/
def scan (p : ScannerPass) (u : Candidates) : Candidates :=
  let after := evaluated x p u
  match after.1 with
  | none => { u with pairs := after.2 }
  | some scanned =>
    let selected := x.selectSymbols u.symbols scanned
    if p.raises then { u with pairs := after.2 }
    else
      { u with
        pairs := after.2
        candidateQueue := some selected
        activeSymbols := selected
        activeProfiles := Universe.profilesOf (x.selectProfiles p selected)
        activePolicyMeta := x.policyMetaOf p selected
        scannerReady := true }

/-- The trading loop begins an iteration. -/
def take (u : Candidates) : Candidates :=
  if x.scannerEnabled then
    { u with
      candidateQueue := none
      activeSymbols := u.candidateQueue.getD
        (if u.activeSymbols = [] then u.symbols else u.activeSymbols) }
  else u

/-- The evaluation before an order. -/
def check (symbol : String) (r : PairReading) (u : Candidates) : Candidates :=
  match r.evaluation x.pstdev x.pair with
  | none => u
  | some e =>
    { u with
      pairs := Function.update u.pairs symbol
        (evaluatePairAdmission x.pair.toPairConfig e (u.pairs symbol)).2 }

/-- The loops begin again. -/
def restart (u : Candidates) : Candidates :=
  { u with
    toUniverse := .start x.toUniverseSettings u.client.state
    candidateQueue := none
    scannerReady := true }

end Candidates

/-- What happens to the candidates, in any order. -/
inductive CandidateEvent
  | scan (p : ScannerPass)
  | take
  | check (symbol : String) (r : PairReading)
  | refresh (instruments : Except PyError (List InstrumentItem))
      (tickers : Except PyError (List Ticker))
  | activate
  | message (nowMs : ℤ) (m : WsPublic.BookMessage)
  | trade (rt : Runtime)
  | restart

/-- One event. -/
def Candidates.step (x : ScannerSettings) (event : CandidateEvent) (u : Candidates) : Candidates :=
  match event with
  | .scan p => if x.scannerEnabled then u.scan x p else u
  | .take => u.take x
  | .check symbol r => u.check x symbol r
  | .refresh instruments tickers =>
    { u with toUniverse := u.toUniverse.step x.toUniverseSettings (.refresh instruments tickers) }
  | .activate => { u with toUniverse := u.toUniverse.step x.toUniverseSettings .activate }
  | .message nowMs m =>
    { u with toUniverse := u.toUniverse.step x.toUniverseSettings (.message nowMs m) }
  | .trade rt => { u with toUniverse := u.toUniverse.step x.toUniverseSettings (.trade rt) }
  | .restart => u.restart x

end Botik
