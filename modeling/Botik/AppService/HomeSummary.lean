import Mathlib.Data.List.Sort
import Mathlib.Data.String.Basic
import Botik.Library.Text
import Botik.AppService.ModelsRead
import Botik.Library.RunningStatistics

/-!
# The futures and the home screen

`LegacyFuturesReadAdapter` reads the open positions of an account, newest first, sums them up, and
hands on the first twenty. Where the file is missing or a query raises, it answers with the empty
snapshot. The states of protection are written in ASCII letters.

The orders and fills of the snapshot, and the columns of a position that are only passed on, are
left out.

`HomeSummaryService` composes the home screen from the snapshots of other services. The global
state comes from the risk of the futures positions, the state of reconciliation, the runtimes and
the model pipeline; what else the screen shows is left out.

## Main definitions

* `FuturesPosition`, `FuturesDatabase`
* `FuturesReadSnapshot`, `FuturesRead.readSnapshot`
* `RiskBlock`, `Home.buildRisk`
* `GlobalBlock`, `Home.deriveGlobal`
* `HomeInputs`, `Home.buildSummary`
-/

namespace Botik.AppService

/-! ### Reading the futures positions -/

/-- A row of `futures_positions`. -/
structure FuturesPosition where
  accountType : String
  symbol : String
  side : String
  qty : ℚ
  unrealizedPnl : Option ℚ
  protectionStatus : String
  recoveredFromExchange : Bool
  updatedAtUtc : String
  deriving DecidableEq, Repr

/-- The database file: whether it exists, whether the queries of the adapter run on it or one of
them raises `sqlite3.Error`, and the table of the positions, if there is one. -/
structure FuturesDatabase where
  exists_ : Bool
  readable : Bool
  positions : Option (List FuturesPosition)
  deriving DecidableEq, Repr

structure FuturesReadSummary where
  accountType : String
  positionsCount : ℕ
  protectedPositionsCount : ℕ
  attentionPositionsCount : ℕ
  recoveredPositionsCount : ℕ
  unrealizedPnlTotal : ℚ
  deriving DecidableEq, Repr

/-- The snapshot, as far as it is about positions. -/
structure FuturesReadSnapshot where
  summary : FuturesReadSummary
  positions : List FuturesPosition
  positionsTruncated : Bool
  deriving DecidableEq, Repr

namespace FuturesRead

def attentionProtectionStatuses : List String :=
  ["pending", "repairing", "failed", "unprotected", "close_requested"]

def positionsLimit : ℕ := 20

/-- `ORDER BY updated_at_utc DESC, symbol ASC, side ASC`. -/
def Before (a b : FuturesPosition) : Prop :=
  b.updatedAtUtc < a.updatedAtUtc ∨ b.updatedAtUtc = a.updatedAtUtc ∧
    (a.symbol < b.symbol ∨ a.symbol = b.symbol ∧ a.side ≤ b.side)

instance : DecidableRel Before := fun _ _ => inferInstanceAs (Decidable (_ ∨ _))

/-- `WHERE account_type = ? AND ABS(COALESCE(qty, 0.0)) > 0`. -/
def IsOpen (accountType : String) (p : FuturesPosition) : Prop :=
  p.accountType = accountType ∧ 0 < |p.qty|

instance (accountType : String) (p : FuturesPosition) : Decidable (IsOpen accountType p) :=
  inferInstanceAs (Decidable (_ ∧ _))

/-- `_read_positions`. -/
def readPositions (accountType : String) (table : Option (List FuturesPosition)) :
    List FuturesPosition :=
  match table with
  | none => []
  | some rows => (rows.filter fun p => IsOpen accountType p).insertionSort Before

/-- `str(row.protection_status).strip().lower()`. -/
def normalized (p : FuturesPosition) : String := Text.lower (Text.strip p.protectionStatus)

def emptySnapshot (accountType : String) : FuturesReadSnapshot where
  summary := ⟨accountType, 0, 0, 0, 0, 0⟩
  positions := []
  positionsTruncated := false

/-- `_build_snapshot`. -/
def buildSnapshot (accountType : String) (table : Option (List FuturesPosition)) :
    FuturesReadSnapshot :=
  let positions := readPositions accountType table
  { summary := {
      accountType := accountType
      positionsCount := positions.length
      protectedPositionsCount := positions.countP fun p => normalized p = "protected"
      attentionPositionsCount :=
        positions.countP fun p => normalized p ∈ attentionProtectionStatuses
      recoveredPositionsCount := positions.countP fun p => p.recoveredFromExchange
      unrealizedPnlTotal := Text.fixed8 (positions.map fun p => p.unrealizedPnl.getD 0).sum }
    positions := positions.take positionsLimit
    positionsTruncated := positionsLimit < positions.length }

/-- `read_snapshot`. -/
def readSnapshot (accountType : String) (db : FuturesDatabase) : FuturesReadSnapshot :=
  if db.exists_ ∧ db.readable then buildSnapshot accountType db.positions
  else emptySnapshot accountType

end FuturesRead

/-! ### The home screen -/

/-- The protection states of a position that the screen counts. -/
inductive ProtectionState
  | protected_
  | pending
  | unprotected
  | repairing
  | failed
  deriving DecidableEq, Repr

def ProtectionState.name : ProtectionState → String
  | .protected_ => "protected"
  | .pending => "pending"
  | .unprotected => "unprotected"
  | .repairing => "repairing"
  | .failed => "failed"

structure RiskByState where
  protected_ : ℕ
  pending : ℕ
  unprotected : ℕ
  repairing : ℕ
  failed : ℕ
  deriving DecidableEq, Repr

/-- The count of a state. -/
def RiskByState.count (r : RiskByState) : ProtectionState → ℕ
  | .protected_ => r.protected_
  | .pending => r.pending
  | .unprotected => r.unprotected
  | .repairing => r.repairing
  | .failed => r.failed

structure PositionEntry where
  id : String
  symbol : String
  side : String
  protectionState : String
  deriving DecidableEq, Repr

structure RiskBlock where
  positionsTotal : ℕ
  byState : RiskByState
  positions : List PositionEntry
  deriving DecidableEq, Repr

inductive RuntimeStatus
  | running
  | degraded
  | offline
  | unknown
  deriving DecidableEq, Repr

inductive ReconciliationState
  | healthy
  | degraded
  | stale
  | failed
  | unsupported
  deriving DecidableEq, Repr

inductive GlobalState
  | healthy
  | warning
  | critical
  deriving DecidableEq, Repr

structure PrimaryAction where
  label : String
  kind : String
  deriving DecidableEq, Repr

structure GlobalBlock where
  state : GlobalState
  healthScore : ℤ
  criticalReason : Option String
  primaryAction : Option PrimaryAction
  deriving DecidableEq, Repr

/-- The snapshots of the other services, as far as the global state depends on them. -/
structure HomeInputs where
  /-- The runtimes with their ids. -/
  runtimes : List (String × RuntimeStatus)
  reconciliation : ReconciliationState
  pipeline : PipelineState
  deriving DecidableEq, Repr

namespace Home

/-- The loop that counts the positions by their status. -/
def statusCounts (positions : List FuturesPosition) : Dict String ℕ :=
  Dict.tally (positions.map fun p => (p.protectionStatus, 1))

/-- `counts.get(status, 0)`. -/
def statusCount (positions : List FuturesPosition) (status : String) : ℕ :=
  ((statusCounts positions).get? status).getD 0

/-- `_build_risk`. -/
def buildRisk (positions : List FuturesPosition) : RiskBlock where
  positionsTotal := positions.length
  byState := {
    protected_ := statusCount positions "protected"
    pending := statusCount positions "pending"
    unprotected := statusCount positions "unprotected"
    repairing := statusCount positions "repairing"
    failed := statusCount positions "failed" }
  positions := (positions.take 8).map fun p =>
    ⟨p.symbol ++ "-" ++ p.side, p.symbol, p.side, p.protectionStatus⟩

/-- The state of the last runtime of an id. -/
def runtimeStatus (id : String) (runtimes : List (String × RuntimeStatus)) : RuntimeStatus :=
  runtimes.foldl (fun state runtime => if runtime.1 = id then runtime.2 else state) .unknown

/-- How many of the conditions hold. -/
def countTrue (conditions : List Bool) : ℕ := conditions.countP id

/-- `_derive_global`. -/
def deriveGlobal (risk : RiskBlock) (reconciliation : ReconciliationState)
    (spot futures : RuntimeStatus) (pipeline : PipelineState) : GlobalBlock :=
  let hasUnprotected : Bool := 0 < risk.byState.unprotected ∨ 0 < risk.byState.failed
  let reconciliationFailed : Bool := reconciliation = .failed
  let runtimeDegraded : Bool := spot = .degraded ∨ futures = .degraded
  let critical := countTrue [hasUnprotected, reconciliationFailed]
  let warning :=
    countTrue [runtimeDegraded, decide (reconciliation = .stale), decide (pipeline = .error)]
  let state : GlobalState :=
    if 0 < critical then .critical else if 0 < warning then .warning else .healthy
  let unprotectedTotal := risk.byState.unprotected + risk.byState.failed
  let reasons :=
    (if hasUnprotected then [toString unprotectedTotal ++ " positions без защиты"] else []) ++
      if reconciliationFailed then ["Reconciliation failed"] else []
  { state := state
    healthScore := max 0 (min 100 (100 - critical * 30 - warning * 15))
    criticalReason := if state = .critical then some ("; ".intercalate reasons) else none
    primaryAction :=
      if state = .critical then
        if hasUnprotected then some ⟨"Pause Trading", "pause-trading"⟩
        else some ⟨"Open Diagnostics", "open-diagnostics"⟩
      else none }

/-- `_build_summary`: the risk of the positions and the global state. -/
def buildSummary (futures : FuturesReadSnapshot) (inputs : HomeInputs) : RiskBlock × GlobalBlock :=
  let risk := buildRisk futures.positions
  (risk, deriveGlobal risk inputs.reconciliation (runtimeStatus "spot" inputs.runtimes)
    (runtimeStatus "futures" inputs.runtimes) inputs.pipeline)

/-- The home screen of an account. -/
def summary (accountType : String) (db : FuturesDatabase) (inputs : HomeInputs) :
    RiskBlock × GlobalBlock :=
  buildSummary (FuturesRead.readSnapshot accountType db) inputs

end Home

end Botik.AppService
