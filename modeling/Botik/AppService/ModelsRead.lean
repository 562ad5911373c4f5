import Botik.AppService.OutputLines
import Botik.Library.Dict
import Mathlib.Data.List.Sort
import Mathlib.Data.String.Basic

/-!
# Reading the models

`LegacyModelsReadAdapter` reads the newest rows of `model_registry` and `ml_training_runs` and the
pointer file `active_models.yaml`, and makes the status of the spot and the futures scope of them.
The scope of a row is inferred from texts in it, whose letters are ASCII.

The names of files, the counts of rows and the path and time of the manifest are left out. The
queries run; where they do not, `read_snapshot` answers with an empty snapshot.

## Main definitions

* `RegistryRow`, `TrainingRunRow`, `ModelsDatabase`, `Manifest`
* `ModelsRead.readRegistryEntries`, `ModelsRead.readRecentTrainingRuns`
* `ModelsRead.buildScopeStatus`, `ModelsRead.buildSnapshot`
-/

namespace Botik.AppService

inductive ModelScope
  | spot
  | futures
  | unknown
  deriving DecidableEq, Repr

inductive PipelineState
  | idle
  | training
  | serving
  | error
  | unknown
  deriving DecidableEq, Repr

/-- A row of `model_registry`. -/
structure RegistryRow where
  id : ℤ
  modelId : Option String
  metricsJson : Option String
  createdAtUtc : Option String
  deriving DecidableEq, Repr

/-- A row of `ml_training_runs`. -/
structure TrainingRunRow where
  runId : Option String
  modelScope : Option String
  modelVersion : Option String
  mode : Option String
  status : Option String
  isTrained : Option ℤ
  startedAtUtc : Option String
  finishedAtUtc : Option String
  deriving DecidableEq, Repr

/-- The tables, where they exist. -/
structure ModelsDatabase where
  registry : Option (List RegistryRow)
  trainingRuns : Option (List TrainingRunRow)
  deriving DecidableEq, Repr

/-- The pointer file. -/
inductive Manifest
  | missing
  /-- Reading or parsing it raises, or it holds no mapping. -/
  | failed
  /-- A mapping; of a value that counts as true the text is given. -/
  | mapping (activeSpotModel activeFuturesModel : Option String)
  deriving DecidableEq, Repr

/-- What `_read_manifest` makes of it. -/
structure Pointer where
  manifestStatus : String
  activeSpotModel : String
  activeFuturesModel : String
  deriving DecidableEq, Repr

structure ModelRegistryEntry where
  modelId : String
  scope : ModelScope
  status : String
  qualityScore : Option PyFloat
  policy : String
  sourceMode : String
  createdAtUtc : String
  isDeclaredActive : Bool
  deriving DecidableEq, Repr

structure TrainingRunSummary where
  runId : String
  scope : ModelScope
  modelVersion : String
  mode : String
  status : String
  isTrained : Bool
  startedAtUtc : String
  finishedAtUtc : String
  deriving DecidableEq, Repr

structure ModelsScopeStatus where
  scope : ModelScope
  activeModel : String
  latestRegistryModel : String
  latestRegistryStatus : String
  latestRegistryCreatedAt : String
  latestTrainingModelVersion : String
  latestTrainingStatus : String
  latestTrainingMode : String
  latestTrainingStartedAt : String
  ready : Bool
  statusReason : String
  deriving DecidableEq, Repr

structure ModelsSummary where
  activeDeclaredCount : ℕ
  readyScopes : ℕ
  latestRunStatus : String
  latestRunMode : String
  manifestStatus : String
  pipelineState : PipelineState
  deriving DecidableEq, Repr

structure ModelsReadSnapshot where
  summary : ModelsSummary
  scopes : List ModelsScopeStatus
  registryEntries : List ModelRegistryEntry
  recentTrainingRuns : List TrainingRunSummary
  registryTruncated : Bool
  runsTruncated : Bool
  deriving DecidableEq, Repr

namespace ModelsRead

def registryLimit : ℕ := 8

def recentRunsLimit : ℕ := 6

def readyStatuses : List String := ["active", "ready", "trained", "completed"]

def activeSentinels : List String := ["", "unknown", "none", "null"]

/-- `text.strip().lower()`. -/
def normalized (text : String) : String := Text.lower (Text.strip text)

/-- `text or default`. -/
def orElse (text default : String) : String := if text = "" then default else text

/-! ### The pointer file -/

/-- `_read_manifest`. -/
def readManifest : Manifest → Pointer
  | .missing => ⟨"missing", "unknown", "unknown"⟩
  | .failed => ⟨"failed", "unknown", "unknown"⟩
  | .mapping spot futures =>
    let name (value : Option String) := orElse (Text.strip (value.getD "unknown")) "unknown"
    ⟨"loaded", name spot, name futures⟩

/-- `pointer.get(f"active_{scope}_model")`. -/
def declaredModel (pointer : Pointer) : ModelScope → String
  | .spot => pointer.activeSpotModel
  | .futures => pointer.activeFuturesModel
  | .unknown => ""

/-! ### Scopes -/

/-- `_infer_scope`. -/
def inferScope (explicitScope metricsScope instrument modelId : String) : ModelScope :=
  let pieces := [explicitScope, metricsScope, instrument, modelId].filter (· ≠ "")
  let hint := " ".intercalate (pieces.map normalized)
  if Text.contains "future" hint ∨ Text.contains "linear" hint then .futures
  else if Text.contains "spot" hint then .spot
  else .unknown

/-- The loop that keeps the first element of the spot and of the futures scope. -/
def latestByScope {α : Type*} (scope : α → ModelScope) (items : List α) : Dict ModelScope α :=
  ((items.filter fun item => scope item ≠ .unknown).map fun item => (scope item, item)).foldl
    (fun d r => d.insertIfAbsent r.1 r.2) Dict.empty

/-! ### The registry -/

/-- `_parse_json_dict`. -/
def parseJsonDict (py : Python) (raw : String) : List (String × Json) :=
  if raw = "" then []
  else match py.loads raw with
    | .value (.obj fields) => fields
    | _ => []

/-- `str(metrics.get(name) or default)`. -/
def metricText (py : Python) (metrics : List (String × Json)) (name default : String) : String :=
  match Json.field? metrics name with
  | some value => if value.truthy then py.str value else default
  | none => default

/-- `_safe_float`. -/
def safeFloat : Option Json → Option PyFloat
  | none | some .null | some (.str "") => none
  | some value => value.toFloat.toOption

/-- The entry of a row. -/
def registryEntry (py : Python) (pointer : Pointer) (row : RegistryRow) : ModelRegistryEntry :=
  let modelId := Text.strip (row.modelId.getD "")
  let metrics := parseJsonDict py (row.metricsJson.getD "{}")
  { modelId := modelId
    scope := inferScope "" (metricText py metrics "model_scope" "")
      (metricText py metrics "instrument" "") modelId
    status := metricText py metrics "status" "candidate"
    qualityScore := safeFloat (Json.field? metrics "quality_score")
    policy := metricText py metrics "policy" "unknown"
    sourceMode := metricText py metrics "source_mode" (metricText py metrics "source" "unknown")
    createdAtUtc := orElse (row.createdAtUtc.getD "") "not available"
    isDeclaredActive := modelId = Text.strip pointer.activeSpotModel ∨
      modelId = Text.strip pointer.activeFuturesModel }

/-- `ORDER BY COALESCE(created_at_utc, '') DESC, id DESC`. -/
def RegistryBefore (a b : RegistryRow) : Prop :=
  b.createdAtUtc.getD "" < a.createdAtUtc.getD "" ∨
    b.createdAtUtc.getD "" = a.createdAtUtc.getD "" ∧ b.id ≤ a.id

instance : DecidableRel RegistryBefore := fun _ _ => inferInstanceAs (Decidable (_ ∨ _))

/-- The rows of the registry, newest first. -/
def registryRows (db : ModelsDatabase) : List RegistryRow :=
  (db.registry.getD []).insertionSort RegistryBefore

/-- `_read_registry_entries`: the entries, the latest one of each scope, and whether there are
more. -/
def readRegistryEntries (py : Python) (pointer : Pointer) (db : ModelsDatabase) :
    List ModelRegistryEntry × Dict ModelScope ModelRegistryEntry × Bool :=
  let rows := (registryRows db).take (registryLimit + 1)
  let entries := (rows.take registryLimit).map (registryEntry py pointer)
  (entries, latestByScope ModelRegistryEntry.scope entries, registryLimit < rows.length)

/-! ### The training runs -/

/-- The summary of a row. -/
def trainingRun (row : TrainingRunRow) : TrainingRunSummary where
  runId := row.runId.getD ""
  scope := inferScope (row.modelScope.getD "") "" "" (row.modelVersion.getD "")
  modelVersion := row.modelVersion.getD ""
  mode := row.mode.getD ""
  status := row.status.getD ""
  isTrained := row.isTrained.getD 0 ≠ 0
  startedAtUtc := orElse (row.startedAtUtc.getD "") "not available"
  finishedAtUtc := row.finishedAtUtc.getD ""

/-- `ORDER BY COALESCE(started_at_utc, '') DESC, COALESCE(finished_at_utc, '') DESC, run_id DESC`. -/
def RunBefore (a b : TrainingRunRow) : Prop :=
  b.startedAtUtc.getD "" < a.startedAtUtc.getD "" ∨
    b.startedAtUtc.getD "" = a.startedAtUtc.getD "" ∧
      (b.finishedAtUtc.getD "" < a.finishedAtUtc.getD "" ∨
        b.finishedAtUtc.getD "" = a.finishedAtUtc.getD "" ∧ b.runId.getD "" ≤ a.runId.getD "")

instance : DecidableRel RunBefore := fun _ _ => inferInstanceAs (Decidable (_ ∨ _))

/-- The training runs, newest first. -/
def runRows (db : ModelsDatabase) : List TrainingRunRow :=
  (db.trainingRuns.getD []).insertionSort RunBefore

/-- `_read_recent_training_runs`. -/
def readRecentTrainingRuns (db : ModelsDatabase) :
    List TrainingRunSummary × Dict ModelScope TrainingRunSummary × Bool :=
  let rows := (runRows db).take (recentRunsLimit + 1)
  let runs := (rows.take recentRunsLimit).map trainingRun
  (runs, latestByScope TrainingRunSummary.scope runs, recentRunsLimit < rows.length)

/-! ### The snapshot -/

/-- A ready state of a training run. -/
def runReady (run : TrainingRunSummary) : Bool :=
  run.isTrained || normalized run.status ∈ readyStatuses

/-- Whether a scope is ready, and the reason. -/
def readiness (activeModel : String) (latestRegistry : Option ModelRegistryEntry)
    (latestRun : Option TrainingRunSummary) : Bool × String :=
  if Text.lower activeModel ∉ activeSentinels then
    (true, "Active model declared in active_models.yaml.")
  else if latestRun.any runReady then (true, "Latest training run finished in a ready state.")
  else if latestRegistry.any fun entry => normalized entry.status ∈ readyStatuses then
    (true, "Latest registry entry is marked ready.")
  else match latestRun with
    | some run =>
      if run.status ≠ "" then (false, "Latest training run is " ++ run.status ++ ".")
      else (false, "No active model declaration or recent training run.")
    | none => (false, "No active model declaration or recent training run.")

/-- `_build_scope_status`. -/
def buildScopeStatus (pointer : Pointer) (latestRegistry : Option ModelRegistryEntry)
    (latestRun : Option TrainingRunSummary) (scope : ModelScope) : ModelsScopeStatus :=
  let declared := orElse (declaredModel pointer scope) "unknown"
  let activeModel := orElse (Text.strip declared) "unknown"
  let (ready, reason) := readiness activeModel latestRegistry latestRun
  { scope := scope
    activeModel := activeModel
    latestRegistryModel := latestRegistry.elim "not available" ModelRegistryEntry.modelId
    latestRegistryStatus := latestRegistry.elim "not available" ModelRegistryEntry.status
    latestRegistryCreatedAt := latestRegistry.elim "not available" ModelRegistryEntry.createdAtUtc
    latestTrainingModelVersion := latestRun.elim "not available" TrainingRunSummary.modelVersion
    latestTrainingStatus := latestRun.elim "not available" TrainingRunSummary.status
    latestTrainingMode := latestRun.elim "not available" TrainingRunSummary.mode
    latestTrainingStartedAt := latestRun.elim "not available" TrainingRunSummary.startedAtUtc
    ready := ready
    statusReason := reason }

/-- `_derive_pipeline_state`. -/
def derivePipelineState (latestRunStatus : String) (readyScopes : ℕ) : PipelineState :=
  let status := normalized latestRunStatus
  if status = "running" then .training
  else if status = "completed" then if 0 < readyScopes then .serving else .idle
  else if status = "failed" then .error
  else if status = "not available" then .idle
  else .unknown

/-- `_build_snapshot`. -/
def buildSnapshot (py : Python) (manifest : Manifest) (db : ModelsDatabase) : ModelsReadSnapshot :=
  let pointer := readManifest manifest
  let (entries, latestRegistry, registryTruncated) := readRegistryEntries py pointer db
  let (runs, latestRuns, runsTruncated) := readRecentTrainingRuns db
  let scopes := [ModelScope.spot, .futures].map fun scope =>
    buildScopeStatus pointer (latestRegistry.get? scope) (latestRuns.get? scope) scope
  let readyScopes := scopes.countP ModelsScopeStatus.ready
  let rawStatus := runs.head?.elim "not available" TrainingRunSummary.status
  { summary := {
      activeDeclaredCount := [ModelScope.spot, .futures].countP fun scope =>
        normalized (declaredModel pointer scope) ∉ activeSentinels
      readyScopes := readyScopes
      latestRunStatus := rawStatus
      latestRunMode := runs.head?.elim "not available" TrainingRunSummary.mode
      manifestStatus := orElse pointer.manifestStatus "missing"
      pipelineState := derivePipelineState rawStatus readyScopes }
    scopes := scopes
    registryEntries := entries
    recentTrainingRuns := runs
    registryTruncated := registryTruncated
    runsTruncated := runsTruncated }

end ModelsRead

end Botik.AppService
