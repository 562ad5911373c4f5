import Botik.Library.Connection
import Botik.Storage.MigrationScripts
import Mathlib.Data.List.Sort

/-!
# Migrations

`run_migrations` of `storage/migrations.py` executes the migration functions whose versions are not
marked in `_schema_migrations`. A migration function executes a script, or one statement whose
errors it ignores; its effect and its mark are committed separately.

A run is a sequence of operations on the database, and the process may stop before any of them.
SQLite commits every statement of a script at once; in a PostgreSQL database a script is committed
at its end; what a statement does there, and what `r[0]` is for a row of `psycopg2`, are parameters.
The time of a mark is left out.

## Main definitions

* `Database` — the objects of the schema, and the marks
* `Engine` — SQLite or PostgreSQL
* `MigrationState`, `MigrationM` — the connection, the operations left, and the log
* `m001CoreSchema`, …, `migrations` — the migration functions and their versions
* `runMigrations` — `run_migrations`
-/

namespace Botik

open Program

/-- The schema, and the names in `_schema_migrations` by their versions, if the table exists. -/
structure Database where
  objects : Objects
  marks : Option (Dict ℕ String)

inductive Engine
  /-- From version 3.35 on it drops columns. -/
  | sqlite (dropsColumns : Bool)
  /-- `first` is `r[0]` of a row with this version, and nothing where it raises. -/
  | postgres (execute : Statement → Objects → Except SqlError Objects) (first : ℕ → Option ℕ)

/-- `Database.connect` has PostgreSQL return the rows as dictionaries of `RealDictCursor`: an integer
is not one of their keys. -/
def Engine.RealDictRows : Engine → Prop
  | .sqlite _ => True
  | .postgres _ first => ∀ version, first version = none

inductive MigrationError
  /-- The process stops. -/
  | stopped
  | sql (e : SqlError)

structure MigrationState where
  conn : Connection Database
  /-- How many operations there are before the process stops, if it does. -/
  left : Option ℕ
  /-- The versions of which the log says that they are applied. -/
  log : List ℕ

abbrev MigrationM := EStateM MigrationError MigrationState

/-- A new connection to a database, and when the process stops. -/
def MigrationState.connected (db : Database) (left : Option ℕ) : MigrationState :=
  ⟨.opened db, left, []⟩

/-- The process stops, or an operation begins. -/
def operation : MigrationM Unit := fun s =>
  if s.left = some 0 then .error .stopped s
  else .ok () { s with left := s.left.map Nat.pred }

def modifyConn (f : Connection Database → Connection Database) : MigrationM Unit :=
  modify fun s => { s with conn := f s.conn }

/-- `conn.commit()`. -/
def commit : MigrationM Unit := do
  operation
  modifyConn Connection.commit

def setObjects (objects : Objects) (db : Database) : Database := { db with objects := objects }

/-- `conn.execute` of a statement that changes the schema. SQLite commits it; with PostgreSQL an
error ends the transaction. -/
def execute (e : Engine) (statement : Statement) : MigrationM Unit := do
  operation
  let objects := (← get).conn.current.objects
  match e with
  | .sqlite dropsColumns =>
    match statement.execute dropsColumns objects with
    | .ok objects => modifyConn fun c => (c.write (setObjects objects)).commit
    | .error err => throw (.sql err)
  | .postgres run _ =>
    match run statement objects with
    | .ok objects => modifyConn (Connection.write (setObjects objects))
    | .error err => do
      modifyConn Connection.rollback
      throw (.sql err)

/-- `conn.executescript`. SQLite's commits what is pending first. -/
def executescript (e : Engine) (script : List Statement) : MigrationM Unit :=
  match e with
  | .sqlite _ => do
    modifyConn Connection.commit
    each (execute e) script
  | .postgres _ _ => do
    each (execute e) script
    commit

/-- `try: … except Exception: pass`. -/
def ignoringErrors (x : MigrationM Unit) : MigrationM Unit := fun s =>
  match x s with
  | .error (.sql _) s' => .ok () s'
  | result => result

/-! ### The migration functions -/

section Functions

variable (e : Engine)

def m001CoreSchema : MigrationM Unit := executescript e coreSchemaScript

def m002SpotSchema : MigrationM Unit := executescript e spotSchemaScript

def m003FuturesSchema : MigrationM Unit := executescript e futuresSchemaScript

def m004LifecycleSchema : MigrationM Unit := executescript e lifecycleSchemaScript

def m005PriceHistory : MigrationM Unit := executescript e priceHistoryScript

def m006AppLogs : MigrationM Unit := executescript e appLogsScript

def m007BotSettings : MigrationM Unit := executescript e botSettingsScript

def m008MlTrainingRuns : MigrationM Unit := executescript e mlTrainingRunsScript

def m009TelegramLog : MigrationM Unit := executescript e telegramLogScript

def m010LabeledSamples : MigrationM Unit := executescript e labeledSamplesScript

def m011SymbolRegistry : MigrationM Unit := executescript e symbolRegistryScript

def m012SymbolLabelingStatus : MigrationM Unit := executescript e symbolLabelingStatusScript

def m013OrderbookSnapshots : MigrationM Unit := executescript e orderbookSnapshotsScript

def m014PriceHistoryDropCreatedAt : MigrationM Unit :=
  ignoringErrors (execute e (.dropColumn "price_history" "created_at_utc"))

def m015FuturesFillsClosedPnl : MigrationM Unit :=
  ignoringErrors (execute e (.addColumn "futures_fills" ⟨"closed_pnl", "REAL"⟩))

end Functions

structure Migration where
  version : ℕ
  name : String
  fn : Engine → MigrationM Unit

/-- `MIGRATIONS`. -/
def migrations : List Migration := [
  ⟨1, "core_schema", m001CoreSchema⟩,
  ⟨2, "spot_schema", m002SpotSchema⟩,
  ⟨3, "futures_schema", m003FuturesSchema⟩,
  ⟨4, "lifecycle_schema", m004LifecycleSchema⟩,
  ⟨5, "price_history", m005PriceHistory⟩,
  ⟨6, "app_logs", m006AppLogs⟩,
  ⟨7, "bot_settings", m007BotSettings⟩,
  ⟨8, "ml_training_runs", m008MlTrainingRuns⟩,
  ⟨9, "telegram_log", m009TelegramLog⟩,
  ⟨10, "labeled_samples", m010LabeledSamples⟩,
  ⟨11, "symbol_registry", m011SymbolRegistry⟩,
  ⟨12, "symbol_labeling_status", m012SymbolLabelingStatus⟩,
  ⟨13, "orderbook_snapshots", m013OrderbookSnapshots⟩,
  ⟨14, "price_history_drop_created_at", m014PriceHistoryDropCreatedAt⟩,
  ⟨15, "futures_fills_closed_pnl", m015FuturesFillsClosedPnl⟩]

/-- `sorted(MIGRATIONS.items())`; no version occurs twice. -/
def sortedMigrations : List Migration :=
  migrations.insertionSort fun m m' => m.version ≤ m'.version

/-! ### The runner -/

/-- `CREATE TABLE IF NOT EXISTS _schema_migrations`. -/
def Database.withVersionTable (db : Database) : Database :=
  { db with marks := some (db.marks.getD .empty) }

/-- `_ensure_version_table`. -/
def ensureVersionTable : MigrationM Unit := do
  operation
  modifyConn fun c => (c.write Database.withVersionTable).commit
  commit

/-- `int(r[0])` of a row with this version. -/
def firstColumn (e : Engine) (version : ℕ) : Option ℕ :=
  match e with
  | .sqlite _ => some version
  | .postgres _ first => first version

/-- `_applied_versions`: no version where reading them raises. -/
def appliedVersions (e : Engine) : MigrationM (List ℕ) := do
  let versions := ((← get).conn.current.marks.map Dict.keys).getD []
  return (versions.mapM (firstColumn e)).getD []

/-- `_mark_applied`. -/
def markApplied (version : ℕ) (name : String) : MigrationM Unit := do
  operation
  match (← get).conn.current.marks with
  | some marks => modifyConn (Connection.write fun db =>
      { db with marks := some (marks.insertIfAbsent version name) })
  | none => throw (.sql .noSuchTable)

/-- The body of the loop, for a version that is not applied. -/
def applyMigration (e : Engine) (m : Migration) : MigrationM Unit := do
  modify fun s => { s with log := s.log ++ [m.version] }
  m.fn e
  commit
  markApplied m.version m.name
  commit

/-- The loop, with the number of migrations it applies. -/
def applyPending (e : Engine) (applied : List ℕ) : List Migration → MigrationM ℕ
  | [] => return 0
  | m :: ms =>
    if m.version ∈ applied then applyPending e applied ms
    else do
      applyMigration e m
      let count ← applyPending e applied ms
      return count + 1

/-- `run_migrations`. -/
def runMigrations (e : Engine) : MigrationM ℕ := do
  ensureVersionTable
  let applied ← appliedVersions e
  applyPending e applied sortedMigrations

end Botik
