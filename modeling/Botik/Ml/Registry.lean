import Botik.Library.Glob
import Botik.Library.Json
import Botik.Library.NumberedFiles
import Botik.Library.Upserts

/-!
# The registry of models

`ModelRegistry` keeps models in files, `{scope}_{name}_v{version}.joblib`, and the checkpoints of a
training in others, and writes a row to `ml_training_runs` for every model it saves. The latest
version of a model is read off the last of its file names, and off the newest row of its scope where
there is no file. Versions are written in ASCII digits.

A write to the database succeeds, `joblib` loads what it has dumped, and no scope and no name
contains a slash. Of rows that finished in the same second the query returns the first one. What no
query of the registry reads of a row or a file is left out.

## Main definitions

* `ModelRegistry`
* `ModelRegistry.getLatestVersion`, `nextVersion`, `load`, `loadCheckpoint`
* `ModelRegistry.save`, `saveCheckpoint`
-/

namespace Botik

namespace Ml

/-- A file of a model; `μ` is the type of models. -/
structure ModelFile (μ : Type) where
  model : μ
  accuracy : PyFloat
  tradeCount : ℤ

/-- A file of a checkpoint. -/
structure CheckpointFile (μ : Type) where
  model : μ
  step : ℤ

/-- A row of `ml_training_runs`. -/
structure TrainingRun where
  modelScope : String
  modelVersion : String
  isTrained : Bool
  finishedAtUtc : String

/-- The files, by name, and the rows, by `run_id`. -/
structure ModelRegistry (μ : Type) where
  models : Dict String (ModelFile μ)
  checkpoints : Dict String (CheckpointFile μ)
  runs : Dict String TrainingRun

/-- What a registry keeps versions of. -/
structure ModelKey where
  scope : String
  name : String
  deriving DecidableEq, Repr

namespace ModelRegistry

variable {μ : Type}

/-- `_model_path`. -/
def modelPath (scope name : String) (version : ℕ) : String :=
  scope ++ "_" ++ name ++ "_v" ++ toString version ++ ".joblib"

/-- The pattern of the files of a model. -/
def modelPattern (scope name : String) : String := scope ++ "_" ++ name ++ "_v*.joblib"

/-- `_checkpoint_path`. -/
def checkpointPath (scope name : String) (step : ℤ) : String :=
  scope ++ "_" ++ name ++ "_step_" ++ toString step ++ ".joblib"

/-- The pattern of the checkpoints of a model. -/
def checkpointPattern (scope name : String) : String := scope ++ "_" ++ name ++ "_step_*.joblib"

/-- `sorted(directory.glob(pattern))[-1]`, if there is a file. -/
def lastFile {α : Type} (pattern : String) (files : Dict String α) : Option String :=
  (Newest.sortedBy id (files.keys.filter (Glob.globMatches pattern))).getLast?

/-- `Path.stem`. -/
def stem (file : List Char) : List Char :=
  match file.reverse.dropWhile (· ≠ '.') with
  | [] => file
  | _ :: cs => cs.reverse

/-- What comes before the first occurrence of a part. -/
def upTo (part : List Char) : List Char → List Char
  | [] => []
  | c :: cs => if part.isPrefixOf (c :: cs) then [] else c :: upTo part cs

/-- `text.split(part)[-1]`. -/
def lastPart (part text : List Char) : List Char := (upTo part.reverse text.reverse).reverse

/-- The version in the name of a file. -/
def versionOf (file : String) : Option ℕ := Text.digits? (lastPart ['_', 'v'] (stem file.toList))

/-- The newest trained row of a scope. -/
def newestRun (scope : String) (runs : Dict String TrainingRun) : Option TrainingRun :=
  ((runs.entries.map Prod.snd).filter fun run => run.modelScope = scope ∧ run.isTrained).foldl
    (fun best run => if best.any (fun b => run.finishedAtUtc ≤ b.finishedAtUtc) then best
      else some run) none

/-- The version in a row. -/
def runVersion (run : TrainingRun) : Option ℕ :=
  Text.digits? (run.modelVersion.toList.dropWhile (· = 'v'))

/-- `_get_latest_version`. -/
def getLatestVersion (scope name : String) (r : ModelRegistry μ) : Option ℕ :=
  ((lastFile (modelPattern scope name) r.models).bind versionOf).or
    ((newestRun scope r.runs).bind runVersion)

/-- `get_version`. -/
def getVersion (scope name : String) (r : ModelRegistry μ) : ℕ :=
  (r.getLatestVersion scope name).getD 0

/-- `next_version`. -/
def nextVersion (scope name : String) (r : ModelRegistry μ) : ℕ := r.getVersion scope name + 1

/-- `load`: the model, its accuracy and its number of trades. -/
def load (scope name : String) (r : ModelRegistry μ) : Option (μ × PyFloat × ℤ) :=
  (r.getLatestVersion scope name).bind fun version =>
    (r.models.get? (modelPath scope name version)).map fun file =>
      (file.model, file.accuracy, file.tradeCount)

/-- `load_checkpoint`: the model and its step. -/
def loadCheckpoint (scope name : String) (r : ModelRegistry μ) : Option (μ × ℤ) :=
  (lastFile (checkpointPattern scope name) r.checkpoints).bind fun file =>
    (r.checkpoints.get? file).map fun checkpoint => (checkpoint.model, checkpoint.step)

/-- The row of a `run_id` that is there takes the result of a new one. -/
def mergeRun (new old : TrainingRun) : TrainingRun :=
  { old with isTrained := new.isTrained, finishedAtUtc := new.finishedAtUtc }

/-- `_write_db`. -/
def writeDb (runId scope : String) (version : ℕ) (isTrained : Bool) (nowUtc : String)
    (runs : Dict String TrainingRun) : Dict String TrainingRun :=
  runs.upsert mergeRun runId
    { modelScope := scope
      modelVersion := "v" ++ toString version
      isTrained
      finishedAtUtc := nowUtc }

/-- `save`; the `run_id` is the given one or a new one. -/
def save (scope name : String) (version : ℕ) (file : ModelFile μ) (isTrained : Bool)
    (runId nowUtc : String) (r : ModelRegistry μ) : ModelRegistry μ :=
  { r with
    models := r.models.set (modelPath scope name version) file
    runs := writeDb runId scope version isTrained nowUtc r.runs }

/-- `save_checkpoint`. -/
def saveCheckpoint (scope name : String) (checkpoint : CheckpointFile μ) (r : ModelRegistry μ) :
    ModelRegistry μ :=
  { r with
    checkpoints := r.checkpoints.set (checkpointPath scope name checkpoint.step) checkpoint }

end ModelRegistry

end Ml

end Botik
