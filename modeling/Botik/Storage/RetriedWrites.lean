import Mathlib.Algebra.Order.Ring.Int
import Botik.Library.Connection
import Botik.Library.Runs
import Botik.Library.Text

/-!
# Writes that are retried

`_execute_write` and `_executemany_write` of `storage/sqlite_store.py`: a statement and its commit,
tried again after a rollback as long as the database is locked. Every other error, and the lock of
the last attempt, is raised as it comes.

A statement executes its rows one after the other, and each row completely or not at all. What was
executed stays in the open transaction until it is committed or rolled back; some errors end the
transaction by themselves.

## Main definitions

* `AttemptAnswer` — what becomes of one attempt
* `RetriedWrites.executeWrite`, `RetriedWrites.executemanyWrite` — the two functions
* `WriteCall`, `writeCall` — calls of both on one connection
-/

namespace Botik

/-- An exception of the database. -/
inductive DatabaseError
  | operational (message : String)
  /-- Any other one, such as `IntegrityError`. -/
  | other (message : String)
  deriving DecidableEq, Repr

/-- `_is_locked_error`, of an exception that is caught. -/
def DatabaseError.isLocked : DatabaseError → Bool
  | .operational message =>
    let msg := Text.lower (Text.strip message)
    Text.contains "locked" msg || Text.contains "busy" msg
  | .other _ => false

/-- An attempt that raises. -/
structure FailedAttempt where
  /-- The commit raises; else a row does. -/
  atCommit : Bool
  /-- How many rows were executed before the one that raises. -/
  rowsDone : ℕ
  error : DatabaseError
  /-- The transaction is still open afterwards. -/
  stillOpen : Bool
  /-- A rollback after it succeeds. -/
  rollbackWorks : Bool
  deriving DecidableEq, Repr

inductive AttemptAnswer
  | committed
  | failed (attempt : FailedAttempt)
  deriving DecidableEq, Repr

inductive WriteResult
  | returned
  | raised (error : DatabaseError)
  /-- The `RuntimeError` after the loop. -/
  | unreachable
  deriving DecidableEq, Repr

section Write

variable {σ : Type}

/-- The rows of a statement, one after the other. -/
def runRows (rows : List (σ → σ)) (s : σ) : σ := rows.foldl (fun s row => row s) s

/-- The rows a failed attempt executed: all of them before a commit, else some before the last. -/
def FailedAttempt.executed (attempt : FailedAttempt) (rows : List (σ → σ)) : List (σ → σ) :=
  if attempt.atCommit then rows else rows.dropLast.take attempt.rowsDone

/-- The loop over the attempts that are left. -/
def writeAttempts (rows : List (σ → σ)) (retries : ℤ) (answers : ℕ → AttemptAnswer) :
    ℕ → ℕ → Connection σ → WriteResult × Connection σ
  | 0, _, c => (.unreachable, c)
  | left + 1, attempt, c =>
    match answers attempt with
    | .committed => (.returned, (c.write (runRows rows)).commit)
    | .failed failure =>
      let c' := c.afterFailure (runRows (failure.executed rows)) true failure.stillOpen
      if failure.error.isLocked = false ∨ retries ≤ attempt then (.raised failure.error, c')
      else writeAttempts rows retries answers left (attempt + 1)
        (if failure.rollbackWorks then c'.rollback else c')

/-- The number of attempts. -/
def maxAttempts (retries : ℤ) : ℕ := (max retries 0).toNat + 1

namespace RetriedWrites

/-- `_execute_write`. -/
def executeWrite (sql : σ → σ) (retries : ℤ) (answers : ℕ → AttemptAnswer) (c : Connection σ) :
    WriteResult × Connection σ :=
  writeAttempts [sql] retries answers (maxAttempts retries) 0 c

/-- `_executemany_write`; without rows nothing is sent. -/
def executemanyWrite (rows : List (σ → σ)) (retries : ℤ) (answers : ℕ → AttemptAnswer)
    (c : Connection σ) : WriteResult × Connection σ :=
  if rows.isEmpty then (.returned, c)
  else writeAttempts rows retries answers (maxAttempts retries) 0 c

end RetriedWrites

/-- A call of one of the two, with what becomes of its attempts. -/
inductive WriteCall (σ : Type)
  | execute (sql : σ → σ) (retries : ℤ) (answers : ℕ → AttemptAnswer)
  | executemany (rows : List (σ → σ)) (retries : ℤ) (answers : ℕ → AttemptAnswer)

namespace WriteCall

/-- The rows of the statement. -/
def rows : WriteCall σ → List (σ → σ)
  | .execute sql _ _ => [sql]
  | .executemany rows _ _ => rows

def retries : WriteCall σ → ℤ
  | .execute _ retries _ => retries
  | .executemany _ retries _ => retries

def answers : WriteCall σ → ℕ → AttemptAnswer
  | .execute _ _ answers => answers
  | .executemany _ _ answers => answers

end WriteCall

/-- One call on the connection. -/
def writeCall : WriteCall σ → Connection σ → WriteResult × Connection σ
  | .execute sql retries answers, c => RetriedWrites.executeWrite sql retries answers c
  | .executemany rows retries answers, c => RetriedWrites.executemanyWrite rows retries answers c

end Write

end Botik
