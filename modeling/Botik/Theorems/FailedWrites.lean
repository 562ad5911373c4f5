import Mathlib.Data.List.Induction
import Botik.Storage.ModelRegistry
import Botik.Storage.RetriedWrites

/-!
# What failed writes leave behind

A retried attempt is rolled back first, but an attempt whose exception is raised is not: what it
executed stays in the open transaction, and the commit of a later call stores it. Where no failed
attempt leaves rows in an open transaction, what is stored after any calls is what the returned ones
wrote, each once.

## Main definitions

* `returnedRows` — the rows of the calls that returned
* `StoresReturned` — what is stored after every call is what the returned ones wrote
* `WriteCall.leavesNoRows` — no failed attempt of the call leaves rows in an open transaction

## Main results

* `settles_writeCall` — one call
* `stored_by_later_call` — rows that were left, and the next call that commits
* `stores_returned_of_leavesNoRows`
* `registry_executeWrite_eq` — the writes of the registry, which see less of their attempts
-/

namespace Botik

open Machines Program

variable {σ : Type}

/-- The rows of the calls that returned, in order. -/
def returnedRows (calls : List (WriteCall σ)) (c : Connection σ) : List (σ → σ) :=
  (calls.zip (outputs writeCall calls c)).flatMap fun p =>
    if p.2 = .returned then p.1.rows else []

/-- After every call what is stored is what the returned calls wrote, each of them once. -/
def StoresReturned (calls : List (WriteCall σ)) (s : σ) : Prop :=
  ∀ before after, calls = before ++ after →
    (final writeCall before (.opened s)).stored = runRows (returnedRows before (.opened s)) s

/-! ### The condition -/

/-- A failed attempt leaves no row in an open transaction. -/
def FailedAttempt.leavesNoRows (failure : FailedAttempt) (rows : List (σ → σ)) : Bool :=
  !failure.stillOpen || (failure.executed rows).isEmpty

/-- None of the attempts that are left, from this one on, leaves rows in an open transaction: a
retried one may, if it is rolled back. -/
def attemptsLeaveNoRows (rows : List (σ → σ)) (retries : ℤ) (answers : ℕ → AttemptAnswer) :
    ℕ → ℕ → Bool
  | 0, _ => true
  | left + 1, attempt =>
    match answers attempt with
    | .committed => true
    | .failed failure =>
      if failure.error.isLocked = false ∨ retries ≤ attempt then failure.leavesNoRows rows
      else (failure.leavesNoRows rows || failure.rollbackWorks) &&
        attemptsLeaveNoRows rows retries answers left (attempt + 1)

/-- No failed attempt of the call leaves rows in an open transaction. -/
def WriteCall.leavesNoRows (call : WriteCall σ) : Bool :=
  attemptsLeaveNoRows call.rows call.retries call.answers (maxAttempts call.retries) 0

/-- The rows are stored once where the call returned, and else nothing is; the transaction is
over. -/
def Settles (rows : List (σ → σ)) (s : σ) (r : WriteResult × Connection σ) : Prop :=
  r.2 = .opened (if r.1 = .returned then runRows rows s else s)

section OneCall

variable {rows : List (σ → σ)} {retries : ℤ} {answers : ℕ → AttemptAnswer} {left attempt : ℕ}
  {failure : FailedAttempt} {call : WriteCall σ} {s : σ}

/-- A failed attempt that leaves no rows leaves the connection as it was. -/
theorem afterFailure_of_leavesNoRows (h : failure.leavesNoRows rows = true) :
    (Connection.opened s).afterFailure (runRows (failure.executed rows)) true failure.stillOpen =
      .opened s := by
  cases hopen : failure.stillOpen with
  | false => rfl
  | true =>
    have hnone : failure.executed rows = [] := by
      simpa [FailedAttempt.leavesNoRows, hopen] using h
    rw [hnone]
    rfl

/-- What an attempt that is retried hands to the next one. -/
theorem retried_eq (h : failure.leavesNoRows rows = true ∨ failure.rollbackWorks = true) :
    (if failure.rollbackWorks then
        ((Connection.opened s).afterFailure (runRows (failure.executed rows)) true
          failure.stillOpen).rollback
      else (Connection.opened s).afterFailure (runRows (failure.executed rows)) true
        failure.stillOpen) = .opened s := by
  split_ifs with hworks
  · rw [Connection.rollback, Connection.afterFailure_stored, Connection.opened_stored]
  · exact afterFailure_of_leavesNoRows (h.resolve_right hworks)

/-- The attempts that are left store the rows once, or nothing. -/
theorem settles_writeAttempts (h : attemptsLeaveNoRows rows retries answers left attempt = true) :
    Settles rows s (writeAttempts rows retries answers left attempt (.opened s)) := by
  induction left generalizing attempt with
  | zero => rfl
  | succ left ih =>
    rw [attemptsLeaveNoRows] at h
    rw [writeAttempts]
    cases hanswer : answers attempt with
    | committed => rfl
    | failed failure =>
      rw [hanswer] at h
      dsimp only at h ⊢
      by_cases hraise : failure.error.isLocked = false ∨ retries ≤ attempt
      · rw [if_pos hraise] at h ⊢
        rw [afterFailure_of_leavesNoRows h]
        rfl
      · -- the next attempt starts from what was stored
        rw [if_neg hraise, Bool.and_eq_true, Bool.or_eq_true] at h
        rw [if_neg hraise, retried_eq h.1]
        exact ih h.2

/-- A call that leaves no rows stores its rows once where it returns, and else nothing. -/
theorem settles_writeCall (h : call.leavesNoRows = true) (s : σ) :
    Settles call.rows s (writeCall call (.opened s)) := by
  cases call with
  | execute sql retries answers => exact settles_writeAttempts h
  | executemany rows retries answers =>
    change Settles rows s (RetriedWrites.executemanyWrite rows retries answers (.opened s))
    unfold RetriedWrites.executemanyWrite
    split_ifs with hempty
    · rw [List.isEmpty_iff.mp hempty]
      rfl
    · exact settles_writeAttempts h

/-- Rows that were left in the transaction are stored by the next call that commits. -/
theorem stored_by_later_call (c : Connection σ) (hnext : answers 0 = .committed) (sql : σ → σ) :
    (writeCall (.execute sql retries answers) c).2.stored = sql c.current := by
  change (writeAttempts [sql] retries answers ((max retries 0).toNat + 1) 0 c).2.stored = _
  rw [writeAttempts, hnext]
  rfl

end OneCall

/-! ### Runs -/

theorem returnedRows_concat (calls : List (WriteCall σ)) (call : WriteCall σ) (c : Connection σ) :
    returnedRows (calls ++ [call]) c = returnedRows calls c ++
      if (writeCall call (final writeCall calls c)).1 = .returned then call.rows else [] := by
  unfold returnedRows
  rw [outputs_append, List.zip_append (by rw [length_outputs]), List.flatMap_append]
  simp

theorem runRows_append (rows rows' : List (σ → σ)) (s : σ) :
    runRows (rows ++ rows') s = runRows rows' (runRows rows s) := List.foldl_append

/-- The connection after calls that leave no rows. -/
theorem final_of_leavesNoRows {calls : List (WriteCall σ)}
    (h : ∀ call ∈ calls, call.leavesNoRows = true) (s : σ) :
    final writeCall calls (.opened s) = .opened (runRows (returnedRows calls (.opened s)) s) := by
  induction calls using List.reverseRecOn with
  | nil => rfl
  | append_singleton calls call ih =>
    have hcalls := ih fun call' hcall' => h call' (List.mem_append_left _ hcall')
    have hmem : call ∈ calls ++ [call] := List.mem_append_right _ (List.mem_singleton_self call)
    have hcall := settles_writeCall (h call hmem) (runRows (returnedRows calls (.opened s)) s)
    rw [final_append, final_cons, final_nil, returnedRows_concat, runRows_append, hcalls, hcall]
    split_ifs
    · rfl
    · rfl

/-- In every run whose calls leave no rows in an open transaction, every returned call is stored
exactly once, and nothing of the others is. -/
theorem stores_returned_of_leavesNoRows (calls : List (WriteCall σ)) (s : σ)
    (h : ∀ call ∈ calls, call.leavesNoRows = true) : StoresReturned calls s := by
  rintro before after rfl
  rw [final_of_leavesNoRows fun call hcall => h call (List.mem_append_left _ hcall)]
  rfl

/-! ### The writes of the registry -/

/-- An attempt as a write of the registry sees it: the transaction is not open any more where it was
rolled back before the next attempt. -/
def AttemptAnswer.seen (attempt : ℕ) : AttemptAnswer → WriteAttempt
  | .committed => .committed
  | .failed failure =>
    .failed failure.atCommit failure.error.isLocked
      (failure.stillOpen &&
        !(failure.error.isLocked && attempt < lockRetryAttempts && failure.rollbackWorks))

/-- How the write of the registry ends. -/
def seenResult : WriteResult × Connection σ → EStateM.Result Interruption (Connection σ) Unit
  | (.returned, c) => .ok () c
  | (_, c) => .error .operationalError c

theorem afterFailure_executed_singleton (failure : FailedAttempt) (sql : σ → σ) (stillOpen : Bool)
    (c : Connection σ) :
    c.afterFailure (runRows (failure.executed [sql])) true stillOpen =
      c.afterFailure sql failure.atCommit stillOpen := by
  cases hcommit : failure.atCommit with
  | false =>
    have hnone : failure.executed [sql] = [] := by simp [FailedAttempt.executed, hcommit]
    rw [hnone]
    rfl
  | true =>
    have hall : failure.executed [sql] = [sql] := by simp [FailedAttempt.executed, hcommit]
    rw [hall]
    rfl

/-- What the next attempt finds, where there is one. -/
theorem afterFailure_and_not (sql : σ → σ) (executed stillOpen works : Bool) (c : Connection σ) :
    c.afterFailure sql executed (stillOpen && !works) =
      if works then (c.afterFailure sql executed stillOpen).rollback
      else c.afterFailure sql executed stillOpen := by
  cases works with
  | false => simp
  | true =>
    rw [Bool.not_true, Bool.and_false, if_pos rfl, Connection.rollback,
      Connection.afterFailure_stored]
    rfl

theorem tryWrite_seen (sql : σ → σ) (answers : ℕ → AttemptAnswer) {left attempt : ℕ}
    (h : attempt + left = lockRetryAttempts + 1) (c : Connection σ) :
    Connection.tryWrite .operationalError .stopped sql
        ((List.range' attempt left).map fun n => (answers n).seen n) c =
      seenResult (writeAttempts [sql] lockRetryAttempts answers left attempt c) := by
  induction left generalizing attempt c with
  | zero => rfl
  | succ left ih =>
    rw [List.range'_succ, List.map_cons, writeAttempts]
    cases hanswer : answers attempt with
    | committed => rfl
    | failed failure =>
      have hmore : (List.range' (attempt + 1) left).map (fun n => (answers n).seen n) ≠ [] ↔
          attempt < lockRetryAttempts := by
        rw [Ne, List.map_eq_nil_iff, List.range'_eq_nil_iff]
        omega
      rw [AttemptAnswer.seen, Connection.tryWrite, bind_of_ok (modify_run _ _)]
      dsimp only
      rw [afterFailure_executed_singleton]
      -- the list of attempts ends exactly where the count does
      by_cases hretry : failure.error.isLocked = true ∧ attempt < lockRetryAttempts
      · obtain ⟨hlocked, hlt⟩ := hretry
        have hnot : ¬ (failure.error.isLocked = false ∨ (lockRetryAttempts : ℤ) ≤ attempt) := by
          simp [hlocked, hlt]
        have hnext : attempt + 1 + left = lockRetryAttempts + 1 := by omega
        rw [if_pos ⟨hlocked, hmore.mpr hlt⟩, if_neg hnot, ih hnext, hlocked, decide_eq_true hlt,
          Bool.true_and, Bool.true_and, afterFailure_and_not]
      · have hraise : failure.error.isLocked = false ∨ (lockRetryAttempts : ℤ) ≤ attempt := by
          rw [← Bool.not_eq_true, Nat.cast_le, ← not_lt, ← not_and_or]
          exact hretry
        have hkept : (failure.error.isLocked && decide (attempt < lockRetryAttempts)) = false := by
          rw [← Bool.not_eq_true, Bool.and_eq_true, decide_eq_true_iff]
          exact hretry
        rw [if_neg (by rwa [hmore]), if_pos hraise, hkept, Bool.false_and, Bool.not_false,
          Bool.and_true]
        rfl

/-- The writes of the registry are this one, of which they see less. -/
theorem registry_executeWrite_eq (sql : σ → σ) (answers : ℕ → AttemptAnswer) (c : Connection σ) :
    executeWrite sql (fun n => (answers n).seen n) c =
      seenResult (RetriedWrites.executeWrite sql lockRetryAttempts answers c) := by
  rw [executeWrite, List.range_eq_range', tryWrite_seen sql answers (Nat.zero_add _) c]
  rfl

/-! ### Two batches -/

/-- The rows 1 and 2, of which the second raises as often as it is tried. -/
def brokenBatch (stillOpen : Bool) (error : DatabaseError) : WriteCall (List ℕ) :=
  .executemany [(· ++ [1]), (· ++ [2])] 1 fun _ => .failed ⟨false, 1, error, stillOpen, true⟩

/-- The row 3, which is written at once. -/
def laterWrite : WriteCall (List ℕ) := .execute (· ++ [3]) 5 fun _ => .committed

/-- The row 4, which is written after its commit was refused once. -/
def retriedWrite : WriteCall (List ℕ) := .execute (· ++ [4]) 5 fun attempt =>
  if attempt = 0 then .failed ⟨true, 0, .operational "database is locked", true, true⟩
  else .committed

/-- The first row of a batch that broke at its second is stored by the next call. -/
theorem broken_batch_stored :
    ¬ StoresReturned [brokenBatch true (.other "UNIQUE constraint failed"), laterWrite] [] := by
  intro h
  have hstored := h _ [] (List.append_nil _).symm
  exact absurd hstored (by decide)

/-- Where the database ends the transaction of the broken batch, the calls store what they should,
the one that was retried included. -/
theorem ended_batch_not_stored :
    (final writeCall [brokenBatch false (.operational "database or disk is full"), retriedWrite,
        laterWrite] (.opened [])).stored = [4, 3] ∧
      StoresReturned [brokenBatch false (.operational "database or disk is full"), retriedWrite,
        laterWrite] [] := by
  refine ⟨by decide +kernel, stores_returned_of_leavesNoRows _ _ ?_⟩
  intro call hcall
  simp only [List.mem_cons, List.not_mem_nil, or_false] at hcall
  rcases hcall with rfl | rfl | rfl
  · decide +kernel
  · decide +kernel
  · decide +kernel

end Botik
