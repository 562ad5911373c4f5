import Mathlib.Data.Rat.Init
import Botik.Library.Text
import Botik.Library.Upserts

/-!
# The audit log, the reconciliation runs and their issues

`storage/core_store.py`, without payloads, details and snapshots, which nothing reads. The
random ids of issues and runs are numbers that differ from those in use.

## Main definitions

* `AuditEvent`, `IssueType`, `IssueRow`, `ReconciliationRunRow`, `CoreStore`
* `insertEventAudit`, `insertReconciliationIssue`, `resolveReconciliationIssue`
* `startReconciliationRun`, `finishReconciliationRun`
-/

namespace Botik

/-- One row of `events_audit`. -/
structure AuditEvent where
  eventType : String
  domain : String
  symbol : Option String
  refId : Option String
  deriving DecidableEq, Repr

/-- The issue types of the reconciliation, and any other text of the column. -/
inductive IssueType
  | orphanedExchangePosition
  | orphanedExchangeOrder
  | localPositionMissingOnExchange
  | localOrderMissingOnExchange
  | walletBalanceApiError
  | spotAssetRecoveredFromExchange
  | localHoldingMissingOnExchange
  | unprotectedPosition
  | other (name : String)
  deriving DecidableEq, Repr

/-- `ENTRY_LOCK_ISSUE_TYPES`. -/
def IssueType.isEntryLock : IssueType → Bool
  | .orphanedExchangePosition | .orphanedExchangeOrder | .localPositionMissingOnExchange
  | .localOrderMissingOnExchange => true
  | _ => false

/-- One row of `reconciliation_issues`, its id apart. -/
structure IssueRow where
  reconciliationRunId : Option ℕ
  issueType : IssueType
  domain : String
  symbol : Option String
  severity : String
  status : String
  createdAtUtc : ℕ
  resolvedAtUtc : Option ℕ
  deriving DecidableEq, Repr

/-- `LOWER(COALESCE(status, '')) IN ('open', 'active')`. -/
def IssueRow.isOpen (row : IssueRow) : Bool := Text.lower row.status ∈ ["open", "active"]

/-- What the resolution does to an open issue. -/
def IssueRow.resolve (utc : ℕ) (row : IssueRow) : IssueRow :=
  if row.isOpen then { row with status := "resolved", resolvedAtUtc := some utc } else row

theorem IssueRow.isOpen_resolve (utc : ℕ) (row : IssueRow) : (row.resolve utc).isOpen = false := by
  unfold IssueRow.resolve
  split_ifs with hopen
  · have hresolved : Text.lower "resolved" ∉ ["open", "active"] := by decide +kernel
    exact decide_eq_false hresolved
  · exact Bool.eq_false_iff.mpr hopen

theorem IssueRow.resolve_of_closed {utc : ℕ} {row : IssueRow} (h : row.isOpen = false) :
    row.resolve utc = row := by
  unfold IssueRow.resolve
  rw [h]
  rfl

/-- One row of `reconciliation_runs`, its id apart. -/
structure ReconciliationRunRow where
  triggerSource : String
  status : String
  startedAtUtc : ℕ
  finishedAtUtc : Option ℕ
  deriving DecidableEq, Repr

structure CoreStore where
  eventsAudit : List AuditEvent
  issues : Dict ℕ IssueRow
  runs : Dict ℕ ReconciliationRunRow

namespace CoreStore

def empty : CoreStore := ⟨[], .empty, .empty⟩

/-- `insert_event_audit`. -/
def insertEventAudit (db : CoreStore) (event : AuditEvent) : CoreStore :=
  { db with eventsAudit := db.eventsAudit ++ [event] }

/-- `insert_reconciliation_issue`: the id of the new row, and the table with it. -/
def insertReconciliationIssue (db : CoreStore) (row : IssueRow) : ℕ × CoreStore :=
  let issueId := db.issues.freshNumber id
  (issueId, { db with issues := db.issues.set issueId row })

/-- `resolve_reconciliation_issue`: whether the issue was open, and the table without it. -/
def resolveReconciliationIssue (db : CoreStore) (issueId utc : ℕ) : Bool × CoreStore :=
  (((db.issues.get? issueId).map IssueRow.isOpen).getD false,
    { db with issues := db.issues.update issueId (IssueRow.resolve utc) })

/-- `start_reconciliation_run`: the id of the new row, and the table with it. -/
def startReconciliationRun (db : CoreStore) (triggerSource : String) (utc : ℕ) : ℕ × CoreStore :=
  let runId := db.runs.freshNumber id
  (runId, { db with runs := db.runs.set runId ⟨triggerSource, "running", utc, none⟩ })

/-- `finish_reconciliation_run`. -/
def finishReconciliationRun (db : CoreStore) (runId : ℕ) (status : String) (utc : ℕ) : CoreStore :=
  { db with runs := db.runs.update runId fun row =>
      { row with status := status, finishedAtUtc := some utc } }

end CoreStore

end Botik
