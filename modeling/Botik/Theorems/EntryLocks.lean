import Botik.Execution.ReconciliationRuns
import Botik.Library.Runs

/-!
# Entry locks

An entry lock of a checked type is open after a successful run exactly if the run detected its
conflict, and then once; a run that fails, or does not check the type, closes none.

## Main definitions

* `CreatedByService` — tables whose open issues the service created
* `LocksConflicts` — what a run does to the entry locks

## Main results

* `locksConflicts_step` — one run
* `entry_locks_are_conflicts` — every run of a sequence
-/

namespace Botik

open Runs OpenItems

/-- How many issues are open under a key. -/
def openCount (key : IssueKey) (db : CoreStore) : ℕ :=
  (db.issues.entries.filter fun e => e.2.isOpen ∧ e.2.key = key).length

/-- Tables whose open issues were all created by the service, which issues once and
resolves. -/
inductive CreatedByService : CoreStore → Prop
  | fresh {db : CoreStore} (h : ∀ n row, db.issues.get? n = some row → row.isOpen = false) :
      CreatedByService db
  | issued {db : CoreStore} (info : RunInfo) (issueType : IssueType) (domain severity : String)
      (symbol : Option String) (h : CreatedByService db) :
      CreatedByService (openOnce info (issueType, domain, readSymbol symbol) severity db).2
  | resolved {db : CoreStore} (issueId utc : ℕ) (h : CreatedByService db) :
      CreatedByService (db.resolveReconciliationIssue issueId utc).2
  | other {db db' : CoreStore} (hissues : db'.issues = db.issues) (h : CreatedByService db) :
      CreatedByService db'

/-- What the service guarantees about its open issues. -/
structure ServiceIssues (db : CoreStore) : Prop where
  single : SingleIssues db
  spelled : SpelledIssues db

section Issues

variable {db db' : CoreStore} {key : IssueKey}

theorem openCount_of_single (h : SingleIssues db) [Decidable (OpenIssue key db)] :
    openCount key db = if OpenIssue key db then 1 else 0 := by
  unfold openCount
  split_ifs with hopen
  · obtain ⟨n, row, hget, hrow, hkey⟩ := hopen
    rw [Dict.filter_entries_eq_singleton hget (decide_eq_true ⟨hrow, hkey⟩)]
    · rfl
    · intro n' row' hget' hsel
      obtain ⟨hrow', hkey'⟩ := of_decide_eq_true hsel
      exact h n' n row' row hget' hget hrow' hrow (hkey'.trans hkey.symm)
  · rw [Dict.filter_entries_eq_nil, List.length_nil]
    intro n row hget
    exact decide_eq_false fun hsel => hopen ⟨n, row, hget, hsel.1, hsel.2⟩

theorem ServiceIssues.of_eq (h : ServiceIssues db) (hissues : db'.issues = db.issues) :
    ServiceIssues db' := by
  refine ⟨?_, ?_⟩
  · rw [SingleIssues, hissues]
    exact h.single
  · rw [SpelledIssues, hissues]
    exact h.spelled

/-- Resolving some issues keeps what the service guarantees. -/
theorem ServiceIssues.of_resolved {utc : ℕ} {numbers : List ℕ} (h : ServiceIssues db)
    (hissues : ∀ n, db'.issues.get? n =
      if n ∈ numbers then (db.issues.get? n).map (IssueRow.resolve utc) else db.issues.get? n) :
    ServiceIssues db' := by
  -- an issue that is still open is as it was
  have hopen : ∀ n row, db'.issues.get? n = some row → row.isOpen = true →
      db.issues.get? n = some row := by
    intro n row hget hrow
    rw [hissues] at hget
    split_ifs at hget
    · obtain ⟨old, -, rfl⟩ := Option.map_eq_some_iff.mp hget
      rw [IssueRow.isOpen_resolve] at hrow
      cases hrow
    · exact hget
  refine ⟨fun n m a b ha hb haOpen hbOpen hkey => ?_, fun n row hget hrow => ?_⟩
  · exact h.single n m a b (hopen n a ha haOpen) (hopen m b hb hbOpen) haOpen hbOpen hkey
  · exact h.spelled n row (hopen n row hget hrow) hrow

theorem CreatedByService.serviceIssues (h : CreatedByService db) : ServiceIssues db := by
  induction h with
  | fresh h =>
    refine ⟨fun n m a b ha _ haOpen _ _ => ?_, fun n row hget hrow => ?_⟩
    · rw [h n a ha] at haOpen
      cases haOpen
    · rw [h n row hget] at hrow
      cases hrow
  | issued info issueType domain severity symbol _ ih =>
    exact ⟨ih.single.openOnce, ih.spelled.openOnce (readSymbol_readSymbol symbol)⟩
  | @resolved db issueId utc _ ih =>
    have hissues : ∀ n, (db.resolveReconciliationIssue issueId utc).2.issues.get? n =
        if n ∈ [issueId] then (db.issues.get? n).map (IssueRow.resolve utc)
        else db.issues.get? n := by
      intro n
      simp only [List.mem_singleton]
      exact Dict.get?_update _ _ _ _
    exact ih.of_resolved hissues
  | other hissues _ ih => exact ih.of_eq hissues

end Issues

/-! ### One run -/

/-- A successful run leaves an entry lock of a checked type open exactly if it detected the
conflict, and then once; issues of an unchecked type stay, and after a failure all do. -/
structure LocksConflicts (r : ReconRun) (w w' : World) : Prop where
  checked : (r.summary w).status = "success" → ∀ key : IssueKey,
    (key.1, key.2.1) ∈ r.svc.eligiblePairs (r.summary w) → key.2.2 ≠ "" →
      openCount key w'.core = if key ∈ r.conflicts w then 1 else 0
  unchecked : ∀ issueId row, w.core.issues.get? issueId = some row →
    ((r.summary w).status = "success" →
      (row.issueType, row.domain) ∉ r.svc.eligiblePairs (r.summary w)) →
      w'.core.issues.get? issueId = some row

section Step

variable {r : ReconRun} {w : World} {s s₃ s₄ : ReconState} {wallet : ListReply WalletCoin}
  {orders : ListReply OpenOrderItem}

/-- An entry lock of a checked type is open after the sweep if it is remembered. -/
theorem openIssue_swept {svc : ReconciliationService} {utc : ℕ} {key : IssueKey} {s s' : ReconState}
    (h : Swept utc (ReconciliationService.openIssuesOf (svc.eligiblePairs s.summary) s.world) s s')
    (hspelled : SpelledIssues s.world.core)
    (heligible : (key.1, key.2.1) ∈ svc.eligiblePairs s.summary) :
    OpenIssue key s'.world.core ↔ OpenIssue key s.world.core ∧ key ∈ s.activeLockIssueKeys := by
  -- the sweep strips the key it compares; a stored key is stripped already
  have hsweepKey : ∀ n row, s.world.core.issues.get? n = some row → row.isOpen = true →
      row.key = key → ReconciliationService.sweepKey row = key := by
    rintro n row hget hopen rfl
    unfold ReconciliationService.sweepKey
    rw [hspelled n row hget hopen, show Text.strip row.domain = row.domain from
      (eligible_spec heligible).2]
    rfl
  have hswept : ∀ n row, s.world.core.issues.get? n = some row → row.isOpen = true →
      row.key = key → (n ∈ sweptIssues (ReconciliationService.openIssuesOf
        (svc.eligiblePairs s.summary) s.world) s.activeLockIssueKeys ↔
          key ∉ s.activeLockIssueKeys) := by
    intro n row hget hopen hkey
    rw [mem_sweptIssues]
    constructor
    · rintro ⟨row', hmem, hnot⟩
      have hget' := Dict.mem_entries_iff.mp (List.mem_filter.mp hmem).1
      obtain rfl : row' = row := Option.some.inj (hget'.symm.trans hget)
      rwa [hsweepKey n row' hget hopen hkey] at hnot
    · intro hnot
      have hpair : (row.issueType, row.domain) = (key.1, key.2.1) := by rw [← hkey]; rfl
      have hselected : row.isOpen = true ∧
          (row.issueType, row.domain) ∈ svc.eligiblePairs s.summary :=
        ⟨hopen, hpair ▸ heligible⟩
      refine ⟨row, List.mem_filter.mpr ⟨Dict.mem_entries_iff.mpr hget,
        decide_eq_true hselected⟩, ?_⟩
      rwa [hsweepKey n row hget hopen hkey]
  constructor
  -- an issue that is still open was not swept
  · rintro ⟨n, row, hget, hopen, hkey⟩
    rw [h.issues] at hget
    split_ifs at hget with hn
    · obtain ⟨old, -, rfl⟩ := Option.map_eq_some_iff.mp hget
      rw [IssueRow.isOpen_resolve] at hopen
      cases hopen
    · refine ⟨⟨n, row, hget, hopen, hkey⟩, ?_⟩
      by_contra hnot
      exact hn ((hswept n row hget hopen hkey).mpr hnot)
  -- a remembered issue is not swept
  · rintro ⟨⟨n, row, hget, hopen, hkey⟩, hactive⟩
    refine ⟨n, row, ?_, hopen, hkey⟩
    rw [h.issues, if_neg fun hn => (hswept n row hget hopen hkey).mp hn hactive]
    exact hget

/-- What the service guarantees holds after a run too. -/
theorem serviceIssues_step (h : ServiceIssues w.core) : ServiceIssues (reconStep r w).core := by
  have hbegun : ServiceIssues (r.begun w).world.core := h.of_eq issues_begun.1
  rcases body_cases r.svc (r.info w) r.answers (r.begun w) with
    ⟨e, s', hbody, ⟨ks, hraised⟩, -, -⟩ | ⟨wallet, orders, s₃, s₄, hpassed, hbody⟩
  · exact ServiceIssues.of_eq ⟨hraised.single hbegun.single, hraised.spelled hbegun.spelled⟩
      (run_of_error hbody).2.1
  · have hraised := hpassed.raised rfl rfl
    have hswept := swept_resolveStaleEntryLockIssues r.svc (r.info w) s₄
    have hbefore : ServiceIssues s₄.world.core :=
      ⟨hraised.single hbegun.single, hraised.spelled hbegun.spelled⟩
    exact (hbefore.of_resolved hswept.issues).of_eq (run_of_ok hbody).2.1

/-- After a successful run, a lock of a checked type is open exactly if its conflict was detected
and has a symbol. -/
theorem openIssue_reconStep (h : ServiceIssues w.core) (hsuccess : (r.summary w).status = "success")
    {key : IssueKey} (heligible : (key.1, key.2.1) ∈ r.svc.eligiblePairs (r.summary w)) :
    OpenIssue key (reconStep r w).core ↔ key ∈ r.conflicts w ∧ key.2.2 ≠ "" := by
  have hbegun : ServiceIssues (r.begun w).world.core := h.of_eq issues_begun.1
  obtain ⟨wallet, orders, s₃, s₄, hpassed, hbody⟩ := exists_passed hsuccess
  obtain ⟨hsummary, hissues, -, -, -⟩ := run_of_ok hbody
  have hraised : Raised (r.conflicts w) (r.begun w) s₄ := hpassed.raised rfl rfl
  have hswept := swept_resolveStaleEntryLockIssues r.svc (r.info w) s₄
  rw [hsummary, eligiblePairs_congr hswept.flags] at heligible
  -- before the sweep the lock is open if it is detected, and remembered only then
  have hopens := hraised.opens key (eligible_spec heligible).1
  have hactive := hraised.active key
  rw [issues_begun.2] at hactive
  have hsame : OpenIssue key (reconStep r w).core ↔
      OpenIssue key (r.svc.resolveStaleEntryLockIssues (r.info w) s₄).world.core := by
    rw [OpenIssue, OpenIssue, hissues]
  rw [hsame, openIssue_swept hswept (hraised.spelled hbegun.spelled) heligible, hactive, hopens]
  simp only [List.not_mem_nil, or_false]
  tauto

/-- One run. -/
theorem locksConflicts_step (h : ServiceIssues w.core) : LocksConflicts r w (reconStep r w) := by
  have hafter := serviceIssues_step (r := r) h
  constructor
  · intro hsuccess key heligible hsymbol
    have hopen : OpenIssue key (reconStep r w).core ↔ key ∈ r.conflicts w := by
      rw [openIssue_reconStep h hsuccess heligible]
      exact and_iff_left hsymbol
    classical
    rw [openCount_of_single hafter.single]
    simp only [hopen]
  · intro issueId row hget hunchecked
    rcases body_cases r.svc (r.info w) r.answers (r.begun w) with
      ⟨e, s', hbody, ⟨ks, hraised⟩, -, -⟩ | ⟨wallet, orders, s₃, s₄, hpassed, hbody⟩
    · rw [(run_of_error hbody).2.1]
      exact hraised.stays issueId row hget
    · obtain ⟨hsummary, hissues, -, -, -⟩ := run_of_ok hbody
      have hraised : Raised (r.conflicts w) (r.begun w) s₄ := hpassed.raised rfl rfl
      have hswept := swept_resolveStaleEntryLockIssues r.svc (r.info w) s₄
      have hstatus : (r.summary w).status = "success" := by
        rw [hsummary]
        exact (congrArg Prod.fst hswept.flags).trans hpassed.status
      have hnot := hunchecked hstatus
      rw [hsummary, eligiblePairs_congr hswept.flags] at hnot
      have hbefore : s₄.world.core.issues.get? issueId = some row :=
        hraised.stays issueId row hget
      rw [hissues, hswept.issues, if_neg]
      · exact hbefore
      · rw [mem_sweptIssues]
        rintro ⟨row', hmem, -⟩
        obtain ⟨hentry, hsel⟩ := List.mem_filter.mp hmem
        obtain rfl : row' = row :=
          Option.some.inj ((Dict.mem_entries_iff.mp hentry).symm.trans hbefore)
        exact hnot (of_decide_eq_true hsel).2

end Step

/-! ### A sequence of runs -/

/-- In a sequence of runs, from tables whose open issues the service created, every run
leaves the entry locks it checked open exactly for the conflicts it detected, each once, and
the others as they were. -/
theorem entry_locks_are_conflicts (runs : List ReconRun) (w₀ : World)
    (h₀ : CreatedByService w₀.core) :
    ∀ t ∈ transitions reconStep runs w₀, LocksConflicts t.input t.before t.after := by
  intro t ht
  have hstep : ∀ w r, ServiceIssues w.core → True → ServiceIssues (reconStep r w).core :=
    fun _ _ h _ => serviceIssues_step h
  have hbefore : ServiceIssues t.before.core :=
    (forall_transitions_of_inv hstep h₀.serviceIssues (fun _ _ => trivial) t ht).1
  rw [after_eq_step ht]
  exact locksConflicts_step hbefore

/-! ### A position that is missing, and back -/

/-- A futures service without managed symbols. -/
def linearService : ReconciliationService where
  marketCategory := .linear
  accountType := unified
  managedSymbols := []
  symbolsLimit := 120
  serviceName := "runtime"

/-- Answers with an empty wallet, no orders, and some positions. -/
def positionAnswers (positions : List ExchangePosition) : Answers where
  wallet := .ok ⟨some 0, []⟩
  openOrders := .ok ⟨some 0, []⟩
  executions := fun _ => .ok ⟨some 0, []⟩
  positions := .ok ⟨some 0, positions⟩
  utc := 100

/-- A protected position of the exchange. -/
def listedPosition (symbol side size : String) : ExchangePosition where
  symbol := some symbol
  side := some side
  positionIdx := some "0"
  size := some size
  qty := none
  stopLoss := some "62500"
  takeProfit := some "64000"
  trailingStop := some "0"
  tradeMode := none
  marginMode := none
  leverage := some "5"
  avgPrice := some "63000"
  entryPrice := none
  markPrice := some "63100"
  liqPrice := some "52000"
  unrealisedPnl := none
  unrealizedPnl := none
  cumRealisedPnl := none
  realizedPnl := none

/-- A stored position of a hundredth. -/
def storedPosition : PositionRow where
  marginMode := "cross"
  leverage := some 5
  qty := 1 / 100
  entryPrice := some 63000
  markPrice := some 63100
  liqPrice := some 52000
  unrealizedPnl := none
  realizedPnl := none
  takeProfit := some 64000
  stopLoss := some 62500
  trailingStop := none
  protectionStatus := .«protected»
  sourceOfTruth := "runtime"
  recoveredFromExchange := false
  strategyOwner := some "runtime"
  updatedAtUtc := 0

/-- Tables with this position. -/
def positionWorld : World :=
  { World.initial (.default ["BTCUSDT"] .linear) with
    futures := FuturesStore.empty.upsertFuturesPosition ⟨unified, "BTCUSDT", "Buy", 0⟩
      storedPosition }

/-- A first run misses the position, a second one finds it. -/
def missingThenFound : List ReconRun :=
  [⟨linearService, "missing", positionAnswers []⟩,
    ⟨linearService, "found", positionAnswers [listedPosition "BTCUSDT" "Buy" "0.01"]⟩]

/-- The lock is open after the first run, and released by the second. -/
theorem lock_raised_and_released :
    let key : IssueKey := (.localPositionMissingOnExchange, "futures", "BTCUSDT")
    let w₁ := reconStep missingThenFound[0] positionWorld
    openCount key w₁.core = 1 ∧ openCount key (reconStep missingThenFound[1] w₁).core = 0 := by
  have hall := entry_locks_are_conflicts missingThenFound positionWorld (.fresh fun n row hget => by
    have hnone : positionWorld.core.issues.get? n = none := rfl
    rw [hnone] at hget
    cases hget)
  have hfirst := (hall _ List.mem_cons_self).checked (by decide +kernel)
    (.localPositionMissingOnExchange, "futures", "BTCUSDT") (by decide +kernel) (by decide +kernel)
  have hsecond := (hall _ (List.mem_cons_of_mem _ List.mem_cons_self)).checked (by decide +kernel)
    (.localPositionMissingOnExchange, "futures", "BTCUSDT") (by decide +kernel) (by decide +kernel)
  constructor
  · refine hfirst.trans ?_
    decide +kernel
  · refine hsecond.trans ?_
    decide +kernel

end Botik
