import Botik.Main.Traces
import Botik.Theorems.EntryLocks
import Botik.Theorems.LeverageCap

/-!
# Orders that are missing on the exchange

An accepted order gets an open row in the table of its market. Only a reconciliation closes that
row: the cancellations of the trading loop write no table, and an ingested execution is marked in
the legacy table alone. A reconciliation that finds no open orders on the exchange therefore locks
the symbol of every order whose row no earlier reconciliation has closed.

## Main definitions

* `acceptedOrders`, `OrdersEnded` — the orders of a run, and that they are cancelled or filled
* `ReconciliationService.HasOpenRow`, `missingLock` — the open rows of a symbol, and its lock
* `OrdersStay` — no issue changed, and open rows stayed open

## Main results

* `ordersStay_iterate` — an iteration closes no row
* `missing_locks_iff` — which orders are locked after a reconciliation
* `cancelled_order_locked`
-/

namespace Botik

open Program Runs Upserts

/-! ### The orders of a run -/

/-- The order of an accepted call. -/
def Event.acceptedOrder? : Event → Option OrderRequest
  | .placeOrder order true => some order
  | _ => none

/-- The orders the exchange accepted. -/
def acceptedOrders (trace : List Event) : List OrderRequest :=
  trace.filterMap Event.acceptedOrder?

/-- What a run added to the trace. -/
def runEvents (x : Context) (envs : List LoopEnv) (w : World) : List Event :=
  (runLoop x envs w).trace.drop w.trace.length

/-- Every accepted order was cancelled later, or an execution of it was ingested. -/
def OrdersEnded (events : List Event) (executions : Dict String ExecutionRow) : Prop :=
  ∀ before order after, events = before ++ .placeOrder order true :: after →
    (∃ symbol, .cancelOrder symbol order.orderLinkId true ∈ after) ∨
      ∃ e ∈ executions.entries, e.2.orderLinkId = some order.orderLinkId

namespace ReconciliationService

/-- The lock of a symbol with an order that is not listed. -/
def missingLock (svc : ReconciliationService) (symbol : String) : IssueKey :=
  (.localOrderMissingOnExchange, svc.orderDomain, readSymbol (some symbol))

/-- A row of the symbol is open in the table of the service. -/
def HasOpenRow (svc : ReconciliationService) (symbol : String) (w : World) : Prop :=
  readSymbol (some symbol) ≠ "" ∧ ∃ e ∈ svc.domainOrders w,
    e.2.isOpen = true ∧ readSymbol (some e.2.symbol) = readSymbol (some symbol)

end ReconciliationService

/-! ### What closes a row -/

/-- No issue changed, and every open row stayed open, under its link and its symbol. -/
structure OrdersStay (w w' : World) : Prop where
  issues : w'.core.issues = w.core.issues
  rows : ∀ (svc : ReconciliationService) link row, (link, row) ∈ svc.domainOrders w →
    row.isOpen = true →
      ∃ row', (link, row') ∈ svc.domainOrders w' ∧ row'.isOpen = true ∧ row'.symbol = row.symbol

instance : IsPreorder World OrdersStay where
  refl w := ⟨rfl, fun _ _ row hrow hopen => ⟨row, hrow, hopen, rfl⟩⟩
  trans w₁ w₂ w₃ h₁₂ h₂₃ := by
    refine ⟨h₂₃.issues.trans h₁₂.issues, fun svc link row hrow hopen => ?_⟩
    obtain ⟨row₂, hrow₂, hopen₂, hsymbol₂⟩ := h₁₂.rows svc link row hrow hopen
    obtain ⟨row₃, hrow₃, hopen₃, hsymbol₃⟩ := h₂₃.rows svc link row₂ hrow₂ hopen₂
    exact ⟨row₃, hrow₃, hopen₃, hsymbol₃.trans hsymbol₂⟩

section Steps

variable {svc : ReconciliationService} {w w' : World} {x : Context}

theorem ordersStay_of_same (h : SameOrders w w') : OrdersStay w w' := by
  have hsame : ∀ svc : ReconciliationService, svc.domainOrders w' = svc.domainOrders w := by
    intro svc
    unfold ReconciliationService.domainOrders
    rw [h.openOrders, h.spotOrders]
  refine ⟨h.issues, fun svc link row hrow hopen => ⟨row, ?_, hopen, rfl⟩⟩
  rwa [hsame svc]

/-- Noting an event leaves the tables alone. -/
theorem ordersStay_note (event : Event) (w : World) : OrdersStay w (note event w) :=
  ⟨rfl, fun _ _ row hrow hopen => ⟨row, hrow, hopen, rfl⟩⟩

/-- A new order is open. -/
theorem isOpen_domainRow (o : RuntimeOrder) (c : Config) (utc : ℕ) :
    (o.domainRow c utc).isOpen = true := by
  have hnew : Text.lower "New" ∈ ["new", "partiallyfilled", "partially_filled"] := by
    decide +kernel
  exact decide_eq_true hnew

/-- An upsert of an open row leaves a table of open rows with more of them. -/
theorem exists_open_upsert {ν : Type} {d : Dict OrderLink ν} {merge : ν → ν → ν}
    {shared : ν → DomainOrderRow} {new : ν} {key link : OrderLink} {row : DomainOrderRow}
    (hmerge : ∀ old, (shared (merge new old)).isOpen = true ∧
      (shared (merge new old)).symbol = (shared old).symbol)
    (hrow : (link, row) ∈ d.entries.map fun e => (e.1, shared e.2)) (hopen : row.isOpen = true) :
    ∃ row', (link, row') ∈ (d.upsert merge key new).entries.map (fun e => (e.1, shared e.2)) ∧
      row'.isOpen = true ∧ row'.symbol = row.symbol := by
  obtain ⟨⟨link, old⟩, hold, hsame⟩ := List.mem_map.mp hrow
  cases hsame
  have hget : d.get? link = some old := Dict.mem_entries_iff.mp hold
  by_cases hlink : link = key
  · -- the row is written again, as a new one
    refine ⟨shared (merge new old), List.mem_map.mpr ⟨(link, merge new old), ?_, rfl⟩,
      (hmerge old).1, (hmerge old).2⟩
    rw [Dict.mem_entries_iff, Dict.get?_upsert, if_pos hlink, ← hlink, hget]
    rfl
  · refine ⟨shared old, List.mem_map.mpr ⟨(link, old), ?_, rfl⟩, hopen, rfl⟩
    rw [Dict.mem_entries_iff, Dict.get?_upsert, if_neg hlink]
    exact hget

/-- A recorded order closes no row. -/
theorem ordersStay_addDomainOrder (c : Config) (utc : ℕ) (o : RuntimeOrder) (w : World) :
    OrdersStay w (addDomainOrder c utc o w) := by
  have hopen := isOpen_domainRow o c utc
  unfold addDomainOrder
  cases c.marketCategory with
  | linear =>
    refine ⟨rfl, fun svc link row hrow hrowOpen => ?_⟩
    unfold ReconciliationService.domainOrders at hrow ⊢
    cases hcategory : svc.marketCategory with
    | linear =>
      rw [hcategory] at hrow
      exact exists_open_upsert (fun old => ⟨hopen, rfl⟩) hrow hrowOpen
    | spot =>
      rw [hcategory] at hrow
      exact ⟨row, hrow, hrowOpen, rfl⟩
  | spot =>
    refine ⟨rfl, fun svc link row hrow hrowOpen => ?_⟩
    unfold ReconciliationService.domainOrders at hrow ⊢
    cases hcategory : svc.marketCategory with
    | linear =>
      rw [hcategory] at hrow
      exact ⟨row, hrow, hrowOpen, rfl⟩
    | spot =>
      rw [hcategory] at hrow
      exact exists_open_upsert (fun old => ⟨hopen, rfl⟩) hrow hrowOpen

theorem allowsRecords_ordersStay : AllowsRecords OrdersStay where
  tables _ _ _ h := ordersStay_of_same h
  recorded := ordersStay_addDomainOrder

theorem ingestSteps_ordersStay (x : Context) : IngestSteps x OrdersStay where
  tables _ _ h := ordersStay_of_same h
  close _ _ _ _ _ _ := ordersStay_note _ _
  reward _ _ := ordersStay_note _ _

theorem quoteSteps_ordersStay (x : Context) (symbol : String) : QuoteSteps x symbol OrdersStay where
  tables := allowsRecords_ordersStay
  timestamps _ _ := ordersStay_of_same ⟨rfl, rfl, rfl, rfl⟩
  positionFloor w := ordersStay_of_same (sameOrders_cachePositionFloor symbol _ w)
  notionalFloor w := ordersStay_of_same (sameOrders_cacheNotionalFloor symbol _ w)
  dust _ _ := ordersStay_of_same ⟨rfl, rfl, rfl, rfl⟩

theorem exitSteps_ordersStay (x : Context) (symbol : String) : ExitSteps x symbol OrdersStay where
  toQuoteSteps := quoteSteps_ordersStay x symbol
  details _ _ := ordersStay_of_same ⟨rfl, rfl, rfl, rfl⟩
  forced _ _ := ordersStay_of_same ⟨rfl, rfl, rfl, rfl⟩
  decided _ := ordersStay_note _ _

theorem entrySteps_ordersStay : EntrySteps OrdersStay where
  tables := allowsRecords_ordersStay
  timestamps _ _ := ordersStay_of_same ⟨rfl, rfl, rfl, rfl⟩
  details _ _ _ := ordersStay_of_same ⟨rfl, rfl, rfl, rfl⟩
  stop _ := ordersStay_of_same ⟨rfl, rfl, rfl, rfl⟩

/-- An iteration closes no row, whatever it cancels or learns of. -/
theorem ordersStay_iterate (x : Context) (env : LoopEnv) (w : World) :
    OrdersStay w (iterate x env w) := by
  have hbody : Moves (OnWorlds OrdersStay) (loopBody x env) := by
    unfold loopBody
    refine moves_bind (moves_fromExcept _) fun reply => ?_
    refine moves_ite (fun _ => moves_worlds_onWorld (moves_modify fun w => ?_)) fun _ => ?_
    · exact ordersStay_of_same ⟨rfl, rfl, rfl, rfl⟩
    · refine moves_ite (fun _ => ?_) fun _ => moves_pure _
      exact moves_bind (moves_takeStock (ingestSteps_ordersStay x) _) fun _ =>
        moves_sendOrders (exitSteps_ordersStay x) entrySteps_ordersStay ordersStay_note
  unfold iterate
  cases env.panic with
  | some answer => exact ordersStay_note _ w
  | none =>
    dsimp only
    split_ifs
    · exact refl_of OrdersStay w
    · exact hbody ⟨w, .initial⟩

theorem OrdersStay.hasOpenRow {symbol : String} (h : OrdersStay w w')
    (hrow : svc.HasOpenRow symbol w) : svc.HasOpenRow symbol w' := by
  obtain ⟨hname, ⟨link, row⟩, hmem, hopen, hsymbol⟩ := hrow
  obtain ⟨row', hmem', hopen', hsame⟩ := h.rows svc link row hmem hopen
  refine ⟨hname, (link, row'), hmem', hopen', ?_⟩
  change readSymbol (some row'.symbol) = _
  rw [hsame]
  exact hsymbol

/-- Without a reconciliation, an iteration closes no row. -/
theorem ordersStay_iteration {env : LoopEnv} (henv : env.reconciliation = none) (w : World) :
    OrdersStay w (iteration x env w) := by
  unfold iteration reconcileIfDue
  rw [henv]
  split_ifs
  · exact refl_of OrdersStay w
  · exact ordersStay_iterate x env w

/-- Without a reconciliation, a run closes no row. -/
theorem hasOpenRow_run {symbol : String} {envs : List LoopEnv}
    (hnone : ∀ env ∈ envs, env.reconciliation = none) (hrow : svc.HasOpenRow symbol w) :
    svc.HasOpenRow symbol (run (iteration x) envs w) := by
  induction envs generalizing w with
  | nil => exact hrow
  | cons env envs ih =>
    obtain ⟨henv, henvs⟩ := List.forall_mem_cons.mp hnone
    exact ih henvs ((ordersStay_iteration henv w).hasOpenRow hrow)

theorem serviceIssues_iteration {env : LoopEnv} (h : ServiceIssues w.core) :
    ServiceIssues (iteration x env w).core := by
  unfold iteration
  split_ifs
  · exact h
  · have hbegin : ServiceIssues (reconcileIfDue env w).core := by
      unfold reconcileIfDue
      cases env.reconciliation with
      | none => exact h
      | some r => exact serviceIssues_step h
    exact hbegin.of_eq (ordersStay_iterate x env _).issues

end Steps

/-! ### The following reconciliation -/

section Reconciliation

variable {r : ReconRun} {w : World} {coins : List WalletCoin} {items : List ExchangePosition}

/-- Where no orders are listed, the conflicts of the orders are those of the open rows. -/
theorem mem_conflicts_missingLock (h : r.answers.Successful coins [] items) (symbol : String) :
    r.svc.missingLock symbol ∈ r.conflicts w ↔ ∃ e ∈ r.svc.domainOrders w,
      e.2.isOpen = true ∧ readSymbol (some e.2.symbol) = readSymbol (some symbol) := by
  have hmissing : r.svc.missingOrders [] w =
      (r.svc.domainOrders w).filter fun e => e.2.isOpen := by
    unfold ReconciliationService.missingOrders
    refine List.filter_congr fun e _ => ?_
    have hlisted : isListed [] e = false := rfl
    rw [hlisted, Bool.not_false, Bool.and_true]
  have horders : r.svc.orderConflicts (r.info w) [] w =
      ((r.svc.domainOrders w).filter fun e => e.2.isOpen).map fun e =>
        (IssueType.localOrderMissingOnExchange, r.svc.orderDomain,
          readSymbol (some e.2.symbol)) := by
    rw [← hmissing]
    rfl
  -- the conflicts of the positions are of other types
  have hpositions : ∀ items, r.svc.missingLock symbol ∉ r.svc.positionConflicts items w := by
    intro items hmem
    rcases List.mem_append.mp hmem with hmem | hmem <;>
      obtain ⟨_, -, hkey⟩ := List.mem_map.mp hmem <;> cases hkey
  have hconflicts : r.svc.missingLock symbol ∈ r.conflicts w ↔
      r.svc.missingLock symbol ∈ r.svc.orderConflicts (r.info w) [] w := by
    unfold ReconRun.conflicts ReconciliationService.conflicts
    rw [h.openOrders, h.positions]
    dsimp only
    rw [if_pos rfl, List.mem_append]
    refine or_iff_left fun hmem => ?_
    cases hcategory : r.svc.marketCategory with
    | linear =>
      rw [hcategory] at hmem
      exact hpositions items hmem
    | spot =>
      rw [hcategory] at hmem
      cases hmem
  rw [hconflicts, horders, List.mem_map]
  constructor
  · rintro ⟨e, he, hkey⟩
    obtain ⟨hmem, hopen⟩ := List.mem_filter.mp he
    exact ⟨e, hmem, hopen, (Prod.ext_iff.mp (Prod.ext_iff.mp hkey).2).2⟩
  · rintro ⟨e, hmem, hopen, hsymbol⟩
    exact ⟨e, List.mem_filter.mpr ⟨hmem, hopen⟩, by rw [hsymbol]; rfl⟩

/-- After a successful reconciliation without open orders, a symbol is locked exactly if one of its
rows was open before. -/
theorem openIssue_missingLock_iff (h : r.answers.Successful coins [] items)
    (hissues : ServiceIssues w.core) (symbol : String) :
    OpenIssue (r.svc.missingLock symbol) (reconStep r w).core ↔ r.svc.HasOpenRow symbol w := by
  have heligible : (IssueType.localOrderMissingOnExchange, r.svc.orderDomain) ∈
      r.svc.eligiblePairs (r.summary w) := by
    unfold ReconciliationService.eligiblePairs
    rw [if_pos h.openOrdersChecked]
    exact List.mem_append_left _ (List.mem_cons_of_mem _ (List.mem_singleton_self _))
  rw [openIssue_reconStep hissues h.status heligible, mem_conflicts_missingLock h, and_comm]
  rfl

end Reconciliation

/-! ### Runs -/

/-- A reconciliation without open orders after a run: the symbols it locks for the orders of the
run are those with an open row, and in iterations without a reconciliation no row is closed. -/
structure MissingLocks (x : Context) (envs : List LoopEnv) (w : World) (r : ReconRun) : Prop where
  locked : (∀ order ∈ acceptedOrders (runEvents x envs w),
      ¬ OpenIssue (r.svc.missingLock order.symbol) (reconStep r (runLoop x envs w)).core) ↔
    ∀ order ∈ acceptedOrders (runEvents x envs w),
      ¬ r.svc.HasOpenRow order.symbol (runLoop x envs w)
  kept : ∀ before after, envs = before ++ after → (∀ env ∈ after, env.reconciliation = none) →
    ∀ symbol, r.svc.HasOpenRow symbol (runLoop x before w) →
      r.svc.HasOpenRow symbol (runLoop x envs w)

/-- After a run of the trading loop, a reconciliation that is told of no open orders locks the
symbol of an order of the run exactly if one of its rows is still open. -/
theorem missing_locks_iff (x : Context) (envs : List LoopEnv) (w : World) (r : ReconRun)
    {coins : List WalletCoin} {items : List ExchangePosition} (h₀ : CreatedByService w.core)
    (h : r.answers.Successful coins [] items) : MissingLocks x envs w r := by
  have hstep : ∀ (w : World) env, ServiceIssues w.core → True →
      ServiceIssues (iteration x env w).core := fun _ _ hw _ => serviceIssues_iteration hw
  have hissues : ServiceIssues (runLoop x envs w).core :=
    run_of_inv hstep h₀.serviceIssues fun _ _ => trivial
  refine ⟨?_, ?_⟩
  · refine forall₂_congr fun order _ => not_congr ?_
    exact openIssue_missingLock_iff h hissues order.symbol
  · rintro before after rfl hnone symbol hrow
    unfold runLoop at hrow ⊢
    rw [run_append]
    exact hasOpenRow_run hnone hrow

/-! ### A cancelled order -/

/-- An iteration on these open orders, with these intents; every call is answered. -/
def orderEnv (orders : List OpenOrder) (intents : List IntentInput) : LoopEnv :=
  { plainEnv (smallOrder 0) 1 with
    openOrders := .ok ⟨some 0, orders⟩
    cancelAnswer := fun _ => .ok ⟨some 0, none⟩
    intents := .ok intents }

/-- A resting entry, placed and then cancelled. -/
def placedThenCancelled : List LoopEnv :=
  [orderEnv [] [⟨plainIntent 1, plainIntentEnv⟩],
    orderEnv [{ smallOrder 0 with orderLinkId := some "mm-1" }] []]

/-- A reconciliation that is told of no orders and no positions. -/
def emptyReconciliation : ReconRun := ⟨linearService, "scheduled", positionAnswers []⟩

theorem successful_emptyReconciliation : emptyReconciliation.answers.Successful [] [] [] :=
  ⟨rfl, rfl, fun _ => ⟨[], rfl⟩, rfl⟩

/-- The order of the run is cancelled, and its symbol is locked nevertheless. -/
theorem cancelled_order_locked :
    let w := quietWorld bitcoinLinear.config
    let w' := runLoop bitcoinLinear placedThenCancelled w
    let events := runEvents bitcoinLinear placedThenCancelled w
    (acceptedOrders events).map OrderRequest.symbol = ["BTCUSDT"] ∧
      OrdersEnded events w'.lifecycle.executionsRaw ∧
      emptyReconciliation.answers.Successful [] [] [] ∧
      OpenIssue (linearService.missingLock "BTCUSDT") (reconStep emptyReconciliation w').core ∧
      getReconciliationEntryBlockReason (reconStep emptyReconciliation w').core "BTCUSDT" =
        some ["local_order_missing_on_exchange"] := by
  intro w w' events
  have hevents : events = [.placeOrder ((plainIntent 1).request "PostOnly") true,
      .cancelOrder "BTCUSDT" "mm-1" true] := by decide +kernel
  have hissue : (reconStep emptyReconciliation w').core.issues.get? 1 =
      some (newIssue ⟨1, 100⟩ (linearService.missingLock "BTCUSDT") "warning") := by
    decide +kernel
  refine ⟨?_, ?_, successful_emptyReconciliation, ?_, by decide +kernel⟩
  · rw [hevents]
    rfl
  · intro before order after hsplit
    rw [hevents] at hsplit
    cases before with
    | nil =>
      cases hsplit
      exact Or.inl ⟨"BTCUSDT", List.mem_singleton_self _⟩
    | cons event before =>
      -- the second event is no order
      have htail := (List.cons.inj hsplit).2
      cases before with
      | nil => cases htail
      | cons event before =>
        have hlength := congrArg List.length htail
        simp at hlength
  · exact ⟨1, _, hissue, isOpen_newIssue, key_newIssue⟩

/-- The lock is that of an open row. -/
theorem cancelled_order_missing :
    linearService.HasOpenRow "BTCUSDT"
        (runLoop bitcoinLinear placedThenCancelled (quietWorld bitcoinLinear.config)) ∧
      MissingLocks bitcoinLinear placedThenCancelled (quietWorld bitcoinLinear.config)
        emptyReconciliation := by
  refine ⟨⟨by decide +kernel, by decide +kernel⟩, ?_⟩
  refine missing_locks_iff _ _ _ _ (.fresh fun n row hget => ?_) successful_emptyReconciliation
  cases hget

end Botik
