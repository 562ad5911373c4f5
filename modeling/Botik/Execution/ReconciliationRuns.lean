import Botik.Execution.ReconciliationTables

/-!
# Runs of the reconciliation

One run as a step on the tables, and what its two ends leave: a run that raises an exception
has failed and swept nothing, a run that returns was successful and ends as it was swept.

## Main definitions

* `ReconciliationService.conflicts` — what a run detects, from its answers and the tables
* `ReconRun`, `reconStep`
* `ReconRun.ListsPositions` — a run that gets a list of positions

## Main results

* `run_of_error`, `run_of_ok`
* `openIssue_of_conflict` — a conflict a successful run detects is locked after it
* `ReconRun.ListsPositions.positionPart_eq` — the positions after a run
-/

namespace Botik

open Program OpenItems

/-- The conflicts a run detects: those of the orders and of the positions, where it gets to
compare them. -/
def ReconciliationService.conflicts (svc : ReconciliationService) (info : RunInfo)
    (answers : Answers) (w : World) : List IssueKey :=
  (match answers.openOrders with
    | .ok orders =>
      if orders.retCode = some 0 then svc.orderConflicts info orders.list w else []
    | .error _ => []) ++
  (match svc.marketCategory, answers.positions with
    | .linear, .ok positions =>
      if positions.retCode = some 0 then svc.positionConflicts positions.list w else []
    | _, _ => [])

/-- One run: its service, its trigger and the answers. -/
structure ReconRun where
  svc : ReconciliationService
  triggerSource : String
  answers : Answers

namespace ReconRun

/-- The id and the time of the run. -/
def info (r : ReconRun) (w : World) : RunInfo :=
  (r.svc.start r.triggerSource r.answers.utc w).1

/-- The state when the calls begin. -/
def begun (r : ReconRun) (w : World) : ReconState :=
  (r.svc.start r.triggerSource r.answers.utc w).2

def summary (r : ReconRun) (w : World) : ReconSummary := (r.svc.run r.triggerSource r.answers w).2

/-- The conflicts the run detects. -/
def conflicts (r : ReconRun) (w : World) : List IssueKey :=
  r.svc.conflicts (r.info w) r.answers w

end ReconRun

/-- The tables after a run. -/
def reconStep (r : ReconRun) (w : World) : World := (r.svc.run r.triggerSource r.answers w).1

section Step

variable {r : ReconRun} {w : World} {s s₃ s₄ : ReconState} {wallet : ListReply WalletCoin}
  {orders : ListReply OpenOrderItem}

/-- A run that passes all phases raises the conflicts it detects. -/
theorem Passed.raised {svc : ReconciliationService} {info : RunInfo} {answers : Answers}
    (h : Passed svc info answers wallet orders s s₃ s₄) (horder : orderPart s.world = orderPart w)
    (hposition : positionPart s.world = positionPart w) :
    Raised (svc.conflicts info answers w) s s₄ := by
  let s₁ := reconcileWallet svc info wallet s
  let s₂ := svc.reconcileOpenOrders info orders s₁
  obtain ⟨horder₁, hposition₁⟩ := parts_reconcileWallet svc info wallet s
  have hwallet : Raised [] s s₁ := raised_reconcileWallet svc info wallet s
  have horders : Raised (if orders.retCode = some 0 then svc.orderConflicts info orders.list w
      else []) s₁ s₂ ∧ positionPart s₂.world = positionPart s₁.world := by
    change Raised _ s₁ (svc.reconcileOpenOrders info orders s₁) ∧
      positionPart (svc.reconcileOpenOrders info orders s₁).world = _
    unfold ReconciliationService.reconcileOpenOrders
    split_ifs
    · exact ⟨raised_reconcileListedOrders svc info orders.list (horder₁.trans horder),
        (parts_reconcileListedOrders svc info orders.list s₁).2⟩
    · exact ⟨Raised.refl s₁, rfl⟩
  -- neither the wallet nor the orders nor the fills touch the positions
  have hposition₃ : positionPart s₃.world = positionPart w :=
    h.filled.position.trans (horders.2.trans (hposition₁.trans hposition))
  have hfirst := (hwallet.nil_trans horders.1).trans_nil h.filled.raised
  have hpositioned := h.positioned
  unfold ReconciliationService.conflicts
  rw [h.orders_eq]
  unfold Positioned at hpositioned
  -- only a linear service goes on to the positions
  cases hcategory : svc.marketCategory with
  | spot =>
    rw [hcategory] at hpositioned
    rw [show s₄ = s₃ from hpositioned]
    simpa only [List.append_nil] using hfirst
  | linear =>
    rw [hcategory] at hpositioned
    obtain ⟨positions, hpositions, rfl⟩ := hpositioned
    rw [hpositions]
    refine hfirst.trans ?_
    unfold ReconciliationService.reconcileFuturesPositions
    dsimp only
    split_ifs
    · exact raised_reconcileListedPositions svc info positions.list hposition₃
    · exact Raised.refl s₃

/-- The last phase reconciles the positions of an answer, or does nothing. -/
theorem Passed.last_cases {svc : ReconciliationService} {info : RunInfo} {answers : Answers}
    (h : Passed svc info answers wallet orders s s₃ s₄) :
    s₄ = s₃ ∨ ∃ positions, s₄ = svc.reconcileListedPositions info positions s₃ := by
  have hpositioned := h.positioned
  unfold Positioned at hpositioned
  cases hcategory : svc.marketCategory with
  | spot =>
    rw [hcategory] at hpositioned
    exact Or.inl hpositioned
  | linear =>
    rw [hcategory] at hpositioned
    obtain ⟨positions, -, rfl⟩ := hpositioned
    unfold ReconciliationService.reconcileFuturesPositions
    split_ifs
    · exact Or.inr ⟨positions.list, rfl⟩
    · exact Or.inl rfl

/-- No phase changes the status. -/
theorem Passed.status {svc : ReconciliationService} {info : RunInfo} {answers : Answers}
    (h : Passed svc info answers wallet orders s s₃ s₄) :
    s₄.summary.status = s.summary.status := by
  have hwallet : (reconcileWallet svc info wallet s).summary.status = s.summary.status :=
    congrArg Prod.fst (flags_reconcileWallet svc info wallet s)
  have horders : (svc.reconcileOpenOrders info orders
      (reconcileWallet svc info wallet s)).summary.status = s.summary.status := by
    unfold ReconciliationService.reconcileOpenOrders
    split_ifs
    · exact (congrArg Prod.fst (flags_reconcileListedOrders svc info orders.list _)).trans hwallet
    · exact hwallet
  have hfills : s₃.summary.status = s.summary.status :=
    (congrArg Prod.fst h.filled.flags).trans horders
  rcases h.last_cases with rfl | ⟨positions, rfl⟩
  · exact hfills
  · exact (congrArg Prod.fst (flags_reconcileListedPositions svc info positions s₃)).trans hfills

/-- The orders are checked by an answer with the code zero, and stay so. -/
theorem Passed.openOrdersChecked {svc : ReconciliationService} {info : RunInfo}
    {answers : Answers} (h : Passed svc info answers wallet orders s s₃ s₄)
    (hcode : orders.retCode = some 0) : s₄.summary.openOrdersChecked = true := by
  have hfills : s₃.summary.openOrdersChecked = true := by
    refine (congrArg (fun flags => flags.2.1) h.filled.flags).trans ?_
    unfold ReconciliationService.reconcileOpenOrders
    rw [if_pos hcode]
    exact congrArg (fun flags => flags.2.1) (flags_reconcileListedOrders svc info orders.list _)
  rcases h.last_cases with rfl | ⟨positions, rfl⟩
  · exact hfills
  · exact (congrArg (fun flags => flags.2.1)
      (flags_reconcileListedPositions svc info positions s₃)).trans hfills

/-- A run that raises an exception has failed, and swept nothing. -/
theorem run_of_error {e : String} {s' : ReconState}
    (h : r.svc.body (r.info w) r.answers (r.begun w) = .error e s') :
    (r.summary w).status = "failed" ∧ (reconStep r w).core.issues = s'.world.core.issues ∧
      walletPart (reconStep r w) = walletPart s'.world ∧
      positionPart (reconStep r w) = positionPart s'.world := by
  unfold ReconRun.summary reconStep ReconciliationService.run
  dsimp only
  rw [show r.svc.body (r.svc.start r.triggerSource r.answers.utc w).1 r.answers
    (r.svc.start r.triggerSource r.answers.utc w).2 = .error e s' from h]
  exact ⟨rfl, rfl, rfl, rfl⟩

/-- A run that returns ends as it was swept. -/
theorem run_of_ok {s' : ReconState}
    (h : r.svc.body (r.info w) r.answers (r.begun w) = .ok ⟨⟩ s') :
    r.summary w = s'.summary ∧ (reconStep r w).core.issues = s'.world.core.issues ∧
      walletPart (reconStep r w) = walletPart s'.world ∧
      orderPart (reconStep r w) = orderPart s'.world ∧
      positionPart (reconStep r w) = positionPart s'.world := by
  unfold ReconRun.summary reconStep ReconciliationService.run
  dsimp only
  rw [show r.svc.body (r.svc.start r.triggerSource r.answers.utc w).1 r.answers
    (r.svc.start r.triggerSource r.answers.utc w).2 = .ok ⟨⟩ s' from h]
  exact ⟨rfl, rfl, rfl, rfl, rfl⟩

/-- The checked types are types of entry locks, in a domain without blanks. -/
theorem eligible_spec {svc : ReconciliationService} {summary : ReconSummary}
    {issueType : IssueType} {domain : String}
    (h : (issueType, domain) ∈ svc.eligiblePairs summary) :
    issueType.isEntryLock = true ∧ Text.strip domain = domain := by
  have hspot : Text.strip "spot" = "spot" := by decide +kernel
  have hfutures : Text.strip "futures" = "futures" := by decide +kernel
  have hdomain : Text.strip svc.orderDomain = svc.orderDomain := by
    unfold ReconciliationService.orderDomain
    cases svc.marketCategory with
    | linear => exact hfutures
    | spot => exact hspot
  unfold ReconciliationService.eligiblePairs at h
  rcases List.mem_append.mp h with h | h
  · split_ifs at h
    · rcases List.mem_pair.mp h with h | h <;> cases h <;> exact ⟨rfl, hdomain⟩
    · exact absurd h List.not_mem_nil
  · split_ifs at h
    · rcases List.mem_pair.mp h with h | h <;> cases h <;> exact ⟨rfl, hfutures⟩
    · exact absurd h List.not_mem_nil

theorem eligiblePairs_congr {svc : ReconciliationService} {a b : ReconSummary}
    (h : a.flags = b.flags) : svc.eligiblePairs a = svc.eligiblePairs b := by
  have horders : a.openOrdersChecked = b.openOrdersChecked := congrArg (fun f => f.2.1) h
  have hpositions : a.futuresPositionsChecked = b.futuresPositionsChecked :=
    congrArg (fun f => f.2.2) h
  unfold ReconciliationService.eligiblePairs
  rw [horders, hpositions]

/-- The issues when the calls begin are those before the run, and no lock is remembered. -/
theorem issues_begun : (r.begun w).world.core.issues = w.core.issues ∧
    (r.begun w).activeLockIssueKeys = [] := ⟨rfl, rfl⟩

/-- The sweep leaves a remembered conflict open, if its key is spelled as the service does. -/
theorem openIssue_swept_of_active {utc : ℕ} {rows : List (ℕ × IssueRow)} {key : IssueKey}
    {s s' : ReconState} (h : Swept utc rows s s')
    (hrows : ∀ n row, (n, row) ∈ rows → s.world.core.issues.get? n = some row)
    (hdomain : Text.strip key.2.1 = key.2.1) (hsymbol : readSymbol (some key.2.2) = key.2.2)
    (hopen : OpenIssue key s.world.core) (hactive : key ∈ s.activeLockIssueKeys) :
    OpenIssue key s'.world.core := by
  obtain ⟨n, row, hget, hrow, rfl⟩ := hopen
  refine ⟨n, row, ?_, hrow, rfl⟩
  rw [h.issues, if_neg]
  · exact hget
  · rw [mem_sweptIssues]
    rintro ⟨row', hmem, hnot⟩
    obtain rfl : row' = row := Option.some.inj ((hrows n row' hmem).symm.trans hget)
    have hsweep : ReconciliationService.sweepKey row' = row'.key := by
      have hread : readSymbol row'.symbol = readSymbol (some (row'.symbol.getD "")) := by
        cases row'.symbol <;> rfl
      unfold ReconciliationService.sweepKey
      rw [show Text.strip row'.domain = row'.domain from hdomain, hread,
        show readSymbol (some (row'.symbol.getD "")) = row'.symbol.getD "" from hsymbol]
      rfl
    rw [hsweep] at hnot
    exact hnot hactive

/-- A successful run passed all phases, and ended as it was swept. -/
theorem exists_passed (h : (r.summary w).status = "success") :
    ∃ wallet orders s₃ s₄,
      Passed r.svc (r.info w) r.answers wallet orders (r.begun w) s₃ s₄ ∧
        r.svc.body (r.info w) r.answers (r.begun w) =
          .ok ⟨⟩ (r.svc.resolveStaleEntryLockIssues (r.info w) s₄) := by
  rcases body_cases r.svc (r.info w) r.answers (r.begun w) with ⟨e, s', hbody, -⟩ | hpassed
  · rw [(run_of_error hbody).1] at h
    exact absurd h (by decide)
  · exact hpassed

/-- The positions are as before the run when they are looked at. -/
theorem Passed.positionPart_eq {svc : ReconciliationService} {info : RunInfo} {answers : Answers}
    (h : Passed svc info answers wallet orders s s₃ s₄) :
    positionPart s₃.world = positionPart s.world :=
  h.filled.position.trans ((raised_reconcileOpenOrders svc info orders _).2.2.trans
    (parts_reconcileWallet svc info wallet s).2)

/-- The wallet is only written by its own phase. -/
theorem Passed.walletPart_eq {svc : ReconciliationService} {info : RunInfo} {answers : Answers}
    (h : Passed svc info answers wallet orders s s₃ s₄) :
    walletPart s₄.world = walletPart (reconcileWallet svc info wallet s).world := by
  have hfilled : walletPart s₃.world = walletPart (reconcileWallet svc info wallet s).world :=
    h.filled.wallet.trans (raised_reconcileOpenOrders svc info orders _).2.1
  rcases h.last_cases with rfl | ⟨positions, rfl⟩
  · exact hfilled
  · exact (parts_reconcileListedPositions svc info positions s₃).1.trans hfilled

/-- The orders are only written by their own phase. -/
theorem Passed.orderPart_eq {svc : ReconciliationService} {info : RunInfo} {answers : Answers}
    (h : Passed svc info answers wallet orders s s₃ s₄) :
    orderPart s₄.world =
      orderPart (svc.reconcileOpenOrders info orders (reconcileWallet svc info wallet s)).world := by
  rcases h.last_cases with rfl | ⟨positions, rfl⟩
  · exact h.filled.order
  · exact (parts_reconcileListedPositions svc info positions s₃).2.trans h.filled.order

/-- A run with an answer of the wallet has written it, even if it stops later. -/
theorem walletPart_reconStep (h : r.answers.wallet = .ok wallet) :
    walletPart (reconStep r w) =
      walletPart (reconcileWallet r.svc (r.info w) wallet (r.begun w)).world := by
  rcases body_cases r.svc (r.info w) r.answers (r.begun w) with
    ⟨e, s', hbody, hstopped⟩ | ⟨wallet', orders, s₃, s₄, hpassed, hbody⟩
  · exact (run_of_error hbody).2.2.1.trans (hstopped.wallet wallet h)
  · obtain rfl : wallet' = wallet := Except.ok.inj (hpassed.wallet_eq.symm.trans h)
    exact (run_of_ok hbody).2.2.1.trans
      ((swept_resolveStaleEntryLockIssues r.svc (r.info w) s₄).wallet.trans hpassed.walletPart_eq)

/-- The balances and holdings after a run that reads the wallet. -/
theorem walletPart_of_coins {coins : List WalletCoin} (h : r.answers.wallet = .ok ⟨some 0, coins⟩) :
    walletPart (reconStep r w) =
      (Dict.upsertAll BalanceRow.merge (r.svc.balanceRows (r.info w) coins) w.spot.balances,
        Dict.upsertAll HoldingRow.merge (r.svc.holdingRows (r.info w) coins w)
          w.spot.holdings) := by
  have hwritten := walletPart_reconStep (w := w) h
  unfold reconcileWallet at hwritten
  rw [if_pos rfl, walletPart_reconcileCoins] at hwritten
  exact hwritten

/-- A conflict a successful run detects is locked after it. -/
theorem openIssue_of_conflict {key : IssueKey} (h : (r.summary w).status = "success")
    (hkey : key ∈ r.conflicts w) (hlock : key.1.isEntryLock = true)
    (hdomain : Text.strip key.2.1 = key.2.1) (hspelled : readSymbol (some key.2.2) = key.2.2)
    (hsymbol : key.2.2 ≠ "") : OpenIssue key (reconStep r w).core := by
  obtain ⟨wallet, orders, s₃, s₄, hpassed, hbody⟩ := exists_passed h
  have hraised : Raised (r.conflicts w) (r.begun w) s₄ := hpassed.raised rfl rfl
  have hopen : OpenIssue key s₄.world.core := (hraised.opens key hlock).mpr (Or.inl hkey)
  have hactive : key ∈ s₄.activeLockIssueKeys := (hraised.active key).mpr (Or.inl ⟨hkey, hsymbol⟩)
  have hswept := openIssue_swept_of_active
    (swept_resolveStaleEntryLockIssues r.svc (r.info w) s₄)
    (fun n row hmem => Dict.mem_entries_iff.mp (List.mem_filter.mp hmem).1)
    hdomain hspelled hopen hactive
  unfold OpenIssue at hswept ⊢
  rwa [(run_of_ok hbody).2.1]

end Step

/-! ### Successful answers -/

/-- All calls are answered with the code zero, by these coins, orders and positions. -/
structure Answers.Successful (answers : Answers) (coins : List WalletCoin)
    (orders : List OpenOrderItem) (items : List ExchangePosition) : Prop where
  wallet : answers.wallet = .ok ⟨some 0, coins⟩
  openOrders : answers.openOrders = .ok ⟨some 0, orders⟩
  executions : ∀ symbol, ∃ list, answers.executions symbol = .ok ⟨some 0, list⟩
  positions : answers.positions = .ok ⟨some 0, items⟩

section Successful

variable {r : ReconRun} {w : World} {coins : List WalletCoin} {orders : List OpenOrderItem}
  {items : List ExchangePosition}

theorem reconcileFills_ok {svc : ReconciliationService} {answers : Answers}
    (h : ∀ symbol, ∃ list, answers.executions symbol = .ok ⟨some 0, list⟩) (s : ReconState) :
    ∃ s', svc.reconcileFills answers s = .ok ⟨⟩ s' := by
  unfold ReconciliationService.reconcileFills
  generalize svc.symbols = symbols
  induction symbols generalizing s with
  | nil => exact ⟨s, rfl⟩
  | cons symbol symbols ih =>
    obtain ⟨list, hlist⟩ := h symbol
    rw [each_cons, bind_of_ok (onAnswer_ok hlist _ s)]
    exact ih _

/-- A run whose calls are all answered is successful. -/
theorem Answers.Successful.status (h : r.answers.Successful coins orders items) :
    (r.summary w).status = "success" := by
  have hbody : ∃ s', r.svc.body (r.info w) r.answers (r.begun w) = .ok ⟨⟩ s' := by
    unfold ReconciliationService.body
    rw [bind_of_ok (onAnswer_ok h.wallet _ _), bind_of_ok (onAnswer_ok h.openOrders _ _)]
    obtain ⟨s₃, hs₃⟩ := reconcileFills_ok h.executions (r.svc.reconcileOpenOrders (r.info w)
      ⟨some 0, orders⟩ (reconcileWallet r.svc (r.info w) ⟨some 0, coins⟩ (r.begun w)))
    rw [bind_of_ok hs₃]
    unfold ReconciliationService.reconcilePositions
    cases r.svc.marketCategory with
    | spot => exact ⟨_, rfl⟩
    | linear =>
      rw [bind_of_ok (onAnswer_ok h.positions _ _)]
      exact ⟨_, rfl⟩
  obtain ⟨s', hok⟩ := hbody
  rcases body_cases r.svc (r.info w) r.answers (r.begun w) with
    ⟨e, s'', herror, -⟩ | ⟨wallet, orders', s₃, s₄, hpassed, hbody⟩
  · rw [hok] at herror
    cases herror
  · rw [(run_of_ok hbody).1]
    exact (congrArg Prod.fst (swept_resolveStaleEntryLockIssues r.svc (r.info w) s₄).flags).trans
      hpassed.status

/-- Such a run has checked the orders. -/
theorem Answers.Successful.openOrdersChecked (h : r.answers.Successful coins orders items) :
    (r.summary w).openOrdersChecked = true := by
  obtain ⟨wallet, orders', s₃, s₄, hpassed, hbody⟩ := exists_passed h.status (w := w)
  have hcode : orders'.retCode = some 0 := by
    rw [Except.ok.inj (hpassed.orders_eq.symm.trans h.openOrders)]
  rw [(run_of_ok hbody).1]
  exact (congrArg (fun flags => flags.2.1)
    (swept_resolveStaleEntryLockIssues r.svc (r.info w) s₄).flags).trans
      (hpassed.openOrdersChecked hcode)

/-- The balances and holdings after such a run. -/
theorem Answers.Successful.walletPart_eq (h : r.answers.Successful coins orders items) :
    walletPart (reconStep r w) =
      (Dict.upsertAll BalanceRow.merge (r.svc.balanceRows (r.info w) coins) w.spot.balances,
        Dict.upsertAll HoldingRow.merge (r.svc.holdingRows (r.info w) coins w)
          w.spot.holdings) :=
  walletPart_of_coins h.wallet

/-- The order tables after such a run. -/
theorem Answers.Successful.orderPart_eq (h : r.answers.Successful coins orders items) :
    ((reconStep r w).futures.openOrders, (reconStep r w).spot.orders) =
      r.svc.reconciledOrders (r.info w) orders w := by
  obtain ⟨wallet, orders', s₃, s₄, hpassed, hbody⟩ := exists_passed h.status
  obtain rfl : orders' = ⟨some 0, orders⟩ :=
    Except.ok.inj (hpassed.orders_eq.symm.trans h.openOrders)
  have hparts : orderPart (reconStep r w) = orderPart (r.svc.reconcileListedOrders (r.info w)
      orders (reconcileWallet r.svc (r.info w) wallet (r.begun w))).world :=
    (run_of_ok hbody).2.2.2.1.trans ((swept_resolveStaleEntryLockIssues r.svc (r.info w)
      s₄).order.trans hpassed.orderPart_eq)
  have hwallet := (parts_reconcileWallet r.svc (r.info w) wallet (r.begun w)).1
  have hopen : (reconcileWallet r.svc (r.info w) wallet (r.begun w)).world.futures.openOrders =
      w.futures.openOrders := congrArg (fun part => part.2.1) hwallet
  have hspot : (reconcileWallet r.svc (r.info w) wallet (r.begun w)).world.spot.orders =
      w.spot.orders := congrArg (fun part => part.2.2) hwallet
  have htables : (orderPart (reconStep r w)).2 = r.svc.reconciledOrders (r.info w) orders
      (reconcileWallet r.svc (r.info w) wallet (r.begun w)).world := by
    rw [hparts, orderPart_reconcileListedOrders]
  unfold ReconciliationService.reconciledOrders at htables ⊢
  rw [hopen, hspot] at htables
  exact htables

end Successful

/-! ### The positions after a run -/

/-- A successful futures run that gets a list of positions. -/
structure ReconRun.ListsPositions (r : ReconRun) (items : List ExchangePosition) (w : World) :
    Prop where
  linear : r.svc.marketCategory = .linear
  success : (r.summary w).status = "success"
  answer : r.answers.positions = .ok ⟨some 0, items⟩

section Positions

variable {r : ReconRun} {w : World} {items : List ExchangePosition}

/-- Such a run upserts what is listed and leaves the other rows alone. -/
theorem ReconRun.ListsPositions.positionPart_eq (h : r.ListsPositions items w) :
    positionPart (reconStep r w) =
      (Dict.upsertAll PositionRow.merge
          (r.svc.positionRows (r.info w) (r.svc.localKeys w) items) w.futures.positions,
        Dict.upsertAll ProtectionRow.merge (r.svc.protectionRows (r.info w) items)
          w.futures.protections) := by
  obtain ⟨wallet, orders, s₃, s₄, hpassed, hbody⟩ := exists_passed h.success
  have hpositioned := hpassed.positioned
  have hbefore : positionPart s₃.world = positionPart w := hpassed.positionPart_eq
  have hpositions : s₃.world.futures.positions = w.futures.positions := congrArg Prod.fst hbefore
  have hprotections : s₃.world.futures.protections = w.futures.protections :=
    congrArg Prod.snd hbefore
  unfold Positioned at hpositioned
  rw [h.linear] at hpositioned
  obtain ⟨positions, hanswer, rfl⟩ := hpositioned
  obtain rfl : positions = ⟨some 0, items⟩ := Except.ok.inj (hanswer.symm.trans h.answer)
  rw [(run_of_ok hbody).2.2.2.2, (swept_resolveStaleEntryLockIssues r.svc (r.info w) _).position]
  have hwritten := positionPart_reconcileListedPositions r.svc (r.info w) items s₃
  rw [localKeys_congr r.svc hbefore, hpositions, hprotections] at hwritten
  exact hwritten

/-- Any other run leaves the positions alone. -/
theorem positionPart_of_not_lists (h : ∀ items, ¬ r.ListsPositions items w) :
    positionPart (reconStep r w) = positionPart w := by
  rcases body_cases r.svc (r.info w) r.answers (r.begun w) with
    ⟨e, s', hbody, hstopped⟩ | ⟨wallet, orders, s₃, s₄, hpassed, hbody⟩
  · exact (run_of_error hbody).2.2.2.trans hstopped.position
  have hsuccess : (r.summary w).status = "success" := by
    rw [(run_of_ok hbody).1]
    exact (congrArg Prod.fst (swept_resolveStaleEntryLockIssues r.svc (r.info w) s₄).flags).trans
      hpassed.status
  rw [(run_of_ok hbody).2.2.2.2, (swept_resolveStaleEntryLockIssues r.svc (r.info w) s₄).position]
  have hpositioned := hpassed.positioned
  unfold Positioned at hpositioned
  cases hcategory : r.svc.marketCategory with
  | spot =>
    rw [hcategory] at hpositioned
    rw [show s₄ = s₃ from hpositioned]
    exact hpassed.positionPart_eq
  | linear =>
    rw [hcategory] at hpositioned
    obtain ⟨⟨retCode, items⟩, hanswer, rfl⟩ := hpositioned
    have hcode : retCode ≠ some 0 := by
      rintro rfl
      exact h items ⟨hcategory, hsuccess, hanswer⟩
    unfold ReconciliationService.reconcileFuturesPositions
    rw [if_neg hcode]
    exact hpassed.positionPart_eq

end Positions

end Botik
