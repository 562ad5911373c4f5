import Botik.Main.Protection

/-!
# What a protection call does to the tables

A call that gets past its early returns writes two rows under one key: the phase
first, the final status at the end. Other rows are not touched. An emergency
close in between resets runtime variables, but no table.

## Main definitions

* `RowWritten` — the position row of a key holds a quantity, the others are as
  before
* `Agreed` — both rows of a key have the same status
* `EmergencyClosed` — when a call closes the position

## Main results

* `attemptProtection_cases` — what a successful attempt has seen
* `after_protectPosition` — the row a call leaves, whatever the exchange answers,
  and both rows settled where its answers are readable
-/

namespace Botik

open Program

/-- No statement of a protection call raises. -/
def StepEnv.ProtectionWrites (env : StepEnv) : Prop :=
  ∀ site, env.faults (.protection site) = none

/-- Between the two states the position row of `key` was written, with this
quantity, and no other row. -/
structure RowWritten (key : PositionKey) (qty : ℚ) (w w' : World) : Prop where
  row : ∃ row, w'.futures.positions.get? key = some row ∧ row.qty = qty
  others : ∀ k ≠ key, w'.futures.positions.get? k = w.futures.positions.get? k

/-- The position row and the protection row of `key` have the same status. -/
structure Agreed (key : PositionKey) (status : ProtectionStatus) (w : World) : Prop where
  position : ∃ row, w.futures.positions.get? key = some row ∧ row.protectionStatus = status
  protection : ∃ row, w.futures.protections.get? key = some row ∧ row.status = status

/-- Writing the row again, after steps that left the rows alone. -/
theorem RowWritten.trans {key : PositionKey} {qty qty' : ℚ} {w₁ w₂ w₃ : World}
    (h₁₂ : RowWritten key qty w₁ w₂) (h₂₃ : RowWritten key qty' w₂ w₃) :
    RowWritten key qty' w₁ w₃ :=
  ⟨h₂₃.row, fun k hk => (h₂₃.others k hk).trans (h₁₂.others k hk)⟩

theorem RowWritten.of_positions_eq {key : PositionKey} {qty : ℚ} {w w₁ w₂ : World}
    (h : RowWritten key qty w w₁) (heq : w₂.futures.positions = w₁.futures.positions) :
    RowWritten key qty w w₂ := by
  refine ⟨?_, fun k hk => ?_⟩
  · rw [heq]
    exact h.row
  · rw [heq]
    exact h.others k hk

theorem RowWritten.of_before_eq {key : PositionKey} {qty : ℚ} {w w₁ w' : World}
    (h : RowWritten key qty w₁ w') (heq : w₁.futures.positions = w.futures.positions) :
    RowWritten key qty w w' :=
  ⟨h.row, fun k hk => by rw [h.others k hk, heq]⟩

theorem Agreed.of_futures_eq {key : PositionKey} {status : ProtectionStatus} {w w' : World}
    (h : Agreed key status w) (heq : w'.futures = w.futures) : Agreed key status w' := by
  obtain ⟨hposition, hprotection⟩ := h
  rw [← heq] at hposition hprotection
  exact ⟨hposition, hprotection⟩

variable {x : Context} {env : StepEnv} {symbol : String} {positionQty entryPrice : ℚ}

/-! ### The parts of a call -/

/-- The symbol of a runtime key is in upper case already. -/
@[simp] theorem storedKey_runtimeKey (symbol : String) (side : Side) :
    FuturesStore.storedKey (runtimeKey symbol side) = runtimeKey symbol side := by
  simp [FuturesStore.storedKey, runtimeKey]

/-- The state after both rows are written. -/
def statusWritten (x : Context) (env : StepEnv) (symbol : String) (positionQty entryPrice : ℚ)
    (plan : Option FuturesProtectionPlan) (status : ProtectionStatus) (w : World) : World :=
  let key := runtimeKey symbol (sideOfQty positionQty)
  let futures := w.futures.upsertFuturesPosition key
    (runtimePositionRow x.config env positionQty entryPrice plan status)
  { w with futures := futures.upsertFuturesProtection key (runtimeProtectionRow env plan status) }

theorem writeStatus_run (henv : env.ProtectionWrites) (positionSite protectionSite : ProtectionSite)
    (plan : Option FuturesProtectionPlan) (status : ProtectionStatus) (w : World) :
    writeStatus x env positionSite protectionSite symbol positionQty entryPrice plan status w =
      .ok () (statusWritten x env symbol positionQty entryPrice plan status w) := by
  unfold writeStatus
  rw [write_of_none (henv positionSite), write_of_none (henv protectionSite)]
  rfl

/-- An upsert under a runtime key writes that row and no other. -/
theorem rowWritten_of_upsert {side : Side} {w w' : World} (row : PositionRow)
    (h : w'.futures.positions =
      (w.futures.upsertFuturesPosition (runtimeKey symbol side) row).positions) :
    RowWritten (runtimeKey symbol side) row.qty w w' := by
  have hget := FuturesStore.get?_positions_upsertFuturesPosition w.futures
    (runtimeKey symbol side) row
  rw [storedKey_runtimeKey] at hget
  constructor
  · obtain ⟨owner, hkey⟩ := hget (runtimeKey symbol side)
    rw [if_pos rfl, ← h] at hkey
    exact ⟨_, hkey, rfl⟩
  · intro k hk
    obtain ⟨owner, hother⟩ := hget k
    rwa [if_neg hk, ← h] at hother

/-- The position row holds the quantity of the position; no other row changes. -/
theorem rowWritten_statusWritten (plan : Option FuturesProtectionPlan) (status : ProtectionStatus)
    (w : World) :
    RowWritten (runtimeKey symbol (sideOfQty positionQty)) |positionQty| w
      (statusWritten x env symbol positionQty entryPrice plan status w) :=
  rowWritten_of_upsert (runtimePositionRow x.config env positionQty entryPrice plan status) rfl

/-- Both rows have the status. -/
theorem agreed_statusWritten (plan : Option FuturesProtectionPlan) (status : ProtectionStatus)
    (w : World) :
    Agreed (runtimeKey symbol (sideOfQty positionQty)) status
      (statusWritten x env symbol positionQty entryPrice plan status w) := by
  constructor
  · obtain ⟨owner, h⟩ := FuturesStore.get?_positions_upsertFuturesPosition w.futures
      (runtimeKey symbol (sideOfQty positionQty))
      (runtimePositionRow x.config env positionQty entryPrice plan status)
      (runtimeKey symbol (sideOfQty positionQty))
    rw [storedKey_runtimeKey, if_pos rfl] at h
    exact ⟨_, h, rfl⟩
  · refine ⟨runtimeProtectionRow env plan status, ?_, rfl⟩
    simp [statusWritten, FuturesStore.get?_protections_upsertFuturesProtection]

theorem auditFutures_run (henv : env.ProtectionWrites) (site : ProtectionSite)
    (symbol eventType : String) (w : World) :
    ∃ w', auditFutures env site symbol eventType w = .ok () w' ∧ w'.futures = w.futures := by
  unfold auditFutures
  rw [write_of_none (henv site)]
  exact ⟨_, rfl, rfl⟩

/-- The emergency close never raises and touches no table. -/
theorem closeIfUnstoppable_run (x : Context) (env : StepEnv) (symbol : String) (positionQty : ℚ)
    (attempt : ProtectionAttempt) (w : World) :
    ∃ w', closeIfUnstoppable x env symbol positionQty attempt w = .ok () w' ∧
      w'.futures = w.futures := by
  unfold closeIfUnstoppable
  by_cases hclose : attempt.mustClose = true
  · rw [if_pos hclose]
    unfold emergencyClose
    cases haccepted : env.closeOrder.accepted with
    | true => exact ⟨_, rfl, rfl⟩
    | false => exact ⟨_, rfl, rfl⟩
  · rw [if_neg hclose]
    exact ⟨w, rfl, rfl⟩

/-- A successful attempt: the stops were accepted and the verification returned. -/
theorem attemptProtection_cases {executor : Executor} {symbolU side : String}
    {attempt : ProtectionAttempt}
    (h : attemptProtection x executor env symbolU side = .ok attempt)
    (hsuccess : attempt.applySuccess = true) :
    stopAccepted env = true ∧ ∃ verified, attempt.verified = some verified ∧
      verifyFuturesProtectionFromExchange executor env.positions symbolU side 0 = .ok verified := by
  unfold attemptProtection at h
  split_ifs at h with hcapability hcallable haccepted
  · -- accepted: the verification decides whether there is an attempt at all
    cases hverify : verifyFuturesProtectionFromExchange executor env.positions symbolU side 0 with
    | error e => simp [hverify, bind, Except.bind] at h
    | ok verified =>
      simp only [hverify, bind, Except.bind] at h
      rw [← Except.ok.inj h]
      exact ⟨haccepted, verified, rfl, rfl⟩
  all_goals
    rw [← Except.ok.inj h] at hsuccess
    exact absurd hsuccess (by simp)

/-- Only where every attempt to set the stops was made and failed is the position
closed. -/
theorem stopAccepted_of_mustClose {executor : Executor} {symbolU side : String}
    {attempt : ProtectionAttempt}
    (h : attemptProtection x executor env symbolU side = .ok attempt)
    (hclose : attempt.mustClose = true) :
    executorSupportsCapability (some executor) "protection" x.config.marketCategory = true ∧
      "set_trading_stop" ∈ executor.callables ∧ stopAccepted env = false := by
  unfold attemptProtection at h
  split_ifs at h with hcapability hcallable haccepted
  · cases hverify : verifyFuturesProtectionFromExchange executor env.positions symbolU side 0 with
    | error e => simp [hverify, bind, Except.bind] at h
    | ok verified =>
      simp only [hverify, bind, Except.bind] at h
      rw [← Except.ok.inj h] at hclose
      exact absurd hclose (by simp [ProtectionAttempt.mustClose])
  · exact ⟨hcapability, hcallable, by simpa using haccepted⟩
  all_goals
    rw [← Except.ok.inj h] at hclose
    exact absurd hclose (by simp [ProtectionAttempt.mustClose])

/-- The stops of a planned position were refused as often as they may be, and the
market order that closes it instead was accepted. -/
structure EmergencyClosed (x : Context) (env : StepEnv) (details : SymbolState)
    (positionQty entryPrice : ℚ) : Prop where
  planned : (buildFuturesProtectionPlan entryPrice positionQty details.stopLossPct
    details.takeProfitPct).isSome
  supported : executorSupportsCapability x.executor "protection" x.config.marketCategory = true
  callable : ∃ executor ∈ x.executor, "set_trading_stop" ∈ executor.callables
  refused : stopAccepted env = false
  accepted : env.closeOrder.accepted = true

/-! ### Whole calls -/

/-- What one call past its early returns has confirmed where it ends protected. -/
def Confirmed (executor : Executor) (env : StepEnv) (symbol : String) (positionQty : ℚ) : Prop :=
  stopAccepted env = true ∧
    ∃ reason, verifyFuturesProtectionFromExchange executor env.positions (Text.upper symbol)
      (sideOfQty positionQty).text 0 = .ok (.«protected», reason)

/-- A call that ended well: both rows have one settled status, and protected only if
that was confirmed. -/
def EndsSettled (executor : Executor) (env : StepEnv) (symbol : String) (positionQty : ℚ)
    (w : World) : Prop :=
  ∃ status : ProtectionStatus, status.isSettled = true ∧
    Agreed (runtimeKey symbol (sideOfQty positionQty)) status w ∧
    (status = .«protected» → Confirmed executor env symbol positionQty)

section Calls

variable {executor : Executor} {w : World}

/-- The attempt can be made: the answer of the verification is readable. -/
def AttemptReadable (x : Context) (executor : Executor) (env : StepEnv) (symbol : String)
    (positionQty : ℚ) : Prop :=
  ∃ attempt, attemptProtection x executor env (Text.upper symbol) (sideOfQty positionQty).text =
    .ok attempt

/-- After the phase is written, an unreadable answer ends the call; a readable one
lets it write the final status. -/
theorem after_applyPlan (henv : env.ProtectionWrites) (plan : FuturesProtectionPlan)
    (phase : ProtectionStatus) :
    let call := after (applyPlan x executor env symbol positionQty entryPrice plan phase) w
    RowWritten (runtimeKey symbol (sideOfQty positionQty)) |positionQty| w call ∧
      (AttemptReadable x executor env symbol positionQty →
        EndsSettled executor env symbol positionQty call) := by
  intro call
  have hphase : RowWritten (runtimeKey symbol (sideOfQty positionQty)) |positionQty| w
      (statusWritten x env symbol positionQty entryPrice (some plan) phase w) :=
    rowWritten_statusWritten (some plan) phase w
  have hcall : call = _ := after_bind_of_ok (writeStatus_run henv _ _ (some plan) phase w)
  -- the phase is written; what follows depends on the answer of the exchange
  cases hattempt : attemptProtection x executor env (Text.upper symbol)
      (sideOfQty positionQty).text with
  | error e =>
    rw [hattempt, fromExcept_error, after_throw_bind] at hcall
    refine ⟨hcall ▸ hphase, ?_⟩
    rintro ⟨attempt, hok⟩
    rw [hattempt] at hok
    cases hok
  | ok attempt =>
    rw [hattempt, fromExcept_ok, after_bind_of_ok (pure_run attempt _)] at hcall
    obtain ⟨w₂, hclose, hfutures₂⟩ := closeIfUnstoppable_run x env symbol positionQty attempt
      (statusWritten x env symbol positionQty entryPrice (some plan) phase w)
    generalize hfinal : transitionProtectionStatus (some phase) true attempt.applySuccess
      (attempt.verified.map Prod.fst) = finalStatus at hcall
    obtain ⟨w₃, haudit, hfutures₃⟩ := auditFutures_run henv .finalAudit symbol
      (if finalStatus = .«protected» then "protection_plan_created" else "protection_failure")
      (statusWritten x env symbol positionQty entryPrice (some plan) finalStatus w₂)
    rw [after_bind_of_ok hclose, after_bind_of_ok (writeStatus_run henv _ _ (some plan) finalStatus w₂),
      after_of_ok haudit] at hcall
    rw [hcall]
    refine ⟨?_, fun _ => ⟨finalStatus, ?_, ?_, fun hprotected => ?_⟩⟩
    -- closing a position without a stop writes no row of it
    · have hclosed := hphase.of_positions_eq (congrArg FuturesStore.positions hfutures₂)
      exact (hclosed.trans (rowWritten_statusWritten (some plan) finalStatus w₂)).of_positions_eq
        (congrArg FuturesStore.positions hfutures₃)
    · rw [← hfinal]
      exact transitionProtectionStatus_mem_settled _ _ _
    · exact (agreed_statusWritten (some plan) finalStatus w₂).of_futures_eq hfutures₃
    -- only a verified stop is reported as protected
    · obtain ⟨hsuccess, hverify⟩ := transitionProtectionStatus_eq_protected (hfinal.trans hprotected)
      obtain ⟨haccepted, ⟨status, reason⟩, hverified, hanswer⟩ :=
        attemptProtection_cases hattempt hsuccess
      rw [hverified, Option.map_some, Option.some.injEq] at hverify
      exact ⟨haccepted, reason, by rw [hanswer, ← hverify]⟩

/-- A call past its early returns, with or without a plan. -/
theorem after_protectPosition (henv : env.ProtectionWrites) :
    let call := after (protectPosition x executor env symbol positionQty entryPrice) w
    RowWritten (runtimeKey symbol (sideOfQty positionQty)) |positionQty| w call ∧
      (AttemptReadable x executor env symbol positionQty →
        EndsSettled executor env symbol positionQty call) := by
  intro call
  -- the time of the call is noted and the old status read; both leave the tables alone
  let w₁ : World := { w with rt := { w.rt with
    lastProtectionApplyTs :=
      Function.update w.rt.lastProtectionApplyTs symbol env.protectionClock } }
  have hcall : call = _ := (after_modify_bind _ _ w).trans
    (after_bind_of_ok (read_run_of_none (henv .currentStatus) w₁))
  rw [after_get_bind] at hcall
  cases hplan : buildFuturesProtectionPlan entryPrice positionQty
      (w₁.rt.details symbol).stopLossPct (w₁.rt.details symbol).takeProfitPct with
  | some plan =>
    simp only [hplan] at hcall
    rw [hcall]
    exact ⟨RowWritten.of_before_eq (after_applyPlan henv plan _).1 rfl,
      (after_applyPlan henv plan _).2⟩
  | none =>
    simp only [hplan] at hcall
    generalize hfailed : transitionProtectionStatus _ true false (some .failed) = failedStatus at hcall
    obtain ⟨w₂, haudit, hfutures⟩ := auditFutures_run henv .unplannedAudit symbol "protection_failure"
      (statusWritten x env symbol positionQty entryPrice none failedStatus w₁)
    rw [after_bind_of_ok (writeStatus_run henv _ _ none failedStatus w₁), after_of_ok haudit] at hcall
    rw [hcall]
    refine ⟨?_, fun _ => ⟨failedStatus, ?_, ?_, fun hprotected => ?_⟩⟩
    · have hwritten := (rowWritten_statusWritten none failedStatus w₁).of_positions_eq
        (congrArg FuturesStore.positions hfutures)
      exact hwritten.of_before_eq rfl
    · rw [← hfailed]
      exact transitionProtectionStatus_mem_settled _ _ _
    · exact (agreed_statusWritten none failedStatus w₁).of_futures_eq hfutures
    · exact absurd (transitionProtectionStatus_eq_protected (hfailed.trans hprotected)).1 (by simp)

/-- A due call runs past the early returns. -/
theorem ensureFuturesProtection_of_due (hdue : ProtectionDue x env w.rt symbol positionQty entryPrice) :
    ∃ executor, x.executor = some executor ∧
      after (ensureFuturesProtection x env symbol positionQty entryPrice) w =
        after (protectPosition x executor env symbol positionQty entryPrice) w := by
  obtain ⟨executor, hexecutor⟩ := Option.isSome_iff_exists.mp hdue.2.1
  refine ⟨executor, hexecutor, ?_⟩
  unfold ensureFuturesProtection
  rw [after_get_bind, hexecutor]
  dsimp only
  rw [if_pos hdue]

/-- A call that is not due does nothing. -/
theorem ensureFuturesProtection_of_not_due
    (hdue : ¬ ProtectionDue x env w.rt symbol positionQty entryPrice) :
    ensureFuturesProtection x env symbol positionQty entryPrice w = .ok () w := by
  unfold ensureFuturesProtection
  rw [bind_of_ok (get_run w)]
  cases x.executor with
  | none => rfl
  | some executor =>
    dsimp only
    rw [if_neg hdue]
    rfl

end Calls

end Botik
