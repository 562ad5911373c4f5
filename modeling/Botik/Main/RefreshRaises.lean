import Botik.Main.Refresh

/-!
# What a stage of an item can raise

The exception of a stage names the statement that raised it, or the field that
could not be read. A set of exceptions that contains the faults of a stage's own
statements, and the unreadable fields where it reads any, contains everything the
stage can raise.

## Main definitions

* `Covers P faults site` — `P` contains the faults of a family of statements

## Main results

* `raisesOnly_settleFlat`, `raisesOnly_ensureFuturesProtection`,
  `raisesOnly_guardPosition`, `raisesOnly_followPosition`, `raisesOnly_afterFill`
-/

namespace Botik

open Program

/-- `P` contains every exception a fault table can cause at these statements. -/
def Covers {ι : Type*} (P : Exn → Prop) (faults : Faults) (site : ι → Site) : Prop :=
  ∀ i, faults (site i) ≠ none → P (.database (site i))

variable {P : Exn → Prop} {x : Context} {env : StepEnv} {symbol : String}

/-! ### Fields -/

section Fields

theorem exn_of_floatField {name : String} {field : Option String} {e : Exn}
    (h : floatField name field = .error e) : e = .value name := by
  unfold floatField at h
  split at h
  · cases h
  · split at h
    · cases h
    · exact (Except.error.inj h).symm

theorem exn_of_intField {name : String} {field : Option String} {e : Exn}
    (h : intField name field = .error e) : e = .value name := by
  unfold intField at h
  split at h
  · cases h
  · split at h
    · cases h
    · exact (Except.error.inj h).symm

theorem exn_of_optionalFloatField {name : String} {field : Option String} {e : Exn}
    (h : optionalFloatField name field = .error e) : e = .value name := by
  unfold optionalFloatField at h
  split at h
  · cases h
  · split at h
    · cases h
    · exact (Except.error.inj h).symm

/-- A raising sequence of readings raised in its first or in a later part. -/
theorem error_of_bind_error {α β : Type} {r : Except Exn α} {g : α → Except Exn β} {e : Exn}
    (h : (r >>= g) = .error e) : r = .error e ∨ ∃ a, r = .ok a ∧ g a = .error e := by
  cases r with
  | ok a => exact Or.inr ⟨a, rfl, h⟩
  | error e' =>
    cases h
    exact Or.inl rfl

theorem exn_of_scanPositions {symbolU sideU : String} {positionIdx : ℤ}
    {candidate : Option PositionItem} {items : List PositionItem} {e : Exn}
    (h : scanPositions symbolU sideU positionIdx candidate items = .error e) :
    ∃ field, e = .value field := by
  induction items generalizing candidate with
  | nil => cases h
  | cons item items ih =>
    rw [scanPositions] at h
    split at h
    · exact ih h
    · rcases error_of_bind_error h with h | ⟨qty, _, h⟩
      · exact ⟨_, exn_of_floatField h⟩
      split at h
      · exact ih h
      · rcases error_of_bind_error h with h | ⟨idx, _, h⟩
        · exact ⟨_, exn_of_intField h⟩
        split at h
        · cases h
        · exact ih h

theorem exn_of_judgeCandidate {candidate : Option PositionItem} {e : Exn}
    (h : judgeCandidate candidate = .error e) : ∃ field, e = .value field := by
  cases candidate with
  | none => cases h
  | some item =>
    rw [judgeCandidate] at h
    rcases error_of_bind_error h with h | ⟨stopLoss, _, h⟩
    · exact ⟨_, exn_of_floatField h⟩
    rcases error_of_bind_error h with h | ⟨takeProfit, _, h⟩
    · exact ⟨_, exn_of_floatField h⟩
    rcases error_of_bind_error h with h | ⟨trailingStop, _, h⟩
    · exact ⟨_, exn_of_floatField h⟩
    split at h <;> cases h

/-- A verification raises only over a number it cannot read. -/
theorem exn_of_attemptProtection {executor : Executor} {symbolU side : String} {e : Exn}
    (h : attemptProtection x executor env symbolU side = .error e) : ∃ field, e = .value field := by
  unfold attemptProtection at h
  split at h
  · cases h
  split at h
  · cases h
  split at h
  · rcases error_of_bind_error h with h | ⟨verified, _, h⟩
    · unfold verifyFuturesProtectionFromExchange at h
      split at h
      · cases h
      split at h
      · cases h
      split at h
      · cases h
      rcases error_of_bind_error h with h | ⟨candidate, _, h⟩
      · exact exn_of_scanPositions h
      · exact exn_of_judgeCandidate h
    · cases h
  · cases h

end Fields

/-! ### Protection -/

section Protection

variable {positionQty entryPrice : ℚ}

theorem raisesOnly_writeStatus (h : Covers P env.faults .protection)
    (positionSite protectionSite : ProtectionSite) (plan : Option FuturesProtectionPlan)
    (status : ProtectionStatus) :
    RaisesOnly P
      (writeStatus x env positionSite protectionSite symbol positionQty entryPrice plan status) :=
  raisesOnly_bind (raisesOnly_write (h positionSite)) fun _ => raisesOnly_write (h protectionSite)

theorem raisesOnly_auditFutures (h : Covers P env.faults .protection) (site : ProtectionSite)
    (eventType : String) : RaisesOnly P (auditFutures env site symbol eventType) :=
  raisesOnly_write (h site)

theorem raisesOnly_closeIfUnstoppable (attempt : ProtectionAttempt) :
    RaisesOnly P (closeIfUnstoppable x env symbol positionQty attempt) := by
  unfold closeIfUnstoppable
  refine raisesOnly_ite (fun _ => ?_) fun _ => raisesOnly_pure P _
  unfold emergencyClose
  refine raisesOnly_bind (raisesOnly_modify P _) fun _ => ?_
  exact raisesOnly_ite (fun _ => raisesOnly_modify P _) fun _ => raisesOnly_pure P _

/-- A protection call raises its own faults, or over an unreadable answer. -/
theorem raisesOnly_ensureFuturesProtection (h : Covers P env.faults .protection)
    (hvalue : ∀ field, P (.value field)) :
    RaisesOnly P (ensureFuturesProtection x env symbol positionQty entryPrice) := by
  unfold ensureFuturesProtection
  refine raisesOnly_bind (raisesOnly_get P) fun w => ?_
  split
  · exact raisesOnly_pure P _
  refine raisesOnly_ite (fun _ => ?_) fun _ => raisesOnly_pure P _
  unfold protectPosition
  refine raisesOnly_bind (raisesOnly_modify P _) fun _ => ?_
  refine raisesOnly_bind (raisesOnly_read (h .currentStatus)) fun _ => ?_
  refine raisesOnly_bind (raisesOnly_get P) fun w => ?_
  dsimp only
  split
  · exact raisesOnly_bind (raisesOnly_writeStatus h _ _ _ _) fun _ => raisesOnly_auditFutures h _ _
  · unfold applyPlan
    refine raisesOnly_bind (raisesOnly_writeStatus h _ _ _ _) fun _ => ?_
    refine raisesOnly_bind (raisesOnly_fromExcept fun e he => ?_) fun attempt => ?_
    · obtain ⟨field, rfl⟩ := exn_of_attemptProtection he
      exact hvalue field
    · refine raisesOnly_bind (raisesOnly_closeIfUnstoppable attempt) fun _ => ?_
      refine raisesOnly_bind (raisesOnly_writeStatus h _ _ _ _) fun _ => ?_
      exact raisesOnly_auditFutures h _ _

end Protection

/-! ### Outcomes -/

section Outcome

variable {site : OutcomeSite → Site} {signalId : String}

theorem raisesOnly_updateReward (h : Covers P env.faults site) (rewardBps : ℚ) :
    RaisesOnly P (updateReward x env.faults site signalId rewardBps) := by
  unfold updateReward
  refine raisesOnly_bind (raisesOnly_read (h .banditSignal)) fun arm => ?_
  split
  · exact raisesOnly_pure P _
  · exact raisesOnly_write (h .banditArm)

theorem raisesOnly_outcomeDenominator (h : Covers P env.faults site) (signalId : Option String)
    (denom : ℚ) : RaisesOnly P (outcomeDenominator env.faults site signalId denom) := by
  unfold outcomeDenominator
  split
  · exact raisesOnly_pure P _
  · refine raisesOnly_ite (fun _ => raisesOnly_pure P _) fun _ => ?_
    refine raisesOnly_bind (raisesOnly_read (h .entryBasis)) fun _ => ?_
    exact raisesOnly_ite (fun _ => raisesOnly_pure P _) fun _ => raisesOnly_pure P _

theorem raisesOnly_recordFlatOutcome (h : Covers P env.faults .flat) (signalId : Option String)
    (row : OutcomeRow) : RaisesOnly P (recordFlatOutcome x env signalId row) := by
  unfold recordFlatOutcome
  split
  · exact raisesOnly_pure P _
  · refine raisesOnly_bind (raisesOnly_write (h .outcome)) fun _ => ?_
    refine raisesOnly_bind (raisesOnly_write (h .reward)) fun _ => ?_
    exact raisesOnly_bind (raisesOnly_write (h .orders)) fun _ => raisesOnly_updateReward h _

theorem raisesOnly_recordFlat (h : Covers P env.faults .flat) (signalId : Option String)
    (old : Position) (fill : Fill) :
    RaisesOnly P (recordFlat x env symbol signalId old fill) := by
  unfold recordFlat
  refine raisesOnly_bind (raisesOnly_get P) fun w => ?_
  refine raisesOnly_bind ?_ fun fees => ?_
  · unfold flatFees
    split
    · exact raisesOnly_read (h .executions)
    · exact raisesOnly_pure P _
  · exact raisesOnly_bind (raisesOnly_outcomeDenominator h _ _) fun _ =>
      raisesOnly_recordFlatOutcome h _ _

/-- Settling a flat position raises its own faults. -/
theorem raisesOnly_settleFlat (h : Covers P env.faults .flat)
    (hposition : env.faults .flatPosition ≠ none → P (.database .flatPosition))
    (hprotection : env.faults .flatProtection ≠ none → P (.database .flatProtection))
    (signalId : Option String) (old : Position) (fill : Fill) :
    RaisesOnly P (settleFlat x env symbol signalId old fill) := by
  unfold settleFlat
  refine raisesOnly_bind (raisesOnly_recordFlat h _ _ _) fun _ => ?_
  refine raisesOnly_bind ?_ fun _ => raisesOnly_modify P _
  unfold closeIfLinear
  split
  · exact raisesOnly_bind (raisesOnly_write hposition) fun _ => raisesOnly_write hprotection
  · exact raisesOnly_pure P _

/-- Synchronising an outcome raises its own faults. -/
theorem raisesOnly_syncSignalOutcome (h : Covers P env.faults .sync) (signalId : Option String)
    (symbolHint : String) :
    RaisesOnly P (syncSignalOutcomeFromExecutions x env signalId symbolHint) := by
  unfold syncSignalOutcomeFromExecutions
  split
  · exact raisesOnly_pure P _
  refine raisesOnly_bind (raisesOnly_read (h .executions)) fun rows => ?_
  split
  · exact raisesOnly_pure P _
  refine raisesOnly_ite (fun _ => raisesOnly_pure P _) fun _ => ?_
  unfold syncRoundtrip
  refine raisesOnly_ite (fun _ => raisesOnly_pure P _) fun _ => ?_
  refine raisesOnly_bind (raisesOnly_write (h .orders)) fun _ => ?_
  split
  · exact raisesOnly_pure P _
  refine raisesOnly_ite (fun _ => raisesOnly_pure P _) fun _ => ?_
  unfold recordRoundtrip
  refine raisesOnly_bind (raisesOnly_outcomeDenominator h _ _) fun _ => ?_
  refine raisesOnly_bind (raisesOnly_write (h .outcome)) fun _ => ?_
  exact raisesOnly_bind (raisesOnly_write (h .reward)) fun _ => raisesOnly_updateReward h _

end Outcome

/-! ### Stages -/

section Stages

variable {d : Delivery} {fill : Fill} {signalId : Option String}

theorem exn_of_readHead {item : ExecutionItem} {e : Exn} (h : readHead item = .error e) :
    ∃ field, e = .value field := by
  unfold readHead at h
  rcases error_of_bind_error h with h | ⟨qty, _, h⟩
  · exact ⟨_, exn_of_floatField h⟩
  rcases error_of_bind_error h with h | ⟨price, _, h⟩
  · exact ⟨_, exn_of_floatField h⟩
  split at h <;> cases h

theorem exn_of_readFill {wallMs : ℤ} {item : ExecutionItem} {head : ExecutionHead} {e : Exn}
    (h : readFill symbol wallMs item head = .error e) : ∃ field, e = .value field := by
  unfold readFill at h
  rcases error_of_bind_error h with h | ⟨execFee, _, h⟩
  · exact ⟨_, exn_of_floatField h⟩
  rcases error_of_bind_error h with h | ⟨execTime, _, h⟩
  · exact ⟨_, exn_of_intField h⟩
  dsimp only at h
  split at h <;> cases h

theorem raisesOnly_signalIdOfLink {orderLinkId : Option String}
    (hsignal : env.faults .signalId ≠ none → P (.database .signalId)) :
    RaisesOnly P (signalIdOfLink env orderLinkId) := by
  unfold signalIdOfLink
  split
  · exact raisesOnly_pure P _
  · exact raisesOnly_read hsignal

theorem raisesOnly_recordExecution (hevent : d.env.faults .executionEvent ≠ none →
    P (.database .executionEvent)) (hvalue : ∀ field, P (.value field)) :
    RaisesOnly P (recordExecution symbol d signalId fill) := by
  unfold recordExecution
  refine raisesOnly_bind (raisesOnly_fromExcept fun e he => ?_) fun _ => raisesOnly_write hevent
  exact exn_of_optionalFloatField he ▸ hvalue _

theorem raisesOnly_guardPosition (h : Covers P env.faults .protection)
    (hholding : env.faults .spotHolding ≠ none → P (.database .spotHolding))
    (hvalue : ∀ field, P (.value field)) (new : Position) (effective : Bool) :
    RaisesOnly P (guardPosition x env symbol fill new effective) := by
  unfold guardPosition
  split
  · exact raisesOnly_ite (fun _ => raisesOnly_ensureFuturesProtection h hvalue)
      fun _ => raisesOnly_pure P _
  · unfold updateHolding
    refine raisesOnly_ite (fun _ => raisesOnly_pure P _) fun _ => ?_
    refine raisesOnly_ite (fun _ => raisesOnly_write hholding) fun _ => ?_
    exact raisesOnly_ite (fun _ => raisesOnly_write hholding) fun _ => raisesOnly_pure P _

theorem raisesOnly_followPosition (h : Covers P env.faults .flat)
    (hposition : env.faults .flatPosition ≠ none → P (.database .flatPosition))
    (hprotection : env.faults .flatProtection ≠ none → P (.database .flatProtection))
    (old : Position) (effective : Bool) :
    RaisesOnly P (followPosition x env symbol signalId fill old effective) := by
  unfold followPosition
  refine raisesOnly_bind (raisesOnly_get P) fun w => ?_
  refine raisesOnly_ite (fun _ => raisesOnly_modify P _) fun _ => ?_
  exact raisesOnly_ite (fun _ => raisesOnly_settleFlat h hposition hprotection _ _ _)
    fun _ => raisesOnly_pure P _

theorem raisesOnly_recordOrderEvent (hevent : d.env.faults .orderEvent ≠ none →
    P (.database .orderEvent)) (hvalue : ∀ field, P (.value field)) :
    RaisesOnly P (recordOrderEvent symbol d signalId fill) := by
  unfold recordOrderEvent
  refine raisesOnly_bind (raisesOnly_fromExcept fun e he => ?_) fun _ => ?_
  · exact exn_of_floatField he ▸ hvalue _
  refine raisesOnly_bind (raisesOnly_fromExcept fun e he => ?_) fun _ => raisesOnly_write hevent
  exact exn_of_optionalFloatField he ▸ hvalue _

/-- After the row of `fills`, only the order status and the synchronisation can
raise: the mirror swallows its exceptions. -/
theorem raisesOnly_afterFill (hstatus : d.env.faults .orderStatus ≠ none →
    P (.database .orderStatus)) (h : Covers P d.env.faults .sync) :
    RaisesOnly P (afterFill x symbol d signalId fill) := by
  unfold afterFill
  refine raisesOnly_bind (raisesOnly_attempt P _) fun _ => ?_
  refine raisesOnly_bind ?_ fun _ => raisesOnly_syncSignalOutcome h _ _
  unfold markOrderFilled
  split
  · exact raisesOnly_pure P _
  · exact raisesOnly_write hstatus

end Stages

end Botik
