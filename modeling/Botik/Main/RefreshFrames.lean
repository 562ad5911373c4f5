import Botik.Main.ProtectionFacts
import Botik.Main.Refresh

/-!
# What the stages of an item leave alone

The accountable records of the ingestion are the seen ids, the raw executions and
the rows of `fills`; with the cached floors, three statements of an item touch
them. The position of the symbol is written once and after that only ever reset.
These frames hold whatever raises.

## Main definitions

* `Records`, `World.records` — seen ids, floors, raw executions and fills
* `Idle c symbol` — the records are the same, and so are the positions, except
  that `symbol` may be reset where `c` holds

## Main results

* `moves_idle_guardPosition`, `moves_idle_followPosition`,
  `moves_quiet_recordOrderEvent`, `moves_quiet_afterFill`
-/

namespace Botik

open Program Runs

/-- Pure bookkeeping: no runtime variable, position row, raw execution or row of
`fills` is touched. -/
structure Quiet (w w' : World) : Prop where
  rt : w'.rt = w.rt
  positions : w'.futures.positions = w.futures.positions
  executionsRaw : w'.lifecycle.executionsRaw = w.lifecycle.executionsRaw
  fills : w'.legacy.fills = w.legacy.fills

instance : IsPreorder World Quiet where
  refl _ := ⟨rfl, rfl, rfl, rfl⟩
  trans _ _ _ h h' := ⟨h'.rt.trans h.rt, h'.positions.trans h.positions,
    h'.executionsRaw.trans h.executionsRaw, h'.fills.trans h.fills⟩

/-- What the ingestion is accountable for, and the cached floors. -/
structure Records where
  seenExecIds : Finset String
  positionFloor : String → Option ℚ
  notionalFloor : String → Option ℚ
  executionsRaw : Dict String ExecutionRow
  fills : List FillRow

/-- The records of a state. -/
def World.records (w : World) : Records where
  seenExecIds := w.rt.seenExecIds
  positionFloor := w.rt.positionFloor
  notionalFloor := w.rt.notionalFloor
  executionsRaw := w.lifecycle.executionsRaw
  fills := w.legacy.fills

/-- The records are the same; the positions too, unless `c` holds and `symbol` was
reset. -/
def Idle (c : Prop) (symbol : String) (w w' : World) : Prop :=
  w'.records = w.records ∧
    (w'.rt.position = w.rt.position ∨
      c ∧ w'.rt.position = Function.update w.rt.position symbol .flat)

variable {c : Prop} {symbol : String}

instance : IsPreorder World (Idle c symbol) where
  refl w := ⟨rfl, Or.inl rfl⟩
  trans w₁ w₂ w₃ h₁₂ h₂₃ := by
    refine ⟨h₂₃.1.trans h₁₂.1, ?_⟩
    rcases h₁₂.2 with h₁ | ⟨hc, h₁⟩
    · rw [← h₁]
      exact h₂₃.2
    · refine Or.inr ⟨hc, ?_⟩
      -- a second reset of the same symbol changes nothing
      rcases h₂₃.2 with h₂ | ⟨_, h₂⟩
      · rw [h₂, h₁]
      · rw [h₂, h₁, Function.update_idem]

/-- Where nothing may be reset, the positions are the same. -/
theorem Idle.position_eq {w w' : World} (hw : Idle False symbol w w') :
    w'.rt.position = w.rt.position :=
  hw.2.resolve_right fun h => h.1

theorem idle_of_eq {w w' : World} (hrecords : w'.records = w.records)
    (hposition : w'.rt.position = w.rt.position) : Idle c symbol w w' :=
  ⟨hrecords, Or.inl hposition⟩

theorem Quiet.idle {w w' : World} (h : Quiet w w') : Idle c symbol w w' := by
  refine idle_of_eq ?_ ?_
  · simp only [World.records, h.rt, h.executionsRaw, h.fills]
  · rw [h.rt]

theorem moves_idle_of_quiet {α : Type} {m : RunM α} (h : Moves Quiet m) :
    Moves (Idle c symbol) m :=
  h.mono fun _ _ => Quiet.idle

theorem idle_reset (hc : c) (cfg : Config) (w : World) :
    Idle c symbol w (resetSymbolRuntimeState cfg symbol w) :=
  ⟨rfl, Or.inr ⟨hc, rfl⟩⟩

/-! ### Protection -/

section Protection

variable {x : Context} {env : StepEnv} {positionQty entryPrice : ℚ}

theorem moves_idle_writeStatus (positionSite protectionSite : ProtectionSite)
    (plan : Option FuturesProtectionPlan) (status : ProtectionStatus) (symbol' : String) :
    Moves (Idle c symbol)
      (writeStatus x env positionSite protectionSite symbol' positionQty entryPrice plan status) :=
  moves_bind (moves_write fun _ => idle_of_eq rfl rfl) fun _ =>
    moves_write fun _ => idle_of_eq rfl rfl

theorem moves_quiet_auditFutures (site : ProtectionSite) (symbol' eventType : String) :
    Moves Quiet (auditFutures env site symbol' eventType) :=
  moves_write fun _ => ⟨rfl, rfl, rfl, rfl⟩

theorem moves_idle_emergencyClose (hc : env.closeOrder.accepted = true → c) :
    Moves (Idle c symbol) (emergencyClose x env symbol positionQty) := by
  unfold emergencyClose
  dsimp only
  refine moves_bind ?_ fun _ => ?_
  · exact moves_modify fun _ => idle_of_eq rfl rfl
  · exact moves_ite (fun h => moves_modify (idle_reset (hc h) x.config)) fun _ => moves_pure _

theorem moves_idle_closeIfUnstoppable {attempt : ProtectionAttempt}
    (hc : attempt.mustClose = true → env.closeOrder.accepted = true → c) :
    Moves (Idle c symbol) (closeIfUnstoppable x env symbol positionQty attempt) :=
  moves_ite (fun hclose => moves_idle_emergencyClose (hc hclose)) fun _ => moves_pure _

theorem moves_idle_applyPlan {executor : Executor} {plan : FuturesProtectionPlan}
    {phase : ProtectionStatus}
    (hc : executorSupportsCapability (some executor) "protection" x.config.marketCategory = true →
      "set_trading_stop" ∈ executor.callables → stopAccepted env = false →
      env.closeOrder.accepted = true → c) :
    Moves (Idle c symbol)
      (applyPlan x executor env symbol positionQty entryPrice plan phase) := by
  unfold applyPlan
  refine moves_bind (moves_idle_writeStatus _ _ _ _ _) fun _ => ?_
  refine moves_fromExcept_bind fun attempt hattempt => ?_
  refine moves_bind (moves_idle_closeIfUnstoppable fun hclose => ?_) fun _ => ?_
  · obtain ⟨hsupported, hcallable, hrefused⟩ := stopAccepted_of_mustClose hattempt hclose
    exact hc hsupported hcallable hrefused
  · refine moves_bind (moves_idle_writeStatus _ _ _ _ _) fun _ => ?_
    exact moves_idle_of_quiet (moves_quiet_auditFutures _ _ _)

/-- A call that runs resets the position only by an accepted emergency close. -/
theorem idle_protectPosition {executor : Executor} {w : World} (hexecutor : x.executor = some executor)
    (hc : EmergencyClosed x env (w.rt.details symbol) positionQty entryPrice → c) :
    Idle c symbol w
      (after (protectPosition x executor env symbol positionQty entryPrice) w) := by
  unfold protectPosition
  rw [after_modify_bind]
  let w₁ : World := { w with rt := { w.rt with
    lastProtectionApplyTs :=
      Function.update w.rt.lastProtectionApplyTs symbol env.protectionClock } }
  have hnoted : Idle c symbol w w₁ := idle_of_eq rfl rfl
  refine trans_of (Idle c symbol) hnoted ?_
  -- the percentages are read from the state, so the rest is looked at from there
  rcases read_run_cases env.faults (.protection .currentStatus)
    (currentProtectionStatus (runtimeKey symbol (sideOfQty positionQty))) w₁ with hread | hread
  · rw [after_bind_of_ok hread, after_get_bind]
    dsimp only
    cases hplan : buildFuturesProtectionPlan entryPrice positionQty
        (w₁.rt.details symbol).stopLossPct (w₁.rt.details symbol).takeProfitPct with
    | none =>
      have hunplanned : Moves (Idle c symbol) (auditFutures env .unplannedAudit symbol
          "protection_failure") := moves_idle_of_quiet (moves_quiet_auditFutures _ _ _)
      exact moves_bind (moves_idle_writeStatus _ _ _ _ _) (fun _ => hunplanned) w₁
    | some plan =>
      refine moves_idle_applyPlan (fun hsupported hcallable hrefused haccepted => hc ?_) w₁
      refine ⟨?_, ?_, ⟨executor, hexecutor, hcallable⟩, hrefused, haccepted⟩
      · exact Option.isSome_of_eq_some hplan
      · rw [hexecutor]
        exact hsupported
  · rw [after_bind_of_error hread]
    exact refl_of (Idle c symbol) w₁

/-- Protecting a position resets it only by an accepted emergency close. -/
theorem idle_ensureFuturesProtection {w : World}
    (hc : ProtectionDue x env w.rt symbol positionQty entryPrice →
      EmergencyClosed x env (w.rt.details symbol) positionQty entryPrice → c) :
    Idle c symbol w (after (ensureFuturesProtection x env symbol positionQty entryPrice) w) := by
  by_cases hdue : ProtectionDue x env w.rt symbol positionQty entryPrice
  · obtain ⟨executor, hexecutor, hcall⟩ := ensureFuturesProtection_of_due hdue
    rw [hcall]
    exact idle_protectPosition hexecutor (hc hdue)
  · rw [after_of_ok (ensureFuturesProtection_of_not_due hdue)]
    exact refl_of (Idle c symbol) w

end Protection

/-! ### Outcomes -/

section Outcome

variable {x : Context} {env : StepEnv} {faults : Faults} {site : OutcomeSite → Site}
  {signalId : String}

theorem moves_quiet_writeOutcome (row : OutcomeRow) :
    Moves Quiet (writeOutcome faults site signalId row) :=
  moves_write fun _ => ⟨rfl, rfl, rfl, rfl⟩

theorem moves_quiet_writeReward (rewardBps : ℚ) :
    Moves Quiet (writeReward faults site signalId rewardBps) :=
  moves_write fun _ => ⟨rfl, rfl, rfl, rfl⟩

theorem moves_quiet_writeOrderPrices (entryPrice exitPrice : Option ℚ) :
    Moves Quiet (writeOrderPrices env site signalId entryPrice exitPrice) :=
  moves_write fun _ => ⟨rfl, rfl, rfl, rfl⟩

theorem moves_quiet_updateReward (rewardBps : ℚ) :
    Moves Quiet (updateReward x faults site signalId rewardBps) := by
  unfold updateReward
  refine moves_bind moves_read fun arm => ?_
  split
  · exact moves_pure _
  · exact moves_write fun _ => ⟨rfl, rfl, rfl, rfl⟩

theorem moves_quiet_outcomeDenominator (signalId : Option String) (denom : ℚ) :
    Moves Quiet (outcomeDenominator faults site signalId denom) := by
  unfold outcomeDenominator
  split
  · exact moves_pure _
  · refine moves_ite (fun _ => moves_pure _) fun _ => ?_
    exact moves_bind moves_read fun _ => moves_ite (fun _ => moves_pure _) fun _ => moves_pure _

theorem moves_quiet_flatFees (symbol' : String) (fill : Fill) (signalId : Option String) :
    Moves Quiet (flatFees env symbol' fill signalId) := by
  unfold flatFees
  split
  · exact moves_read
  · exact moves_pure _

theorem moves_quiet_recordFlatOutcome (signalId : Option String) (row : OutcomeRow) :
    Moves Quiet (recordFlatOutcome x env signalId row) := by
  unfold recordFlatOutcome
  split
  · exact moves_pure _
  · refine moves_bind (moves_quiet_writeOutcome _) fun _ => ?_
    refine moves_bind (moves_quiet_writeReward _) fun _ => ?_
    exact moves_bind (moves_quiet_writeOrderPrices _ _) fun _ => moves_quiet_updateReward _

theorem moves_idle_closeIfLinear (symbol' : String) (old : Position) (entryVwap price : ℚ) :
    Moves (Idle c symbol) (closeIfLinear x env symbol' old entryVwap price) := by
  unfold closeIfLinear
  split
  · exact moves_bind (moves_write fun _ => idle_of_eq rfl rfl) fun _ =>
      moves_write fun _ => idle_of_eq rfl rfl
  · exact moves_pure _

theorem moves_quiet_recordFlat (symbol' : String) (signalId : Option String) (old : Position)
    (fill : Fill) : Moves Quiet (recordFlat x env symbol' signalId old fill) := by
  unfold recordFlat
  refine moves_bind moves_get fun w => ?_
  refine moves_bind (moves_quiet_flatFees _ _ _) fun fees => ?_
  refine moves_bind (moves_quiet_outcomeDenominator _ _) fun denom => ?_
  exact moves_quiet_recordFlatOutcome _ _

/-- Settling a flat position resets it, if nothing raises before. -/
theorem moves_idle_settleFlat (hc : c) (signalId : Option String) (old : Position) (fill : Fill) :
    Moves (Idle c symbol) (settleFlat x env symbol signalId old fill) := by
  unfold settleFlat
  refine moves_bind (moves_idle_of_quiet (moves_quiet_recordFlat _ _ _ _)) fun _ => ?_
  exact moves_bind (moves_idle_closeIfLinear _ _ _ _) fun _ =>
    moves_modify (idle_reset hc x.config)

theorem moves_quiet_recordRoundtrip (r : Roundtrip) (exitVwap : ℚ) :
    Moves Quiet (recordRoundtrip x env signalId r exitVwap) := by
  unfold recordRoundtrip
  refine moves_bind (moves_quiet_outcomeDenominator _ _) fun denom => ?_
  refine moves_bind (moves_quiet_writeOutcome _) fun _ => ?_
  exact moves_bind (moves_quiet_writeReward _) fun _ => moves_quiet_updateReward _

theorem moves_quiet_syncRoundtrip (r : Roundtrip) :
    Moves Quiet (syncRoundtrip x env signalId r) := by
  unfold syncRoundtrip
  refine moves_ite (fun _ => moves_pure _) fun _ => ?_
  refine moves_bind (moves_quiet_writeOrderPrices _ _) fun _ => ?_
  split
  · exact moves_pure _
  · exact moves_ite (fun _ => moves_pure _) fun _ => moves_quiet_recordRoundtrip _ _

theorem moves_quiet_syncSignalOutcome (signalId : Option String) (symbolHint : String) :
    Moves Quiet (syncSignalOutcomeFromExecutions x env signalId symbolHint) := by
  unfold syncSignalOutcomeFromExecutions
  split
  · exact moves_pure _
  · refine moves_bind moves_read fun rows => ?_
    split
    · exact moves_pure _
    · exact moves_ite (fun _ => moves_pure _) fun _ => moves_quiet_syncRoundtrip _

end Outcome

/-! ### The stages -/

section Stages

variable {x : Context} {d : Delivery} {fill : Fill} {signalId : Option String}

theorem moves_quiet_updateHolding (env : StepEnv) (symbol' : String) (new : Position)
    (effective : Bool) :
    Moves Quiet (updateHolding x env symbol' fill new effective) := by
  unfold updateHolding
  refine moves_ite (fun _ => moves_pure _) fun _ => ?_
  refine moves_ite (fun _ => moves_write fun _ => ⟨rfl, rfl, rfl, rfl⟩) fun _ => ?_
  exact moves_ite (fun _ => moves_write fun _ => ⟨rfl, rfl, rfl, rfl⟩) fun _ => moves_pure _

/-- Only an accepted emergency close of an effective futures position resets. -/
theorem idle_guardPosition {env : StepEnv} {new : Position} {effective : Bool} {w : World}
    (hc : ProtectionDue x env w.rt symbol new.qty (entryPriceOr new fill.price) →
      EmergencyClosed x env (w.rt.details symbol) new.qty (entryPriceOr new fill.price) → c) :
    Idle c symbol w (after (guardPosition x env symbol fill new effective) w) := by
  unfold guardPosition
  cases x.config.marketCategory with
  | linear =>
    cases effective with
    | true => exact idle_ensureFuturesProtection hc
    | false => exact refl_of (Idle c symbol) w
  | spot => exact moves_idle_of_quiet (moves_quiet_updateHolding _ _ _ _) w

/-- Only a position that is not effective is settled. -/
theorem moves_idle_followPosition {env : StepEnv} {old : Position} {effective : Bool}
    (hc : effective = false → c) :
    Moves (Idle c symbol) (followPosition x env symbol signalId fill old effective) := by
  unfold followPosition
  refine moves_bind moves_get fun w => ?_
  refine moves_ite (fun _ => moves_modify fun _ => idle_of_eq rfl rfl) fun _ => ?_
  exact moves_ite (fun heff => moves_idle_settleFlat (hc (by simpa using heff)) _ _ _)
    fun _ => moves_pure _

theorem moves_quiet_recordOrderEvent (symbol' : String) (d : Delivery)
    (signalId : Option String) (fill : Fill) :
    Moves Quiet (recordOrderEvent symbol' d signalId fill) := by
  unfold recordOrderEvent
  refine moves_bind (moves_fromExcept _) fun _ => ?_
  exact moves_bind (moves_fromExcept _) fun _ => moves_write fun _ => ⟨rfl, rfl, rfl, rfl⟩

theorem moves_quiet_mirrorFill (symbol' : String) :
    Moves Quiet (mirrorFill x symbol' d fill) := by
  unfold mirrorFill
  refine moves_attempt ?_
  split <;> exact moves_write fun _ => ⟨rfl, rfl, rfl, rfl⟩

theorem moves_quiet_markOrderFilled : Moves Quiet (markOrderFilled d) := by
  unfold markOrderFilled
  split
  · exact moves_pure _
  · exact moves_write fun _ => ⟨rfl, rfl, rfl, rfl⟩

theorem moves_quiet_afterFill (symbol' : String) :
    Moves Quiet (afterFill x symbol' d signalId fill) := by
  unfold afterFill
  refine moves_bind (moves_quiet_mirrorFill _) fun _ => ?_
  exact moves_bind moves_quiet_markOrderFilled fun _ => moves_quiet_syncSignalOutcome _ _

end Stages

end Botik
