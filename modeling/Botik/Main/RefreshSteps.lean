import Botik.Main.Steps

/-!
# The steps of the ingestion

Ingesting executions writes positions, protections, outcomes and fills; it sends no order but the
one that closes an unprotected position, and it leaves the tables of the orders alone. A relation
of states that allows this holds between the states before and after a refresh, whatever raises.

## Main definitions

* `RecordSteps` — the relation allows what is recorded of an execution
* `IngestSteps` — the relation allows the steps of an ingestion

## Main results

* `moves_ensureFuturesProtection` — the only order closes the position in question
* `moves_ingest`, `moves_refreshPositions`, `moves_takeStock`
-/

namespace Botik

open Program

/-- The relation allows every step of an ingestion: what leaves the orders alone, the close of a
futures position, and the reward of a signal. -/
structure IngestSteps (x : Context) (R : World → World → Prop) : Prop where
  tables : ∀ w w', SameOrders w w' → R w w'
  close : x.config.marketCategory = .linear → ∀ env symbol qty accepted w,
    R w (note (.placeOrder (emergencyOrder env symbol qty) accepted) w)
  reward : ∀ signalId w, R w (note (.rewardArm signalId) w)

/-- The relation allows what is recorded of an execution: what leaves the orders alone, and the
reward of a signal. -/
structure RecordSteps (R : World → World → Prop) : Prop where
  tables : ∀ w w', SameOrders w w' → R w w'
  reward : ∀ signalId w, R w (note (.rewardArm signalId) w)

section Tables

variable {R : World → World → Prop} {x : Context} {update : World → World}

theorem IngestSteps.records (h : IngestSteps x R) : RecordSteps R := ⟨h.tables, h.reward⟩

/-- A step that leaves the orders alone. -/
theorem RecordSteps.modify (h : RecordSteps R) (hsame : ∀ w, SameOrders w (update w)) :
    Moves R (modify update : RunM Unit) :=
  moves_modify fun w => h.tables w _ (hsame w)

variable [IsPreorder World R]

/-- A statement that leaves the orders alone. -/
theorem RecordSteps.write {faults : Faults} {site : Site} (h : RecordSteps R)
    (hsame : ∀ w, SameOrders w (update w)) : Moves R (write faults site update) :=
  moves_write fun w => h.tables w _ (hsame w)

end Tables

variable {R : World → World → Prop} [IsPreorder World R] {x : Context} {env : StepEnv}
  {symbol : String}

/-! ### Protection -/

section Protection

variable {positionQty entryPrice : ℚ}

theorem moves_writeStatus (h : RecordSteps R) (positionSite protectionSite : ProtectionSite)
    (plan : Option FuturesProtectionPlan) (status : ProtectionStatus) :
    Moves R (writeStatus x env positionSite protectionSite symbol positionQty entryPrice plan
      status) :=
  moves_bind (h.write fun _ => ⟨rfl, rfl, rfl, rfl⟩) fun _ => h.write fun _ => ⟨rfl, rfl, rfl, rfl⟩

/-- An unprotected position may be closed. -/
theorem moves_applyPlan (h : RecordSteps R) (hclose : ∀ accepted w,
      R w (note (.placeOrder (emergencyOrder env symbol positionQty) accepted) w))
    {executor : Executor} {plan : FuturesProtectionPlan} {phase : ProtectionStatus} :
    Moves R (applyPlan x executor env symbol positionQty entryPrice plan phase) := by
  have hemergency : Moves R (emergencyClose x env symbol positionQty) := by
    unfold emergencyClose
    refine moves_bind (moves_modify (hclose _)) fun _ => ?_
    exact moves_ite (fun _ => h.modify fun _ => ⟨rfl, rfl, rfl, rfl⟩) fun _ => moves_pure _
  unfold applyPlan
  refine moves_bind (moves_writeStatus h _ _ _ _) fun _ => ?_
  refine moves_bind (moves_fromExcept _) fun attempt => ?_
  refine moves_bind (moves_ite (fun _ => hemergency) fun _ => moves_pure _) fun _ => ?_
  refine moves_bind (moves_writeStatus h _ _ _ _) fun _ => ?_
  exact h.write fun _ => ⟨rfl, rfl, rfl, rfl⟩

theorem moves_ensureFuturesProtection (h : RecordSteps R)
    (hclose : x.config.marketCategory = .linear → ∀ accepted w,
      R w (note (.placeOrder (emergencyOrder env symbol positionQty) accepted) w)) :
    Moves R (ensureFuturesProtection x env symbol positionQty entryPrice) := by
  unfold ensureFuturesProtection
  refine moves_bind moves_get fun w => ?_
  cases x.executor with
  | none => exact moves_pure _
  | some executor =>
    refine moves_ite (fun hdue => ?_) fun _ => moves_pure _
    unfold protectPosition
    refine moves_bind (h.modify fun _ => ⟨rfl, rfl, rfl, rfl⟩) fun _ => ?_
    refine moves_bind moves_read fun _ => moves_bind moves_get fun w => ?_
    dsimp only
    split
    · exact moves_bind (moves_writeStatus h _ _ _ _) fun _ => h.write fun _ => ⟨rfl, rfl, rfl, rfl⟩
    · exact moves_applyPlan h (hclose hdue.1)

end Protection

/-! ### Outcomes -/

section Outcomes

variable {faults : Faults} {site : OutcomeSite → Site}

/-- The reward of a signal is noted. -/
theorem moves_updateReward (h : RecordSteps R) (signalId : String) (rewardBps : ℚ) :
    Moves R (updateReward x faults site signalId rewardBps) := by
  unfold updateReward
  refine moves_bind moves_read fun arm => ?_
  split
  · exact moves_pure _
  · refine moves_write fun w => trans_of R (h.reward signalId w) ?_
    exact h.tables _ _ ⟨rfl, rfl, rfl, rfl⟩

theorem moves_outcomeDenominator (signalId : Option String) (denom : ℚ) :
    Moves R (outcomeDenominator faults site signalId denom) := by
  unfold outcomeDenominator
  split
  · exact moves_pure _
  · refine moves_ite (fun _ => moves_pure _) fun _ => ?_
    exact moves_bind moves_read fun _ => moves_ite (fun _ => moves_pure _) fun _ => moves_pure _

theorem moves_settleFlat (h : RecordSteps R) (signalId : Option String) (old : Position)
    (fill : Fill) : Moves R (settleFlat x env symbol signalId old fill) := by
  have hfees : ∀ signalId, Moves R (flatFees env symbol fill signalId) := by
    intro signalId
    unfold flatFees
    split
    · exact moves_read
    · exact moves_pure _
  have hrecorded : ∀ signalId row, Moves R (recordFlatOutcome x env signalId row) := by
    intro signalId row
    unfold recordFlatOutcome
    split
    · exact moves_pure _
    · refine moves_bind (h.write fun _ => ⟨rfl, rfl, rfl, rfl⟩) fun _ => ?_
      refine moves_bind (h.write fun _ => ⟨rfl, rfl, rfl, rfl⟩) fun _ => ?_
      refine moves_bind (h.write fun _ => ⟨rfl, rfl, rfl, rfl⟩) fun _ => ?_
      exact moves_updateReward h _ _
  have hrows : Moves R
      (closeIfLinear x env symbol old (entryPriceOr old fill.price) fill.price) := by
    unfold closeIfLinear
    split
    · exact moves_bind (h.write fun _ => ⟨rfl, rfl, rfl, rfl⟩) fun _ =>
        h.write fun _ => ⟨rfl, rfl, rfl, rfl⟩
    · exact moves_pure _
  have hrecord : Moves R (recordFlat x env symbol signalId old fill) := by
    unfold recordFlat
    refine moves_bind moves_get fun w => ?_
    refine moves_bind (hfees _) fun fees => ?_
    exact moves_bind (moves_outcomeDenominator _ _) fun denom => hrecorded _ _
  unfold settleFlat
  refine moves_bind hrecord fun _ => moves_bind hrows fun _ => ?_
  exact h.modify fun _ => ⟨rfl, rfl, rfl, rfl⟩

theorem moves_syncSignalOutcome (h : RecordSteps R) (signalId : Option String)
    (symbolHint : String) :
    Moves R (syncSignalOutcomeFromExecutions x env signalId symbolHint) := by
  have hroundtrip : ∀ signalId r exitVwap,
      Moves R (recordRoundtrip x env signalId r exitVwap) := by
    intro signalId r exitVwap
    unfold recordRoundtrip
    refine moves_bind (moves_outcomeDenominator _ _) fun denom => ?_
    refine moves_bind (h.write fun _ => ⟨rfl, rfl, rfl, rfl⟩) fun _ => ?_
    refine moves_bind (h.write fun _ => ⟨rfl, rfl, rfl, rfl⟩) fun _ => ?_
    exact moves_updateReward h _ _
  have hsync : ∀ signalId r, Moves R (syncRoundtrip x env signalId r) := by
    intro signalId r
    unfold syncRoundtrip
    refine moves_ite (fun _ => moves_pure _) fun _ => ?_
    refine moves_bind (h.write fun _ => ⟨rfl, rfl, rfl, rfl⟩) fun _ => ?_
    split
    · exact moves_pure _
    · exact moves_ite (fun _ => moves_pure _) fun _ => hroundtrip _ _ _
  unfold syncSignalOutcomeFromExecutions
  split
  · exact moves_pure _
  · refine moves_bind moves_read fun rows => ?_
    split
    · exact moves_pure _
    · exact moves_ite (fun _ => moves_pure _) fun _ => hsync _ _

end Outcomes

/-! ### An item of an execution list -/

section Items

variable {d : Delivery}

theorem moves_updateHolding (h : RecordSteps R) (fill : Fill) (new : Position) (effective : Bool) :
    Moves R (updateHolding x env symbol fill new effective) := by
  unfold updateHolding
  refine moves_ite (fun _ => moves_pure _) fun _ => ?_
  refine moves_ite (fun _ => h.write fun _ => ⟨rfl, rfl, rfl, rfl⟩) fun _ => ?_
  exact moves_ite (fun _ => h.write fun _ => ⟨rfl, rfl, rfl, rfl⟩) fun _ => moves_pure _

/-- The second stage of an item may close the new position. -/
theorem moves_guardPosition (h : RecordSteps R) (fill : Fill) {new : Position}
    (hclose : x.config.marketCategory = .linear → ∀ accepted w,
      R w (note (.placeOrder (emergencyOrder env symbol new.qty) accepted) w)) (effective : Bool) :
    Moves R (guardPosition x env symbol fill new effective) := by
  unfold guardPosition
  cases hmarket : x.config.marketCategory with
  | linear =>
    exact moves_ite (fun _ => moves_ensureFuturesProtection h hclose) fun _ => moves_pure _
  | spot => exact moves_updateHolding h fill new effective

theorem moves_followPosition (h : RecordSteps R) (signalId : Option String) (fill : Fill)
    (old : Position) (effective : Bool) :
    Moves R (followPosition x env symbol signalId fill old effective) := by
  unfold followPosition
  refine moves_bind moves_get fun w => ?_
  refine moves_ite (fun _ => h.modify fun _ => ⟨rfl, rfl, rfl, rfl⟩) fun _ => ?_
  exact moves_ite (fun _ => moves_settleFlat h _ _ _) fun _ => moves_pure _

theorem moves_movePosition (h : IngestSteps x R) (signalId : Option String) (fill : Fill) :
    Moves R (movePosition x symbol d signalId fill) := by
  unfold movePosition
  refine moves_bind moves_get fun w => ?_
  refine moves_bind (h.records.modify fun _ => ⟨rfl, rfl, rfl, rfl⟩) fun _ => ?_
  refine moves_bind (moves_guardPosition h.records fill (fun hmarket => ?_) _) fun _ => ?_
  · exact h.close hmarket d.env symbol _
  · exact moves_followPosition h.records signalId fill _ _

theorem moves_recordOrderEvent (h : RecordSteps R) (signalId : Option String) (fill : Fill) :
    Moves R (recordOrderEvent symbol d signalId fill) := by
  unfold recordOrderEvent
  refine moves_bind (moves_fromExcept _) fun _ => moves_bind (moves_fromExcept _) fun _ => ?_
  exact h.write fun _ => ⟨rfl, rfl, rfl, rfl⟩

theorem moves_afterFill (h : RecordSteps R) (signalId : Option String) (fill : Fill) :
    Moves R (afterFill x symbol d signalId fill) := by
  have hmirror : Moves R (mirrorFill x symbol d fill) := by
    unfold mirrorFill
    refine moves_attempt ?_
    split <;> exact h.write fun _ => ⟨rfl, rfl, rfl, rfl⟩
  have hstatus : Moves R (markOrderFilled d) := by
    unfold markOrderFilled
    split
    · exact moves_pure _
    · exact h.write fun _ => ⟨rfl, rfl, rfl, rfl⟩
  unfold afterFill
  refine moves_bind hmirror fun _ => ?_
  exact moves_bind hstatus fun _ => moves_syncSignalOutcome h _ _

/-- What follows the position is only recorded. -/
theorem moves_recordMoved (h : RecordSteps R) (signalId : Option String) (fill : Fill) :
    Moves R (do
      recordOrderEvent symbol d signalId fill
      recordFill symbol d fill
      afterFill x symbol d signalId fill) := by
  refine moves_bind (moves_recordOrderEvent h _ _) fun _ => ?_
  refine moves_bind (h.write fun _ => ⟨rfl, rfl, rfl, rfl⟩) fun _ => ?_
  exact moves_afterFill h _ _

theorem moves_recordExecution (h : RecordSteps R) (signalId : Option String) (fill : Fill) :
    Moves R (recordExecution symbol d signalId fill) :=
  moves_bind (moves_fromExcept _) fun _ => h.write fun _ => ⟨rfl, rfl, rfl, rfl⟩

theorem moves_signalIdOfLink (orderLinkId : Option String) :
    Moves R (signalIdOfLink env orderLinkId) := by
  unfold signalIdOfLink
  split
  · exact moves_pure _
  · exact moves_read

theorem moves_applyRecorded (h : IngestSteps x R) (signalId : Option String) (fill : Fill) :
    Moves R (applyRecorded x symbol d signalId fill) := by
  unfold applyRecorded
  refine moves_bind (moves_movePosition h signalId fill) fun _ => ?_
  exact moves_recordMoved h.records signalId fill

/-- The steps of an item. -/
theorem moves_ingest (h : IngestSteps x R) : Moves R (ingest x symbol d) := by
  have happly : ∀ signalId fill, Moves R (applyExecution x symbol d signalId fill) :=
    fun signalId fill => moves_bind (moves_recordExecution h.records signalId fill)
      fun _ => moves_applyRecorded h signalId fill
  have hfresh : Moves R (ingestFresh x symbol d) := by
    unfold ingestFresh
    refine moves_bind (moves_fromExcept _) fun head => ?_
    split
    · exact moves_pure _
    · refine moves_bind (moves_signalIdOfLink _) fun signalId => ?_
      refine moves_bind (moves_fromExcept _) fun fill => ?_
      split
      · exact moves_pure _
      · exact happly signalId _
  unfold ingest
  refine moves_bind moves_get fun w => ?_
  refine moves_ite (fun _ => moves_pure _) fun _ => ?_
  exact moves_bind (h.records.modify fun _ => ⟨rfl, rfl, rfl, rfl⟩) fun _ => hfresh

/-- The steps of a refresh. -/
theorem moves_refreshPositions (h : IngestSteps x R) (fetches : List Fetch) :
    Moves R (refreshPositionsFromExecutions x fetches) := by
  have hposition : ∀ symbol, Moves R (resolvePositionFloor x symbol) := by
    intro symbol
    unfold resolvePositionFloor
    refine moves_bind moves_get fun w => ?_
    exact moves_bind (h.records.modify (sameOrders_cachePositionFloor symbol _))
      fun _ => moves_pure _
  have hnotional : ∀ symbol, Moves R (resolvePositionNotionalFloor x symbol) := by
    intro symbol
    unfold resolvePositionNotionalFloor
    refine moves_bind moves_get fun w => ?_
    exact moves_bind (h.records.modify (sameOrders_cacheNotionalFloor symbol _))
      fun _ => moves_pure _
  rw [refresh_eq_each_work]
  refine moves_each (fun u => ?_) _
  cases u with
  | floors symbol =>
    exact moves_bind (hposition symbol) fun _ => moves_bind (hnotional symbol) fun _ => moves_pure _
  | item symbol d => exact moves_ingest h

end Items

/-! ### The stages that bring the state up to date -/

section TakeStock

variable {env : LoopEnv}

/-- Once the refresh and the wallet are known, the open orders are only counted. -/
theorem moves_takeStock_of_refresh
    (hrefresh : Moves R (refreshPositionsFromExecutions x env.fetches))
    (hwallet : ∀ w, R w (refreshWalletBalance env w)) (orders : List OpenOrder) :
    Moves (OnWorlds R) (takeStock x env orders) := by
  have hread : ∀ order, Moves (OnWorlds R) (countOpenOrder order) := by
    intro order
    unfold countOpenOrder
    refine moves_bind moves_get fun s => moves_bind (moves_fromExcept _) fun vars => ?_
    exact moves_worlds_modifyVars _
  unfold takeStock
  refine moves_bind (moves_worlds_modifyVars _) fun _ => ?_
  refine moves_bind (moves_worlds_onWorld hrefresh) fun _ => ?_
  refine moves_bind (moves_worlds_onWorld (moves_modify hwallet)) fun _ => ?_
  exact moves_each hread orders

/-- The steps of the stages before the orders are sent. -/
theorem moves_takeStock (h : IngestSteps x R) (orders : List OpenOrder) :
    Moves (OnWorlds R) (takeStock x env orders) := by
  have hwallet : ∀ w, SameOrders w (refreshWalletBalance env w) := by
    intro w
    unfold refreshWalletBalance
    split
    · split_ifs
      · split <;> exact ⟨rfl, rfl, rfl, rfl⟩
      · exact ⟨rfl, rfl, rfl, rfl⟩
    · exact ⟨rfl, rfl, rfl, rfl⟩
  exact moves_takeStock_of_refresh (moves_refreshPositions h env.fetches)
    (fun w => h.tables w _ (hwallet w)) orders

end TakeStock

end Botik
