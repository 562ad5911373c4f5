import Botik.Main.Executions
import Botik.Risk.FuturesRules

/-!
# Protecting a futures position

`verify_futures_protection_from_exchange` and `_ensure_futures_protection` of
`main.py`: write the phase, set stop and take on the exchange with retries,
verify, close the position if the stops cannot be set, write the final status.

## Main definitions

* `StepEnv` — what the outside answers during one step
* `scanPositions`, `verifyFuturesProtectionFromExchange`
* `ProtectionDue` — the call gets past its early returns
* `attemptProtection`, `emergencyClose`, `protectPosition`
* `ensureFuturesProtection`
-/

namespace Botik

open Program

/-- Everything from outside that one step sees: which statements raise, what the
clocks show and what the exchange answers where it is asked. -/
structure StepEnv where
  faults : Faults
  /-- `time.monotonic()` in `_ensure_futures_protection`. -/
  protectionClock : ℚ
  /-- `time.monotonic()` where a position opens or closes. -/
  clock : ℚ
  /-- `int(time.time() * 1000)`. -/
  wallMs : ℤ
  /-- `utc_now_iso()`. -/
  utc : ℕ
  /-- The answers to the attempts to set the stops. -/
  setTradingStop : ℕ → Attempt
  /-- The answer of `get_positions`. -/
  positions : Except String PositionsReply
  /-- The random part of the link of the emergency market order. -/
  closeId : String
  /-- The answer to that order. -/
  closeOrder : Attempt

/-- An environment in which no statement raises and the exchange accepts
nothing. -/
def calmEnv : StepEnv where
  faults := fun _ => none
  protectionClock := 1000
  clock := 1000
  wallMs := 1700000000000
  utc := 1700000000
  setTradingStop := fun _ => .error "timeout"
  positions := .error "timeout"
  closeId := "1"
  closeOrder := .error "timeout"

/-- A futures run on one symbol with the default settings. -/
def bitcoinLinear : Context where
  config := .default ["BTCUSDT"] .linear
  executor := some (bybitRestClient (fun _ => none) fun _ => none)

/-! ### Verification -/

/-- The entry `verify_reason` of a verification. -/
inductive VerifyReason
  | positionsApiUnsupported
  | positionsApiError
  | positionsApiRejected
  | positionNotFound
  | confirmedOnExchange
  | missingStopOrTakeOnExchange
  | protectionApiUnsupported
  | setTradingStopNotCallable
  deriving DecidableEq, Repr

/-- The item the verification looks at: the first of the symbol with a size that
has the wanted side and index, else the first of the symbol with a size. -/
def scanPositions (symbolU sideU : String) (positionIdx : ℤ) (candidate : Option PositionItem) :
    List PositionItem → Except Exn (Option PositionItem)
  | [] => .ok candidate
  | item :: items =>
    if Text.strip (Text.upper (Text.orEmpty item.symbol)) ≠ symbolU then
      scanPositions symbolU sideU positionIdx candidate items
    else do
      let qty ← floatField "size" (Text.firstTruthy item.size item.qty)
      if |qty| ≤ 0 then scanPositions symbolU sideU positionIdx candidate items
      else do
        let itemIdx ← intField "positionIdx" item.positionIdx
        if Text.strip (Text.orEmpty item.side) = sideU ∧ itemIdx = positionIdx then
          return some item
        else scanPositions symbolU sideU positionIdx (candidate.or (some item)) items

/-- What the chosen item says. -/
def judgeCandidate : Option PositionItem → Except Exn (ProtectionStatus × VerifyReason)
  | none => .ok (.closed, .positionNotFound)
  | some item => do
    let stopLoss ← floatField "stopLoss" item.stopLoss
    let takeProfit ← floatField "takeProfit" item.takeProfit
    let _ ← floatField "trailingStop" item.trailingStop
    if 0 < stopLoss ∧ 0 < takeProfit then return (.«protected», .confirmedOnExchange)
    else return (.unprotected, .missingStopOrTakeOnExchange)

/-- `verify_futures_protection_from_exchange`. -/
def verifyFuturesProtectionFromExchange (executor : Executor)
    (answer : Except String PositionsReply) (symbol side : String) (positionIdx : ℤ) :
    Except Exn (ProtectionStatus × VerifyReason) :=
  if "get_positions" ∉ executor.callables then .ok (.failed, .positionsApiUnsupported)
  else
    match answer with
    | .error _ => .ok (.failed, .positionsApiError)
    | .ok positions =>
      if positions.reply.retCode ≠ some 0 then .ok (.failed, .positionsApiRejected)
      else do
        let candidate ← scanPositions (Text.strip (Text.upper symbol)) (Text.strip side)
          positionIdx none positions.list
        judgeCandidate candidate

/-! ### Setting the stops -/

/-- `_PROTECTION_MAX_RETRIES`. -/
def protectionMaxRetries : ℕ := 3

/-- What setting and verifying the stops led to. A verification status is missing
where all attempts to set them failed. -/
structure ProtectionAttempt where
  applySuccess : Bool
  verified : Option (ProtectionStatus × VerifyReason)

/-- One of the attempts was accepted; the later ones are then not made. -/
def stopAccepted (env : StepEnv) : Bool :=
  (List.range protectionMaxRetries).any fun i => (env.setTradingStop i).accepted

/-- Set the stops, at most three times, and verify them. -/
def attemptProtection (x : Context) (executor : Executor) (env : StepEnv)
    (symbolU side : String) : Except Exn ProtectionAttempt :=
  if ¬ executorSupportsCapability (some executor) "protection" x.config.marketCategory then
    .ok ⟨false, some (.failed, .protectionApiUnsupported)⟩
  else if "set_trading_stop" ∉ executor.callables then
    .ok ⟨false, some (.failed, .setTradingStopNotCallable)⟩
  else if stopAccepted env then do
    let verified ← verifyFuturesProtectionFromExchange executor env.positions symbolU side 0
    return ⟨true, some verified⟩
  else .ok ⟨false, none⟩

/-- All attempts failed for another reason than a missing call. -/
def ProtectionAttempt.mustClose (attempt : ProtectionAttempt) : Bool :=
  ¬ attempt.applySuccess ∧ attempt.verified.isNone

/-- The market order that closes a position. -/
def emergencyOrder (env : StepEnv) (symbol : String) (positionQty : ℚ) : OrderRequest where
  symbol := Text.upper symbol
  side := (if 0 < positionQty then Side.sell else Side.buy).text
  qty := Text.fixed8 |positionQty|
  price := 0
  orderLinkId := "prot-fail-" ++ symbol ++ "-" ++ env.closeId
  timeInForce := "GTC"
  orderType := "Market"

/-- The market order that closes a position whose stops cannot be set. Once it is
accepted the symbol is reset, whether or not its execution is known yet. -/
def emergencyClose (x : Context) (env : StepEnv) (symbol : String) (positionQty : ℚ) :
    RunM Unit := do
  let order := emergencyOrder env symbol positionQty
  modify fun w => { w with trace := w.trace ++ [.placeOrder order env.closeOrder.accepted] }
  if env.closeOrder.accepted then modify (resetSymbolRuntimeState x.config symbol)
  else pure ()

/-- The emergency close, where the attempts call for it. -/
def closeIfUnstoppable (x : Context) (env : StepEnv) (symbol : String) (positionQty : ℚ)
    (attempt : ProtectionAttempt) : RunM Unit :=
  if attempt.mustClose then emergencyClose x env symbol positionQty else pure ()

/-! ### The routine -/

/-- The side a signed quantity is held on. -/
def sideOfQty (positionQty : ℚ) : Side := if 0 < positionQty then .buy else .sell

/-- The key of the row of a held position. -/
def runtimeKey (symbol : String) (side : Side) : PositionKey :=
  ⟨unified, Text.upper symbol, side.text, 0⟩

/-- The row the runtime writes for a position it holds. -/
def runtimePositionRow (c : Config) (env : StepEnv) (positionQty entryPrice : ℚ)
    (plan : Option FuturesProtectionPlan) (status : ProtectionStatus) : PositionRow where
  marginMode := ""
  leverage := none
  qty := |positionQty|
  entryPrice := some entryPrice
  markPrice := none
  liqPrice := none
  unrealizedPnl := none
  realizedPnl := none
  takeProfit := plan.map (·.takeProfit)
  stopLoss := plan.map (·.stopLoss)
  trailingStop := plan.bind (·.trailingStop)
  protectionStatus := status
  sourceOfTruth := "runtime"
  recoveredFromExchange := false
  strategyOwner := some c.strategyOwner
  updatedAtUtc := env.utc

/-- The protection row that goes with it. -/
def runtimeProtectionRow (env : StepEnv) (plan : Option FuturesProtectionPlan)
    (status : ProtectionStatus) : ProtectionRow where
  status := status
  stopLoss := plan.map (·.stopLoss)
  takeProfit := plan.map (·.takeProfit)
  trailingStop := plan.bind (·.trailingStop)
  sourceOfTruth := "runtime"
  updatedAtUtc := env.utc

/-- Write the same status into both tables. -/
def writeStatus (x : Context) (env : StepEnv) (positionSite protectionSite : ProtectionSite)
    (symbol : String) (positionQty entryPrice : ℚ) (plan : Option FuturesProtectionPlan)
    (status : ProtectionStatus) : RunM Unit := do
  let key := runtimeKey symbol (sideOfQty positionQty)
  write env.faults (.protection positionSite) fun w => { w with
    futures := w.futures.upsertFuturesPosition key
      (runtimePositionRow x.config env positionQty entryPrice plan status) }
  write env.faults (.protection protectionSite) fun w => { w with
    futures := w.futures.upsertFuturesProtection key (runtimeProtectionRow env plan status) }

/-- `insert_event_audit` for the futures domain. -/
def auditFutures (env : StepEnv) (site : ProtectionSite) (symbol eventType : String) :
    RunM Unit :=
  write env.faults (.protection site) fun w => { w with
    core := w.core.insertEventAudit ⟨eventType, "futures", some (Text.upper symbol), none⟩ }

/-- The call gets past its early returns. -/
def ProtectionDue (x : Context) (env : StepEnv) (rt : Runtime) (symbol : String)
    (positionQty entryPrice : ℚ) : Prop :=
  x.config.marketCategory = .linear ∧ x.executor.isSome ∧
    max (positionFloor x.config rt symbol) (1 / 10 ^ 12) ≤ |positionQty| ∧ 0 < entryPrice ∧
    8 ≤ env.protectionClock - rt.lastProtectionApplyTs symbol

instance (x : Context) (env : StepEnv) (rt : Runtime) (symbol : String)
    (positionQty entryPrice : ℚ) :
    Decidable (ProtectionDue x env rt symbol positionQty entryPrice) :=
  inferInstanceAs (Decidable (_ ∧ _))

/-- The status of the row of a position that is still held; pending where there is
none. -/
def currentProtectionStatus (key : PositionKey) (w : World) : ProtectionStatus :=
  match w.futures.positions.get? key with
  | some row => if 0 < |row.qty| then row.protectionStatus else .pending
  | none => .pending

/-- `protection_apply_phase`. -/
def protectionApplyPhase : ProtectionStatus → ProtectionStatus
  | .repairing | .unprotected | .failed => .repairing
  | _ => .pending

/-- The part after the early returns with a plan. -/
def applyPlan (x : Context) (executor : Executor) (env : StepEnv) (symbol : String)
    (positionQty entryPrice : ℚ) (plan : FuturesProtectionPlan) (phase : ProtectionStatus) :
    RunM Unit := do
  writeStatus x env .phasePosition .phaseProtection symbol positionQty entryPrice (some plan) phase
  let attempt ← fromExcept
    (attemptProtection x executor env (Text.upper symbol) (sideOfQty positionQty).text)
  let finalStatus := transitionProtectionStatus (some phase) true attempt.applySuccess
    (attempt.verified.map Prod.fst)
  closeIfUnstoppable x env symbol positionQty attempt
  writeStatus x env .finalPosition .finalProtection symbol positionQty entryPrice (some plan)
    finalStatus
  auditFutures env .finalAudit symbol
    (if finalStatus = .«protected» then "protection_plan_created" else "protection_failure")

/-- The part after the early returns. -/
def protectPosition (x : Context) (executor : Executor) (env : StepEnv) (symbol : String)
    (positionQty entryPrice : ℚ) : RunM Unit := do
  modify fun w => { w with rt := { w.rt with
    lastProtectionApplyTs :=
      Function.update w.rt.lastProtectionApplyTs symbol env.protectionClock } }
  let currentStatus ← read env.faults (.protection .currentStatus)
    (currentProtectionStatus (runtimeKey symbol (sideOfQty positionQty)))
  let w ← get
  let details := w.rt.details symbol
  match buildFuturesProtectionPlan entryPrice positionQty details.stopLossPct
      details.takeProfitPct with
  | none => do
    let failedStatus := transitionProtectionStatus (some currentStatus) true false (some .failed)
    writeStatus x env .unplannedPosition .unplannedProtection symbol positionQty entryPrice none
      failedStatus
    auditFutures env .unplannedAudit symbol "protection_failure"
  | some plan =>
    applyPlan x executor env symbol positionQty entryPrice plan
      (protectionApplyPhase currentStatus)

/-- `_ensure_futures_protection`. -/
def ensureFuturesProtection (x : Context) (env : StepEnv) (symbol : String)
    (positionQty entryPrice : ℚ) : RunM Unit := do
  let w ← get
  match x.executor with
  | none => pure ()
  | some executor =>
    if ProtectionDue x env w.rt symbol positionQty entryPrice then
      protectPosition x executor env symbol positionQty entryPrice
    else pure ()

end Botik
