import Botik.Library.BoundedSet
import Botik.Library.Runs
import Botik.Main.Outcome

/-!
# Ingesting executions

The loop of `refresh_positions_from_executions` over the fetched execution lists.
One item goes through about ten statements that commit separately, so an
exception in the middle leaves what was done before; the trading loop catches it
and the rest of the batch is not looked at.

Which symbols are asked for, and how often, is left open: a batch is any list of
fetched answers.

## Main definitions

* `Delivery`, `Fetch`, `Work` — an item with what the outside does around it, the
  answer for one symbol, and one unit of work
* `markSeen`, `ingest` — one item of a list
* `applyExecution` — a readable item, in its four stages
* `refreshPositionsFromExecutions` — one batch
* `runRefreshes` — batch after batch, exceptions caught

## Main results

* `refresh_eq_each_work`, `runRefreshes_eq_run` — the nested loops are one run
  over the units of work that were reached
-/

namespace Botik

open Program Runs

/-- One item of an execution list, with what the outside does while it is
processed. -/
structure Delivery where
  item : ExecutionItem
  env : StepEnv

/-- The id of the delivered execution. -/
def Delivery.execId (d : Delivery) : String := d.item.executionId

/-- What `get_execution_list` answered for one symbol; an exception by its
text. -/
structure Fetch where
  symbol : String
  answer : Except String (ApiReply × List Delivery)

/-! ### The stages of one item -/

/-- `len(seen_exec_ids) > 20000` empties the set. -/
def seenLimit : ℕ := 20000

/-- Remember an execution id; a set that grew too large is emptied. -/
def remember (execId : String) (seen : Finset String) : Finset String :=
  BoundedSet.add seenLimit execId seen

/-- `seen_exec_ids.add(exec_id)` with the emptying. -/
def markSeen (execId : String) (w : World) : World :=
  { w with rt := { w.rt with seenExecIds := remember execId w.rt.seenExecIds } }

/-- The signal of the order, where the item names one. -/
def signalIdOfLink (env : StepEnv) (orderLinkId : Option String) : RunM (Option String) :=
  match Text.truthy orderLinkId with
  | none => pure none
  | some link => read env.faults .signalId fun w => w.lifecycle.getSignalIdForOrderLink (some link)

/-- `str(item.get("isMaker") or "").lower() == "true"`. -/
def isMaker (item : ExecutionItem) : Bool := Text.lower (Text.orEmpty item.isMaker) = "true"

/-- The row of `executions_raw`. -/
def executionRow (symbol : String) (d : Delivery) (signalId : Option String) (fill : Fill)
    (feeRate : Option ℚ) : ExecutionRow where
  orderId := d.item.orderId
  orderLinkId := d.item.orderLinkId
  signalId := signalId
  symbol := symbol
  side := d.item.side
  orderType := d.item.orderType
  execPrice := fill.price
  execQty := fill.qty
  execFee := fill.execFee
  feeRate := feeRate
  feeCurrency := d.item.feeCurrency
  isMaker := isMaker d.item
  execTimeMs := fill.execTimeMs
  recordedAtUtc := d.env.utc

/-- The state with the raw execution in its table. -/
def addExecution (symbol : String) (d : Delivery) (signalId : Option String) (fill : Fill)
    (feeRate : Option ℚ) (w : World) : World :=
  let row := executionRow symbol d signalId fill feeRate
  { w with lifecycle := w.lifecycle.insertExecutionEvent d.execId row }

/-- `insert_execution_event`. -/
def recordExecution (symbol : String) (d : Delivery) (signalId : Option String) (fill : Fill) :
    RunM Unit := do
  let feeRate ← fromExcept (optionalFloatField "feeRate" d.item.feeRate)
  write d.env.faults .executionEvent (addExecution symbol d signalId fill feeRate)

/-- `new_is_effective`: at the floor of quantity and, on spot, of notional. -/
def IsEffective (c : Config) (rt : Runtime) (symbol : String) (qty price : ℚ) : Prop :=
  positionFloor c rt symbol ≤ |qty| ∧
    (c.spotNotionalFloorEnabled = true → 0 < positionNotionalFloor c rt symbol →
      positionNotionalFloor c rt symbol ≤ |qty| * price)

instance (c : Config) (rt : Runtime) (symbol : String) (qty price : ℚ) :
    Decidable (IsEffective c rt symbol qty price) :=
  inferInstanceAs (Decidable (_ ∧ (_ → _ → _)))

/-- The row of a holding the runtime keeps. -/
def runtimeHoldingRow (c : Config) (env : StepEnv) (freeQty : ℚ) (avgEntryPrice : Option ℚ) :
    HoldingRow where
  freeQty := freeQty
  lockedQty := 0
  avgEntryPrice := avgEntryPrice
  holdReason := "strategy_entry"
  sourceOfTruth := "runtime_fills"
  recoveredFromExchange := false
  strategyOwner := some c.strategyOwner
  autoSellAllowed := true
  updatedAtUtc := env.utc

/-- Mirror the position into `spot_holdings`. -/
def updateHolding (x : Context) (env : StepEnv) (symbol : String) (fill : Fill) (new : Position)
    (effective : Bool) : RunM Unit := do
  let baseAsset := (splitSymbolBaseQuote (Text.upper symbol)).1
  let key : HoldingKey := ⟨unified, symbol, baseAsset⟩
  if baseAsset = "" then pure ()
  else if effective ∧ 0 < new.qty then
    write env.faults .spotHolding fun w => { w with
      spot := w.spot.upsertSpotHolding key
        (runtimeHoldingRow x.config env |new.qty| (some (entryPriceOr new fill.price))) }
  else if ¬ effective then
    write env.faults .spotHolding fun w => { w with
      spot := w.spot.upsertSpotHolding key (runtimeHoldingRow x.config env 0 none) }
  else pure ()

/-- Second stage: protect the new position, or mirror the holding. -/
def guardPosition (x : Context) (env : StepEnv) (symbol : String) (fill : Fill) (new : Position)
    (effective : Bool) : RunM Unit :=
  match x.config.marketCategory with
  | .linear =>
    if effective then ensureFuturesProtection x env symbol new.qty (entryPriceOr new fill.price)
    else pure ()
  | .spot => updateHolding x env symbol fill new effective

/-- Note when and by which signal a position was opened. -/
def markOpened (env : StepEnv) (symbol : String) (signalId : Option String) (fill : Fill)
    (w : World) : World :=
  setDetails symbol
    (fun details => { details with
      openedAt := some env.clock
      openedWallMs := some fill.execTimeMs
      signalId := signalId
      peakPnlBps := 0 }) w

/-- Third stage: a position opened, or is no more. -/
def followPosition (x : Context) (env : StepEnv) (symbol : String) (signalId : Option String)
    (fill : Fill) (old : Position) (effective : Bool) : RunM Unit := do
  let w ← get
  if |old.qty| < positionFloor x.config w.rt symbol ∧ effective then
    modify (markOpened env symbol signalId fill)
  else if ¬ effective then settleFlat x env symbol signalId old fill
  else pure ()

/-- `insert_order_event` of a fill. -/
def recordOrderEvent (symbol : String) (d : Delivery) (signalId : Option String) (fill : Fill) :
    RunM Unit := do
  let cumExecQty ← fromExcept (floatField "execQty" d.item.execQty)
  let cumExecValue ← fromExcept (optionalFloatField "execValue" d.item.execValue)
  write d.env.faults .orderEvent fun w => { w with
    lifecycle := w.lifecycle.insertOrderEvent
      { orderId := d.item.orderId
        orderLinkId := d.item.orderLinkId
        signalId := signalId
        symbol := symbol
        side := d.item.side
        orderType := d.item.orderType
        timeInForce := none
        price := fill.price
        qty := fill.qty
        orderStatus := "Filled"
        avgPrice := some fill.price
        cumExecQty := some cumExecQty
        cumExecValue := cumExecValue
        createdTimeMs := some fill.execTimeMs
        updatedTimeMs := some fill.execTimeMs } }

/-- The row of `fills`. -/
def fillRow (symbol : String) (d : Delivery) (fill : Fill) : FillRow where
  orderLinkId := Text.truthy d.item.orderLinkId
  exchangeOrderId := Text.truthy d.item.orderId
  symbol := symbol
  side := fill.side.text
  price := fill.price
  qty := fill.qty
  fee := fill.execFee
  feeCurrency := Text.truthy d.item.feeCurrency
  liquidity := if isMaker d.item then "Maker" else "Taker"
  filledAtUtc := d.env.utc

/-- The state with one more row in `fills`. -/
def addFill (symbol : String) (d : Delivery) (fill : Fill) (w : World) : World :=
  { w with legacy := w.legacy.insertFill (fillRow symbol d fill) }

/-- `insert_fill`. -/
def recordFill (symbol : String) (d : Delivery) (fill : Fill) : RunM Unit :=
  write d.env.faults .fill (addFill symbol d fill)

/-- The fill as the domain tables store it. -/
def domainFillRow (symbol : String) (d : Delivery) (fill : Fill) : DomainFillRow where
  symbol := symbol
  side := fill.side.text
  orderId := Text.truthy d.item.orderId
  orderLinkId := Text.truthy d.item.orderLinkId
  price := fill.price
  qty := fill.qty
  fee := some fill.execFee
  feeCurrency := Text.truthy d.item.feeCurrency
  isMaker := isMaker d.item
  execTimeMs := fill.execTimeMs

/-- The domain mirror, whose exceptions are only logged. -/
def mirrorFill (x : Context) (symbol : String) (d : Delivery) (fill : Fill) : RunM Unit :=
  attempt <|
    match x.config.marketCategory with
    | .linear => write d.env.faults .mirror fun w => { w with
        futures := w.futures.insertFuturesFill d.execId (domainFillRow symbol d fill) }
    | .spot => write d.env.faults .mirror fun w => { w with
        spot := w.spot.insertSpotFill d.execId (domainFillRow symbol d fill) }

/-- `update_order_status`, where the item names an order. -/
def markOrderFilled (d : Delivery) : RunM Unit :=
  match Text.truthy d.item.orderLinkId with
  | none => pure ()
  | some link => write d.env.faults .orderStatus fun w => { w with
      legacy := w.legacy.updateOrderStatus link "Filled" d.env.utc d.item.orderId }

/-- What comes after the row of `fills`. -/
def afterFill (x : Context) (symbol : String) (d : Delivery) (signalId : Option String)
    (fill : Fill) : RunM Unit := do
  mirrorFill x symbol d fill
  markOrderFilled d
  syncSignalOutcomeFromExecutions x d.env signalId symbol

/-- The stages between the raw execution and the row of `fills`: apply the fill to
the position and do what follows from the new position. -/
def movePosition (x : Context) (symbol : String) (d : Delivery) (signalId : Option String)
    (fill : Fill) : RunM Unit := do
  let w ← get
  let old := w.rt.position symbol
  let new := applyFill old fill.side.text fill.effectiveQty fill.price
  modify (setPosition symbol new)
  let effective := decide (IsEffective x.config w.rt symbol new.qty fill.price)
  guardPosition x d.env symbol fill new effective
  followPosition x d.env symbol signalId fill old effective

/-- What comes after the raw execution is recorded. -/
def applyRecorded (x : Context) (symbol : String) (d : Delivery) (signalId : Option String)
    (fill : Fill) : RunM Unit := do
  movePosition x symbol d signalId fill
  recordOrderEvent symbol d signalId fill
  recordFill symbol d fill
  afterFill x symbol d signalId fill

/-- An item that was read completely. -/
def applyExecution (x : Context) (symbol : String) (d : Delivery) (signalId : Option String)
    (fill : Fill) : RunM Unit := do
  recordExecution symbol d signalId fill
  applyRecorded x symbol d signalId fill

/-- An item whose id was not seen. -/
def ingestFresh (x : Context) (symbol : String) (d : Delivery) : RunM Unit := do
  let head ← fromExcept (readHead d.item)
  match head with
  | none => pure ()
  | some head => do
    let signalId ← signalIdOfLink d.env d.item.orderLinkId
    let fill ← fromExcept (readFill symbol d.env.wallMs d.item head)
    match fill with
    | none => pure ()
    | some fill => applyExecution x symbol d signalId fill

/-- One item of an execution list. The id is marked before anything else is
done. -/
def ingest (x : Context) (symbol : String) (d : Delivery) : RunM Unit := do
  let w ← get
  if d.execId ∈ w.rt.seenExecIds then pure ()
  else do
    modify (markSeen d.execId)
    ingestFresh x symbol d

/-! ### Batches -/

/-- Resolve both floors of a symbol, which caches them. -/
def resolveFloors (x : Context) (symbol : String) : RunM Unit := do
  let _ ← resolvePositionFloor x symbol
  let _ ← resolvePositionNotionalFloor x symbol

/-- The items of an answer in the order they are processed: the list reversed, and
none where the call failed. -/
def Fetch.deliveries (f : Fetch) : List Delivery :=
  match f.answer with
  | .error _ => []
  | .ok (reply, list) => if reply.retCode = some 0 then list.reverse else []

/-- The loop body for one symbol. The floors it starts with stay in the cache, from
where the items read them. -/
def refreshSymbol (x : Context) (f : Fetch) : RunM Unit := do
  resolveFloors x f.symbol
  each (ingest x f.symbol) f.deliveries

/-- `refresh_positions_from_executions`, from the fetched answers on. -/
def refreshPositionsFromExecutions (x : Context) (fetches : List Fetch) : RunM Unit :=
  match x.executor with
  | none => pure ()
  | some _ => each (refreshSymbol x) fetches

/-- The trading loop over refreshes, each of whose exceptions it catches. -/
def runRefreshes (x : Context) (batches : List (List Fetch)) (w : World) : World :=
  run (fun fetches => after (refreshPositionsFromExecutions x fetches)) batches w

/-! ### Units of work -/

/-- A unit of work of a batch. -/
inductive Work
  | floors (symbol : String)
  | item (symbol : String) (d : Delivery)

/-- The program of a unit of work. -/
def work (x : Context) : Work → RunM Unit
  | .floors symbol => resolveFloors x symbol
  | .item symbol d => ingest x symbol d

/-- The execution a unit of work delivers, if it delivers one. -/
def Work.execId? : Work → Option String
  | .floors _ => none
  | .item _ d => some d.execId

/-- The symbol a unit of work is about. -/
def Work.symbol : Work → String
  | .floors symbol => symbol
  | .item symbol _ => symbol

/-- The effect of a unit of work, exceptions caught. -/
def step (x : Context) (u : Work) : World → World := after (work x u)

def Fetch.works (f : Fetch) : List Work :=
  .floors f.symbol :: f.deliveries.map (.item f.symbol)

/-- The units of a batch; without an executor there are none. -/
def works (x : Context) (fetches : List Fetch) : List Work :=
  match x.executor with
  | none => []
  | some _ => fetches.flatMap Fetch.works

/-- The units of work a run of refreshes gets to. -/
def reached (x : Context) (batches : List (List Fetch)) (w : World) : List Work :=
  takenOfBatches (work x) (batches.map (works x)) w

theorem refreshSymbol_eq_each_work (x : Context) (f : Fetch) :
    refreshSymbol x f = each (work x) f.works := by
  rw [Fetch.works, each_cons, each_map]
  rfl

/-- A batch is one loop over its units of work. -/
theorem refresh_eq_each_work (x : Context) (fetches : List Fetch) :
    refreshPositionsFromExecutions x fetches = each (work x) (works x fetches) := by
  unfold refreshPositionsFromExecutions works
  cases x.executor with
  | none => rfl
  | some executor =>
    dsimp only
    rw [← each_flatMap]
    exact congrArg (each · fetches) (funext fun f => refreshSymbol_eq_each_work x f)

/-- A run of refreshes is a run over the units of work it got to. -/
theorem runRefreshes_eq_run (x : Context) (batches : List (List Fetch)) (w : World) :
    runRefreshes x batches w = run (step x) (reached x batches w) w := by
  have hbatches : runRefreshes x batches w =
      runBatches (work x) (batches.map (works x)) w := by
    unfold runRefreshes runBatches
    induction batches generalizing w with
    | nil => rfl
    | cons fetches batches ih =>
      rw [List.map_cons, run_cons, run_cons, refresh_eq_each_work]
      exact ih _
  rw [hbatches, runBatches_eq_run]
  rfl

/-- The units that are reached come from the answers. -/
theorem exists_fetch_of_mem_reached {x : Context} {batches : List (List Fetch)} {w : World}
    {u : Work} (hu : u ∈ reached x batches w) : ∃ f ∈ batches.flatten, u.symbol = f.symbol := by
  obtain ⟨us, hus, hmem⟩ := List.mem_flatten.mp (takenOfBatches_sublist.subset hu)
  obtain ⟨fetches, hfetches, rfl⟩ := List.mem_map.mp hus
  unfold works at hmem
  cases hexec : x.executor with
  | none => simp [hexec] at hmem
  | some executor =>
    rw [hexec] at hmem
    obtain ⟨f, hf, hwork⟩ := List.mem_flatMap.mp hmem
    refine ⟨f, List.mem_flatten.mpr ⟨fetches, hfetches, hf⟩, ?_⟩
    rcases List.mem_cons.mp hwork with rfl | hitem
    · rfl
    · obtain ⟨d, -, rfl⟩ := List.mem_map.mp hitem
      rfl

end Botik
