import Botik.Main.Protection

/-!
# Outcomes of signals

What is recorded when a position goes flat, and what is recomputed from all
executions of a signal after each of them: the outcome row, the reward of the
signal and of its bandit arm, and the entry and exit price of its orders.

## Main definitions

* `sumSignalFeesQuote`, `loadSignalEntryBasis`, `netEdgeBps`
* `updateReward` — `PolicySelector.update_reward`
* `recordFlat`, `settleFlat` — the branch of a fill that leaves no effective position
* `Roundtrip`, `syncSignalOutcomeFromExecutions`
-/

namespace Botik

open Program

/-- `_sum_signal_fees_quote`. -/
def sumSignalFeesQuote (signalId symbol : String) (w : World) : ℚ :=
  ((w.lifecycle.executionsRaw.entries.filter fun e => e.2.signalId = some signalId).map fun e =>
    feeToQuote symbol e.2.execFee (Text.orEmpty e.2.feeCurrency) e.2.execPrice).sum

/-- `_load_signal_entry_basis`: price and size of the entry. -/
def loadSignalEntryBasis (signalId : String) (w : World) : ℚ × ℚ :=
  match w.lifecycle.signals.get? signalId with
  | some row => (row.entryPrice, row.orderSizeBase)
  | none => (0, 0)

/-- The notional an outcome is measured against: what was filled, or what the
signal planned where that is not positive. -/
def outcomeDenominator (faults : Faults) (site : OutcomeSite → Site) (signalId : Option String)
    (denom : ℚ) : RunM ℚ :=
  match signalId with
  | none => pure denom
  | some signalId =>
    if 0 < denom then pure denom
    else do
      let (basisPrice, basisQty) ← read faults (site .entryBasis) (loadSignalEntryBasis signalId)
      if 0 < basisPrice ∧ 0 < basisQty then return basisPrice * basisQty else return denom

/-- Profit in basis points of a notional. -/
def netEdgeBps (netPnl denom : ℚ) : ℚ := if 0 < denom then netPnl / denom * 10000 else 0

/-- `PolicySelector.update_reward`. -/
def updateReward (x : Context) (faults : Faults) (site : OutcomeSite → Site) (signalId : String)
    (rewardBps : ℚ) : RunM Unit := do
  let arm ← read faults (site .banditSignal) fun w =>
    armOfSignal w.lifecycle.signals x.config.profileIds signalId
  match arm with
  | none => pure ()
  | some arm => write faults (site .banditArm) fun w => { w with
      bandit := w.bandit.set arm ((loadState w.bandit arm).update rewardBps)
      trace := w.trace ++ [.rewardArm signalId] }

/-- `upsert_outcome`. -/
def writeOutcome (faults : Faults) (site : OutcomeSite → Site) (signalId : String)
    (row : OutcomeRow) : RunM Unit :=
  write faults (site .outcome) fun w => { w with
    lifecycle := w.lifecycle.upsertOutcome signalId row }

/-- `upsert_signal_reward`. -/
def writeReward (faults : Faults) (site : OutcomeSite → Site) (signalId : String)
    (rewardBps : ℚ) : RunM Unit :=
  write faults (site .reward) fun w => { w with
    lifecycle := w.lifecycle.upsertSignalReward signalId rewardBps }

/-- `update_orders_entry_exit_for_signal`. -/
def writeOrderPrices (env : StepEnv) (site : OutcomeSite → Site) (signalId : String)
    (entryPrice exitPrice : Option ℚ) : RunM Unit :=
  write env.faults (site .orders) fun w => { w with
    legacy := w.legacy.updateOrdersEntryExitForSignal w.lifecycle signalId entryPrice exitPrice
      env.utc }

/-! ### A position goes flat -/

/-- Profit of closing the whole old position at a price. -/
def closeGrossPnl (old : Position) (entryVwap exitVwap : ℚ) : ℚ :=
  if old.qty = 0 then 0
  else if 0 < old.qty then (exitVwap - entryVwap) * |old.qty|
  else (entryVwap - exitVwap) * |old.qty|

/-- The fees of the outcome: of all executions of its signal, or of this one where
there is no signal. -/
def flatFees (env : StepEnv) (symbol : String) (fill : Fill) : Option String → RunM ℚ
  | some signalId => read env.faults (.flat .executions) (sumSignalFeesQuote signalId symbol)
  | none => pure (feeToQuote symbol fill.execFee fill.feeCurrency fill.price)

/-- Outcome, reward and order prices of the signal of a position that went
flat. -/
def recordFlatOutcome (x : Context) (env : StepEnv) (signalId : Option String)
    (row : OutcomeRow) : RunM Unit :=
  match signalId with
  | none => pure ()
  | some signalId => do
    writeOutcome env.faults .flat signalId row
    writeReward env.faults .flat signalId row.netEdgeBps
    writeOrderPrices env .flat signalId (some row.entryVwap) (some row.exitVwap)
    updateReward x env.faults .flat signalId row.netEdgeBps

/-- The side whose row is closed when a position goes flat. -/
def closedSide (old : Position) : Side := if 0 < old.qty then .buy else .sell

/-- The row of a position that went flat. -/
def closedPositionRow (c : Config) (env : StepEnv) (entryVwap price : ℚ) : PositionRow where
  marginMode := ""
  leverage := none
  qty := 0
  entryPrice := if 0 < entryVwap then some entryVwap else none
  markPrice := some price
  liqPrice := none
  unrealizedPnl := some 0
  realizedPnl := none
  takeProfit := none
  stopLoss := none
  trailingStop := none
  protectionStatus := .closed
  sourceOfTruth := "runtime_fills"
  recoveredFromExchange := false
  strategyOwner := some c.strategyOwner
  updatedAtUtc := env.utc

/-- The protection row that goes with it. -/
def closedProtectionRow (env : StepEnv) : ProtectionRow where
  status := .closed
  stopLoss := none
  takeProfit := none
  trailingStop := none
  sourceOfTruth := "runtime_fills"
  updatedAtUtc := env.utc

/-- Close both rows of the old side. -/
def closeFuturesRows (x : Context) (env : StepEnv) (symbol : String) (old : Position)
    (entryVwap price : ℚ) : RunM Unit := do
  let key := runtimeKey symbol (closedSide old)
  write env.faults .flatPosition fun w => { w with
    futures := w.futures.upsertFuturesPosition key
      (closedPositionRow x.config env entryVwap price) }
  write env.faults .flatProtection fun w => { w with
    futures := w.futures.upsertFuturesProtection key (closedProtectionRow env) }

/-- Only linear positions have rows to close. -/
def closeIfLinear (x : Context) (env : StepEnv) (symbol : String) (old : Position)
    (entryVwap price : ℚ) : RunM Unit :=
  match x.config.marketCategory with
  | .linear => closeFuturesRows x env symbol old entryVwap price
  | .spot => pure ()

/-- The entry price of a position, the price of the last fill where it has none. -/
def entryPriceOr (p : Position) (price : ℚ) : ℚ := if 0 < p.avgEntry then p.avgEntry else price

/-- `hold_time_ms` of a position that goes flat. -/
def flatHoldTimeMs (env : StepEnv) (details : SymbolState) : ℤ :=
  match details.openedAt.filter (· ≠ 0) with
  | some openedAt => Text.truncate ((env.clock - openedAt) * 1000)
  | none => 0

/-- Record the outcome of a position that goes flat. -/
def recordFlat (x : Context) (env : StepEnv) (symbol : String) (signalId : Option String)
    (old : Position) (fill : Fill) : RunM Unit := do
  let w ← get
  let details := w.rt.details symbol
  let entryVwap := entryPriceOr old fill.price
  let grossPnl := closeGrossPnl old entryVwap fill.price
  let outcomeSignalId := Text.firstTruthy details.signalId signalId
  let totalFeesQuote ← flatFees env symbol fill outcomeSignalId
  let netPnl := grossPnl - totalFeesQuote
  let denom ← outcomeDenominator env.faults .flat outcomeSignalId (entryVwap * |old.qty|)
  recordFlatOutcome x env outcomeSignalId
    { symbol := symbol
      entryVwap := entryVwap
      exitVwap := fill.price
      filledQty := |old.qty|
      holdTimeMs := flatHoldTimeMs env details
      grossPnlQuote := grossPnl
      netPnlQuote := netPnl
      netEdgeBps := netEdgeBps netPnl denom
      wasFullyFilled := true
      wasProfitable := 0 < netPnl
      exitReason := "position_flat" }

/-- The branch of a fill that leaves no effective position: record the outcome of
the old position, close its rows, forget the symbol. -/
def settleFlat (x : Context) (env : StepEnv) (symbol : String) (signalId : Option String)
    (old : Position) (fill : Fill) : RunM Unit := do
  recordFlat x env symbol signalId old fill
  closeIfLinear x env symbol old (entryPriceOr old fill.price) fill.price
  modify (resetSymbolRuntimeState x.config symbol)

/-! ### All executions of a signal -/

/-- What the executions of a signal add up to. -/
structure Roundtrip where
  symbol : String
  buyQty : ℚ
  buyNotional : ℚ
  sellQty : ℚ
  sellNotional : ℚ
  totalFeesQuote : ℚ
  firstBuyMs : Option ℤ
  lastSellMs : Option ℤ

namespace Roundtrip

def initial (symbol : String) : Roundtrip := ⟨symbol, 0, 0, 0, 0, 0, none, none⟩

/-- The earlier of two positive times. -/
def earlier (first : Option ℤ) (execTimeMs : ℤ) : Option ℤ :=
  if 0 < execTimeMs ∧ first.all (execTimeMs < ·) then some execTimeMs else first

/-- The later of two positive times. -/
def laterMs (last : Option ℤ) (execTimeMs : ℤ) : Option ℤ :=
  if 0 < execTimeMs ∧ last.all (· < execTimeMs) then some execTimeMs else last

/-- Add the quantities of one execution of a known side. -/
def addSide (r : Roundtrip) (row : ExecutionRow) : Option Side → Roundtrip
  | some .buy =>
    { r with
      buyQty := r.buyQty + row.execQty
      buyNotional := r.buyNotional + row.execPrice * row.execQty
      firstBuyMs := earlier r.firstBuyMs row.execTimeMs }
  | some .sell =>
    { r with
      sellQty := r.sellQty + row.execQty
      sellNotional := r.sellNotional + row.execPrice * row.execQty
      lastSellMs := laterMs r.lastSellMs row.execTimeMs }
  | none => r

/-- Add one execution. -/
def add (r : Roundtrip) (row : ExecutionRow) : Roundtrip :=
  let rowSymbol := Text.strip (Text.upper row.symbol)
  let r := if rowSymbol = "" then r else { r with symbol := rowSymbol }
  if row.execPrice ≤ 0 ∨ row.execQty ≤ 0 then r
  else
    let fee := feeToQuote r.symbol row.execFee (Text.orEmpty row.feeCurrency) row.execPrice
    { r.addSide row (Side.ofText? (Text.orEmpty row.side)) with
      totalFeesQuote := r.totalFeesQuote + fee }

def ofRows (symbol : String) (rows : List ExecutionRow) : Roundtrip :=
  rows.foldl add (initial symbol)

def entryVwap (r : Roundtrip) : ℚ := r.buyNotional / r.buyQty

/-- The average sell price, where something was sold. -/
def exitVwap (r : Roundtrip) : Option ℚ :=
  if 0 < r.sellQty ∧ 0 < r.sellNotional then some (r.sellNotional / r.sellQty) else none

def matchedQty (r : Roundtrip) : ℚ := min r.buyQty r.sellQty

def holdTimeMs (r : Roundtrip) : ℤ :=
  match r.firstBuyMs.filter (· ≠ 0), r.lastSellMs.filter (· ≠ 0) with
  | some first, some last => if first ≤ last then last - first else 0
  | _, _ => 0

end Roundtrip

/-- The part of the synchronisation after an exit price is known. -/
def recordRoundtrip (x : Context) (env : StepEnv) (signalId : String) (r : Roundtrip)
    (exitVwap : ℚ) : RunM Unit := do
  let grossPnl := (exitVwap - r.entryVwap) * r.matchedQty
  let netPnl := grossPnl - r.totalFeesQuote
  let denom ← outcomeDenominator env.faults .sync (some signalId) (r.entryVwap * r.matchedQty)
  let row : OutcomeRow :=
    { symbol := r.symbol
      entryVwap := r.entryVwap
      exitVwap := exitVwap
      filledQty := r.matchedQty
      holdTimeMs := r.holdTimeMs
      grossPnlQuote := grossPnl
      netPnlQuote := netPnl
      netEdgeBps := netEdgeBps netPnl denom
      wasFullyFilled := r.buyQty - 1 / 10 ^ 9 ≤ r.sellQty
      wasProfitable := 0 < netPnl
      exitReason := "signal_roundtrip" }
  writeOutcome env.faults .sync signalId row
  writeReward env.faults .sync signalId row.netEdgeBps
  updateReward x env.faults .sync signalId row.netEdgeBps

/-- The part of the synchronisation after the executions are read. -/
def syncRoundtrip (x : Context) (env : StepEnv) (signalId : String) (r : Roundtrip) :
    RunM Unit :=
  if r.buyQty ≤ 0 ∨ r.buyNotional ≤ 0 then pure ()
  else do
    writeOrderPrices env .sync signalId (some r.entryVwap) r.exitVwap
    match r.exitVwap with
    | none => pure ()
    | some exitVwap =>
      if r.matchedQty ≤ 0 then pure ()
      else recordRoundtrip x env signalId r exitVwap

/-- `_sync_signal_outcome_from_executions`. -/
def syncSignalOutcomeFromExecutions (x : Context) (env : StepEnv) (signalId : Option String)
    (symbolHint : String) : RunM Unit :=
  match Text.truthy signalId with
  | none => pure ()
  | some signalId => do
    let rows ← read env.faults (.sync .executions) fun w => w.lifecycle.executionsOfSignal signalId
    match rows with
    | [] => pure ()
    | first :: _ =>
      let symbol := Text.strip (Text.upper (if first.symbol = "" then symbolHint else first.symbol))
      if symbol = "" then pure ()
      else syncRoundtrip x env signalId (.ofRows symbol rows)

end Botik
