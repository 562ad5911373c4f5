import Botik.Main.Refresh

/-!
# Recovery on startup

`recover_positions_on_startup`: a fresh process replays the executions of the last
day from `executions_raw`, oldest first, then asks the exchange for those it does
not know. The replay adds up fills and nothing else: what the running process
does with a fill besides, such as dropping a residue, is not repeated.

## Main definitions

* `RecoveryEnv` — the clocks and answers a recovery sees
* `replayRow`, `recoverItem` — one stored and one listed execution
* `recoverPositionsOnStartup`
* `ExecutionRow.applied` — what a stored execution does to a position

## Main results

* `position_replayStored` — the replay is a fold over the rows of each symbol
* `recoverItem_of_seen` — a listed execution that was stored is skipped
-/

namespace Botik

open Program

/-- What the outside does during a recovery. -/
structure RecoveryEnv where
  faults : Faults
  /-- The query of `executions_raw` raises, which is only logged. -/
  queryFails : Bool
  utc : ℕ
  wallMs : ℤ
  clock : ℚ
  /-- The order in which a set of symbols is iterated. -/
  order : List String → List String
  executions : String → Except String ExecutionsReply
  wallet : Except String WalletReply

/-- 24 hours ago. -/
def RecoveryEnv.cutoffMs (env : RecoveryEnv) : ℤ := env.wallMs - 86400 * 1000

/-! ### Stored executions -/

/-- `seen_exec_ids.add(exec_id)`, here without a limit. -/
def seeExecution (execId : String) (w : World) : World :=
  { w with rt := { w.rt with seenExecIds := insert execId w.rt.seenExecIds } }

/-- Add one fill to the tracked position. -/
def replay (symbol : String) (side : Side) (qty price fee : ℚ) (feeCurrency : String)
    (w : World) : World :=
  let effective := effectiveQty symbol side qty fee feeCurrency
  if effective ≤ 0 then w
  else setPosition symbol (applyFill (w.rt.position symbol) side.text effective price) w

/-- One row of `executions_raw`. -/
def replayRow (execId : String) (row : ExecutionRow) (w : World) : World :=
  if execId = "" then w
  else if row.symbol = "" ∨ Text.truthy row.side = none ∨ row.execQty ≤ 0 then
    seeExecution execId w
  else
    match Side.ofText? (Text.orEmpty row.side) with
    | none => seeExecution execId w
    | some side =>
      replay row.symbol side row.execQty row.execPrice row.execFee
        (Text.upper (Text.orEmpty row.feeCurrency)) (seeExecution execId w)

/-- `WHERE exec_time_ms > ? ORDER BY exec_time_ms ASC`. -/
def recentExecutions (cutoffMs : ℤ) (db : LifecycleStore) : List (String × ExecutionRow) :=
  LifecycleStore.byExecTime (db.executionsRaw.entries.filter fun e => cutoffMs < e.2.execTimeMs)

/-- First step: replay the table. -/
def replayStored (env : RecoveryEnv) (w : World) : World :=
  if env.queryFails then w
  else (recentExecutions env.cutoffMs w.lifecycle).foldl (fun w e => replayRow e.1 e.2 w) w

/-! ### Listed executions -/

/-- A listed execution that was not stored. -/
def recoverFresh (symbol : String) (item : ExecutionItem) : RunM Unit := do
  let head ← fromExcept (readHead item)
  match head with
  | none => pure ()
  | some head => do
    let execFee ← fromExcept (floatField "execFee" item.execFee)
    modify (replay symbol head.side head.qty head.price execFee
      (Text.upper (Text.orEmpty item.feeCurrency)))

/-- One item of the list of a symbol. -/
def recoverItem (symbol : String) (item : ExecutionItem) : RunM Unit := do
  let w ← get
  if item.executionId ∈ w.rt.seenExecIds then pure ()
  else do
    modify (seeExecution item.executionId)
    recoverFresh symbol item

/-- The list of one symbol, oldest first; a failed call is skipped. -/
def recoverSymbol (env : RecoveryEnv) (symbol : String) : RunM Unit :=
  match env.executions symbol with
  | .error _ => pure ()
  | .ok answer =>
    if answer.reply.retCode = some 0 then each (recoverItem symbol) answer.list.reverse
    else pure ()

/-- The configured symbols and those with a replayed position. -/
def recoverySymbols (c : Config) (rt : Runtime) : List String :=
  (c.symbols ++ rt.tracked.filter fun s => 0 < |(rt.position s).qty|).eraseDups

/-- Second step: ask the exchange. -/
def recoverListed (x : Context) (env : RecoveryEnv) : RunM Unit :=
  match x.executor with
  | none => pure ()
  | some _ => do
    let w ← get
    each (recoverSymbol env) (env.order (recoverySymbols x.config w.rt))

/-! ### Wallet and age -/

/-- The row of a coin that is held but not tracked. -/
def recoveredHoldingRow (env : RecoveryEnv) (freeQty : ℚ) : HoldingRow where
  freeQty := freeQty
  lockedQty := 0
  avgEntryPrice := none
  holdReason := "unknown_recovered_from_exchange"
  sourceOfTruth := "startup_wallet_recovery"
  recoveredFromExchange := true
  strategyOwner := none
  autoSellAllowed := false
  updatedAtUtc := env.utc

/-- Import a balance of which less than half is tracked. -/
def importHolding (env : RecoveryEnv) (coin : String) (walletQty : ℚ) : RunM Unit := do
  let w ← get
  let symbol := coin ++ "USDT"
  if 0 < walletQty ∧ |(w.rt.position symbol).qty| < walletQty * (1 / 2) then
    write env.faults .spotHolding fun w => { w with
      spot := w.spot.upsertSpotHolding ⟨unified, symbol, coin⟩ (recoveredHoldingRow env walletQty) }
  else pure ()

/-- One coin of the wallet; the quote coins are skipped. -/
def importCoin (env : RecoveryEnv) (balance : CoinBalance) : RunM Unit := do
  let coin := Text.strip (Text.upper (Text.orEmpty balance.coin))
  if coin ∈ ["", "USDT", "USDC", "BUSD"] then pure ()
  else do
    let walletQty ← fromExcept (floatField "walletBalance" balance.walletBalance)
    importHolding env coin walletQty

/-- Third step: the wallet, whose exceptions are only logged. -/
def importWallet (x : Context) (env : RecoveryEnv) : RunM Unit :=
  match x.executor, env.wallet with
  | some _, .ok answer =>
    if answer.reply.retCode = some 0 then attempt (each (importCoin env) answer.coins)
    else pure ()
  | _, _ => pure ()

/-- A recovered position counts as opened now. -/
def markRecovered (c : Config) (env : RecoveryEnv) (w : World) (symbol : String) : World :=
  if positionFloor c w.rt symbol ≤ |(w.rt.position symbol).qty| ∧
      (w.rt.details symbol).openedAt = none then
    setDetails symbol
      (fun details => { details with openedAt := some env.clock, peakPnlBps := 0 }) w
  else w

/-- `recover_positions_on_startup`. -/
def recoverPositionsOnStartup (x : Context) (env : RecoveryEnv) : RunM Unit := do
  modify (replayStored env)
  recoverListed x env
  importWallet x env
  modify fun w => w.rt.tracked.foldl (markRecovered x.config env) w

/-! ### What a replay does to positions -/

/-- What a stored execution does to the position of its symbol. -/
def ExecutionRow.applied (row : ExecutionRow) (p : Position) : Position :=
  match Side.ofText? (Text.orEmpty row.side) with
  | none => p
  | some side =>
    let effective := effectiveQty row.symbol side row.execQty row.execFee
      (Text.upper (Text.orEmpty row.feeCurrency))
    if row.execQty ≤ 0 ∨ effective ≤ 0 then p
    else applyFill p side.text effective row.execPrice

/-- The position a list of stored executions adds up to, for a symbol. -/
def replayed (symbol : String) (rows : List (String × ExecutionRow)) : Position :=
  (rows.filter fun e => e.2.symbol = symbol).foldl (fun p e => e.2.applied p) .flat

section Positions

variable {symbol execId : String} {row : ExecutionRow} {w : World}

/-- A row without a side moves nothing. -/
theorem applied_of_sideless (h : Text.truthy row.side = none) (p : Position) :
    row.applied p = p := by
  have hside : Side.ofText? (Text.orEmpty row.side) = none := by
    cases hrow : row.side with
    | none => decide
    | some side =>
      have hempty : side = "" := by
        by_contra hne
        rw [hrow, Text.truthy, Option.filter_some, if_pos (decide_eq_true hne)] at h
        cases h
      subst hempty
      decide
  rw [ExecutionRow.applied, hside]

theorem position_replay (side : Side) (qty price fee : ℚ) (feeCurrency : String) :
    (replay symbol side qty price fee feeCurrency w).rt.position =
      Function.update w.rt.position symbol
        (if effectiveQty symbol side qty fee feeCurrency ≤ 0 then w.rt.position symbol
        else applyFill (w.rt.position symbol) side.text (effectiveQty symbol side qty fee feeCurrency)
          price) := by
  unfold replay
  dsimp only
  split_ifs with heffective
  · exact (Function.update_eq_self symbol w.rt.position).symm
  · rfl

/-- A stored execution moves the position of its symbol, and no other. -/
theorem position_replayRow (hid : execId ≠ "") (hsymbol : row.symbol ≠ "") :
    (replayRow execId row w).rt.position =
      Function.update w.rt.position row.symbol (row.applied (w.rt.position row.symbol)) := by
  have hself : row.applied (w.rt.position row.symbol) = w.rt.position row.symbol →
      w.rt.position = Function.update w.rt.position row.symbol
        (row.applied (w.rt.position row.symbol)) := by
    intro h
    rw [h, Function.update_eq_self]
  unfold replayRow
  rw [if_neg hid]
  split_ifs with hskip
  · -- a skipped row would move nothing either
    apply hself
    rcases hskip with h | h | h
    · exact absurd h hsymbol
    · exact applied_of_sideless h _
    · unfold ExecutionRow.applied
      split
      · rfl
      · exact if_pos (Or.inl h)
  · cases hside : Side.ofText? (Text.orEmpty row.side) with
    | none =>
      apply hself
      rw [ExecutionRow.applied, hside]
    | some side =>
      have hqty : ¬ row.execQty ≤ 0 := fun h => hskip (Or.inr (Or.inr h))
      dsimp only
      rw [position_replay, ExecutionRow.applied, hside]
      dsimp only
      simp only [hqty, false_or]
      rfl

theorem seenExecIds_replayRow (hid : execId ≠ "") :
    (replayRow execId row w).rt.seenExecIds = insert execId w.rt.seenExecIds := by
  unfold replayRow
  rw [if_neg hid]
  split_ifs
  · rfl
  · cases Side.ofText? (Text.orEmpty row.side) with
    | none => rfl
    | some side =>
      dsimp only [replay]
      split_ifs <;> rfl

/-- The replay of a list of rows, over the rows of each symbol. -/
theorem position_foldl_replayRow {rows : List (String × ExecutionRow)}
    (hnamed : ∀ e ∈ rows, e.1 ≠ "" ∧ e.2.symbol ≠ "") (symbol : String) :
    (rows.foldl (fun w e => replayRow e.1 e.2 w) w).rt.position symbol =
      (rows.filter fun e => e.2.symbol = symbol).foldl (fun p e => e.2.applied p)
        (w.rt.position symbol) := by
  induction rows generalizing w with
  | nil => rfl
  | cons e rows ih =>
    obtain ⟨hhead, htail⟩ := List.forall_mem_cons.mp hnamed
    rw [List.foldl_cons, ih htail, position_replayRow hhead.1 hhead.2]
    by_cases hsymbol : e.2.symbol = symbol
    · rw [List.filter_cons_of_pos (by simpa using hsymbol), List.foldl_cons, hsymbol,
        Function.update_self]
    · rw [List.filter_cons_of_neg (by simpa using hsymbol), Function.update_of_ne (Ne.symm hsymbol)]

/-- The ids of the replayed rows are seen. -/
theorem mem_seenExecIds_foldl_replayRow {rows : List (String × ExecutionRow)}
    (hnamed : ∀ e ∈ rows, e.1 ≠ "") (h : execId ∈ w.rt.seenExecIds ∨ execId ∈ rows.map Prod.fst) :
    execId ∈ (rows.foldl (fun w e => replayRow e.1 e.2 w) w).rt.seenExecIds := by
  induction rows generalizing w with
  | nil => exact h.resolve_right (List.not_mem_nil)
  | cons e rows ih =>
    obtain ⟨hhead, htail⟩ := List.forall_mem_cons.mp hnamed
    apply ih htail
    rw [seenExecIds_replayRow hhead, Finset.mem_insert]
    rw [List.map_cons, List.mem_cons] at h
    tauto

/-- A listed execution that was replayed from the table is skipped. -/
theorem recoverItem_of_seen {item : ExecutionItem} (h : item.executionId ∈ w.rt.seenExecIds) :
    recoverItem symbol item w = .ok () w := by
  rw [recoverItem, bind_of_ok (get_run w), if_pos h]
  rfl

end Positions

/-! ### What the other steps leave -/

theorem keeps_importWallet (x : Context) (env : RecoveryEnv) :
    Keeps (fun w => w.rt.position) (importWallet x env) := by
  unfold importWallet
  split
  · refine moves_ite (fun _ => moves_attempt (moves_each (fun balance => ?_) _)) fun _ => moves_pure _
    unfold importCoin
    refine moves_ite (fun _ => moves_pure _) fun _ => ?_
    refine moves_bind (moves_fromExcept _) fun walletQty => ?_
    unfold importHolding
    refine moves_bind moves_get fun w => ?_
    exact moves_ite (fun _ => moves_write fun _ => rfl) fun _ => moves_pure _
  · exact moves_pure _

theorem position_markRecovered (c : Config) (env : RecoveryEnv) (symbols : List String)
    (w : World) : (symbols.foldl (markRecovered c env) w).rt.position = w.rt.position := by
  induction symbols generalizing w with
  | nil => rfl
  | cons symbol symbols ih =>
    rw [List.foldl_cons, ih, markRecovered]
    split_ifs <;> rfl

end Botik
