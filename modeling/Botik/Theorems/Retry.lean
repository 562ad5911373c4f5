import Botik.Main.RefreshFacts
import Botik.Main.RefreshRaises

/-!
# A failed ingestion and its retry

The id of an execution is marked as seen before anything is done with it, so a
later delivery of the same execution does nothing, whatever the first one left
out. What an exception leaves is what stays; it is the whole effect exactly if it
was raised after the row of `fills`, which is the last of the effects. A failing commit
leaves the row in the open transaction of the connection, and what becomes of the row is
what becomes of the transaction.

## Main definitions

* `AfterFill` — the points at which an exception comes after the row of `fills`
* `Settled` — the position once a fill is applied and followed up
* `AppliedOnce` — the effect of applying an execution exactly once

## Main results

* `settled_of_movePosition` — a fill that passes its checks leaves the position
  settled
* `retried_iff` — when the retry makes the effect that of one application
* `failed_fill_lost` — an execution that is lost although it is delivered again
-/

namespace Botik

open Program Runs

/-- The points of an item after the row of `fills`: the commit of the row itself, if
its open transaction is committed later, the status of the order, and the outcome of
the signal. -/
def AfterFill (faults : Faults) : Exn → Prop
  | .database .fill => faults .fill = some .atCommit
  | .database .orderStatus => True
  | .database (.sync _) => True
  | _ => False

/-- The position after a fill: the sum, or none where the fill left too little or a
due protection call closed it. -/
def Settled (x : Context) (symbol : String) (d : Delivery) (fill : Fill) (w w' : World) : Prop :=
  let new := moved (w.rt.position symbol) fill
  (MayReset x w.rt symbol d fill new → w'.rt.position symbol = .flat) ∧
    (¬ MayReset x w.rt symbol d fill new → w'.rt.position symbol = new)

/-- Between the two states the execution took its effect exactly once: the position
is settled, its row is in `executions_raw`, and one row was added to `fills`. -/
def AppliedOnce (x : Context) (symbol : String) (d : Delivery) (w w' : World) : Prop :=
  ∃ fill feeRate, d.read symbol = .ok (some fill) ∧
    optionalFloatField "feeRate" d.item.feeRate = .ok feeRate ∧
    Settled x symbol d fill w w' ∧
    w'.lifecycle.executionsRaw = w.lifecycle.executionsRaw.insertIfAbsent d.execId
      (executionRow symbol d (signalOf d w) fill feeRate) ∧
    w'.legacy.fills = w.legacy.fills ++ [fillRow symbol d fill]

variable {x : Context} {symbol : String} {d : Delivery} {fill : Fill} {feeRate : Option ℚ}
  {signalId : Option String} {w : World}

/-! ### Stages that return -/

/-- An accepted emergency close that returns leaves no position. -/
theorem position_of_applyPlan {executor : Executor} {env : StepEnv} {positionQty entryPrice : ℚ}
    {plan : FuturesProtectionPlan} {phase : ProtectionStatus} {w' : World}
    (hexecutor : x.executor = some executor)
    (hclosed : EmergencyClosed x env (w.rt.details symbol) positionQty entryPrice)
    (hok : applyPlan x executor env symbol positionQty entryPrice plan phase w = .ok () w') :
    w'.rt.position symbol = .flat := by
  obtain ⟨-, hsupported, ⟨executor', hexecutor', hcallable⟩, hrefused, haccepted⟩ := hclosed
  rw [hexecutor] at hsupported hexecutor'
  obtain rfl : executor = executor' := Option.some.inj hexecutor'
  have hattempt : attemptProtection x executor env (Text.upper symbol)
      (sideOfQty positionQty).text = .ok ⟨false, none⟩ := by
    simp [attemptProtection, hsupported, hcallable, hrefused]
  unfold applyPlan at hok
  obtain ⟨_, w₁, -, hok⟩ := bind_eq_ok hok
  rw [hattempt, fromExcept_ok, bind_of_ok (pure_run _ _)] at hok
  -- the close is sent and accepted, which resets the symbol
  obtain ⟨_, w₂, hclose, hok⟩ := bind_eq_ok hok
  have hreset : w₂.rt.position = Function.update w₁.rt.position symbol .flat := by
    have hmust : (ProtectionAttempt.mk false none).mustClose = true := rfl
    rw [closeIfUnstoppable, if_pos hmust, emergencyClose, bind_of_ok (modify_run _ _),
      if_pos haccepted, modify_run] at hclose
    cases hclose
    rfl
  have hrest : Idle False symbol w₂ w' := by
    refine Moves.of_ok ?_ hok
    refine moves_bind (moves_idle_writeStatus _ _ _ _ _) fun _ => ?_
    exact moves_idle_of_quiet (moves_quiet_auditFutures _ _ _)
  rw [hrest.position_eq, hreset, Function.update_self]

/-- The same for the whole call. -/
theorem position_of_protectPosition {executor : Executor} {env : StepEnv}
    {positionQty entryPrice : ℚ} {w' : World} (hexecutor : x.executor = some executor)
    (hclosed : EmergencyClosed x env (w.rt.details symbol) positionQty entryPrice)
    (hok : protectPosition x executor env symbol positionQty entryPrice w = .ok () w') :
    w'.rt.position symbol = .flat := by
  unfold protectPosition at hok
  obtain ⟨_, w₁, hnote, hok⟩ := bind_eq_ok hok
  cases hnote
  obtain ⟨currentStatus, w₂, hread, hok⟩ := bind_eq_ok hok
  have hw₂ : w₂.rt.details = w.rt.details := by
    rcases read_run_cases env.faults (.protection .currentStatus) (currentProtectionStatus
      (runtimeKey symbol (sideOfQty positionQty))) { w with rt := { w.rt with
        lastProtectionApplyTs :=
          Function.update w.rt.lastProtectionApplyTs symbol env.protectionClock } } with h | h
    · rw [h] at hread
      cases hread
      rfl
    · rw [h] at hread
      cases hread
  rw [bind_of_ok (get_run w₂)] at hok
  dsimp only at hok
  obtain ⟨plan, hplan⟩ := Option.isSome_iff_exists.mp hclosed.planned
  rw [hw₂, hplan] at hok
  exact position_of_applyPlan hexecutor (hw₂ ▸ hclosed) hok

/-- A guard that returns has closed the position if it was to. -/
theorem position_of_guardPosition {new : Position} {w' : World}
    (hdue : ProtectionDue x d.env w.rt symbol new.qty (entryPriceOr new fill.price))
    (hclosed : EmergencyClosed x d.env (w.rt.details symbol) new.qty (entryPriceOr new fill.price))
    (hok : guardPosition x d.env symbol fill new true w = .ok () w') :
    w'.rt.position symbol = .flat := by
  obtain ⟨executor, hexecutor⟩ := Option.isSome_iff_exists.mp hdue.2.1
  rw [guardPosition, hdue.1] at hok
  dsimp only at hok
  rw [if_pos rfl, ensureFuturesProtection, bind_of_ok (get_run w), hexecutor] at hok
  dsimp only at hok
  rw [if_pos hdue] at hok
  exact position_of_protectPosition hexecutor hclosed hok

/-- Settling a flat position that returns has reset it. -/
theorem position_of_settleFlat {env : StepEnv} {old : Position} {w' : World}
    (hok : settleFlat x env symbol signalId old fill w = .ok () w') :
    w'.rt.position symbol = .flat := by
  unfold settleFlat at hok
  obtain ⟨_, w₁, -, hok⟩ := bind_eq_ok hok
  obtain ⟨_, w₂, -, hok⟩ := bind_eq_ok hok
  cases hok
  rw [position_resetSymbolRuntimeState, Function.update_self]

/-- Following an effective position leaves it. -/
theorem position_followPosition_true {env : StepEnv} {old : Position} :
    Keeps (fun w => w.rt.position) (followPosition x env symbol signalId fill old true) := by
  unfold followPosition
  refine moves_bind moves_get fun w => ?_
  refine moves_ite (fun _ => moves_modify fun _ => rfl) fun _ => ?_
  exact moves_ite (fun hnot => absurd rfl hnot) fun _ => moves_pure _

/-- A fill that passes its checks leaves the position settled. -/
theorem settled_of_movePosition {w' : World}
    (hok : movePosition x symbol d signalId fill w = .ok () w') :
    Settled x symbol d fill w w' := by
  unfold movePosition at hok
  rw [bind_of_ok (get_run w)] at hok
  dsimp only at hok
  rw [bind_of_ok (modify_run _ _)] at hok
  obtain ⟨_, w₁, hguard, hfollow⟩ := bind_eq_ok hok
  let new := moved (w.rt.position symbol) fill
  by_cases heff : IsEffective x.config w.rt symbol new.qty fill.price
  · -- effective: the guard decides, and what follows leaves the position
    have hdecide : decide (IsEffective x.config w.rt symbol new.qty fill.price) = true :=
      decide_eq_true heff
    rw [show applyFill (w.rt.position symbol) fill.side.text fill.effectiveQty fill.price = new
      from rfl, hdecide] at hguard hfollow
    have hsame : w'.rt.position = w₁.rt.position :=
      Moves.of_ok position_followPosition_true hfollow
    rw [Settled, hsame]
    constructor
    · rintro (hsmall | ⟨hdue, hclosed⟩)
      · exact absurd heff hsmall
      · exact position_of_guardPosition (w := setPosition symbol new w) hdue hclosed hguard
    · intro hstay
      have hidle : Idle False symbol (setPosition symbol new w)
          (after (guardPosition x d.env symbol fill new true) (setPosition symbol new w)) :=
        idle_guardPosition fun hdue hclosed => hstay (Or.inr ⟨hdue, hclosed⟩)
      rw [after_of_ok hguard] at hidle
      rw [hidle.position_eq, position_setPosition, Function.update_self]
  · -- not effective: the position is settled
    have hdecide : decide (IsEffective x.config w.rt symbol new.qty fill.price) = false :=
      decide_eq_false heff
    rw [show applyFill (w.rt.position symbol) fill.side.text fill.effectiveQty fill.price = new
      from rfl, hdecide] at hfollow
    rw [followPosition, bind_of_ok (get_run w₁), if_neg (by simp), if_pos (by simp)] at hfollow
    exact ⟨fun _ => position_of_settleFlat hfollow, fun hstay => absurd (Or.inl heff) hstay⟩

/-! ### Where the exception comes from -/

theorem raisesOnly_movePosition :
    RaisesOnly (fun e => ¬ AfterFill d.env.faults e) (movePosition x symbol d signalId fill) := by
  unfold movePosition
  refine raisesOnly_bind (raisesOnly_get _) fun w => ?_
  refine raisesOnly_bind (raisesOnly_modify _ _) fun _ => ?_
  refine raisesOnly_bind ?_ fun _ => ?_
  · exact raisesOnly_guardPosition (fun _ _ => id) (fun _ => id) (fun _ => id) _ _
  · exact raisesOnly_followPosition (fun _ _ => id) (fun _ => id) (fun _ => id) _ _

/-- A recorded item raises before its row of `fills`, which is then missing, or
after it, when all the rest is done. -/
theorem applyRecorded_error {e : Exn} {w₁ : World}
    (h : applyRecorded x symbol d signalId fill w = .error e w₁) :
    (¬ AfterFill d.env.faults e ∧ w₁.legacy.fills = w.legacy.fills) ∨
      AfterFill d.env.faults e ∧ Settled x symbol d fill w w₁ ∧
        w₁.lifecycle.executionsRaw = w.lifecycle.executionsRaw ∧
        w₁.legacy.fills = w.legacy.fills ++ [fillRow symbol d fill] := by
  have hmove : Idle True symbol (setPosition symbol (moved (w.rt.position symbol) fill) w)
      (after (movePosition x symbol d signalId fill) w) := idle_movePosition signalId fun _ => trivial
  unfold applyRecorded at h
  -- moving the position writes no row of `fills`
  rcases bind_eq_error h with h | ⟨_, w₂, hmoved, h⟩
  · rw [after_of_error h] at hmove
    exact Or.inl ⟨raisesOnly_movePosition _ _ _ h, congrArg Records.fills hmove.1⟩
  have hsettled := settled_of_movePosition hmoved
  rw [after_of_ok hmoved] at hmove
  have hfills₂ : w₂.legacy.fills = w.legacy.fills := congrArg Records.fills hmove.1
  have hraw₂ : w₂.lifecycle.executionsRaw = w.lifecycle.executionsRaw :=
    congrArg Records.executionsRaw hmove.1
  -- neither does the order event
  rcases bind_eq_error h with h | ⟨_, w₃, hevent, h⟩
  · refine Or.inl ⟨?_, ?_⟩
    · exact raisesOnly_recordOrderEvent (P := fun e => ¬ AfterFill d.env.faults e) (fun _ => id)
        (fun _ => id) _ _ _ h
    · rw [((moves_quiet_recordOrderEvent symbol d signalId fill).of_error h).fills, hfills₂]
  have hquiet : Quiet w₂ w₃ := (moves_quiet_recordOrderEvent symbol d signalId fill).of_ok hevent
  have hsettled₃ : Settled x symbol d fill w w₃ := by
    rw [Settled, hquiet.rt]
    exact hsettled
  rcases bind_eq_error h with h | ⟨_, w₄, hfill, h⟩
  · -- the row itself: only a failing commit leaves it in, unless it is rolled back
    unfold recordFill write at h
    cases hfault : d.env.faults .fill with
    | none => simp [hfault] at h
    | some fault =>
      cases fault with
      | atExecute =>
        simp only [hfault, throw_run, EStateM.Result.error.injEq] at h
        obtain ⟨rfl, rfl⟩ := h
        refine Or.inl ⟨?_, by rw [hquiet.fills, hfills₂]⟩
        simp [AfterFill, hfault]
      | rolledBack =>
        simp only [hfault, throw_run, EStateM.Result.error.injEq] at h
        obtain ⟨rfl, rfl⟩ := h
        refine Or.inl ⟨?_, by rw [hquiet.fills, hfills₂]⟩
        simp [AfterFill, hfault]
      | atCommit =>
        simp only [hfault, bind_of_ok (modify_run _ _), throw_run,
          EStateM.Result.error.injEq] at h
        obtain ⟨rfl, rfl⟩ := h
        refine Or.inr ⟨hfault, hsettled₃, hquiet.executionsRaw.trans hraw₂, ?_⟩
        rw [← hfills₂, ← hquiet.fills]
        rfl
  · -- everything is there; the rest is bookkeeping
    have hrow : w₄ = addFill symbol d fill w₃ := by
      unfold recordFill write at hfill
      cases hfault : d.env.faults .fill with
      | none =>
        simp only [hfault, modify_run, EStateM.Result.ok.injEq] at hfill
        exact hfill.2.symm
      | some fault => cases fault <;> simp [hfault, bind_of_ok (modify_run _ _)] at hfill
    have hrest : Quiet w₄ w₁ := (moves_quiet_afterFill symbol).of_error h
    refine Or.inr ⟨?_, ?_, ?_, ?_⟩
    · exact raisesOnly_afterFill (P := AfterFill d.env.faults) (fun _ => trivial)
        (fun _ _ => trivial) _ _ _ h
    · rw [Settled, hrest.rt, hrow]
      exact hsettled₃
    · rw [hrest.executionsRaw, hrow]
      exact hquiet.executionsRaw.trans hraw₂
    · rw [hrest.fills, hrow, ← hfills₂, ← hquiet.fills]
      rfl

/-- A fresh item that is not recorded raises in one of its first statements, and
has no row in `fills`. -/
theorem ingestFresh_error {e : Exn} {w₁ : World} (h : ingestFresh x symbol d w = .error e w₁)
    (hrec : ¬ ∃ fill feeRate, d.Recorded symbol fill feeRate) :
    ¬ AfterFill d.env.faults e ∧ w₁.legacy.fills = w.legacy.fills := by
  have hstuck := (recorded_or_stuck x symbol d w).resolve_left hrec
  rw [after_of_error h] at hstuck
  refine ⟨?_, congrArg LegacyStore.fills hstuck.legacy_eq⟩
  have hvalue : ∀ e, (∃ field, e = Exn.value field) → ¬ AfterFill d.env.faults e := by
    rintro e ⟨field, rfl⟩
    exact id
  unfold ingestFresh at h
  rcases bind_eq_error h with h | ⟨head, w₂, hhead, h⟩
  · exact raisesOnly_fromExcept (P := fun e => ¬ AfterFill d.env.faults e)
      (fun e he => hvalue e (exn_of_readHead he)) _ _ _ h
  obtain ⟨hreadHead, rfl⟩ := fromExcept_eq_ok hhead
  cases head with
  | none => cases h
  | some head =>
    rcases bind_eq_error h with h | ⟨sid, w₃, hlink, h⟩
    · exact raisesOnly_signalIdOfLink (P := fun e => ¬ AfterFill d.env.faults e)
        (fun _ => id) _ _ _ h
    rcases bind_eq_error h with h | ⟨fill, w₄, hfill, h⟩
    · exact raisesOnly_fromExcept (P := fun e => ¬ AfterFill d.env.faults e)
        (fun e he => hvalue e (exn_of_readFill he)) _ _ _ h
    obtain ⟨hreadFill, rfl⟩ := fromExcept_eq_ok hfill
    cases fill with
    | none => cases h
    | some fill =>
      rcases bind_eq_error h with h | ⟨_, w₅, hrecord, h⟩
      · exact raisesOnly_recordExecution (P := fun e => ¬ AfterFill d.env.faults e)
          (fun _ => id) (fun _ => id) _ _ _ h
      -- all four returned, so the item was recorded
      · refine absurd ⟨fill, ?_⟩ hrec
        have hread : d.read symbol = .ok (some fill) := by
          simp [Delivery.read, hreadHead, hreadFill, bind, Except.bind]
        rcases recordExecution_cases hread sid w₄ with
          ⟨feeRate, hrate, hevent⟩ | ⟨e', w', herror, -⟩
        · refine ⟨feeRate, hread, hrate, ?_, hevent⟩
          refine (signalIdOfLink_cases d w₂).resolve_right ?_
          rintro ⟨e', herror⟩
          rw [hlink] at herror
          cases herror
        · rw [hrecord] at herror
          cases herror

/-! ### The retry -/

theorem not_appliedOnce_of_fills_eq {w' : World} (h : w'.legacy.fills = w.legacy.fills) :
    ¬ AppliedOnce x symbol d w w' := by
  rintro ⟨fill, feeRate, -, -, -, -, hfills⟩
  rw [h] at hfills
  simpa using congrArg List.length hfills

/-- What an item that raised leaves is its whole effect exactly if it raised after
the row of `fills`. -/
theorem appliedOnce_iff_of_error {e : Exn} {w₁ : World} (hfresh : d.execId ∉ w.rt.seenExecIds)
    (h : ingest x symbol d w = .error e w₁) :
    AppliedOnce x symbol d w w₁ ↔ AfterFill d.env.faults e := by
  have hfreshItem : ingestFresh x symbol d (markSeen d.execId w) = .error e w₁ := by
    rw [← h, ingest, bind_of_ok (get_run w), if_neg hfresh, bind_of_ok (modify_run _ _)]
  by_cases hrec : ∃ fill feeRate, d.Recorded symbol fill feeRate
  · obtain ⟨fill, feeRate, hrec⟩ := hrec
    rw [ingestFresh_of_recorded hrec] at hfreshItem
    rcases applyRecorded_error hfreshItem with ⟨hbefore, hfills⟩ | ⟨hafter, hsettled, hraw, hfills⟩
    · exact iff_of_false (not_appliedOnce_of_fills_eq hfills) hbefore
    · exact iff_of_true ⟨fill, feeRate, hrec.read_eq, hrec.feeRate_eq, hsettled, hraw, hfills⟩ hafter
  · obtain ⟨hbefore, hfills⟩ := ingestFresh_error hfreshItem hrec
    exact iff_of_false (not_appliedOnce_of_fills_eq hfills) hbefore

/-- An execution whose processing raised, delivered again after any other work, with
its id still remembered: the second delivery does nothing, and the effect is that of
one application exactly if the exception came after the row of `fills`. -/
theorem retried_iff (x : Context) (symbol : String) (d d' : Delivery) (e : Exn) (w w₁ : World)
    (us : List Work) (hfresh : d.execId ∉ w.rt.seenExecIds)
    (hraised : ingest x symbol d w = .error e w₁) (hsame : d'.execId = d.execId)
    (hseen : d.execId ∈ (run (step x) us w₁).rt.seenExecIds) :
    let w₂ := run (step x) us w₁
    step x (.item symbol d') w₂ = w₂ ∧
      (AppliedOnce x symbol d w w₁ ↔ AfterFill d.env.faults e) := by
  intro w₂
  refine ⟨step_of_seen ?_, appliedOnce_iff_of_error hfresh hraised⟩
  rw [hsame]
  exact hseen

/-! ### A lost execution -/

/-- A buy during which one statement raises. -/
def interruptedBuy (site : Site) (fault : Fault) : Delivery where
  item := plainItem "e1" "Buy" "1" "100"
  env := { calmEnv with faults := fun s => if s = site then some fault else none }

/-- The raw execution could not be written: the buy is delivered again, and nothing
happens, where one undisturbed delivery applies it. -/
theorem failed_fill_lost :
    let w := World.initial spotMarket.config
    let buy := plainDelivery "e1" "Buy" "1" "100"
    let failing := interruptedBuy .executionEvent .atExecute
    let once := runRefreshes spotMarket [[Fetch.single "AAAUSDT" buy]] w
    let retried := runRefreshes spotMarket
      [[Fetch.single "AAAUSDT" failing], [Fetch.single "AAAUSDT" buy]] w
    (once.rt.position "AAAUSDT" = ⟨1, 100⟩ ∧ once.legacy.fills.length = 1 ∧
      once.lifecycle.executionsRaw.entries.length = 1) ∧
    retried.rt.position "AAAUSDT" = .flat ∧ retried.legacy.fills.length = 0 ∧
      retried.lifecycle.executionsRaw.entries.length = 0 := by
  decide +kernel

/-- Where only the commit of the row of `fills` fails, the buy is whole if the open
transaction is committed later, and lost if it is rolled back; a sale comes in between,
and the retry changes nothing. -/
theorem committedBuy_retried :
    let w := World.initial spotMarket.config
    let between : List Work :=
      [.item "AAAUSDT" (plainDelivery "e2" "Sell" "1" "101"), .floors "AAAUSDT"]
    let again := Work.item "AAAUSDT" (plainDelivery "e1" "Buy" "1" "100")
    let kept := interruptedBuy .fill .atCommit
    let lost := interruptedBuy .fill .rolledBack
    let w₁ := step spotMarket (.item "AAAUSDT" kept) w
    let w₂ := step spotMarket (.item "AAAUSDT" lost) w
    (step spotMarket again (run (step spotMarket) between w₁) =
        run (step spotMarket) between w₁ ∧ AppliedOnce spotMarket "AAAUSDT" kept w w₁) ∧
      step spotMarket again (run (step spotMarket) between w₂) =
        run (step spotMarket) between w₂ ∧ ¬ AppliedOnce spotMarket "AAAUSDT" lost w w₂ := by
  intro w between again kept lost w₁ w₂
  have hkept : ingest spotMarket "AAAUSDT" kept w = .error (.database .fill) w₁ :=
    eq_error_of_raised (by decide +kernel)
  have hlost : ingest spotMarket "AAAUSDT" lost w = .error (.database .fill) w₂ :=
    eq_error_of_raised (by decide +kernel)
  have hretry := retried_iff spotMarket "AAAUSDT" kept (plainDelivery "e1" "Buy" "1" "100") _ w w₁
    between (Finset.notMem_empty _) hkept rfl (by decide +kernel)
  have hretry' := retried_iff spotMarket "AAAUSDT" lost (plainDelivery "e1" "Buy" "1" "100") _ w
    w₂ between (Finset.notMem_empty _) hlost rfl (by decide +kernel)
  refine ⟨⟨hretry.1, hretry.2.mpr rfl⟩, hretry'.1, fun happlied => ?_⟩
  have hafter : AfterFill lost.env.faults (.database .fill) := hretry'.2.mp happlied
  cases hafter

end Botik
