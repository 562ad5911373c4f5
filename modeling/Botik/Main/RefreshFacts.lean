import Botik.Main.RefreshFrames

/-!
# What one delivery can do

A delivered item is dropped because its id was seen, or it gets stuck before its
raw execution is recorded, or it is recorded and its fill applied. These are the
only ways the records and positions change; every later result about runs goes
through the lemmas of this file and never unfolds the code of an item.

## Main definitions

* `Delivery.read` — the complete reading of an item
* `Delivery.Recorded` — the item gets past the recording of its raw execution
* `recordedWorld`, `moved` — the state there, and the position after the fill
* `OnlyAdds` — a fill after which nothing is reset

## Main results

* `step_of_seen`, `seenExecIds_step`
* `step_cases_of_fresh` — a fresh item is recorded or gets stuck
* `step_cases_of_recorded`, `position_step_of_recorded` — the position is moved,
  and then at most reset
* `position_of_onlyAdds` — the sum, where nothing is reset
* `fills_step`, `executionsRaw_step_of_recorded`, `floors_step`
-/

namespace Botik

open Program Runs

/-- The reading of an item, without the database access in its middle. -/
def Delivery.read (symbol : String) (d : Delivery) : Except Exn (Option Fill) := do
  match ← readHead d.item with
  | none => return none
  | some head => readFill symbol d.env.wallMs d.item head

/-- Nothing raises up to and including the recording of the raw execution. -/
structure Delivery.Recorded (symbol : String) (d : Delivery) (fill : Fill)
    (feeRate : Option ℚ) : Prop where
  read_eq : d.read symbol = .ok (some fill)
  feeRate_eq : optionalFloatField "feeRate" d.item.feeRate = .ok feeRate
  signalId_ok : Text.truthy d.item.orderLinkId ≠ none → d.env.faults .signalId = none
  executionEvent_ok : d.env.faults .executionEvent = none

/-- The signal an item belongs to. -/
def signalOf (d : Delivery) (w : World) : Option String :=
  (Text.truthy d.item.orderLinkId).bind fun link =>
    w.lifecycle.getSignalIdForOrderLink (some link)

/-- The state once the raw execution is recorded. -/
def recordedWorld (symbol : String) (d : Delivery) (fill : Fill) (feeRate : Option ℚ)
    (w : World) : World :=
  addExecution symbol d (signalOf d w) fill feeRate (markSeen d.execId w)

/-- The position of a symbol after one more fill. -/
def moved (p : Position) (fill : Fill) : Position :=
  applyFill p fill.side.text fill.effectiveQty fill.price

variable {x : Context} {symbol : String} {d : Delivery} {fill : Fill} {feeRate : Option ℚ}
  {w : World}

theorem moved_qty (p : Position) (hprice : 0 < fill.price) :
    (moved p fill).qty = p.qty + fill.signedQty := by
  rw [moved, applyFill_of_valid p (Side.ofText?_text fill.side) fill.effectiveQty_pos hprice,
    Position.fill_qty]
  rfl

/-! ### Seen items -/

theorem step_of_seen (h : d.execId ∈ w.rt.seenExecIds) : step x (.item symbol d) w = w := by
  simp [step, work, ingest, h]

/-- After the mark, a fresh item is processed. -/
theorem step_of_fresh (h : d.execId ∉ w.rt.seenExecIds) :
    step x (.item symbol d) w = after (ingestFresh x symbol d) (markSeen d.execId w) := by
  simp [step, work, ingest, h]

/-! ### Recorded items -/

theorem signalIdOfLink_run (hlink : Text.truthy d.item.orderLinkId ≠ none →
    d.env.faults .signalId = none) :
    signalIdOfLink d.env d.item.orderLinkId w = .ok (signalOf d w) w := by
  unfold signalIdOfLink signalOf
  cases hl : Text.truthy d.item.orderLinkId with
  | none => rfl
  | some link => exact read_run_of_none (hlink (by simp [hl])) w

/-- A readable item was readable in its head. -/
theorem exists_head_of_read (h : d.read symbol = .ok (some fill)) :
    ∃ head, readHead d.item = .ok (some head) ∧
      readFill symbol d.env.wallMs d.item head = .ok (some fill) := by
  unfold Delivery.read at h
  cases hhead : readHead d.item with
  | error e => simp [hhead, bind, Except.bind] at h
  | ok head =>
    cases head with
    | none => simp [hhead, bind, Except.bind, pure, Except.pure] at h
    | some head => exact ⟨head, rfl, by simpa [hhead, bind, Except.bind] using h⟩

theorem recordExecution_run (hrec : d.Recorded symbol fill feeRate) (signalId : Option String) :
    recordExecution symbol d signalId fill w =
      .ok () (addExecution symbol d signalId fill feeRate w) := by
  unfold recordExecution
  rw [hrec.feeRate_eq, fromExcept_ok, bind_of_ok (pure_run feeRate w),
    write_of_none hrec.executionEvent_ok]
  rfl

/-- A fresh, recorded item goes on from the recorded state. -/
theorem ingestFresh_of_recorded (hrec : d.Recorded symbol fill feeRate) :
    ingestFresh x symbol d (markSeen d.execId w) =
      applyRecorded x symbol d (signalOf d w) fill (recordedWorld symbol d fill feeRate w) := by
  obtain ⟨head, hhead, hfill⟩ := exists_head_of_read hrec.read_eq
  unfold ingestFresh
  rw [hhead, fromExcept_ok, bind_of_ok (pure_run (some head) _)]
  dsimp only
  rw [bind_of_ok (signalIdOfLink_run hrec.signalId_ok), hfill, fromExcept_ok,
    bind_of_ok (pure_run (some fill) _)]
  exact bind_of_ok (recordExecution_run hrec _)

theorem step_of_recorded (hfresh : d.execId ∉ w.rt.seenExecIds)
    (hrec : d.Recorded symbol fill feeRate) :
    step x (.item symbol d) w =
      after (applyRecorded x symbol d (signalOf d w) fill)
        (recordedWorld symbol d fill feeRate w) := by
  rw [step_of_fresh hfresh, after, ingestFresh_of_recorded hrec]
  rfl

/-! ### The effect of a recorded item -/

/-- Why a recorded fill may leave the symbol without a position: it is not
effective any more, or a due protection call closed it. -/
def MayReset (x : Context) (rt : Runtime) (symbol : String) (d : Delivery) (fill : Fill)
    (new : Position) : Prop :=
  ¬ IsEffective x.config rt symbol new.qty fill.price ∨
    (ProtectionDue x d.env rt symbol new.qty (entryPriceOr new fill.price) ∧
      EmergencyClosed x d.env (rt.details symbol) new.qty (entryPriceOr new fill.price))

/-- Moving the position: the new position is stored, then guarded and followed. -/
theorem after_movePosition {effective : Bool} (signalId : Option String)
    (heff : decide (IsEffective x.config w.rt symbol (moved (w.rt.position symbol) fill).qty
      fill.price) = effective) :
    after (movePosition x symbol d signalId fill) w =
      after (do
        guardPosition x d.env symbol fill (moved (w.rt.position symbol) fill) effective
        followPosition x d.env symbol signalId fill (w.rt.position symbol) effective)
        (setPosition symbol (moved (w.rt.position symbol) fill) w) := by
  subst heff
  unfold movePosition
  rw [after_get_bind]
  dsimp only
  rw [after_modify_bind]
  rfl

theorem idle_movePosition {c : Prop} (signalId : Option String)
    (hc : MayReset x w.rt symbol d fill (moved (w.rt.position symbol) fill) → c) :
    Idle c symbol (setPosition symbol (moved (w.rt.position symbol) fill) w)
      (after (movePosition x symbol d signalId fill) w) := by
  let new := moved (w.rt.position symbol) fill
  have hguard : Idle c symbol (setPosition symbol new w) (after (guardPosition x d.env symbol fill
      new (decide (IsEffective x.config w.rt symbol new.qty fill.price))) (setPosition symbol new w)) :=
    idle_guardPosition fun hdue hclosed => hc (Or.inr ⟨hdue, hclosed⟩)
  rw [after_movePosition signalId rfl]
  rcases after_bind_cases (guardPosition x d.env symbol fill new
    (decide (IsEffective x.config w.rt symbol new.qty fill.price))) _ (setPosition symbol new w) with
    h | ⟨_, _, h⟩
  · exact h ▸ hguard
  · refine h ▸ trans_of (Idle c symbol) hguard ?_
    exact moves_idle_followPosition (fun heff => hc (Or.inl (of_decide_eq_false heff))) _

/-- A recorded fill first moves the position, may then reset the symbol, and adds
its row to `fills` if it gets that far. -/
theorem applyRecorded_cases {c : Prop} (signalId : Option String)
    (hc : MayReset x w.rt symbol d fill (moved (w.rt.position symbol) fill) → c) :
    ∃ w₂, Idle c symbol (setPosition symbol (moved (w.rt.position symbol) fill) w) w₂ ∧
      (after (applyRecorded x symbol d signalId fill) w = w₂ ∨
        Idle False symbol (addFill symbol d fill w₂)
          (after (applyRecorded x symbol d signalId fill) w)) := by
  have hmove := idle_movePosition signalId hc
  unfold applyRecorded
  rcases after_bind_cases (movePosition x symbol d signalId fill) _ w with h | ⟨_, _, h⟩
  · exact ⟨_, hmove, Or.inl h⟩
  rw [h]
  have hevent := trans_of (Idle c symbol) hmove
    (moves_idle_of_quiet (moves_quiet_recordOrderEvent symbol d signalId fill) _)
  rcases after_bind_cases (recordOrderEvent symbol d signalId fill) _
    (after (movePosition x symbol d signalId fill) w) with h | ⟨_, _, h⟩
  · exact ⟨_, hevent, Or.inl h⟩
  rw [h]
  refine ⟨_, hevent, ?_⟩
  generalize after (recordOrderEvent symbol d signalId fill)
    (after (movePosition x symbol d signalId fill) w) = w₂
  unfold recordFill write
  split
  · exact Or.inr (moves_idle_of_quiet (moves_quiet_afterFill symbol) (addFill symbol d fill w₂))
  · exact Or.inl rfl
  · exact Or.inr (refl_of (Idle False symbol) _)
  · exact Or.inl rfl

/-- The same, from the state in which the item was found. -/
theorem step_cases_of_recorded (hfresh : d.execId ∉ w.rt.seenExecIds)
    (hrec : d.Recorded symbol fill feeRate) :
    let new := moved (w.rt.position symbol) fill
    ∃ w₂, Idle (MayReset x w.rt symbol d fill new) symbol
        (setPosition symbol new (recordedWorld symbol d fill feeRate w)) w₂ ∧
      (step x (.item symbol d) w = w₂ ∨
        Idle False symbol (addFill symbol d fill w₂) (step x (.item symbol d) w)) := by
  intro new
  rw [step_of_recorded hfresh hrec]
  exact applyRecorded_cases (w := recordedWorld symbol d fill feeRate w) (signalOf d w) id

/-- The position after a recorded fill, in the state the item found. -/
theorem position_step_of_recorded (hfresh : d.execId ∉ w.rt.seenExecIds)
    (hrec : d.Recorded symbol fill feeRate) :
    let new := moved (w.rt.position symbol) fill
    (step x (.item symbol d) w).rt.position = Function.update w.rt.position symbol new ∨
      MayReset x w.rt symbol d fill new ∧
        (step x (.item symbol d) w).rt.position = Function.update w.rt.position symbol .flat := by
  intro new
  obtain ⟨w₂, hidle, hend⟩ := step_cases_of_recorded (x := x) hfresh hrec
  have hpos : (step x (.item symbol d) w).rt.position = w₂.rt.position := by
    rcases hend with h | h
    · rw [h]
    · exact h.position_eq
  rw [hpos]
  rcases hidle.2 with h | ⟨hreset, h⟩
  · exact Or.inl h
  · refine Or.inr ⟨hreset, h.trans ?_⟩
    rw [position_setPosition, Function.update_idem]
    rfl

/-- A fill that is recorded and does nothing but add to the position: it leaves an
effective position or exactly none, and no emergency close is accepted. -/
structure OnlyAdds (x : Context) (symbol : String) (d : Delivery) (fill : Fill) (w : World) :
    Prop where
  recorded : ∃ feeRate, d.Recorded symbol fill feeRate
  stays : let new := moved (w.rt.position symbol) fill
    IsEffective x.config w.rt symbol new.qty fill.price ∨ new.qty = 0
  not_closed : let new := moved (w.rt.position symbol) fill
    ProtectionDue x d.env w.rt symbol new.qty (entryPriceOr new fill.price) →
      ¬ EmergencyClosed x d.env (w.rt.details symbol) new.qty (entryPriceOr new fill.price)

theorem tidy_moved {p : Position} (hp : p.Tidy) : (moved p fill).Tidy := hp.applyFill _ _ _

/-- The position after a fill that only adds is the sum. -/
theorem position_of_onlyAdds (hfresh : d.execId ∉ w.rt.seenExecIds)
    (htidy : (w.rt.position symbol).Tidy) (h : OnlyAdds x symbol d fill w) :
    (step x (.item symbol d) w).rt.position =
      Function.update w.rt.position symbol (moved (w.rt.position symbol) fill) := by
  obtain ⟨feeRate, hrec⟩ := h.recorded
  rcases position_step_of_recorded (x := x) hfresh hrec with hmoved | ⟨hreset, hflat⟩
  · exact hmoved
  · -- only a position of exactly zero may be reset, which changes nothing
    have hzero : (moved (w.rt.position symbol) fill).qty = 0 := by
      rcases hreset with hsmall | ⟨hdue, hclosed⟩
      · exact h.stays.resolve_left hsmall
      · exact absurd hclosed (h.not_closed hdue)
    rw [hflat, tidy_moved htidy hzero]

/-! ### Items that get stuck -/

/-- Nothing was done, except that the raw execution of a readable item may lie in its
table. -/
structure Stuck (symbol : String) (d : Delivery) (w w' : World) : Prop where
  rt_eq : w'.rt = w.rt
  legacy_eq : w'.legacy = w.legacy
  futures_eq : w'.futures = w.futures
  orderSignalMap_eq : w'.lifecycle.orderSignalMap = w.lifecycle.orderSignalMap
  signals_eq : w'.lifecycle.signals = w.lifecycle.signals
  outcomes_eq : w'.lifecycle.outcomes = w.lifecycle.outcomes
  bandit_eq : w'.bandit = w.bandit
  trace_eq : w'.trace = w.trace
  executionsRaw : w'.lifecycle.executionsRaw = w.lifecycle.executionsRaw ∨
    (∃ fill, d.read symbol = .ok (some fill)) ∧
      ∃ row, w'.lifecycle.executionsRaw = w.lifecycle.executionsRaw.insertIfAbsent d.execId row

theorem Stuck.refl (symbol : String) (d : Delivery) (w : World) : Stuck symbol d w w :=
  ⟨rfl, rfl, rfl, rfl, rfl, rfl, rfl, rfl, Or.inl rfl⟩

/-- Looking the signal up either works, or raises without an effect. -/
theorem signalIdOfLink_cases (d : Delivery) (w : World) :
    (Text.truthy d.item.orderLinkId ≠ none → d.env.faults .signalId = none) ∨
      ∃ e, signalIdOfLink d.env d.item.orderLinkId w = .error e w := by
  cases hlink : Text.truthy d.item.orderLinkId with
  | none => exact Or.inl fun h => absurd rfl h
  | some link =>
    cases hfault : d.env.faults .signalId with
    | none => exact Or.inl fun _ => rfl
    | some fault =>
      refine Or.inr ⟨.database .signalId, ?_⟩
      simp [signalIdOfLink, hlink, read, hfault]

/-- Recording the raw execution works, or raises, with or without its row. -/
theorem recordExecution_cases (hread : d.read symbol = .ok (some fill))
    (signalId : Option String) (w : World) :
    (∃ feeRate, optionalFloatField "feeRate" d.item.feeRate = .ok feeRate ∧
      d.env.faults .executionEvent = none) ∨
      ∃ e w', recordExecution symbol d signalId fill w = .error e w' ∧ Stuck symbol d w w' := by
  unfold recordExecution
  cases hrate : optionalFloatField "feeRate" d.item.feeRate with
  | error e => exact Or.inr ⟨e, w, rfl, Stuck.refl _ _ _⟩
  | ok feeRate =>
    rw [fromExcept_ok, bind_of_ok (pure_run feeRate w)]
    cases hfault : d.env.faults .executionEvent with
    | none => exact Or.inl ⟨feeRate, rfl, rfl⟩
    | some fault =>
      refine Or.inr ⟨.database .executionEvent, ?_⟩
      cases fault with
      | atExecute => exact ⟨w, by simp [write, hfault], Stuck.refl _ _ _⟩
      | rolledBack => exact ⟨w, by simp [write, hfault], Stuck.refl _ _ _⟩
      | atCommit =>
        refine ⟨addExecution symbol d signalId fill feeRate w, ?_, rfl, rfl, rfl, rfl, rfl, rfl,
          rfl, rfl, ?_⟩
        · rw [write, hfault]
          rfl
        · exact Or.inr ⟨⟨fill, hread⟩, executionRow symbol d signalId fill feeRate, rfl⟩

/-- A fresh item is recorded or gets stuck. -/
theorem recorded_or_stuck (x : Context) (symbol : String) (d : Delivery) (w : World) :
    (∃ fill feeRate, d.Recorded symbol fill feeRate) ∨
      Stuck symbol d w (after (ingestFresh x symbol d) w) := by
  unfold ingestFresh
  cases hhead : readHead d.item with
  | error e => exact Or.inr (Stuck.refl _ _ _)
  | ok head =>
    rw [fromExcept_ok, after_bind_of_ok (pure_run head w)]
    cases head with
    | none => exact Or.inr (Stuck.refl _ _ _)
    | some head =>
      dsimp only
      rcases signalIdOfLink_cases d w with hlink | ⟨e, herror⟩
      · rw [after_bind_of_ok (signalIdOfLink_run hlink)]
        cases hfill : readFill symbol d.env.wallMs d.item head with
        | error e => exact Or.inr (Stuck.refl _ _ _)
        | ok fill =>
          rw [fromExcept_ok, after_bind_of_ok (pure_run fill w)]
          cases fill with
          | none => exact Or.inr (Stuck.refl _ _ _)
          | some fill =>
            have hread : d.read symbol = .ok (some fill) := by
              simp [Delivery.read, hhead, hfill, bind, Except.bind]
            rcases recordExecution_cases hread (signalOf d w) w with
              ⟨feeRate, hrate, hevent⟩ | ⟨e, w', herror, hstuck⟩
            · exact Or.inl ⟨fill, feeRate, hread, hrate, hlink, hevent⟩
            · refine Or.inr ?_
              dsimp only [applyExecution]
              rwa [after_bind_of_error herror]
      · rw [after_bind_of_error herror]
        exact Or.inr (Stuck.refl _ _ _)

/-! ### The effect of any delivery -/

/-- A fresh delivery gets stuck or is recorded. -/
theorem step_cases_of_fresh (x : Context) (symbol : String) (hfresh : d.execId ∉ w.rt.seenExecIds) :
    Stuck symbol d (markSeen d.execId w) (step x (.item symbol d) w) ∨
      ∃ fill feeRate, d.Recorded symbol fill feeRate := by
  rcases recorded_or_stuck x symbol d (markSeen d.execId w) with hrec | hstuck
  · exact Or.inr hrec
  · rw [step_of_fresh hfresh]
    exact Or.inl hstuck

/-- The seen ids after a delivery. -/
theorem seenExecIds_step (x : Context) (symbol : String) (d : Delivery) (w : World) :
    (step x (.item symbol d) w).rt.seenExecIds =
      if d.execId ∈ w.rt.seenExecIds then w.rt.seenExecIds
      else remember d.execId w.rt.seenExecIds := by
  split_ifs with hseen
  · rw [step_of_seen hseen]
  · rcases step_cases_of_fresh x symbol hseen with
      hstuck | ⟨fill, feeRate, hrec⟩
    · rw [hstuck.rt_eq]
      rfl
    · obtain ⟨w₂, hidle, hend⟩ := step_cases_of_recorded (x := x) hseen hrec
      have h₂ : w₂.rt.seenExecIds = remember d.execId w.rt.seenExecIds :=
        congrArg Records.seenExecIds hidle.1
      rcases hend with h | h
      · rw [h, h₂]
      · exact (congrArg Records.seenExecIds h.1).trans h₂

/-- A delivery adds at most one row to `fills`, and only its own. -/
theorem fills_step (x : Context) (symbol : String) (d : Delivery) (w : World) :
    (step x (.item symbol d) w).legacy.fills = w.legacy.fills ∨
      ∃ fill, (step x (.item symbol d) w).legacy.fills =
        w.legacy.fills ++ [fillRow symbol d fill] := by
  by_cases hseen : d.execId ∈ w.rt.seenExecIds
  · rw [step_of_seen hseen]
    exact Or.inl rfl
  · rcases step_cases_of_fresh x symbol hseen with
      hstuck | ⟨fill, feeRate, hrec⟩
    · rw [hstuck.legacy_eq]
      exact Or.inl rfl
    · obtain ⟨w₂, hidle, hend⟩ := step_cases_of_recorded (x := x) hseen hrec
      have h₂ : w₂.legacy.fills = w.legacy.fills := congrArg Records.fills hidle.1
      rcases hend with h | h
      · exact Or.inl (by rw [h, h₂])
      · refine Or.inr ⟨fill, (congrArg Records.fills h.1).trans ?_⟩
        rw [← h₂]
        rfl

/-- A delivery leaves the positions of the other symbols alone. -/
theorem position_step_of_ne {symbol' : String} (hne : symbol' ≠ symbol) :
    (step x (.item symbol d) w).rt.position symbol' = w.rt.position symbol' := by
  by_cases hseen : d.execId ∈ w.rt.seenExecIds
  · rw [step_of_seen hseen]
  · rcases step_cases_of_fresh x symbol hseen with
      hstuck | ⟨fill, feeRate, hrec⟩
    · rw [hstuck.rt_eq]
      rfl
    · rcases position_step_of_recorded (x := x) hseen hrec with h | ⟨_, h⟩ <;>
        rw [h, Function.update_of_ne hne]

/-- The raw executions after a delivery: its own row, where it is new. -/
theorem executionsRaw_step_of_recorded (hfresh : d.execId ∉ w.rt.seenExecIds)
    (hrec : d.Recorded symbol fill feeRate) :
    (step x (.item symbol d) w).lifecycle.executionsRaw =
      w.lifecycle.executionsRaw.insertIfAbsent d.execId
        (executionRow symbol d (signalOf d w) fill feeRate) := by
  obtain ⟨w₂, hidle, hend⟩ := step_cases_of_recorded (x := x) hfresh hrec
  have h₂ := congrArg Records.executionsRaw hidle.1
  rcases hend with h | h
  · rw [h]
    exact h₂
  · exact (congrArg Records.executionsRaw h.1).trans h₂

/-- Deliveries leave the cached floors alone. -/
theorem floors_step (x : Context) (symbol : String) (d : Delivery) (w : World) :
    (step x (.item symbol d) w).rt.positionFloor = w.rt.positionFloor ∧
      (step x (.item symbol d) w).rt.notionalFloor = w.rt.notionalFloor := by
  by_cases hseen : d.execId ∈ w.rt.seenExecIds
  · rw [step_of_seen hseen]
    exact ⟨rfl, rfl⟩
  · rcases step_cases_of_fresh x symbol hseen with
      hstuck | ⟨fill, feeRate, hrec⟩
    · rw [hstuck.rt_eq]
      exact ⟨rfl, rfl⟩
    · obtain ⟨w₂, hidle, hend⟩ := step_cases_of_recorded (x := x) hseen hrec
      have h₂ : w₂.rt.positionFloor = w.rt.positionFloor ∧
          w₂.rt.notionalFloor = w.rt.notionalFloor :=
        ⟨congrArg Records.positionFloor hidle.1, congrArg Records.notionalFloor hidle.1⟩
      rcases hend with h | h
      · rw [h]
        exact h₂
      · exact ⟨(congrArg Records.positionFloor h.1).trans h₂.1, (congrArg Records.notionalFloor h.1).trans h₂.2⟩

/-! ### Resolving the floors -/

theorem resolvePositionFloor_run (x : Context) (symbol : String) (w : World) :
    resolvePositionFloor x symbol w =
      .ok (resolvedPositionFloor x w.rt symbol)
        (cachePositionFloor symbol (resolvedPositionFloor x w.rt symbol) w) := by
  unfold resolvePositionFloor
  rw [bind_of_ok (get_run w)]
  rfl

theorem resolvePositionNotionalFloor_run (x : Context) (symbol : String) (w : World) :
    resolvePositionNotionalFloor x symbol w =
      .ok (resolvedNotionalFloor x w.rt symbol)
        (cacheNotionalFloor symbol (resolvedNotionalFloor x w.rt symbol) w) := by
  unfold resolvePositionNotionalFloor
  rw [bind_of_ok (get_run w)]
  rfl

/-- The state after both floors are resolved. -/
def floorsResolved (x : Context) (symbol : String) (w : World) : World :=
  let w₁ := cachePositionFloor symbol (resolvedPositionFloor x w.rt symbol) w
  cacheNotionalFloor symbol (resolvedNotionalFloor x w₁.rt symbol) w₁

/-- Resolving the floors cannot raise. -/
theorem work_floors_run (x : Context) (symbol : String) (w : World) :
    work x (.floors symbol) w = .ok () (floorsResolved x symbol w) := by
  unfold work resolveFloors
  dsimp only
  rw [bind_of_ok (resolvePositionFloor_run x symbol w),
    bind_of_ok (resolvePositionNotionalFloor_run x symbol _)]
  rfl

theorem step_floors (x : Context) (symbol : String) (w : World) :
    step x (.floors symbol) w = floorsResolved x symbol w :=
  after_of_ok (work_floors_run x symbol w)

/-- Resolving floors changes no position. -/
theorem position_step_floors (x : Context) (symbol : String) (w : World) :
    (step x (.floors symbol) w).rt.position = w.rt.position := by
  rw [step_floors]
  unfold floorsResolved cacheNotionalFloor cachePositionFloor
  split_ifs <;> rfl

theorem seenExecIds_step_floors (x : Context) (symbol : String) (w : World) :
    (step x (.floors symbol) w).rt.seenExecIds = w.rt.seenExecIds := by
  rw [step_floors]
  unfold floorsResolved cacheNotionalFloor cachePositionFloor
  split_ifs <;> rfl

/-- Resolving floors leaves the tables alone. -/
theorem tables_step_floors (x : Context) (symbol : String) (w : World) :
    (step x (.floors symbol) w).lifecycle = w.lifecycle ∧
      (step x (.floors symbol) w).legacy = w.legacy ∧
      (step x (.floors symbol) w).futures = w.futures := by
  rw [step_floors]
  unfold floorsResolved cacheNotionalFloor cachePositionFloor
  split_ifs <;> exact ⟨rfl, rfl, rfl⟩

/-- A cached floor of quantity stays what it is. -/
theorem positionFloor_step_of_cached {u : Work} {key : String} {q : ℚ}
    (h : w.rt.positionFloor key = some q) : (step x u w).rt.positionFloor key = some q := by
  cases u with
  | item symbol d => rw [(floors_step x symbol d w).1, h]
  | floors symbol =>
    rw [step_floors]
    unfold floorsResolved cacheNotionalFloor cachePositionFloor
    split_ifs with hkey
    · exact h
    · by_cases hk : key = floorKey symbol
      · subst hk
        simp [resolvedPositionFloor, hkey, h]
      · simp [Function.update_of_ne hk, h]

/-- A cached floor of notional stays what it is. -/
theorem notionalFloor_step_of_cached {u : Work} {key : String} {q : ℚ}
    (h : w.rt.notionalFloor key = some q) : (step x u w).rt.notionalFloor key = some q := by
  cases u with
  | item symbol d => rw [(floors_step x symbol d w).2, h]
  | floors symbol =>
    rw [step_floors]
    unfold floorsResolved cacheNotionalFloor cachePositionFloor
    split_ifs with hkey
    · exact h
    · by_cases hk : key = floorKey symbol
      · subst hk
        simp [resolvedNotionalFloor, hkey, h]
      · simp [Function.update_of_ne hk, h]

/-- The seen ids after a run are a fold over the delivered ids. -/
theorem seenExecIds_run (x : Context) (us : List Work) (w : World) :
    (run (step x) us w).rt.seenExecIds =
      (us.filterMap Work.execId?).foldl (BoundedSet.note seenLimit) w.rt.seenExecIds := by
  induction us generalizing w with
  | nil => rfl
  | cons u us ih =>
    rw [run_cons, ih]
    cases u with
    | floors symbol => rw [seenExecIds_step_floors]; rfl
    | item symbol d => rw [seenExecIds_step]; rfl

theorem positionFloor_run_of_cached {us : List Work} {key : String} {q : ℚ}
    (h : w.rt.positionFloor key = some q) :
    (run (step x) us w).rt.positionFloor key = some q := by
  induction us generalizing w with
  | nil => exact h
  | cons u us ih => exact ih (positionFloor_step_of_cached h)

theorem notionalFloor_run_of_cached {us : List Work} {key : String} {q : ℚ}
    (h : w.rt.notionalFloor key = some q) :
    (run (step x) us w).rt.notionalFloor key = some q := by
  induction us generalizing w with
  | nil => exact h
  | cons u us ih => exact ih (notionalFloor_step_of_cached h)

/-! ### Concrete deliveries -/

/-- A spot account with one symbol. -/
def spotMarket : Context where
  config := .default ["AAAUSDT"] .spot
  executor := some (bybitRestClient (fun _ => none) fun _ => none)

/-- An item with only its id, side, quantity and price. -/
def plainItem (execId side qty price : String) : ExecutionItem where
  symbol := none
  side := some side
  orderId := none
  orderLinkId := none
  orderType := none
  execId := some execId
  execQty := some qty
  qty := none
  execPrice := some price
  price := none
  execValue := none
  execFee := none
  feeRate := none
  feeCurrency := none
  isMaker := none
  execTime := none

/-- A plain item in the calm environment. -/
def plainDelivery (execId side qty price : String) : Delivery :=
  ⟨plainItem execId side qty price, calmEnv⟩

/-- The same for an order with a link. -/
def linkedDelivery (execId link side qty price : String) : Delivery :=
  ⟨{ plainItem execId side qty price with orderLinkId := some link }, calmEnv⟩

theorem unit_pos : (0 : ℚ) < 1 := zero_lt_one

/-- A buy of one coin at a hundred, as a fill. -/
def oneCoinFill : Fill where
  side := .buy
  qty := 1
  price := 100
  qty_pos := unit_pos
  execFee := 0
  feeCurrency := ""
  execTimeMs := 1700000000000
  effectiveQty := 1
  effectiveQty_pos := unit_pos

instance (symbol : String) (d : Delivery) (fill : Fill) (feeRate : Option ℚ) :
    Decidable (d.Recorded symbol fill feeRate) :=
  decidable_of_iff (d.read symbol = .ok (some fill) ∧
      optionalFloatField "feeRate" d.item.feeRate = .ok feeRate ∧
      (Text.truthy d.item.orderLinkId ≠ none → d.env.faults .signalId = none) ∧
      d.env.faults .executionEvent = none)
    ⟨fun ⟨hread, hrate, hlink, hevent⟩ => ⟨hread, hrate, hlink, hevent⟩,
      fun h => ⟨h.read_eq, h.feeRate_eq, h.signalId_ok, h.executionEvent_ok⟩⟩

/-- A fill of the spot market that leaves an effective position only adds to it. -/
theorem onlyAdds_of_spot {x : Context} {symbol : String} {d : Delivery} {fill : Fill} {w : World}
    {feeRate : Option ℚ} (hspot : x.config.marketCategory = .spot)
    (hrec : d.Recorded symbol fill feeRate)
    (heffective : IsEffective x.config w.rt symbol (moved (w.rt.position symbol) fill).qty
      fill.price) : OnlyAdds x symbol d fill w where
  recorded := ⟨feeRate, hrec⟩
  stays := Or.inl heffective
  not_closed := fun hdue => absurd (hspot.symm.trans hdue.1) (by decide)

/-- A condition on the fill that a step takes, if it is new. -/
def OnNewFill (P : World → String → Delivery → Fill → Prop) (t : Transition World Work) : Prop :=
  match t.input with
  | .floors _ => True
  | .item symbol d => d.execId ∉ t.before.rt.seenExecIds →
    ∀ fill ∈ (d.read symbol).toOption.join, P t.before symbol d fill

instance (P : World → String → Delivery → Fill → Prop)
    [∀ w symbol d fill, Decidable (P w symbol d fill)] (t : Transition World Work) :
    Decidable (OnNewFill P t) := by
  unfold OnNewFill
  exact match t.input with
    | .floors _ => inferInstance
    | .item _ _ => inferInstance

theorem OnNewFill.of_read {P : World → String → Delivery → Fill → Prop}
    {t : Transition World Work} (h : OnNewFill P t) {symbol : String} {d : Delivery} {fill : Fill}
    (hinput : t.input = .item symbol d) (hfresh : d.execId ∉ t.before.rt.seenExecIds)
    (hread : d.read symbol = .ok (some fill)) : P t.before symbol d fill := by
  rw [OnNewFill, hinput] at h
  exact h hfresh fill (by rw [hread]; rfl)

/-- The answer with one item. -/
def Fetch.single (symbol : String) (d : Delivery) : Fetch := ⟨symbol, .ok (⟨some 0, none⟩, [d])⟩

/-- An exception in the last item of a batch leaves nothing out. -/
theorem taken_floors_item (x : Context) (symbol : String) (d : Delivery) (w : World) :
    taken (work x) [.floors symbol, .item symbol d] w = [.floors symbol, .item symbol d] := by
  simp only [taken, work_floors_run]
  split <;> rfl

/-- One item a batch leaves no room for an exception to hide anything. -/
theorem reached_single (hx : x.executor.isSome) (ds : List (String × Delivery)) (w : World) :
    reached x (ds.map fun e => [Fetch.single e.1 e.2]) w =
      ds.flatMap fun e => [.floors e.1, .item e.1 e.2] := by
  obtain ⟨executor, hexec⟩ := Option.isSome_iff_exists.mp hx
  induction ds generalizing w with
  | nil => rfl
  | cons e ds ih =>
    have hworks : works x [Fetch.single e.1 e.2] = [.floors e.1, .item e.1 e.2] := by
      simp [works, hexec, Fetch.works, Fetch.single, Fetch.deliveries]
    have htaken := taken_floors_item x e.1 e.2 w
    rw [List.map_cons, List.flatMap_cons, ← ih]
    rw [reached, List.map_cons, takenOfBatches, hworks, htaken]
    rfl

end Botik
