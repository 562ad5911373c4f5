import Botik.Main.RefreshFacts
import Botik.Main.RefreshRaises

/-!
# The position table and the live linear position

A linear position has its row in `futures_positions` because the protection
routine wrote it, and loses it where a fill leaves no effective position. Between
the two lie the ways apart: the routine is throttled, it writes only the side the
position is on now, and an emergency close forgets the position but not the row.

## Main definitions

* `heldQty` — the quantity of the row of a key, zero without a row
* `Mirrors` — the rows of a symbol hold exactly a signed quantity
* `TableKept` — a delivery that takes none of the ways apart

## Main results

* `liveRows_of_mirrors` — the live rows of a mirrored position
* `mirrors_step` — a kept delivery keeps the mirror
* `positions_mirrored` — over runs
* `reversal_leaves_row` — a reversal leaves the row of the old side
-/

namespace Botik

open Program Runs FuturesStore

/-- The quantity of the row of a key. -/
def heldQty (db : FuturesStore) (key : PositionKey) : ℚ :=
  ((db.positions.get? key).map PositionRow.qty).getD 0

theorem heldQty_of_get? {db : FuturesStore} {key : PositionKey} {row : PositionRow}
    (h : db.positions.get? key = some row) : heldQty db key = row.qty := by
  rw [heldQty, h]
  rfl

theorem heldQty_of_rowWritten {key : PositionKey} {qty : ℚ} {w w' : World}
    (h : RowWritten key qty w w') (k : PositionKey) :
    heldQty w'.futures k = if k = key then qty else heldQty w.futures k := by
  by_cases hk : k = key
  · obtain ⟨row, hget, hqty⟩ := h.row
    rw [if_pos hk, hk, heldQty_of_get? hget, hqty]
  · rw [if_neg hk, heldQty, heldQty, h.others k hk]

/-- The rows of the symbol hold this signed quantity on its side, and nothing
else. -/
def Mirrors (db : FuturesStore) (symbol : String) (qty : ℚ) : Prop :=
  ∀ key : PositionKey, key.accountType = unified → key.symbol = Text.upper symbol →
    heldQty db key = if key = runtimeKey symbol (sideOfQty qty) then |qty| else 0

/-- The live rows of a mirrored position: one, or none if it is flat. -/
theorem liveRows_of_mirrors {db : FuturesStore} {symbol : String} {qty : ℚ}
    (h : Mirrors db symbol qty) :
    (qty ≠ 0 → ∃ row, db.liveRows unified (Text.upper symbol) =
      [(runtimeKey symbol (sideOfQty qty), row)] ∧ row.qty = |qty|) ∧
    (qty = 0 → db.liveRows unified (Text.upper symbol) = []) := by
  have hlive : ∀ key row, db.positions.get? key = some row →
      isLive unified (Text.upper symbol) (key, row) = true →
      key = runtimeKey symbol (sideOfQty qty) ∧ qty ≠ 0 := by
    intro key row hget hsel
    simp only [isLive, decide_eq_true_eq] at hsel
    obtain ⟨haccount, hsymbol, hpos⟩ := hsel
    have hheld := h key haccount hsymbol
    rw [heldQty_of_get? hget] at hheld
    by_cases hkey : key = runtimeKey symbol (sideOfQty qty)
    · refine ⟨hkey, fun hzero => ?_⟩
      rw [if_pos hkey, hzero, abs_zero] at hheld
      simp [hheld] at hpos
    · rw [if_neg hkey] at hheld
      simp [hheld] at hpos
  constructor
  · intro hne
    have hheld := h (runtimeKey symbol (sideOfQty qty)) rfl rfl
    rw [if_pos rfl] at hheld
    cases hget : db.positions.get? (runtimeKey symbol (sideOfQty qty)) with
    | none =>
      rw [heldQty, hget] at hheld
      exact absurd hheld.symm (abs_ne_zero.mpr hne)
    | some row =>
      rw [heldQty_of_get? hget] at hheld
      refine ⟨row, Dict.filter_entries_eq_singleton hget ?_ fun k r hk hsel => ?_, hheld⟩
      · simp only [isLive, decide_eq_true_eq]
        exact ⟨rfl, rfl, by rw [hheld, abs_abs]; exact abs_pos.mpr hne⟩
      · exact (hlive k r hk hsel).1
  · intro hzero
    refine Dict.filter_entries_eq_nil fun key row hget => ?_
    by_contra hsel
    exact (hlive key row hget (by simpa using hsel)).2 hzero

/-! ### Keeping the mirror -/

theorem Mirrors.of_positions_eq {symbol : String} {qty : ℚ} {db db' : FuturesStore}
    (h : Mirrors db symbol qty) (heq : db'.positions = db.positions) : Mirrors db' symbol qty := by
  intro key haccount hsymbol
  rw [heldQty, heq]
  exact h key haccount hsymbol

/-- Writing the row of a new quantity keeps the mirror, if the old quantity was
flat or on the same side. -/
theorem Mirrors.rowWritten {symbol : String} {old new : ℚ} {w w' : World}
    (h : Mirrors w.futures symbol old) (hold : old = 0 ∨ sideOfQty old = sideOfQty new)
    (hwritten : RowWritten (runtimeKey symbol (sideOfQty new)) |new| w w') :
    Mirrors w'.futures symbol new := by
  intro key haccount hsymbol
  rw [heldQty_of_rowWritten hwritten]
  by_cases hkey : key = runtimeKey symbol (sideOfQty new)
  · rw [if_pos hkey, if_pos hkey]
  · rw [if_neg hkey, if_neg hkey, h key haccount hsymbol]
    rcases hold with rfl | hside
    · simp
    · rw [hside, if_neg hkey]

/-- Writing zero into the row of the old side leaves nothing. -/
theorem Mirrors.rowClosed {symbol : String} {old : ℚ} {w w' : World}
    (h : Mirrors w.futures symbol old)
    (hwritten : RowWritten (runtimeKey symbol (sideOfQty old)) 0 w w') :
    Mirrors w'.futures symbol 0 := by
  intro key haccount hsymbol
  rw [heldQty_of_rowWritten hwritten, abs_zero, ite_self]
  by_cases hkey : key = runtimeKey symbol (sideOfQty old)
  · rw [if_pos hkey]
  · rw [if_neg hkey, h key haccount hsymbol, if_neg hkey]

/-! ### One delivery -/

/-- The position and the rows, which is all that is looked at here. -/
def tableView (w : World) : (String → Position) × Dict PositionKey PositionRow :=
  (w.rt.position, w.futures.positions)

theorem keeps_tableView_of_quiet {α : Type} {m : RunM α} (h : Moves Quiet m) :
    Keeps tableView m := h.mono fun _ _ hq => by
  rw [SameAs, tableView, tableView, hq.rt, hq.positions]

section Delivery

variable {x : Context} {symbol : String} {d : Delivery} {fill : Fill} {feeRate : Option ℚ}
  {w : World}

/-- After the position has moved, the rest of an item does not touch the view. -/
theorem tableView_step_of_recorded (hfresh : d.execId ∉ w.rt.seenExecIds)
    (hrec : d.Recorded symbol fill feeRate) :
    tableView (step x (.item symbol d) w) =
      tableView (after (movePosition x symbol d (signalOf d w) fill)
        (recordedWorld symbol d fill feeRate w)) := by
  rw [step_of_recorded hfresh hrec]
  unfold applyRecorded
  refine Keeps.after_bind (fun _ => ?_) _
  refine moves_bind (keeps_tableView_of_quiet (moves_quiet_recordOrderEvent _ _ _ _)) fun _ => ?_
  refine moves_bind ?_ fun _ => keeps_tableView_of_quiet (moves_quiet_afterFill _)
  exact moves_write fun _ => rfl

/-- An effective position: what the protection call leaves stays. -/
theorem tableView_step_of_effective (hlinear : x.config.marketCategory = .linear)
    (hfresh : d.execId ∉ w.rt.seenExecIds) (hrec : d.Recorded symbol fill feeRate) :
    let new := moved (w.rt.position symbol) fill
    IsEffective x.config w.rt symbol new.qty fill.price →
      tableView (step x (.item symbol d) w) =
        tableView (after (ensureFuturesProtection x d.env symbol new.qty
          (entryPriceOr new fill.price))
          (setPosition symbol new (recordedWorld symbol d fill feeRate w))) := by
  intro new heff
  rw [tableView_step_of_recorded hfresh hrec]
  have hdecide : decide (IsEffective x.config (recordedWorld symbol d fill feeRate w).rt symbol
      new.qty fill.price) = true := decide_eq_true heff
  have hguard : guardPosition x d.env symbol fill new true =
      ensureFuturesProtection x d.env symbol new.qty (entryPriceOr new fill.price) := by
    rw [guardPosition, hlinear]
    rfl
  rw [after_movePosition (signalOf d w) hdecide, ← hguard]
  refine Keeps.after_bind (fun _ => ?_) _
  -- the position is effective, so nothing is settled
  unfold followPosition
  refine moves_bind moves_get fun w' => ?_
  refine moves_ite (fun _ => moves_modify fun _ => rfl) fun _ => ?_
  exact moves_ite (fun hnot => absurd rfl hnot) fun _ => moves_pure _

/-- Closing the rows, where no statement raises. -/
theorem closeFuturesRows_run (x : Context) {env : StepEnv} (symbol : String)
    (hcalm : ∀ site, env.faults site = none) (old : Position) (entryVwap price : ℚ) (w : World) :
    ∃ w', closeFuturesRows x env symbol old entryVwap price w = .ok () w' ∧ w'.rt = w.rt ∧
      RowWritten (runtimeKey symbol (sideOfQty old.qty)) 0 w w' := by
  unfold closeFuturesRows
  rw [write_of_none (hcalm .flatPosition), write_of_none (hcalm .flatProtection)]
  exact ⟨_, rfl, rfl, rowWritten_of_upsert (closedPositionRow x.config env entryVwap price) rfl⟩

/-- Settling a flat position, where no statement raises: the row of the old side is
closed and the symbol reset. -/
theorem after_settleFlat {env : StepEnv} (hlinear : x.config.marketCategory = .linear)
    (hcalm : ∀ site, env.faults site = none) (symbol : String) (signalId : Option String)
    (old : Position) (fill : Fill) (w : World) :
    let w' := after (settleFlat x env symbol signalId old fill) w
    w'.rt.position = Function.update w.rt.position symbol .flat ∧
      RowWritten (runtimeKey symbol (sideOfQty old.qty)) 0 w w' := by
  intro w'
  have hcovers : Covers (fun _ => False) env.faults Site.flat := fun site h => h (hcalm _)
  have hraises : RaisesOnly (fun _ => False) (recordFlat x env symbol signalId old fill) :=
    raisesOnly_recordFlat hcovers signalId old fill
  obtain ⟨_, hrecord⟩ := eq_ok_of_raisesOnly hraises (fun _ => id) w
  have hquiet : Quiet w (after (recordFlat x env symbol signalId old fill) w) :=
    moves_quiet_recordFlat symbol signalId old fill w
  generalize after (recordFlat x env symbol signalId old fill) w = w₁ at hrecord hquiet
  obtain ⟨w₂, hclose, hrt, hwritten⟩ := closeFuturesRows_run x symbol hcalm old
    (entryPriceOr old fill.price) fill.price w₁
  have hclose' : closeIfLinear x env symbol old (entryPriceOr old fill.price) fill.price w₁ =
      .ok () w₂ := by
    rw [closeIfLinear, hlinear]
    exact hclose
  have hw' : w' = resetSymbolRuntimeState x.config symbol w₂ :=
    (after_bind_of_ok hrecord).trans (after_bind_of_ok hclose')
  rw [hw']
  refine ⟨?_, (hwritten.of_before_eq hquiet.positions).of_positions_eq rfl⟩
  rw [position_resetSymbolRuntimeState, hrt, hquiet.rt]

/-- A position that is not effective any more: the row of the old side is closed. -/
theorem step_of_not_effective (hlinear : x.config.marketCategory = .linear)
    (hcalm : ∀ site, d.env.faults site = none) (hfresh : d.execId ∉ w.rt.seenExecIds)
    (hrec : d.Recorded symbol fill feeRate) :
    let old := w.rt.position symbol
    ¬ IsEffective x.config w.rt symbol (moved old fill).qty fill.price →
      (step x (.item symbol d) w).rt.position = Function.update w.rt.position symbol .flat ∧
        RowWritten (runtimeKey symbol (sideOfQty old.qty)) 0 w (step x (.item symbol d) w) := by
  intro old hnot
  have hview := tableView_step_of_recorded (x := x) hfresh hrec
  have hdecide : decide (IsEffective x.config (recordedWorld symbol d fill feeRate w).rt symbol
      (moved old fill).qty fill.price) = false := decide_eq_false hnot
  -- nothing is guarded, and the position is settled
  let w₁ := setPosition symbol (moved old fill) (recordedWorld symbol d fill feeRate w)
  have hguard : guardPosition x d.env symbol fill (moved old fill) false w₁ = .ok () w₁ := by
    rw [guardPosition, hlinear]
    rfl
  have hfollow : after (followPosition x d.env symbol (signalOf d w) fill old false) w₁ =
      after (settleFlat x d.env symbol (signalOf d w) old fill) w₁ := by
    unfold followPosition
    rw [after_get_bind, if_neg (by simp), if_pos (by simp)]
  have hmove : after (movePosition x symbol d (signalOf d w) fill)
      (recordedWorld symbol d fill feeRate w) =
      after (settleFlat x d.env symbol (signalOf d w) old fill) w₁ := by
    rw [after_movePosition (signalOf d w) hdecide, ← hfollow]
    exact after_bind_of_ok hguard
  obtain ⟨hposition, hwritten⟩ :=
    after_settleFlat hlinear hcalm symbol (signalOf d w) old fill w₁
  rw [hmove] at hview
  constructor
  · rw [show (step x (.item symbol d) w).rt.position = _ from congrArg Prod.fst hview]
    exact hposition.trans (Function.update_idem _ _ _)
  · have hfrom : RowWritten (runtimeKey symbol (sideOfQty old.qty)) 0 w
        (after (settleFlat x d.env symbol (signalOf d w) old fill) w₁) := hwritten.of_before_eq rfl
    exact hfrom.of_positions_eq (congrArg Prod.snd hview)

/-- A protection call that does not close the position leaves it, and writes its row
where it is due. -/
theorem after_ensureFuturesProtection {env : StepEnv} {qty entryPrice : ℚ}
    (hcalm : ∀ site, env.faults site = none)
    (hclose : ProtectionDue x env w.rt symbol qty entryPrice →
      ¬ EmergencyClosed x env (w.rt.details symbol) qty entryPrice) :
    let w' := after (ensureFuturesProtection x env symbol qty entryPrice) w
    w'.rt.position = w.rt.position ∧
      (ProtectionDue x env w.rt symbol qty entryPrice →
        RowWritten (runtimeKey symbol (sideOfQty qty)) |qty| w w') ∧
      (¬ ProtectionDue x env w.rt symbol qty entryPrice →
        w'.futures.positions = w.futures.positions) := by
  intro w'
  refine ⟨(idle_ensureFuturesProtection hclose).position_eq, fun hdue => ?_, fun hdue => ?_⟩
  · obtain ⟨executor, -, hcall⟩ := ensureFuturesProtection_of_due hdue
    have hwrites : env.ProtectionWrites := fun site => hcalm _
    have hwritten : RowWritten (runtimeKey symbol (sideOfQty qty)) |qty| w
        (after (protectPosition x executor env symbol qty entryPrice) w) :=
      (after_protectPosition hwrites).1
    rwa [← hcall] at hwritten
  · exact congrArg (·.futures.positions) (after_of_ok (ensureFuturesProtection_of_not_due hdue))

/-- The delivery takes none of the ways in which position and row part: if it leaves
an effective position, that is not zero; the protection call is due, or the fill
changed nothing; and a due call neither finds the other side nor closes the
position. -/
def TableKept (x : Context) (symbol : String) (d : Delivery) (fill : Fill) (w : World) : Prop :=
  let old := w.rt.position symbol
  let new := moved old fill
  let due := ProtectionDue x d.env w.rt symbol new.qty (entryPriceOr new fill.price)
  IsEffective x.config w.rt symbol new.qty fill.price →
    new.qty ≠ 0 ∧ (due ∨ new.qty = old.qty) ∧
      (due → (old.qty = 0 ∨ sideOfQty old.qty = sideOfQty new.qty) ∧
        ¬ EmergencyClosed x d.env (w.rt.details symbol) new.qty (entryPriceOr new fill.price))

theorem isEffective_linear_iff {c : Config} (hlinear : c.marketCategory = .linear) (rt : Runtime)
    (symbol : String) (qty price : ℚ) :
    IsEffective c rt symbol qty price ↔ positionFloor c rt symbol ≤ |qty| := by
  have hspot : c.spotNotionalFloorEnabled = false := by
    simp [Config.spotNotionalFloorEnabled, hlinear]
  simp [IsEffective, hspot]

/-- A delivery leaves the floor of quantity alone. -/
theorem positionFloor_step (c : Config) :
    positionFloor c (step x (.item symbol d) w).rt symbol = positionFloor c w.rt symbol := by
  rw [positionFloor, (floors_step x symbol d w).1]
  rfl

/-- A kept delivery keeps the mirror, and leaves a position exactly if it is
effective. -/
theorem mirrors_step (hlinear : x.config.marketCategory = .linear)
    (hcalm : ∀ site, d.env.faults site = none) (hfresh : d.execId ∉ w.rt.seenExecIds)
    (hrec : d.Recorded symbol fill feeRate) (hkept : TableKept x symbol d fill w)
    (hmirrors : Mirrors w.futures symbol (w.rt.position symbol).qty) :
    let w' := step x (.item symbol d) w
    Mirrors w'.futures symbol (w'.rt.position symbol).qty ∧
      (IsEffective x.config w'.rt symbol (w'.rt.position symbol).qty fill.price ↔
        (w'.rt.position symbol).qty ≠ 0) := by
  intro w'
  rw [isEffective_linear_iff hlinear, positionFloor_step]
  let new := moved (w.rt.position symbol) fill
  by_cases heff : IsEffective x.config w.rt symbol new.qty fill.price
  · obtain ⟨hne, hway, hdue⟩ := hkept heff
    have hview := tableView_step_of_effective hlinear hfresh hrec heff
    obtain ⟨hposition, hwritten, hskipped⟩ := after_ensureFuturesProtection
      (w := setPosition symbol new (recordedWorld symbol d fill feeRate w)) hcalm
      fun h => (hdue h).2
    have hpos : w'.rt.position = Function.update w.rt.position symbol new :=
      (congrArg Prod.fst hview).trans hposition
    rw [hpos, Function.update_self]
    refine ⟨?_, ⟨fun _ => hne, fun _ => (isEffective_linear_iff hlinear _ _ _ _).mp heff⟩⟩
    by_cases h : ProtectionDue x d.env w.rt symbol new.qty (entryPriceOr new fill.price)
    · -- the row of the new side is written; the old one was the same or empty
      have hfrom : RowWritten (runtimeKey symbol (sideOfQty new.qty)) |new.qty| w _ :=
        (hwritten h).of_before_eq rfl
      exact hmirrors.rowWritten (hdue h).1 (hfrom.of_positions_eq (congrArg Prod.snd hview))
    · -- nothing is written, and nothing was to be
      have hsame : new.qty = (w.rt.position symbol).qty := hway.resolve_left h
      rw [hsame]
      exact hmirrors.of_positions_eq ((congrArg Prod.snd hview).trans (hskipped h))
  · obtain ⟨hpos, hwritten⟩ := step_of_not_effective hlinear hcalm hfresh hrec heff
    rw [hpos, Function.update_self]
    refine ⟨hmirrors.rowClosed hwritten, ?_⟩
    have hfloor : 0 < positionFloor x.config w.rt symbol := by
      rw [isEffective_linear_iff hlinear, not_le] at heff
      exact (abs_nonneg _).trans_lt heff
    simpa using hfloor

end Delivery

/-! ### Runs -/

/-- Every execution of the symbol that is ingested in the run is kept. -/
def RunKept (x : Context) (symbol : String) (ts : List (Transition World Work)) : Prop :=
  ∀ t ∈ ts, ∀ d fill feeRate, t.input = .item symbol d → d.execId ∉ t.before.rt.seenExecIds →
    d.Recorded symbol fill feeRate → TableKept x symbol d fill t.before

section Run

variable {x : Context} {symbol : String}

/-- The rows of the symbol hold its tracked position. -/
def MirrorsPosition (symbol : String) (w : World) : Prop :=
  Mirrors w.futures symbol (w.rt.position symbol).qty

/-- A unit of work about the symbol in which no statement raises and, if it ingests
an execution, that is kept. -/
structure WorkKept (x : Context) (symbol : String) (w : World) (u : Work) : Prop where
  symbol_eq : u.symbol = symbol
  calm : ∀ d, u = .item symbol d → ∀ site, d.env.faults site = none
  kept : ∀ d fill feeRate, u = .item symbol d → d.execId ∉ w.rt.seenExecIds →
    d.Recorded symbol fill feeRate → TableKept x symbol d fill w

/-- One unit of work keeps the mirror: only a fresh, recorded item changes
anything. -/
theorem mirrorsPosition_step (hlinear : x.config.marketCategory = .linear) (w : World) (u : Work)
    (hmirrors : MirrorsPosition symbol w) (h : WorkKept x symbol w u) :
    MirrorsPosition symbol (step x u w) := by
  cases u with
  | floors s =>
    rw [MirrorsPosition, position_step_floors, (tables_step_floors x s w).2.2]
    exact hmirrors
  | item s d =>
    obtain rfl : s = symbol := h.symbol_eq
    by_cases hseen : d.execId ∈ w.rt.seenExecIds
    · rwa [step_of_seen hseen]
    · rcases step_cases_of_fresh x s hseen with hstuck | ⟨fill, feeRate, hrec⟩
      · rw [MirrorsPosition, hstuck.rt_eq, hstuck.futures_eq]
        exact hmirrors
      · exact (mirrors_step hlinear (h.calm d rfl) hseen hrec
          (h.kept d fill feeRate rfl hseen hrec) hmirrors).1

/-- In linear mode, in every run over executions of one symbol in which each is
kept, the table mirrors the position after each execution: one live row, on its
side and with its size, if the position is effective, and none if it is not. -/
theorem positions_mirrored (x : Context) (symbol : String) (batches : List (List Fetch))
    (hlinear : x.config.marketCategory = .linear)
    (hsymbol : ∀ f ∈ batches.flatten, f.symbol = symbol) :
    let w := World.initial x.config
    let us := reached x batches w
    let ts := transitions (step x) us w
    (∀ d, .item symbol d ∈ us → ∀ site, d.env.faults site = none) → RunKept x symbol ts →
    ∀ t ∈ ts, ∀ d fill feeRate, t.input = .item symbol d →
      d.execId ∉ t.before.rt.seenExecIds → d.Recorded symbol fill feeRate →
      let net := (t.after.rt.position symbol).qty
      let rows := t.after.futures.liveRows unified (Text.upper symbol)
      (IsEffective x.config t.after.rt symbol net fill.price →
        ∃ row, rows = [(runtimeKey symbol (sideOfQty net), row)] ∧ row.qty = |net|) ∧
      (¬ IsEffective x.config t.after.rt symbol net fill.price → rows = []) := by
  intro w us ts hcalm hkept t ht d fill feeRate hinput hfresh hrec net rows
  have hstart : MirrorsPosition symbol w := fun key _ _ => by
    simp [w, World.initial, Runtime.initial, FuturesStore.empty, heldQty]
  have hworks : ∀ t ∈ ts, WorkKept x symbol t.before t.input := by
    intro t ht
    obtain ⟨f, hf, heq⟩ := exists_fetch_of_mem_reached (input_mem ht)
    exact ⟨heq.trans (hsymbol f hf), fun d hd => hcalm d (hd ▸ input_mem ht), hkept t ht⟩
  -- the mirror is the invariant of the run up to this execution
  have hbefore : MirrorsPosition symbol t.before :=
    (forall_transitions_of_inv (mirrorsPosition_step hlinear) hstart hworks t ht).1
  have hstep := mirrors_step hlinear (hcalm d ?_) hfresh hrec
    (hkept t ht d fill feeRate hinput hfresh hrec) hbefore
  · rw [← hinput, ← after_eq_step ht] at hstep
    obtain ⟨hmirrors, heffective⟩ := hstep
    obtain ⟨hheld, hflat⟩ := liveRows_of_mirrors hmirrors
    refine ⟨fun h => hheld (heffective.mp h), fun h => hflat ?_⟩
    by_contra hne
    exact h (heffective.mpr hne)
  · exact hinput ▸ input_mem ht

end Run

/-! ### Five executions, and a reversal -/

/-- A delivery at a time of the protection clock. -/
def deliveryAt (clock : ℚ) (execId side qty price : String) : Delivery :=
  { plainDelivery execId side qty price with env := { calmEnv with protectionClock := clock } }

/-- Bought, sold in part, bought again, closed and sold short, ten seconds apart. -/
def fiveFills : List (String × Delivery) :=
  [("BTCUSDT", deliveryAt 1000 "e1" "Buy" "1" "100"),
    ("BTCUSDT", deliveryAt 1010 "e2" "Sell" "0.4" "110"),
    ("BTCUSDT", deliveryAt 1020 "e3" "Buy" "1" "120"),
    ("BTCUSDT", deliveryAt 1030 "e4" "Sell" "1.6" "115"),
    ("BTCUSDT", deliveryAt 1040 "e5" "Sell" "2" "110")]

/-- Each of the five executions is mirrored: by one row with the size of the position, or by none
where it is closed. -/
theorem fiveFills_mirrored :
    let w := World.initial bitcoinLinear.config
    let us := reached bitcoinLinear (fiveFills.map fun e => [Fetch.single e.1 e.2]) w
    (transitions (step bitcoinLinear) us w).map (fun t => (t.after.rt.position "BTCUSDT").qty) =
        [0, 1, 1, 3 / 5, 3 / 5, 8 / 5, 8 / 5, 0, 0, -2] ∧
      ∀ t ∈ transitions (step bitcoinLinear) us w, ∀ d fill, t.input = .item "BTCUSDT" d →
        d.execId ∉ t.before.rt.seenExecIds → d.Recorded "BTCUSDT" fill none →
        let net := (t.after.rt.position "BTCUSDT").qty
        let rows := t.after.futures.liveRows unified "BTCUSDT"
        (IsEffective bitcoinLinear.config t.after.rt "BTCUSDT" net fill.price →
          ∃ row, rows = [(runtimeKey "BTCUSDT" (sideOfQty net), row)] ∧ row.qty = |net|) ∧
        (¬ IsEffective bitcoinLinear.config t.after.rt "BTCUSDT" net fill.price → rows = []) := by
  intro w us
  have hreached : us = fiveFills.flatMap fun e => [.floors e.1, .item e.1 e.2] :=
    reached_single rfl fiveFills w
  -- ten seconds apart, every effective fill finds its protection due
  have hkept : ∀ t ∈ transitions (step bitcoinLinear)
      (fiveFills.flatMap fun e => [.floors e.1, .item e.1 e.2]) w,
      OnNewFill (fun w symbol d fill =>
        let old := w.rt.position symbol
        let new := moved old fill
        d.env.closeOrder.accepted = false ∧
          (IsEffective bitcoinLinear.config w.rt symbol new.qty fill.price →
            new.qty ≠ 0 ∧
              ProtectionDue bitcoinLinear d.env w.rt symbol new.qty (entryPriceOr new fill.price) ∧
              (old.qty = 0 ∨ sideOfQty old.qty = sideOfQty new.qty))) t := by decide +kernel
  have hcalm : ∀ e ∈ fiveFills, ∀ site, e.2.env.faults site = none := by
    intro e he site
    simp only [fiveFills, List.mem_cons, List.not_mem_nil, or_false] at he
    rcases he with rfl | rfl | rfl | rfl | rfl <;> rfl
  have hmain := positions_mirrored bitcoinLinear "BTCUSDT"
    (fiveFills.map fun e => [Fetch.single e.1 e.2]) rfl (by decide)
  refine ⟨by rw [hreached]; decide +kernel, fun t ht d fill hinput hfresh hrec =>
    hmain (fun d hd site => ?_) (fun t ht d fill feeRate hinput hfresh hrec => ?_) t ht d fill none
      hinput hfresh hrec⟩
  -- nothing fails in any delivery
  · change Work.item "BTCUSDT" d ∈ us at hd
    rw [hreached] at hd
    obtain ⟨e, he, hitem⟩ := List.mem_flatMap.mp hd
    have heq := List.mem_singleton.mp (List.mem_of_ne_of_mem Work.noConfusion hitem)
    rw [(Work.item.inj heq).2]
    exact hcalm e he site
  -- every effective fill keeps the side or starts from flat, and none is closed at once
  · change t ∈ transitions (step bitcoinLinear) us w at ht
    rw [hreached] at ht
    obtain ⟨hrefused, hfill⟩ := (hkept t ht).of_read hinput hfresh hrec.read_eq
    intro heffective
    obtain ⟨hne, hdue, hsides⟩ := hfill heffective
    refine ⟨hne, Or.inl hdue, fun _ => ⟨hsides, fun hclosed => ?_⟩⟩
    rw [hclosed.accepted] at hrefused
    cases hrefused

def buyOne : Delivery := plainDelivery "e1" "Buy" "1" "100"

/-- Twice the quantity the other way, ten seconds later. -/
def sellTwo : Delivery :=
  { plainDelivery "e2" "Sell" "2" "100" with env := { calmEnv with protectionClock := 1010 } }

/-- The reversal leaves the long row beside the new short one. -/
theorem reversal_leaves_row :
    let w := runRefreshes bitcoinLinear
      [[Fetch.single "BTCUSDT" buyOne], [Fetch.single "BTCUSDT" sellTwo]]
      (World.initial bitcoinLinear.config)
    (w.rt.position "BTCUSDT").qty = -1 ∧
      positionFloor bitcoinLinear.config w.rt "BTCUSDT" ≤ |(w.rt.position "BTCUSDT").qty| ∧
      (w.futures.liveRows unified "BTCUSDT").map (fun e => (e.1.side, e.2.qty)) =
        [("Buy", 1), ("Sell", 1)] := by
  decide +kernel

end Botik
