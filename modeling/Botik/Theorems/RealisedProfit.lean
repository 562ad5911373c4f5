import Mathlib.Tactic.FieldSimp
import Mathlib.Tactic.Linarith
import Botik.Library.Sums
import Botik.Main.OutcomeFacts
import Botik.Theorems.Accounting

/-!
# Realised profit

The gross profits of the outcomes add up to what was sold less what was bought, if each
signal sold as much as it bought and a fill that closes the position belongs to the signal
of the position. Several entries into one position break this: the exits belong to the
signal of the first of them. An execution that is delivered again while its id is remembered is no
new fill.

## Main definitions

* `sumRows`, `sumFresh` — sums over the recorded executions and over the deliveries that are new
* `BalancedSignals` — every signal sells what it buys
* `SettlesOwn` — a fill that is processed completely and closes no foreign position
* `RoundTripsRecorded` — the outcome of a signal is its round trip

## Main results

* `gross_adds_up` — the sum over the outcomes of a run
* `second_entry_lost` — two entries, one exit
-/

namespace Botik

open Program Runs

/-! ### Sums over executions -/

/-- What an execution of a signal, side, quantity and price counts for. -/
abbrev Weight := Option String → Side → ℚ → ℚ → ℚ

/-- The quantity of one signal on one side. -/
def qtyOf (g : String) (side : Side) : Weight := fun signalId s qty _ =>
  if signalId = some g ∧ s = side then qty else 0

/-- The notional of one signal on one side. -/
def notionalOf (g : String) (side : Side) : Weight := fun signalId s qty price =>
  if signalId = some g ∧ s = side then price * qty else 0

/-- The notional on one side. -/
def totalNotional (side : Side) : Weight := fun _ s qty price =>
  if s = side then price * qty else 0

/-- What a row counts for; rows the synchronisation skips count for nothing. -/
def rowWeight (φ : Weight) (row : ExecutionRow) : ℚ :=
  match Side.ofText? (Text.orEmpty row.side) with
  | none => 0
  | some side =>
    if row.execPrice ≤ 0 ∨ row.execQty ≤ 0 then 0 else φ row.signalId side row.execQty row.execPrice

/-- The sum over all recorded executions. -/
def sumRows (φ : Weight) (w : World) : ℚ :=
  (w.lifecycle.executionsRaw.entries.map fun e => rowWeight φ e.2).sum

/-- What a unit of work counts for in a state, with the signals the orders have. A delivery of an
execution that was seen counts for nothing. -/
def freshWeight (φ : Weight) (w : World) : Work → ℚ
  | .floors _ => 0
  | .item symbol d =>
    if d.execId ∈ w.rt.seenExecIds then 0
    else
      match (d.read symbol).toOption.join with
      | none => 0
      | some fill => φ (signalOf d w) fill.side fill.qty fill.price

/-- The sum over all fresh deliveries of a run. -/
def sumFresh (φ : Weight) (x : Context) (us : List Work) (w : World) : ℚ :=
  ((transitions (step x) us w).map fun t => freshWeight φ t.before t.input).sum

/-- Every signal sells as much as it buys. -/
def BalancedSignals (x : Context) (us : List Work) (w : World) : Prop :=
  ∀ g, sumFresh (qtyOf g .buy) x us w = sumFresh (qtyOf g .sell) x us w

/-! ### Round trips -/

section RoundTrip

variable {rows : List ExecutionRow} {r : Roundtrip}

/-- The quantity and the notional of the executions on one side. -/
def sideQty (side : Side) : Weight := fun _ s qty _ => if s = side then qty else 0

theorem buyQty_add (r : Roundtrip) (row : ExecutionRow) :
    (r.add row).buyQty = r.buyQty + rowWeight (sideQty .buy) row ∧
      (r.add row).sellQty = r.sellQty + rowWeight (sideQty .sell) row ∧
      (r.add row).buyNotional = r.buyNotional + rowWeight (totalNotional .buy) row ∧
      (r.add row).sellNotional = r.sellNotional + rowWeight (totalNotional .sell) row := by
  unfold Roundtrip.add rowWeight
  dsimp only
  generalize Text.strip (Text.upper row.symbol) = s
  by_cases hskip : row.execPrice ≤ 0 ∨ row.execQty ≤ 0
  · simp only [hskip, if_true]
    cases Side.ofText? (Text.orEmpty row.side) <;> by_cases hs : s = "" <;> simp [hs]
  · simp only [hskip, if_false]
    cases Side.ofText? (Text.orEmpty row.side) with
    | none => by_cases hs : s = "" <;> simp [hs, Roundtrip.addSide]
    | some side =>
      cases side <;> by_cases hs : s = "" <;>
        simp [hs, Roundtrip.addSide, sideQty, totalNotional]

/-- What the executions of a list add up to. -/
theorem ofRows_sums (symbol : String) (rows : List ExecutionRow) :
    (Roundtrip.ofRows symbol rows).buyQty = (rows.map (rowWeight (sideQty .buy))).sum ∧
      (Roundtrip.ofRows symbol rows).sellQty = (rows.map (rowWeight (sideQty .sell))).sum ∧
      (Roundtrip.ofRows symbol rows).buyNotional =
        (rows.map (rowWeight (totalNotional .buy))).sum ∧
      (Roundtrip.ofRows symbol rows).sellNotional =
        (rows.map (rowWeight (totalNotional .sell))).sum := by
  have hfold : ∀ (rows : List ExecutionRow) (r : Roundtrip),
      (rows.foldl Roundtrip.add r).buyQty =
          r.buyQty + (rows.map (rowWeight (sideQty .buy))).sum ∧
        (rows.foldl Roundtrip.add r).sellQty =
          r.sellQty + (rows.map (rowWeight (sideQty .sell))).sum ∧
        (rows.foldl Roundtrip.add r).buyNotional =
          r.buyNotional + (rows.map (rowWeight (totalNotional .buy))).sum ∧
        (rows.foldl Roundtrip.add r).sellNotional =
          r.sellNotional + (rows.map (rowWeight (totalNotional .sell))).sum := by
    intro rows
    induction rows with
    | nil => simp
    | cons row rows ih =>
      intro r
      obtain ⟨hbuy, hsell, hbuyNotional, hsellNotional⟩ := buyQty_add r row
      obtain ⟨h₁, h₂, h₃, h₄⟩ := ih (r.add row)
      simp only [List.foldl_cons, List.map_cons, List.sum_cons]
      rw [h₁, h₂, h₃, h₄, hbuy, hsell, hbuyNotional, hsellNotional]
      simp only [add_assoc, and_self]
  obtain ⟨h₁, h₂, h₃, h₄⟩ := hfold rows (Roundtrip.initial symbol)
  exact ⟨h₁.trans (zero_add _), h₂.trans (zero_add _), h₃.trans (zero_add _),
    h₄.trans (zero_add _)⟩

/-- The executions of a signal weigh what the rows of the signal weigh. -/
theorem sum_executionsOfSignal (db : LifecycleStore) (g : String) (φ : Weight) :
    ((db.executionsOfSignal g).map (rowWeight φ)).sum =
      (db.executionsRaw.entries.map fun e =>
        if e.2.signalId = some g then rowWeight φ e.2 else 0).sum := by
  have hperm : ((LifecycleStore.byExecTime (db.executionsRaw.entries.filter fun e =>
      e.2.signalId = some g)).map Prod.snd).Perm ((db.executionsRaw.entries.filter fun e =>
        e.2.signalId = some g).map Prod.snd) :=
    (List.perm_insertionSort _ _).map _
  rw [LifecycleStore.executionsOfSignal, (hperm.map _).sum_eq, List.map_map,
    Sums.sum_map_filter]
  simp only [decide_eq_true_eq]
  rfl

/-- The weight of the rows of one signal. -/
theorem rowWeight_of_signal (g : String) (side : Side) (row : ExecutionRow) :
    (if row.signalId = some g then rowWeight (sideQty side) row else 0) =
        rowWeight (qtyOf g side) row ∧
      (if row.signalId = some g then rowWeight (totalNotional side) row else 0) =
        rowWeight (notionalOf g side) row := by
  unfold rowWeight qtyOf notionalOf sideQty totalNotional
  cases Side.ofText? (Text.orEmpty row.side) with
  | none => simp
  | some s => by_cases hg : row.signalId = some g <;> simp [hg]

/-- The round trip of the executions of a signal. -/
theorem ofRows_executionsOfSignal (symbol g : String) (w : World) :
    let r := Roundtrip.ofRows symbol (w.lifecycle.executionsOfSignal g)
    r.buyQty = sumRows (qtyOf g .buy) w ∧ r.sellQty = sumRows (qtyOf g .sell) w ∧
      r.buyNotional = sumRows (notionalOf g .buy) w ∧
      r.sellNotional = sumRows (notionalOf g .sell) w := by
  intro r
  obtain ⟨h₁, h₂, h₃, h₄⟩ := ofRows_sums symbol (w.lifecycle.executionsOfSignal g)
  simp only [sum_executionsOfSignal, rowWeight_of_signal] at h₁ h₂ h₃ h₄
  exact ⟨h₁, h₂, h₃, h₄⟩

/-- The gross profit of the round trip of a signal. -/
def roundTripGross (g : String) (w : World) : ℚ :=
  (sumRows (notionalOf g .sell) w / sumRows (qtyOf g .sell) w -
      sumRows (notionalOf g .buy) w / sumRows (qtyOf g .buy) w) *
    min (sumRows (qtyOf g .buy) w) (sumRows (qtyOf g .sell) w)

/-- Where a signal sold what it bought, its gross profit is the difference of the
notionals. -/
theorem roundTripGross_of_balanced {g : String} {w : World}
    (hpos : 0 < sumRows (qtyOf g .buy) w)
    (heq : sumRows (qtyOf g .buy) w = sumRows (qtyOf g .sell) w) :
    roundTripGross g w = sumRows (notionalOf g .sell) w - sumRows (notionalOf g .buy) w := by
  unfold roundTripGross
  rw [← heq, min_self]
  field_simp

end RoundTrip

/-! ### Recorded executions -/

/-- A row the synchronisation does not skip. -/
structure RowTraded (row : ExecutionRow) : Prop where
  price_pos : 0 < row.execPrice
  qty_pos : 0 < row.execQty
  side : ∃ s, Side.ofText? (Text.orEmpty row.side) = some s
  signal : ∃ g, row.signalId = some g
  symbol_ne : row.symbol ≠ "" ∧ Text.strip (Text.upper row.symbol) ≠ ""

def AllTraded (w : World) : Prop := ∀ e ∈ w.lifecycle.executionsRaw.entries, RowTraded e.2

section Rows

variable {w : World} {g : String} {side : Side}

theorem rowWeight_qtyOf_nonneg (g : String) (side : Side) (row : ExecutionRow) :
    0 ≤ rowWeight (qtyOf g side) row := by
  unfold rowWeight qtyOf
  cases Side.ofText? (Text.orEmpty row.side) with
  | none => exact le_refl 0
  | some s =>
    dsimp only
    split_ifs with hskip hrow
    · exact le_refl 0
    · exact (not_le.mp fun h => hskip (Or.inr h)).le
    · exact le_refl 0

theorem sumRows_qtyOf_nonneg (g : String) (side : Side) (w : World) :
    0 ≤ sumRows (qtyOf g side) w := by
  refine List.sum_nonneg fun q hq => ?_
  obtain ⟨e, -, rfl⟩ := List.mem_map.mp hq
  exact rowWeight_qtyOf_nonneg g side e.2

/-- A signal has traded on a side only if it has an execution. -/
theorem executionsOfSignal_ne_nil (h : 0 < sumRows (qtyOf g side) w) :
    w.lifecycle.executionsOfSignal g ≠ [] := by
  intro hnil
  obtain ⟨hbuy, hsell, -, -⟩ := ofRows_executionsOfSignal "" g w
  rw [hnil] at hbuy hsell
  have hzero : sumRows (qtyOf g side) w = 0 := by
    cases side with
    | buy => exact hbuy.symm
    | sell => exact hsell.symm
  exact h.ne' hzero

/-- What counts for a quantity counts for a notional. -/
theorem rowWeight_notionalOf_pos {row : ExecutionRow} (h : rowWeight (qtyOf g side) row ≠ 0) :
    0 < rowWeight (notionalOf g side) row := by
  unfold rowWeight qtyOf at h
  unfold rowWeight notionalOf
  cases hside : Side.ofText? (Text.orEmpty row.side) with
  | none =>
    rw [hside] at h
    exact absurd rfl h
  | some s =>
    rw [hside] at h
    dsimp only at h ⊢
    split_ifs at h ⊢ with hskip hown
    · exact absurd rfl h
    · obtain ⟨hprice, hqty⟩ := not_or.mp hskip
      exact mul_pos (not_le.mp hprice) (not_le.mp hqty)
    · exact absurd rfl h

theorem rowWeight_notionalOf_nonneg (g : String) (side : Side) (row : ExecutionRow) :
    0 ≤ rowWeight (notionalOf g side) row := by
  by_cases h : rowWeight (qtyOf g side) row = 0
  · unfold rowWeight qtyOf at h
    unfold rowWeight notionalOf
    cases hside : Side.ofText? (Text.orEmpty row.side) with
    | none => exact le_refl 0
    | some s =>
      rw [hside] at h
      dsimp only at h ⊢
      split_ifs at h ⊢ with hskip hown
      · exact le_refl 0
      · exact absurd h (not_le.mp fun hle => hskip (Or.inr hle)).ne'
      · exact le_refl 0
  · exact (rowWeight_notionalOf_pos h).le

/-- A quantity that is traded has a row. -/
theorem exists_row_of_qty_pos (h : 0 < sumRows (qtyOf g side) w) :
    ∃ e ∈ w.lifecycle.executionsRaw.entries, rowWeight (qtyOf g side) e.2 ≠ 0 := by
  by_contra hall
  push Not at hall
  have hzero : sumRows (qtyOf g side) w = 0 := by
    unfold sumRows
    rw [List.map_congr_left hall]
    exact List.sum_map_zero
  exact h.ne' hzero

/-- A positive quantity comes at a positive notional. -/
theorem notional_pos (h : 0 < sumRows (qtyOf g side) w) :
    0 < sumRows (notionalOf g side) w := by
  obtain ⟨e, he, hne⟩ := exists_row_of_qty_pos h
  have hle := List.single_le_sum (l := w.lifecycle.executionsRaw.entries.map fun e =>
    rowWeight (notionalOf g side) e.2) (fun q hq => by
      obtain ⟨e, -, rfl⟩ := List.mem_map.mp hq
      exact rowWeight_notionalOf_nonneg g side e.2) _ (List.mem_map_of_mem he)
  exact (rowWeight_notionalOf_pos hne).trans_le hle

/-- A signal that bought and sold gets the outcome of its round trip. -/
theorem syncOutcome?_of_roundTrip {symbol : String}
    (hrows : ∀ row ∈ w.lifecycle.executionsOfSignal g, roundtripSymbol row symbol ≠ "")
    (hg : g ≠ "") (hbuy : 0 < sumRows (qtyOf g .buy) w) (hsell : 0 < sumRows (qtyOf g .sell) w) :
    syncOutcome? symbol (some g) w.lifecycle = some (g, roundTripGross g w) := by
  have htruthy : Text.truthy (some g) = some g :=
    Option.filter_eq_some_iff.mpr ⟨rfl, decide_eq_true hg⟩
  obtain ⟨first, rest, hexecutions⟩ := List.exists_cons_of_ne_nil (executionsOfSignal_ne_nil hbuy)
  have hsymbol : roundtripSymbol first symbol ≠ "" := by
    apply hrows
    rw [hexecutions]
    exact List.mem_cons_self
  have hround : roundtripOf symbol (w.lifecycle.executionsOfSignal g) =
      some (.ofRows (roundtripSymbol first symbol) (w.lifecycle.executionsOfSignal g)) := by
    rw [hexecutions, roundtripOf, if_neg hsymbol]
  obtain ⟨hb, hs, hbn, hsn⟩ := ofRows_executionsOfSignal (roundtripSymbol first symbol) g w
  have hbuyNotional := notional_pos hbuy
  have hsellNotional := notional_pos hsell
  rw [syncOutcome?, htruthy, Option.bind_some, hround, Option.bind_some]
  generalize Roundtrip.ofRows (roundtripSymbol first symbol)
    (w.lifecycle.executionsOfSignal g) = r at hb hs hbn hsn
  have hnotBuy : ¬ (r.buyQty ≤ 0 ∨ r.buyNotional ≤ 0) := by
    rw [hb, hbn]
    exact fun h => h.elim hbuy.not_ge hbuyNotional.not_ge
  have hexit : r.exitVwap = some (r.sellNotional / r.sellQty) := by
    rw [Roundtrip.exitVwap, if_pos]
    rw [hs, hsn]
    exact ⟨hsell, hsellNotional⟩
  have hmatched : ¬ r.matchedQty ≤ 0 := by
    rw [Roundtrip.matchedQty, hb, hs]
    exact not_le.mpr (lt_min hbuy hsell)
  rw [gross?_of_matched hnotBuy hexit hmatched, Roundtrip.entryVwap, Roundtrip.matchedQty, hb, hs,
    hbn, hsn]
  rfl

/-- The executions of a signal are recorded. -/
theorem mem_of_executionsOfSignal {row : ExecutionRow}
    (h : row ∈ w.lifecycle.executionsOfSignal g) :
    ∃ execId, (execId, row) ∈ w.lifecycle.executionsRaw.entries ∧ row.signalId = some g := by
  obtain ⟨e, he, rfl⟩ := List.mem_map.mp h
  obtain ⟨hmem, hsignal⟩ := List.mem_filter.mp ((List.perm_insertionSort _ _).subset he)
  exact ⟨e.1, hmem, of_decide_eq_true hsignal⟩

theorem RowTraded.roundtripSymbol_ne {row : ExecutionRow} (h : RowTraded row) (symbol : String) :
    roundtripSymbol row symbol ≠ "" := by
  rw [roundtripSymbol, if_neg h.symbol_ne.1]
  exact h.symbol_ne.2

/-- The synchronisation records an outcome only of the signal it is given. -/
theorem syncOutcome?_signal {symbol : String} {signalId : Option String} {db : LifecycleStore}
    {outcome : String × ℚ} (h : syncOutcome? symbol signalId db = some outcome) :
    signalId = some outcome.1 := by
  obtain ⟨k, hk, h⟩ := Option.bind_eq_some_iff.mp h
  obtain ⟨gross, -, rfl⟩ := Option.map_eq_some_iff.mp h
  exact (Option.filter_eq_some_iff.mp hk).1

end Rows

/-! ### One fill -/

/-- The outcome of a signal that bought and sold is its round trip, and only signals that
traded have one. -/
structure RoundTripsRecorded (w : World) : Prop where
  traded : AllTraded w
  recorded : ∀ g, 0 < sumRows (qtyOf g .buy) w → 0 < sumRows (qtyOf g .sell) w →
    ∃ row, w.lifecycle.outcomes.get? g = some row ∧ row.grossPnlQuote = roundTripGross g w
  known : ∀ g ∈ w.lifecycle.outcomes.keys,
    0 < sumRows (qtyOf g .buy) w ∨ 0 < sumRows (qtyOf g .sell) w

/-- A fill of a known signal that is processed completely, and closes no position of
another signal. -/
structure SettlesOwn (x : Context) (symbol : String) (d : Delivery) (fill : Fill) (w : World) :
    Prop where
  recorded : ∃ feeRate, d.Recorded symbol fill feeRate
  symbol_ne : symbol ≠ "" ∧ Text.strip (Text.upper symbol) ≠ ""
  price_pos : 0 < fill.price
  signal : ∃ g, signalOf d w = some g
  own : ∀ g gross, flatOutcomeOf x symbol d fill w = some (g, gross) → signalOf d w = some g
  returns : raised (work x (.item symbol d)) w = none

section Step

variable {x : Context} {symbol : String} {d : Delivery} {fill : Fill} {w : World}

theorem run_of_raised_none {m : RunM Unit} (h : raised m w = none) : m w = .ok () (after m w) := by
  unfold raised at h
  cases hm : m w with
  | ok a w' => rw [after_of_ok hm]
  | error e w' =>
    rw [hm] at h
    cases h

theorem signalOf_ne_empty {g : String} (h : signalOf d w = some g) : g ≠ "" := by
  unfold signalOf at h
  obtain ⟨link, -, h⟩ := Option.bind_eq_some_iff.mp h
  unfold LifecycleStore.getSignalIdForOrderLink at h
  dsimp only at h
  split_ifs at h
  exact of_decide_eq_true (Option.filter_eq_some_iff.mp h).2

/-- The weight of the row of a fill. -/
theorem rowWeight_executionRow {feeRate : Option ℚ} (hread : d.read symbol = .ok (some fill))
    (hprice : 0 < fill.price) (φ : Weight) (signalId : Option String) :
    rowWeight φ (executionRow symbol d signalId fill feeRate) =
      φ signalId fill.side fill.qty fill.price := by
  obtain ⟨head, hhead, hfill⟩ := exists_head_of_read hread
  have hside : Side.ofText? (Text.orEmpty d.item.side) = some fill.side := by
    rw [ofText?_of_readHead hhead, ← (fill_of_readFill hfill).1]
  have hskip : ¬ (fill.price ≤ 0 ∨ fill.qty ≤ 0) :=
    fun h => h.elim hprice.not_ge fill.qty_pos.not_ge
  unfold rowWeight executionRow
  dsimp only
  rw [hside]
  exact if_neg hskip

/-- A payment touches the outcome of its own signal only. -/
theorem get?_of_paidInFull {outcome : Option (String × ℚ)} {l l' : Ledger} {g k : String}
    (h : PaidInFullIf outcome l l') (hg : ∀ o, outcome = some o → o.1 = g) (hk : k ≠ g) :
    l'.outcomes.get? k = l.outcomes.get? k := by
  cases outcome with
  | none => rw [(h : l' = l)]
  | some o =>
    obtain ⟨row, rewardBps, -, rfl⟩ := h
    rw [Ledger.outcomes_reward]
    exact Dict.get?_set_of_ne (hg o rfl ▸ hk) _ _

/-- The sums after a fill. -/
theorem sumRows_of_executionsRaw {w' : World} {row : ExecutionRow}
    (hnew : d.execId ∉ w.lifecycle.executionsRaw.keys)
    (h : w'.lifecycle.executionsRaw = w.lifecycle.executionsRaw.insertIfAbsent d.execId row)
    (φ : Weight) : sumRows φ w' = sumRows φ w + rowWeight φ row := by
  have hget : w.lifecycle.executionsRaw.get? d.execId = none := Dict.get?_eq_none_iff.mpr hnew
  rw [sumRows, h, Dict.insertIfAbsent_of_none hget, Dict.entries_set_of_get?_eq_none hget,
    List.map_append, List.sum_append]
  simp [sumRows]

theorem allTraded_of_executionsRaw {w' : World} {row : ExecutionRow}
    (hnew : d.execId ∉ w.lifecycle.executionsRaw.keys)
    (h : w'.lifecycle.executionsRaw = w.lifecycle.executionsRaw.insertIfAbsent d.execId row)
    (hrow : RowTraded row) (hrows : AllTraded w) : AllTraded w' := by
  have hget : w.lifecycle.executionsRaw.get? d.execId = none := Dict.get?_eq_none_iff.mpr hnew
  intro e he
  rw [h, Dict.insertIfAbsent_of_none hget, Dict.entries_set_of_get?_eq_none hget] at he
  rcases List.mem_append.mp he with he | he
  · exact hrows e he
  · obtain rfl := List.mem_singleton.mp he
    exact hrow

theorem rowTraded_executionRow {feeRate : Option ℚ} (h : SettlesOwn x symbol d fill w)
    (hread : d.read symbol = .ok (some fill)) :
    RowTraded (executionRow symbol d (signalOf d w) fill feeRate) := by
  obtain ⟨head, hhead, hfill⟩ := exists_head_of_read hread
  refine ⟨h.price_pos, fill.qty_pos, ⟨fill.side, ?_⟩, h.signal, h.symbol_ne⟩
  have hside := ofText?_of_readHead hhead
  rwa [← (fill_of_readFill hfill).1] at hside

theorem roundTripsRecorded_step (hinv : RoundTripsRecorded w)
    (hfresh : d.execId ∉ w.rt.seenExecIds) (hnew : d.execId ∉ w.lifecycle.executionsRaw.keys)
    (h : SettlesOwn x symbol d fill w) :
    RoundTripsRecorded (step x (.item symbol d) w) := by
  obtain ⟨feeRate, hrec⟩ := h.recorded
  obtain ⟨g, hg⟩ := h.signal
  let w₁ := recordedWorld symbol d fill feeRate w
  let w' := step x (.item symbol d) w
  let row := executionRow symbol d (signalOf d w) fill feeRate
  have hraw : w'.lifecycle.executionsRaw = w.lifecycle.executionsRaw.insertIfAbsent d.execId row :=
    executionsRaw_step_of_recorded hfresh hrec
  have hraw₁ : w₁.lifecycle.executionsRaw = w'.lifecycle.executionsRaw := hraw.symm
  have hrows : AllTraded w' :=
    allTraded_of_executionsRaw hnew hraw (rowTraded_executionRow h hrec.read_eq) hinv.traded
  have hrows₁ : AllTraded w₁ := by
    unfold AllTraded
    rw [hraw₁]
    exact hrows
  have hsums₁ : ∀ φ, sumRows φ w₁ = sumRows φ w' := fun φ => by rw [sumRows, hraw₁, sumRows]
  have hsums : ∀ φ, sumRows φ w' =
      sumRows φ w + φ (some g) fill.side fill.qty fill.price := fun φ => by
    rw [sumRows_of_executionsRaw hnew hraw φ, rowWeight_executionRow hrec.read_eq h.price_pos, hg]
  -- what the two writers do to the outcomes
  obtain ⟨l, hflat, hsync⟩ := ledger_step_of_ok hfresh hrec (run_of_raised_none h.returns)
  have hflatSignal : ∀ o, flatOutcomeOf x symbol d fill w = some o → o.1 = g := fun o ho =>
    Option.some.inj ((h.own o.1 o.2 ho).symm.trans hg)
  have hsyncSignal : ∀ o, syncOutcomeOf symbol d fill feeRate w = some o → o.1 = g := fun o ho =>
    Option.some.inj ((syncOutcome?_signal ho).symm.trans hg)
  have hother : ∀ k, k ≠ g → w'.lifecycle.outcomes.get? k = w.lifecycle.outcomes.get? k :=
    fun k hk => (get?_of_paidInFull hsync hsyncSignal hk).trans
      (get?_of_paidInFull hflat hflatSignal hk)
  have hsame : ∀ k, k ≠ g → ∀ side, sumRows (qtyOf k side) w' = sumRows (qtyOf k side) w ∧
      sumRows (notionalOf k side) w' = sumRows (notionalOf k side) w := by
    intro k hk side
    have hne : ¬ some g = some k := fun heq => hk (Option.some.inj heq).symm
    rw [hsums, hsums]
    simp [qtyOf, notionalOf, hne]
  refine ⟨hrows, fun k hbuy hsell => ?_, fun k hk => ?_⟩
  · by_cases hkg : k = g
    · subst hkg
      -- the synchronisation comes last, and overwrites what the flat branch recorded
      have hout : syncOutcomeOf symbol d fill feeRate w = some (k, roundTripGross k w₁) := by
        unfold syncOutcomeOf
        rw [hg]
        refine syncOutcome?_of_roundTrip (fun row hrow => ?_) (signalOf_ne_empty hg) ?_ ?_
        · obtain ⟨execId, hmem, -⟩ := mem_of_executionsOfSignal hrow
          exact (hrows₁ _ hmem).roundtripSymbol_ne symbol
        · rw [hsums₁]
          exact hbuy
        · rw [hsums₁]
          exact hsell
      rw [hout] at hsync
      obtain ⟨outcome, rewardBps, hgross, hledger⟩ := hsync
      refine ⟨outcome, ?_, ?_⟩
      · have houtcomes := congrArg Ledger.outcomes hledger
        rw [Ledger.outcomes_reward] at houtcomes
        have hget : w'.lifecycle.outcomes = l.outcomes.set k outcome := houtcomes
        rw [hget, Dict.get?_set_self]
      · rw [hgross]
        simp only [roundTripGross, hsums₁]
        rfl
    · rw [(hsame k hkg .buy).1] at hbuy
      rw [(hsame k hkg .sell).1] at hsell
      obtain ⟨outcome, hget, hgross⟩ := hinv.recorded k hbuy hsell
      refine ⟨outcome, (hother k hkg).trans hget, ?_⟩
      rw [hgross]
      simp only [roundTripGross]
      rw [(hsame k hkg .buy).1, (hsame k hkg .buy).2, (hsame k hkg .sell).1, (hsame k hkg .sell).2]
  · by_cases hkg : k = g
    · subst hkg
      have hpos : 0 < sumRows (qtyOf k fill.side) w' := by
        rw [hsums]
        simp only [qtyOf, and_self, if_true]
        exact add_pos_of_nonneg_of_pos (sumRows_qtyOf_nonneg k fill.side w) fill.qty_pos
      cases hside : fill.side with
      | buy => exact Or.inl (hside ▸ hpos)
      | sell => exact Or.inr (hside ▸ hpos)
    · have hold : k ∈ w.lifecycle.outcomes.keys := by
        by_contra hnot
        have hnone := (hother k hkg).trans (Dict.get?_eq_none_iff.mpr hnot)
        exact Dict.get?_eq_none_iff.mp hnone hk
      rw [(hsame k hkg .buy).1, (hsame k hkg .sell).1]
      exact hinv.known k hold

end Step

/-! ### A run -/

section Run

variable {x : Context} {us : List Work} {w : World}

/-- What a unit of work of a settled run may use: an execution that is recorded is remembered, and a
fresh fill settles its own signal. -/
structure SettledAt (x : Context) (w : World) (u : Work) : Prop where
  remembered : ∀ execId, u.execId? = some execId →
    execId ∈ w.lifecycle.executionsRaw.keys → execId ∈ w.rt.seenExecIds
  fills : ∀ symbol d fill, u = .item symbol d → d.execId ∉ w.rt.seenExecIds →
    d.read symbol = .ok (some fill) → SettlesOwn x symbol d fill w

/-- Every delivery of a run is settled; an execution may be delivered as often as it likes. -/
def SettledRun (x : Context) (us : List Work) (w : World) : Prop :=
  ∀ t ∈ transitions (step x) us w, SettledAt x t.before t.input

/-- The sums after an item that is no readable fill are the same, and so are the
outcomes. -/
theorem same_of_unread {symbol : String} {d : Delivery}
    (hread : ∀ fill, d.read symbol ≠ .ok (some fill)) :
    (step x (.item symbol d) w).lifecycle.executionsRaw = w.lifecycle.executionsRaw ∧
      (step x (.item symbol d) w).lifecycle.outcomes = w.lifecycle.outcomes := by
  by_cases hseen : d.execId ∈ w.rt.seenExecIds
  · rw [step_of_seen hseen]
    exact ⟨rfl, rfl⟩
  rcases step_cases_of_fresh x symbol hseen with hstuck | ⟨fill, feeRate, hrec⟩
  · refine ⟨?_, hstuck.outcomes_eq⟩
    rcases hstuck.executionsRaw with hraw | ⟨⟨fill, hfill⟩, -⟩
    · exact hraw
    · exact absurd hfill (hread fill)
  · exact absurd hrec.read_eq (hread fill)

theorem RoundTripsRecorded.of_eq {w' : World} (h : RoundTripsRecorded w)
    (hraw : w'.lifecycle.executionsRaw = w.lifecycle.executionsRaw)
    (houtcomes : w'.lifecycle.outcomes = w.lifecycle.outcomes) : RoundTripsRecorded w' := by
  have hsums : ∀ φ, sumRows φ w' = sumRows φ w := fun φ => by rw [sumRows, hraw, sumRows]
  refine ⟨?_, ?_, ?_⟩
  · unfold AllTraded
    rw [hraw]
    exact h.traded
  · intro g hbuy hsell
    rw [hsums] at hbuy hsell
    obtain ⟨row, hget, hgross⟩ := h.recorded g hbuy hsell
    refine ⟨row, houtcomes ▸ hget, hgross.trans ?_⟩
    simp only [roundTripGross, hsums]
  · intro g hg
    rw [houtcomes] at hg
    rw [hsums, hsums]
    exact h.known g hg

theorem roundTripsRecorded_work {u : Work} (hinv : RoundTripsRecorded w) (h : SettledAt x w u) :
    RoundTripsRecorded (step x u w) := by
  cases u with
  | floors symbol =>
    have htables := (tables_step_floors x symbol w).1
    exact hinv.of_eq (by rw [htables]) (by rw [htables])
  | item symbol d =>
    -- a delivery made again writes nothing
    by_cases hseen : d.execId ∈ w.rt.seenExecIds
    · rw [step_of_seen hseen]
      exact hinv
    -- an unread delivery writes no row
    by_cases hread : ∃ fill, d.read symbol = .ok (some fill)
    · obtain ⟨fill, hread⟩ := hread
      have hnew := mt (h.remembered d.execId rfl) hseen
      exact roundTripsRecorded_step hinv hseen hnew (h.fills symbol d fill rfl hseen hread)
    · obtain ⟨hraw, houtcomes⟩ :=
        same_of_unread (x := x) (w := w) fun fill hfill => hread ⟨fill, hfill⟩
      exact hinv.of_eq hraw houtcomes

/-- A fresh fill counts for what it moves. -/
theorem freshWeight_of_fill {symbol : String} {d : Delivery} {fill : Fill}
    {signalId : Option String} (hfresh : d.execId ∉ w.rt.seenExecIds)
    (hread : d.read symbol = .ok (some fill)) (hsignal : signalOf d w = signalId) (φ : Weight) :
    freshWeight φ w (.item symbol d) = φ signalId fill.side fill.qty fill.price := by
  rw [freshWeight, if_neg hfresh, hread, ← hsignal]
  rfl

/-- A unit of work adds its own weight. -/
theorem sumRows_work {u : Work} (h : SettledAt x w u) (φ : Weight) :
    sumRows φ (step x u w) = sumRows φ w + freshWeight φ w u := by
  cases u with
  | floors symbol =>
    rw [sumRows, (tables_step_floors x symbol w).1]
    exact (add_zero _).symm
  | item symbol d =>
    -- made again, it weighs nothing and is passed over
    by_cases hseen : d.execId ∈ w.rt.seenExecIds
    · rw [step_of_seen hseen, freshWeight, if_pos hseen, add_zero]
    by_cases hread : ∃ fill, d.read symbol = .ok (some fill)
    · obtain ⟨fill, hread⟩ := hread
      have hnew := mt (h.remembered d.execId rfl) hseen
      have hown := h.fills symbol d fill rfl hseen hread
      obtain ⟨feeRate, hrec⟩ := hown.recorded
      rw [sumRows_of_executionsRaw hnew (executionsRaw_step_of_recorded hseen hrec) φ,
        rowWeight_executionRow hread hown.price_pos, freshWeight_of_fill hseen hread rfl]
    · have hnone : (d.read symbol).toOption.join = none := by
        cases hfill : d.read symbol with
        | error e => rfl
        | ok fill =>
          cases fill with
          | none => rfl
          | some fill => exact absurd ⟨fill, hfill⟩ hread
      rw [sumRows, (same_of_unread fun fill hfill => hread ⟨fill, hfill⟩).1, freshWeight,
        if_neg hseen, hnone]
      exact (add_zero _).symm

/-- Nothing is recorded where there are neither executions nor outcomes. -/
theorem roundTripsRecorded_of_empty (hraw : w.lifecycle.executionsRaw.entries = [])
    (houtcomes : w.lifecycle.outcomes.entries = []) : RoundTripsRecorded w := by
  have hsums : ∀ φ, sumRows φ w = 0 := fun φ => by rw [sumRows, hraw]; rfl
  refine ⟨fun e he => ?_, fun g hbuy => ?_, fun g hg => ?_⟩
  · rw [hraw] at he
    exact absurd he List.not_mem_nil
  · rw [hsums] at hbuy
    exact absurd hbuy (lt_irrefl 0)
  · rw [Dict.keys, houtcomes] at hg
    exact absurd hg List.not_mem_nil

/-- The signal of a recorded execution. -/
def rowSignal (e : String × ExecutionRow) : String := e.2.signalId.getD ""

/-- The notional of a traded row is the notional of its signal. -/
theorem rowWeight_notionalOf {e : String × ExecutionRow} (h : RowTraded e.2) (side : Side)
    (g : String) :
    rowWeight (notionalOf g side) e.2 =
      if rowSignal e = g then rowWeight (totalNotional side) e.2 else 0 := by
  obtain ⟨k, hk⟩ := h.signal
  rw [← (rowWeight_of_signal g side e.2).2, rowSignal, hk]
  by_cases hkg : k = g <;> simp [hkg]

/-- A traded row moves its signal. -/
theorem qty_pos_of_row {e : String × ExecutionRow} (he : e ∈ w.lifecycle.executionsRaw.entries)
    (h : RowTraded e.2) : ∃ side, 0 < sumRows (qtyOf (rowSignal e) side) w := by
  obtain ⟨g, hg⟩ := h.signal
  obtain ⟨side, hside⟩ := h.side
  have hskip : ¬ (e.2.execPrice ≤ 0 ∨ e.2.execQty ≤ 0) :=
    fun hle => hle.elim h.price_pos.not_ge h.qty_pos.not_ge
  have hweight : rowWeight (qtyOf (rowSignal e) side) e.2 = e.2.execQty := by
    rw [rowWeight, hside]
    simp only [hskip, if_false, qtyOf, rowSignal, hg, Option.getD_some, and_self, if_true]
  have hle := List.single_le_sum (l := w.lifecycle.executionsRaw.entries.map fun e' =>
    rowWeight (qtyOf (rowSignal e) side) e'.2) (fun q hq => by
      obtain ⟨e', -, rfl⟩ := List.mem_map.mp hq
      exact rowWeight_qtyOf_nonneg _ side e'.2) _ (List.mem_map_of_mem he)
  rw [hweight] at hle
  exact ⟨side, h.qty_pos.trans_le hle⟩

/-- Where every signal is balanced, the outcomes add up to the difference of the
notionals. -/
theorem sum_outcomes_of_balanced (h : RoundTripsRecorded w)
    (hbalanced : ∀ g, sumRows (qtyOf g .buy) w = sumRows (qtyOf g .sell) w) :
    (w.lifecycle.outcomes.entries.map fun e => e.2.grossPnlQuote).sum =
      sumRows (totalNotional .sell) w - sumRows (totalNotional .buy) w := by
  have hboth : ∀ g side, 0 < sumRows (qtyOf g side) w →
      0 < sumRows (qtyOf g .buy) w ∧ 0 < sumRows (qtyOf g .sell) w := by
    intro g side hpos
    cases side with
    | buy => exact ⟨hpos, hbalanced g ▸ hpos⟩
    | sell => exact ⟨(hbalanced g).symm ▸ hpos, hpos⟩
  -- every outcome is the difference of the notionals of its signal
  have hgross : ∀ e ∈ w.lifecycle.outcomes.entries, e.2.grossPnlQuote =
      sumRows (notionalOf e.1 .sell) w - sumRows (notionalOf e.1 .buy) w := by
    intro e he
    have hboth' : 0 < sumRows (qtyOf e.1 .buy) w ∧ 0 < sumRows (qtyOf e.1 .sell) w :=
      (h.known e.1 (List.mem_map_of_mem he)).elim (hboth e.1 .buy) (hboth e.1 .sell)
    obtain ⟨row, hget, hrow⟩ := h.recorded e.1 hboth'.1 hboth'.2
    have hentry : w.lifecycle.outcomes.get? e.1 = some e.2 := Dict.mem_entries_iff.mp he
    obtain rfl : e.2 = row := Option.some.inj (hentry.symm.trans hget)
    rw [hrow, roundTripGross_of_balanced hboth'.1 (hbalanced e.1)]
  -- every execution belongs to a signal with an outcome
  have hkeys : ∀ e ∈ w.lifecycle.executionsRaw.entries,
      rowSignal e ∈ w.lifecycle.outcomes.keys := by
    intro e he
    obtain ⟨side, hpos⟩ := qty_pos_of_row he (h.traded e he)
    obtain ⟨hbuy, hsell⟩ := hboth _ side hpos
    obtain ⟨row, hget, -⟩ := h.recorded _ hbuy hsell
    exact List.mem_map_of_mem (Dict.mem_entries_iff.mpr hget)
  have hside : ∀ side, (w.lifecycle.outcomes.keys.map fun g => sumRows (notionalOf g side) w).sum =
      sumRows (totalNotional side) w := by
    intro side
    have hnodup : w.lifecycle.outcomes.keys.Nodup := w.lifecycle.outcomes.nodupKeys
    rw [sumRows, ← Sums.sum_map_by_key hnodup rowSignal _ hkeys]
    refine congrArg List.sum (List.map_congr_left fun g _ => ?_)
    rw [sumRows]
    refine congrArg List.sum (List.map_congr_left fun e he => ?_)
    exact rowWeight_notionalOf (h.traded e he) side g
  have hadd := List.sum_map_add (l := w.lifecycle.outcomes.entries)
    (f := fun e => e.2.grossPnlQuote) (g := fun e => sumRows (notionalOf e.1 .buy) w)
  have hcancel : (w.lifecycle.outcomes.entries.map fun e =>
      e.2.grossPnlQuote + sumRows (notionalOf e.1 .buy) w) =
      w.lifecycle.outcomes.entries.map fun e => sumRows (notionalOf e.1 .sell) w :=
    List.map_congr_left fun e he => by rw [hgross e he, sub_add_cancel]
  have hsell := hside .sell
  have hbuy := hside .buy
  rw [Dict.keys, List.map_map] at hsell hbuy
  rw [eq_sub_iff_add_eq, ← hsell, ← hbuy]
  exact hadd.symm.trans (congrArg List.sum hcancel)

/-- If every fresh fill settles its own signal and every signal sells what it buys, the gross
profits of the outcomes are what was sold less what was bought. -/
theorem gross_adds_up (x : Context) (batches : List (List Fetch)) (w₀ : World)
    (hraw : w₀.lifecycle.executionsRaw.entries = [])
    (houtcomes : w₀.lifecycle.outcomes.entries = [])
    (hrun : SettledRun x (reached x batches w₀) w₀)
    (hbalanced : BalancedSignals x (reached x batches w₀) w₀) :
    ((runRefreshes x batches w₀).lifecycle.outcomes.entries.map fun e => e.2.grossPnlQuote).sum =
      sumFresh (totalNotional .sell) x (reached x batches w₀) w₀ -
        sumFresh (totalNotional .buy) x (reached x batches w₀) w₀ := by
  rw [runRefreshes_eq_run]
  generalize reached x batches w₀ = us at hrun hbalanced
  have hstep : ∀ w u, RoundTripsRecorded w → SettledAt x w u → RoundTripsRecorded (step x u w) :=
    fun _ _ h hs => roundTripsRecorded_work h hs
  have hrecorded : RoundTripsRecorded (run (step x) us w₀) :=
    run_of_inv hstep (roundTripsRecorded_of_empty hraw houtcomes) hrun
  -- the recorded executions add up to the fresh deliveries
  have hsums : ∀ φ, sumRows φ (run (step x) us w₀) = sumFresh φ x us w₀ := by
    intro φ
    have hzero : sumRows φ w₀ = 0 := by rw [sumRows, hraw]; rfl
    have hadds : ∀ t ∈ transitions (step x) us w₀,
        sumRows φ t.after = sumRows φ t.before + freshWeight φ t.before t.input := by
      intro t ht
      rw [after_eq_step ht, sumRows_work (hrun t ht)]
    rw [val_run_of_adds hadds, hzero, zero_add, sumFresh]
  rw [sum_outcomes_of_balanced hrecorded fun g => by rw [hsums, hsums, hbalanced g], hsums, hsums]

end Run

/-! ### Concrete runs -/

/-- Two entries of one coin at two prices, and one exit of both. -/
def secondEntry : List (List Fetch) :=
  [[Fetch.single "AAAUSDT" (linkedDelivery "e1" "mm-1" "Buy" "1" "100")],
    [Fetch.single "AAAUSDT" (linkedDelivery "e2" "mm-2" "Buy" "1" "110")],
    [Fetch.single "AAAUSDT" (linkedDelivery "e3" "px-1" "Sell" "2" "120")]]

/-- The exit belongs to the signal of the first entry, and only one of its two coins is
matched; the second entry never gets an outcome. -/
theorem second_entry_lost :
    ((runRefreshes spotMarket secondEntry signalWorld).lifecycle.outcomes.entries.map
        fun e => e.2.grossPnlQuote).sum = 20 ∧
      sumFresh (totalNotional .sell) spotMarket (reached spotMarket secondEntry signalWorld)
          signalWorld -
        sumFresh (totalNotional .buy) spotMarket (reached spotMarket secondEntry signalWorld)
          signalWorld = 30 ∧
      ((runRefreshes spotMarket secondEntry signalWorld).rt.position "AAAUSDT").qty = 0 := by
  decide +kernel

/-- One entry, delivered a second time by the next poll, and its exit. -/
def oneRoundTrip : List (String × Delivery) :=
  [("AAAUSDT", linkedDelivery "e1" "mm-1" "Buy" "1" "100"),
    ("AAAUSDT", linkedDelivery "e1" "mm-1" "Buy" "1" "100"),
    ("AAAUSDT", linkedDelivery "e2" "px-1" "Sell" "1" "110")]

/-- A sale of one coin at a hundred and ten, as a fill. -/
def oneCoinSale : Fill where
  side := .sell
  qty := 1
  price := 110
  qty_pos := unit_pos
  execFee := 0
  feeCurrency := ""
  execTimeMs := 1700000000000
  effectiveQty := 1
  effectiveQty_pos := unit_pos

/-- Before the entry, before it is delivered again, and before the exit. -/
def roundTripWorlds : World × World × World :=
  let entry : Work := .item "AAAUSDT" (linkedDelivery "e1" "mm-1" "Buy" "1" "100")
  let w₁ := step spotMarket (.floors "AAAUSDT") signalWorld
  let w₂ := step spotMarket (.floors "AAAUSDT") (step spotMarket entry w₁)
  (w₁, w₂, step spotMarket (.floors "AAAUSDT") (step spotMarket entry w₂))

/-- One entry of a hundred and its exit of a hundred and ten realise ten. -/
theorem oneRoundTrip_adds_up :
    ((runRefreshes spotMarket (oneRoundTrip.map fun e => [Fetch.single e.1 e.2])
        signalWorld).lifecycle.outcomes.entries.map fun e => e.2.grossPnlQuote).sum = 10 := by
  have hreached : reached spotMarket (oneRoundTrip.map fun e => [Fetch.single e.1 e.2])
      signalWorld = oneRoundTrip.flatMap fun e => [.floors e.1, .item e.1 e.2] :=
    reached_single rfl oneRoundTrip signalWorld
  have hbuy : SettlesOwn spotMarket "AAAUSDT" (linkedDelivery "e1" "mm-1" "Buy" "1" "100")
      oneCoinFill roundTripWorlds.1 := by
    have hflat : flatOutcomeOf spotMarket "AAAUSDT" (linkedDelivery "e1" "mm-1" "Buy" "1" "100")
        oneCoinFill roundTripWorlds.1 = none := by decide +kernel
    refine ⟨⟨none, by decide +kernel, by decide +kernel, fun _ => rfl, rfl⟩, by decide +kernel,
      by norm_num [oneCoinFill], ⟨"sig-1", by decide +kernel⟩, fun g gross h => ?_,
      by decide +kernel⟩
    rw [hflat] at h
    cases h
  have hsell : SettlesOwn spotMarket "AAAUSDT" (linkedDelivery "e2" "px-1" "Sell" "1" "110")
      oneCoinSale roundTripWorlds.2.2 := by
    have hsignal : signalOf (linkedDelivery "e2" "px-1" "Sell" "1" "110") roundTripWorlds.2.2 =
        some "sig-1" := by decide +kernel
    have hflat : flatOutcomeOf spotMarket "AAAUSDT"
        (linkedDelivery "e2" "px-1" "Sell" "1" "110") oneCoinSale roundTripWorlds.2.2 =
          some ("sig-1", 10) := by decide +kernel
    refine ⟨⟨none, by decide +kernel, by decide +kernel, fun _ => rfl, rfl⟩, by decide +kernel,
      by norm_num [oneCoinSale], ⟨"sig-1", hsignal⟩, fun g gross h => ?_, by decide +kernel⟩
    rw [hflat] at h
    rw [hsignal]
    exact congrArg (Option.map Prod.fst) h
  have hreads : (linkedDelivery "e1" "mm-1" "Buy" "1" "100").read "AAAUSDT" =
      .ok (some oneCoinFill) ∧ (linkedDelivery "e2" "px-1" "Sell" "1" "110").read "AAAUSDT" =
        .ok (some oneCoinSale) := by decide +kernel
  have hseen : (linkedDelivery "e1" "mm-1" "Buy" "1" "100").execId ∈
      roundTripWorlds.2.1.rt.seenExecIds := by decide +kernel
  have hremembered : ∀ t ∈ transitions (step spotMarket)
      (oneRoundTrip.flatMap fun e => [.floors e.1, .item e.1 e.2]) signalWorld,
      ∀ execId ∈ t.input.execId?, execId ∈ t.before.lifecycle.executionsRaw.keys →
        execId ∈ t.before.rt.seenExecIds := by decide +kernel
  have hmain := gross_adds_up spotMarket (oneRoundTrip.map fun e => [Fetch.single e.1 e.2])
    signalWorld rfl rfl ?_ ?_
  · rw [hmain, hreached]
    decide +kernel
  · rw [hreached]
    refine fun t ht => ⟨hremembered t ht, fun symbol d fill hinput hfresh hread => ?_⟩
    rcases List.mem_cons.mp ht with rfl | ht
    · cases hinput
    rcases List.mem_cons.mp ht with rfl | ht
    · cases hinput
      obtain rfl : oneCoinFill = fill :=
        Option.some.inj (Except.ok.inj (hreads.1.symm.trans hread))
      exact hbuy
    rcases List.mem_cons.mp ht with rfl | ht
    · cases hinput
    rcases List.mem_cons.mp ht with rfl | ht
    · cases hinput
      exact absurd hseen hfresh
    rcases List.mem_cons.mp ht with rfl | ht
    · cases hinput
    obtain rfl := List.mem_singleton.mp ht
    cases hinput
    obtain rfl : oneCoinSale = fill :=
      Option.some.inj (Except.ok.inj (hreads.2.symm.trans hread))
    exact hsell
  · intro g
    -- the second delivery of the entry counts for nothing
    have hsum : ∀ φ, sumFresh φ spotMarket (oneRoundTrip.flatMap fun e =>
        [.floors e.1, .item e.1 e.2]) signalWorld =
          φ (some "sig-1") .buy 1 100 + φ (some "sig-1") .sell 1 110 := by
      intro φ
      have hentry : freshWeight φ roundTripWorlds.1
          (.item "AAAUSDT" (linkedDelivery "e1" "mm-1" "Buy" "1" "100")) =
            φ (some "sig-1") .buy 1 100 :=
        freshWeight_of_fill (by decide +kernel) hreads.1 (by decide +kernel) φ
      have hexit : freshWeight φ roundTripWorlds.2.2
          (.item "AAAUSDT" (linkedDelivery "e2" "px-1" "Sell" "1" "110")) =
            φ (some "sig-1") .sell 1 110 :=
        freshWeight_of_fill (by decide +kernel) hreads.2 (by decide +kernel) φ
      have hagain : freshWeight φ roundTripWorlds.2.1
          (.item "AAAUSDT" (linkedDelivery "e1" "mm-1" "Buy" "1" "100")) = 0 := if_pos hseen
      calc _ = [0, freshWeight φ roundTripWorlds.1
            (.item "AAAUSDT" (linkedDelivery "e1" "mm-1" "Buy" "1" "100")), 0,
          freshWeight φ roundTripWorlds.2.1
            (.item "AAAUSDT" (linkedDelivery "e1" "mm-1" "Buy" "1" "100")), 0,
          freshWeight φ roundTripWorlds.2.2
            (.item "AAAUSDT" (linkedDelivery "e2" "px-1" "Sell" "1" "110"))].sum := rfl
        _ = _ := by
          rw [hentry, hagain, hexit]
          simp
    rw [hreached, hsum, hsum]
    simp [qtyOf]

end Botik
