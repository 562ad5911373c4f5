import Botik.Main.RefreshFacts

/-!
# What position tracking loses

A tracked quantity is the signed sum of the delivered quantities, less what was
dropped on the way: the residues below one of the two floors, which are reset to
zero and not carried over. Each residue is small, their sum need not be.

## Main definitions

* `Work.fill?`, `Work.signedQty` — the fill a unit of work delivers for a symbol
* `DeliveredOnce` — no execution is delivered twice
* `Dust` — a delivery that drops a residue below a floor
* `Accountable` — a run whose fills are all recorded and no position of which is
  closed by an emergency order

## Main results

* `qty_add_dropped` — what is tracked and what was dropped is what came in
* `residues_add_up` — two buys below the notional floor are lost
-/

namespace Botik

open Program Runs

/-- The fill a unit of work delivers for a symbol. -/
def Work.fill? (symbol : String) : Work → Option Fill
  | .floors _ => none
  | .item s d => if s = symbol then (d.read symbol).toOption.join else none

/-- The quantity by which a unit of work should move the position of a symbol. -/
def Work.signedQty (symbol : String) (u : Work) : ℚ := ((u.fill? symbol).map Fill.signedQty).getD 0

theorem fill?_item (symbol : String) (d : Delivery) :
    Work.fill? symbol (.item symbol d) = (d.read symbol).toOption.join := if_pos rfl

theorem signedQty_of_read {symbol : String} {d : Delivery} {fill : Fill}
    (h : d.read symbol = .ok (some fill)) :
    Work.signedQty symbol (.item symbol d) = fill.signedQty := by
  rw [Work.signedQty, fill?_item, h]
  rfl

theorem signedQty_of_unread {symbol : String} {d : Delivery}
    (h : ∀ fill, d.read symbol ≠ .ok (some fill)) :
    Work.signedQty symbol (.item symbol d) = 0 := by
  rw [Work.signedQty, fill?_item]
  cases hread : d.read symbol with
  | error e => rfl
  | ok read =>
    cases read with
    | none => rfl
    | some fill => exact absurd hread (h fill)

theorem signedQty_of_ne {symbol s : String} (d : Delivery) (h : s ≠ symbol) :
    Work.signedQty symbol (.item s d) = 0 := by
  rw [Work.signedQty, Work.fill?, if_neg h]
  rfl

/-! ### Delivered once -/

/-- No execution id comes twice, and none was seen before. -/
structure DeliveredOnce (us : List Work) (w : World) : Prop where
  nodup : (us.filterMap Work.execId?).Nodup
  unseen : ∀ execId ∈ us.filterMap Work.execId?, execId ∉ w.rt.seenExecIds

/-- A unit of work lets only its own id be seen. -/
theorem mem_seenExecIds_step {x : Context} {u : Work} {w : World} {execId : String}
    (h : execId ∈ (step x u w).rt.seenExecIds) :
    u.execId? = some execId ∨ execId ∈ w.rt.seenExecIds := by
  cases u with
  | floors symbol =>
    rw [seenExecIds_step_floors] at h
    exact Or.inr h
  | item symbol d =>
    rw [seenExecIds_step] at h
    split_ifs at h with hseen
    · exact Or.inr h
    · rcases BoundedSet.mem_of_mem_add h with rfl | hmem
      · exact Or.inl rfl
      · exact Or.inr hmem

/-- Executions that are delivered once are fresh when they come. -/
theorem DeliveredOnce.fresh {x : Context} {us : List Work} {w : World} (h : DeliveredOnce us w)
    {t : Transition World Work} (ht : t ∈ transitions (step x) us w) {execId : String}
    (hid : t.input.execId? = some execId) : execId ∉ t.before.rt.seenExecIds := by
  induction us generalizing w with
  | nil => simp at ht
  | cons u us ih =>
    rcases List.mem_cons.mp ht with rfl | ht
    · exact h.unseen execId (List.mem_filterMap.mpr ⟨u, List.mem_cons_self, hid⟩)
    · refine ih ⟨?_, fun id hmem hseen => ?_⟩ ht
      · exact h.nodup.sublist ((List.sublist_cons_self u us).filterMap _)
      · rcases mem_seenExecIds_step hseen with hu | hseen
        · have hnodup := h.nodup
          rw [List.filterMap_cons_some hu] at hnodup
          exact (List.nodup_cons.mp hnodup).1 hmem
        · exact h.unseen id (((List.sublist_cons_self u us).filterMap _).subset hmem) hseen

/-! ### One delivery -/

/-- The tracked quantity of a symbol. -/
def trackedQty (symbol : String) (w : World) : ℚ := (w.rt.position symbol).qty

/-- What a transition did not add to the tracked quantity. -/
def residue (symbol : String) (t : Transition World Work) : ℚ :=
  dropped (Work.signedQty symbol) (trackedQty symbol) t

/-- The transition delivers a fill that leaves less than one of the floors, and
drops exactly that. -/
structure Dust (x : Context) (symbol : String) (t : Transition World Work) (fill : Fill) :
    Prop where
  delivered : t.input.fill? symbol = some fill
  residue_eq : residue symbol t = (moved (t.before.rt.position symbol) fill).qty
  flat : t.after.rt.position symbol = .flat
  small : |residue symbol t| < positionFloor x.config t.before.rt symbol ∨
    x.config.spotNotionalFloorEnabled = true ∧
      |residue symbol t| * fill.price < positionNotionalFloor x.config t.before.rt symbol

/-- A delivered fill of the symbol is recorded, has a price, and does not lead to
an accepted emergency close. -/
structure FillAccountable (x : Context) (symbol : String) (d : Delivery) (fill : Fill)
    (w : World) : Prop where
  price_pos : 0 < fill.price
  recorded : ∃ feeRate, d.Recorded symbol fill feeRate
  not_closed : let new := moved (w.rt.position symbol) fill
    ProtectionDue x d.env w.rt symbol new.qty (entryPriceOr new fill.price) →
      ¬ EmergencyClosed x d.env (w.rt.details symbol) new.qty (entryPriceOr new fill.price)

theorem not_isEffective_iff {c : Config} {rt : Runtime} {symbol : String} {qty price : ℚ} :
    ¬ IsEffective c rt symbol qty price ↔
      |qty| < positionFloor c rt symbol ∨ c.spotNotionalFloorEnabled = true ∧
        0 < positionNotionalFloor c rt symbol ∧
          |qty| * price < positionNotionalFloor c rt symbol := by
  unfold IsEffective
  rw [not_and_or, not_le, Classical.not_imp, Classical.not_imp, not_le]

/-- A fresh fill is added to the position, or the little it leaves is dropped. -/
theorem residue_of_fill {x : Context} {symbol : String} {d : Delivery} {fill : Fill} {w : World}
    (hread : d.read symbol = .ok (some fill)) (hfresh : d.execId ∉ w.rt.seenExecIds)
    (h : FillAccountable x symbol d fill w) :
    let t : Transition World Work := ⟨w, .item symbol d, step x (.item symbol d) w⟩
    residue symbol t = 0 ∨ Dust x symbol t fill := by
  intro t
  obtain ⟨feeRate, hrec⟩ := h.recorded
  have hamount := signedQty_of_read hread
  have hqty : (moved (w.rt.position symbol) fill).qty = (w.rt.position symbol).qty + fill.signedQty :=
    moved_qty _ h.price_pos
  rcases position_step_of_recorded (x := x) hfresh hrec with hpos | ⟨hreset, hpos⟩
  · refine Or.inl ?_
    have hafter : trackedQty symbol t.after = (w.rt.position symbol).qty + fill.signedQty := by
      rw [trackedQty, hpos, Function.update_self, hqty]
    rw [residue, dropped, hafter, hamount]
    exact sub_self _
  · refine Or.inr ?_
    have hflat : t.after.rt.position symbol = .flat := by rw [hpos, Function.update_self]
    have hres : residue symbol t = (moved (w.rt.position symbol) fill).qty := by
      rw [residue, dropped, trackedQty, trackedQty, hflat, hamount, hqty]
      exact sub_zero _
    have hsmall : ¬ IsEffective x.config w.rt symbol (moved (w.rt.position symbol) fill).qty
        fill.price := hreset.resolve_right fun hclosed => h.not_closed hclosed.1 hclosed.2
    refine ⟨?_, hres, hflat, ?_⟩
    · rw [fill?_item, hread]
      rfl
    · rw [hres]
      exact (not_isEffective_iff.mp hsmall).imp_right fun hspot => ⟨hspot.1, hspot.2.2⟩

/-! ### Runs -/

/-- No execution comes twice, and each fill of the symbol is accountable when it
comes. -/
structure Accountable (x : Context) (symbol : String) (us : List Work) (w : World) : Prop where
  once : DeliveredOnce us w
  fills : ∀ t ∈ transitions (step x) us w, ∀ d fill, t.input = .item symbol d →
    d.read symbol = .ok (some fill) → FillAccountable x symbol d fill t.before

/-- In an accountable run, a transition drops nothing or dust. -/
theorem Accountable.residue_cases {x : Context} {symbol : String} {us : List Work} {w : World}
    (h : Accountable x symbol us w) {t : Transition World Work}
    (ht : t ∈ transitions (step x) us w) :
    residue symbol t = 0 ∨ ∃ fill, Dust x symbol t fill := by
  have hfresh : ∀ execId, t.input.execId? = some execId → execId ∉ t.before.rt.seenExecIds :=
    fun execId hid => h.once.fresh ht hid
  have hfills := h.fills t ht
  have hstep := after_eq_step ht
  obtain ⟨before, input, after⟩ := t
  obtain rfl : after = step x input before := hstep
  cases input with
  | floors s =>
    refine Or.inl ?_
    rw [residue, dropped, trackedQty, trackedQty, position_step_floors]
    exact sub_eq_zero.mpr (add_zero _)
  | item s d =>
    by_cases hs : s = symbol
    · subst hs
      by_cases hread : ∃ fill, d.read s = .ok (some fill)
      · obtain ⟨fill, hread⟩ := hread
        exact (residue_of_fill hread (hfresh d.execId rfl) (hfills d fill rfl hread)).imp_right
          fun hdust => ⟨fill, hdust⟩
      · -- an item without a fill gets stuck, and nothing moves
        refine Or.inl ?_
        rcases step_cases_of_fresh x s (hfresh d.execId rfl) with hstuck | ⟨fill, _, hrec⟩
        · rw [residue, dropped, trackedQty, trackedQty, hstuck.rt_eq,
            signedQty_of_unread fun fill hfill => hread ⟨fill, hfill⟩]
          exact sub_eq_zero.mpr (add_zero _)
        · exact absurd ⟨fill, hrec.read_eq⟩ hread
    · refine Or.inl ?_
      rw [residue, dropped, trackedQty, trackedQty, position_step_of_ne (Ne.symm hs),
        signedQty_of_ne d hs]
      exact sub_eq_zero.mpr (add_zero _)

/-- All that the run delivered for the symbol. -/
def delivered (symbol : String) (us : List Work) : ℚ := (us.map (Work.signedQty symbol)).sum

/-- All that the run dropped. -/
def lost (x : Context) (symbol : String) (us : List Work) (w : World) : ℚ :=
  ((transitions (step x) us w).map (residue symbol)).sum

/-- What is tracked and what was dropped is what came in. -/
theorem trackedQty_run_add_lost (x : Context) (symbol : String) (us : List Work) (w : World) :
    trackedQty symbol (run (step x) us w) + lost x symbol us w =
      trackedQty symbol w + delivered symbol us :=
  val_run_add_sum_dropped (Work.signedQty symbol) (trackedQty symbol)

theorem lost_eq_zero {x : Context} {symbol : String} {us : List Work} {w : World}
    (h : ∀ t ∈ transitions (step x) us w, residue symbol t = 0) : lost x symbol us w = 0 :=
  List.sum_eq_zero fun q hq => by
    obtain ⟨t, ht, rfl⟩ := List.mem_map.mp hq
    exact h t ht

/-- In every run in which each execution comes once: the tracked quantity differs
from the delivered total by exactly the residues dropped on the way, each of them
below a floor at the time. Where none is dropped, the total is tracked, however it
was cut. -/
theorem qty_add_dropped (x : Context) (symbol : String) (batches : List (List Fetch)) (w : World)
    (h : Accountable x symbol (reached x batches w) w) :
    let us := reached x batches w
    let ts := transitions (step x) us w
    let w' := runRefreshes x batches w
    (w'.rt.position symbol).qty + (ts.map (residue symbol)).sum =
        (w.rt.position symbol).qty + (us.map (Work.signedQty symbol)).sum ∧
      (∀ t ∈ ts, residue symbol t = 0 ∨ ∃ fill, Dust x symbol t fill) ∧
      ∀ batches' : List (List Fetch),
        let us' := reached x batches' w
        (us'.map (Work.signedQty symbol)).sum = (us.map (Work.signedQty symbol)).sum →
        (∀ t ∈ ts, residue symbol t = 0) →
        (∀ t ∈ transitions (step x) us' w, residue symbol t = 0) →
        ((runRefreshes x batches' w).rt.position symbol).qty = (w'.rt.position symbol).qty := by
  intro us ts w'
  have htotal : ∀ bs, trackedQty symbol (runRefreshes x bs w) + lost x symbol (reached x bs w) w =
      trackedQty symbol w + delivered symbol (reached x bs w) := by
    intro bs
    rw [runRefreshes_eq_run]
    exact trackedQty_run_add_lost x symbol (reached x bs w) w
  refine ⟨htotal batches, fun t ht => h.residue_cases ht, ?_⟩
  intro batches' us' hsame hnone hnone'
  have hleft := htotal batches'
  have hright := htotal batches
  rw [lost_eq_zero hnone', add_zero] at hleft
  rw [lost_eq_zero hnone, add_zero] at hright
  calc trackedQty symbol (runRefreshes x batches' w)
      = trackedQty symbol w + delivered symbol us' := hleft
    _ = trackedQty symbol w + delivered symbol us := by rw [delivered, delivered, hsame]
    _ = trackedQty symbol w' := hright.symm

/-! ### Small buys -/

/-- Half of what the notional floor asks for, in two executions; and the same in
one. -/
def halfBuy (execId : String) : Delivery := plainDelivery execId "Buy" "0.006" "100"

def wholeBuy : Delivery := plainDelivery "e3" "Buy" "0.012" "100"

def halfBuyFill : Fill where
  side := .buy
  qty := 6 / 1000
  price := 100
  qty_pos := by norm_num
  execFee := 0
  feeCurrency := ""
  execTimeMs := 1700000000000
  effectiveQty := 6 / 1000
  effectiveQty_pos := by norm_num

theorem halfBuy_recorded : (halfBuy "e1").Recorded "AAAUSDT" halfBuyFill none where
  read_eq := by decide +kernel
  feeRate_eq := by decide +kernel
  signalId_ok := fun _ => rfl
  executionEvent_ok := rfl

/-- Two buys, each below the notional floor, leave nothing tracked, although
together they are well above the floor of quantity; in one execution they are
tracked. -/
theorem residues_add_up :
    let w := World.initial spotMarket.config
    let batches := [[Fetch.single "AAAUSDT" (halfBuy "e1")], [Fetch.single "AAAUSDT" (halfBuy "e2")]]
    let w' := runRefreshes spotMarket batches w
    let total := ((reached spotMarket batches w).map (Work.signedQty "AAAUSDT")).sum
    total = 12 / 1000 ∧ (w'.rt.position "AAAUSDT").qty = 0 ∧
      positionFloor spotMarket.config w'.rt "AAAUSDT" ≤ |(w'.rt.position "AAAUSDT").qty - total| ∧
      ((runRefreshes spotMarket [[Fetch.single "AAAUSDT" wholeBuy]] w).rt.position "AAAUSDT").qty =
        12 / 1000 := by
  decide +kernel

/-- A run of one buy is accountable, and its little is dropped. -/
theorem halfBuy_dropped :
    let w := World.initial spotMarket.config
    let us := reached spotMarket [[Fetch.single "AAAUSDT" (halfBuy "e1")]] w
    let w' := runRefreshes spotMarket [[Fetch.single "AAAUSDT" (halfBuy "e1")]] w
    (w'.rt.position "AAAUSDT").qty +
        ((transitions (step spotMarket) us w).map (residue "AAAUSDT")).sum =
      (w.rt.position "AAAUSDT").qty + (us.map (Work.signedQty "AAAUSDT")).sum := by
  intro w us w'
  have hreached : us = [.floors "AAAUSDT", .item "AAAUSDT" (halfBuy "e1")] :=
    reached_single rfl [("AAAUSDT", halfBuy "e1")] w
  refine (qty_add_dropped spotMarket "AAAUSDT" _ w ⟨⟨?_, ?_⟩, ?_⟩).1
  · exact (congrArg (fun us => (us.filterMap Work.execId?).Nodup) hreached).mpr (by decide +kernel)
  · intro execId _
    exact Finset.notMem_empty execId
  · intro t ht d fill hinput hread
    obtain rfl : d = halfBuy "e1" := by
      have hmem : Work.item "AAAUSDT" d ∈ us := hinput ▸ input_mem ht
      rw [hreached] at hmem
      simpa using hmem
    obtain rfl : fill = halfBuyFill :=
      Option.some.inj (Except.ok.inj (hread.symm.trans halfBuy_recorded.read_eq))
    refine ⟨by norm_num [halfBuyFill], ⟨none, halfBuy_recorded⟩, fun hdue => ?_⟩
    exact absurd hdue.1 (by decide)

end Botik
