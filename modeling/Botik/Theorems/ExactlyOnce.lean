import Botik.Main.RefreshFacts

/-!
# Executions are ingested at most once

The exchange answers every request with up to a hundred recent executions, so the
same execution is delivered over and over. The set of seen ids keeps it from being
applied twice — as long as the id is still in the set. Past 20000 ids the set is
emptied as a whole, and an execution delivered before and again after that is
applied a second time.

## Main definitions

* `Remembered` — every re-delivered id is found in the set
* `MovesPosition`, `AddsFill` — the effects of one execution

## Main results

* `executions_ingested_at_most_once` — where re-delivered ids are remembered
* `redelivered_moves_twice` — where one is forgotten
-/

namespace Botik

open Program Runs

/-- In a run, whatever was delivered before is still among the seen ids when it is
delivered again. -/
def Remembered (ts : List (Transition World Work)) : Prop :=
  ts.Pairwise fun t t' => ∀ execId, t.input.execId? = some execId →
    t'.input.execId? = some execId → execId ∈ t'.before.rt.seenExecIds

/-- The delivery of this execution changes a position. -/
def MovesPosition (execId : String) (t : Transition World Work) : Prop :=
  t.input.execId? = some execId ∧ t.after.rt.position ≠ t.before.rt.position

/-- The delivery of this execution writes to `fills`. -/
def AddsFill (execId : String) (t : Transition World Work) : Prop :=
  t.input.execId? = some execId ∧ t.after.legacy.fills ≠ t.before.legacy.fills

/-- A delivery whose id was seen has no effect. -/
theorem after_eq_before_of_seen {x : Context} {us : List Work} {w : World} {execId : String}
    {t : Transition World Work} (ht : t ∈ transitions (step x) us w)
    (hid : t.input.execId? = some execId) (hseen : execId ∈ t.before.rt.seenExecIds) :
    t.after = t.before := by
  rw [after_eq_step ht]
  cases hinput : t.input with
  | floors symbol => simp [hinput, Work.execId?] at hid
  | item symbol d =>
    rw [hinput, Work.execId?, Option.some.injEq] at hid
    exact step_of_seen (hid ▸ hseen)

/-- A run in which re-delivered ids are remembered has every effect of an
execution that shows at all at most once. -/
theorem Remembered.atMostOnce {x : Context} {us : List Work} {w : World}
    (h : Remembered (transitions (step x) us w)) (execId : String)
    (P : Transition World Work → Prop)
    (hid : ∀ t, P t → t.input.execId? = some execId) (hchange : ∀ t, P t → t.after ≠ t.before) :
    AtMostOnce P (transitions (step x) us w) := by
  refine AtMostOnce.of_pairwise (h.imp_of_mem fun {t t'} _ ht' hmem hP hP' => ?_)
  exact hchange t' hP' (after_eq_before_of_seen ht' (hid t' hP') (hmem execId (hid t hP) (hid t' hP')))

/-- The rows of `fills` grow by at most one in a step. -/
theorem length_fills_step_le (x : Context) (u : Work) (w : World) :
    (step x u w).legacy.fills.length ≤ w.legacy.fills.length + 1 := by
  cases u with
  | floors symbol => rw [(tables_step_floors x symbol w).2.1]; omega
  | item symbol d =>
    rcases fills_step x symbol d w with h | ⟨fill, h⟩
    · rw [h]; omega
    · rw [h, List.length_append, List.length_singleton]

/-- Where re-delivered ids are remembered, each execution changes a position at
most once, writes at most one row of `fills`, and has at most one row in
`executions_raw`. -/
theorem executions_ingested_at_most_once (x : Context) (batches : List (List Fetch)) (w : World)
    (execId : String)
    (hremembered : Remembered (transitions (step x) (reached x batches w) w)) :
    let ts := transitions (step x) (reached x batches w) w
    AtMostOnce (MovesPosition execId) ts ∧
      AtMostOnce (AddsFill execId) ts ∧
      (∀ t ∈ ts, t.after.legacy.fills.length ≤ t.before.legacy.fills.length + 1) ∧
      ((runRefreshes x batches w).lifecycle.executionsRaw.entries.filter
        fun e => e.1 = execId).length ≤ 1 := by
  refine ⟨?_, ?_, fun t ht => ?_, ?_⟩
  · refine hremembered.atMostOnce execId _ (fun t ht => ht.1) fun t ht heq => ht.2 ?_
    rw [heq]
  · refine hremembered.atMostOnce execId _ (fun t ht => ht.1) fun t ht heq => ht.2 ?_
    rw [heq]
  · rw [after_eq_step ht]
    exact length_fills_step_le x t.input t.before
  · exact Dict.length_filter_key_le_one execId

/-! ### Past the limit -/

/-- Ids of every length. -/
def numberedId (n : ℕ) : String := String.ofList (List.replicate n 'e')

theorem numberedId_injective : Function.Injective numberedId := by
  intro m n h
  have := congrArg (fun s => s.toList.length) h
  simpa [numberedId] using this

theorem execId_numbered (n : ℕ) (side qty price : String) :
    (plainDelivery (numberedId (n + 1)) side qty price).execId = numberedId (n + 1) := by
  have hne : numberedId (n + 1) ≠ "" := fun h => by
    have := congrArg (fun s => s.toList.length) h
    simp [numberedId] at this
  simp [Delivery.execId, plainDelivery, plainItem, ExecutionItem.executionId, Text.truthy,
    Option.filter, hne]

def twoSymbols : Context where
  config := .default ["AAAUSDT", "BBBUSDT"] .spot
  executor := some (bybitRestClient (fun _ => none) fun _ => none)

/-- A buy of one coin. -/
def firstBuy : Delivery := plainDelivery (numberedId 1) "Buy" "1" "100"

/-- Other executions of another symbol. -/
def otherBuy (n : ℕ) : String × Delivery :=
  ("BBBUSDT", plainDelivery (numberedId (n + 2)) "Buy" "1" "100")

/-- The buy, then as many executions of the other symbol as the set may hold. -/
def longHistory : List (String × Delivery) :=
  ("AAAUSDT", firstBuy) :: (List.range seenLimit).map otherBuy

def firstBuyFill : Fill where
  side := .buy
  qty := 1
  price := 100
  qty_pos := unit_pos
  execFee := 0
  feeCurrency := ""
  execTimeMs := 1700000000000
  effectiveQty := 1
  effectiveQty_pos := unit_pos

theorem firstBuy_recorded : firstBuy.Recorded "AAAUSDT" firstBuyFill none where
  read_eq := by decide +kernel
  feeRate_eq := by decide +kernel
  signalId_ok := fun _ => rfl
  executionEvent_ok := rfl

/-- With its default floors, the buy adds a coin to any long position. -/
theorem qty_step_firstBuy {w : World} (hfresh : firstBuy.execId ∉ w.rt.seenExecIds)
    (hfloor : w.rt.positionFloor (floorKey "AAAUSDT") = some (1 / 1000000))
    (hnotional : w.rt.notionalFloor (floorKey "AAAUSDT") = some 1)
    (hlong : 0 ≤ (w.rt.position "AAAUSDT").qty) :
    ((step twoSymbols (.item "AAAUSDT" firstBuy) w).rt.position "AAAUSDT").qty =
      (w.rt.position "AAAUSDT").qty + 1 := by
  have hnew : (moved (w.rt.position "AAAUSDT") firstBuyFill).qty =
      (w.rt.position "AAAUSDT").qty + 1 := moved_qty _ (by norm_num [firstBuyFill])
  rcases position_step_of_recorded (x := twoSymbols) hfresh firstBuy_recorded with
    h | ⟨hreset, _⟩
  · rw [h, Function.update_self, hnew]
  · exfalso
    rcases hreset with hsmall | ⟨hdue, _⟩
    · apply hsmall
      have habs : |(w.rt.position "AAAUSDT").qty + 1| = (w.rt.position "AAAUSDT").qty + 1 :=
        abs_of_nonneg (by linarith)
      rw [hnew]
      refine ⟨?_, fun _ _ => ?_⟩
      · rw [positionFloor, hfloor, habs, Option.getD_some]
        linarith
      · rw [positionNotionalFloor, hnotional, habs, Option.getD_some]
        norm_num [firstBuyFill]
        linarith
    · exact absurd hdue.1 (by decide)

theorem execIds_longHistory :
    (longHistory.flatMap fun e => [Work.floors e.1, .item e.1 e.2]).filterMap Work.execId? =
      numberedId 1 :: (List.range seenLimit).map fun n => numberedId (n + 2) := by
  have hpairs : ∀ ds : List (String × Delivery),
      (ds.flatMap fun e => [Work.floors e.1, .item e.1 e.2]).filterMap Work.execId? =
        ds.map fun e => e.2.execId := by
    intro ds
    induction ds with
    | nil => rfl
    | cons e ds ih => exact congrArg (e.2.execId :: ·) ih
  rw [hpairs, longHistory, List.map_cons, List.map_map]
  refine congrArg₂ List.cons (execId_numbered 0 _ _ _) (List.map_congr_left fun n _ => ?_)
  exact execId_numbered (n + 1) _ _ _

/-- The history empties the set of seen ids. -/
theorem seenExecIds_longHistory :
    (run (step twoSymbols) (longHistory.flatMap fun e => [.floors e.1, .item e.1 e.2])
      (World.initial twoSymbols.config)).rt.seenExecIds = ∅ := by
  have hnodup : (numberedId 1 :: (List.range seenLimit).map fun n => numberedId (n + 2)).Nodup := by
    refine List.nodup_cons.mpr ⟨fun hmem => ?_, ?_⟩
    · obtain ⟨n, _, hn⟩ := List.mem_map.mp hmem
      have := numberedId_injective hn
      omega
    · exact List.nodup_range.map fun m n h => by
        have := numberedId_injective h
        omega
  -- the last id is the one that exceeds the limit
  obtain ⟨m, hm⟩ : ∃ m, seenLimit = m + 1 := ⟨19999, rfl⟩
  have hids : numberedId 1 :: (List.range seenLimit).map (fun n => numberedId (n + 2)) =
      (numberedId 1 :: (List.range m).map (fun n => numberedId (n + 2))) ++
        [numberedId (m + 2)] := by
    rw [hm, List.range_succ, List.map_append]
    rfl
  rw [seenExecIds_run, execIds_longHistory, hids]
  refine BoundedSet.foldl_note_of_overflow (hids ▸ hnodup) (fun b _ => ?_) ?_
  · exact Finset.notMem_empty b
  · simp [World.initial, Runtime.initial, hm]

/-- The other executions leave the position of the first symbol alone. -/
theorem position_run_otherBuys (ns : List ℕ) (w : World) :
    (run (step twoSymbols) ((ns.map otherBuy).flatMap fun e => [.floors e.1, .item e.1 e.2])
      w).rt.position "AAAUSDT" = w.rt.position "AAAUSDT" := by
  induction ns generalizing w with
  | nil => rfl
  | cons n ns ih =>
    rw [List.map_cons, List.flatMap_cons, run_append, ih, run_cons, run_cons, run_nil]
    have hne : "AAAUSDT" ≠ (otherBuy n).1 := (by decide : "AAAUSDT" ≠ "BBBUSDT")
    rw [position_step_of_ne hne, position_step_floors]

/-- The long history with the first execution delivered once more. -/
def redelivered : List (String × Delivery) := longHistory ++ [("AAAUSDT", firstBuy)]

/-- A delivery that moves the position of the symbol at both ends of a run. -/
theorem not_atMostOnce_of_moves_twice {x : Context} {d : Delivery} {symbol : String}
    {between : List Work} {w : World}
    (hfirst : (step x (.item symbol d) w).rt.position symbol ≠ w.rt.position symbol)
    (hlast : let w' := run (step x) between (step x (.item symbol d) w)
      (step x (.item symbol d) w').rt.position symbol ≠ w'.rt.position symbol) :
    ¬ AtMostOnce (MovesPosition d.execId)
      (transitions (step x) (.item symbol d :: (between ++ [.item symbol d])) w) := by
  intro honce
  rw [transitions_cons, AtMostOnce, List.pairwise_cons] at honce
  refine honce.1 _ (mem_transitions between (.item symbol d) [] _) ⟨⟨rfl, ?_⟩, ⟨rfl, ?_⟩⟩
  · exact fun h => hfirst (congrFun h symbol)
  · exact fun h => hlast (congrFun h symbol)

/-- The first buy once more, after other work that left the position alone and the
set of seen ids empty. -/
theorem firstBuy_moves_twice {others : List Work} {w : World}
    (hseen : w.rt.seenExecIds = ∅)
    (hfloor : w.rt.positionFloor (floorKey "AAAUSDT") = some (1 / 1000000))
    (hnotional : w.rt.notionalFloor (floorKey "AAAUSDT") = some 1)
    (hflat : (w.rt.position "AAAUSDT").qty = 0)
    (hkeep : ∀ w', (run (step twoSymbols) others w').rt.position "AAAUSDT" =
      w'.rt.position "AAAUSDT")
    (hemptied : (run (step twoSymbols) others
      (step twoSymbols (.item "AAAUSDT" firstBuy) w)).rt.seenExecIds = ∅) :
    ¬ AtMostOnce (MovesPosition firstBuy.execId)
      (transitions (step twoSymbols)
        (.item "AAAUSDT" firstBuy :: (others ++ [.item "AAAUSDT" firstBuy])) w) := by
  have hfirst := qty_step_firstBuy (by rw [hseen]; exact Finset.notMem_empty _) hfloor hnotional
    hflat.ge
  have hqty : ((run (step twoSymbols) others
      (step twoSymbols (.item "AAAUSDT" firstBuy) w)).rt.position "AAAUSDT").qty = 1 := by
    rw [hkeep, hfirst, hflat, zero_add]
  have hlast := qty_step_firstBuy (by rw [hemptied]; exact Finset.notMem_empty _)
    (positionFloor_run_of_cached (positionFloor_step_of_cached hfloor))
    (notionalFloor_run_of_cached (notionalFloor_step_of_cached hnotional))
    (hqty.ge.trans' zero_le_one)
  refine not_atMostOnce_of_moves_twice (fun h => ?_) fun h => ?_
  · rw [h, hflat] at hfirst
    norm_num at hfirst
  · rw [h] at hlast
    linarith

/-- The re-delivered execution moves the position a second time. -/
theorem redelivered_moves_twice :
    let batches := redelivered.map fun e => [Fetch.single e.1 e.2]
    let w := World.initial twoSymbols.config
    ¬ AtMostOnce (MovesPosition firstBuy.execId)
      (transitions (step twoSymbols) (reached twoSymbols batches w) w) := by
  intro batches w honce
  have hreached : reached twoSymbols batches w =
      redelivered.flatMap fun e => [.floors e.1, .item e.1 e.2] :=
    reached_single rfl redelivered w
  have hfloor : w.rt.positionFloor (floorKey "AAAUSDT") = some (1 / 1000000) := by
    decide +kernel
  have hnotional : w.rt.notionalFloor (floorKey "AAAUSDT") = some 1 := by
    decide +kernel
  have hseen := seenExecIds_longHistory
  have hseen₀ : (step twoSymbols (.floors "AAAUSDT") w).rt.seenExecIds = ∅ := by
    rw [seenExecIds_step_floors]
    rfl
  have hflat : ((step twoSymbols (.floors "AAAUSDT") w).rt.position "AAAUSDT").qty = 0 := by
    rw [position_step_floors]
    rfl
  -- the other executions are any list that keeps the position; the literal one is too long to
  -- compute with
  obtain ⟨others, hothers⟩ : ∃ others, others = ((List.range seenLimit).map otherBuy).flatMap
      fun e => [Work.floors e.1, .item e.1 e.2] := ⟨_, rfl⟩
  have hkeep : ∀ w', (run (step twoSymbols) others w').rt.position "AAAUSDT" =
      w'.rt.position "AAAUSDT" := by
    rw [hothers]
    exact position_run_otherBuys _
  have hhistory : (longHistory.flatMap fun e => [Work.floors e.1, .item e.1 e.2]) =
      .floors "AAAUSDT" :: .item "AAAUSDT" firstBuy :: others := by
    rw [longHistory, List.flatMap_cons, ← hothers]
    rfl
  have hinputs : (redelivered.flatMap fun e => [Work.floors e.1, .item e.1 e.2]) =
      .floors "AAAUSDT" :: .item "AAAUSDT" firstBuy ::
        ((others ++ [.floors "AAAUSDT"]) ++ [.item "AAAUSDT" firstBuy]) := by
    rw [redelivered, List.flatMap_append, hhistory, List.append_assoc]
    rfl
  rw [hhistory, run_cons, run_cons] at hseen
  rw [hreached, hinputs, transitions_cons] at honce
  refine firstBuy_moves_twice hseen₀ (positionFloor_step_of_cached hfloor)
    (notionalFloor_step_of_cached hnotional) hflat (fun w' => ?_) ?_ (List.Pairwise.of_cons honce)
  · rw [run_append, run_cons, run_nil, position_step_floors, hkeep]
  · rw [run_append, run_cons, run_nil, seenExecIds_step_floors, hseen]

/-- A set with room for one more id has it once it is remembered. -/
theorem mem_remember {execId : String} {seen : Finset String}
    (h : (insert execId seen).card ≤ seenLimit) : execId ∈ remember execId seen := by
  rw [remember, BoundedSet.add_of_fits h]
  exact Finset.mem_insert_self execId seen

/-- The first execution delivered by two requests in a row is in order. -/
theorem firstBuy_twice_ingested_once :
    let batches := [[Fetch.single "AAAUSDT" firstBuy], [Fetch.single "AAAUSDT" firstBuy]]
    let w := World.initial twoSymbols.config
    let ts := transitions (step twoSymbols) (reached twoSymbols batches w) w
    AtMostOnce (MovesPosition firstBuy.execId) ts ∧
      AtMostOnce (AddsFill firstBuy.execId) ts ∧
      (∀ t ∈ ts, t.after.legacy.fills.length ≤ t.before.legacy.fills.length + 1) ∧
      ((runRefreshes twoSymbols batches w).lifecycle.executionsRaw.entries.filter
        fun e => e.1 = firstBuy.execId).length ≤ 1 := by
  refine executions_ingested_at_most_once twoSymbols _ (World.initial twoSymbols.config) _ ?_
  have hreached := reached_single (x := twoSymbols) rfl
    [("AAAUSDT", firstBuy), ("AAAUSDT", firstBuy)] (World.initial twoSymbols.config)
  simp only [List.map_cons, List.map_nil] at hreached
  rw [hreached, Remembered]
  simp only [List.flatMap_cons, List.flatMap_nil, List.append_nil, List.cons_append,
    List.nil_append, transitions_cons, transitions_nil, List.pairwise_cons, List.forall_mem_cons,
    List.not_mem_nil, List.Pairwise.nil, Work.execId?, reduceCtorEq, false_implies, implies_true,
    and_true, true_and, Option.some.injEq]
  rintro execId rfl -
  rw [seenExecIds_step_floors, seenExecIds_step, seenExecIds_step_floors, if_neg]
  · exact mem_remember (by decide)
  · exact Finset.notMem_empty _

end Botik
