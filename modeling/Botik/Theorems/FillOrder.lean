import Botik.Execution.Paper
import Botik.Main.RefreshFacts

/-!
# The order of the fills

The loop over an execution list reverses it, which is the order of time where the
list begins with the newest execution. The exchange lists that way, the paper client
does not.

## Main definitions

* `listedFetch` — what an executor answers for a symbol
* `appliedItems` — the executions a run takes, in the order in which it takes them
* `ListedInOrder` — when that is the order in which they happened
* `itemMoves` — what one execution does to a position

## Main results

* `applied_in_order_iff` — exactly then; and the position is then the fold over time
* `paper_applied_backwards` — three paper executions, taken from the last to the first
-/

namespace Botik

open Program Runs

/-- The limit of the request. -/
def executionListLimit : ℕ := 100

/-- The answer of an executor for a symbol, each item with what the outside does
while it is processed. -/
def listedFetch (source : ExecutionSource) (symbol : String) (env : ExecutionItem → StepEnv) :
    Fetch where
  symbol := symbol
  answer := .ok (⟨some 0, none⟩,
    (source.getExecutionList symbol executionListLimit).map fun item => ⟨item, env item⟩)

/-- The execution a transition takes: the delivered one, if its id was not seen. -/
def appliedItem? (t : Transition World Work) : Option ExecutionItem :=
  match t.input with
  | .floors _ => none
  | .item _ d => if d.execId ∈ t.before.rt.seenExecIds then none else some d.item

/-- The executions that are taken, in order. -/
def appliedItems (ts : List (Transition World Work)) : List ExecutionItem :=
  ts.filterMap appliedItem?

/-- The new executions reach the loop in the order in which they happened: of the
exchange as long as one list holds them, of the paper client only a single one, and
that only if noting it does not empty the set of seen ids before the old ones come. -/
def ListedInOrder (source : ExecutionSource) (old new : List ExecutionItem)
    (seen : Finset String) : Prop :=
  match source with
  | .rest _ => new.length ≤ executionListLimit
  | .paper _ => new.length ≤ 1 ∧ (new = [] ∨ old = [] ∨ seen.card < seenLimit)

/-- What one execution does to a position; nothing, if it cannot be read. -/
def itemMoves (symbol : String) (env : ExecutionItem → StepEnv) (p : Position)
    (item : ExecutionItem) : Position :=
  match Delivery.read symbol ⟨item, env item⟩ with
  | .ok (some fill) => moved p fill
  | _ => p

/-! ### Taking a list of items -/

section Items

variable {x : Context} {symbol : String} {env : ExecutionItem → StepEnv} {w : World}

/-- The units of work of a list of items. -/
def itemWorks (symbol : String) (env : ExecutionItem → StepEnv) (items : List ExecutionItem) :
    List Work :=
  items.map fun item => .item symbol ⟨item, env item⟩

/-- The items of a list that are taken. -/
def applied (x : Context) (symbol : String) (env : ExecutionItem → StepEnv)
    (items : List ExecutionItem) (w : World) : List ExecutionItem :=
  appliedItems (transitions (step x) (itemWorks symbol env items) w)

theorem applied_append (as bs : List ExecutionItem) :
    applied x symbol env (as ++ bs) w = applied x symbol env as w ++
      applied x symbol env bs (run (step x) (itemWorks symbol env as) w) := by
  rw [applied, itemWorks, List.map_append, transitions_append, appliedItems, List.filterMap_append]
  rfl

theorem applied_cons_of_seen {item : ExecutionItem} (items : List ExecutionItem)
    (h : item.executionId ∈ w.rt.seenExecIds) :
    applied x symbol env (item :: items) w = applied x symbol env items w := by
  have hstep : step x (.item symbol ⟨item, env item⟩) w = w := step_of_seen h
  have hnone : appliedItem? ⟨w, .item symbol ⟨item, env item⟩,
      step x (.item symbol ⟨item, env item⟩) w⟩ = none := if_pos h
  rw [applied, itemWorks, List.map_cons, transitions_cons, appliedItems,
    List.filterMap_cons_none hnone, hstep]
  rfl

theorem applied_cons_of_new {item : ExecutionItem} (items : List ExecutionItem)
    (h : item.executionId ∉ w.rt.seenExecIds) :
    applied x symbol env (item :: items) w = item ::
      applied x symbol env items (step x (.item symbol ⟨item, env item⟩) w) := by
  have hsome : appliedItem? ⟨w, .item symbol ⟨item, env item⟩,
      step x (.item symbol ⟨item, env item⟩) w⟩ = some item := if_neg h
  rw [applied, itemWorks, List.map_cons, transitions_cons, appliedItems,
    List.filterMap_cons_some hsome]
  rfl

/-- Seen items are passed over. -/
theorem applied_of_seen {items : List ExecutionItem}
    (h : ∀ item ∈ items, item.executionId ∈ w.rt.seenExecIds) :
    applied x symbol env items w = [] ∧ run (step x) (itemWorks symbol env items) w = w := by
  induction items with
  | nil => exact ⟨rfl, rfl⟩
  | cons item items ih =>
    obtain ⟨hitem, hitems⟩ := List.forall_mem_cons.mp h
    have hstep : step x (.item symbol ⟨item, env item⟩) w = w := step_of_seen hitem
    rw [applied_cons_of_seen items hitem, itemWorks, List.map_cons, run_cons, hstep]
    exact ih hitems

/-- The seen ids after a new item. -/
theorem seenExecIds_of_new {item : ExecutionItem} (h : item.executionId ∉ w.rt.seenExecIds) :
    (step x (.item symbol ⟨item, env item⟩) w).rt.seenExecIds =
      remember item.executionId w.rt.seenExecIds := by
  rw [seenExecIds_step]
  exact if_neg h

/-- Distinct new items are all taken. -/
theorem applied_of_new {items : List ExecutionItem}
    (hnodup : (items.map ExecutionItem.executionId).Nodup)
    (h : ∀ item ∈ items, item.executionId ∉ w.rt.seenExecIds) :
    applied x symbol env items w = items := by
  induction items generalizing w with
  | nil => rfl
  | cons item items ih =>
    obtain ⟨hitem, hitems⟩ := List.forall_mem_cons.mp h
    rw [List.map_cons, List.nodup_cons] at hnodup
    rw [applied_cons_of_new items hitem, ih hnodup.2]
    intro other hother hseen
    rw [seenExecIds_of_new hitem] at hseen
    rcases BoundedSet.mem_of_mem_add hseen with heq | hmem
    · exact hnodup.1 (heq ▸ List.mem_map_of_mem hother)
    · exact hitems other hother hmem

/-- Items that only add move the position as the fold over those that are taken. -/
theorem position_run_itemWorks {items : List ExecutionItem} (htidy : (w.rt.position symbol).Tidy)
    (h : ∀ t ∈ transitions (step x) (itemWorks symbol env items) w, ∀ d fill,
      t.input = .item symbol d → d.execId ∉ t.before.rt.seenExecIds →
      d.read symbol = .ok (some fill) → OnlyAdds x symbol d fill t.before) :
    (run (step x) (itemWorks symbol env items) w).rt.position symbol =
      (applied x symbol env items w).foldl (itemMoves symbol env) (w.rt.position symbol) := by
  induction items generalizing w with
  | nil => rfl
  | cons item items ih =>
    let d : Delivery := ⟨item, env item⟩
    rw [itemWorks, List.map_cons, transitions_cons, List.forall_mem_cons] at h
    obtain ⟨hhead, htail⟩ := h
    rw [itemWorks, List.map_cons, run_cons]
    by_cases hseen : item.executionId ∈ w.rt.seenExecIds
    · have hstep : step x (.item symbol d) w = w := step_of_seen hseen
      rw [applied_cons_of_seen items hseen]
      rw [hstep] at htail ⊢
      exact ih htidy htail
    · rw [applied_cons_of_new items hseen, List.foldl_cons]
      -- the head moves the position by its fill, or not at all
      have hposition : (step x (.item symbol d) w).rt.position symbol =
          itemMoves symbol env (w.rt.position symbol) item := by
        unfold itemMoves
        rcases step_cases_of_fresh (d := d) x symbol hseen with hstuck | ⟨fill, feeRate, hrec⟩
        · split
          · next fill hread =>
            rw [position_of_onlyAdds hseen htidy (hhead d fill rfl hseen hread),
              Function.update_self]
          · rw [hstuck.rt_eq]
            rfl
        · rw [position_of_onlyAdds hseen htidy (hhead d fill rfl hseen hrec.read_eq),
            Function.update_self]
          have hread : Delivery.read symbol ⟨item, env item⟩ = .ok (some fill) := hrec.read_eq
          rw [hread]
      have htidy' : ((step x (.item symbol d) w).rt.position symbol).Tidy := by
        rw [hposition]
        unfold itemMoves
        split
        · exact tidy_moved htidy
        · exact htidy
      rw [← hposition]
      exact ih htidy' htail

end Items

/-! ### One answer -/

section Answer

variable {x : Context} {source : ExecutionSource} {symbol : String}
  {env : ExecutionItem → StepEnv} {w : World} {old new : List ExecutionItem}

theorem works_listedFetch :
    (listedFetch source symbol env).works = .floors symbol ::
      itemWorks symbol env (source.getExecutionList symbol executionListLimit).reverse := by
  have hdeliveries : (listedFetch source symbol env).deliveries =
      ((source.getExecutionList symbol executionListLimit).map fun item =>
        (⟨item, env item⟩ : Delivery)).reverse := by
    simp [Fetch.deliveries, listedFetch]
  rw [Fetch.works, hdeliveries, ← List.map_reverse, List.map_map]
  rfl

/-- What is taken from one answer. -/
theorem appliedItems_listedFetch :
    appliedItems (transitions (step x) (listedFetch source symbol env).works w) =
      applied x symbol env (source.getExecutionList symbol executionListLimit).reverse
        (step x (.floors symbol) w) := by
  rw [works_listedFetch, transitions_cons, appliedItems, List.filterMap_cons_none rfl]
  rfl

/-- What the limit leaves of the old and the new executions. -/
theorem drop_executed (old new : List ExecutionItem) :
    (old ++ new).drop ((old ++ new).length - executionListLimit) =
      old.drop (old.length + new.length - executionListLimit) ++
        new.drop (new.length - executionListLimit) := by
  rw [List.drop_append, List.length_append]
  congr 2
  omega

/-- From the exchange, the new executions on the list are taken, in their order. -/
theorem applied_rest (hnodup : (new.map ExecutionItem.executionId).Nodup)
    (hold : ∀ item ∈ old, item.executionId ∈ w.rt.seenExecIds)
    (hnew : ∀ item ∈ new, item.executionId ∉ w.rt.seenExecIds) :
    applied x symbol env ((old ++ new).drop ((old ++ new).length - executionListLimit)) w = new ↔
      new.length ≤ executionListLimit := by
  have hseen : ∀ item ∈ old.drop (old.length + new.length - executionListLimit),
      item.executionId ∈ w.rt.seenExecIds := fun item hitem => hold item (List.mem_of_mem_drop hitem)
  have hskip : applied x symbol env (old.drop (old.length + new.length - executionListLimit)) w =
      [] := (applied_of_seen hseen).1
  have hsame : run (step x) (itemWorks symbol env
      (old.drop (old.length + new.length - executionListLimit))) w = w := (applied_of_seen hseen).2
  rw [drop_executed, applied_append, hskip, hsame, List.nil_append, applied_of_new]
  · constructor
    · intro h
      have hlength := congrArg List.length h
      rw [List.length_drop] at hlength
      have hpos : 0 < executionListLimit := by decide
      omega
    · intro h
      rw [Nat.sub_eq_zero_of_le h, List.drop_zero]
  · exact hnodup.sublist ((List.drop_sublist _ _).map _)
  · exact fun item hitem => hnew item (List.mem_of_mem_drop hitem)

/-- One new execution, and then the old ones: these are passed over if they are still
seen. -/
theorem applied_one_then_old {first : ExecutionItem} {olds : List ExecutionItem}
    (hfirst : first.executionId ∉ w.rt.seenExecIds)
    (holds : ∀ item ∈ olds, item.executionId ∈ w.rt.seenExecIds) :
    applied x symbol env (first :: olds) w = [first] ↔
      olds = [] ∨ w.rt.seenExecIds.card < seenLimit := by
  have hcard : (insert first.executionId w.rt.seenExecIds).card = w.rt.seenExecIds.card + 1 :=
    Finset.card_insert_of_notMem hfirst
  let w₁ := step x (.item symbol ⟨first, env first⟩) w
  have hseen₁ : w₁.rt.seenExecIds = remember first.executionId w.rt.seenExecIds :=
    seenExecIds_of_new hfirst
  rw [applied_cons_of_new olds hfirst, List.cons.injEq, eq_self, true_and]
  by_cases hroom : w.rt.seenExecIds.card < seenLimit
  · refine iff_of_true (applied_of_seen fun item hitem => ?_).1 (Or.inr hroom)
    rw [hseen₁, remember, BoundedSet.add_of_fits (by omega)]
    exact Finset.mem_insert_of_mem (holds item hitem)
  · -- the set is emptied, so the next old one is taken again
    have hempty : w₁.rt.seenExecIds = ∅ := by
      rw [hseen₁, remember, BoundedSet.add_of_overflow (by omega)]
    cases olds with
    | nil => exact iff_of_true rfl (Or.inl rfl)
    | cons item items =>
      have hitem : item.executionId ∉ w₁.rt.seenExecIds := by
        rw [hempty]
        exact Finset.notMem_empty _
      refine iff_of_false ?_ fun h => ?_
      · rw [applied_cons_of_new items hitem]
        exact List.cons_ne_nil _ _
      · rcases h with h | h
        · cases h
        · exact hroom h

/-- The last executions of a history that ends with two new ones, from the last to the
first: what is taken does not begin with the first new one. -/
theorem applied_backwards_ne {first second : ExecutionItem} {rest olds : List ExecutionItem}
    (hnodup : ((first :: second :: rest).map ExecutionItem.executionId).Nodup)
    (hnew : ∀ item ∈ first :: second :: rest, item.executionId ∉ w.rt.seenExecIds) {n : ℕ}
    (hn : n < (first :: second :: rest).length) :
    applied x symbol env (((first :: second :: rest).drop n).reverse ++ olds) w ≠
      first :: second :: rest := by
  obtain ⟨last, hlast⟩ : ∃ last, (second :: rest).getLast? = some last :=
    ⟨_, List.getLast?_eq_some_getLast (List.cons_ne_nil second rest)⟩
  have hmem : last ∈ second :: rest := List.mem_of_getLast? hlast
  have hdrop : ((first :: second :: rest).drop n).getLast? = some last := by
    rw [List.getLast?_drop, if_neg (not_le.mpr hn), List.getLast?_cons_cons, hlast]
  obtain ⟨init, hinit⟩ := List.getLast?_eq_some_iff.mp hdrop
  rw [hinit, List.reverse_concat, List.cons_append,
    applied_cons_of_new _ (hnew last (List.mem_cons_of_mem first hmem))]
  intro h
  rw [List.cons.injEq] at h
  rw [List.map_cons, List.nodup_cons] at hnodup
  exact hnodup.1 (h.1 ▸ List.mem_map_of_mem hmem)

/-- From the paper client, only a single new execution is taken in order. -/
theorem applied_paper (hnodup : (new.map ExecutionItem.executionId).Nodup)
    (hold : ∀ item ∈ old, item.executionId ∈ w.rt.seenExecIds)
    (hnew : ∀ item ∈ new, item.executionId ∉ w.rt.seenExecIds) :
    applied x symbol env ((old ++ new).drop ((old ++ new).length - executionListLimit)).reverse w =
      new ↔ new.length ≤ 1 ∧ (new = [] ∨ old = [] ∨ w.rt.seenExecIds.card < seenLimit) := by
  rw [drop_executed, List.reverse_append]
  have hlimit : executionListLimit = 100 := rfl
  -- taken in reverse, the old executions come last
  have hseen : ∀ item ∈ (old.drop (old.length + new.length - executionListLimit)).reverse,
      item.executionId ∈ w.rt.seenExecIds :=
    fun item hitem => hold item (List.mem_of_mem_drop (List.mem_reverse.mp hitem))
  rcases new with _ | ⟨first, _ | ⟨second, rest⟩⟩
  · -- nothing new: all is passed over
    refine iff_of_true ?_ ⟨Nat.zero_le 1, Or.inl rfl⟩
    rw [List.drop_nil, List.reverse_nil, List.nil_append]
    exact (applied_of_seen hseen).1
  · -- one: the old executions come after it
    have hempty : (old.drop (old.length + [first].length - executionListLimit)).reverse = [] ↔
        old = [] := by
      rw [List.reverse_eq_nil_iff, List.drop_eq_nil_iff, List.length_singleton,
        ← List.length_eq_zero_iff]
      omega
    have hone : ([first].drop ([first].length - executionListLimit)).reverse = [first] := by
      rw [List.length_singleton, hlimit]
      rfl
    rw [hone, List.singleton_append,
      applied_one_then_old (hnew first List.mem_cons_self) hseen, hempty]
    constructor
    · intro h
      exact ⟨le_refl 1, Or.inr h⟩
    · intro h
      exact h.2.resolve_left (List.cons_ne_nil first [])
  · -- more: the newest is taken first
    refine iff_of_false (applied_backwards_ne hnodup hnew ?_) fun h => ?_
    · rw [List.length_cons, hlimit]
      omega
    · have htwo := h.1
      rw [List.length_cons, List.length_cons] at htwo
      omega

/-- What is taken from one answer is what is new, in its order, exactly if it was
listed so. -/
theorem appliedItems_eq_iff (hexecuted : source.executed symbol = old ++ new)
    (hnodup : (new.map ExecutionItem.executionId).Nodup)
    (hold : ∀ item ∈ old, item.executionId ∈ w.rt.seenExecIds)
    (hnew : ∀ item ∈ new, item.executionId ∉ w.rt.seenExecIds) :
    appliedItems (transitions (step x) (listedFetch source symbol env).works w) = new ↔
      ListedInOrder source old new w.rt.seenExecIds := by
  have hlimit : executionListLimit ≠ 0 := Nat.succ_ne_zero 99
  rw [appliedItems_listedFetch]
  obtain ⟨w₁, hw₁⟩ : ∃ w₁, w₁ = step x (.floors symbol) w := ⟨_, rfl⟩
  have hseen : w₁.rt.seenExecIds = w.rt.seenExecIds := by
    rw [hw₁]
    exact seenExecIds_step_floors x symbol w
  rw [← hseen] at hold hnew
  rw [← hw₁, ← hseen]
  cases source with
  | rest executed =>
    have hlist : ((ExecutionSource.rest executed).getExecutionList symbol
        executionListLimit).reverse =
          (old ++ new).drop ((old ++ new).length - executionListLimit) := by
      rw [← hexecuted]
      exact ExecutionSource.getExecutionList_reverse (.rest executed) symbol hlimit
    rw [hlist]
    exact applied_rest (w := w₁) hnodup hold hnew
  | paper client =>
    have hlist : ((ExecutionSource.paper client).getExecutionList symbol
        executionListLimit).reverse =
          ((old ++ new).drop ((old ++ new).length - executionListLimit)).reverse := by
      rw [← hexecuted]
      exact ExecutionSource.getExecutionList_reverse (.paper client) symbol hlimit
    rw [hlist]
    exact applied_paper (w := w₁) hnodup hold hnew

/-- Every reachable position is tidy. -/
theorem tidy_runRefreshes (x : Context) (batches : List (List Fetch)) (symbol : String) :
    ((runRefreshes x batches (World.initial x.config)).rt.position symbol).Tidy := by
  rw [runRefreshes_eq_run]
  have hstep : ∀ (w : World) (u : Work), (w.rt.position symbol).Tidy → True →
      ((step x u w).rt.position symbol).Tidy := by
    intro w u htidy _
    cases u with
    | floors s => rwa [position_step_floors]
    | item s d =>
      by_cases hs : symbol = s
      · subst hs
        by_cases hseen : d.execId ∈ w.rt.seenExecIds
        · rwa [step_of_seen hseen]
        rcases step_cases_of_fresh x symbol hseen with hstuck | ⟨fill, feeRate, hrec⟩
        · rw [hstuck.rt_eq]
          exact htidy
        · rcases position_step_of_recorded (x := x) hseen hrec with h | ⟨-, h⟩
          · rw [h, Function.update_self]
            exact tidy_moved htidy
          · rw [h, Function.update_self]
            exact Position.tidy_flat
      · rwa [position_step_of_ne hs]
  have hinitial : ((World.initial x.config).rt.position symbol).Tidy := Position.tidy_flat
  exact run_of_inv hstep hinitial fun _ _ => trivial

/-- After any run, from the answer for a symbol: the new executions are taken in the
order in which they happened exactly if they were listed so; and then, where each
only adds, the position is the fold over them in that order. -/
theorem applied_in_order_iff (x : Context) (source : ExecutionSource) (symbol : String)
    (env : ExecutionItem → StepEnv) (earlier : List (List Fetch)) (old new : List ExecutionItem) :
    let w := runRefreshes x earlier (World.initial x.config)
    let f := listedFetch source symbol env
    let ts := transitions (step x) f.works w
    source.executed symbol = old ++ new → (new.map ExecutionItem.executionId).Nodup →
    (∀ item ∈ old, item.executionId ∈ w.rt.seenExecIds) →
    (∀ item ∈ new, item.executionId ∉ w.rt.seenExecIds) →
    taken (work x) f.works w = f.works →
    (appliedItems ts = new ↔ ListedInOrder source old new w.rt.seenExecIds) ∧
      (ListedInOrder source old new w.rt.seenExecIds →
        (∀ t ∈ ts, ∀ d fill, t.input = .item symbol d → d.execId ∉ t.before.rt.seenExecIds →
          d.read symbol = .ok (some fill) → OnlyAdds x symbol d fill t.before) →
        (after (refreshSymbol x f) w).rt.position symbol =
          new.foldl (itemMoves symbol env) (w.rt.position symbol)) := by
  intro w f ts hexecuted hnodup hold hnew hcomplete
  have horder : appliedItems ts = new ↔ ListedInOrder source old new w.rt.seenExecIds :=
    appliedItems_eq_iff hexecuted hnodup hold hnew
  refine ⟨horder, fun hlisted hadds => ?_⟩
  have htaken : applied x symbol env (source.getExecutionList symbol executionListLimit).reverse
      (step x (.floors symbol) w) = new := by
    rw [← appliedItems_listedFetch]
    exact horder.mpr hlisted
  have hworks : f.works = .floors symbol ::
      itemWorks symbol env (source.getExecutionList symbol executionListLimit).reverse :=
    works_listedFetch
  have hfinal : after (refreshSymbol x f) w = run (step x)
      (itemWorks symbol env (source.getExecutionList symbol executionListLimit).reverse)
      (step x (.floors symbol) w) := by
    rw [refreshSymbol_eq_each_work, after_each_eq_run, hcomplete, hworks, run_cons]
    rfl
  have hstart : (step x (.floors symbol) w).rt.position = w.rt.position :=
    position_step_floors x symbol w
  have htidy : ((step x (.floors symbol) w).rt.position symbol).Tidy := by
    rw [hstart]
    exact tidy_runRefreshes x earlier symbol
  rw [hfinal, position_run_itemWorks htidy, htaken, hstart]
  intro t ht
  refine hadds t ?_
  change t ∈ transitions (step x) f.works w
  rw [hworks, transitions_cons]
  exact List.mem_cons_of_mem _ ht

end Answer

/-! ### Three paper orders, and four executions of the exchange -/

/-- A paper account with one symbol. -/
def paperMarket : Context where
  config := .default ["AAAUSDT"] .spot
  executor := some PaperTradingClient.executor

/-- Nothing happens outside while the items are processed. -/
def calmItems (_ : ExecutionItem) : StepEnv := calmEnv

/-- A market order for one coin. -/
def marketOrder (side price : String) : PaperOrder where
  symbol := "AAAUSDT"
  side := side
  qty := "1"
  price := price
  orderId := "paper-1"
  orderLinkId := "mm-1"
  timeInForce := "IOC"
  orderType := "Market"

/-- Bought at 100, sold at 110, bought again at 120. -/
def threeOrders : Except String PaperTradingClient := do
  let (_, c) ← PaperTradingClient.empty.placeOrder none (marketOrder "Buy" "100") "e1"
  let (_, c) ← c.placeOrder none (marketOrder "Sell" "110") "e2"
  let (_, c) ← c.placeOrder none (marketOrder "Buy" "120") "e3"
  return c

/-- The coin was bought at 120; taken from the last to the first, it is one bought
at 100. -/
theorem paper_applied_backwards : ∃ client, threeOrders = .ok client ∧
    let f := listedFetch (.paper client) "AAAUSDT" calmItems
    let w := World.initial paperMarket.config
    let executed := client.executionsOf "AAAUSDT"
    appliedItems (transitions (step paperMarket) f.works w) = executed.reverse ∧
      (after (refreshSymbol paperMarket f) w).rt.position "AAAUSDT" = ⟨1, 100⟩ ∧
      executed.foldl (itemMoves "AAAUSDT" calmItems) .flat = ⟨1, 120⟩ := by
  refine ⟨_, rfl, ?_⟩
  decide +kernel

/-- The executions of an exchange after the first, in the order of time. -/
def laterExecutions : List ExecutionItem :=
  [plainItem "e1" "Buy" "1" "100", plainItem "e2" "Buy" "2" "120", plainItem "e3" "Sell" "1" "130"]

/-- An exchange that executed a buy, and then these. -/
def fourExecutions : ExecutionSource :=
  .rest fun _ => plainItem "e0" "Buy" "1" "90" :: laterExecutions

/-- The first execution was polled before. -/
def firstPolled : World :=
  runRefreshes spotMarket [[Fetch.single "AAAUSDT" (plainDelivery "e0" "Buy" "1" "90")]]
    (World.initial spotMarket.config)

/-- The three new executions are taken in the order of time, and the position is the
fold over them: the one coin at 90, the buys at 100 and 120, and a sale that leaves the
average. -/
theorem fourExecutions_applied :
    (appliedItems (transitions (step spotMarket)
          (listedFetch fourExecutions "AAAUSDT" calmItems).works firstPolled) = laterExecutions ↔
      ListedInOrder fourExecutions [plainItem "e0" "Buy" "1" "90"] laterExecutions
        firstPolled.rt.seenExecIds) ∧
    (after (refreshSymbol spotMarket (listedFetch fourExecutions "AAAUSDT" calmItems))
      firstPolled).rt.position "AAAUSDT" = ⟨3, 215 / 2⟩ := by
  -- the refresh takes all of its units
  have htaken : taken (work spotMarket) (listedFetch fourExecutions "AAAUSDT" calmItems).works
      firstPolled = (listedFetch fourExecutions "AAAUSDT" calmItems).works :=
    taken_prefix.eq_of_length (by decide +kernel)
  have hmain := applied_in_order_iff spotMarket fourExecutions "AAAUSDT" calmItems
    [[Fetch.single "AAAUSDT" (plainDelivery "e0" "Buy" "1" "90")]]
    [plainItem "e0" "Buy" "1" "90"] laterExecutions rfl (by decide) (by decide +kernel)
    (by decide +kernel) htaken
  have hlisted : ListedInOrder fourExecutions [plainItem "e0" "Buy" "1" "90"] laterExecutions
      firstPolled.rt.seenExecIds := by
    change laterExecutions.length ≤ executionListLimit
    decide
  have hfold : laterExecutions.foldl (itemMoves "AAAUSDT" calmItems)
      (firstPolled.rt.position "AAAUSDT") = ⟨3, 215 / 2⟩ := by decide +kernel
  -- every one of the three leaves a position above the floors
  have heffective : ∀ t ∈ transitions (step spotMarket)
      (listedFetch fourExecutions "AAAUSDT" calmItems).works firstPolled,
      OnNewFill (fun w symbol d fill => d.Recorded symbol fill none ∧
        IsEffective spotMarket.config w.rt symbol (moved (w.rt.position symbol) fill).qty
          fill.price) t := by decide +kernel
  refine ⟨hmain.1, (hmain.2 hlisted fun t ht d fill hinput hfresh hread => ?_).trans hfold⟩
  obtain ⟨hrec, heff⟩ := (heffective t ht).of_read hinput hfresh hread
  exact onlyAdds_of_spot rfl hrec heff

end Botik
