import Mathlib.Data.List.Induction
import Botik.Execution.Paper
import Botik.Library.Runs
import Botik.Library.SlidingWindow

/-!
# Where paper orders go

An order of the paper client is executed when it is placed or rests until it is cancelled. At every
moment it is in exactly one place, and it is executed once and in full. An IOC order rests as any
other one does, so none is open exactly where each crosses its book when it is placed.

## Main definitions

* `PaperCall`, `PaperTradingClient.call`
* `placed` — the orders that were accepted
* `IsOpen`, `IsExecuted`, `IsCancelled`
* `AccountedOnce`

## Main results

* `tracks_calls` — the invariant of a run
* `accountedOnce_iff`
-/

namespace Botik

open Runs

/-- A call of the client, with the book it finds and the ids it draws. -/
inductive PaperCall
  | placeOrder (book : Option OrderBook) (order : PaperOrder) (execId : String)
  | cancelOrder (symbol : String) (orderLinkId orderId : Option String)
  | cancelAllOrders (symbol : Option String)

namespace PaperCall

def isCancel : PaperCall → Bool
  | placeOrder _ _ _ => false
  | _ => true

end PaperCall

namespace PaperTradingClient

variable {c c' : PaperTradingClient} {calls : List PaperCall} {k : PaperCall}
  {book : Option OrderBook} {order : PaperOrder} {execId id : String} {fillOnCross : Bool}

/-- One call; a placement that raises changes nothing. -/
def call : PaperCall → PaperTradingClient → PaperTradingClient
  | .placeOrder book order execId, c =>
    match c.placeOrder book order execId with
    | .ok (_, c') => c'
    | .error _ => c
  | .cancelOrder symbol orderLinkId orderId, c => c.cancelOrder symbol orderLinkId orderId
  | .cancelAllOrders symbol, c => c.cancelAllOrders symbol

/-! ### One call -/

/-- An order that is executed now, if its price crosses. -/
def ExecutesWhenCrossing (order : PaperOrder) : Prop :=
  order.timeInForce ≠ "PostOnly" ∨ isMarketOrder order = true

theorem call_placeOrder_of_error {e : String} (h : c.marketable book order = .error e) :
    call (.placeOrder book order execId) c = c := by
  simp [call, placeOrder, h, bind, Except.bind]

theorem call_placeOrder_of_executes {crosses : Bool} (h : c.marketable book order = .ok crosses)
    (hnow : crosses = true ∧ ExecutesWhenCrossing order) :
    call (.placeOrder book order execId) c = c.recordExecution order execId := by
  have hnow' : crosses = true ∧
    (order.timeInForce ≠ "PostOnly" ∨ isMarketOrder order = true) := hnow
  simp only [call, placeOrder, h, bind, Except.bind, if_pos hnow']
  rfl

theorem call_placeOrder_of_rests {crosses : Bool} (h : c.marketable book order = .ok crosses)
    (hrests : ¬ (crosses = true ∧ ExecutesWhenCrossing order)) :
    call (.placeOrder book order execId) c =
      { c with openOrders := c.openOrders.set order.orderId order } := by
  have hlater : ¬ (crosses = true ∧
    (order.timeInForce ≠ "PostOnly" ∨ isMarketOrder order = true)) := hrests
  simp only [call, placeOrder, h, bind, Except.bind, if_neg hlater]
  rfl

/-- A cancelling call drops open orders and nothing else. -/
theorem call_of_isCancel (h : k.isCancel = true) (c : PaperTradingClient) :
    (call k c).executions = c.executions ∧ (call k c).fillOnCross = c.fillOnCross ∧
      ∀ id order, (call k c).openOrders.get? id = some order →
        c.openOrders.get? id = some order := by
  cases k with
  | placeOrder book order execId => cases h
  | cancelOrder symbol orderLinkId orderId =>
    simp only [call, cancelOrder]
    cases c.cancelTarget symbol orderLinkId orderId with
    | none => exact ⟨rfl, rfl, fun _ _ h => h⟩
    | some target =>
      refine ⟨rfl, rfl, fun id order hget => ?_⟩
      dsimp only at hget
      rw [Dict.get?_erase] at hget
      split_ifs at hget
      exact hget
  | cancelAllOrders symbol =>
    cases symbol with
    | none => exact ⟨rfl, rfl, fun _ _ h => by cases h⟩
    | some symbol =>
      refine ⟨rfl, rfl, fun id order hget => ?_⟩
      simp only [call, cancelAllOrders] at hget
      rw [Dict.get?_foldl_erase] at hget
      split_ifs at hget
      exact hget

/-! ### Runs -/

/-- A new client. -/
def start (fillOnCross : Bool) : PaperTradingClient := { empty with fillOnCross := fillOnCross }

/-- The order a call places, unless its price raises. -/
def placedBy (fillOnCross : Bool) : PaperCall → Option PaperOrder
  | .placeOrder book order _ =>
    if ((start fillOnCross).marketable book order).isOk then some order else none
  | _ => none

/-- The orders that were accepted, in their order. -/
def placed (fillOnCross : Bool) (calls : List PaperCall) : List PaperOrder :=
  calls.filterMap (placedBy fillOnCross)

/-- No two accepted orders have one id. -/
def FreshIds (fillOnCross : Bool) (calls : List PaperCall) : Prop :=
  ((placed fillOnCross calls).map PaperOrder.orderId).Nodup

/-- The client after some calls. -/
def after (fillOnCross : Bool) (calls : List PaperCall) : PaperTradingClient :=
  run call calls (start fillOnCross)

def IsOpen (c : PaperTradingClient) (id : String) : Prop :=
  ∃ order, c.openOrders.get? id = some order

def IsExecuted (c : PaperTradingClient) (id : String) : Prop :=
  ∃ item ∈ c.executions, item.orderId = some id

/-- Some cancelling call found the order open and left it so no more. -/
def IsCancelled (fillOnCross : Bool) (calls : List PaperCall) (id : String) : Prop :=
  ∃ t ∈ transitions call calls (start fillOnCross),
    t.input.isCancel = true ∧ IsOpen t.before id ∧ ¬ IsOpen t.after id

/-- Every accepted order is in one place, an executed one has one execution with its whole quantity,
no limit order that is to make is executed, and no IOC order is open. -/
structure AccountedOnce (fillOnCross : Bool) (calls : List PaperCall) : Prop where
  onePlace : ∀ order ∈ placed fillOnCross calls,
    IsOpen (after fillOnCross calls) order.orderId ∧
        ¬ IsExecuted (after fillOnCross calls) order.orderId ∧
        ¬ IsCancelled fillOnCross calls order.orderId ∨
      ¬ IsOpen (after fillOnCross calls) order.orderId ∧
        IsExecuted (after fillOnCross calls) order.orderId ∧
        ¬ IsCancelled fillOnCross calls order.orderId ∨
      ¬ IsOpen (after fillOnCross calls) order.orderId ∧
        ¬ IsExecuted (after fillOnCross calls) order.orderId ∧
        IsCancelled fillOnCross calls order.orderId
  oneExecution : ∀ order ∈ placed fillOnCross calls,
    IsExecuted (after fillOnCross calls) order.orderId →
      ∃ item, (after fillOnCross calls).executions.filter
          (fun item => item.orderId = some order.orderId) = [item] ∧
        item.execQty = some order.qty
  postOnly : ∀ order ∈ placed fillOnCross calls, order.timeInForce = "PostOnly" →
    isMarketOrder order = false → ¬ IsExecuted (after fillOnCross calls) order.orderId
  ioc : ∀ id order, (after fillOnCross calls).openOrders.get? id = some order →
    order.timeInForce ≠ "IOC"

@[simp] theorem placed_concat :
    placed fillOnCross (calls ++ [k]) =
      placed fillOnCross calls ++ (placedBy fillOnCross k).toList := by
  rw [placed, List.filterMap_append, ← placed]
  cases h : placedBy fillOnCross k with
  | none => simp [h]
  | some order => simp [h]

theorem after_concat : after fillOnCross (calls ++ [k]) = call k (after fillOnCross calls) := by
  rw [after, run_append]
  rfl

theorem isCancelled_concat : IsCancelled fillOnCross (calls ++ [k]) id ↔
    IsCancelled fillOnCross calls id ∨ k.isCancel = true ∧
      IsOpen (after fillOnCross calls) id ∧ ¬ IsOpen (after fillOnCross (calls ++ [k])) id := by
  rw [IsCancelled, transitions_append, after_concat]
  simp only [List.mem_append, or_and_right, exists_or, transitions_cons, transitions_nil,
    List.mem_singleton, exists_eq_left]
  rfl

/-- The switch of the client never moves. -/
theorem fillOnCross_call (k : PaperCall) (c : PaperTradingClient) :
    (call k c).fillOnCross = c.fillOnCross := by
  cases k with
  | placeOrder book order execId =>
    cases h : c.marketable book order with
    | error e => rw [call_placeOrder_of_error h]
    | ok crosses =>
      by_cases hnow : crosses = true ∧ ExecutesWhenCrossing order
      · rw [call_placeOrder_of_executes h hnow]
        rfl
      · rw [call_placeOrder_of_rests h hnow]
  | cancelOrder symbol orderLinkId orderId => exact (call_of_isCancel rfl c).2.1
  | cancelAllOrders symbol => exact (call_of_isCancel rfl c).2.1

theorem fillOnCross_after (calls : List PaperCall) :
    (after fillOnCross calls).fillOnCross = fillOnCross := by
  induction calls using List.reverseRecOn with
  | nil => rfl
  | append_singleton calls k ih => rw [after_concat, fillOnCross_call, ih]

theorem marketable_congr (h : c.fillOnCross = c'.fillOnCross) :
    c.marketable book order = c'.marketable book order := by
  unfold marketable
  rw [h]

theorem marketable_after (calls : List PaperCall) :
    (after fillOnCross calls).marketable book order =
      (start fillOnCross).marketable book order :=
  marketable_congr (fillOnCross_after calls)

/-! ### The invariant -/

/-- What an execution of the client is: the whole of an accepted order. -/
def Executes (fillOnCross : Bool) (calls : List PaperCall) (item : ExecutionItem) : Prop :=
  ∃ order ∈ placed fillOnCross calls, ExecutesWhenCrossing order ∧
    ∃ execId, item = executionItem order execId

/-- What is open, executed and cancelled was accepted, and what was accepted is in one place. -/
structure Tracks (fillOnCross : Bool) (calls : List PaperCall) : Prop where
  open_placed : ∀ id order, (after fillOnCross calls).openOrders.get? id = some order →
    order ∈ placed fillOnCross calls ∧ order.orderId = id
  executed : ∀ item ∈ (after fillOnCross calls).executions, Executes fillOnCross calls item
  executions_nodup : ((after fillOnCross calls).executions.map ExecutionItem.orderId).Nodup
  cancelled_placed : ∀ id, IsCancelled fillOnCross calls id →
    ∃ order ∈ placed fillOnCross calls, order.orderId = id
  somewhere : ∀ order ∈ placed fillOnCross calls,
    IsOpen (after fillOnCross calls) order.orderId ∨
      IsExecuted (after fillOnCross calls) order.orderId ∨
        IsCancelled fillOnCross calls order.orderId
  not_open_executed : ∀ id, IsOpen (after fillOnCross calls) id →
    ¬ IsExecuted (after fillOnCross calls) id
  not_open_cancelled : ∀ id, IsOpen (after fillOnCross calls) id →
    ¬ IsCancelled fillOnCross calls id
  not_executed_cancelled : ∀ id, IsExecuted (after fillOnCross calls) id →
    ¬ IsCancelled fillOnCross calls id

theorem IsOpen.placed (h : Tracks fillOnCross calls) (hopen : IsOpen (after fillOnCross calls) id) :
    ∃ order ∈ placed fillOnCross calls, order.orderId = id := by
  obtain ⟨order, hget⟩ := hopen
  exact ⟨order, h.open_placed id order hget⟩

theorem IsExecuted.placed (h : Tracks fillOnCross calls)
    (hexecuted : IsExecuted (after fillOnCross calls) id) :
    ∃ order ∈ placed fillOnCross calls, order.orderId = id := by
  obtain ⟨item, hitem, hid⟩ := hexecuted
  obtain ⟨order, horder, -, execId, rfl⟩ := h.executed item hitem
  exact ⟨order, horder, Option.some.inj hid⟩

theorem tracks_nil (fillOnCross : Bool) : Tracks fillOnCross [] where
  open_placed := by
    intro id order h
    cases h
  executed := by
    intro item h
    cases h
  executions_nodup := List.nodup_nil
  cancelled_placed := by
    rintro id ⟨t, ht, -⟩
    cases ht
  somewhere := by
    intro order h
    cases h
  not_open_executed := by
    rintro id ⟨order, h⟩
    cases h
  not_open_cancelled := by
    rintro id ⟨order, h⟩
    cases h
  not_executed_cancelled := by
    rintro id ⟨item, h, -⟩
    cases h

/-- A cancelling call moves some open orders to the cancelled ones. -/
theorem Tracks.cancel (h : Tracks fillOnCross calls) (hk : k.isCancel = true)
    (hnone : placedBy fillOnCross k = none) : Tracks fillOnCross (calls ++ [k]) := by
  obtain ⟨hexecutions, -, hopen⟩ := call_of_isCancel hk (after fillOnCross calls)
  rw [← after_concat] at hexecutions hopen
  have hplaced : placed fillOnCross (calls ++ [k]) = placed fillOnCross calls := by
    rw [placed_concat, hnone, Option.toList_none, List.append_nil]
  have hexecuted : ∀ id, IsExecuted (after fillOnCross (calls ++ [k])) id ↔
      IsExecuted (after fillOnCross calls) id := by
    intro id
    rw [IsExecuted, hexecutions, IsExecuted]
  -- a cancellation opens nothing
  have hopened : ∀ id, IsOpen (after fillOnCross (calls ++ [k])) id →
      IsOpen (after fillOnCross calls) id :=
    fun id ⟨order, hget⟩ => ⟨order, hopen id order hget⟩
  constructor
  · intro id order hget
    rw [hplaced]
    exact h.open_placed id order (hopen id order hget)
  · intro item hitem
    rw [hexecutions] at hitem
    rw [Executes, hplaced]
    exact h.executed item hitem
  · rw [hexecutions]
    exact h.executions_nodup
  · intro id hcancelled
    rw [hplaced]
    rcases isCancelled_concat.mp hcancelled with hbefore | ⟨-, hnow, -⟩
    · exact h.cancelled_placed id hbefore
    · exact hnow.placed h
  -- what was open and is no more is what this call cancelled
  · intro order horder
    rw [hplaced] at horder
    rw [hexecuted, isCancelled_concat]
    rcases h.somewhere order horder with hwas | hwas | hwas
    · by_cases hstill : IsOpen (after fillOnCross (calls ++ [k])) order.orderId
      · exact Or.inl hstill
      · exact Or.inr (Or.inr (Or.inr ⟨hk, hwas, hstill⟩))
    · exact Or.inr (Or.inl hwas)
    · exact Or.inr (Or.inr (Or.inl hwas))
  · intro id hstill
    rw [hexecuted]
    exact h.not_open_executed id (hopened id hstill)
  · intro id hstill hcancelled
    rcases isCancelled_concat.mp hcancelled with hbefore | ⟨-, -, hnot⟩
    · exact h.not_open_cancelled id (hopened id hstill) hbefore
    · exact hnot hstill
  · intro id hdone hcancelled
    rw [hexecuted] at hdone
    rcases isCancelled_concat.mp hcancelled with hbefore | ⟨-, hwas, -⟩
    · exact h.not_executed_cancelled id hdone hbefore
    · exact h.not_open_executed id hwas hdone

theorem isCancelled_place : IsCancelled fillOnCross (calls ++ [.placeOrder book order execId]) id ↔
    IsCancelled fillOnCross calls id := by
  rw [isCancelled_concat]
  simp [PaperCall.isCancel]

/-- A placement that raises changes nothing. -/
theorem Tracks.raise (h : Tracks fillOnCross calls) {e : String}
    (hraise : (start fillOnCross).marketable book order = .error e) :
    Tracks fillOnCross (calls ++ [.placeOrder book order execId]) := by
  have hafter : after fillOnCross (calls ++ [.placeOrder book order execId]) =
      after fillOnCross calls := by
    rw [after_concat]
    exact call_placeOrder_of_error ((marketable_after calls).trans hraise)
  have hplaced : placed fillOnCross (calls ++ [.placeOrder book order execId]) =
      placed fillOnCross calls := by
    simp [placedBy, hraise, Except.isOk, Except.toBool]
  constructor <;> simp only [hafter, hplaced, isCancelled_place, Executes]
  · exact h.open_placed
  · exact h.executed
  · exact h.executions_nodup
  · exact h.cancelled_placed
  · exact h.somewhere
  · exact h.not_open_executed
  · exact h.not_open_cancelled
  · exact h.not_executed_cancelled

theorem placed_place (calls : List PaperCall) (execId : String) {crosses : Bool}
    (hreads : (start fillOnCross).marketable book order = .ok crosses) :
    placed fillOnCross (calls ++ [.placeOrder book order execId]) =
      placed fillOnCross calls ++ [order] := by
  simp [placedBy, hreads, Except.isOk, Except.toBool]

/-- A new id is neither open nor executed nor cancelled. -/
theorem Tracks.nowhere (h : Tracks fillOnCross calls)
    (hfresh : ∀ o ∈ placed fillOnCross calls, o.orderId ≠ id) :
    ¬ IsOpen (after fillOnCross calls) id ∧ ¬ IsExecuted (after fillOnCross calls) id ∧
      ¬ IsCancelled fillOnCross calls id := by
  refine ⟨fun hopen => ?_, fun hdone => ?_, fun hcancelled => ?_⟩
  · obtain ⟨o, ho, hid⟩ := hopen.placed h
    exact hfresh o ho hid
  · obtain ⟨o, ho, hid⟩ := hdone.placed h
    exact hfresh o ho hid
  · obtain ⟨o, ho, hid⟩ := h.cancelled_placed id hcancelled
    exact hfresh o ho hid

/-- A placement that is executed: its new id is among the executed ones. -/
theorem Tracks.execute (h : Tracks fillOnCross calls) {crosses : Bool}
    (hfresh : ∀ o ∈ placed fillOnCross calls, o.orderId ≠ order.orderId)
    (hreads : (start fillOnCross).marketable book order = .ok crosses)
    (hnow : crosses = true ∧ ExecutesWhenCrossing order) :
    Tracks fillOnCross (calls ++ [.placeOrder book order execId]) := by
  have hafter : after fillOnCross (calls ++ [.placeOrder book order execId]) =
      (after fillOnCross calls).recordExecution order execId := by
    rw [after_concat]
    exact call_placeOrder_of_executes ((marketable_after calls).trans hreads) hnow
  have hplaced := placed_place calls execId hreads
  have hexecuted : ∀ id, IsExecuted ((after fillOnCross calls).recordExecution order execId) id ↔
      IsExecuted (after fillOnCross calls) id ∨ id = order.orderId := by
    intro id
    simp [IsExecuted, recordExecution, or_and_right, exists_or, executionItem, eq_comm]
  -- a new id is in none of the three places
  obtain ⟨hnotopen, hnotexecuted, hnotcancelled⟩ := h.nowhere hfresh
  constructor <;> simp only [hafter, hplaced, isCancelled_place, Executes]
  · intro id o hget
    obtain ⟨ho, hid⟩ := h.open_placed id o hget
    exact ⟨List.mem_append_left _ ho, hid⟩
  · intro item hitem
    rcases List.mem_append.mp hitem with hold | hnew
    · obtain ⟨o, ho, hrest⟩ := h.executed item hold
      exact ⟨o, List.mem_append_left _ ho, hrest⟩
    · exact ⟨order, by simp, hnow.2, execId, List.mem_singleton.mp hnew⟩
  · simp only [recordExecution, List.map_append, List.map_singleton]
    -- an id executed before was placed before
    refine List.Nodup.append h.executions_nodup (List.nodup_singleton _) ?_
    rintro id hid hnew
    obtain ⟨item, hitem, rfl⟩ := List.mem_map.mp hid
    exact hnotexecuted ⟨item, hitem, List.mem_singleton.mp hnew⟩
  · intro id hcancelled
    obtain ⟨o, ho, hid⟩ := h.cancelled_placed id hcancelled
    exact ⟨o, List.mem_append_left _ ho, hid⟩
  · intro o ho
    rw [hexecuted]
    rcases List.mem_append.mp ho with hold | hnew
    · rcases h.somewhere o hold with hwas | hwas | hwas
      · exact Or.inl hwas
      · exact Or.inr (Or.inl (Or.inl hwas))
      · exact Or.inr (Or.inr hwas)
    · obtain rfl := List.mem_singleton.mp hnew
      exact Or.inr (Or.inl (Or.inr rfl))
  · rintro id hopen hdone
    rcases (hexecuted id).mp hdone with hwas | rfl
    · exact h.not_open_executed id hopen hwas
    · exact hnotopen hopen
  · exact h.not_open_cancelled
  · rintro id hdone hcancelled
    rcases (hexecuted id).mp hdone with hwas | rfl
    · exact h.not_executed_cancelled id hwas hcancelled
    · exact hnotcancelled hcancelled

/-- A placement that rests: its new id is among the open ones. -/
theorem Tracks.rest (h : Tracks fillOnCross calls) {crosses : Bool}
    (hfresh : ∀ o ∈ placed fillOnCross calls, o.orderId ≠ order.orderId)
    (hreads : (start fillOnCross).marketable book order = .ok crosses)
    (hrests : ¬ (crosses = true ∧ ExecutesWhenCrossing order)) :
    Tracks fillOnCross (calls ++ [.placeOrder book order execId]) := by
  have hafter : after fillOnCross (calls ++ [.placeOrder book order execId]) =
      { after fillOnCross calls with
        openOrders := (after fillOnCross calls).openOrders.set order.orderId order } := by
    rw [after_concat]
    exact call_placeOrder_of_rests ((marketable_after calls).trans hreads) hrests
  have hplaced := placed_place calls execId hreads
  -- a new id is in none of the three places
  obtain ⟨-, hnotexecuted, hnotcancelled⟩ := h.nowhere hfresh
  have hexecuted : ∀ id,
      IsExecuted (after fillOnCross (calls ++ [.placeOrder book order execId])) id ↔
        IsExecuted (after fillOnCross calls) id := by
    intro id
    rw [IsExecuted, hafter, IsExecuted]
  have hopened : ∀ id, IsOpen (after fillOnCross (calls ++ [.placeOrder book order execId])) id →
      IsOpen (after fillOnCross calls) id ∨ id = order.orderId := by
    rintro id ⟨o, hget⟩
    rw [hafter, Dict.get?_set] at hget
    split_ifs at hget with hid
    · exact Or.inr hid
    · exact Or.inl ⟨o, hget⟩
  constructor
  · intro id o hget
    rw [hplaced]
    rw [hafter, Dict.get?_set] at hget
    split_ifs at hget with hid
    · obtain rfl := Option.some.inj hget
      exact ⟨by simp, hid.symm⟩
    · obtain ⟨ho, hid⟩ := h.open_placed id o hget
      exact ⟨List.mem_append_left _ ho, hid⟩
  · rw [hafter]
    intro item hitem
    obtain ⟨o, ho, hrest⟩ := h.executed item hitem
    exact ⟨o, by rw [hplaced]; exact List.mem_append_left _ ho, hrest⟩
  · rw [hafter]
    exact h.executions_nodup
  · intro id hcancelled
    obtain ⟨o, ho, hid⟩ := h.cancelled_placed id (isCancelled_place.mp hcancelled)
    exact ⟨o, by rw [hplaced]; exact List.mem_append_left _ ho, hid⟩
  -- the order itself is open, and every other where it was
  · intro o ho
    rw [hexecuted, isCancelled_place]
    rw [hplaced] at ho
    rcases List.mem_append.mp ho with hold | hnew
    · rcases h.somewhere o hold with ⟨o', hget⟩ | hwas
      · refine Or.inl ⟨o', ?_⟩
        rw [hafter, Dict.get?_set_of_ne (hfresh o hold)]
        exact hget
      · exact Or.inr hwas
    · obtain rfl := List.mem_singleton.mp hnew
      refine Or.inl ⟨o, ?_⟩
      rw [hafter, Dict.get?_set_self]
  · intro id hopen hdone
    rw [hexecuted] at hdone
    rcases hopened id hopen with hwas | rfl
    · exact h.not_open_executed id hwas hdone
    · exact hnotexecuted hdone
  · intro id hopen hcancelled
    rw [isCancelled_place] at hcancelled
    rcases hopened id hopen with hwas | rfl
    · exact h.not_open_cancelled id hwas hcancelled
    · exact hnotcancelled hcancelled
  · intro id hdone hcancelled
    rw [hexecuted] at hdone
    exact h.not_executed_cancelled id hdone (isCancelled_place.mp hcancelled)

theorem FreshIds.of_append {later : List PaperCall} (h : FreshIds fillOnCross (calls ++ later)) :
    FreshIds fillOnCross calls := by
  rw [FreshIds, placed, List.filterMap_append, List.map_append] at h
  exact h.of_append_left

/-- The id of the last placement is new. -/
theorem FreshIds.ne_last {crosses : Bool}
    (h : FreshIds fillOnCross (calls ++ [.placeOrder book order execId]))
    (hreads : (start fillOnCross).marketable book order = .ok crosses) :
    ∀ o ∈ placed fillOnCross calls, o.orderId ≠ order.orderId := by
  intro o ho heq
  rw [FreshIds, placed_place calls execId hreads, List.map_append, List.nodup_append] at h
  exact h.2.2 o.orderId (List.mem_map_of_mem ho) order.orderId (by simp) heq

/-- After any calls every accepted order is in one place. -/
theorem tracks_calls (h : FreshIds fillOnCross calls) : Tracks fillOnCross calls := by
  induction calls using List.reverseRecOn with
  | nil => exact tracks_nil fillOnCross
  | append_singleton calls k ih =>
    have hbefore := ih h.of_append
    cases k with
    | placeOrder book order execId =>
      cases hreads : (start fillOnCross).marketable book order with
      | error e => exact hbefore.raise hreads
      | ok crosses =>
        by_cases hnow : crosses = true ∧ ExecutesWhenCrossing order
        · exact hbefore.execute (h.ne_last hreads) hreads hnow
        · exact hbefore.rest (h.ne_last hreads) hreads hnow
    | cancelOrder symbol orderLinkId orderId => exact hbefore.cancel rfl rfl
    | cancelAllOrders symbol => exact hbefore.cancel rfl rfl

/-- Where no two elements have one key, an element is the only one of its key. -/
theorem filter_eq_singleton {item : ExecutionItem} {items : List ExecutionItem}
    (h : (items.map ExecutionItem.orderId).Nodup) (hitem : item ∈ items) :
    items.filter (fun i => i.orderId = item.orderId) = [item] := by
  have hone := SlidingWindow.length_filter_le_one (List.pairwise_map.mp h)
    (p := fun i => i.orderId = item.orderId) fun a b hne ha hb =>
      hne ((of_decide_eq_true ha).trans (of_decide_eq_true hb).symm)
  have hmem : item ∈ items.filter fun i => i.orderId = item.orderId :=
    List.mem_filter.mpr ⟨hitem, decide_eq_true rfl⟩
  obtain ⟨i, hi⟩ := List.length_eq_one_iff.mp (hone.antisymm (List.length_pos_of_mem hmem))
  rw [hi] at hmem ⊢
  rw [List.mem_singleton.mp hmem]

/-- The order an execution is of. -/
theorem Tracks.execution_of (h : Tracks fillOnCross calls) (hfresh : FreshIds fillOnCross calls)
    (horder : order ∈ placed fillOnCross calls)
    (hexecuted : IsExecuted (after fillOnCross calls) order.orderId) :
    ExecutesWhenCrossing order ∧ ∃ execId, executionItem order execId ∈
      (after fillOnCross calls).executions := by
  obtain ⟨item, hitem, hid⟩ := hexecuted
  obtain ⟨o, ho, hexecutes, execId, rfl⟩ := h.executed item hitem
  obtain rfl := List.inj_on_of_nodup_map hfresh ho horder (Option.some.inj hid)
  exact ⟨hexecutes, execId, hitem⟩

/-- Every IOC order that is placed crosses its book, or has a price that raises. -/
def IocCrosses (fillOnCross : Bool) (calls : List PaperCall) : Prop :=
  ∀ book order execId, .placeOrder book order execId ∈ calls → order.timeInForce = "IOC" →
    (start fillOnCross).marketable book order ≠ .ok false

/-- Where every IOC order crosses, none is open. -/
theorem not_open_of_iocCrosses (h : IocCrosses fillOnCross calls) :
    ∀ id order, (after fillOnCross calls).openOrders.get? id = some order →
      order.timeInForce ≠ "IOC" := by
  induction calls using List.reverseRecOn with
  | nil =>
    intro id order hget
    cases hget
  | append_singleton calls k ih =>
    have hbefore := ih fun book order execId hmem =>
      h book order execId (List.mem_append_left _ hmem)
    rw [after_concat]
    cases k with
    | placeOrder book order execId =>
      cases hreads : (after fillOnCross calls).marketable book order with
      | error e =>
        rw [call_placeOrder_of_error hreads]
        exact hbefore
      | ok crosses =>
        by_cases hnow : crosses = true ∧ ExecutesWhenCrossing order
        · rw [call_placeOrder_of_executes hreads hnow]
          exact hbefore
        · rw [call_placeOrder_of_rests hreads hnow]
          intro id o hget hioc
          rw [Dict.get?_set] at hget
          split_ifs at hget with hid
          · -- an IOC order is no PostOnly one, so only its price can keep it from executing
            obtain rfl := Option.some.inj hget
            have hcrosses := h book order execId (by simp) hioc
            rw [← marketable_after calls, hreads] at hcrosses
            cases crosses with
            | false => exact hcrosses rfl
            | true => exact hnow ⟨rfl, Or.inl (by simp [hioc])⟩
          · exact hbefore id o hget hioc
    -- cancelling only takes orders away
    | cancelOrder symbol orderLinkId orderId =>
      intro id o hget
      exact hbefore id o ((call_of_isCancel rfl _).2.2 id o hget)
    | cancelAllOrders symbol =>
      intro id o hget
      exact hbefore id o ((call_of_isCancel rfl _).2.2 id o hget)

theorem IocCrosses.of_append {later : List PaperCall}
    (h : IocCrosses fillOnCross (calls ++ later)) : IocCrosses fillOnCross calls :=
  fun book order execId hmem => h book order execId (List.mem_append_left _ hmem)

theorem accountedOnce (hfresh : FreshIds fillOnCross calls) (h : IocCrosses fillOnCross calls) :
    AccountedOnce fillOnCross calls := by
  have htracks := tracks_calls hfresh
  constructor
  · intro order horder
    rcases htracks.somewhere order horder with hopen | hexecuted | hcancelled
    · exact Or.inl ⟨hopen, htracks.not_open_executed _ hopen, htracks.not_open_cancelled _ hopen⟩
    · exact Or.inr (Or.inl ⟨fun hopen => htracks.not_open_executed _ hopen hexecuted, hexecuted,
        htracks.not_executed_cancelled _ hexecuted⟩)
    · exact Or.inr (Or.inr ⟨fun hopen => htracks.not_open_cancelled _ hopen hcancelled,
        fun hexecuted => htracks.not_executed_cancelled _ hexecuted hcancelled, hcancelled⟩)
  · intro order horder hexecuted
    obtain ⟨-, execId, hitem⟩ := htracks.execution_of hfresh horder hexecuted
    exact ⟨executionItem order execId,
      filter_eq_singleton htracks.executions_nodup hitem, rfl⟩
  · intro order horder hpost hlimit hexecuted
    rcases (htracks.execution_of hfresh horder hexecuted).1 with hne | hmarket
    · exact hne hpost
    · rw [hlimit] at hmarket
      cases hmarket
  · exact not_open_of_iocCrosses h

/-- At every moment of a run every accepted order is accounted for, if and only if every IOC order
crosses its book when it is placed. -/
theorem accountedOnce_iff (hfresh : FreshIds fillOnCross calls) :
    (∀ before later, calls = before ++ later → AccountedOnce fillOnCross before) ↔
      IocCrosses fillOnCross calls := by
  constructor
  · intro h book order execId hmem hioc hrests
    obtain ⟨before, later, rfl⟩ := List.append_of_mem hmem
    have hdone := h (before ++ [.placeOrder book order execId]) later (by simp)
    have hset : call (.placeOrder book order execId) (after fillOnCross before) = _ :=
      call_placeOrder_of_rests ((marketable_after before).trans hrests) (by simp)
    rw [← after_concat] at hset
    refine hdone.ioc order.orderId order ?_ hioc
    rw [hset, Dict.get?_set_self]
  · rintro h before later rfl
    exact accountedOnce hfresh.of_append h.of_append

/-- A run with an order that rests, one that is executed, and one that is cancelled by its link. -/
def threeFates : List PaperCall :=
  [.placeOrder (some ⟨100, 101⟩)
      ⟨"BTCUSDT", "Buy", "1", "99", "paper-1", "mm-1", "PostOnly", "Limit"⟩ "e-1",
    .placeOrder (some ⟨100, 101⟩)
      ⟨"BTCUSDT", "Buy", "1", "101", "paper-2", "spk-1", "IOC", "Limit"⟩ "e-2",
    .placeOrder none ⟨"ETHUSDT", "Sell", "2", "50", "paper-3", "mm-2", "PostOnly", "Limit"⟩ "e-3",
    .cancelOrder "ETHUSDT" (some "mm-2") none]

theorem accountedOnce_iff_threeFates : FreshIds true threeFates ∧
    ((∀ before later, threeFates = before ++ later → AccountedOnce true before) ↔
      IocCrosses true threeFates) :=
  have hfresh : FreshIds true threeFates := by
    unfold FreshIds
    decide +kernel
  ⟨hfresh, accountedOnce_iff hfresh⟩

/-- An IOC order below the market rests. -/
theorem iocOrder_rests : ¬ ∀ fillOnCross calls, FreshIds fillOnCross calls →
    ∀ before later, calls = before ++ later → AccountedOnce fillOnCross before := by
  intro h
  let order : PaperOrder :=
    ⟨"BTCUSDT", "Buy", "1", "99", "paper-1", "spk-1", "IOC", "Limit"⟩
  have hdone := h true [.placeOrder (some ⟨100, 101⟩) order "e-1"]
    (by unfold FreshIds; decide +kernel) _ [] (List.append_nil _).symm
  have hopen : (after true [.placeOrder (some ⟨100, 101⟩) order "e-1"]).openOrders.get? "paper-1" =
    some order := by decide +kernel
  exact hdone.ioc "paper-1" order hopen rfl

end PaperTradingClient

end Botik
