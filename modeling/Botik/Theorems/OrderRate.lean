import Mathlib.Data.List.Induction
import Botik.Library.Runs
import Botik.Library.SlidingWindow
import Botik.Risk.Manager

/-!
# The rate of orders

The risk manager keeps the times of the registered orders and drops the old ones whenever it is
called. Where every registration follows an admitted check, no minute holds more registrations than
the limit, and an order is refused for the rate only where the last minute holds as many.

## Main definitions

* `registrations` — the times of the registered orders
* `EachAdmitted` — every registration follows an admitted check, with none between

## Main results

* `tracks_run` — what is kept after any calls
* `order_rate_within_limit`
-/

namespace Botik

open Runs

/-- The times of the registered orders. -/
def registrations (calls : List RiskCall) : List ℚ :=
  calls.filterMap fun c =>
    match c with
    | .checkOrder _ _ => none
    | .registerOrderPlaced now => some now

/-- The times the manager keeps after some calls. -/
def keptTimes (m : RiskManager) (calls : List RiskCall) : List ℚ := run m.call calls []

/-- The clock does not go back. -/
def ClockGoesOn (calls : List RiskCall) : Prop := calls.Pairwise fun c c' => c.now ≤ c'.now

/-- Every registration follows an admitted check, with no other registration between. -/
def EachAdmitted (m : RiskManager) (calls : List RiskCall) : Prop :=
  ∀ before now after, calls = before ++ .registerOrderPlaced now :: after →
    ∃ earlier checked order between,
      before = earlier ++ .checkOrder checked order :: between ∧ registrations between = [] ∧
        (m.checkAt checked order (keptTimes m earlier)).1.allowed = true

section Calls

variable {m : RiskManager} {calls rest : List RiskCall} {c : RiskCall} {now : ℚ}
  {order : RiskOrder}

theorem lastMinute_eq (now : ℚ) (timestamps : List ℚ) :
    lastMinute now timestamps = SlidingWindow.expire 60 now timestamps := rfl

@[simp] theorem registrations_append :
    registrations (calls ++ rest) = registrations calls ++ registrations rest :=
  List.filterMap_append

@[simp] theorem registrations_nil : registrations [] = [] := rfl

@[simp] theorem registrations_check :
    registrations (.checkOrder now order :: rest) = registrations rest := rfl

@[simp] theorem registrations_register :
    registrations (.registerOrderPlaced now :: rest) = now :: registrations rest := rfl

theorem keptTimes_concat : keptTimes m (calls ++ [c]) = m.call c (keptTimes m calls) := run_append

/-- What is kept after any calls, seen from any later time. -/
theorem tracks_run (hclock : ClockGoesOn calls) (hnow : ∀ c ∈ calls, c.now ≤ now) :
    SlidingWindow.Tracks 60 now (registrations calls) (keptTimes m calls) := by
  induction calls using List.reverseRecOn generalizing now with
  | nil => exact SlidingWindow.Tracks.nil
  | append_singleton calls c ih =>
    obtain ⟨hclock, -, hlast⟩ := List.pairwise_append.mp hclock
    have hbefore := ih hclock fun c' hc' => hlast c' hc' c (List.mem_singleton_self c)
    rw [keptTimes_concat, registrations_append]
    refine SlidingWindow.Tracks.of_le ?_ (hnow c (by simp))
    cases c with
    | checkOrder checked order =>
      rw [registrations_check, registrations_nil, List.append_nil]
      unfold RiskManager.call RiskManager.checkAt
      dsimp only
      -- without a notional the order is refused before the manager looks at the times
      split_ifs
      · exact hbefore
      · exact hbefore.expire
    | registerOrderPlaced registered =>
      rw [registrations_register, registrations_nil]
      exact hbefore.push.expire

/-- A look counts the registrations of its last minute. -/
theorem lastMinute_keptTimes (hclock : ClockGoesOn (calls ++ [c])) :
    lastMinute c.now (keptTimes m calls) =
      SlidingWindow.inWindow 60 c.now (registrations calls) := by
  obtain ⟨hclock, -, hlast⟩ := List.pairwise_append.mp hclock
  rw [lastMinute_eq]
  exact (tracks_run hclock fun c' hc' =>
    hlast c' hc' c (List.mem_singleton_self c)).expire_eq_filter

theorem EachAdmitted.of_append (h : EachAdmitted m (calls ++ rest)) : EachAdmitted m calls := by
  intro before now after heq
  exact h before now (after ++ rest) (by rw [heq, List.append_assoc, List.cons_append])

/-- No minute holds more registrations than the limit. -/
theorem length_inWindow_registrations_le (hclock : ClockGoesOn calls)
    (hadmitted : EachAdmitted m calls) (t : ℚ) :
    (SlidingWindow.inWindow 60 t (registrations calls)).length ≤ m.maxOrdersPerMinute.toNat := by
  induction calls using List.reverseRecOn with
  | nil => exact Nat.zero_le _
  | append_singleton calls c ih =>
    have hbefore := ih (List.pairwise_append.mp hclock).1 hadmitted.of_append
    rw [registrations_append]
    cases c with
    | checkOrder checked order =>
      rw [registrations_check, registrations_nil, List.append_nil]
      exact hbefore
    | registerOrderPlaced now =>
      obtain ⟨earlier, checked, order, between, heq, hnone, hallowed⟩ := hadmitted calls now [] rfl
      subst heq
      rw [List.append_assoc, List.cons_append] at hclock
      obtain ⟨hearlier, hlater, hle⟩ := List.pairwise_append.mp hclock
      have hchecked : checked ≤ now :=
        (List.pairwise_cons.mp hlater).1 (.registerOrderPlaced now) (by simp)
      have hpair : ClockGoesOn (earlier ++ [.checkOrder checked order]) := by
        refine List.pairwise_append.mpr ⟨hearlier, List.pairwise_singleton _ _, ?_⟩
        intro c hc c' hc'
        rw [List.mem_singleton.mp hc']
        exact hle c hc _ List.mem_cons_self
      -- at the look of the check its minute held fewer, and nothing was registered since
      have hcount := length_lt_of_checkAt_ok hallowed
      have hlook : lastMinute checked (keptTimes m earlier) =
          SlidingWindow.inWindow 60 checked (registrations earlier) := lastMinute_keptTimes hpair
      have htracks := tracks_run hearlier (m := m) fun c hc => hle c hc _ List.mem_cons_self
      rw [hlook] at hcount
      rw [registrations_append, registrations_check, hnone, List.append_nil] at hbefore ⊢
      exact SlidingWindow.length_inWindow_concat_le hchecked htracks.le_now (by omega) hbefore

end Calls

/-- On a clock that does not go back, where every registration follows an admitted check with no
other registration between, no minute holds more registrations than the limit; and an order is
refused for the rate only where the last minute holds as many. -/
theorem order_rate_within_limit (m : RiskManager) (calls : List RiskCall)
    (hclock : ClockGoesOn calls) (hadmitted : EachAdmitted m calls) :
    (∀ t, (SlidingWindow.inWindow 60 t (registrations calls)).length ≤
      m.maxOrdersPerMinute.toNat) ∧
    ∀ before now order after, calls = before ++ .checkOrder now order :: after →
      (m.checkAt now order (keptTimes m before)).1 = .maxOrdersPerMinuteExceeded →
        m.maxOrdersPerMinute ≤
          ((SlidingWindow.inWindow 60 now (registrations before)).length : ℤ) := by
  refine ⟨length_inWindow_registrations_le hclock hadmitted, ?_⟩
  rintro before now order after rfl hrefused
  have hpair : ClockGoesOn (before ++ [.checkOrder now order]) :=
    hclock.sublist (List.Sublist.append_left (List.cons_sublist_cons.mpr (List.nil_sublist _)) _)
  have hlook : lastMinute now (keptTimes m before) =
      SlidingWindow.inWindow 60 now (registrations before) := lastMinute_keptTimes hpair
  rw [← hlook]
  exact le_length_of_checkAt_exceeded hrefused

/-! ### One order a minute -/

/-- One order a minute, of any size below a hundred. -/
def oneAMinute : RiskManager where
  initialEquity := 10000
  maxTotalPct := 1
  maxSymbolExposurePct := 1
  maxOrdersPerMinute := 1
  maxOpenPositions := 0

def tenDollars : RiskOrder := ⟨10, 1, 0, 0, 0, none⟩

/-- An order, a second one that comes too early, and a third. -/
def hurriedOrders : List RiskCall :=
  [.checkOrder 0 tenDollars, .registerOrderPlaced 1, .checkOrder 50 tenDollars,
    .checkOrder 62 tenDollars, .registerOrderPlaced 63]

theorem eachAdmitted_hurriedOrders : EachAdmitted oneAMinute hurriedOrders := by
  intro before now after heq
  unfold hurriedOrders at heq
  rcases before with _ | ⟨c₀, _ | ⟨c₁, _ | ⟨c₂, _ | ⟨c₃, _ | ⟨c₄, before⟩⟩⟩⟩⟩
  · simp at heq
  · obtain ⟨rfl, -⟩ := List.cons.inj heq
    exact ⟨[], 0, tenDollars, [], rfl, rfl, by decide +kernel⟩
  · simp at heq
  · simp at heq
  · simp only [List.cons_append, List.nil_append, List.cons.injEq] at heq
    obtain ⟨rfl, rfl, rfl, rfl, -⟩ := heq
    exact ⟨hurriedOrders.take 3, 62, tenDollars, [], rfl, rfl, by decide +kernel⟩
  · simp at heq

/-- The second order is refused for the rate, and no minute holds two. -/
theorem hurriedOrders_within_limit :
    (oneAMinute.checkAt 50 tenDollars (keptTimes oneAMinute (hurriedOrders.take 2))).1 =
        .maxOrdersPerMinuteExceeded ∧
      ∀ t : ℚ, (SlidingWindow.inWindow 60 t [1, 63]).length ≤ 1 := by
  have hclock : ClockGoesOn hurriedOrders := by
    unfold ClockGoesOn hurriedOrders
    decide +kernel
  exact ⟨by decide +kernel,
    (order_rate_within_limit oneAMinute hurriedOrders hclock eachAdmitted_hurriedOrders).1⟩

end Botik
