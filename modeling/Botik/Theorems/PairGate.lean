import Botik.Library.Runs
import Botik.Main.Intents
import Botik.Strategy.PairAdmission

/-!
# The gate of the pair admission over its history

The gate remembers two times. What they say about all earlier calls is an invariant of the sequence;
a `PASS` reads both.

## Main definitions

* `PairAdmission.Remembers` — what the gate says about the calls so far
* `PairAdmission.decisionAfter` — the decision of a call after others

## Main results

* `PairAdmission.remembers_final` — the invariant, over every sequence of calls
* `pass_only_after_hold_and_cooldown` — what a `PASS` implies
-/

namespace Botik

open Machines

/-- What the loop reads of a decision it asks for. -/
def PairAdmissionDecision.toPairDecision (d : PairAdmissionDecision) : PairDecision :=
  ⟨d.status.text, d.minRequiredSpreadBps⟩

namespace PairAdmission

/-- The times of a sequence of calls are positive and do not go back. -/
structure Ordered (calls : List PairEvaluation) : Prop where
  positive : ∀ e ∈ calls, 0 < e.now
  sorted : calls.Pairwise fun e e' => e.now ≤ e'.now

/-- The state after a sequence of calls for a symbol. -/
def stateAfter (c : PairConfig) (calls : List PairEvaluation) : PairState :=
  final (evaluatePairAdmission c) calls .initial

/-- The decision of a call after others. -/
def decisionAfter (c : PairConfig) (earlier : List PairEvaluation) (e : PairEvaluation) :
    PairAdmissionDecision :=
  (evaluatePairAdmission c e (stateAfter c earlier)).1

/-- What the clocks of the gate say about the calls so far. -/
structure Remembers (c : PairConfig) (calls : List PairEvaluation) (g : PairGate) : Prop where
  /-- A clock that runs was set by a call that met all conditions. -/
  started : 0 < g.passSinceMs → ∃ e ∈ calls, e.now = g.passSinceMs ∧ e.AllOk c
  /-- No call failed a condition since. -/
  unbroken : 0 < g.passSinceMs → ∀ e ∈ calls, ¬ e.AllOk c → e.now ≤ g.passSinceMs
  /-- The cooldown of every critical failure ends by the other clock. -/
  cooled : ∀ e ∈ calls, ¬ e.AllOk c → e.IsCritical c → e.now + c.cooldownMs ≤ g.cooldownUntilMs

section Gate

variable {c : PairConfig} {e : PairEvaluation} {g : PairGate} {calls : List PairEvaluation}

theorem gateStatus_of_allOk (hok : e.AllOk c) :
    (gateStatus c e g).2.2 = { g with passSinceMs := g.passSince e.now } := by
  unfold gateStatus
  rw [if_pos hok]
  dsimp only
  split_ifs
  · rfl
  · rfl
  · rfl

/-- A `PASS` is only given when both clocks have run. -/
theorem gateStatus_eq_pass_iff : (gateStatus c e g).1 = .pass ↔
    e.AllOk c ∧ g.cooldownUntilMs ≤ e.now ∧ c.holdMs ≤ e.now - g.passSince e.now := by
  unfold gateStatus
  by_cases hok : e.AllOk c
  · rw [if_pos hok]
    dsimp only
    split_ifs with hcool hhold
    · simp [hcool]
    · simp [hhold]
    · simp only [true_iff]
      exact ⟨hok, not_lt.mp hcool, not_lt.mp hhold⟩
  · rw [if_neg hok]
    split_ifs
    · simp [hok]
    · simp [hok]

/-- A critical failure, and nothing else, is a `REJECT`. -/
theorem gateStatus_eq_reject_iff :
    (gateStatus c e g).1 = .reject ↔ ¬ e.AllOk c ∧ e.IsCritical c := by
  unfold gateStatus
  by_cases hok : e.AllOk c
  · rw [if_pos hok]
    dsimp only
    split_ifs
    · simp [hok]
    · simp [hok]
    · simp [hok]
  · rw [if_neg hok]
    by_cases hcritical : e.IsCritical c
    · rw [if_pos hcritical]
      exact iff_of_true rfl ⟨hok, hcritical⟩
    · rw [if_neg hcritical]
      exact iff_of_false (by simp) fun h => hcritical h.2

/-- One call. -/
theorem Remembers.step (h : Remembers c calls g) (hnow : 0 < e.now)
    (hlatest : ∀ e' ∈ calls, e'.now ≤ e.now) :
    Remembers c (calls ++ [e]) (gateStatus c e g).2.2 := by
  by_cases hok : e.AllOk c
  · rw [gateStatus_of_allOk hok]
    -- the clock is started now or it runs already
    have hclock : (g.passSince e.now = e.now ∧ g.passSinceMs ≤ 0) ∨
        (g.passSince e.now = g.passSinceMs ∧ 0 < g.passSinceMs) := by
      unfold PairGate.passSince
      split_ifs with hunset
      · exact Or.inl ⟨rfl, hunset⟩
      · exact Or.inr ⟨rfl, not_le.mp hunset⟩
    refine ⟨fun _ => ?_, fun _ e' he' hfail => ?_, fun e' he' hfail hcritical => ?_⟩
    · rcases hclock with ⟨hset, -⟩ | ⟨hset, hruns⟩
      · exact ⟨e, List.mem_append_right _ (List.mem_singleton_self e), hset.symm, hok⟩
      · obtain ⟨e₀, hmem, htime, hok₀⟩ := h.started hruns
        exact ⟨e₀, List.mem_append_left _ hmem, htime.trans hset.symm, hok₀⟩
    · rcases List.mem_append.mp he' with hmem | hmem
      · rcases hclock with ⟨hset, -⟩ | ⟨hset, hruns⟩
        · exact (hlatest e' hmem).trans_eq hset.symm
        · exact (h.unbroken hruns e' hmem hfail).trans_eq hset.symm
      · obtain rfl := List.mem_singleton.mp hmem
        exact absurd hok hfail
    · rcases List.mem_append.mp he' with hmem | hmem
      · exact h.cooled e' hmem hfail hcritical
      · obtain rfl := List.mem_singleton.mp hmem
        exact absurd hok hfail
  · unfold gateStatus
    rw [if_neg hok]
    by_cases hcritical : e.IsCritical c
    · rw [if_pos hcritical]
      refine ⟨fun hruns => absurd hruns (lt_irrefl 0), fun hruns => absurd hruns (lt_irrefl 0),
        fun e' he' _ _ => ?_⟩
      rcases List.mem_append.mp he' with hmem | hmem
      · have hle := hlatest e' hmem
        dsimp only
        omega
      · obtain rfl := List.mem_singleton.mp hmem
        exact le_rfl
    · rw [if_neg hcritical]
      refine ⟨fun hruns => absurd hruns (lt_irrefl 0), fun hruns => absurd hruns (lt_irrefl 0),
        fun e' he' hfail hcritical' => ?_⟩
      rcases List.mem_append.mp he' with hmem | hmem
      · exact h.cooled e' hmem hfail hcritical'
      · obtain rfl := List.mem_singleton.mp hmem
        exact absurd hcritical' hcritical

end Gate

section Sequence

variable {c : PairConfig} {calls earlier : List PairEvaluation} {e : PairEvaluation}

theorem Ordered.init (h : Ordered (calls ++ [e])) : Ordered calls where
  positive := fun e' he' => h.positive e' (List.mem_append_left _ he')
  sorted := (List.pairwise_append.mp h.sorted).1

theorem Ordered.latest (h : Ordered (calls ++ [e])) : ∀ e' ∈ calls, e'.now ≤ e.now :=
  fun e' he' => (List.pairwise_append.mp h.sorted).2.2 e' he' e (List.mem_singleton_self e)

theorem Ordered.last_pos (h : Ordered (calls ++ [e])) : 0 < e.now :=
  h.positive e (List.mem_append_right _ (List.mem_singleton_self e))

/-- The invariant holds after every sequence of calls. -/
theorem remembers_final (h : Ordered calls) : Remembers c calls (stateAfter c calls).gate := by
  induction calls using List.reverseRecOn with
  | nil =>
    exact ⟨fun hruns => absurd hruns (lt_irrefl 0), fun hruns => absurd hruns (lt_irrefl 0),
      fun e he => absurd he List.not_mem_nil⟩
  | append_singleton calls e ih =>
    have hstep : (stateAfter c (calls ++ [e])).gate =
        (gateStatus c e (stateAfter c calls).gate).2.2 := by
      unfold stateAfter
      rw [final_append]
      rfl
    rw [hstep]
    exact (ih h.init).step h.last_pos h.latest

end Sequence

/-! ### What a `PASS` implies -/

section Pass

variable {c : PairConfig} {earlier : List PairEvaluation} {e : PairEvaluation}

/-- No call within the hold failed a condition. -/
theorem allOk_of_pass (h : Ordered (earlier ++ [e])) (hpass : (decisionAfter c earlier e).status = .pass)
    {e' : PairEvaluation} (he' : e' ∈ earlier) (hlate : e.now - c.holdMs < e'.now) : e'.AllOk c := by
  by_contra hfail
  obtain ⟨-, -, hhold⟩ := gateStatus_eq_pass_iff.mp hpass
  have hlatest := h.latest e' he'
  have hmemory := (remembers_final h.init).unbroken (c := c)
  unfold PairGate.passSince at hhold
  split_ifs at hhold with hunset
  · -- the clock starts with this call, so there is no hold
    omega
  · have hbefore := hmemory (not_le.mp hunset) e' he' hfail
    omega

/-- Where a hold is required, a call before it met all conditions. -/
theorem started_of_pass (h : Ordered (earlier ++ [e]))
    (hpass : (decisionAfter c earlier e).status = .pass) (hhold : 0 < c.holdMs) :
    ∃ e' ∈ earlier, e'.now ≤ e.now - c.holdMs ∧ e'.AllOk c := by
  obtain ⟨-, -, hheld⟩ := gateStatus_eq_pass_iff.mp hpass
  unfold PairGate.passSince at hheld
  split_ifs at hheld with hunset
  · omega
  · obtain ⟨e', he', htime, hok⟩ := (remembers_final h.init).started (not_le.mp hunset)
    refine ⟨e', he', ?_, hok⟩
    omega

/-- No critical failure is younger than the cooldown. -/
theorem cooled_of_pass (h : Ordered (earlier ++ [e]))
    (hpass : (decisionAfter c earlier e).status = .pass) {e' : PairEvaluation} (he' : e' ∈ earlier)
    (hfail : ¬ e'.AllOk c) (hcritical : e'.IsCritical c) : e'.now ≤ e.now - c.cooldownMs := by
  obtain ⟨-, hcool, -⟩ := gateStatus_eq_pass_iff.mp hpass
  have hended := (remembers_final h.init).cooled e' he' hfail hcritical
  omega

end Pass

/-- In the strict mode nothing reaches the executor without a `PASS`. -/
theorem guardedPlaceOrder_of_not_pass {x : Config} (hstrict : x.strictPairFilter = true)
    {env : IntentEnv} {d : PairAdmissionDecision} (hdecision : env.pairDecision = d.toPairDecision)
    (hstatus : d.status ≠ .pass) (intent : OrderIntent) (timeInForce : String) (w : World) :
    ∃ reply, guardedPlaceOrder x env intent timeInForce w = .ok reply w := by
  have htext : env.pairDecision.status ≠ "PASS" := by
    rw [hdecision]
    cases hd : d.status with
    | pass => exact absurd hd hstatus
    | watch => simp [PairAdmissionDecision.toPairDecision, hd, PairStatus.text]
    | reject => simp [PairAdmissionDecision.toPairDecision, hd, PairStatus.text]
  have hrefused : ∃ refusal, guardRefusal x env intent timeInForce = some refusal := by
    unfold guardRefusal
    rw [if_neg (not_not.mpr hstrict)]
    cases env.pairFilter with
    | none => exact ⟨_, rfl⟩
    | some filter =>
      dsimp only
      split_ifs
      · exact ⟨_, rfl⟩
      · exact ⟨_, rfl⟩
      · exact ⟨_, rfl⟩
  obtain ⟨refusal, hrefusal⟩ := hrefused
  refine ⟨{ toApiReply := refusal, orderId := none }, ?_⟩
  unfold guardedPlaceOrder
  rw [hrefusal]
  rfl

end PairAdmission

open PairAdmission

/-- For every sequence of calls for a symbol, a `PASS` implies that no call within the hold failed a
condition, that a call before a positive hold met all conditions, and that no call within the
cooldown was a critical `REJECT`. In the strict mode a guarded order, which makes such a call
itself, is answered without the executor where the call is no `PASS`. -/
theorem pass_only_after_hold_and_cooldown (c : PairConfig) (earlier : List PairEvaluation)
    (e : PairEvaluation) (h : Ordered (earlier ++ [e])) :
    ((decisionAfter c earlier e).status = .pass →
      (∀ e' ∈ earlier, e.now - c.holdMs < e'.now → e'.AllOk c) ∧
      (0 < c.holdMs → ∃ e' ∈ earlier, e'.now ≤ e.now - c.holdMs ∧ e'.AllOk c) ∧
      ∀ before e' after, earlier = before ++ e' :: after →
        (decisionAfter c before e').status = .reject → ¬ e.now - c.cooldownMs < e'.now) ∧
      ∀ (x : Config) (env : IntentEnv), x.strictPairFilter = true →
        env.pairDecision = (decisionAfter c earlier e).toPairDecision →
        (decisionAfter c earlier e).status ≠ .pass → ∀ intent timeInForce w,
          ∃ reply, guardedPlaceOrder x env intent timeInForce w = .ok reply w := by
  constructor
  · intro hpass
    refine ⟨fun e' he' => allOk_of_pass h hpass he', started_of_pass h hpass, ?_⟩
    rintro before e' after rfl hreject
    obtain ⟨hfail, hcritical⟩ := gateStatus_eq_reject_iff.mp hreject
    have hmem : e' ∈ before ++ e' :: after := List.mem_append_right _ List.mem_cons_self
    exact not_lt.mpr (cooled_of_pass h hpass hmem hfail hcritical)
  · intro x env hstrict hdecision hstatus intent timeInForce w
    exact guardedPlaceOrder_of_not_pass hstrict hdecision hstatus intent timeInForce w

/-- A hold of two seconds and a cooldown of ten. -/
def heldConfig : PairConfig := ⟨2000, 5000, 10, 8000, 15000, 20, 3, 2, 3, 2, 10⟩

/-- A pair that meets every condition at the time. -/
def calmPair (now : ℤ) : PairEvaluation :=
  ⟨now, ⟨true, some now, some now, true, true, 60, some 1000, some 2000, 100, 100, 1, 5, 10, 10, 8,
    4⟩⟩

theorem calm_pair_passes :
    (decisionAfter heldConfig [calmPair 1000, calmPair 2000] (calmPair 3000)).status = .pass ∧
      (∃ e' ∈ [calmPair 1000, calmPair 2000], e'.now ≤ 3000 - 2000 ∧ e'.AllOk heldConfig) ∧
      (decisionAfter heldConfig [calmPair 1000] (calmPair 2000)).status = .watch := by
  have hordered : Ordered ([calmPair 1000, calmPair 2000] ++ [calmPair 3000]) := by
    constructor
    · decide +kernel
    · decide +kernel
  have hpass : (decisionAfter heldConfig [calmPair 1000, calmPair 2000] (calmPair 3000)).status =
      .pass := by decide +kernel
  have hhistory := (pass_only_after_hold_and_cooldown heldConfig [calmPair 1000, calmPair 2000]
    (calmPair 3000) hordered).1 hpass
  exact ⟨hpass, hhistory.2.1 (by decide), by decide +kernel⟩

end Botik
