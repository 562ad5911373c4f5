import Botik.Learning.Bandit
import Botik.Library.RunningStatistics
import Botik.Library.Runs

/-!
# The statistics of the bandit

The state of an arm is the number of its rewards, their mean and the sum of the squared deviations
from it, in whatever order the arms are rewarded.

## Main definitions

* `ArmState.ofRewards` — the statistics of some rewards
* `updateArms` — a sequence of updates

## Main results

* `ArmState.ofRewards_concat` — one update
* `get?_updateArms` — the stored rows after any sequence of updates
* `bandit_statistics_exact`
-/

namespace Botik

/-! ### One arm -/

/-- The statistics of some rewards. -/
def ArmState.ofRewards (rewards : List ℚ) : ArmState where
  n := rewards.length
  mean := Moments.mean rewards
  m2 := Moments.squaredDev rewards

theorem ArmState.ofRewards_nil : ArmState.ofRewards [] = .initial := by
  simp [ofRewards, initial]

/-- An update by one more reward. -/
theorem ArmState.ofRewards_concat (rewards : List ℚ) (rewardBps : ℚ) :
    ArmState.ofRewards (rewards ++ [rewardBps]) = (ArmState.ofRewards rewards).update rewardBps := by
  have hmean := Moments.mean_concat rewards rewardBps
  unfold ofRewards update
  simp [Moments.squaredDev_concat, hmean]

/-! ### The table -/

section Table

variable {db : BanditStore} {arm arm' : String × String} {rewardBps : ℚ}

theorem loadState_of_get? {state : ArmState} (h : db.get? arm = some state) :
    loadState db arm = state := by
  rw [loadState, h, Option.getD_some]

theorem get?_updateArm_self (db : BanditStore) (arm : String × String) (rewardBps : ℚ) :
    (updateArm db arm rewardBps).get? arm = some ((loadState db arm).update rewardBps) :=
  Dict.get?_set_self _ _ _

theorem get?_updateArm_of_ne (h : arm' ≠ arm) :
    (updateArm db arm rewardBps).get? arm' = db.get? arm' :=
  Dict.get?_set_of_ne h _ _

theorem loadState_updateArm_of_ne (h : arm' ≠ arm) :
    loadState (updateArm db arm rewardBps) arm' = loadState db arm' := by
  rw [loadState, get?_updateArm_of_ne h, loadState]

/-- Updates of different arms commute. -/
theorem updateArm_comm (h : arm ≠ arm') (rewardBps rewardBps' : ℚ) (a : String × String) :
    (updateArm (updateArm db arm rewardBps) arm' rewardBps').get? a =
      (updateArm (updateArm db arm' rewardBps') arm rewardBps).get? a := by
  by_cases ha : a = arm
  · subst ha
    rw [get?_updateArm_of_ne h, get?_updateArm_self, get?_updateArm_self,
      loadState_updateArm_of_ne h]
  by_cases ha' : a = arm'
  · subst ha'
    rw [get?_updateArm_self, get?_updateArm_of_ne ha, get?_updateArm_self,
      loadState_updateArm_of_ne ha]
  rw [get?_updateArm_of_ne ha', get?_updateArm_of_ne ha, get?_updateArm_of_ne ha,
    get?_updateArm_of_ne ha']

end Table

/-! ### Sequences -/

/-- A sequence of updates, each of an arm by a reward. -/
def updateArms (updates : List ((String × String) × ℚ)) (db : BanditStore) : BanditStore :=
  Runs.run (fun u db => updateArm db u.1 u.2) updates db

/-- The table holds the statistics of the updates so far. -/
def HoldsStatistics (updates : List ((String × String) × ℚ)) (db : BanditStore) : Prop :=
  ∀ arm, db.get? arm =
    if Dict.valuesOf updates arm = [] then none
    else some (.ofRewards (Dict.valuesOf updates arm))

theorem HoldsStatistics.loadState_eq {updates : List ((String × String) × ℚ)} {db : BanditStore}
    (h : HoldsStatistics updates db) (arm : String × String) :
    loadState db arm = .ofRewards (Dict.valuesOf updates arm) := by
  rw [loadState, h arm]
  split_ifs with hnone
  · rw [hnone, Option.getD_none, ArmState.ofRewards_nil]
  · rfl

/-- One more update. -/
theorem HoldsStatistics.step {updates : List ((String × String) × ℚ)} {db : BanditStore}
    (h : HoldsStatistics updates db) (u : (String × String) × ℚ) :
    HoldsStatistics (updates ++ [u]) (updateArm db u.1 u.2) := by
  obtain ⟨arm, rewardBps⟩ := u
  intro arm'
  rw [Dict.valuesOf_append]
  by_cases harm : arm' = arm
  · subst harm
    have hnew : Dict.valuesOf [(arm', rewardBps)] arm' = [rewardBps] := by simp [Dict.valuesOf]
    rw [hnew, if_neg (by simp), get?_updateArm_self, h.loadState_eq, ArmState.ofRewards_concat]
  · have hnone : Dict.valuesOf [(arm, rewardBps)] arm' = [] := by
      simp [Dict.valuesOf, Ne.symm harm]
    rw [hnone, List.append_nil, get?_updateArm_of_ne harm]
    exact h arm'

/-- The stored rows after any sequence of updates. -/
theorem holdsStatistics_updateArms (updates : List ((String × String) × ℚ)) :
    HoldsStatistics updates (updateArms updates .empty) := by
  induction updates using List.reverseRecOn with
  | nil => exact fun arm => rfl
  | append_singleton updates u ih =>
    rw [updateArms, Runs.run_append]
    exact ih.step u

/-- Along any sequence of updates an arm has the number of its rewards, their mean and their squared
deviations from it, and updates of different arms commute. -/
theorem bandit_statistics_exact (updates : List ((String × String) × ℚ)) :
    (∀ arm, (updateArms updates .empty).get? arm =
      if Dict.valuesOf updates arm = [] then none
      else some
        { n := (Dict.valuesOf updates arm).length
          mean := (Dict.valuesOf updates arm).sum / (Dict.valuesOf updates arm).length
          m2 := ((Dict.valuesOf updates arm).map fun reward =>
            (reward - (Dict.valuesOf updates arm).sum /
              (Dict.valuesOf updates arm).length) ^ 2).sum }) ∧
      (∀ arm state, (updateArms updates .empty).get? arm = some state → 0 ≤ state.m2) ∧
      ∀ (db : BanditStore) (u v : (String × String) × ℚ), u.1 ≠ v.1 →
        ∀ arm, (updateArms [u, v] db).get? arm = (updateArms [v, u] db).get? arm := by
  refine ⟨holdsStatistics_updateArms updates, fun arm state hstate => ?_,
    fun db u v hne arm => updateArm_comm hne u.2 v.2 arm⟩
  rw [← loadState_of_get? hstate, (holdsStatistics_updateArms updates).loadState_eq]
  exact Moments.squaredDev_nonneg _

/-- Three rewards on two arms. -/
example : (updateArms [(("BTCUSDT", "safe"), 4), (("BTCUSDT", "fast"), -1),
    (("BTCUSDT", "safe"), 8)] .empty).get? ("BTCUSDT", "safe") = some ⟨2, 6, 8⟩ := by
  decide +kernel

end Botik
