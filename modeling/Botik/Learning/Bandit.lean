import Mathlib.Algebra.Order.Field.Rat
import Botik.Library.Dict
import Botik.Library.Text
import Botik.Storage.LifecycleStore

/-!
# The profile bandit

`GaussianThompsonBandit.update` of `learning/bandit.py`: which arm a reward goes
to, and the running mean and squared deviation of that arm. `select` draws a sample
for every arm of a symbol and takes the greatest.

## Main definitions

* `ArmState`, `ArmState.update`
* `updateArm` — the update of the stored state of an arm
* `armOfSignal` — the arm a signal rewards
* `banditSelect` — the choice of an arm for each symbol
-/

namespace Botik

/-- `ArmState`: number of rewards, mean and sum of squared deviations. -/
structure ArmState where
  n : ℕ
  mean : ℚ
  m2 : ℚ
  deriving DecidableEq, Repr

namespace ArmState

def initial : ArmState := ⟨0, 0, 0⟩

/-- `update_arm`: the running update by one reward. -/
def update (state : ArmState) (rewardBps : ℚ) : ArmState :=
  let n1 := state.n + 1
  let delta := rewardBps - state.mean
  let mean1 := state.mean + delta / n1
  ⟨n1, mean1, state.m2 + delta * (rewardBps - mean1)⟩

end ArmState

/-- `bandit_state`, unique in symbol and profile. -/
abbrev BanditStore := Dict (String × String) ArmState

/-- `_load_state`. -/
def loadState (db : BanditStore) (arm : String × String) : ArmState :=
  (db.get? arm).getD .initial

/-- `update_arm`: load the state, update it and store it. -/
def updateArm (db : BanditStore) (arm : String × String) (rewardBps : ℚ) : BanditStore :=
  db.set arm ((loadState db arm).update rewardBps)

/-- `GaussianThompsonBandit.update`, up to the choice of the arm: none for an
unknown signal or one without a symbol; the first profile where the signal has
none. -/
def armOfSignal (signals : Dict String SignalRow) (profileIds : List String) (signalId : String) :
    Option (String × String) :=
  match signals.get? signalId with
  | none => none
  | some row =>
    let symbol := Text.strip (Text.upper row.symbol)
    let profileId := Text.strip (Text.orEmpty row.profileId)
    if symbol = "" then none
    else if profileId = "" then some (symbol, profileIds.headD "default")
    else some (symbol, profileId)

/-! ### The choice of an arm -/

/-- The settings of the bandit. -/
structure BanditConfig where
  profileIds : List String
  epsilon : ℚ
  priorStd : ℚ

/-- `profile_ids` of the bandit. -/
def BanditConfig.arms (c : BanditConfig) : List String :=
  let uniqueProfiles := (c.profileIds.map Text.strip).filter (· ≠ "")
  if uniqueProfiles = [] then ["default"] else uniqueProfiles

/-- The random numbers of a symbol: `random.random()`, what `random.choice` picks, and `random.gauss`
for a profile, by the mean and the variance. -/
structure BanditDraw where
  explore : ℚ
  pick : ℕ
  gauss : String → ℚ → ℚ → ℚ

/-- The square of `sigma`. -/
def ArmState.variance (priorStd : ℚ) (state : ArmState) : ℚ :=
  if state.n < 2 then max priorStd (1 / 100) ^ 2
  else max (state.m2 / max (state.n - 1) 1) (1 / 10 ^ 6) / max state.n 1

/-- The first profile of the greatest sample; a sample has to be above the floor. -/
def bestArm (sample : String → ℚ) (first : String) (arms : List String) : String :=
  (arms.foldl (fun best profileId =>
    if best.2 < sample profileId then (profileId, sample profileId) else best)
    (first, -10 ^ 9)).1

/-- `GaussianThompsonBandit.select`, for one symbol. -/
def selectArm (c : BanditConfig) (db : BanditStore) (medianSpreadBps : ℚ) (draw : BanditDraw)
    (symbol : String) : String :=
  let first := c.arms.headD "default"
  if c.arms.length = 1 then first
  else if draw.explore < min (max c.epsilon 0) 1 then
    c.arms.getD (draw.pick % c.arms.length) first
  else
    let spreadAdjust := min (max medianSpreadBps (-25)) 25 * (1 / 100)
    bestArm (fun profileId =>
      let state := loadState db (symbol, profileId)
      draw.gauss profileId state.mean (state.variance c.priorStd) + spreadAdjust) first c.arms

/-- `GaussianThompsonBandit.select`; the draws are numbered by the symbols. -/
def banditSelect (c : BanditConfig) (db : BanditStore) (medianSpreadBps : String → ℚ)
    (draws : ℕ → BanditDraw) (passSymbols : List String) : List (String × String) :=
  passSymbols.zipIdx.map fun e =>
    (e.1, selectArm c db (medianSpreadBps e.1) (draws e.2) e.1)

theorem BanditConfig.arms_ne_nil (c : BanditConfig) : c.arms ≠ [] := by
  unfold BanditConfig.arms
  dsimp only
  split_ifs with hnone
  · exact List.cons_ne_nil _ _
  · exact hnone

/-- The best arm is one of the arms, or the first. -/
theorem bestArm_mem (sample : String → ℚ) (first : String) (arms : List String) :
    bestArm sample first arms ∈ first :: arms := by
  unfold bestArm
  generalize (-10 ^ 9 : ℚ) = floor
  induction arms generalizing first floor with
  | nil => exact List.mem_singleton_self _
  | cons profileId arms ih =>
    rw [List.foldl_cons]
    split_ifs with hgreater
    · exact List.mem_cons_of_mem _ (ih profileId _)
    · rcases List.mem_cons.mp (ih first floor) with hfirst | hlater
      · rw [hfirst]
        exact List.mem_cons_self
      · exact List.mem_cons_of_mem _ (List.mem_cons_of_mem _ hlater)

/-- The bandit selects one of its arms. -/
theorem selectArm_mem (c : BanditConfig) (db : BanditStore) (medianSpreadBps : ℚ)
    (draw : BanditDraw) (symbol : String) :
    selectArm c db medianSpreadBps draw symbol ∈ c.arms := by
  have hfirst : c.arms.headD "default" ∈ c.arms := by
    obtain ⟨first, rest, harms⟩ := List.exists_cons_of_ne_nil c.arms_ne_nil
    rw [harms]
    exact List.mem_cons_self
  unfold selectArm
  dsimp only
  split_ifs with hone hexplore
  · exact hfirst
  · have hpick : draw.pick % c.arms.length < c.arms.length :=
      Nat.mod_lt _ (List.length_pos_of_ne_nil c.arms_ne_nil)
    rw [List.getD_eq_getElem?_getD, List.getElem?_eq_getElem hpick, Option.getD_some]
    exact List.getElem_mem hpick
  · refine (List.mem_cons.mp (bestArm_mem _ _ _)).elim (fun hbest => ?_) id
    rw [hbest]
    exact hfirst

end Botik
