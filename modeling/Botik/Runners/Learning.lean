import Botik.Ml.Trainer

/-!
# Learning while trading

Both runners hand every closed trade to the learner of their trainer and train again after fifty of
them; the futures runner also when the learner has updated its parameters, which comes to the same.
Between its own steps the other processes write to what is shared.

## Main definitions

* `RunnerLearning`, `RunnerLearning.start`
* `RunnerLearning.recordClosed`, `RunnerLearning.retrain`

## Main results

* `RunnerLearning.Counts.recordClosed` — what a closed trade keeps
-/

namespace Botik

open Ml

/-- The part of a runner that learns. -/
structure RunnerLearning (μ : Type) where
  trainer : ModelTrainer μ
  /-- `_predict_fn` is not `None`. -/
  connected : Bool
  closedSinceRetrain : ℕ
  store : TrainingStore μ
  /-- The trades that were recorded so far, and how often it has trained. -/
  recorded : List LearnedTrade
  trainings : ℕ

namespace RunnerLearning

variable {μ : Type}

/-- The number of closed trades after which a runner trains again. -/
def retrainAfter : ℕ := 50

/-- The constructor of a runner. -/
def start (scope : ModelScope) (store : TrainingStore μ) : RunnerLearning μ where
  trainer := ModelTrainer.tryLoadModels scope store
  connected := (ModelTrainer.tryLoadModels scope store).isReady
  closedSinceRetrain := 0
  store := store
  recorded := []
  trainings := 0

variable (e : Estimators μ)

/-- Train, and connect the models if they are ready now. -/
def retrain (stamps : DeployStamps) (s : RunnerLearning μ) : RunnerLearning μ :=
  let after := (ModelTrainer.incremental e stamps ⟨s.trainer, s.store⟩).2
  { s with
    trainer := after.trainer
    connected := s.connected || after.trainer.isReady
    closedSinceRetrain := 0
    store := after.store
    trainings := s.trainings + 1 }

/-- The learner takes a trade. -/
def learn (trade : LearnedTrade) (s : RunnerLearning μ) : RunnerLearning μ :=
  { s with
    trainer := { s.trainer with
      outcomeLearner := (s.trainer.outcomeLearner.recordTrade trade).2 }
    closedSinceRetrain := s.closedSinceRetrain + 1
    recorded := s.recorded ++ [trade] }

/-- A closed trade; with `early` an update of the parameters is followed by a training too. -/
def recordClosed (early : Bool) (trade : LearnedTrade) (stamps : DeployStamps)
    (s : RunnerLearning μ) : RunnerLearning μ :=
  let updated := (s.trainer.outcomeLearner.recordTrade trade).1
  let s := s.learn trade
  if (early ∧ updated) ∨ retrainAfter ≤ s.closedSinceRetrain then s.retrain e stamps else s

/-! ### Counting -/

section Facts

variable {l : OutcomeLearner} {trade : LearnedTrade} {t : ModelTrainer μ} {s : RunnerLearning μ}

/-- A learner that was fed so often since its last update. -/
structure Fed (n : ℕ) (l : OutcomeLearner) : Prop where
  since : l.sinceLastUpdate = n
  enough : min n OutcomeLearner.window ≤ l.trades.length
  bounded : l.trades.length ≤ OutcomeLearner.window

@[simp] theorem trades_updateStats : l.updateStats.trades = l.trades := by
  unfold OutcomeLearner.updateStats
  split_ifs <;> rfl

@[simp] theorem sinceLastUpdate_updateStats :
    l.updateStats.sinceLastUpdate = l.sinceLastUpdate := by
  unfold OutcomeLearner.updateStats
  split_ifs <;> rfl

theorem fed_initial : Fed 0 OutcomeLearner.initial :=
  ⟨rfl, Nat.zero_le _, Nat.zero_le _⟩

theorem Fed.updateStats {n : ℕ} (h : Fed n l) : Fed n l.updateStats := by
  constructor
  · rw [sinceLastUpdate_updateStats]
    exact h.since
  · rw [trades_updateStats]
    exact h.enough
  · rw [trades_updateStats]
    exact h.bounded

theorem Fed.loadFromDb {n : ℕ} (h : Fed n l) (modelScope : String) (rows : List PaperOutcomeRow) :
    Fed n (l.loadFromDb modelScope rows) := by
  have hbounded := h.bounded
  have henough := h.enough
  unfold OutcomeLearner.loadFromDb
  apply Fed.updateStats
  constructor
  · exact h.since
  · dsimp only
    rw [List.length_drop, List.length_append]
    omega
  · dsimp only
    rw [List.length_drop]
    omega

theorem Fed.getStats {n : ℕ} (h : Fed n l) : Fed n l.getStats.2 := by
  unfold OutcomeLearner.getStats
  dsimp only
  split_ifs
  · exact h.updateStats
  · exact h

theorem Fed.suggestThreshold {n : ℕ} (h : Fed n l) (q : ℚ) : Fed n (l.suggestThreshold q).2 :=
  h.getStats

theorem Fed.append {n : ℕ} (h : Fed n l) (trade : LearnedTrade) : Fed (n + 1) (l.append trade) := by
  have hbounded := h.bounded
  have henough := h.enough
  unfold OutcomeLearner.append
  constructor
  · exact congrArg (· + 1) h.since
  · dsimp only
    rw [List.length_drop, List.length_append, List.length_singleton]
    omega
  · dsimp only
    rw [List.length_drop]
    omega

/-- A trade updates the parameters if and only if it is the fiftieth. -/
theorem Fed.recordTrade {n : ℕ} (h : Fed n l) (trade : LearnedTrade) :
    ((l.recordTrade trade).1 = true ↔ retrainAfter ≤ n + 1) ∧
      Fed (if retrainAfter ≤ n + 1 then 0 else n + 1) (l.recordTrade trade).2 := by
  have hfed := h.append trade
  by_cases hdue : retrainAfter ≤ n + 1
  · have hboth : OutcomeLearner.retrainEveryN ≤ (l.append trade).sinceLastUpdate ∧
        OutcomeLearner.minSamples ≤ (l.append trade).trades.length := by
      have henough := hfed.enough
      rw [hfed.since]
      unfold retrainAfter at hdue
      unfold OutcomeLearner.retrainEveryN OutcomeLearner.minSamples
      unfold OutcomeLearner.window at henough
      omega
    rw [l.recordTrade_of_due hboth, if_pos hdue]
    refine ⟨iff_of_true rfl hdue, rfl, ?_, ?_⟩
    · rw [Nat.zero_min]
      exact Nat.zero_le _
    · dsimp only
      exact hfed.updateStats.bounded
  · have hnot : ¬ (OutcomeLearner.retrainEveryN ≤ (l.append trade).sinceLastUpdate ∧
        OutcomeLearner.minSamples ≤ (l.append trade).trades.length) := by
      rw [hfed.since]
      exact fun hboth => hdue hboth.1
    rw [l.recordTrade_of_not_due hnot, if_neg hdue]
    exact ⟨iff_of_false Bool.false_ne_true hdue, hfed⟩

theorem Fed.incremental {n : ℕ} {e : Estimators μ} {stamps : DeployStamps}
    {s : ModelTrainer.TrainerState μ} (h : Fed n s.trainer.outcomeLearner) :
    Fed n (ModelTrainer.incremental e stamps s).2.trainer.outcomeLearner := by
  unfold ModelTrainer.incremental
  dsimp only
  split_ifs
  · exact h
  · rw [ModelTrainer.finish_trainer, ModelTrainer.updateThreshold_outcomeLearner]
    exact (h.loadFromDb _ _).suggestThreshold _

/-- A training for every fifty trades, and the learner counts as the runner does. -/
structure Counts (s : RunnerLearning μ) : Prop where
  sinceRetrain : s.closedSinceRetrain = s.recorded.length % retrainAfter
  trainings : s.trainings = s.recorded.length / retrainAfter
  fed : Fed (s.recorded.length % retrainAfter) s.trainer.outcomeLearner

theorem counts_start (scope : ModelScope) (store : TrainingStore μ) :
    Counts (start scope store) := by
  have hfed : Fed 0 (start scope store).trainer.outcomeLearner := by
    rw [start, ModelTrainer.tryLoadModels_outcomeLearner]
    exact fed_initial.loadFromDb scope.text store.outcomes
  exact ⟨(Nat.zero_mod _).symm, (Nat.zero_div _).symm, hfed⟩

theorem Counts.recordClosed {e : Estimators μ} (h : Counts s) (early : Bool) (trade : LearnedTrade)
    (stamps : DeployStamps) : Counts (s.recordClosed e early trade stamps) := by
  obtain ⟨hupdated, hfed⟩ := h.fed.recordTrade trade
  have hless : s.recorded.length % retrainAfter < retrainAfter := Nat.mod_lt _ (by decide)
  have hsince := h.sinceRetrain
  have htrainings := h.trainings
  have hlength : (s.recorded ++ [trade]).length = s.recorded.length + 1 := by simp
  unfold RunnerLearning.recordClosed
  dsimp only
  -- the learner has updated exactly where the runner has counted to fifty
  have hdue : (early = true ∧ (s.trainer.outcomeLearner.recordTrade trade).1 = true ∨
      retrainAfter ≤ (s.learn trade).closedSinceRetrain) ↔
        retrainAfter ≤ s.recorded.length % retrainAfter + 1 := by
    change (_ ∨ retrainAfter ≤ s.closedSinceRetrain + 1) ↔ _
    rw [hupdated, hsince]
    exact ⟨fun hor => hor.elim And.right id, Or.inr⟩
  by_cases hfull : retrainAfter ≤ s.recorded.length % retrainAfter + 1
  · rw [if_pos (hdue.mpr hfull)]
    rw [if_pos hfull] at hfed
    have hmod : (s.recorded.length + 1) % retrainAfter = 0 := by
      unfold retrainAfter at *
      omega
    have hdiv : (s.recorded.length + 1) / retrainAfter = s.recorded.length / retrainAfter + 1 := by
      unfold retrainAfter at *
      omega
    constructor
    · change 0 = (s.recorded ++ [trade]).length % retrainAfter
      rw [hlength, hmod]
    · change s.trainings + 1 = (s.recorded ++ [trade]).length / retrainAfter
      rw [hlength, hdiv, htrainings]
    · change Fed ((s.recorded ++ [trade]).length % retrainAfter) _
      rw [hlength, hmod]
      exact Fed.incremental (s := ⟨(s.learn trade).trainer, s.store⟩) hfed
  · rw [if_neg fun hor => hfull (hdue.mp hor)]
    rw [if_neg hfull] at hfed
    have hmod : (s.recorded.length + 1) % retrainAfter = s.recorded.length % retrainAfter + 1 := by
      unfold retrainAfter at *
      omega
    have hdiv : (s.recorded.length + 1) / retrainAfter = s.recorded.length / retrainAfter := by
      unfold retrainAfter at *
      omega
    constructor
    · change s.closedSinceRetrain + 1 = (s.recorded ++ [trade]).length % retrainAfter
      rw [hlength, hmod, hsince]
    · change s.trainings = (s.recorded ++ [trade]).length / retrainAfter
      rw [hlength, hdiv, htrainings]
    · change Fed ((s.recorded ++ [trade]).length % retrainAfter) _
      rw [hlength, hmod]
      exact hfed

theorem recorded_recordClosed (e : Estimators μ) (early : Bool) (trade : LearnedTrade)
    (stamps : DeployStamps) (s : RunnerLearning μ) :
    (s.recordClosed e early trade stamps).recorded = s.recorded ++ [trade] := by
  unfold RunnerLearning.recordClosed
  dsimp only
  split_ifs <;> rfl

/-- The trades of a tick, one after the other. -/
theorem Counts.foldl_recordClosed {τ : Type} (h : Counts s) (e : Estimators μ) (early : Bool)
    (stamps : DeployStamps) (learned : τ → LearnedTrade) (trades : List τ) :
    Counts (trades.foldl (fun s trade => s.recordClosed e early (learned trade) stamps) s) ∧
      (trades.foldl (fun s trade => s.recordClosed e early (learned trade) stamps) s).recorded =
        s.recorded ++ trades.map learned := by
  induction trades generalizing s with
  | nil => exact ⟨h, (List.append_nil _).symm⟩
  | cons trade trades ih =>
    obtain ⟨hcounts, hrecorded⟩ := ih (h.recordClosed (e := e) early (learned trade) stamps)
    refine ⟨hcounts, ?_⟩
    rw [List.foldl_cons, hrecorded, recorded_recordClosed, List.append_assoc]
    rfl

end Facts

end RunnerLearning

end Botik
