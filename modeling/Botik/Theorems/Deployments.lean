import Botik.Ml.Trainer
import Botik.Theorems.ModelVersions

/-!
# Deployed models

Trainers of both scopes start, train and save in any order, each training to its end. A trainer that
starts has the pair of models of one deployment of its scope: of the last one, as long as there are
no more than nine. After that it is the ninth, because the tenth and all later ones are saved under
version 10, whose file name comes before that of version 9.

## Main definitions

* `Ml.TrainingWorld`, `Ml.TrainingEvent`, `Ml.TrainingWorld.step`
* `Ml.Deployment`, `Ml.TrainingWorld.deploymentsOf` — the pairs that were saved
* `Ml.HoldsVersions` — what the files of a model are

## Main results

* `HoldsVersions.concat` — one version more
* `Deployed.step` — what an event keeps
* `restored_deployment`, `restarted_trainer_ready`
-/

namespace Botik

namespace Ml

open Ml.ModelRegistry ModelTrainer

variable {μ : Type}

/-- A pair of models that was saved. -/
structure Deployment (μ : Type) where
  scope : ModelScope
  historian : BaseModel μ
  predictor : BaseModel μ

/-- The models of a trainer, as they are saved. -/
def ModelTrainer.deployment (t : ModelTrainer μ) : Deployment μ :=
  ⟨t.modelScope, t.historian.toBaseModel, t.predictor.toBaseModel⟩

/-- The models that are saved together. -/
inductive Role
  | historian
  | predictor
  deriving DecidableEq, Repr

def Role.name : Role → String
  | .historian => "historian"
  | .predictor => "predictor"

def Role.minTrades : Role → ℕ
  | .historian => Historian.minTrades
  | .predictor => Predictor.minTrades

/-- One model of a deployment. -/
def Deployment.model (d : Deployment μ) : Role → BaseModel μ
  | .historian => d.historian
  | .predictor => d.predictor

/-- What a registry keeps of a model. -/
def keyOf (scope : ModelScope) (role : Role) : ModelKey := ⟨scope.text, role.name⟩

/-- The file of a model. -/
def BaseModel.file (m : BaseModel μ) : ModelFile (Option μ) := ⟨m.model, m.accuracy, m.tradeCount⟩

/-- What is shared, the trainers of all processes, and what was saved, in order. -/
structure TrainingWorld (μ : Type) where
  store : TrainingStore μ
  trainers : Dict ℕ (ModelTrainer μ)
  deployments : List (Deployment μ)

/-- What happens. -/
inductive TrainingEvent
  | start (id : ℕ) (scope : ModelScope)
  | bootstrap (id : ℕ) (history : String → SymbolHistory) (symbols : List String)
      (stamps : DeployStamps)
  | incremental (id : ℕ) (stamps : DeployStamps)
  | recordTrade (id : ℕ) (trade : LearnedTrade)
  /-- The rest of the program writes samples and paper trades. -/
  | others (samples : StampedSamples) (outcomes : List PaperOutcomeRow)

namespace TrainingWorld

/-- No models yet. -/
def start (samples : StampedSamples) (outcomes : List PaperOutcomeRow) : TrainingWorld μ :=
  ⟨⟨⟨.empty, .empty, .empty⟩, samples, outcomes⟩, .empty, []⟩

/-- The deployments of a scope. -/
def deploymentsOf (w : TrainingWorld μ) (scope : ModelScope) : List (Deployment μ) :=
  w.deployments.filter fun d => d.scope = scope

/-- A training of a trainer, if there is one. -/
def train (id : ℕ) (training : TrainerState μ → Bool × TrainerState μ) (w : TrainingWorld μ) :
    TrainingWorld μ :=
  match w.trainers.get? id with
  | none => w
  | some t =>
    let (deployed, s) := training ⟨t, w.store⟩
    { store := s.store
      trainers := w.trainers.set id s.trainer
      deployments := w.deployments ++ if deployed then [s.trainer.deployment] else [] }

variable (e : Estimators μ) (featureHash : List ℚ → String)

/-- `bootstrap`, which has saved models or not. -/
def bootstrapping (history : String → SymbolHistory) (symbols : List String) (stamps : DeployStamps)
    (s : TrainerState μ) : Bool × TrainerState μ :=
  match bootstrap e featureHash history symbols stamps s with
  | (.ok answer, s) => (answer.deployed, s)
  | (.error _, s) => (false, s)

/-- `incremental`, which has saved models or not. -/
def incrementing (stamps : DeployStamps) (s : TrainerState μ) : Bool × TrainerState μ :=
  ((incremental e stamps s).1.deployed, (incremental e stamps s).2)

/-- One event. -/
def step (event : TrainingEvent) (w : TrainingWorld μ) : TrainingWorld μ :=
  match event with
  | .start id scope => { w with trainers := w.trainers.set id (tryLoadModels scope w.store) }
  | .bootstrap id history symbols stamps =>
    w.train id (bootstrapping e featureHash history symbols stamps)
  | .incremental id stamps => w.train id (incrementing e stamps)
  | .recordTrade id trade =>
    { w with
      trainers := w.trainers.update id fun t =>
        { t with outcomeLearner := (t.outcomeLearner.recordTrade trade).2 } }
  | .others samples outcomes =>
    { w with store := { w.store with samples := samples, outcomes := outcomes } }

/-- The deployment a starting trainer loads: the last one up to the ninth. -/
def restored (deployments : List (Deployment μ)) : Option (Deployment μ) :=
  deployments[min deployments.length 9 - 1]?

end TrainingWorld

/-! ### The files of a model -/

theorem length_digits {v : ℕ} (h : v ≤ 9) : (Nat.toDigits 10 v).length = 1 := by
  have hall : ∀ v < 10, (Nat.toDigits 10 v).length = 1 := by decide
  exact hall v (by omega)

theorem modelPath_inj {scope name : String} {v v' : ℕ}
    (h : modelPath scope name v = modelPath scope name v') : v = v' := by
  have hversion := congrArg versionOf h
  rw [versionOf_modelPath, versionOf_modelPath] at hversion
  exact Option.some.inj hversion

/-- Version 10 comes before version 9. -/
theorem modelPath_ten_lt (scope name : String) :
    modelPath scope name 10 < modelPath scope name 9 := by
  rw [String.lt_iff_toList_lt, toList_modelPath, toList_modelPath]
  apply List.append_left_lt
  decide

/-- Of ten versions the ninth, or the last one before it, comes last in the order of the files. -/
theorem modelPath_le (scope name : String) {v n : ℕ} (h : v < min n 10) :
    modelPath scope name (v + 1) ≤ modelPath scope name (min n 9) := by
  rcases Nat.lt_or_ge v 9 with hsmall | hten
  · rcases (show v + 1 ≤ min n 9 by omega).lt_or_eq with hless | heq
    · refine (modelPath_lt scope name ?_ hless).le
      rw [length_digits (by omega), length_digits (by omega)]
    · rw [heq]
  · obtain rfl : v = 9 := by omega
    have hnine : min n 9 = 9 := by omega
    rw [hnine]
    exact (modelPath_ten_lt scope name).le

/-- The files an owner sees are those of ten versions at most, the first nine of which are as they
were saved. -/
structure HoldsVersions (key : ModelKey) (files : List (ModelFile μ))
    (d : Dict String (ModelFile μ)) : Prop where
  shown : ∀ file ∈ d.keys, (modelFiles μ).shows key file = true →
    ∃ v < min files.length 10, file = modelPath key.scope key.name (v + 1)
  stored : ∀ v < min files.length 9,
    d.get? (modelPath key.scope key.name (v + 1)) = files[v]?

section Files

variable {key key' : ModelKey} {files : List (ModelFile μ)} {f : ModelFile μ} {v : ℕ}
  {d : Dict String (ModelFile μ)} {r : ModelRegistry μ}

theorem holdsVersions_empty (key : ModelKey) :
    HoldsVersions key [] (.empty : Dict String (ModelFile μ)) where
  shown := by simp [Dict.keys]
  stored := by simp

theorem HoldsVersions.mem_keys (h : HoldsVersions key files d) (hv : v < min files.length 9) :
    modelPath key.scope key.name (v + 1) ∈ d.keys := by
  have hlength : v < files.length := by omega
  rw [Dict.mem_keys_iff]
  exact ⟨files[v], (h.stored v hv).trans (List.getElem?_eq_getElem hlength)⟩

/-- The last file an owner sees. -/
theorem HoldsVersions.latestFile (h : HoldsVersions key files d) (hkey : PlainKey key) :
    (modelFiles μ).latestFile key d =
      if files = [] then none else some (modelPath key.scope key.name (min files.length 9)) := by
  split_ifs with hnone
  · unfold FileNumbering.latestFile
    rw [List.getLast?_eq_none_iff, List.eq_nil_iff_forall_not_mem]
    intro file hfile
    obtain ⟨hmem, hshows⟩ := List.mem_filter.mp (Newest.mem_sortedBy.mp hfile)
    obtain ⟨v, hv, -⟩ := h.shown file hmem hshows
    simp [hnone] at hv
  · apply FileNumbering.latestFile_eq_some
    · have hpos : 0 < files.length := List.length_pos_of_ne_nil hnone
      obtain ⟨v, hv⟩ : ∃ v, min files.length 9 = v + 1 := ⟨min files.length 9 - 1, by omega⟩
      rw [hv]
      exact h.mem_keys (by omega)
    · exact seesOwn_modelFiles hkey _
    · intro file hfile hshows
      obtain ⟨v, hv, rfl⟩ := h.shown file hfile hshows
      exact modelPath_le key.scope key.name hv

/-- The latest version, where the table has none for a scope without files. -/
theorem HoldsVersions.getLatestVersion (h : HoldsVersions key files r.models) (hkey : PlainKey key)
    (hruns : files = [] → newestRun key.scope r.runs = none) :
    r.getLatestVersion key.scope key.name =
      if files = [] then none else some (min files.length 9) := by
  have hlast : lastFile (modelPattern key.scope key.name) r.models = _ := h.latestFile hkey
  rw [ModelRegistry.getLatestVersion, hlast]
  split_ifs with hnone
  · rw [hruns hnone]
    rfl
  · rw [Option.bind_some, versionOf_modelPath, Option.some_or]

theorem HoldsVersions.nextVersion (h : HoldsVersions key files r.models) (hkey : PlainKey key)
    (hruns : files = [] → newestRun key.scope r.runs = none) :
    r.nextVersion key.scope key.name = min files.length 9 + 1 := by
  rw [ModelRegistry.nextVersion, ModelRegistry.getVersion, h.getLatestVersion hkey hruns]
  split_ifs with hnone
  · rw [hnone]
    rfl
  · rfl

/-- What is loaded is the last one of the first nine. -/
theorem HoldsVersions.load (h : HoldsVersions key files r.models) (hkey : PlainKey key)
    (hruns : files = [] → newestRun key.scope r.runs = none) :
    r.load key.scope key.name =
      (files[min files.length 9 - 1]?).map fun file =>
        (file.model, file.accuracy, file.tradeCount) := by
  rw [ModelRegistry.load, h.getLatestVersion hkey hruns]
  split_ifs with hnone
  · rw [hnone]
    rfl
  · have hpos : 0 < files.length := List.length_pos_of_ne_nil hnone
    obtain ⟨v, hv⟩ : ∃ v, min files.length 9 = v + 1 := ⟨min files.length 9 - 1, by omega⟩
    rw [Option.bind_some, hv, h.stored v (by omega), Nat.add_sub_cancel]

theorem mem_keys_set {k k' : String} :
    k' ∈ (d.set k f).keys ↔ k' ∈ d.keys ∨ k' = k := by
  rw [Dict.keys_set]
  split_ifs with hold
  · exact ⟨Or.inl, fun h => h.elim id fun heq => heq ▸ hold⟩
  · rw [List.mem_append, List.mem_singleton]

/-- A model that is saved under the next version. -/
theorem HoldsVersions.concat (h : HoldsVersions key files d) (f : ModelFile μ)
    (hv : v = min files.length 9 + 1) :
    HoldsVersions key (files ++ [f]) (d.set (modelPath key.scope key.name v) f) := by
  subst hv
  constructor
  · intro file hfile hshows
    rw [List.length_append, List.length_singleton]
    rcases mem_keys_set.mp hfile with hold | rfl
    · obtain ⟨v, hv, rfl⟩ := h.shown file hold hshows
      exact ⟨v, by omega, rfl⟩
    · exact ⟨min files.length 9, by omega, rfl⟩
  · intro v hv
    rw [List.length_append, List.length_singleton] at hv
    rcases eq_or_ne v (min files.length 9) with heq | hne
    · -- it is one of the first nine, so it is the last of all
      obtain rfl : v = files.length := by omega
      rw [← heq, Dict.get?_set_self]
      simp
    · have hother : modelPath key.scope key.name (v + 1) ≠
          modelPath key.scope key.name (min files.length 9 + 1) := by
        intro hsame
        exact hne (Nat.succ_injective (modelPath_inj hsame))
      rw [Dict.get?_set_of_ne hother, h.stored v (by omega), List.getElem?_append_left (by omega)]

/-- A model of another name. -/
theorem HoldsVersions.set_other (h : HoldsVersions key files d) (hkey : PlainKey key)
    (hapart : SeenApart (modelFiles μ) key key') (f : ModelFile μ) (v : ℕ) :
    HoldsVersions key files (d.set (modelPath key'.scope key'.name v) f) := by
  have hhidden : (modelFiles μ).shows key (modelPath key'.scope key'.name v) = false :=
    (hapart v).1
  constructor
  · intro file hfile hshows
    rcases mem_keys_set.mp hfile with hold | rfl
    · exact h.shown file hold hshows
    · rw [hhidden] at hshows
      cases hshows
  · intro v' hv'
    have hother : modelPath key.scope key.name (v' + 1) ≠ modelPath key'.scope key'.name v := by
      intro hsame
      have hown : (modelFiles μ).shows key (modelPath key.scope key.name (v' + 1)) = true :=
        seesOwn_modelFiles hkey _
      rw [hsame, hhidden] at hown
      cases hown
    rw [Dict.get?_set_of_ne hother, h.stored v' hv']

end Files

/-! ### Saving a pair -/

theorem keyOf_mem (scope : ModelScope) (role : Role) : keyOf scope role ∈ trainedKeys := by
  cases scope <;> cases role <;> decide

theorem plainKey_keyOf (scope : ModelScope) (role : Role) : PlainKey (keyOf scope role) :=
  plainKey_of_mem (keyOf_mem scope role)

theorem keyOf_inj {scope scope' : ModelScope} {role role' : Role}
    (h : keyOf scope role = keyOf scope' role') : scope = scope' ∧ role = role' := by
  revert h
  cases scope <;> cases scope' <;> cases role <;> cases role' <;> decide

theorem seenApart_keyOf {scope scope' : ModelScope} {role role' : Role}
    (h : ¬ (scope' = scope ∧ role' = role)) :
    SeenApart (modelFiles (Option μ)) (keyOf scope role) (keyOf scope' role') :=
  seenApart_of_mem (keyOf_mem scope role) (keyOf_mem scope' role') fun heq => h (keyOf_inj heq)

/-- Without a trained row of the scope there is no newest one. -/
theorem newestRun_eq_none {scope : String} {runs : Dict String TrainingRun}
    (h : ∀ runId run, runs.get? runId = some run → run.isTrained = true → run.modelScope ≠ scope) :
    newestRun scope runs = none := by
  have hnone : ((runs.entries.map Prod.snd).filter fun run =>
      run.modelScope = scope ∧ run.isTrained) = [] := by
    rw [List.filter_eq_nil_iff]
    intro run hrun hboth
    obtain ⟨⟨runId, run⟩, hentry, rfl⟩ := List.mem_map.mp hrun
    obtain ⟨hscope, htrained⟩ := of_decide_eq_true hboth
    exact h runId run (Dict.mem_entries_iff.mp hentry) htrained hscope
  rw [newestRun, hnone]
  rfl

/-- Save a pair under a version. -/
def Deployment.saveAs (d : Deployment μ) (version : ℕ) (stamps : DeployStamps)
    (r : ModelRegistry (Option μ)) : ModelRegistry (Option μ) :=
  (r.save d.scope.text "historian" version d.historian.file true stamps.historianRunId
    stamps.nowUtc).save d.scope.text "predictor" version d.predictor.file true
      stamps.predictorRunId stamps.nowUtc

/-- What the registry holds after some deployments. -/
structure Deployed (deployments : List (Deployment μ)) (r : ModelRegistry (Option μ)) : Prop where
  models : ∀ scope role, HoldsVersions (keyOf scope role)
    ((deployments.filter fun d => d.scope = scope).map fun d => (d.model role).file) r.models
  runs : ∀ runId run, r.runs.get? runId = some run →
    ∃ d ∈ deployments, run.modelScope = d.scope.text
  ready : ∀ d ∈ deployments, ∀ role, (d.model role).isReady role.minTrades = true

section Deployed

variable {deployments : List (Deployment μ)} {r : ModelRegistry (Option μ)} {d : Deployment μ}
  {scope : ModelScope} {role : Role} {stamps : DeployStamps}

theorem deployed_empty : Deployed [] (⟨.empty, .empty, .empty⟩ : ModelRegistry (Option μ)) where
  models := fun scope role => holdsVersions_empty _
  runs := by simp
  ready := by simp

theorem text_inj {scope scope' : ModelScope} (h : scope.text = scope'.text) : scope = scope' := by
  revert h
  cases scope <;> cases scope' <;> decide

/-- The table has no row of a scope without files. -/
theorem Deployed.newestRun (h : Deployed deployments r)
    (hnone : ((deployments.filter fun d => d.scope = scope).map
      fun d => (d.model role).file) = []) :
    newestRun (keyOf scope role).scope r.runs = none := by
  apply newestRun_eq_none
  intro runId run hrun _ hscope
  obtain ⟨d, hd, hrow⟩ := h.runs runId run hrun
  have hsame : d.scope = scope := text_inj (hrow.symm.trans hscope)
  have hmem : d ∈ deployments.filter fun d => d.scope = scope :=
    List.mem_filter.mpr ⟨hd, decide_eq_true hsame⟩
  rw [List.map_eq_nil_iff.mp hnone] at hmem
  cases hmem

theorem Deployed.nextVersion (h : Deployed deployments r) :
    r.nextVersion scope.text "historian" =
      min (deployments.filter fun d => d.scope = scope).length 9 + 1 := by
  have hnext := (h.models scope .historian).nextVersion (plainKey_keyOf _ _) h.newestRun
  rwa [List.length_map] at hnext

/-- A row that a save writes is of its scope, or was there. -/
theorem scope_writeDb {runId runId' text nowUtc : String} {version : ℕ} {isTrained : Bool}
    {runs : Dict String TrainingRun} {run : TrainingRun}
    (h : (writeDb runId text version isTrained nowUtc runs).get? runId' = some run) :
    run.modelScope = text ∨
      ∃ old, runs.get? runId' = some old ∧ run.modelScope = old.modelScope := by
  unfold writeDb at h
  rw [Dict.get?_upsert] at h
  split_ifs at h with hsame
  · cases hold : runs.get? runId with
    | none =>
      rw [hold] at h
      cases h
      exact Or.inl rfl
    | some old =>
      rw [hold] at h
      cases h
      exact Or.inr ⟨old, hsame ▸ hold, rfl⟩
  · exact Or.inr ⟨run, h, rfl⟩

theorem Deployed.models_saveAs (h : Deployed deployments r) (scope : ModelScope) (role : Role) :
    HoldsVersions (keyOf scope role)
      (((deployments ++ [d]).filter fun d => d.scope = scope).map fun d => (d.model role).file)
      (d.saveAs (r.nextVersion d.scope.text "historian") stamps r).models := by
  have hold := h.models scope role
  have hother : ∀ role', ¬ (d.scope = scope ∧ role' = role) →
      SeenApart (modelFiles (Option μ)) (keyOf scope role) (keyOf d.scope role') :=
    fun role' => seenApart_keyOf
  rw [List.filter_append, List.filter_singleton, h.nextVersion]
  by_cases hsame : d.scope = scope
  · subst hsame
    have hversion : min (deployments.filter fun d' => d'.scope = d.scope).length 9 + 1 =
        min ((deployments.filter fun d' => d'.scope = d.scope).map
          fun d => (d.model role).file).length 9 + 1 := by
      rw [List.length_map]
    rw [decide_eq_true rfl, cond_true, List.map_append, List.map_singleton]
    cases role with
    | historian =>
      exact (hold.concat d.historian.file hversion).set_other (plainKey_keyOf _ _)
        (hother .predictor (by simp)) _ _
    | predictor =>
      exact (hold.set_other (plainKey_keyOf _ _) (hother .historian (by simp)) _ _).concat
        d.predictor.file hversion
  · rw [decide_eq_false hsame, cond_false, List.append_nil]
    exact (hold.set_other (plainKey_keyOf _ _) (hother .historian fun hboth => hsame hboth.1)
      _ _).set_other (plainKey_keyOf _ _) (hother .predictor fun hboth => hsame hboth.1) _ _

/-- One deployment more. -/
theorem Deployed.saveAs (h : Deployed deployments r)
    (hready : ∀ role, (d.model role).isReady role.minTrades = true) (stamps : DeployStamps) :
    Deployed (deployments ++ [d]) (d.saveAs (r.nextVersion d.scope.text "historian") stamps r) where
  models := h.models_saveAs
  runs := by
    intro runId run hrun
    have hnew : d ∈ deployments ++ [d] := List.mem_concat_self
    rcases scope_writeDb hrun with htext | ⟨old, hold, hscope⟩
    · exact ⟨d, hnew, htext⟩
    · rw [hscope]
      rcases scope_writeDb hold with htext | ⟨older, holder, hscope'⟩
      · exact ⟨d, hnew, htext⟩
      · obtain ⟨d', hd', hrow⟩ := h.runs runId older holder
        exact ⟨d', List.mem_append_left _ hd', hscope'.trans hrow⟩
  ready := by
    intro d' hd' role
    rcases List.mem_append.mp hd' with hold | hlast
    · exact h.ready d' hold role
    · rw [List.mem_singleton.mp hlast]
      exact hready role

end Deployed

/-! ### Trainings -/

section Trainings

variable {e : Estimators μ} {featureHash : List ℚ → String} {data : List WeightedSample}
  {h p : TrainResult} {t : ModelTrainer μ} {s : TrainerState μ} {stamps : DeployStamps}

/-- The models of a trainer are those of two accurate fits. -/
structure FittedBy (h p : TrainResult) (t : ModelTrainer μ) : Prop where
  historian : t.historian.toBaseModel.file = fileOf t.historian.toBaseModel h
  predictor : t.predictor.toBaseModel.file = fileOf t.predictor.toBaseModel p
  ready : ∀ role, (t.deployment.model role).isReady role.minTrades = true

/-- A fit that failed is not accurate enough. -/
theorem not_reaches_failed (n : ℕ) :
    reaches minAccuracy (TrainResult.failed n).accuracy = false := by
  have hless : ¬ minAccuracy ≤ 0 := by norm_num [minAccuracy]
  exact decide_eq_false hless

theorem isReady_of_reaches {accuracy : PyFloat} {n minTrades : ℕ} {model : Option μ}
    (haccuracy : reaches minAccuracy accuracy = true) (hn : minTrades ≤ n) :
    (BaseModel.setModelObject model accuracy n).isReady minTrades = true := by
  have hn' : (minTrades : ℤ) ≤ n := by exact_mod_cast hn
  exact decide_eq_true ⟨rfl, haccuracy, hn'⟩

/-- Where both fits were accurate enough, they made the models. -/
theorem fittedBy_fitBoth
    (hdeploys : deploys (fitBoth e data t).1 (fitBoth e data t).2.1 = true) :
    FittedBy (fitBoth e data t).1 (fitBoth e data t).2.1 (fitBoth e data t).2.2 := by
  obtain ⟨hhistorian, hpredictor⟩ := of_decide_eq_true hdeploys
  change reaches minAccuracy (Historian.fit e data t.historian).1.accuracy = true at hhistorian
  change reaches minAccuracy (Predictor.fit e data t.predictor).1.accuracy = true at hpredictor
  -- a fit that failed reaches no accuracy
  rcases Historian.fit_cases e data t.historian with
    ⟨hn, accuracy, pattern, regime, haccuracy, hcount, hmade⟩ | ⟨hfailed, -⟩
  · rcases (Predictor.fit_cases e data t.predictor).2 with
      ⟨hn', accuracy', model, haccuracy', hcount', hmade'⟩ | ⟨hfailed, -⟩
    · have hbase : (fitBoth e data t).2.2.historian.toBaseModel =
          .setModelObject (some pattern) accuracy data.length := congrArg _ hmade
      have hbase' : (fitBoth e data t).2.2.predictor.toBaseModel =
          .setModelObject (some model) accuracy' data.length := hmade'
      rw [haccuracy] at hhistorian
      rw [haccuracy'] at hpredictor
      -- the file says the accuracy and the count of the fit that made the model
      constructor
      · rw [fileOf, hbase]
        change _ = ModelFile.mk _ (Historian.fit e data t.historian).1.accuracy
          ((Historian.fit e data t.historian).1.tradeCount : ℤ)
        rw [haccuracy, hcount]
        rfl
      · rw [fileOf, hbase']
        change _ = ModelFile.mk _ (Predictor.fit e data t.predictor).1.accuracy
          ((Predictor.fit e data t.predictor).1.tradeCount : ℤ)
        rw [haccuracy', hcount']
        rfl
      · intro role
        cases role with
        | historian =>
          change BaseModel.isReady _ (fitBoth e data t).2.2.historian.toBaseModel = true
          rw [hbase]
          exact isReady_of_reaches hhistorian hn
        | predictor =>
          change BaseModel.isReady _ (fitBoth e data t).2.2.predictor.toBaseModel = true
          rw [hbase']
          exact isReady_of_reaches hpredictor hn'
    · rw [hfailed, not_reaches_failed] at hpredictor
      cases hpredictor
  · rw [hfailed, not_reaches_failed] at hhistorian
    cases hhistorian

/-- The threshold is not saved. -/
theorem deployment_updateThreshold (outcomes : List PaperOutcomeRow) (t : ModelTrainer μ) :
    (t.updateThreshold outcomes).deployment = t.deployment := by
  unfold ModelTrainer.deployment
  rw [updateThreshold_modelScope, updateThreshold_historian, updateThreshold_predictor]

theorem FittedBy.updateThreshold (hfits : FittedBy h p t) (outcomes : List PaperOutcomeRow) :
    FittedBy h p (t.updateThreshold outcomes) := by
  constructor
  · rw [updateThreshold_historian]
    exact hfits.historian
  · rw [updateThreshold_predictor]
    exact hfits.predictor
  · rw [deployment_updateThreshold]
    exact hfits.ready

/-- A training has saved the models it leaves, ready for use, or nothing. -/
def Saves (r : ModelRegistry (Option μ)) (result : Bool × TrainerState μ) : Prop :=
  let d := result.2.trainer.deployment
  result.1 = false ∧ result.2.store.registry = r ∨
    result.1 = true ∧ (∀ role, (d.model role).isReady role.minTrades = true) ∧
      ∃ stamps, result.2.store.registry =
        d.saveAs (r.nextVersion d.scope.text "historian") stamps r

theorem saves_finish {mode : String} {samples : Option ℕ} {store : TrainingStore μ}
    (hfits : deploys h p = true → FittedBy h p t) :
    Saves store.registry ((finish (h, p, t) mode samples stamps store).1.deployed,
      (finish (h, p, t) mode samples stamps store).2) := by
  by_cases hdeploys : deploys h p = true
  · obtain ⟨hhistorian, hpredictor, hready⟩ := hfits hdeploys
    refine Or.inr ⟨hdeploys, hready, stamps, ?_⟩
    change (if deploys h p = true then t.deployed h p stamps store.registry else store.registry) = _
    rw [if_pos hdeploys, ModelTrainer.deployed, ← hhistorian, ← hpredictor]
    rfl
  · refine Or.inl ⟨Bool.eq_false_iff.mpr hdeploys, ?_⟩
    exact if_neg hdeploys

theorem saves_incrementing :
    Saves s.store.registry (TrainingWorld.incrementing e stamps s) := by
  unfold TrainingWorld.incrementing incremental
  dsimp only
  split_ifs
  · exact Or.inl ⟨rfl, rfl⟩
  · exact saves_finish fun hdeploys => (fittedBy_fitBoth hdeploys).updateThreshold _

theorem saves_bootstrapping {history : String → SymbolHistory} {symbols : List String} :
    Saves s.store.registry
      (TrainingWorld.bootstrapping e featureHash history symbols stamps s) := by
  unfold TrainingWorld.bootstrapping bootstrap
  dsimp only
  cases labelAll s.trainer.labeler featureHash history
    (if symbols = [] then bootstrapSymbolsDefault else symbols) s.store.samples with
  | error err samples => exact Or.inl ⟨rfl, rfl⟩
  | ok total samples =>
    dsimp only
    split_ifs
    · exact Or.inl ⟨rfl, rfl⟩
    · exact Or.inl ⟨rfl, rfl⟩
    · exact saves_finish fittedBy_fitBoth

end Trainings

/-! ### Runs -/

section Runs

variable (e : Estimators μ) (featureHash : List ℚ → String) {w : TrainingWorld μ}
  {scope : ModelScope}

/-- A training keeps the registry right. -/
theorem Deployed.train (h : Deployed w.deployments w.store.registry) (id : ℕ)
    {training : TrainerState μ → Bool × TrainerState μ}
    (hsaves : ∀ s, Saves s.store.registry (training s)) :
    Deployed (w.train id training).deployments (w.train id training).store.registry := by
  unfold TrainingWorld.train
  cases w.trainers.get? id with
  | none => exact h
  | some t =>
    dsimp only
    rcases hsaves ⟨t, w.store⟩ with ⟨hkept, hstore⟩ | ⟨hsaved, hready, stamps, hstore⟩
    · rw [hkept, hstore, if_neg Bool.false_ne_true, List.append_nil]
      exact h
    · rw [hsaved, hstore, if_pos rfl]
      exact h.saveAs hready stamps

theorem Deployed.step (h : Deployed w.deployments w.store.registry) (event : TrainingEvent) :
    Deployed (w.step e featureHash event).deployments (w.step e featureHash event).store.registry :=
    by
  cases event with
  | start id scope => exact h
  | bootstrap id history symbols stamps => exact h.train id fun s => saves_bootstrapping
  | incremental id stamps => exact h.train id fun s => saves_incrementing
  | recordTrade id trade => exact h
  | others samples outcomes => exact h

theorem deployed_run (samples : StampedSamples) (outcomes : List PaperOutcomeRow)
    (events : List TrainingEvent) :
    let w := Runs.run (TrainingWorld.step e featureHash) events (.start samples outcomes)
    Deployed w.deployments w.store.registry := by
  let Inv : TrainingWorld μ → Prop := fun w => Deployed w.deployments w.store.registry
  have hstep : ∀ w event, Inv w → True → Inv (w.step e featureHash event) :=
    fun _ event h _ => h.step e featureHash event
  have hstart : Inv (.start samples outcomes) := deployed_empty
  exact Runs.run_of_inv hstep hstart fun _ _ => trivial

/-- A file that is loaded makes the model it was saved from. -/
theorem setModelObject_file {m : BaseModel μ} {minTrades : ℤ} (h : m.isReady minTrades = true) :
    BaseModel.setModelObject m.file.model m.file.accuracy m.file.tradeCount = m := by
  obtain ⟨hfitted, -⟩ := of_decide_eq_true h
  cases m
  cases hfitted
  rfl

/-- What is loaded of a model is that of the last deployment up to the ninth. -/
theorem Deployed.load (h : Deployed w.deployments w.store.registry) (role : Role) :
    w.store.registry.load scope.text role.name =
      (TrainingWorld.restored (w.deploymentsOf scope)).map fun d =>
        ((d.model role).model, (d.model role).accuracy, (d.model role).tradeCount) := by
  have hload := (h.models scope role).load (plainKey_keyOf scope role) h.newestRun
  rw [List.length_map, List.getElem?_map, Option.map_map] at hload
  exact hload

theorem Deployed.tryLoadModels (h : Deployed w.deployments w.store.registry) :
    (tryLoadModels scope w.store).deployment =
      (TrainingWorld.restored (w.deploymentsOf scope)).getD ⟨scope, .initial, .initial⟩ := by
  have hhistorian : w.store.registry.load scope.text "historian" = _ := h.load .historian
  have hpredictor : w.store.registry.load scope.text "predictor" = _ := h.load .predictor
  unfold ModelTrainer.deployment ModelTrainer.tryLoadModels
  rw [hhistorian, hpredictor]
  cases hd : TrainingWorld.restored (w.deploymentsOf scope) with
  | none => rfl
  | some d =>
    obtain ⟨hmem, hscope⟩ := List.mem_filter.mp (List.mem_of_getElem? hd)
    have hhistorian' : BaseModel.setModelObject d.historian.file.model d.historian.file.accuracy
        d.historian.file.tradeCount = d.historian := setModelObject_file (h.ready d hmem .historian)
    have hpredictor' : BaseModel.setModelObject d.predictor.file.model d.predictor.file.accuracy
        d.predictor.file.tradeCount = d.predictor := setModelObject_file (h.ready d hmem .predictor)
    have hmodels : Deployment.mk scope (.setModelObject d.historian.file.model
        d.historian.file.accuracy d.historian.file.tradeCount)
          (.setModelObject d.predictor.file.model d.predictor.file.accuracy
            d.predictor.file.tradeCount) = d := by
      rw [hhistorian', hpredictor', ← of_decide_eq_true hscope]
    exact hmodels

/-- A trainer that starts is ready if and only if its scope has a deployment, and then it scores by
the predictor alone: what it loads of the historian never votes. -/
theorem restarted_trainer_ready (samples : StampedSamples) (outcomes : List PaperOutcomeRow)
    (events : List TrainingEvent) (scope : ModelScope) :
    let w := Runs.run (TrainingWorld.step e featureHash) events (.start samples outcomes)
    let t := ModelTrainer.tryLoadModels scope w.store
    (t.isReady = true ↔ w.deploymentsOf scope ≠ []) ∧
      ∀ features, t.score e features = t.predictor.predict e features * (7 / 10) + 3 / 20 := by
  intro w t
  have hdeployed : Deployed w.deployments w.store.registry :=
    deployed_run e featureHash samples outcomes events
  have hpair : t.deployment = _ := hdeployed.tryLoadModels
  constructor
  · have hbase : t.predictor.toBaseModel = _ := congrArg Deployment.predictor hpair
    rw [ModelTrainer.isReady, hbase]
    cases hd : TrainingWorld.restored (w.deploymentsOf scope) with
    | none =>
      have hnil : w.deploymentsOf scope = [] := by
        have hlength := List.getElem?_eq_none_iff.mp hd
        exact List.eq_nil_of_length_eq_zero (by omega)
      rw [hnil]
      simp [BaseModel.isReady, BaseModel.initial]
    | some d =>
      have hmem := List.mem_of_getElem? hd
      have hready := hdeployed.ready d (List.mem_filter.mp hmem).1 .predictor
      exact iff_of_true hready (List.ne_nil_of_mem hmem)
  · intro features
    have hpattern : t.historian.patternModel = none := by
      change (ModelTrainer.tryLoadModels scope w.store).historian.patternModel = none
      unfold ModelTrainer.tryLoadModels
      dsimp only
      split <;> rfl
    have hvote : t.historian.predict e features = 1 / 2 := by
      unfold Historian.predict
      rw [hpattern]
      split
      · contradiction
      · rfl
    rw [ModelTrainer.score, hvote]
    norm_num

end Runs

end Ml

end Botik
