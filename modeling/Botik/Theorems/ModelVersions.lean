import Botik.Library.Runs
import Botik.Ml.Registry

/-!
# Versions that grow

The latest version of a model is read off the last of its file names, in the order of texts: `v10`
comes before `v9`. So the next version is above all that were saved, and what is loaded is the
latest model, as long as no save follows a version of nines only, no untrained save follows a
trained one, and the patterns of the names show each its own files only. The same goes for the steps
of checkpoints.

## Main definitions

* `Ml.RegistryRun`, `Ml.record` — a registry, and what was saved
* `Ml.VersionsGrow` — what is promised
* `Ml.CallFits` — what a call has to meet

## Main results

* `versionOf_modelPath`, `modelPath_lt` — file names
* `Kept.record` — one call
* `versions_grow`
-/

namespace Botik

namespace Ml

open Ml.ModelRegistry

variable {μ : Type}

/-- A model that was saved. -/
structure SaveRecord (μ : Type) where
  key : ModelKey
  version : ℕ
  file : ModelFile μ
  isTrained : Bool

/-- A checkpoint that was saved. -/
structure CheckpointRecord (μ : Type) where
  key : ModelKey
  checkpoint : CheckpointFile μ

/-- The files of models. -/
def modelFiles (μ : Type) : FileNumbering (SaveRecord μ) ModelKey ℕ (ModelFile μ) where
  owner := SaveRecord.key
  number := SaveRecord.version
  content := SaveRecord.file
  fileOf := fun key version => modelPath key.scope key.name version
  shows := fun key => Glob.globMatches (modelPattern key.scope key.name)

/-- The files of checkpoints. -/
def checkpointFiles (μ : Type) :
    FileNumbering (CheckpointRecord μ) ModelKey ℤ (CheckpointFile μ) where
  owner := CheckpointRecord.key
  number := fun c => c.checkpoint.step
  content := CheckpointRecord.checkpoint
  fileOf := fun key step => checkpointPath key.scope key.name step
  shows := fun key => Glob.globMatches (checkpointPattern key.scope key.name)

/-- A call of a registry; a model is saved under the next version. -/
inductive RegistryCall (μ : Type)
  | save (key : ModelKey) (file : ModelFile μ) (isTrained : Bool) (runId nowUtc : String)
  | saveCheckpoint (key : ModelKey) (checkpoint : CheckpointFile μ)

/-- A registry, and what was saved, in order. -/
structure RegistryRun (μ : Type) where
  registry : ModelRegistry μ
  saves : List (SaveRecord μ)
  checkpoints : List (CheckpointRecord μ)

/-- No files yet. -/
def RegistryRun.start (runs : Dict String TrainingRun) : RegistryRun μ :=
  ⟨⟨.empty, .empty, runs⟩, [], []⟩

/-- One call. -/
def record : RegistryCall μ → RegistryRun μ → RegistryRun μ
  | .save key file isTrained runId nowUtc, s =>
    let version := s.registry.nextVersion key.scope key.name
    { s with
      registry := s.registry.save key.scope key.name version file isTrained runId nowUtc
      saves := s.saves ++ [{ key, version, file, isTrained }] }
  | .saveCheckpoint key checkpoint, s =>
    { s with
      registry := s.registry.saveCheckpoint key.scope key.name checkpoint
      checkpoints := s.checkpoints ++ [{ key, checkpoint }] }

/-- The next version is above every one that was saved, and its file is not there, `load` returns
the greatest trained version and `load_checkpoint` the greatest step. -/
structure VersionsGrow (s : RegistryRun μ) : Prop where
  grows : ∀ r ∈ s.saves, r.version < s.registry.nextVersion r.key.scope r.key.name
  unwritten : ∀ r ∈ s.saves, modelPath r.key.scope r.key.name
    (s.registry.nextVersion r.key.scope r.key.name) ∉ s.registry.models.keys
  loads : ∀ key r, (modelFiles μ).greatest? key (s.saves.filter SaveRecord.isTrained) = some r →
    s.registry.load key.scope key.name = some (r.file.model, r.file.accuracy, r.file.tradeCount)
  resumes : ∀ key c, (checkpointFiles μ).greatest? key s.checkpoints = some c →
    s.registry.loadCheckpoint key.scope key.name = some (c.checkpoint.model, c.checkpoint.step)

/-! ### What a call has to meet -/

/-- The pattern of a name shows its own files. -/
def SeesOwn {ε ν π : Type} (n : FileNumbering ε ModelKey ν π) (key : ModelKey) : Prop :=
  ∀ i, n.shows key (n.fileOf key i) = true

/-- The patterns of two names show no files of each other. -/
def SeenApart {ε ν π : Type} (n : FileNumbering ε ModelKey ν π) (key key' : ModelKey) : Prop :=
  ∀ i, n.shows key (n.fileOf key' i) = false ∧ n.shows key' (n.fileOf key i) = false

/-- A version is followed by one of as many digits. -/
def SameDigits (version : ℕ) : Prop :=
  (Nat.toDigits 10 (version + 1)).length = (Nat.toDigits 10 version).length

instance : DecidablePred SameDigits := fun version =>
  inferInstanceAs (Decidable ((Nat.toDigits 10 (version + 1)).length = _))

/-- What a call has to meet for the versions to grow. -/
def CallFits (s : RegistryRun μ) : RegistryCall μ → Prop
  | .save key _ isTrained _ _ =>
    SeesOwn (modelFiles μ) key ∧
    (∀ r ∈ s.saves, r.key ≠ key → SeenApart (modelFiles μ) key r.key) ∧
    (∀ r ∈ s.saves, r.key = key → SameDigits r.version) ∧
    (isTrained = true ∨ ∀ r ∈ s.saves, r.key = key → r.isTrained = false)
  | .saveCheckpoint key checkpoint =>
    SeesOwn (checkpointFiles μ) key ∧
    (∀ c ∈ s.checkpoints, c.key ≠ key → SeenApart (checkpointFiles μ) key c.key) ∧
    ∀ g, (checkpointFiles μ).greatest? key s.checkpoints = some g →
      let path := checkpointPath key.scope key.name
      (g.checkpoint.step < checkpoint.step → path g.checkpoint.step < path checkpoint.step) ∧
        (checkpoint.step < g.checkpoint.step → path checkpoint.step < path g.checkpoint.step)

/-! ### File names -/

theorem toList_modelPath (scope name : String) (version : ℕ) :
    (modelPath scope name version).toList =
      (scope ++ "_" ++ name ++ "_v").toList ++ (Nat.toDigits 10 version ++ ".joblib".toList) := by
  have hdigits : (toString version).toList = Nat.toDigits 10 version := Nat.toList_repr
  rw [modelPath, String.toList_append, String.toList_append, List.append_assoc, hdigits]

theorem isDigit_of_mem {version : ℕ} {c : Char} (h : c ∈ Nat.toDigits 10 version) :
    c.isDigit = true :=
  Nat.isDigit_of_mem_toDigits (by decide) (by decide) h

theorem digits?_toDigits (version : ℕ) :
    Text.digits? (Nat.toDigits 10 version) = some version := by
  have hall : (Nat.toDigits 10 version).all Char.isDigit = true :=
    List.all_eq_true.mpr fun c hc => isDigit_of_mem hc
  have hvalue : Text.digits (Nat.toDigits 10 version) = version := by
    rw [Text.digits, ← Nat.ofDigitChars_eq_foldl, Nat.ofDigitChars_ten_toDigits]
  rw [Text.digits?, if_pos ⟨Nat.toDigits_ne_nil, hall⟩, hvalue]

theorem stem_append (front : List Char) : stem (front ++ ".joblib".toList) = front := by
  have hsuffix : ".joblib".toList.reverse = "bilboj".toList ++ ['.'] := by decide
  have hdrop : ("bilboj".toList ++ '.' :: front.reverse).dropWhile (· ≠ '.') =
      '.' :: front.reverse := rfl
  rw [stem, List.reverse_append, hsuffix, List.append_assoc, List.singleton_append, hdrop]
  exact List.reverse_reverse front

/-- What comes before a part that begins with a character not seen before. -/
theorem upTo_append {c : Char} {part cs : List Char} (h : ∀ c' ∈ cs, c' ≠ c)
    (later : List Char) : upTo (c :: part) (cs ++ (c :: part ++ later)) = cs := by
  induction cs with
  | nil =>
    have hfront : (c :: part).isPrefixOf (c :: part ++ later) = true :=
      List.isPrefixOf_iff_prefix.mpr (List.prefix_append _ _)
    exact if_pos hfront
  | cons c' cs ih =>
    obtain ⟨hne, hrest⟩ := List.forall_mem_cons.mp h
    rw [List.cons_append, upTo, ih hrest, if_neg]
    simp [List.isPrefixOf, hne.symm]

theorem versionOf_modelPath (scope name : String) (version : ℕ) :
    versionOf (modelPath scope name version) = some version := by
  have hfront : (scope ++ "_" ++ name ++ "_v").toList =
      (scope ++ "_" ++ name).toList ++ ['_', 'v'] := String.toList_append
  have hlast : lastPart ['_', 'v']
      ((scope ++ "_" ++ name ++ "_v").toList ++ Nat.toDigits 10 version) =
        Nat.toDigits 10 version := by
    rw [lastPart, hfront, List.reverse_append, List.reverse_append]
    have hdigits : ∀ c ∈ (Nat.toDigits 10 version).reverse, c ≠ 'v' := by
      rintro c hc rfl
      exact absurd (isDigit_of_mem (List.mem_reverse.mp hc)) (by decide)
    have hupTo : upTo ['v', '_'] ((Nat.toDigits 10 version).reverse ++
        (['v', '_'] ++ (scope ++ "_" ++ name).toList.reverse)) = _ := upTo_append hdigits _
    exact (congrArg List.reverse hupTo).trans (List.reverse_reverse _)
  rw [versionOf, toList_modelPath, ← List.append_assoc, stem_append, hlast, digits?_toDigits]

/-- Versions of equally many digits are in the order of their files. -/
theorem modelPath_lt {m n : ℕ} (scope name : String)
    (hlength : (Nat.toDigits 10 m).length = (Nat.toDigits 10 n).length) (h : m < n) :
    modelPath scope name m < modelPath scope name n := by
  rw [String.lt_iff_toList_lt, toList_modelPath, toList_modelPath]
  exact FileNumbering.append_lt_append hlength (FileNumbering.toDigits_lt_toDigits hlength h) _ _

/-! ### Plain names -/

/-- A scope and a name without special characters. -/
structure PlainKey (key : ModelKey) : Prop where
  scope : Glob.Plain key.scope.toList
  name : Glob.Plain key.name.toList

/-- The part of a file name before the version. -/
def modelFront (key : ModelKey) : String := key.scope ++ "_" ++ key.name ++ "_v"

/-- The part of the file name of a checkpoint before the step. -/
def checkpointFront (key : ModelKey) : String := key.scope ++ "_" ++ key.name ++ "_step_"

/-- A plain name shows what begins and ends as its own files do. -/
theorem globMatches_of_plain {key : ModelKey} (h : PlainKey key) (part : String)
    (hpart : Glob.Plain part.toList) (file : String) :
    Glob.globMatches (key.scope ++ "_" ++ key.name ++ (part ++ "*.joblib")) file = true ↔
      ∃ middle, file.toList =
        (key.scope ++ "_" ++ key.name ++ part).toList ++ (middle ++ ".joblib".toList) := by
  apply Glob.globMatches_star
  · simp
  · rw [String.toList_append, String.toList_append, String.toList_append]
    exact ((h.scope.append (by decide)).append h.name).append hpart
  · decide

theorem shows_modelFiles_iff {key : ModelKey} (h : PlainKey key) (file : String) :
    (modelFiles μ).shows key file = true ↔
      ∃ middle, file.toList = (modelFront key).toList ++ (middle ++ ".joblib".toList) :=
  globMatches_of_plain h "_v" (by decide) file

theorem shows_checkpointFiles_iff {key : ModelKey} (h : PlainKey key) (file : String) :
    (checkpointFiles μ).shows key file = true ↔
      ∃ middle, file.toList = (checkpointFront key).toList ++ (middle ++ ".joblib".toList) :=
  globMatches_of_plain h "_step_" (by decide) file

theorem seesOwn_modelFiles {key : ModelKey} (h : PlainKey key) : SeesOwn (modelFiles μ) key :=
  fun version => (shows_modelFiles_iff h _).mpr ⟨_, toList_modelPath _ _ version⟩

theorem seesOwn_checkpointFiles {key : ModelKey} (h : PlainKey key) :
    SeesOwn (checkpointFiles μ) key := by
  intro step
  refine (shows_checkpointFiles_iff h _).mpr ⟨(toString step).toList, ?_⟩
  change (checkpointPath key.scope key.name step).toList = _
  rw [checkpointPath, String.toList_append, String.toList_append, List.append_assoc]
  rfl

/-- Patterns of different fronts show no files of each other. -/
theorem seenApart_of_fronts {ε ν π : Type} {n : FileNumbering ε ModelKey ν π} {key key' : ModelKey}
    {front front' : List Char} (hown : SeesOwn n key) (hown' : SeesOwn n key')
    (hshows : ∀ file, n.shows key file = true → front <+: file.toList)
    (hshows' : ∀ file, n.shows key' file = true → front' <+: file.toList)
    (hnot : ¬ front <+: front') (hnot' : ¬ front' <+: front) : SeenApart n key key' := by
  have hboth : ∀ file, n.shows key file = true → n.shows key' file = true → False := by
    intro file h h'
    rcases List.prefix_or_prefix_of_prefix (hshows file h) (hshows' file h') with hle | hle
    · exact hnot hle
    · exact hnot' hle
  intro i
  constructor
  · exact Bool.eq_false_iff.mpr fun h => hboth _ h (hown' i)
  · exact Bool.eq_false_iff.mpr fun h => hboth _ (hown i) h

/-- The models of the trainers. -/
def trainedKeys : List ModelKey :=
  ["futures", "spot"].flatMap fun scope =>
    ["historian", "predictor", "outcome"].map fun name => ⟨scope, name⟩

theorem plainKey_of_mem {key : ModelKey} (h : key ∈ trainedKeys) : PlainKey key := by
  have hall : ∀ key ∈ trainedKeys, Glob.Plain key.scope.toList ∧ Glob.Plain key.name.toList := by
    decide +kernel
  exact ⟨(hall key h).1, (hall key h).2⟩

/-- The trainers' models have files of their own. -/
theorem seenApart_of_mem {key key' : ModelKey} (h : key ∈ trainedKeys) (h' : key' ∈ trainedKeys)
    (hne : key' ≠ key) : SeenApart (modelFiles μ) key key' := by
  have hfronts : ∀ key ∈ trainedKeys, ∀ key' ∈ trainedKeys, key' ≠ key →
      ¬ (modelFront key).toList <+: (modelFront key').toList := by
    decide +kernel
  refine seenApart_of_fronts (seesOwn_modelFiles (plainKey_of_mem h))
    (seesOwn_modelFiles (plainKey_of_mem h')) ?_ ?_ (hfronts key h key' h' hne)
    (hfronts key' h' key h hne.symm)
  · intro file hshows
    obtain ⟨middle, heq⟩ := (shows_modelFiles_iff (plainKey_of_mem h) file).mp hshows
    exact ⟨_, heq.symm⟩
  · intro file hshows
    obtain ⟨middle, heq⟩ := (shows_modelFiles_iff (plainKey_of_mem h') file).mp hshows
    exact ⟨_, heq.symm⟩

/-- A trainer's model fits if no version of nines only and, where it is not trained, no trained
version was saved before. -/
theorem callFits_of_mem {s : RegistryRun μ} {key : ModelKey} {file : ModelFile μ} {isTrained : Bool}
    {runId nowUtc : String} (hkey : key ∈ trainedKeys) (hkeys : ∀ r ∈ s.saves, r.key ∈ trainedKeys)
    (hdigits : ∀ r ∈ s.saves, r.key = key → SameDigits r.version)
    (htrained : isTrained = true ∨ ∀ r ∈ s.saves, r.key = key → r.isTrained = false) :
    CallFits s (.save key file isTrained runId nowUtc) :=
  ⟨seesOwn_modelFiles (plainKey_of_mem hkey),
    fun r hr hne => seenApart_of_mem hkey (hkeys r hr) hne, hdigits, htrained⟩

/-! ### One call -/

/-- A save after another one of its name has a greater version, and is trained if that was. -/
def Succeeds (r r' : SaveRecord μ) : Prop :=
  r.key = r'.key → r.version < r'.version ∧ (r.isTrained = true → r'.isTrained = true)

/-- What is kept: both directories are orderly, and saves succeed one another. -/
structure Kept (s : RegistryRun μ) : Prop where
  models : (modelFiles μ).Orderly s.saves s.registry.models
  own : ∀ r ∈ s.saves, SeesOwn (modelFiles μ) r.key
  checkpoints : (checkpointFiles μ).Orderly s.checkpoints s.registry.checkpoints
  later : s.saves.Pairwise Succeeds

variable {s : RegistryRun μ} {key : ModelKey} {g r : SaveRecord μ} {c : CheckpointRecord μ}
  {file : ModelFile μ} {isTrained : Bool} {runId nowUtc : String} {call : RegistryCall μ}

theorem kept_start (runs : Dict String TrainingRun) :
    Kept (RegistryRun.start runs : RegistryRun μ) where
  models := FileNumbering.orderly_empty _
  own := fun _ hr => absurd hr List.not_mem_nil
  checkpoints := FileNumbering.orderly_empty _
  later := List.Pairwise.nil

/-- The latest version is the greatest one that was saved. -/
theorem Kept.getLatestVersion (h : Kept s) (hg : (modelFiles μ).greatest? key s.saves = some g) :
    s.registry.getLatestVersion key.scope key.name = some g.version := by
  have hlast : lastFile (modelPattern key.scope key.name) s.registry.models =
      some (modelPath g.key.scope g.key.name g.version) := h.models.latestFile_eq hg
  rw [ModelRegistry.getLatestVersion, hlast, Option.bind_some, versionOf_modelPath, Option.some_or]

theorem Kept.nextVersion (h : Kept s) (hg : (modelFiles μ).greatest? key s.saves = some g) :
    s.registry.nextVersion key.scope key.name = g.version + 1 := by
  rw [ModelRegistry.nextVersion, ModelRegistry.getVersion, h.getLatestVersion hg]
  rfl

/-- The next version of a name is above all that were saved of it. -/
theorem Kept.grows (h : Kept s) (hr : r ∈ s.saves) :
    r.version < s.registry.nextVersion r.key.scope r.key.name := by
  obtain ⟨g, hg, hle⟩ := FileNumbering.exists_greatest? (n := modelFiles μ) hr
  have hle' : r.version ≤ g.version := hle
  have hnext : s.registry.nextVersion r.key.scope r.key.name = g.version + 1 := h.nextVersion hg
  omega

/-- The file of the next version is not there. -/
theorem Kept.unwritten (h : Kept s) (hr : r ∈ s.saves) :
    modelPath r.key.scope r.key.name (s.registry.nextVersion r.key.scope r.key.name) ∉
      s.registry.models.keys := by
  intro hin
  obtain ⟨r', hr', hfile⟩ := (h.models.keys _).mp hin
  have hshows := h.own r hr (s.registry.nextVersion r.key.scope r.key.name)
  -- a file that the name shows is one of its own
  have hkey : r'.key = r.key := (h.models.seen r hr r' hr').mp (hfile ▸ hshows)
  have hversion := congrArg versionOf hfile
  change _ = versionOf (modelPath r'.key.scope r'.key.name r'.version) at hversion
  rw [versionOf_modelPath, versionOf_modelPath] at hversion
  have hless := h.grows hr'
  rw [hkey, Option.some.inj hversion] at hless
  exact lt_irrefl _ hless

/-- The file of the next version fits. -/
theorem Kept.fits_save (h : Kept s) (hcall : CallFits s (.save key file isTrained runId nowUtc)) :
    (modelFiles μ).Fits s.saves
      ⟨key, s.registry.nextVersion key.scope key.name, file, isTrained⟩ := by
  obtain ⟨hown, hapart, hdigits, -⟩ := hcall
  refine ⟨hown _, fun r hr hne => ?_, fun g hg => ?_⟩
  · have hseen := hapart r hr hne
    exact ⟨(hseen r.version).1, (hseen _).2⟩
  · have hnext : s.registry.nextVersion key.scope key.name = g.version + 1 := h.nextVersion hg
    obtain ⟨hmem, hkey⟩ := FileNumbering.mem_of_greatest? hg
    obtain rfl : g.key = key := hkey
    -- the next version follows the greatest one, with as many digits
    have hsame : SameDigits g.version := hdigits g hmem rfl
    have hless := modelPath_lt g.key.scope g.key.name hsame.symm (Nat.lt_succ_self g.version)
    constructor
    · intro _
      change modelPath g.key.scope g.key.name g.version <
        modelPath g.key.scope g.key.name (s.registry.nextVersion g.key.scope g.key.name)
      rw [hnext]
      exact hless
    · intro hbelow
      have hbelow' : s.registry.nextVersion g.key.scope g.key.name < g.version := hbelow
      omega

/-- The file of a checkpoint fits. -/
theorem fits_saveCheckpoint {checkpoint : CheckpointFile μ}
    (hcall : CallFits s (.saveCheckpoint key checkpoint)) :
    (checkpointFiles μ).Fits s.checkpoints ⟨key, checkpoint⟩ := by
  obtain ⟨hown, hapart, hordered⟩ := hcall
  refine ⟨hown _, fun c hc hne => ?_, fun g hg => ?_⟩
  · have hseen := hapart c hc hne
    exact ⟨(hseen _).1, (hseen _).2⟩
  · have hpaths := hordered g hg
    obtain ⟨-, rfl⟩ := FileNumbering.mem_of_greatest? hg
    exact hpaths

theorem Kept.record (h : Kept s) (hcall : CallFits s call) : Kept (record call s) := by
  cases call with
  | save key file isTrained runId nowUtc =>
    refine ⟨h.models.concat (h.fits_save hcall), ?_, h.checkpoints, ?_⟩
    · intro r hr
      rcases List.mem_append.mp hr with hold | hnew
      · exact h.own r hold
      · rw [List.mem_singleton.mp hnew]
        exact hcall.1
    apply List.pairwise_append.mpr
    refine ⟨h.later, List.pairwise_singleton _ _, ?_⟩
    intro r hr r' hr' hsame
    obtain rfl := List.mem_singleton.mp hr'
    obtain rfl : r.key = key := hsame
    refine ⟨h.grows hr, fun htrained => ?_⟩
    rcases hcall.2.2.2 with hnew | hnone
    · exact hnew
    · rw [hnone r hr rfl] at htrained
      cases htrained
  | saveCheckpoint key checkpoint =>
    exact ⟨h.models, h.own, h.checkpoints.concat (fits_saveCheckpoint hcall), h.later⟩

/-- Of two saves one succeeds the other. -/
theorem Kept.succeeds_or (h : Kept s) (hr : r ∈ s.saves) (hg : g ∈ s.saves) (hne : r ≠ g) :
    Succeeds r g ∨ Succeeds g r := by
  obtain ⟨before, after, hsplit⟩ := List.append_of_mem hr
  have hpairs := h.later
  rw [hsplit] at hg hpairs
  obtain ⟨-, hfrom, hbetween⟩ := List.pairwise_append.mp hpairs
  rcases List.mem_append.mp hg with hbefore | hin
  · exact Or.inr (hbetween g hbefore r List.mem_cons_self)
  · rcases List.mem_cons.mp hin with rfl | hafter
    · exact absurd rfl hne
    · exact Or.inl ((List.pairwise_cons.mp hfrom).1 g hafter)

/-- The greatest trained version of a name is the greatest of all. -/
theorem Kept.greatest?_of_trained (h : Kept s)
    (hr : (modelFiles μ).greatest? key (s.saves.filter SaveRecord.isTrained) = some r) :
    (modelFiles μ).greatest? key s.saves = some r := by
  obtain ⟨hmem, rfl⟩ := FileNumbering.mem_of_greatest? hr
  obtain ⟨hsaved, htrained⟩ := List.mem_filter.mp hmem
  obtain ⟨g, hg, hle⟩ := FileNumbering.exists_greatest? (n := modelFiles μ) hsaved
  have hsame : g.key = r.key := (FileNumbering.mem_of_greatest? hg).2
  have hle' : r.version ≤ g.version := hle
  -- a greater version would have been saved later, and so be trained
  by_cases heq : r = g
  · rw [heq] at hg ⊢
    exact hg
  rcases h.succeeds_or hsaved (FileNumbering.mem_of_greatest? hg).1 heq with hbefore | hafter
  · -- then the greatest one is trained too, and not above itself
    obtain ⟨hless, htrained'⟩ := hbefore hsame.symm
    have hin : g ∈ s.saves.filter SaveRecord.isTrained :=
      List.mem_filter.mpr ⟨(FileNumbering.mem_of_greatest? hg).1, htrained' htrained⟩
    obtain ⟨g', hg', hbest⟩ := FileNumbering.exists_greatest? (n := modelFiles μ) hin
    have hr' : (modelFiles μ).greatest? g.key (s.saves.filter SaveRecord.isTrained) = some r := by
      rw [hsame]
      exact hr
    obtain rfl := Option.some.inj (hr'.symm.trans hg')
    have hbest' : g.version ≤ r.version := hbest
    omega
  · have hless := (hafter hsame).1
    omega

/-- What is kept makes versions grow. -/
theorem Kept.versionsGrow (h : Kept s) : VersionsGrow s where
  grows := fun _ hr => h.grows hr
  unwritten := fun _ hr => h.unwritten hr
  loads := by
    intro key r hr
    have hgreatest := h.greatest?_of_trained hr
    have hstored := h.models.stored key r hgreatest
    obtain ⟨-, rfl⟩ := FileNumbering.mem_of_greatest? hgreatest
    have hfile : s.registry.models.get? (modelPath r.key.scope r.key.name r.version) =
        some r.file := hstored
    have hlatest : s.registry.getLatestVersion r.key.scope r.key.name = some r.version :=
      h.getLatestVersion hgreatest
    change s.registry.load r.key.scope r.key.name = _
    rw [load, hlatest, Option.bind_some, hfile]
    rfl
  resumes := by
    intro key c hc
    have hlast : lastFile (checkpointPattern key.scope key.name) s.registry.checkpoints =
        some ((checkpointFiles μ).name c) := h.checkpoints.latestFile_eq hc
    have hstored := h.checkpoints.stored key c hc
    rw [loadCheckpoint, hlast, Option.bind_some, hstored]
    rfl

end Ml

open Ml

/-- In every run whose calls all fit, whatever rows there were before, versions grow at every point:
the next version is above every saved one, and what is loaded are the greatest trained version and
the greatest step. -/
theorem versions_grow {μ : Type} (runs : Dict String TrainingRun) (calls : List (RegistryCall μ))
    (h : ∀ t ∈ Runs.transitions record calls (.start runs), CallFits t.before t.input) :
    VersionsGrow (Runs.run record calls (.start runs)) ∧
      ∀ t ∈ Runs.transitions record calls (.start runs),
        VersionsGrow t.before ∧ VersionsGrow t.after := by
  constructor
  · exact (Runs.run_of_inv (fun _ _ hkept hcall => hkept.record hcall) (kept_start runs)
      h).versionsGrow
  · intro t ht
    obtain ⟨hbefore, hafter⟩ := Runs.forall_transitions_of_inv
      (fun _ _ hkept hcall => hkept.record hcall) (kept_start runs) h t ht
    exact ⟨hbefore.versionsGrow, hafter.versionsGrow⟩

/-- Two models and a checkpoint. -/
def trainerCalls : List (RegistryCall ℕ) :=
  [.save ⟨"futures", "historian"⟩ ⟨1, .finite (1 / 2), 90⟩ false "run-1" "2026-01-01T00:00:00Z",
    .save ⟨"futures", "predictor"⟩ ⟨2, .finite (3 / 5), 90⟩ true "run-2" "2026-01-01T00:00:01Z",
    .save ⟨"futures", "historian"⟩ ⟨3, .finite (3 / 5), 95⟩ true "run-3" "2026-01-02T00:00:00Z",
    .saveCheckpoint ⟨"futures", "historian"⟩ ⟨4, 1000⟩]

/-- The calls of a trainer make versions grow. -/
theorem versions_grow_trainerCalls :
    VersionsGrow (Runs.run record trainerCalls (.start .empty)) := by
  refine (versions_grow .empty trainerCalls ?_).1
  unfold trainerCalls
  simp only [Runs.transitions_cons, Runs.transitions_nil, List.forall_mem_cons]
  refine ⟨?_, ?_, ?_, ?_, by simp⟩
  · exact callFits_of_mem (by decide) (by decide +kernel) (by decide +kernel) (by decide +kernel)
  · exact callFits_of_mem (by decide) (by decide +kernel) (by decide +kernel) (by decide +kernel)
  · exact callFits_of_mem (by decide) (by decide +kernel) (by decide +kernel) (by decide +kernel)
  · refine ⟨seesOwn_checkpointFiles (plainKey_of_mem (by decide)), ?_, ?_⟩
    · intro c hc
      cases hc
    · intro g hg
      cases hg

/-! ### Ten versions -/

/-- Ten trained models of the same name. -/
def tenSaves : List (RegistryCall ℕ) :=
  (List.range 10).map fun n =>
    .save ⟨"futures", "historian"⟩ ⟨n, .finite (3 / 5), 90⟩ true (toString n)
      "2026-01-01T00:00:00Z"

/-- After the tenth version the next one is the tenth again. -/
theorem tenth_version_comes_twice : ¬ ∀ runs (calls : List (RegistryCall ℕ)),
    VersionsGrow (Runs.run record calls (.start runs)) := by
  intro h
  have hgrows := (h .empty tenSaves).grows
  let s : RegistryRun ℕ := Runs.run record tenSaves (.start .empty)
  have hten : s.saves.any (fun r => r.key = ⟨"futures", "historian"⟩ ∧ r.version = 10) = true := by
    decide +kernel
  have hnext : s.registry.nextVersion "futures" "historian" = 10 := by
    decide +kernel
  obtain ⟨r, hr, hrow⟩ := List.any_eq_true.mp hten
  obtain ⟨hkey, hversion⟩ := of_decide_eq_true hrow
  have hless : r.version < s.registry.nextVersion r.key.scope r.key.name := hgrows r hr
  rw [hkey, hversion, hnext] at hless
  exact lt_irrefl _ hless

end Botik
