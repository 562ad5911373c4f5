import Botik.AppService.ModelsRead

/-!
# The latest model of each scope

The adapter looks for the latest entry of a scope among the newest rows of both scopes together. It
finds it exactly if it is one of them.

## Main definitions

* `ModelsRead.newestEntry`, `ModelsRead.newestRun` — of all rows of a scope the newest one
* `ModelsRead.ShowsLatest` — the latest entries and runs of both scopes are the newest ones
* `ModelsRead.Reaches` — the listed rows reach every scope that has rows

## Main results

* `get?_latestByScope` — what the scan of a list finds
* `find?_take_eq_iff` — a search in the first elements of a list against one in all of them
* `shows_latest_iff`
-/

namespace Botik.AppService

namespace ModelsRead

/-- The entry of the newest row of a scope, of all rows of the registry. -/
def newestEntry (py : Python) (pointer : Pointer) (db : ModelsDatabase) (scope : ModelScope) :
    Option ModelRegistryEntry :=
  ((registryRows db).map (registryEntry py pointer)).find? fun entry => entry.scope = scope

/-- The newest training run of a scope, of all rows of the table. -/
def newestRun (db : ModelsDatabase) (scope : ModelScope) : Option TrainingRunSummary :=
  ((runRows db).map trainingRun).find? fun run => run.scope = scope

/-- For spot and futures the latest registry entry and the latest training run are those of the
newest row of the scope, and the status of the scope, with its readiness, is made of them. -/
structure ShowsLatest (py : Python) (manifest : Manifest) (db : ModelsDatabase) : Prop where
  registry : ∀ scope ≠ .unknown, (readRegistryEntries py (readManifest manifest) db).2.1.get? scope =
    newestEntry py (readManifest manifest) db scope
  runs : ∀ scope ≠ .unknown, (readRecentTrainingRuns db).2.1.get? scope = newestRun db scope
  scopes : (buildSnapshot py manifest db).scopes = [ModelScope.spot, .futures].map fun scope =>
    buildScopeStatus (readManifest manifest)
      (newestEntry py (readManifest manifest) db scope) (newestRun db scope) scope

/-- The newest eight rows of the registry and the newest six training runs, of all scopes, include
one of spot and one of futures, if there is any. -/
structure Reaches (py : Python) (manifest : Manifest) (db : ModelsDatabase) : Prop where
  registry : ∀ scope ≠ .unknown,
    (∃ row ∈ registryRows db, (registryEntry py (readManifest manifest) row).scope = scope) →
    ∃ row ∈ (registryRows db).take registryLimit,
      (registryEntry py (readManifest manifest) row).scope = scope
  runs : ∀ scope ≠ .unknown, (∃ row ∈ runRows db, (trainingRun row).scope = scope) →
    ∃ row ∈ (runRows db).take recentRunsLimit, (trainingRun row).scope = scope

/-! ### Scans -/

/-- The scan of a list finds the first element of a scope. -/
theorem get?_latestByScope {α : Type*} (scopeOf : α → ModelScope) (items : List α)
    {scope : ModelScope} (hscope : scope ≠ .unknown) :
    (latestByScope scopeOf items).get? scope = items.find? fun item => scopeOf item = scope := by
  have hempty : (Dict.empty : Dict ModelScope α).get? scope = none := rfl
  rw [latestByScope, Dict.get?_foldl_insertIfAbsent, hempty, Option.none_or]
  induction items with
  | nil => rfl
  | cons item items ih =>
    by_cases hitem : scopeOf item = scope
    · have hknown : scopeOf item ≠ .unknown := hitem ▸ hscope
      simp [hitem, hscope, Dict.valuesOf_cons_self]
    · rw [List.find?_cons_of_neg (by simpa using hitem), ← ih]
      by_cases hknown : scopeOf item = .unknown
      · simp [hknown]
      · simp [hknown, Dict.valuesOf_cons_of_ne hitem]

/-- A search in the first elements finds what a search in all of them does exactly if there is
something to be found among the first, or nothing at all. -/
theorem find?_take_eq_iff {α : Type*} (p : α → Bool) (n : ℕ) (l : List α) :
    (l.take n).find? p = l.find? p ↔ ((∃ x ∈ l, p x = true) → ∃ x ∈ l.take n, p x = true) := by
  have hsplit : l.find? p = ((l.take n).find? p).or ((l.drop n).find? p) := by
    conv_lhs => rw [← List.take_append_drop n l, List.find?_append]
  constructor
  · rintro heq ⟨x, hx, hpx⟩
    by_contra hnone
    have htake : (l.take n).find? p = none :=
      List.find?_eq_none.mpr fun y hy hpy => hnone ⟨y, hy, hpy⟩
    rw [htake] at heq
    exact List.find?_eq_none.mp heq.symm x hx hpx
  · intro hreach
    by_cases hany : ∃ x ∈ l, p x = true
    · obtain ⟨x, hx, hpx⟩ := hreach hany
      obtain ⟨y, hy⟩ := Option.isSome_iff_exists.mp (List.find?_isSome.mpr ⟨x, hx, hpx⟩)
      rw [hsplit, hy]
      rfl
    · have hnone : l.find? p = none :=
        List.find?_eq_none.mpr fun x hx hpx => hany ⟨x, hx, hpx⟩
      rw [hnone]
      exact List.find?_eq_none.mpr fun x hx hpx => hany ⟨x, List.mem_of_mem_take hx, hpx⟩

/-- What is found for a scope among the first rows, and among all of them. -/
theorem latest_eq_iff {ρ α : Type*} (scopeOf : α → ModelScope) (f : ρ → α) (n : ℕ) (rows : List ρ)
    {scope : ModelScope} (hscope : scope ≠ .unknown) :
    (latestByScope scopeOf ((rows.take n).map f)).get? scope =
        (rows.map f).find? (fun item => scopeOf item = scope) ↔
      ((∃ row ∈ rows, scopeOf (f row) = scope) → ∃ row ∈ rows.take n, scopeOf (f row) = scope) := by
  have hmap : (rows.take n).map f = (rows.map f).take n := List.map_take
  rw [get?_latestByScope scopeOf _ hscope, hmap, find?_take_eq_iff, ← hmap]
  simp only [List.mem_map, exists_exists_and_eq_and, decide_eq_true_eq]

section Snapshot

variable (py : Python) (manifest : Manifest) (db : ModelsDatabase)

theorem registry_eq_iff {scope : ModelScope} (hscope : scope ≠ .unknown) :
    (readRegistryEntries py (readManifest manifest) db).2.1.get? scope =
        newestEntry py (readManifest manifest) db scope ↔
      ((∃ row ∈ registryRows db, (registryEntry py (readManifest manifest) row).scope = scope) →
        ∃ row ∈ (registryRows db).take registryLimit,
          (registryEntry py (readManifest manifest) row).scope = scope) := by
  have hrows : ((registryRows db).take (registryLimit + 1)).take registryLimit =
      (registryRows db).take registryLimit := by
    simp [List.take_take]
  rw [readRegistryEntries, hrows]
  exact latest_eq_iff ModelRegistryEntry.scope (registryEntry py (readManifest manifest))
    registryLimit (registryRows db) hscope

theorem runs_eq_iff {scope : ModelScope} (hscope : scope ≠ .unknown) :
    (readRecentTrainingRuns db).2.1.get? scope = newestRun db scope ↔
      ((∃ row ∈ runRows db, (trainingRun row).scope = scope) →
        ∃ row ∈ (runRows db).take recentRunsLimit, (trainingRun row).scope = scope) := by
  have hrows : ((runRows db).take (recentRunsLimit + 1)).take recentRunsLimit =
      (runRows db).take recentRunsLimit := by
    simp [List.take_take]
  rw [readRecentTrainingRuns, hrows]
  exact latest_eq_iff TrainingRunSummary.scope trainingRun recentRunsLimit (runRows db) hscope

/-- The view shows the latest of each scope exactly if the listed rows reach every scope. -/
theorem shows_latest_iff : ShowsLatest py manifest db ↔ Reaches py manifest db := by
  constructor
  · rintro ⟨hregistry, hruns, -⟩
    constructor
    · intro scope hscope
      exact (registry_eq_iff py manifest db hscope).mp (hregistry scope hscope)
    · intro scope hscope
      exact (runs_eq_iff db hscope).mp (hruns scope hscope)
  · rintro ⟨hregistry, hruns⟩
    have hentry : ∀ scope ≠ ModelScope.unknown, _ := fun scope hscope =>
      (registry_eq_iff py manifest db hscope).mpr (hregistry scope hscope)
    have hrun : ∀ scope ≠ ModelScope.unknown, _ := fun scope hscope =>
      (runs_eq_iff db hscope).mpr (hruns scope hscope)
    refine ⟨hentry, hrun, List.map_congr_left fun scope hmem => ?_⟩
    have hscope : scope ≠ .unknown := by
      rintro rfl
      simp at hmem
    exact congrArg₂ (fun entry run => buildScopeStatus (readManifest manifest) entry run scope)
      (hentry scope hscope) (hrun scope hscope)

end Snapshot

/-- Python where no registry row has metrics. -/
def plainPython : Python := .decoding fun _ => .value (.obj [])

/-- A trained spot run, and after it six runs of futures. -/
def spotBehindFutures : ModelsDatabase where
  registry := none
  trainingRuns := some <|
    ⟨some "s", some "spot", none, none, some "completed", some 1, some "2026-01-01", none⟩ ::
      (List.range 6).map fun i =>
        ⟨some (toString i), some "futures", none, none, some "completed", some 1,
          some "2026-01-02", none⟩

theorem spot_run_hidden : ¬ ∀ py manifest db, ShowsLatest py manifest db := by
  intro hclaim
  have hspot := (hclaim plainPython .missing spotBehindFutures).runs .spot (by decide)
  revert hspot
  decide +kernel

end ModelsRead

end Botik.AppService
