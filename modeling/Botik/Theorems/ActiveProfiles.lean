import Mathlib.Data.Finset.Max
import Botik.Library.Runs
import Botik.Theorems.ScannerSelection

/-!
# The profiles of the active symbols

A pass of the scanner selects a profile for each symbol: the first one, an arm of the bandit, or
what a model scores best. The strategy looks the profile up by its stripped id. The first profile
and the arms are stripped; a model hands on the id as it is configured. Where no profile with an id
is configured, the scanner goes on with a default one, which the strategy does not have.

## Main definitions

* `ScannerSettings.IsSelectable` — the ids a selection can answer
* `ProfilesAgree` — the scanner and the strategy get their profiles from one configuration
* `ScannerPass.Answers` — the model and the draws answer for every profile

## Main results

* `argmax_lt`, `select_spec`
* `active_profiles_found_iff` — every run of the loops
-/

namespace Botik

open Runs

/-! ### Selections -/

section Select

variable {bandit : List String → List (String × String)} {passSymbols : List String}
  {profiles profileList : List PolicyProfile} {ctx : String → Option PairSnapshot}
  {model : ModelBundle} {eps : ℚ} {draws : ℕ → PolicyDraw} {draw : PolicyDraw} {symbol : String}

/-- The greatest score has a place. -/
theorem argmax_lt {score : List ℚ} (h : score ≠ []) : argmax score < score.length := by
  obtain ⟨greatest, hmem, hgreatest⟩ :=
    score.toFinset.exists_max_image id (List.toFinset_nonempty_iff score |>.mpr h)
  refine List.findIdx_lt_length_of_exists ⟨greatest, List.mem_toFinset.mp hmem, ?_⟩
  exact List.all_eq_true.mpr fun s hs =>
    decide_eq_true (hgreatest s (List.mem_toFinset.mpr hs))

/-- A selection is one of the profiles. -/
theorem selectProfile_mem {choice : PolicyMeta}
    (h : selectProfile profileList ctx model eps draw symbol = some choice) :
    ∃ profile ∈ profileList, choice.profileId = profile.profileId := by
  unfold selectProfile at h
  dsimp only at h
  split_ifs at h with hexplore
  · obtain ⟨picked, hpicked, rfl⟩ := Option.map_eq_some_iff.mp h
    exact ⟨picked, List.mem_of_getElem? hpicked, rfl⟩
  · obtain ⟨chosen, hchosen, rfl⟩ := Option.map_eq_some_iff.mp h
    exact ⟨chosen, List.mem_of_getElem? hchosen, rfl⟩

/-- Where the model and the draw answer for every profile, there is a selection. -/
theorem isSome_selectProfile (hne : profileList ≠ []) (hpick : draw.pick < profileList.length)
    (hmodel : ∀ rows, (model.predictWithDetails rows).1.length = rows.length ∧
      (model.predictWithDetails rows).2.length = rows.length) :
    (selectProfile profileList ctx model eps draw symbol).isSome := by
  unfold selectProfile
  dsimp only
  split_ifs with hexplore
  · rw [Option.isSome_map, List.getElem?_eq_getElem hpick]
    rfl
  · obtain ⟨hprob, hedge⟩ := hmodel
      (profileList.map fun p => buildFeatureRow symbol (ctx symbol) p model.modelId)
    rw [List.length_map] at hprob hedge
    rw [Option.isSome_map, List.getElem?_eq_getElem]
    · rfl
    · refine (argmax_lt ?_).trans_eq ?_
      · rw [ne_eq, ← List.length_eq_zero_iff, List.length_zipWith, hprob, hedge, min_self]
        exact mt List.length_eq_zero_iff.mp hne
      · rw [List.length_zipWith, hprob, hedge, min_self]

/-- What the bandit answers, entry by entry. -/
theorem foldl_banditMeta (reason : String) (answer : List (String × String)) :
    ∃ es : List (String × PolicyMeta),
      answer.foldl (fun (d : Dict String PolicyMeta) e => d.set e.1 (banditMeta reason e.2))
          Dict.empty = es.foldl (fun d e => d.set e.1 e.2) Dict.empty ∧
        (∀ e ∈ es, (e.1, e.2.profileId) ∈ answer) ∧ es.map Prod.fst = answer.map Prod.fst := by
  refine ⟨answer.map fun e => (e.1, banditMeta reason e.2), ?_, ?_, ?_⟩
  · rw [List.foldl_map]
  · intro e he
    obtain ⟨pair, hpair, rfl⟩ := List.mem_map.mp he
    exact hpair
  · rw [List.map_map]
    rfl

/-- The symbols with what a model selects for them. -/
def modelChoices (profileList : List PolicyProfile) (ctx : String → Option PairSnapshot)
    (model : ModelBundle) (eps : ℚ) (draws : ℕ → PolicyDraw) (passSymbols : List String) :
    List (String × PolicyMeta) :=
  passSymbols.zipIdx.filterMap fun e =>
    (selectProfile profileList ctx model eps (draws e.2) e.1).map fun choice => (e.1, choice)

theorem foldl_modelChoices :
    passSymbols.zipIdx.foldl (fun (d : Dict String PolicyMeta) e =>
        match selectProfile profileList ctx model eps (draws e.2) e.1 with
        | none => d
        | some choice => d.set e.1 choice) Dict.empty =
      (modelChoices profileList ctx model eps draws passSymbols).foldl
        (fun d e => d.set e.1 e.2) Dict.empty := by
  unfold modelChoices
  rw [List.foldl_filterMap]
  congr 1
  funext d e
  cases selectProfile profileList ctx model eps (draws e.2) e.1 with
  | none => rfl
  | some choice => rfl

theorem mem_map_modelChoices (hne : profileList ≠ [])
    (hpick : ∀ k, (draws k).pick < profileList.length)
    (hmodel : ∀ rows, (model.predictWithDetails rows).1.length = rows.length ∧
      (model.predictWithDetails rows).2.length = rows.length) :
    ∀ s ∈ passSymbols,
      s ∈ (modelChoices profileList ctx model eps draws passSymbols).map Prod.fst := by
  intro s hs
  obtain ⟨k, hk, hget⟩ := List.mem_iff_getElem.mp hs
  obtain ⟨choice, hchoice⟩ := Option.isSome_iff_exists.mp
    (isSome_selectProfile hne (hpick k) hmodel)
  refine List.mem_map.mpr ⟨(s, choice), List.mem_filterMap.mpr ⟨(s, k), ?_, ?_⟩, rfl⟩
  · exact List.mk_mem_zipIdx_iff_getElem?.mpr (hget ▸ List.getElem?_eq_getElem hk)
  · dsimp only
    rw [hchoice, Option.map_some]

/-- What a selection is made of: what the bandit answers, or one of the named profiles for each
symbol. -/
theorem select_spec (bandit : List String → List (String × String)) (passSymbols : List String)
    (profiles : List PolicyProfile) (ctx : String → Option PairSnapshot)
    (model : Option ModelBundle) (eps : ℚ) (draws : ℕ → PolicyDraw) :
    ∃ es : List (String × PolicyMeta),
      select bandit passSymbols profiles ctx model eps draws =
          es.foldl (fun d e => d.set e.1 e.2) Dict.empty ∧
        (∀ e ∈ es, (e.1, e.2.profileId) ∈ bandit passSymbols ∨
          ∃ profile ∈ namedProfiles profiles, e.2.profileId = profile.profileId) ∧
        ((∀ s ∈ passSymbols, s ∈ (bandit passSymbols).map Prod.fst) →
          (namedProfiles profiles ≠ [] → ∀ k, (draws k).pick < (namedProfiles profiles).length) →
          (∀ m ∈ model, ∀ rows, (m.predictWithDetails rows).1.length = rows.length ∧
            (m.predictWithDetails rows).2.length = rows.length) →
          ∀ s ∈ passSymbols, s ∈ es.map Prod.fst) := by
  unfold select
  dsimp only
  by_cases hpass : passSymbols = []
  · rw [if_pos hpass]
    refine ⟨[], rfl, fun e he => absurd he List.not_mem_nil, fun _ _ _ s hs => ?_⟩
    rw [hpass] at hs
    exact absurd hs List.not_mem_nil
  rw [if_neg hpass]
  by_cases hnamed : namedProfiles profiles = []
  · rw [if_pos hnamed]
    obtain ⟨es, hfold, hmem, hkeys⟩ := foldl_banditMeta "no_profiles" (bandit passSymbols)
    exact ⟨es, hfold, fun e he => .inl (hmem e he), fun hall _ _ s hs => hkeys ▸ hall s hs⟩
  rw [if_neg hnamed]
  cases model with
  | none =>
    obtain ⟨es, hfold, hmem, hkeys⟩ := foldl_banditMeta "model_unavailable" (bandit passSymbols)
    exact ⟨es, hfold, fun e he => .inl (hmem e he), fun hall _ _ s hs => hkeys ▸ hall s hs⟩
  | some model =>
    refine ⟨_, foldl_modelChoices, fun e he => ?_, fun _ hpick hmodel =>
      mem_map_modelChoices hnamed (hpick hnamed) (hmodel model rfl)⟩
    obtain ⟨place, -, hchoose⟩ := List.mem_filterMap.mp he
    obtain ⟨choice, hchoice, rfl⟩ := Option.map_eq_some_iff.mp hchoose
    exact .inr (selectProfile_mem hchoice)

end Select

/-! ### The ids of a pass -/

/-- The scanner and the strategy get their profiles from one configuration. -/
structure ProfilesAgree (x : ScannerSettings) (c : StrategyConfig)
    (configured : List PolicyProfile) : Prop where
  actionProfiles : c.actionProfiles = configured.map PolicyProfile.toActionProfile
  profileIds : x.config.profileIds = profileIdsOf configured
  policyProfiles : ∃ makerOnly, x.policyProfiles = policyProfilesOf c makerOnly configured
  bandit : x.bandit.profileIds = x.config.profileIds

/-- The model answers a number for every row, and the draws pick a profile. -/
structure ScannerPass.Answers (x : ScannerSettings) (p : ScannerPass) : Prop where
  model : ∀ m ∈ p.policyModel, ∀ rows, (m.predictWithDetails rows).1.length = rows.length ∧
    (m.predictWithDetails rows).2.length = rows.length
  pick : namedProfiles x.policyProfiles ≠ [] →
    ∀ k, (p.policyDraws k).pick < (namedProfiles x.policyProfiles).length

section Ids

variable {configured : List PolicyProfile} {id : String}

/-- The stripped ids of the named profiles. -/
theorem map_namedProfiles (configured : List PolicyProfile) :
    (namedProfiles configured).map (fun p => Text.strip p.profileId) =
      (configured.map fun p => Text.strip p.profileId).filter (· ≠ "") := by
  rw [List.filter_map]
  rfl

theorem profileIdsOf_of_named (h : namedProfiles configured ≠ []) :
    profileIdsOf configured =
      (namedProfiles configured).map fun p => Text.strip p.profileId := by
  have hne : (namedProfiles configured).map (fun p => Text.strip p.profileId) ≠ [] :=
    mt List.map_eq_nil_iff.mp h
  rw [map_namedProfiles] at hne ⊢
  exact if_neg hne

theorem profileIdsOf_of_unnamed (h : namedProfiles configured = []) :
    profileIdsOf configured = ["default"] := by
  have hnil := map_namedProfiles configured
  rw [h, List.map_nil] at hnil
  exact if_pos hnil.symm

theorem profileIdsOf_ne_nil : profileIdsOf configured ≠ [] := by
  unfold profileIdsOf
  dsimp only
  split_ifs with hnil
  · exact List.cons_ne_nil _ _
  · exact hnil

/-- The ids are stripped, and none is empty. -/
theorem strip_of_mem_profileIdsOf (h : id ∈ profileIdsOf configured) :
    Text.strip id = id ∧ id ≠ "" := by
  by_cases hnamed : namedProfiles configured = []
  · rw [profileIdsOf_of_unnamed hnamed, List.mem_singleton] at h
    rw [h]
    exact ⟨by decide, by decide⟩
  · rw [profileIdsOf_of_named hnamed] at h
    obtain ⟨profile, hprofile, rfl⟩ := List.mem_map.mp h
    exact ⟨Text.strip_strip _, of_decide_eq_true (List.mem_filter.mp hprofile).2⟩

end Ids

namespace ScannerSettings

/-- The ids a selection can answer. -/
def IsSelectable (x : ScannerSettings) (id : String) : Prop :=
  id ∈ x.config.profileIds ∨ id ∈ x.bandit.arms ∨
    ∃ profile ∈ namedProfiles x.policyProfiles, id = profile.profileId

section Pass

variable {x : ScannerSettings} {c : StrategyConfig} {configured : List PolicyProfile}
  {p : ScannerPass} {selected : List String} {id : String}

theorem isSelectable_firstProfile (hagree : ProfilesAgree x c configured) :
    x.IsSelectable (Universe.firstProfile x.toUniverseSettings) := by
  have hne : x.config.profileIds ≠ [] := hagree.profileIds ▸ profileIdsOf_ne_nil
  obtain ⟨first, rest, hids⟩ := List.exists_cons_of_ne_nil hne
  refine .inl ?_
  unfold Universe.firstProfile
  rw [hids]
  exact List.mem_cons_self

theorem isSelectable_of_mem_selectProfiles (hagree : ProfilesAgree x c configured) :
    ∀ e ∈ x.selectProfiles p selected, x.IsSelectable e.2 := by
  intro e he
  unfold selectProfiles at he
  split_ifs at he with hasks
  · obtain ⟨entry, hentry, rfl⟩ := List.mem_map.mp he
    obtain ⟨es, hanswer, hmem, -⟩ := select_spec
      (banditSelect x.bandit p.arms
        (fun s => toFloat ((p.pairCtx s).bind PairSnapshot.medianSpreadBps)) p.banditDraws)
      selected x.policyProfiles p.pairCtx (if x.policyMlEnabled then p.policyModel else none)
      x.bandit.epsilon p.policyDraws
    have hget : (x.policyAnswer p selected).get? entry.1 = some entry.2 :=
      Dict.mem_entries_iff.mp hentry
    unfold policyAnswer at hget
    rw [hanswer] at hget
    rcases Dict.mem_or_of_get?_foldl_set hget with hes | hempty
    · rcases hmem _ hes with hbandit | hprofile
      · obtain ⟨place, -, hplace⟩ := List.mem_map.mp hbandit
        rw [← (Prod.ext_iff.mp hplace).2]
        exact .inr (.inl (selectArm_mem _ _ _ _ _))
      · exact .inr (.inr hprofile)
    · rw [Dict.get?_empty] at hempty
      cases hempty
  · obtain ⟨s, -, rfl⟩ := List.mem_map.mp he
    exact isSelectable_firstProfile hagree

/-- Every selected symbol gets a profile. -/
theorem mem_map_selectProfiles (hanswers : p.Answers x) :
    ∀ s ∈ selected, s ∈ (x.selectProfiles p selected).map Prod.fst := by
  intro s hs
  unfold selectProfiles
  split_ifs with hasks
  · obtain ⟨es, hanswer, -, hall⟩ := select_spec
      (banditSelect x.bandit p.arms
        (fun s => toFloat ((p.pairCtx s).bind PairSnapshot.medianSpreadBps)) p.banditDraws)
      selected x.policyProfiles p.pairCtx (if x.policyMlEnabled then p.policyModel else none)
      x.bandit.epsilon p.policyDraws
    have hmem := hall
      (fun s hs => by
        unfold banditSelect
        rw [List.map_map]
        exact (List.zipIdx_map_fst 0 selected).symm ▸ hs) hanswers.pick
      (fun m hm => by
        split_ifs at hm
        · exact hanswers.model m hm
        · cases hm) s hs
    have hget : ((x.policyAnswer p selected).get? s).isSome := by
      unfold policyAnswer
      rw [hanswer]
      exact Dict.isSome_get?_foldl_set.mpr (.inl hmem)
    obtain ⟨choice, hchoice⟩ := Option.isSome_iff_exists.mp hget
    rw [List.map_map]
    exact List.mem_map.mpr ⟨(s, choice), Dict.mem_entries_iff.mpr hchoice, rfl⟩
  · rw [List.map_map]
    exact List.mem_map.mpr ⟨s, hs, rfl⟩

theorem IsSelectable.ne_empty (h : x.IsSelectable id)
    (hagree : ProfilesAgree x c configured) : id ≠ "" := by
  rcases h with hmem | harm | ⟨profile, hprofile, rfl⟩
  · rw [hagree.profileIds] at hmem
    exact (strip_of_mem_profileIdsOf hmem).2
  · unfold BanditConfig.arms at harm
    dsimp only at harm
    split_ifs at harm
    · rw [List.mem_singleton.mp harm]
      decide
    · exact of_decide_eq_true (List.mem_filter.mp harm).2
  · intro hempty
    have hnamed := of_decide_eq_true (List.mem_filter.mp hprofile).2
    rw [hempty] at hnamed
    exact hnamed (by decide)

theorem text_truthy_of_ne {s : String} (h : s ≠ "") : Text.truthy (some s) = some s := by
  simp [Text.truthy, h]

/-- The ids of the strategy's profiles. -/
theorem isSome_profilesById_iff (hagree : ProfilesAgree x c configured) :
    (c.profilesById.get? id).isSome ↔
      id ∈ (namedProfiles configured).map fun p => Text.strip p.profileId := by
  unfold StrategyConfig.profilesById
  rw [hagree.actionProfiles, map_namedProfiles]
  have hfold : ∀ l : List ActionProfile,
      l.foldl (fun (d : Dict String ActionProfile) p => d.set (Text.strip p.profileId) p) .empty =
        (l.map fun p => (Text.strip p.profileId, p)).foldl (fun d e => d.set e.1 e.2) .empty := by
    intro l
    rw [List.foldl_map]
  rw [hfold, Dict.isSome_get?_foldl_set, List.map_map, List.filter_map, List.map_map,
    List.filter_map]
  simp [Function.comp_def]

/-- The arms are the ids of the configuration, which are stripped already. -/
theorem arms_eq (hagree : ProfilesAgree x c configured) :
    x.bandit.arms = x.config.profileIds := by
  have hstripped : ∀ id ∈ x.config.profileIds, Text.strip id = id ∧ id ≠ "" := by
    rw [hagree.profileIds]
    exact fun id hid => strip_of_mem_profileIdsOf hid
  have hmap : x.config.profileIds.map Text.strip = x.config.profileIds := by
    conv_rhs => rw [← List.map_id x.config.profileIds]
    exact List.map_congr_left fun id hid => (hstripped id hid).1
  have hne : x.config.profileIds ≠ [] := hagree.profileIds ▸ profileIdsOf_ne_nil
  unfold BanditConfig.arms
  dsimp only
  rw [hagree.bandit, hmap, List.filter_eq_self.mpr fun id hid =>
    decide_eq_true (hstripped id hid).2, if_neg hne]

/-- An id that a selection can answer is one of the strategy's, if and only if it is stripped and
some profile with an id is configured. -/
theorem IsSelectable.isSome_profilesById_iff (h : x.IsSelectable id)
    (hagree : ProfilesAgree x c configured) :
    (c.profilesById.get? id).isSome ↔
      Text.strip id = id ∧ namedProfiles configured ≠ [] := by
  rw [ScannerSettings.isSome_profilesById_iff hagree]
  by_cases hnamed : namedProfiles configured = []
  · rw [hnamed, List.map_nil]
    exact iff_of_false List.not_mem_nil fun hboth => hboth.2 rfl
  · have hids : x.config.profileIds =
        (namedProfiles configured).map fun p => Text.strip p.profileId :=
      hagree.profileIds.trans (profileIdsOf_of_named hnamed)
    rw [← hids]
    refine ⟨fun hid => ⟨(strip_of_mem_profileIdsOf (hagree.profileIds ▸ hid)).1, hnamed⟩,
      fun hboth => ?_⟩
    rcases h with hmem | harm | ⟨profile, hprofile, rfl⟩
    · exact hmem
    · exact arms_eq hagree ▸ harm
    · -- the profiles of the selector are the configured ones
      obtain ⟨makerOnly, hprofiles⟩ := hagree.policyProfiles
      have hconfigured : configured ≠ [] := fun hnil => hnamed (by rw [hnil]; rfl)
      rw [policyProfilesOf, if_neg hconfigured] at hprofiles
      rw [hprofiles] at hprofile
      rw [hids]
      exact List.mem_map.mpr ⟨profile, hprofile, hboth.1⟩

end Pass

end ScannerSettings

/-! ### The profiles of a run -/

namespace Candidates

section Run

variable {x : ScannerSettings} {c : StrategyConfig} {configured : List PolicyProfile}
  {u : Candidates} {event : CandidateEvent} {profiles : List (String × String)} {s id : String}

/-- What `set_active_profiles` keeps. -/
theorem mem_of_get?_profilesOf (h : (Universe.profilesOf profiles).get? s = some id) :
    (s, id) ∈ profiles ∧ id ≠ "" := by
  rcases Dict.mem_or_of_get?_foldl_set h with hmem | hempty
  · obtain ⟨hmem, hne⟩ := List.mem_filter.mp hmem
    exact ⟨hmem, of_decide_eq_true hne⟩
  · rw [Dict.get?_empty] at hempty
    cases hempty

theorem isSome_get?_profilesOf (hs : s ∈ profiles.map Prod.fst)
    (hne : ∀ e ∈ profiles, e.2 ≠ "") : ((Universe.profilesOf profiles).get? s).isSome := by
  unfold Universe.profilesOf
  rw [List.filter_eq_self.mpr fun e he => decide_eq_true (hne e he)]
  exact Dict.isSome_get?_foldl_set.mpr (.inl hs)

/-- Every active profile can be an answer of a selection. -/
def Selectable (x : ScannerSettings) (u : Candidates) : Prop :=
  ∀ s id, u.activeProfiles.get? s = some id → x.IsSelectable id

theorem isSelectable_start (hagree : ProfilesAgree x c configured) (symbols : List String)
    (s id : String) (hget : (Universe.profilesOf (symbols.map fun s =>
      (s, Universe.firstProfile x.toUniverseSettings))).get? s = some id) :
    x.IsSelectable id := by
  obtain ⟨symbol, -, hsymbol⟩ := List.mem_map.mp (mem_of_get?_profilesOf hget).1
  rw [← (Prod.mk.inj hsymbol).2]
  exact ScannerSettings.isSelectable_firstProfile hagree

/-- One event. -/
theorem Selectable.step (hagree : ProfilesAgree x c configured) (h : Selectable x u) :
    Selectable x (Candidates.step x event u) := by
  cases event with
  | scan p =>
    unfold Candidates.step scan
    dsimp only
    split
    · split
      · exact h
      · split_ifs
        · exact h
        · intro s id hget
          exact ScannerSettings.isSelectable_of_mem_selectProfiles hagree _
            (mem_of_get?_profilesOf hget).1
    · exact h
  | take =>
    unfold Candidates.step take
    dsimp only
    split
    · exact h
    · exact h
  | check symbol r =>
    unfold Candidates.step check
    dsimp only
    split
    · exact h
    · exact h
  | refresh instruments tickers =>
    unfold Candidates.step Universe.step Universe.refresh
    dsimp only
    split
    · exact h
    · split_ifs
      · exact h
      · exact h
  | activate =>
    intro s id hget
    -- the profile before, or the first one
    obtain ⟨symbol, -, hsymbol⟩ := List.mem_map.mp (mem_of_get?_profilesOf hget).1
    rw [← (Prod.mk.inj hsymbol).2]
    unfold Universe.profileOf
    cases hkept : Text.truthy (u.activeProfiles.get? symbol) with
    | none => exact ScannerSettings.isSelectable_firstProfile hagree
    | some kept => exact h symbol kept (Option.filter_eq_some_iff.mp hkept).1
  | message nowMs m => exact h
  | trade rt => exact h
  | restart => exact isSelectable_start hagree x.config.symbols

theorem selectable_run (hagree : ProfilesAgree x c configured) (state : MarketState)
    (events : List CandidateEvent) : Selectable x (run (step x) events (start x state)) :=
  run_of_inv (P := fun _ _ => True) (fun _ _ h _ => h.step hagree)
    (isSelectable_start hagree x.config.symbols) fun _ _ => trivial

/-- A pass gives every symbol it selects a profile. -/
theorem isSome_activeProfiles_scan {p : ScannerPass} {scanned : List ScannedSymbol}
    (hagree : ProfilesAgree x c configured) (hanswers : p.Answers x)
    (hscan : (evaluated x p u).1 = some scanned) (hraises : p.raises = false) :
    ∀ s ∈ (u.scan x p).activeSymbols, ((u.scan x p).activeProfiles.get? s).isSome := by
  unfold scan
  dsimp only
  rw [hscan]
  dsimp only
  rw [if_neg (by simp [hraises])]
  intro s hs
  exact isSome_get?_profilesOf (ScannerSettings.mem_map_selectProfiles hanswers s hs) fun e he =>
    (ScannerSettings.isSelectable_of_mem_selectProfiles hagree e he).ne_empty hagree

end Run

end Candidates

open Candidates

/-- After every run of the loops, the strategy finds the profile of a symbol if and only if its id
is stripped and some profile with an id is configured; and after a pass whose model and draws answer,
every selected symbol has one. -/
theorem active_profiles_found_iff (x : ScannerSettings) (c : StrategyConfig)
    (configured : List PolicyProfile) (hagree : ProfilesAgree x c configured)
    (state : MarketState) (events : List CandidateEvent) :
    (∀ s id, (run (Candidates.step x) events (start x state)).activeProfiles.get? s = some id →
      ∀ v : TradingView, v.activeProfileId s = some id →
        ((c.profileOf (c.profileIdOf v s)).isSome ↔
          Text.strip id = id ∧ namedProfiles configured ≠ [])) ∧
      ∀ p scanned,
        (evaluated x p (run (Candidates.step x) events (start x state))).1 = some scanned →
        p.raises = false → p.Answers x →
          ∀ s ∈ ((run (Candidates.step x) events (start x state)).scan x p).activeSymbols,
            (((run (Candidates.step x) events
              (start x state)).scan x p).activeProfiles.get? s).isSome := by
  refine ⟨fun s id hget v hview => ?_, fun p scanned hscan hraises hanswers =>
    isSome_activeProfiles_scan hagree hanswers hscan hraises⟩
  have hid : x.IsSelectable id := selectable_run hagree state events s id hget
  have hlooked : c.profileIdOf v s = some id := by
    unfold StrategyConfig.profileIdOf
    rw [hview, ScannerSettings.text_truthy_of_ne (hid.ne_empty hagree), Option.some_or]
  rw [hlooked, ← hid.isSome_profilesById_iff hagree]
  rfl

/-- A profile whose id is not stripped. -/
def paddedProfile : PolicyProfile where
  profileId := " slow "
  entryTickOffset := 1
  orderQtyBase := 1 / 1000
  targetProfit := 1 / 10000
  safetyBuffer := 5 / 100000
  minTopBookQty := 0
  stopLossPct := none
  takeProfitPct := none
  holdTimeoutSec := none
  makerOnly := none

/-- The two symbols, with the padded profile and a model. -/
def paddedSettings : ScannerSettings :=
  { scannedTwo with
    config := { Config.default ["BTCUSDT", "ETHUSDT"] .spot with profileIds := ["slow"] }
    policyMlEnabled := true
    bandit := ⟨["slow"], 0, 3⟩
    policyProfiles := [paddedProfile] }

/-- The strategy with the padded profile. -/
def paddedStrategy : StrategyConfig :=
  { StrategyConfig.default ["BTCUSDT", "ETHUSDT"] with
    actionProfiles := [paddedProfile.toActionProfile] }

/-- The first symbol passes, and the model scores every profile with zero. -/
def modelPass : ScannerPass :=
  { thinPass with
    policyModel := some ⟨"m1", fun rows => (rows.map fun _ => 0, rows.map fun _ => 0)⟩ }

/-- The strategy without profiles. -/
def unprofiledStrategy : StrategyConfig :=
  { StrategyConfig.default ["BTCUSDT", "ETHUSDT"] with actionProfiles := [] }

/-- The two symbols, with what the runtime makes up where no profile is configured. -/
def unprofiledSettings : ScannerSettings :=
  { scannedTwo with
    config := { Config.default ["BTCUSDT", "ETHUSDT"] .spot with profileIds := ["default"] }
    policyMlEnabled := true
    bandit := ⟨["default"], 0, 3⟩
    policyProfiles := policyProfilesOf unprofiledStrategy true [] }

/-- The first profile is found, and the one the model selects is not, although there is one; and
the default one of a configuration without profiles is not found. -/
theorem padded_profile_not_found :
    (∀ s ∈ ((start paddedSettings .empty).scan paddedSettings modelPass).activeSymbols,
      (((start paddedSettings .empty).scan paddedSettings
        modelPass).activeProfiles.get? s).isSome) ∧
    (paddedStrategy.profileOf (paddedStrategy.profileIdOf
        (run (Candidates.step paddedSettings) [] (start paddedSettings .empty)).view
          "BTCUSDT")).isSome ∧
      ¬ (paddedStrategy.profileOf (paddedStrategy.profileIdOf
        (run (Candidates.step paddedSettings) [.scan modelPass] (start paddedSettings .empty)).view
          "BTCUSDT")).isSome ∧
      ¬ (unprofiledStrategy.profileOf (unprofiledStrategy.profileIdOf
        (run (Candidates.step unprofiledSettings) [.scan modelPass]
          (start unprofiledSettings .empty)).view "BTCUSDT")).isSome := by
  have hagree : ProfilesAgree paddedSettings paddedStrategy [paddedProfile] :=
    ⟨rfl, by decide +kernel, ⟨true, rfl⟩, rfl⟩
  have hagree' : ProfilesAgree unprofiledSettings unprofiledStrategy [] :=
    ⟨rfl, by decide +kernel, ⟨true, rfl⟩, rfl⟩
  have hsome : (evaluated paddedSettings modelPass (start paddedSettings .empty)).1.isSome := by
    decide +kernel
  obtain ⟨scanned, hscan⟩ := Option.isSome_iff_exists.mp hsome
  have hanswers : modelPass.Answers paddedSettings := by
    refine ⟨fun m hm rows => ?_, fun _ _ => Nat.zero_lt_one.trans_eq (by decide +kernel)⟩
    obtain rfl := Option.some.inj hm
    exact ⟨List.length_map _, List.length_map _⟩
  refine ⟨?_, ?_, ?_, ?_⟩
  · exact (active_profiles_found_iff paddedSettings paddedStrategy _ hagree .empty []).2
      modelPass scanned hscan rfl hanswers
  · exact ((active_profiles_found_iff paddedSettings paddedStrategy _ hagree .empty []).1
      "BTCUSDT" "slow" (by decide +kernel) _ (by decide +kernel)).mpr (by decide +kernel)
  · rw [(active_profiles_found_iff paddedSettings paddedStrategy _ hagree .empty
      [.scan modelPass]).1 "BTCUSDT" " slow " (by decide +kernel) _ (by decide +kernel)]
    decide +kernel
  · rw [(active_profiles_found_iff unprofiledSettings unprofiledStrategy _ hagree' .empty
      [.scan modelPass]).1 "BTCUSDT" "default" (by decide +kernel) _ (by decide +kernel)]
    exact fun hfound => hfound.2 rfl

end Botik
