import Mathlib.Data.List.GetD
import Botik.Library.Runs
import Botik.MlService.Autocalibration
import Botik.Theorems.PairExecutable

/-!
# The autocalibration and the pair filter

The service writes medians, the pair filter reads them. What the filter has kept of the file is what
the file holds, as long as no two payloads carry the same time. A pair that passes covers what at
least half of the sampled fills and outcomes have cost, whether what is kept is outdated or not.

## Main definitions

* `CalibrationState.Current` — nothing outdated is kept
* `CalibrationState.StampsAgain` — a payload under the time of another one that is kept
* `CoversSamples` — the spread pays for what half of the samples have cost

## Main results

* `length_le_countP_le_median`, `length_le_countP_ge_median`
* `calibration_current_iff` — every run of both processes
* `pass_covers_samples` — a pass after such a run
-/

namespace Botik

open Runs

/-! ### Half of the samples -/

section Median

variable {values : List ℚ}

/-- The median lies between two elements of the sorted list that leave half of it on both sides. -/
theorem median_between (hne : values ≠ []) :
    ∃ i j, ∃ hi : i < (values.insertionSort (· ≤ ·)).length,
      ∃ hj : j < (values.insertionSort (· ≤ ·)).length,
      (values.insertionSort (· ≤ ·))[i] ≤ median values ∧
        median values ≤ (values.insertionSort (· ≤ ·))[j] ∧
        values.length ≤ 2 * (i + 1) ∧ values.length ≤ 2 * (values.length - j) := by
  have hlength : (values.insertionSort (· ≤ ·)).length = values.length :=
    List.length_insertionSort _ _
  have hpos : 0 < values.length := List.length_pos_of_ne_nil hne
  have hsorted : (values.insertionSort (· ≤ ·)).Pairwise (· ≤ ·) := List.pairwise_insertionSort _ _
  unfold median
  dsimp only
  generalize values.insertionSort (· ≤ ·) = sorted at hlength hsorted ⊢
  by_cases hodd : sorted.length % 2 = 1
  · have hhalf : sorted.length / 2 < sorted.length := by omega
    rw [if_pos hodd, List.getD_eq_getElem _ _ hhalf]
    exact ⟨_, _, hhalf, hhalf, le_rfl, le_rfl, by omega, by omega⟩
  · have hlow : sorted.length / 2 - 1 < sorted.length := by omega
    have hhalf : sorted.length / 2 < sorted.length := by omega
    have hle : sorted[sorted.length / 2 - 1] ≤ sorted[sorted.length / 2] :=
      List.pairwise_iff_getElem.mp hsorted _ _ hlow hhalf (by omega)
    rw [if_neg hodd, List.getD_eq_getElem _ _ hlow, List.getD_eq_getElem _ _ hhalf]
    exact ⟨_, _, hlow, hhalf, by linarith, by linarith, by omega, by omega⟩

/-- At least half of the elements are at most the median. -/
theorem length_le_countP_le_median (hne : values ≠ []) :
    values.length ≤ 2 * values.countP (· ≤ median values) := by
  obtain ⟨i, -, hi, -, hle, -, hhalf, -⟩ := median_between hne
  have hcount : i + 1 ≤ values.countP (· ≤ median values) := by
    rw [← (List.perm_insertionSort (· ≤ ·) values).countP_eq]
    refine (succ_le_countP_le (List.pairwise_insertionSort _ values) hi).trans ?_
    refine List.countP_mono_left fun a _ ha => ?_
    rw [decide_eq_true_eq] at ha ⊢
    exact ha.trans hle
  omega

/-- At least half of the elements are at least the median. -/
theorem length_le_countP_ge_median (hne : values ≠ []) :
    values.length ≤ 2 * values.countP (median values ≤ ·) := by
  obtain ⟨-, j, -, hj, -, hle, -, hhalf⟩ := median_between hne
  have hcount : values.length - j ≤ values.countP (median values ≤ ·) := by
    rw [← (List.perm_insertionSort (· ≤ ·) values).countP_eq,
      ← List.length_insertionSort (· ≤ ·) values]
    refine (sub_le_countP_ge (List.pairwise_insertionSort _ values) hj).trans ?_
    refine List.countP_mono_left fun a _ ha => ?_
    rw [decide_eq_true_eq] at ha ⊢
    exact hle.trans ha
  omega

end Median

/-! ### What is kept of the file -/

namespace CalibrationState

variable {x : CalibrationSettings} {s : CalibrationState} {event : CalibrationEvent}

/-- What is kept under the time of the file is what the file holds. -/
def Current (s : CalibrationState) : Prop :=
  ∀ f ∈ s.file, ∀ content ∈ f.content, ∀ kept, s.cache = some (f.mtime, kept) → kept = content

/-- The service writes another payload under the time of what is kept. -/
def StampsAgain (x : CalibrationSettings) (s : CalibrationState) : CalibrationEvent → Prop
  | .calibrate mtime db => ∃ p kept, runAutocalibration x db = .ok (some p) ∧
      s.cache = some (mtime, kept) ∧ kept ≠ p.stored
  | _ => False

/-- A calibration writes a payload or leaves the file. -/
theorem step_calibrate (mtime : ℕ) (db : CalibrationDb) :
    (∃ p, runAutocalibration x db = .ok (some p) ∧
        step x (.calibrate mtime db) s = { s with file := some ⟨mtime, some p.stored⟩ }) ∨
      (∀ p, runAutocalibration x db ≠ .ok (some p)) ∧ step x (.calibrate mtime db) s = s := by
  unfold step
  dsimp only
  cases hrun : runAutocalibration x db with
  | error e =>
    refine .inr ⟨fun p h => ?_, rfl⟩
    cases h
  | ok written =>
    cases written with
    | none =>
      refine .inr ⟨fun p h => ?_, rfl⟩
      cases h
    | some p => exact .inl ⟨p, rfl, rfl⟩

/-- What is kept after a reading was kept before, or is what the file holds under its time. -/
theorem cache_load (s : CalibrationState) :
    (step x .load s).cache = s.cache ∨
      ∃ f content, s.file = some f ∧ f.content = some content ∧
        (step x .load s).cache = some (f.mtime, content) := by
  change (loadAutocalibration s.file s.cache).2 = s.cache ∨ ∃ f content, s.file = some f ∧
    f.content = some content ∧ (loadAutocalibration s.file s.cache).2 = some (f.mtime, content)
  unfold loadAutocalibration
  cases hfile : s.file with
  | none => exact .inl rfl
  | some f =>
    dsimp only
    cases hkept : s.cache.filter fun e => e.1 = f.mtime with
    | some e => exact .inl rfl
    | none =>
      cases hcontent : f.content with
      | none => exact .inl rfl
      | some content => exact .inr ⟨f, content, rfl, hcontent, rfl⟩

/-- Exactly a payload under the time of another one makes outdated what is kept. -/
theorem Current.step_iff (h : s.Current) :
    (step x event s).Current ↔ ¬ StampsAgain x s event := by
  cases event with
  | calibrate mtime db =>
    rcases step_calibrate (x := x) (s := s) mtime db with ⟨p, hrun, hstep⟩ | ⟨hrun, hstep⟩
    · rw [hstep]
      constructor
      · rintro hcurrent ⟨p', kept, hrun', hcache, hne⟩
        rw [hrun, Except.ok.injEq, Option.some.injEq] at hrun'
        exact hne (hrun' ▸ hcurrent _ rfl _ rfl kept hcache)
      -- what is kept under this time is this payload
      · intro hfresh f hf content hcontent kept hcache
        obtain rfl := Option.some.inj hf
        obtain rfl := Option.some.inj hcontent
        by_contra hne
        exact hfresh ⟨p, kept, hrun, hcache, hne⟩
    · rw [hstep]
      exact iff_of_true h fun ⟨p, _, hp, _⟩ => hrun p hp
  | halfWritten mtime =>
    refine iff_of_true (fun f hf content hcontent => ?_) id
    obtain rfl := Option.some.inj hf
    cases hcontent
  | removed =>
    refine iff_of_true (fun f hf => ?_) id
    cases hf
  | load =>
    refine iff_of_true ?_ id
    -- a load keeps what it has just read
    rcases cache_load (x := x) s with hsame | ⟨f, content, hfile, hcontent, hcache⟩
    · intro f hf content hcontent kept hkept
      exact h f hf content hcontent kept (hsame ▸ hkept)
    · intro f' hf' content' hcontent' kept hkept
      obtain rfl : f = f' := Option.some.inj (hfile.symm.trans hf')
      rw [hcache] at hkept
      obtain rfl := Option.some.inj (hcontent.symm.trans hcontent')
      exact (congrArg Prod.snd (Option.some.inj hkept)).symm
  | reload =>
    refine iff_of_true (fun f hf content hcontent kept hkept => ?_) id
    cases hkept

/-- What is loaded of a readable file is what it holds. -/
theorem Current.loaded_eq (h : s.Current) {f : CalibrationFile} {content : Autocalibration}
    (hfile : s.file = some f) (hcontent : f.content = some content) : s.loaded = content := by
  unfold loaded loadAutocalibration
  rw [hfile]
  dsimp only
  cases hkept : s.cache.filter fun e => e.1 = f.mtime with
  | none =>
    rw [hcontent]
  | some e =>
    obtain ⟨hcache, htime⟩ := Option.filter_eq_some_iff.mp hkept
    rw [decide_eq_true_eq] at htime
    exact h f hfile content hcontent e.2 (by rw [hcache, ← htime])

/-- Nothing outdated is kept exactly where a readable file is read as it is. -/
theorem current_iff (s : CalibrationState) :
    s.Current ↔ ∀ f ∈ s.file, ∀ content ∈ f.content, s.loaded = content := by
  refine ⟨fun h f hfile content hcontent => h.loaded_eq hfile hcontent, fun h => ?_⟩
  intro f hfile content hcontent kept hkept
  rw [← h f hfile content hcontent]
  have hfound : (some (f.mtime, kept)).filter (fun e : ℕ × Autocalibration => e.1 = f.mtime) =
      some (f.mtime, kept) := by simp
  unfold loaded loadAutocalibration
  rw [Option.mem_def.mp hfile, hkept]
  dsimp only
  rw [hfound]

theorem current_start : start.Current := by
  intro f hf
  cases hf

/-- A calibration of the run wrote this. -/
def Calibrated (x : CalibrationSettings) (events : List CalibrationEvent) (a : Autocalibration) :
    Prop :=
  ∃ mtime db p, .calibrate mtime db ∈ events ∧ runAutocalibration x db = .ok (some p) ∧
    a = p.stored

/-- What a readable file holds and what is kept was written by calibrations of the run. -/
structure Written (x : CalibrationSettings) (events : List CalibrationEvent)
    (s : CalibrationState) : Prop where
  file : ∀ f ∈ s.file, ∀ content ∈ f.content, Calibrated x events content
  cache : ∀ kept ∈ s.cache, Calibrated x events kept.2

theorem Written.step {events : List CalibrationEvent} (h : Written x events s)
    (hevent : event ∈ events) : Written x events (CalibrationState.step x event s) := by
  cases event with
  | calibrate mtime db =>
    rcases step_calibrate (x := x) (s := s) mtime db with ⟨p, hrun, hstep⟩ | ⟨-, hstep⟩
    -- the payload of this calibration
    · rw [hstep]
      refine ⟨fun f hf content hcontent => ?_, h.cache⟩
      obtain rfl := Option.some.inj hf
      obtain rfl := Option.some.inj hcontent
      exact ⟨mtime, db, p, hevent, hrun, rfl⟩
    · rwa [hstep]
  | halfWritten mtime =>
    refine ⟨fun f hf content hcontent => ?_, h.cache⟩
    obtain rfl := Option.some.inj hf
    cases hcontent
  | removed =>
    refine ⟨fun f hf => ?_, h.cache⟩
    cases hf
  | load =>
    refine ⟨h.file, fun kept hkept => ?_⟩
    -- what a load keeps was in the file
    rcases cache_load (x := x) s with hsame | ⟨f, content, hfile, hcontent, hcache⟩
    · exact h.cache kept (hsame ▸ hkept)
    · obtain rfl := Option.some.inj (hcache.symm.trans hkept)
      exact h.file f hfile content hcontent
  | reload =>
    refine ⟨h.file, fun kept hkept => ?_⟩
    cases hkept

theorem written_run (x : CalibrationSettings) (events : List CalibrationEvent) :
    Written x events (run (CalibrationState.step x) events start) := by
  refine run_of_inv (P := fun _ event => event ∈ events) (fun _ _ h hevent => h.step hevent) ?_
    fun t ht => input_mem ht
  refine ⟨fun f hf => ?_, fun kept hkept => ?_⟩
  · cases hf
  · cases hkept

/-- What is loaded of a readable file was written by a calibration, the last one or an earlier. -/
theorem Written.loaded {events : List CalibrationEvent} (h : Written x events s)
    {f : CalibrationFile} (hfile : s.file = some f) {content : Autocalibration}
    (hcontent : f.content = some content) : Calibrated x events s.loaded := by
  unfold CalibrationState.loaded loadAutocalibration
  rw [hfile]
  dsimp only
  cases hkept : s.cache.filter fun e => e.1 = f.mtime with
  | none =>
    rw [hcontent]
    exact h.file f hfile content hcontent
  | some e => exact h.cache e (Option.filter_eq_some_iff.mp hkept).1

end CalibrationState

section Runs

variable (x : CalibrationSettings) (events : List CalibrationEvent)

theorem current_run_iff :
    (∀ t ∈ transitions (CalibrationState.step x) events .start, t.after.Current) ↔
      ∀ t ∈ transitions (CalibrationState.step x) events .start,
        ¬ t.before.StampsAgain x t.input :=
  forall_after_iff (Q := fun _ => True) (A := fun _ => True)
    (P := fun s event => ¬ CalibrationState.StampsAgain x s event) (fun _ _ _ _ => trivial)
    (fun _ _ _ _ hcurrent => hcurrent.step_iff) trivial CalibrationState.current_start
    fun _ _ => trivial

/-- In a run of both processes every evaluation gets what a readable file holds, if and only if the
service never writes a payload under the time of another one that is still kept. -/
theorem calibration_current_iff :
    (∀ t ∈ transitions (CalibrationState.step x) events .start,
        ∀ f ∈ t.after.file, ∀ content ∈ f.content, t.after.loaded = content) ↔
      ∀ t ∈ transitions (CalibrationState.step x) events .start,
        ¬ t.before.StampsAgain x t.input := by
  rw [← current_run_iff]
  exact forall₂_congr fun t _ => t.after.current_iff.symm

end Runs

/-! ### A pass after a calibration -/

/-- The spread pays for the fees and the slippages, the fees are those of half of the sampled fills
at least, and half of the sampled outcomes slipped no less than the walks through the book. -/
structure CoversSamples (c : PairMarketConfig) (x : CalibrationSettings) (db : CalibrationDb)
    (a : Autocalibration) (now : ℤ) (m : PairMarket) : Prop where
  hasFees : sampledFees x db ≠ []
  hasSlippages : sampledSlippages x db ≠ []
  entryFee : (sampledFees x db).length ≤
    2 * (sampledFees x db).countP fun rate => rate * 10000 ≤ (feesBps c a true).1
  exitFee : (sampledFees x db).length ≤
    2 * (sampledFees x db).countP fun rate => rate * 10000 ≤ (feesBps c a true).2
  slippage : (sampledSlippages x db).length ≤
    2 * (sampledSlippages x db).countP fun slippage =>
      max (pairSlippagesBps c a true m).1 0 + max (pairSlippagesBps c a true m).2 0 ≤ slippage * 2
  spread : (feesBps c a true).1 + (feesBps c a true).2 + max (pairSlippagesBps c a true m).1 0 +
    max (pairSlippagesBps c a true m).2 0 + c.safetyBufferBps + c.targetEdgeBps ≤
      medianSpreadBps c now m

section Pass

variable {c : PairMarketConfig} {x : CalibrationSettings} {db : CalibrationDb} {p : Calibration}
  {a : Autocalibration} {now : ℤ} {m : PairMarket}

theorem medianOf_eq_ok {samples : List ℚ} {q : ℚ} (h : medianOf samples = .ok q) :
    samples ≠ [] ∧ q = median samples := by
  unfold medianOf at h
  split_ifs at h with hnil
  exact ⟨hnil, (Except.ok.inj h).symm⟩

/-- What is written, of enough samples. -/
theorem runAutocalibration_spec (h : runAutocalibration x db = .ok (some p)) :
    sampledFees x db ≠ [] ∧ sampledSlippages x db ≠ [] ∧ x.minFills ≤ p.sampleFills ∧
      p.recommendedFeeEntryBps = median (sampledFees x db) * 10000 ∧
      p.recommendedFeeExitBps = median (sampledFees x db) * 10000 ∧
      p.recommendedTotalSlippageBps = median (sampledSlippages x db) * 2 := by
  unfold runAutocalibration at h
  dsimp only at h
  by_cases hfees : ((feeRates x.minFills db).length : ℤ) < x.minFills
  · rw [if_pos hfees] at h
    cases h
  rw [if_neg hfees] at h
  cases hfee : medianOf (sampledFees x db) with
  | error e =>
    rw [hfee] at h
    cases h
  | ok feeRateMed =>
    rw [hfee] at h
    simp only [bind, Except.bind] at h
    by_cases hslips : ((slippages x.minFills db).length : ℤ) < x.minFills
    · rw [if_pos hslips] at h
      cases h
    rw [if_neg hslips] at h
    cases hslip : medianOf (sampledSlippages x db) with
    | error e =>
      rw [hslip] at h
      cases h
    | ok slipMed =>
      rw [hslip] at h
      obtain rfl := Option.some.inj (Except.ok.inj h)
      obtain ⟨hnefees, rfl⟩ := medianOf_eq_ok hfee
      obtain ⟨hneslips, rfl⟩ := medianOf_eq_ok hslip
      exact ⟨hnefees, hneslips, not_lt.mp hfees, rfl, rfl, rfl⟩

theorem mem_of_mem_limited {α : Type} {limit : ℤ} {l : List α} {e : α} (h : e ∈ limited limit l) :
    e ∈ l := by
  unfold limited at h
  split_ifs at h
  · exact h
  · exact List.mem_of_mem_take h

/-- Slippages are distances. -/
theorem nonneg_of_mem_sampledSlippages {slippage : ℚ} (h : slippage ∈ sampledSlippages x db) :
    0 ≤ slippage := by
  have hmem : slippage ∈ slippages x.minFills db := List.mem_of_mem_take h
  unfold slippages at hmem
  obtain ⟨row, hrow, rfl⟩ := List.mem_map.mp hmem
  obtain ⟨e, -, hrow⟩ := List.mem_filterMap.mp (Newest.mem_sortedBy.mp (mem_of_mem_limited hrow))
  obtain ⟨signal, -, hrow⟩ := Option.bind_eq_some_iff.mp hrow
  split_ifs at hrow
  obtain rfl := Option.some.inj hrow
  exact mul_nonneg (abs_nonneg _) (by norm_num)

/-- The fees are not below the recommended ones. -/
theorem recommended_le_feesBps (c : PairMarketConfig) (p : Calibration) :
    p.recommendedFeeEntryBps ≤ (feesBps c p.stored true).1 ∧
      p.recommendedFeeExitBps ≤ (feesBps c p.stored true).2 :=
  ⟨le_max_of_le_left (le_max_left _ _), le_max_of_le_left (le_max_left _ _)⟩

/-- Half of the fees are covered by fees that are not below their median. -/
theorem covers_of_median_le {rates : List ℚ} (hne : rates ≠ []) {feeBps : ℚ}
    (h : median rates * 10000 ≤ feeBps) :
    rates.length ≤ 2 * rates.countP fun rate => rate * 10000 ≤ feeBps := by
  refine (length_le_countP_le_median hne).trans (Nat.mul_le_mul_left 2 ?_)
  refine List.countP_mono_left fun rate _ hrate => ?_
  rw [decide_eq_true_eq] at hrate ⊢
  exact (mul_le_mul_of_nonneg_right hrate (by norm_num)).trans h

/-- A pair that meets all conditions under a written payload. -/
theorem coversSamples_of_allOk (pstdev : List ℚ → ℚ)
    (hrun : runAutocalibration x db = .ok (some p))
    (h : (PairEvaluation.mk now (measurePair pstdev c p.stored true now m)).AllOk c.toPairConfig) :
    CoversSamples c x db p.stored now m := by
  obtain ⟨hfees, hslips, -, hentry, hexit, htotal⟩ := runAutocalibration_spec hrun
  obtain ⟨-, -, -, hslippage, hspread⟩ := conditions_of_allOk h
  obtain ⟨hentryFee, hexitFee⟩ := recommended_le_feesBps c p
  refine ⟨hfees, hslips, covers_of_median_le hfees (hentry ▸ hentryFee),
    covers_of_median_le hfees (hexit ▸ hexitFee), ?_, hspread⟩
  refine (length_le_countP_ge_median hslips).trans (Nat.mul_le_mul_left 2 ?_)
  refine List.countP_mono_left fun slippage hmem hmedian => ?_
  rw [decide_eq_true_eq] at hmedian ⊢
  have hbound : maxTotalSlippage c p.stored true = max (median (sampledSlippages x db) * 2) 0 := by
    rw [← htotal]
    rfl
  have hnonneg := nonneg_of_mem_sampledSlippages hmem
  calc max (pairSlippagesBps c p.stored true m).1 0 + max (pairSlippagesBps c p.stored true m).2 0
      ≤ max (median (sampledSlippages x db) * 2) 0 := hbound ▸ hslippage
    _ ≤ slippage * 2 := max_le (by linarith) (by linarith)

/-- A payload of enough fills is ready. -/
theorem evaluatePair_stored {pstdev : List ℚ → ℚ} {s : PairState}
    (h : c.minFillsForAutocalibration ≤ p.sampleFills) :
    evaluatePair pstdev c p.stored now m s =
      some (evaluatePairAdmission c.toPairConfig
        ⟨now, measurePair pstdev c p.stored true now m⟩ s) := by
  have hready : decide (c.minFillsForAutocalibration ≤ (p.sampleFills : ℤ)) = true :=
    decide_eq_true h
  rw [← hready]
  rfl

end Pass

/-- After a run of both processes, of which the service asks for no fewer fills than the filter, a
pair that passes under a readable file covers the samples of a calibration of the run. -/
theorem pass_covers_samples (pstdev : List ℚ → ℚ) (c : PairMarketConfig) (x : CalibrationSettings)
    (hfills : c.minFillsForAutocalibration ≤ x.minFills) (events : List CalibrationEvent)
    (f : CalibrationFile) (content : Autocalibration)
    (hfile : (run (CalibrationState.step x) events .start).file = some f)
    (hcontent : f.content = some content) (now : ℤ) (m : PairMarket) (s s' : PairState)
    (d : PairAdmissionDecision)
    (h : evaluatePair pstdev c (run (CalibrationState.step x) events .start).loaded now m s =
      some (d, s'))
    (hpass : d.status = .pass) :
    ∃ mtime db, .calibrate mtime db ∈ events ∧
      CoversSamples c x db (run (CalibrationState.step x) events .start).loaded now m := by
  obtain ⟨mtime, db, p, hevent, hrun, hloaded⟩ :=
    (CalibrationState.written_run x events).loaded hfile hcontent
  rw [hloaded] at h ⊢
  refine ⟨mtime, db, hevent, coversSamples_of_allOk pstdev hrun ?_⟩
  obtain ⟨-, -, henough, -⟩ := runAutocalibration_spec hrun
  rw [evaluatePair_stored (hfills.trans henough)] at h
  obtain rfl := congrArg Prod.fst (Option.some.inj h)
  exact (PairAdmission.gateStatus_eq_pass_iff.mp hpass).1

/-! ### One fill -/

/-- A fill at a tenth of a percent, and an outcome that slipped by twenty basis points. -/
def oneFill : CalibrationDb where
  store :=
    { LifecycleStore.empty with
      signals := Dict.empty.set "s" ⟨"BTCUSDT", none, 100, 1, none⟩
      executionsRaw := Dict.empty.set "e" ⟨none, none, some "s", "BTCUSDT", some "Buy", none,
        501 / 5, 1, 1 / 10, some (1 / 1000), some "USDT", false, 1000, 0⟩
      outcomes := Dict.empty.set "s" ⟨"BTCUSDT", 501 / 5, 101, 1, 60000, 4 / 5, 7 / 10, 70, true,
        true, "take_profit"⟩ }
  closedAtUtc := fun _ => 0

def oneFillSettings : CalibrationSettings := ⟨1, 1 / 2, 1⟩

def calibratedOnce : List CalibrationEvent := [.calibrate 1 oneFill, .load]

/-- The pair with a thin ask passes under the medians of one fill and one outcome. -/
theorem thin_ask_covers_fill :
    CoversSamples { fiftyDollars with minFillsForAutocalibration := 1 } oneFillSettings oneFill
      (run (CalibrationState.step oneFillSettings) calibratedOnce .start).loaded 1000 thinAsk := by
  have hpass : (evaluatePair (fun _ => 0) { fiftyDollars with minFillsForAutocalibration := 1 }
      (run (CalibrationState.step oneFillSettings) calibratedOnce .start).loaded 1000 thinAsk
      .initial).map (·.1.status) = some .pass := by decide +kernel
  obtain ⟨⟨d, s'⟩, hd, hstatus⟩ := Option.map_eq_some_iff.mp hpass
  have hwritten : ((run (CalibrationState.step oneFillSettings) calibratedOnce .start).file.bind
      CalibrationFile.content).isSome = true := by decide +kernel
  obtain ⟨content, hbind⟩ := Option.isSome_iff_exists.mp hwritten
  obtain ⟨f, hfile, hcontent⟩ := Option.bind_eq_some_iff.mp hbind
  obtain ⟨mtime, db, hevent, hcovers⟩ := pass_covers_samples (fun _ => 0)
    { fiftyDollars with minFillsForAutocalibration := 1 } oneFillSettings le_rfl calibratedOnce f
    content hfile hcontent 1000 thinAsk .initial s' d hd hstatus
  rcases List.mem_cons.mp hevent with hevent | hevent
  · injection hevent with hmtime hdb
    rwa [hdb] at hcovers
  · cases List.mem_singleton.mp hevent

end Botik
