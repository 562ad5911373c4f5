import Botik.Ml.Labeler
import Botik.Library.Runs

/-!
# What the labeler covers and keeps

The loop over the candles ends one index too early: the newest index with a full window and a full
future is left out, whatever the length and the horizon. The indexes it considers are all of the
others, and none of them looks ahead.

A live sample is stored only where no row has the hash of its features, whatever the scope, the
source and the label of that row, and rows never change. So what a live trade taught is in the
dataset exactly where its hash was free, or where the row there says the same. Likewise a historical
labelling counts the rows it added exactly where all its hashes are distinct and free.

## Main definitions

* `Labeler.IsFull` — an index with a full window and a full future
* `Labeler.CoversFull` — the loop considers these indexes and no others
* `Labeler.LooksBack` — features and labels are made of what they may see
* `LabelCall`, `labelCall`, `samplesAfter`
* `LabelCall.Free` — the hashes of a call are free
* `LiveLabelsWin`

## Main results

* `mem_considered_iff` — the indexes of the loop
* `newest_sample_dropped`
* `keyed_samplesAfter` — every row is stored under the hash of its features
* `inDataset_iff` — the dataset, from the table
* `liveLabelsWin_iff`
-/

namespace Botik

/-! ### What the labeler covers -/

namespace Labeler

variable {l : Labeler} {candles candles' : List PriceCandle} {i : ℕ}

/-- An index with a full window before it and a full future from it on. -/
def IsFull (l : Labeler) (candles : List PriceCandle) (i : ℕ) : Prop :=
  (window candles i).length = minCandles ∧ (l.future candles i).length = l.forwardCandles ∧
    i ≤ candles.length

instance (l : Labeler) (candles : List PriceCandle) (i : ℕ) : Decidable (l.IsFull candles i) :=
  inferInstanceAs (Decidable (_ ∧ _ ∧ _))

theorem isFull_iff :
    l.IsFull candles i ↔ minCandles ≤ i ∧ i + l.forwardCandles ≤ candles.length := by
  unfold IsFull window future minCandles
  simp only [List.length_drop, List.length_take]
  omega

/-- The loop considers the indexes with a full window and a full future, and no others. -/
def CoversFull (l : Labeler) (candles : List PriceCandle) : Prop :=
  ∀ i, i ∈ l.considered candles.length ↔ l.IsFull candles i

/-- The features of an index are made of the candles before it, and its label of the last of their
closes and of the highs and lows of its future. -/
structure LooksBack (l : Labeler) (candles : List PriceCandle) (i : ℕ) : Prop where
  features : ∀ candles', candles'.take i = candles.take i →
    l.featuresAt candles' i = l.featuresAt candles i
  label : ∀ candles',
    candles'[i - 1]?.map PriceCandle.close = candles[i - 1]?.map PriceCandle.close →
    (l.future candles' i).map PriceCandle.high = (l.future candles i).map PriceCandle.high →
    (l.future candles' i).map PriceCandle.low = (l.future candles i).map PriceCandle.low →
    l.labelAt candles' i = l.labelAt candles i

theorem looksBack (l : Labeler) (candles : List PriceCandle) (i : ℕ) : l.LooksBack candles i where
  features candles' h := by
    unfold featuresAt window
    rw [h]
  label candles' hclose hhigh hlow := by
    unfold labelAt
    rw [hhigh, hlow]
    cases hentry : candles[i - 1]? with
    | none =>
      rw [hentry, Option.map_none, Option.map_eq_none_iff] at hclose
      rw [hclose]
    | some entry =>
      rw [hentry, Option.map_some, Option.map_eq_some_iff] at hclose
      obtain ⟨entry', hentry', hsame⟩ := hclose
      rw [hentry']
      dsimp only
      rw [hsame]

/-- The loop considers every full index but the newest one. -/
theorem mem_considered_iff (hlength : minCandles + l.forwardCandles + 1 ≤ candles.length) :
    i ∈ l.considered candles.length ↔
      l.IsFull candles i ∧ i ≠ candles.length - l.forwardCandles := by
  rw [isFull_iff, considered, List.mem_range'_1]
  omega

/-- The newest full index. -/
theorem isFull_newest (hlength : minCandles + l.forwardCandles + 1 ≤ candles.length) :
    l.IsFull candles (candles.length - l.forwardCandles) := by
  rw [isFull_iff]
  omega

end Labeler

/-- For every labeler and every list of candles that is long enough, the loop does not cover the
full indexes: it considers all of them but the newest, and none of them looks ahead. -/
theorem newest_sample_dropped (l : Labeler) (candles : List PriceCandle)
    (hlength : minCandles + l.forwardCandles + 1 ≤ candles.length) :
    ¬ (l.CoversFull candles ∧ ∀ i ∈ l.considered candles.length, l.LooksBack candles i) ∧
      (∀ i, i ∈ l.considered candles.length ↔
        l.IsFull candles i ∧ i ≠ candles.length - l.forwardCandles) ∧
      ∀ i ∈ l.considered candles.length, l.LooksBack candles i := by
  refine ⟨?_, fun i => Labeler.mem_considered_iff hlength, fun i _ => l.looksBack candles i⟩
  rintro ⟨hcovers, -⟩
  have hfull := (hcovers _).mpr (Labeler.isFull_newest hlength)
  exact ((Labeler.mem_considered_iff hlength).mp hfull).2 rfl

/-! ### A minute that rises -/

/-- Thirty minutes at a price of a hundred, and one that rises by a percent. -/
def risingMinute : List PriceCandle :=
  List.replicate 30 ⟨100, 100, 100, 100, 1⟩ ++ [⟨100, 101, 100, 101, 1⟩]

/-- One index of two is considered. -/
theorem risingMinute_considered :
    Labeler.default.considered risingMinute.length = [25] ∧
      ∀ i, i ∈ Labeler.default.considered risingMinute.length ↔
        Labeler.default.IsFull risingMinute i ∧ i ≠ 26 :=
  ⟨by decide, (newest_sample_dropped Labeler.default risingMinute (by decide)).2.1⟩

/-- Only the newest full index sees the rise; it would be labelled, and the loop leaves it out. -/
theorem risingMinute_drops_newest :
    (Labeler.default.sampleAt risingMinute 26).toOption.join.map LabeledSample.label = some 1 ∧
      (Labeler.default.collect risingMinute
        (Labeler.default.considered risingMinute.length)).toOption = some [] ∧
      ¬ (Labeler.default.CoversFull risingMinute ∧
        ∀ i ∈ Labeler.default.considered risingMinute.length,
          Labeler.default.LooksBack risingMinute i) := by
  refine ⟨by decide +kernel, by decide +kernel, ?_⟩
  rintro ⟨hcovers, -⟩
  have hfull : Labeler.default.IsFull risingMinute 26 := by decide
  exact absurd ((hcovers 26).mpr hfull) (by decide)

/-! ### Whether live labels win -/

open Runs

/-- A call that labels. -/
inductive LabelCall
  | historical (l : Labeler) (symbol : String) (candles : List PriceCandle) (now : ℕ → String)
  | live (l : Labeler) (symbol : String) (features : List ℚ) (wasProfitable : Bool) (now : String)

/-- One call; a historical labelling that raises writes nothing. -/
def labelCall (featureHash : List ℚ → String) : LabelCall → StampedSamples → StampedSamples
  | .historical l symbol candles now, table =>
    match l.runStamped featureHash symbol candles now table with
    | .ok (_, table') => table'
    | .error _ => table
  | .live l symbol features wasProfitable now, table =>
    l.labelLiveTrade featureHash symbol features wasProfitable now table

/-- The table after some calls. -/
def samplesAfter (featureHash : List ℚ → String) (calls : List LabelCall) : StampedSamples :=
  run (labelCall featureHash) calls .empty

section Calls

variable {featureHash : List ℚ → String} {calls later : List LabelCall} {c : LabelCall}
  {l : Labeler} {symbol : String} {features : List ℚ} {wasProfitable : Bool}
  {table table' : StampedSamples} {hash : String} {row : StampedRow}

theorem samplesAfter_append :
    samplesAfter featureHash (calls ++ later) =
      run (labelCall featureHash) later (samplesAfter featureHash calls) := run_append

theorem samplesAfter_concat : samplesAfter featureHash (calls ++ [c]) =
    labelCall featureHash c (samplesAfter featureHash calls) := samplesAfter_append

/-! ### One call -/

/-- Rows whose keys are the hashes of their features. -/
def Keyed (featureHash : List ℚ → String) (table : StampedSamples) : Prop :=
  ∀ hash row, table.get? hash = some row → hash = featureHash row.features

/-- A call writes rows under the hashes of their features, and respects the stored ones. -/
theorem exists_writes (featureHash : List ℚ → String) (c : LabelCall) (table : StampedSamples) :
    ∃ rows, labelCall featureHash c table = Dict.insertAll rows table ∧
      ∀ r ∈ rows, r.1 = featureHash r.2.features := by
  cases c with
  | historical l symbol candles now =>
    rcases lt_or_ge candles.length (minCandles + l.forwardCandles + 1) with hfew | henough
    · refine ⟨[], ?_, by simp⟩
      rw [labelCall, Labeler.runStamped_of_few hfew]
      rfl
    · cases hsamples : l.collect candles (l.considered candles.length) with
      | error e =>
        refine ⟨[], ?_, by simp⟩
        rw [labelCall, Labeler.runStamped_of_raised henough hsamples]
        rfl
      | ok samples =>
        refine ⟨l.historicalWrites featureHash symbol samples now, ?_, fun r hr => ?_⟩
        · rw [labelCall, Labeler.runStamped_of_collected henough hsamples]
          rfl
        · obtain ⟨e, -, rfl⟩ := List.mem_map.mp hr
          rfl
  | live l symbol features wasProfitable now =>
    refine ⟨[l.liveWrite featureHash symbol features wasProfitable now], rfl, fun r hr => ?_⟩
    obtain rfl := List.mem_singleton.mp hr
    rfl

theorem Keyed.labelCall (h : Keyed featureHash table) (c : LabelCall) :
    Keyed featureHash (labelCall featureHash c table) := by
  obtain ⟨rows, hwrites, hkeys⟩ := exists_writes featureHash c table
  rw [hwrites]
  intro hash row hget
  rcases Dict.mem_of_get?_insertAll hget with hstored | hnew
  · exact h hash row hstored
  · exact hkeys _ hnew

/-- After any calls every row is stored under the hash of its features. -/
theorem keyed_samplesAfter (featureHash : List ℚ → String) (calls : List LabelCall) :
    Keyed featureHash (samplesAfter featureHash calls) :=
  run_of_inv (P := fun _ _ => True) (fun _ c h _ => h.labelCall c)
    (fun _ _ h => by cases h) fun _ _ => trivial

/-- Stored rows stay. -/
theorem get?_run_labelCall (h : table.get? hash = some row) (calls : List LabelCall) :
    (run (labelCall featureHash) calls table).get? hash = some row := by
  induction calls generalizing table with
  | nil => exact h
  | cons c calls ih =>
    obtain ⟨rows, hwrites, -⟩ := exists_writes featureHash c table
    refine ih ?_
    rw [hwrites]
    exact Dict.get?_insertAll_of_some h rows

/-! ### The dataset -/

/-- A row says what a live trade taught. -/
def Teaches (l : Labeler) (features : List ℚ) (wasProfitable : Bool) (row : StampedRow) : Prop :=
  row.modelScope = l.modelScope ∧ row.features = features ∧
    row.label = Labeler.liveLabel wasProfitable ∧ row.weight = Labeler.liveWeightMult

/-- The dataset of the scope has the features with the label of the trade and the live weight,
whatever the limit is, if it is not reached. -/
def InDataset (l : Labeler) (features : List ℚ) (wasProfitable : Bool) (table : StampedSamples) :
    Prop :=
  ∀ limit, (l.scopeRows none table).length ≤ limit →
    ⟨features, Labeler.liveLabel wasProfitable, Labeler.liveWeightMult⟩ ∈
      l.loadDataset none limit table

theorem mem_scopeRows_none : row ∈ l.scopeRows none table ↔
    row.modelScope = l.modelScope ∧ ∃ hash, table.get? hash = some row := by
  unfold Labeler.scopeRows
  rw [List.mem_filter, List.mem_map]
  constructor
  · rintro ⟨⟨⟨hash, row⟩, hmem, rfl⟩, hscope⟩
    exact ⟨(of_decide_eq_true hscope).1, hash, Dict.mem_entries_iff.mp hmem⟩
  · rintro ⟨hscope, hash, hget⟩
    exact ⟨⟨(hash, row), Dict.mem_entries_iff.mpr hget, rfl⟩, decide_eq_true ⟨hscope, by
      simp [Text.truthy]⟩⟩

theorem weighted_eq_iff : row.weighted = ⟨features, Labeler.liveLabel wasProfitable,
    Labeler.liveWeightMult⟩ ↔ row.features = features ∧
      row.label = Labeler.liveLabel wasProfitable ∧ row.weight = Labeler.liveWeightMult := by
  unfold StampedRow.weighted Labeler.liveWeightMult
  rw [WeightedSample.mk.injEq]
  split_ifs with hzero
  · simp [hzero]
  · rfl

/-- The dataset of a table has what a trade taught exactly where the row of its hash says it. -/
theorem inDataset_iff (h : Keyed featureHash table) : InDataset l features wasProfitable table ↔
    ∃ row, table.get? (featureHash features) = some row ∧
      Teaches l features wasProfitable row := by
  constructor
  · intro hin
    obtain ⟨row, hrow, hweighted⟩ := (Labeler.mem_loadDataset_iff le_rfl).mp (hin _ le_rfl)
    obtain ⟨hscope, hash, hget⟩ := mem_scopeRows_none.mp hrow
    obtain ⟨hfeatures, hlabel, hweight⟩ := weighted_eq_iff.mp hweighted
    refine ⟨row, ?_, hscope, hfeatures, hlabel, hweight⟩
    rw [← hfeatures, ← h hash row hget, hget]
  · rintro ⟨row, hget, hscope, hfeatures, hlabel, hweight⟩ limit hlimit
    exact (Labeler.mem_loadDataset_iff hlimit).mpr ⟨row, mem_scopeRows_none.mpr ⟨hscope, _, hget⟩,
      weighted_eq_iff.mpr ⟨hfeatures, hlabel, hweight⟩⟩

/-! ### The law -/

/-- After a live label the dataset of its scope has it, and a historical labelling reports as many
samples as it added rows. -/
structure LiveLabelsWin (featureHash : List ℚ → String) (calls : List LabelCall) : Prop where
  live : ∀ before l symbol features wasProfitable now between rest,
    calls = before ++ .live l symbol features wasProfitable now :: between ++ rest →
      InDataset l features wasProfitable (samplesAfter featureHash
        (before ++ .live l symbol features wasProfitable now :: between))
  historical : ∀ before l symbol candles now rest,
    calls = before ++ .historical l symbol candles now :: rest → ∀ reported table',
      l.runStamped featureHash symbol candles now (samplesAfter featureHash before) =
          .ok (reported, table') →
        table'.entries.length = (samplesAfter featureHash before).entries.length + reported

/-- The hashes of a call are free: those of the samples of a historical labelling are distinct and
not in the table, and a live trade finds no row, or one that says the same. -/
def LabelCall.Free (featureHash : List ℚ → String) : LabelCall → StampedSamples → Prop
  | .historical l _ candles _, table => ∀ samples,
      minCandles + l.forwardCandles + 1 ≤ candles.length →
        l.collect candles (l.considered candles.length) = .ok samples →
          (samples.map fun sample => featureHash sample.features).Nodup ∧
            ∀ sample ∈ samples, table.get? (featureHash sample.features) = none
  | .live l _ features wasProfitable _, table => ∀ row,
      table.get? (featureHash features) = some row → Teaches l features wasProfitable row

/-- What is under the hash of a live trade after it. -/
theorem get?_labelLiveTrade (now : String) : (l.labelLiveTrade featureHash symbol features
    wasProfitable now table).get? (featureHash features) = some
      ((table.get? (featureHash features)).getD
        (l.liveWrite featureHash symbol features wasProfitable now).2) :=
  Dict.get?_insertIfAbsent_self _ _ _

/-- Right after a live trade the row of its hash says what it taught exactly where the hash was
free. -/
theorem teaches_labelLiveTrade_iff (now : String) :
    (∃ row, (l.labelLiveTrade featureHash symbol features wasProfitable now table).get?
        (featureHash features) = some row ∧ Teaches l features wasProfitable row) ↔
      LabelCall.Free featureHash (.live l symbol features wasProfitable now) table := by
  rw [get?_labelLiveTrade]
  cases hget : table.get? (featureHash features) with
  | none =>
    refine iff_of_true ⟨_, rfl, rfl, rfl, rfl, rfl⟩ fun row hrow => ?_
    rw [hget] at hrow
    cases hrow
  | some row =>
    constructor
    · rintro ⟨row', heq, hteaches⟩ row'' hrow
      rw [hget] at hrow
      obtain rfl := Option.some.inj hrow
      obtain rfl := Option.some.inj heq
      exact hteaches
    · intro hfree
      exact ⟨row, rfl, hfree row hget⟩

/-- A labelling that returns reports the rows it added exactly where its hashes were free. -/
theorem length_runStamped_iff {candles : List PriceCandle} {now : ℕ → String} :
    (∀ reported table', l.runStamped featureHash symbol candles now table =
        .ok (reported, table') → table'.entries.length = table.entries.length + reported) ↔
      LabelCall.Free featureHash (.historical l symbol candles now) table := by
  rcases lt_or_ge candles.length (minCandles + l.forwardCandles + 1) with hfew | henough
  · rw [Labeler.runStamped_of_few hfew]
    refine iff_of_true ?_ fun samples henough => absurd hfew (not_lt.mpr henough)
    intro reported table' heq
    cases heq
    rfl
  · cases hsamples : l.collect candles (l.considered candles.length) with
    | error e =>
      rw [Labeler.runStamped_of_raised henough hsamples]
      refine iff_of_true (fun reported table' heq => by cases heq) fun samples _ hcollected => ?_
      rw [hsamples] at hcollected
      cases hcollected
    | ok samples =>
      rw [Labeler.runStamped_of_collected henough hsamples]
      have hlength := Dict.length_insertAll_eq_iff
        (l.historicalWrites featureHash symbol samples now) table
      rw [Labeler.length_historicalWrites, Labeler.map_fst_historicalWrites] at hlength
      have hkeys : (∀ r ∈ l.historicalWrites featureHash symbol samples now,
          table.get? r.1 = none) ↔
            ∀ sample ∈ samples, table.get? (featureHash sample.features) = none := by
        rw [← List.forall_mem_map (f := Prod.fst) (P := fun hash => table.get? hash = none),
          Labeler.map_fst_historicalWrites, List.forall_mem_map]
      rw [hkeys] at hlength
      constructor
      · intro h samples' _ hcollected
        rw [hsamples] at hcollected
        cases hcollected
        exact hlength.mp (h _ _ rfl)
      · intro hfree reported table' heq
        cases heq
        exact hlength.mpr (hfree samples henough hsamples)

/-- Live labels win and historical labellings report what they added, if and only if every call
finds its hashes free. -/
theorem liveLabelsWin_iff (featureHash : List ℚ → String) (calls : List LabelCall) :
    LiveLabelsWin featureHash calls ↔ ∀ before c rest, calls = before ++ c :: rest →
      c.Free featureHash (samplesAfter featureHash before) := by
  constructor
  · rintro h before c rest rfl
    cases c with
    | historical l symbol candles now =>
      exact length_runStamped_iff.mp (h.historical before l symbol candles now rest rfl)
    | live l symbol features wasProfitable now =>
      have hin := h.live before l symbol features wasProfitable now [] rest (by simp)
      rw [inDataset_iff (keyed_samplesAfter _ _), samplesAfter_concat] at hin
      exact (teaches_labelLiveTrade_iff now).mp hin
  · intro h
    constructor
    · rintro before l symbol features wasProfitable now between rest rfl
      have hfree := h before (.live l symbol features wasProfitable now) (between ++ rest) (by simp)
      obtain ⟨row, hget, hteaches⟩ := (teaches_labelLiveTrade_iff now).mpr hfree
      -- the row stays, whatever is labelled between
      rw [inDataset_iff (keyed_samplesAfter _ _), samplesAfter_append]
      exact ⟨row, get?_run_labelCall hget between, hteaches⟩
    · rintro before l symbol candles now rest rfl
      exact length_runStamped_iff.mpr (h before _ rest rfl)

end Calls

/-! ### A labelled window that is traded -/

/-- A flat price, and a rise by a percent. -/
def flatThenRise : List PriceCandle :=
  List.replicate 25 ⟨100, 100, 100, 100, 1⟩ ++ List.replicate 6 ⟨101, 101, 101, 101, 1⟩

/-- A hash that tells all vectors apart. -/
def textHash (features : List ℚ) : String := toString features

/-- The window of a historical sample is traded without profit: the live label is ignored. -/
theorem live_label_ignored : ¬ ∀ featureHash calls, LiveLabelsWin featureHash calls := by
  intro h
  have hin := (h textHash
    [.historical .default "BTCUSDT" flatThenRise fun _ => "2024-01-01T00:00:00Z",
      .live .default "BTCUSDT" ((Labeler.default.featuresAt flatThenRise 25).getD []) false
        "2024-01-01T01:00:00Z"]).live [_] _ _ _ _ _ [] [] rfl 10 (by decide +kernel)
  revert hin
  decide +kernel

end Botik
