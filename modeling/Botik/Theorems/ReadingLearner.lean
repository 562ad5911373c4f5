import Mathlib.Data.List.Induction
import Botik.Library.Runs
import Botik.Library.Rounding
import Botik.Ml.OutcomeLearner

/-!
# What reading the learner does to it

A refresh moves the multipliers a step on, so a reader that refreshes changes what the next one
reads. Reading does nothing exactly where no multiplier has a step to go: it has reached its bound,
or the trades ask for none.

## Main definitions

* `OutcomeLearner.Settled` — no multiplier has a step to go
* `OutcomeLearner.InRange` — the multipliers are tenths within their bounds
* `OutcomeLearner.ReadsChangeNothing`

## Main results

* `inRange_final` — the multipliers stay within their bounds, whoever reads
* `mults_getStats_eq_iff` — one read
* `readsChangeNothing_iff`
-/

namespace Botik

namespace OutcomeLearner

open Machines

variable {l l' : OutcomeLearner} {calls : List Call} {q q' : ℚ}

/-! ### Tenths -/

def Tenths (q : ℚ) : Prop := ∃ n : ℤ, q = n / 10

theorem Tenths.add_div (h : Tenths q) (n : ℤ) : Tenths (q + n / 10) := by
  obtain ⟨m, rfl⟩ := h
  exact ⟨m + n, by push_cast; ring⟩

theorem Tenths.min (h : Tenths q) (h' : Tenths q') : Tenths (min q q') := by
  rcases min_choice q q' with hmin | hmin
  · rwa [hmin]
  · rwa [hmin]

theorem Tenths.max (h : Tenths q) (h' : Tenths q') : Tenths (max q q') := by
  rcases max_choice q q' with hmax | hmax
  · rwa [hmax]
  · rwa [hmax]

/-- Rounding to two digits leaves tenths. -/
theorem Tenths.roundDigits_two (h : Tenths q) : FeatureEngine.roundDigits q 2 = q := by
  obtain ⟨n, rfl⟩ := h
  have hscaled : (n / 10 * 10 ^ 2 : ℚ) = (10 * n : ℤ) := by push_cast; ring
  rw [FeatureEngine.roundDigits, hscaled, Rounding.roundHalfEven_intCast]
  push_cast
  ring

/-! ### The multipliers -/

/-- The multipliers are tenths within their bounds. -/
structure InRange (l : OutcomeLearner) : Prop where
  sl_tenths : Tenths l.stats.optimalSlMult
  tp_tenths : Tenths l.stats.optimalTpMult
  sl_bounds : l.stats.optimalSlMult ∈ Set.Icc (8 / 10) 3
  tp_bounds : l.stats.optimalTpMult ∈ Set.Icc (15 / 10) 4

/-- Nothing but the statistics counts. -/
theorem InRange.congr (h : InRange l) (heq : l'.stats = l.stats) : InRange l' where
  sl_tenths := heq ▸ h.sl_tenths
  tp_tenths := heq ▸ h.tp_tenths
  sl_bounds := heq ▸ h.sl_bounds
  tp_bounds := heq ▸ h.tp_bounds

theorem InRange.of_since (h : InRange l) (n : ℕ) : InRange { l with sinceLastUpdate := n } :=
  h.congr rfl

theorem inRange_initial : InRange initial where
  sl_tenths := ⟨15, by norm_num [initial, OutcomeStats.initial]⟩
  tp_tenths := ⟨25, by norm_num [initial, OutcomeStats.initial]⟩
  sl_bounds := by norm_num [initial, OutcomeStats.initial]
  tp_bounds := by norm_num [initial, OutcomeStats.initial]

theorem InRange.tenths_steppedSlMult (h : InRange l) : Tenths l.steppedSlMult := by
  unfold steppedSlMult
  split_ifs
  · exact (h.sl_tenths.add_div 2).min ⟨30, by norm_num⟩
  · refine Tenths.max ?_ ⟨8, by norm_num⟩
    rw [show (l.stats.optimalSlMult - 1 / 10 : ℚ) = l.stats.optimalSlMult + (-1 : ℤ) / 10 by
      push_cast; ring]
    exact h.sl_tenths.add_div (-1)
  · exact h.sl_tenths

theorem InRange.tenths_steppedTpMult (h : InRange l) : Tenths l.steppedTpMult := by
  unfold steppedTpMult
  split_ifs
  · refine Tenths.max ?_ ⟨15, by norm_num⟩
    rw [show (l.stats.optimalTpMult - 3 / 10 : ℚ) = l.stats.optimalTpMult + (-3 : ℤ) / 10 by
      push_cast; ring]
    exact h.tp_tenths.add_div (-3)
  · exact (h.tp_tenths.add_div 2).min ⟨40, by norm_num⟩
  · exact h.tp_tenths

theorem InRange.steppedSlMult_mem (h : InRange l) :
    l.steppedSlMult ∈ Set.Icc (8 / 10 : ℚ) 3 := by
  obtain ⟨hlow, hhigh⟩ := h.sl_bounds
  unfold steppedSlMult
  split_ifs
  · exact ⟨le_min (by linarith) (by norm_num), min_le_right _ _⟩
  · exact ⟨le_max_right _ _, max_le (by linarith) (by norm_num)⟩
  · exact ⟨hlow, hhigh⟩

theorem InRange.steppedTpMult_mem (h : InRange l) :
    l.steppedTpMult ∈ Set.Icc (15 / 10 : ℚ) 4 := by
  obtain ⟨hlow, hhigh⟩ := h.tp_bounds
  unfold steppedTpMult
  split_ifs
  · exact ⟨le_max_right _ _, max_le (by linarith) (by norm_num)⟩
  · exact ⟨le_min (by linarith) (by norm_num), min_le_right _ _⟩
  · exact ⟨hlow, hhigh⟩

/-- No multiplier has a step to go. -/
structure Settled (l : OutcomeLearner) : Prop where
  sl_up : 6 / 10 < l.exitRatio "sl_hit" → l.stats.optimalSlMult = 3
  sl_down : l.exitRatio "sl_hit" < 2 / 10 → l.exitRatio "tp_hit" < 3 / 10 →
    l.stats.optimalSlMult = 8 / 10
  tp_down : 4 / 10 < l.exitRatio "timeout" → l.stats.optimalTpMult = 15 / 10
  tp_up : l.exitRatio "timeout" ≤ 4 / 10 → 5 / 10 < l.exitRatio "tp_hit" →
    l.stats.optimalTpMult = 4

theorem steppedSlMult_eq_iff (h : InRange l) :
    l.steppedSlMult = l.stats.optimalSlMult ↔
      (6 / 10 < l.exitRatio "sl_hit" → l.stats.optimalSlMult = 3) ∧
        (l.exitRatio "sl_hit" < 2 / 10 → l.exitRatio "tp_hit" < 3 / 10 →
          l.stats.optimalSlMult = 8 / 10) := by
  obtain ⟨hlow, hhigh⟩ := h.sl_bounds
  unfold steppedSlMult
  split_ifs with hup hdown
  · have hnotlow : ¬ l.exitRatio "sl_hit" < 2 / 10 := by linarith
    simp only [hup, hnotlow, true_implies, false_implies, and_true]
    constructor
    · intro heq
      rcases min_choice (l.stats.optimalSlMult + 2 / 10) 3 with hmin | hmin <;> linarith
    · intro heq
      rw [heq]
      norm_num
  · simp only [hup, hdown.1, hdown.2, true_implies, false_implies, true_and]
    constructor
    · intro heq
      rcases max_choice (l.stats.optimalSlMult - 1 / 10) (8 / 10) with hmax | hmax <;> linarith
    · intro heq
      rw [heq]
      norm_num
  · exact iff_of_true rfl ⟨fun h => absurd h hup, fun h h' => absurd ⟨h, h'⟩ hdown⟩

theorem steppedTpMult_eq_iff (h : InRange l) :
    l.steppedTpMult = l.stats.optimalTpMult ↔
      (4 / 10 < l.exitRatio "timeout" → l.stats.optimalTpMult = 15 / 10) ∧
        (l.exitRatio "timeout" ≤ 4 / 10 → 5 / 10 < l.exitRatio "tp_hit" →
          l.stats.optimalTpMult = 4) := by
  obtain ⟨hlow, hhigh⟩ := h.tp_bounds
  unfold steppedTpMult
  split_ifs with hdown hup
  · simp only [hdown, not_le.mpr hdown, true_implies, false_implies, and_true]
    constructor
    · intro heq
      rcases max_choice (l.stats.optimalTpMult - 3 / 10) (15 / 10) with hmax | hmax <;> linarith
    · intro heq
      rw [heq]
      norm_num
  · simp only [hdown, not_lt.mp hdown, hup, true_implies, false_implies, true_and]
    constructor
    · intro heq
      rcases min_choice (l.stats.optimalTpMult + 2 / 10) 4 with hmin | hmin <;> linarith
    · intro heq
      rw [heq]
      norm_num
  · exact iff_of_true rfl ⟨fun h => absurd h hdown, fun _ h => absurd h hup⟩

theorem settled_iff (h : InRange l) :
    Settled l ↔
      l.steppedSlMult = l.stats.optimalSlMult ∧ l.steppedTpMult = l.stats.optimalTpMult := by
  rw [steppedSlMult_eq_iff h, steppedTpMult_eq_iff h]
  constructor
  · rintro ⟨hslup, hsldown, htpdown, htpup⟩
    exact ⟨⟨hslup, hsldown⟩, htpdown, htpup⟩
  · rintro ⟨⟨hslup, hsldown⟩, htpdown, htpup⟩
    exact ⟨hslup, hsldown, htpdown, htpup⟩

/-! ### One call -/

/-- A refresh takes the statistics of the trades, and moves the multipliers by a step. -/
theorem updateStats_eq (h : InRange l) (henough : minSamples ≤ l.trades.length) :
    l.updateStats = { l with stats := { l.freshStats with
      optimalSlMult := l.steppedSlMult, optimalTpMult := l.steppedTpMult } } := by
  have hsome : l.trades ≠ [] := by
    rintro hnil
    simp [hnil, minSamples] at henough
  have hsteps : ({ l with stats := l.freshStats } : OutcomeLearner).suggestSlTpMult =
      (l.steppedSlMult, l.steppedTpMult) := by
    change (if l.trades.length < minSamples then _ else
      (FeatureEngine.roundDigits l.steppedSlMult 2,
        FeatureEngine.roundDigits l.steppedTpMult 2)) = _
    rw [if_neg (not_lt.mpr henough), h.tenths_steppedSlMult.roundDigits_two,
      h.tenths_steppedTpMult.roundDigits_two]
  unfold updateStats
  rw [if_neg hsome]
  simp only [hsteps]

theorem InRange.updateStats (h : InRange l) (henough : minSamples ≤ l.trades.length) :
    InRange l.updateStats := by
  rw [updateStats_eq h henough]
  exact ⟨h.tenths_steppedSlMult, h.tenths_steppedTpMult, h.steppedSlMult_mem,
    h.steppedTpMult_mem⟩

theorem getStats_of_few (h : l.trades.length < minSamples) : l.getStats = (l.stats, l) := by
  unfold getStats
  rw [if_neg (not_le.mpr h)]

theorem getStats_of_enough (h : minSamples ≤ l.trades.length) :
    l.getStats = (l.updateStats.stats, l.updateStats) := by
  unfold getStats
  rw [if_pos h]

theorem getStats_of_updateStats_eq (h : minSamples ≤ l.trades.length) (heq : l.updateStats = l) :
    l.getStats = (l.stats, l) := by
  rw [getStats_of_enough h, heq]

theorem InRange.getStats (h : InRange l) : InRange l.getStats.2 := by
  rcases lt_or_ge l.trades.length minSamples with hfew | henough
  · rwa [getStats_of_few hfew]
  · rw [getStats_of_enough henough]
    exact h.updateStats henough

theorem InRange.call (h : InRange l) (c : Call) : InRange (call c l).2 := by
  cases c with
  | recordTrade trade =>
    change InRange (l.recordTrade trade).2
    have hkept : InRange (l.append trade) := h.congr (append_stats l trade)
    by_cases hdue : retrainEveryN ≤ (l.append trade).sinceLastUpdate ∧
        minSamples ≤ (l.append trade).trades.length
    · rw [recordTrade_of_due l hdue]
      exact (hkept.updateStats hdue.2).of_since 0
    · rw [recordTrade_of_not_due l hdue]
      exact hkept
  | getStats => exact h.getStats
  | getKellyParams => exact h.getStats
  | suggestThreshold currentThreshold => exact h.getStats

/-- Whoever reads, the multipliers stay within their bounds. -/
theorem inRange_final (calls : List Call) : InRange (final call calls initial) :=
  final_of_inv (P := fun _ => True) (fun _ c h _ => h.call c) inRange_initial fun _ _ => trivial

/-! ### Reading -/

/-- The two multipliers. -/
def mults (l : OutcomeLearner) : ℚ × ℚ := (l.stats.optimalSlMult, l.stats.optimalTpMult)

/-- Fewer trades than a refresh takes, or no multiplier has a step to go. -/
def ReadsSafely (l : OutcomeLearner) : Prop := l.trades.length < minSamples ∨ Settled l

/-- A read leaves the multipliers exactly where it finds the learner settled. -/
theorem mults_getStats_eq_iff (h : InRange l) : mults l.getStats.2 = mults l ↔ ReadsSafely l := by
  rcases lt_or_ge l.trades.length minSamples with hfew | henough
  · rw [getStats_of_few hfew]
    exact iff_of_true rfl (Or.inl hfew)
  · rw [getStats_of_enough henough, updateStats_eq h henough, ReadsSafely, settled_iff h]
    simp [mults, not_lt.mpr henough]

/-- The multipliers after a refresh depend on the trades and on the multipliers before. -/
theorem mults_updateStats (h : InRange l) (henough : minSamples ≤ l.trades.length) :
    mults l.updateStats = (l.steppedSlMult, l.steppedTpMult) := by
  rw [updateStats_eq h henough, mults]

/-- A settled learner that was refreshed is not changed by a refresh. -/
theorem getStats_getStats (h : InRange l) (hsafe : ReadsSafely l) :
    l.getStats.2.getStats = l.getStats := by
  rcases lt_or_ge l.trades.length minSamples with hfew | henough
  · rw [getStats_of_few hfew, getStats_of_few hfew]
  · obtain ⟨hsl, htp⟩ := (settled_iff h).mp (hsafe.resolve_left (not_lt.mpr henough))
    have hupdated : l.updateStats = { l with stats := l.freshStats } := by
      rw [updateStats_eq h henough, hsl, htp]
      rfl
    have hkept : InRange { l with stats := l.freshStats } := by
      rw [← hupdated]
      exact h.updateStats henough
    have hagain : ({ l with stats := l.freshStats } : OutcomeLearner).updateStats =
        { l with stats := l.freshStats } := by
      rw [updateStats_eq hkept henough]
      change ({ l with stats := { l.freshStats with
        optimalSlMult := l.steppedSlMult, optimalTpMult := l.steppedTpMult } } : OutcomeLearner) = _
      rw [hsl, htp]
      rfl
    have hread : l.getStats.2 = { l with stats := l.freshStats } := by
      rw [getStats_of_enough henough, hupdated]
    rw [hread, getStats_of_enough henough, hupdated]
    exact getStats_of_updateStats_eq henough hagain

/-! ### Histories -/

/-- The history without its reads. -/
def records (calls : List Call) : List Call := calls.filter fun c => !c.isRead

@[simp] theorem records_append (calls calls' : List Call) :
    records (calls ++ calls') = records calls ++ records calls' := List.filter_append _ _

theorem records_of_isRead {c : Call} (h : c.isRead = true) : records [c] = [] := by
  simp [records, h]

theorem records_recordTrade (trade : LearnedTrade) :
    records [.recordTrade trade] = [.recordTrade trade] := rfl

/-- Two learners of the same trades and multipliers. -/
structure Agrees (l l' : OutcomeLearner) : Prop where
  trades : l.trades = l'.trades
  since : l.sinceLastUpdate = l'.sinceLastUpdate
  mults : mults l = mults l'

theorem Agrees.of_since (htrades : l.trades = l'.trades) (hmults : OutcomeLearner.mults l =
    OutcomeLearner.mults l') (n : ℕ) :
    Agrees { l with sinceLastUpdate := n } { l' with sinceLastUpdate := n } :=
  ⟨htrades, rfl, hmults⟩

theorem Agrees.append (h : Agrees l l') (trade : LearnedTrade) :
    Agrees (l.append trade) (l'.append trade) where
  trades := by rw [OutcomeLearner.append, OutcomeLearner.append, h.trades]
  since := by rw [OutcomeLearner.append, OutcomeLearner.append, h.since]
  mults := by simpa [OutcomeLearner.mults] using h.mults

theorem Agrees.mults_updateStats (h : Agrees l l') (hl : InRange l) (hl' : InRange l')
    (henough : minSamples ≤ l.trades.length) :
    OutcomeLearner.mults l.updateStats = OutcomeLearner.mults l'.updateStats := by
  have hsl := congrArg Prod.fst h.mults
  have htp := congrArg Prod.snd h.mults
  simp only [OutcomeLearner.mults] at hsl htp
  rw [OutcomeLearner.mults_updateStats hl henough,
    OutcomeLearner.mults_updateStats hl' (h.trades ▸ henough)]
  have hratio (exit : String) : l.exitRatio exit = l'.exitRatio exit := by
    rw [exitRatio, exitRatio, h.trades]
  have hstop : l.steppedSlMult = l'.steppedSlMult := by
    rw [steppedSlMult, steppedSlMult, hratio, hratio, hsl]
  have htarget : l.steppedTpMult = l'.steppedTpMult := by
    rw [steppedTpMult, steppedTpMult, hratio, hratio, htp]
  rw [hstop, htarget]

theorem trades_updateStats (l : OutcomeLearner) : l.updateStats.trades = l.trades := by
  rw [updateStats]
  split_ifs
  · rfl
  · rfl

theorem sinceLastUpdate_updateStats (l : OutcomeLearner) :
    l.updateStats.sinceLastUpdate = l.sinceLastUpdate := by
  rw [updateStats]
  split_ifs
  · rfl
  · rfl

theorem Agrees.recordTrade (h : Agrees l l') (hl : InRange l) (hl' : InRange l')
    (trade : LearnedTrade) : Agrees (l.recordTrade trade).2 (l'.recordTrade trade).2 := by
  have happended := h.append trade
  have hin : InRange (l.append trade) := hl.congr (append_stats l trade)
  have hin' : InRange (l'.append trade) := hl'.congr (append_stats l' trade)
  by_cases hdue : retrainEveryN ≤ (l.append trade).sinceLastUpdate ∧
      minSamples ≤ (l.append trade).trades.length
  · have hdue' : retrainEveryN ≤ (l'.append trade).sinceLastUpdate ∧
        minSamples ≤ (l'.append trade).trades.length := by
      rwa [← happended.since, ← happended.trades]
    have hmults := happended.mults_updateStats hin hin' hdue.2
    have htrades : (l.append trade).updateStats.trades = (l'.append trade).updateStats.trades := by
      rw [trades_updateStats, trades_updateStats, happended.trades]
    rw [recordTrade_of_due l hdue, recordTrade_of_due l' hdue']
    exact .of_since htrades hmults 0
  · have hdue' : ¬ (retrainEveryN ≤ (l'.append trade).sinceLastUpdate ∧
        minSamples ≤ (l'.append trade).trades.length) := by
      rwa [← happended.since, ← happended.trades]
    rw [recordTrade_of_not_due l hdue, recordTrade_of_not_due l' hdue']
    exact happended

/-- A read that leaves the multipliers leaves all that later trades are judged by. -/
theorem agrees_getStats (h : InRange l) (hsafe : ReadsSafely l) : Agrees l.getStats.2 l where
  trades := by
    rcases lt_or_ge l.trades.length minSamples with hfew | henough
    · rw [getStats_of_few hfew]
    · rw [getStats_of_enough henough, trades_updateStats]
  since := by
    rcases lt_or_ge l.trades.length minSamples with hfew | henough
    · rw [getStats_of_few hfew]
    · rw [getStats_of_enough henough, sinceLastUpdate_updateStats]
  mults := (mults_getStats_eq_iff h).mpr hsafe

theorem Agrees.trans {l'' : OutcomeLearner} (h : Agrees l l') (h' : Agrees l' l'') : Agrees l l'' :=
  ⟨h.trades.trans h'.trades, h.since.trans h'.since, h.mults.trans h'.mults⟩

/-- Every read of the history finds the learner settled. -/
def ReadsSettled (calls : List Call) : Prop :=
  ∀ before read after, calls = before ++ read :: after → read.isRead = true →
    ReadsSafely (final call before initial)

theorem ReadsSettled.of_append {after : List Call} (h : ReadsSettled (calls ++ after)) :
    ReadsSettled calls := by
  rintro before read rest rfl hread
  exact h before read (rest ++ after) (by simp) hread

/-- The trades alone lead to where a history leads whose reads find the learner settled. -/
theorem agrees_final_records (h : ReadsSettled calls) :
    Agrees (final call calls initial) (final call (records calls) initial) := by
  induction calls using List.reverseRecOn with
  | nil => exact ⟨rfl, rfl, rfl⟩
  | append_singleton calls c ih =>
    have hbefore := ih h.of_append
    have hin := inRange_final calls
    rw [records_append, final_append, final_append, final_cons, final_nil]
    cases hc : c.isRead with
    | true =>
      rw [records_of_isRead hc, call_snd_of_isRead hc]
      exact (agrees_getStats hin (h calls c [] rfl hc)).trans hbefore
    | false =>
      cases c with
      | recordTrade trade =>
        rw [records_recordTrade]
        exact hbefore.recordTrade hin (inRange_final _) trade
      | getStats => cases hc
      | getKellyParams => cases hc
      | suggestThreshold currentThreshold => cases hc

/-- Reading changes nothing: two readings with no trade in between are equal, the multipliers are
those of the trades alone, and they stay within their bounds. -/
structure ReadsChangeNothing (calls : List Call) : Prop where
  stats : ∀ before reads after, calls = before ++ .getStats :: reads ++ .getStats :: after →
    (∀ c ∈ reads, c.isRead = true) →
    (final call (before ++ .getStats :: reads) initial).getStats.1 =
      (final call before initial).getStats.1
  mults : ∀ before after, calls = before ++ after →
    mults (final call before initial) = mults (final call (records before) initial)
  bounds : ∀ before after, calls = before ++ after →
    (final call before initial).stats.optimalSlMult ∈ Set.Icc (8 / 10) 3 ∧
      (final call before initial).stats.optimalTpMult ∈ Set.Icc (15 / 10) 4

/-- Reads of a settled learner stay where the first one leads. -/
theorem final_reads (h : InRange l) (hsafe : ReadsSafely l) {reads : List Call}
    (hreads : ∀ c ∈ reads, c.isRead = true) : final call reads l.getStats.2 = l.getStats.2 := by
  induction reads with
  | nil => rfl
  | cons c reads ih =>
    obtain ⟨hc, hrest⟩ := List.forall_mem_cons.mp hreads
    rw [final_cons, call_snd_of_isRead hc, getStats_getStats h hsafe]
    exact ih hrest

/-- Reading changes nothing over a history if and only if every read of it finds fewer trades than a
refresh takes, or a learner whose multipliers have no step to go. -/
theorem readsChangeNothing_iff (calls : List Call) :
    ReadsChangeNothing calls ↔ ReadsSettled calls := by
  constructor
  · rintro h before read after rfl hread
    have hmults := h.mults (before ++ [read]) after (by simp)
    have hbefore := h.mults before (read :: after) rfl
    rw [records_append, records_of_isRead hread, List.append_nil, ← hbefore, final_append,
      final_cons, final_nil, call_snd_of_isRead hread] at hmults
    exact (mults_getStats_eq_iff (inRange_final before)).mp hmults
  · intro h
    constructor
    · rintro before reads after rfl hreads
      have hsafe : ReadsSafely (final call before initial) :=
        h before .getStats (reads ++ .getStats :: after) (by simp) rfl
      rw [final_append, final_cons, call_snd_of_isRead rfl,
        final_reads (inRange_final before) hsafe hreads,
        getStats_getStats (inRange_final before) hsafe]
    · rintro before after rfl
      exact (agrees_final_records h.of_append).mults
    · rintro before after rfl
      exact ⟨(inRange_final before).sl_bounds, (inRange_final before).tp_bounds⟩

/-- Thirty trades stopped out: each reading moves the stop further away. -/
theorem two_readings_differ : ¬ ∀ calls, ReadsChangeNothing calls := by
  intro h
  have hread := (h (List.replicate 30 (.recordTrade ⟨-1, 60000, "sl_hit"⟩) ++
    [.getStats, .getStats])).stats (List.replicate 30 (.recordTrade ⟨-1, 60000, "sl_hit"⟩)) [] []
      rfl (by simp)
  have hfirst : (final call (List.replicate 30 (.recordTrade ⟨-1, 60000, "sl_hit"⟩))
      initial).getStats.1.optimalSlMult = 17 / 10 := by decide +kernel
  have hsecond : (final call (List.replicate 30 (.recordTrade ⟨-1, 60000, "sl_hit"⟩) ++ [.getStats])
      initial).getStats.1.optimalSlMult = 19 / 10 := by decide +kernel
  rw [hread, hfirst] at hsecond
  norm_num at hsecond

end OutcomeLearner

end Botik
