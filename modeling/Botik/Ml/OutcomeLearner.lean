import Botik.Ml.FeatureEngine

/-!
# Learning from closed trades

`OutcomeLearner` of `ml/outcome_learner.py` keeps the last trades and statistics of them. Whenever
the statistics are refreshed, the multipliers of the stop and of the target move by a step from
where they are; every reader of the statistics refreshes them first.

## Main definitions

* `LearnedTrade`, `OutcomeStats`, `OutcomeLearner`
* `OutcomeLearner.suggestSlTpMult`, `updateStats`
* `OutcomeLearner.recordTrade`, `getStats`, `getKellyParams`, `suggestThreshold`
-/

namespace Botik

/-- What is kept of a closed trade. -/
structure LearnedTrade where
  pnl : ℚ
  holdMs : ℤ
  exit : String
  deriving DecidableEq, Repr

structure OutcomeStats where
  total : ℕ
  wins : ℕ
  winRate : ℚ
  avgWinUsdt : ℚ
  avgLossUsdt : ℚ
  totalPnl : ℚ
  avgHoldMs : ℚ
  optimalSlMult : ℚ
  optimalTpMult : ℚ
  deriving DecidableEq, Repr

/-- The defaults of the dataclass. -/
def OutcomeStats.initial : OutcomeStats := ⟨0, 0, 0, 0, 0, 0, 0, 3 / 2, 5 / 2⟩

structure OutcomeLearner where
  /-- At most `window` of them, the newest last. -/
  trades : List LearnedTrade
  sinceLastUpdate : ℕ
  stats : OutcomeStats
  deriving DecidableEq, Repr

/-- `get_kelly_params`. -/
structure KellyParams where
  winRate : ℚ
  avgWin : ℚ
  avgLoss : ℚ
  deriving DecidableEq, Repr

namespace OutcomeLearner

/-- `RETRAIN_EVERY_N`. -/
def retrainEveryN : ℕ := 50

/-- `MIN_SAMPLES`. -/
def minSamples : ℕ := 30

/-- `THRESHOLD_STEP`. -/
def thresholdStep : ℚ := 2 / 100

/-- `MAX_THRESHOLD`. -/
def maxThreshold : ℚ := 75 / 100

/-- `MIN_THRESHOLD`. -/
def minThreshold : ℚ := 45 / 100

/-- `WINDOW`. -/
def window : ℕ := 200

/-- A new learner. -/
def initial : OutcomeLearner := ⟨[], 0, .initial⟩

variable (l : OutcomeLearner)

/-- How many of the trades were closed for a reason, of all of them. -/
def exitRatio (exit : String) : ℚ := l.trades.countP (·.exit = exit) / l.trades.length

/-- The stop multiplier after a step. -/
def steppedSlMult : ℚ :=
  if 6 / 10 < l.exitRatio "sl_hit" then min (l.stats.optimalSlMult + 2 / 10) 3
  else if l.exitRatio "sl_hit" < 2 / 10 ∧ l.exitRatio "tp_hit" < 3 / 10 then
    max (l.stats.optimalSlMult - 1 / 10) (8 / 10)
  else l.stats.optimalSlMult

/-- The target multiplier after a step. -/
def steppedTpMult : ℚ :=
  if 4 / 10 < l.exitRatio "timeout" then max (l.stats.optimalTpMult - 3 / 10) (15 / 10)
  else if 5 / 10 < l.exitRatio "tp_hit" then min (l.stats.optimalTpMult + 2 / 10) 4
  else l.stats.optimalTpMult

/-- `suggest_sl_tp_mult`. -/
def suggestSlTpMult : ℚ × ℚ :=
  if l.trades.length < minSamples then (15 / 10, 25 / 10)
  else (FeatureEngine.roundDigits l.steppedSlMult 2, FeatureEngine.roundDigits l.steppedTpMult 2)

/-- The statistics of the trades, with the multipliers as they are. -/
def freshStats : OutcomeStats :=
  let pnls := l.trades.map LearnedTrade.pnl
  let wins := pnls.filter (0 < ·)
  let losses := pnls.filter (· ≤ 0)
  { total := l.trades.length
    wins := wins.length
    winRate := wins.length / l.trades.length
    avgWinUsdt := if wins ≠ [] then wins.sum / wins.length else 0
    avgLossUsdt := if losses ≠ [] then |losses.sum / losses.length| else 0
    totalPnl := pnls.sum
    avgHoldMs := (l.trades.map LearnedTrade.holdMs).sum / l.trades.length
    optimalSlMult := l.stats.optimalSlMult
    optimalTpMult := l.stats.optimalTpMult }

/-- `_update_stats`. -/
def updateStats : OutcomeLearner :=
  if l.trades = [] then l
  else
    let l' := { l with stats := l.freshStats }
    let (slMult, tpMult) := l'.suggestSlTpMult
    { l' with stats := { l'.stats with optimalSlMult := slMult, optimalTpMult := tpMult } }

/-- The learner with one trade more; the deque drops the oldest. -/
def append (trade : LearnedTrade) : OutcomeLearner :=
  let trades := l.trades ++ [trade]
  { l with
    trades := trades.drop (trades.length - window)
    sinceLastUpdate := l.sinceLastUpdate + 1 }

@[simp] theorem append_stats (trade : LearnedTrade) : (l.append trade).stats = l.stats := by
  rw [append]

/-- `record_trade`, which answers whether the parameters were updated. -/
def recordTrade (trade : LearnedTrade) : Bool × OutcomeLearner :=
  let l' := l.append trade
  if retrainEveryN ≤ l'.sinceLastUpdate ∧ minSamples ≤ l'.trades.length then
    (true, { l'.updateStats with sinceLastUpdate := 0 })
  else (false, l')

theorem recordTrade_of_due {trade : LearnedTrade}
    (h : retrainEveryN ≤ (l.append trade).sinceLastUpdate ∧
      minSamples ≤ (l.append trade).trades.length) :
    l.recordTrade trade = (true, { (l.append trade).updateStats with sinceLastUpdate := 0 }) :=
  if_pos h

theorem recordTrade_of_not_due {trade : LearnedTrade}
    (h : ¬ (retrainEveryN ≤ (l.append trade).sinceLastUpdate ∧
      minSamples ≤ (l.append trade).trades.length)) :
    l.recordTrade trade = (false, l.append trade) :=
  if_neg h

/-- `get_stats`. -/
def getStats : OutcomeStats × OutcomeLearner :=
  let l' := if minSamples ≤ l.trades.length then l.updateStats else l
  (l'.stats, l')

/-- `get_kelly_params`. -/
def getKellyParams : KellyParams × OutcomeLearner :=
  let (s, l') := l.getStats
  (⟨s.winRate, s.avgWinUsdt, s.avgLossUsdt⟩, l')

/-- `suggest_threshold`. -/
def suggestThreshold (currentThreshold : ℚ) : ℚ × OutcomeLearner :=
  let (s, l') := l.getStats
  let threshold :=
    if s.total < minSamples then currentThreshold
    else if s.winRate < 45 / 100 then min (currentThreshold + thresholdStep) maxThreshold
    else if 60 / 100 < s.winRate ∧ 100 ≤ s.total then
      max (currentThreshold - thresholdStep * (1 / 2)) minThreshold
    else currentThreshold
  (threshold, l')

/-- A call of the learner. -/
inductive Call
  | recordTrade (trade : LearnedTrade)
  | getStats
  | getKellyParams
  | suggestThreshold (currentThreshold : ℚ)

/-- What a call returns. -/
inductive Answer
  | updated (b : Bool)
  | stats (s : OutcomeStats)
  | kelly (params : KellyParams)
  | threshold (q : ℚ)
  deriving DecidableEq, Repr

/-- One call. -/
def call : Call → OutcomeLearner → Answer × OutcomeLearner
  | .recordTrade trade, l => (.updated (l.recordTrade trade).1, (l.recordTrade trade).2)
  | .getStats, l => (.stats l.getStats.1, l.getStats.2)
  | .getKellyParams, l => (.kelly l.getKellyParams.1, l.getKellyParams.2)
  | .suggestThreshold currentThreshold, l =>
    (.threshold (l.suggestThreshold currentThreshold).1, (l.suggestThreshold currentThreshold).2)

/-- The calls that only read. -/
def Call.isRead : Call → Bool
  | .recordTrade _ => false
  | _ => true

/-- A read leaves the state `get_stats` leaves. -/
theorem call_snd_of_isRead {c : Call} (h : c.isRead = true) (l : OutcomeLearner) :
    (call c l).2 = l.getStats.2 := by
  cases c with
  | recordTrade trade => cases h
  | getStats => rfl
  | getKellyParams => rfl
  | suggestThreshold currentThreshold => rfl

end OutcomeLearner

end Botik
