import Botik.Library.Listing
import Botik.Strategy.PairMarket

/-!
# The symbol scanner

`pick_active_symbols` of `strategy/symbol_scanner.py`: the symbols are evaluated one after the
other, and those that pass are ranked by how far their median spread is above the required one. An
evaluation that raises ends the pass; the gates of the symbols before it are set.

## Main definitions

* `PairReading` — what one evaluation reads
* `ScannedSymbol`, `evaluateSymbols`
* `SymbolScore`, `ScannerSummary`, `pickActiveSymbols`
-/

namespace Botik

/-! ### Evaluations -/

/-- What an evaluation reads: the clock, the file of the autocalibration and the market. -/
structure PairReading where
  nowMs : ℤ
  calibration : Autocalibration
  market : PairMarket

/-- What is measured; a number of fills that cannot be read raises. -/
def PairReading.evaluation (pstdev : List ℚ → ℚ) (c : PairMarketConfig) (r : PairReading) :
    Option PairEvaluation :=
  r.calibration.sampleFills.map fun sampleFills =>
    ⟨r.nowMs, measurePair pstdev c r.calibration
      (decide (c.minFillsForAutocalibration ≤ sampleFills)) r.nowMs r.market⟩

/-- A symbol that was evaluated. -/
structure ScannedSymbol where
  symbol : String
  evaluation : PairEvaluation
  decision : PairAdmissionDecision

/-- The evaluations of a pass. -/
def evaluateSymbols (pstdev : List ℚ → ℚ) (c : PairMarketConfig) :
    List (String × PairReading) → (String → PairState) →
      Option (List ScannedSymbol) × (String → PairState)
  | [], pairs => (some [], pairs)
  | (symbol, r) :: rest, pairs =>
    match r.evaluation pstdev c with
    | none => (none, pairs)
    | some e =>
      let decided := evaluatePairAdmission c.toPairConfig e (pairs symbol)
      let others := evaluateSymbols pstdev c rest (Function.update pairs symbol decided.2)
      (others.1.map (⟨symbol, e, decided.1⟩ :: ·), others.2)

/-! ### The ranking -/

structure SymbolScore where
  symbol : String
  scoreBps : ℚ
  reason : String
  deriving DecidableEq, Repr

/-- The score of a symbol: how far its median spread is above the required one. -/
def ScannedSymbol.score (s : ScannedSymbol) : SymbolScore where
  symbol := s.symbol
  scoreBps := s.evaluation.measured.medianSpreadBps - s.decision.minRequiredSpreadBps
  reason := s.decision.reason

/-- `summary`. -/
structure ScannerSummary where
  universeTotal : ℕ
  pass : ℕ
  watch : ℕ
  reject : ℕ
  stale : ℕ
  selected : ℕ
  topSymbol : String
  topScoreBps : ℚ
  deriving DecidableEq, Repr

/-- The symbols that pass. -/
def passing (scanned : List ScannedSymbol) : List ScannedSymbol :=
  scanned.filter fun s => s.decision.status = .pass

/-- The scores, the greatest first. -/
def rankedScores (scanned : List ScannedSymbol) : List SymbolScore :=
  Newest.sortedBy (fun s => OrderDual.toDual s.scoreBps) ((passing scanned).map ScannedSymbol.score)

theorem length_rankedScores (scanned : List ScannedSymbol) :
    (rankedScores scanned).length = (passing scanned).length := by
  unfold rankedScores
  rw [Newest.length_sortedBy, List.length_map]

/-- `pick_active_symbols`, of what was evaluated. -/
def pickActiveSymbols (scannerTopK : ℤ) (scanned : List ScannedSymbol) :
    List String × ScannerSummary :=
  let selectedScores := (rankedScores scanned).take (max scannerTopK 1).toNat
  (selectedScores.map SymbolScore.symbol,
    { universeTotal := scanned.length
      pass := (passing scanned).length
      watch := scanned.countP fun s => s.decision.status = .watch
      reject := scanned.countP fun s => s.decision.status = .reject
      stale := scanned.countP fun s => s.decision.staleData
      selected := selectedScores.length
      topSymbol := (selectedScores.head?.map SymbolScore.symbol).getD ""
      topScoreBps := (selectedScores.head?.map SymbolScore.scoreBps).getD 0 })

/-- Every symbol is counted once. -/
theorem pickActiveSymbols_counts (scannerTopK : ℤ) (scanned : List ScannedSymbol) :
    let summary := (pickActiveSymbols scannerTopK scanned).2
    summary.pass + summary.watch + summary.reject = summary.universeTotal := by
  unfold pickActiveSymbols passing
  dsimp only
  induction scanned with
  | nil => rfl
  | cons s scanned ih =>
    rw [List.filter_cons, List.countP_cons, List.countP_cons, List.length_cons, ← ih]
    cases hstatus : s.decision.status with
    | pass => simp; omega
    | watch => simp; omega
    | reject => simp; omega

end Botik
