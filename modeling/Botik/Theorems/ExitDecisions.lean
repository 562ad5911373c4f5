import Botik.Library.Runs
import Botik.Risk.ExitRules
import Mathlib.Order.Bounds.Basic
import Mathlib.Tactic.Linarith

/-!
# The exit decisions over the life of a position

A position is looked at again and again, and the greatest profit so far is carried from one decision
to the next. There is a reason to exit exactly when one of the rules holds, whatever rule it is
reported under; but a stop is reported as one.

## Main definitions

* `PnlObservation`, `lookForExit` — one look at a position
* `ExitDue` — one of the rules holds
* `StopDue` — one of the two stops holds

## Main results

* `lookForExit_isSome_iff`, `isStop_of_stopDue` — one decision
* `isGreatest_final_peak` — the peak after any observations
* `exit_decisions` — a whole life
-/

namespace Botik

/-- What is known of a position at one look: its profit, if it is known, and its age. -/
structure PnlObservation where
  pnlPct : Option ℚ
  ageSec : ℚ
  deriving DecidableEq, Repr

def PnlObservation.pnlBps (o : PnlObservation) : Option ℚ := o.pnlPct.map (· * 10000)

/-- `decide_exit_reason`, as it is called again and again. -/
def lookForExit (rules : ExitRules) (o : PnlObservation) (peakPnlBps : ℚ) :
    Option ExitReason × ℚ :=
  decideExitReason rules o.pnlPct o.ageSec peakPnlBps

/-! ### The rules -/

namespace ExitRules

variable (rules : ExitRules)

def StopLossDue (pnl : ℚ) : Prop :=
  rules.pnlExitEnabled = true ∧ 0 < rules.stopLossPct ∧ pnl ≤ -rules.stopLossPct

def TakeProfitDue (pnl : ℚ) : Prop :=
  rules.pnlExitEnabled = true ∧ 0 < rules.takeProfitPct ∧ rules.takeProfitPct ≤ pnl

def FallbackStopDue (bps : ℚ) : Prop :=
  0 < rules.fallbackStoplossBps ∧ bps ≤ -rules.fallbackStoplossBps

/-- The peak was reached, and nothing of the profit is left. -/
def BreakevenDue (bps peak : ℚ) : Prop :=
  0 < rules.fallbackBreakevenBps ∧ rules.fallbackBreakevenBps ≤ peak ∧ bps ≤ 0

/-- The profit has fallen from a peak that activated the rule. -/
def TrailingDue (bps peak : ℚ) : Prop :=
  0 < rules.fallbackTrailingBps ∧ max rules.fallbackTrailingActivationBps 0 ≤ peak ∧
    bps ≤ peak - rules.fallbackTrailingBps

/-- One of the two stops holds at a profit. -/
def StopDue (pnl : ℚ) : Prop := rules.StopLossDue pnl ∨ rules.FallbackStopDue (pnl * 10000)

/-- One of the rules holds at a look, with the peak up to this look. -/
def ExitDue (o : PnlObservation) (peak : ℚ) : Prop :=
  (∃ pnl ∈ o.pnlPct, rules.StopDue pnl ∨ rules.TakeProfitDue pnl ∨
    rules.BreakevenDue (pnl * 10000) peak ∨ rules.TrailingDue (pnl * 10000) peak) ∨
  rules.holdTimeoutSec ≤ o.ageSec

end ExitRules

/-- The reasons of the two stops. -/
def ExitReason.IsStop (reason : ExitReason) : Prop :=
  reason = .stopLoss ∨ reason = .fallbackStoploss

/-! ### One decision -/

section Decision

variable {rules : ExitRules} {pnl peak : ℚ} {o : PnlObservation}

theorem pnlExitReason_isSome_iff :
    (pnlExitReason rules (some pnl)).isSome ↔ rules.StopLossDue pnl ∨ rules.TakeProfitDue pnl := by
  unfold pnlExitReason ExitRules.StopLossDue ExitRules.TakeProfitDue
  by_cases henabled : rules.pnlExitEnabled = true
  · simp only [henabled, not_true, if_false, true_and]
    split_ifs with hstop htake
    · simp [hstop]
    · simp [htake]
    · exact iff_of_false (by simp) (not_or.mpr ⟨hstop, htake⟩)
  · simp [henabled]

theorem fallbackExitReason_isSome_iff {bps : ℚ} :
    (fallbackExitReason rules (some bps) peak).isSome ↔
      rules.FallbackStopDue bps ∨ rules.BreakevenDue bps peak ∨ rules.TrailingDue bps peak := by
  unfold fallbackExitReason ExitRules.FallbackStopDue ExitRules.BreakevenDue ExitRules.TrailingDue
  dsimp only
  split_ifs with hstop hbreakeven htrailing
  · have habs := abs_of_pos hstop.1
    rw [habs] at hstop
    simp [hstop]
  · simp [hbreakeven]
  · have habs := abs_of_pos htrailing.1
    rw [habs] at htrailing
    simp [htrailing]
  · -- a limit that counts is positive, so its absolute value is the limit itself
    have hneither : ¬ (0 < rules.fallbackStoplossBps ∧ bps ≤ -rules.fallbackStoplossBps) ∧
        ¬ (0 < rules.fallbackTrailingBps ∧ max rules.fallbackTrailingActivationBps 0 ≤ peak ∧
          bps ≤ peak - rules.fallbackTrailingBps) := by
      constructor
      · rintro ⟨hpos, hle⟩
        exact hstop ⟨hpos, by rwa [abs_of_pos hpos]⟩
      · rintro ⟨hpos, hreached, hle⟩
        exact htrailing ⟨hpos, hreached, by rwa [abs_of_pos hpos]⟩
    exact iff_of_false (by simp) (by simp only [hneither.1, hbreakeven, hneither.2, or_false,
      not_false_eq_true])

/-- The profit of a look counts for its peak. -/
theorem lookForExit_peak (rules : ExitRules) (o : PnlObservation) (peak : ℚ) :
    (lookForExit rules o peak).2 = (o.pnlBps.map (max peak)).getD peak := rfl

/-- There is a reason exactly when a rule holds. -/
theorem lookForExit_isSome_iff :
    (lookForExit rules o peak).1.isSome ↔ rules.ExitDue o (lookForExit rules o peak).2 := by
  have htimeout : (if rules.holdTimeoutSec ≤ o.ageSec then some ExitReason.holdTimeout
      else none).isSome ↔ rules.holdTimeoutSec ≤ o.ageSec := by
    split_ifs with h <;> simp [h]
  unfold lookForExit decideExitReason ExitRules.ExitDue
  dsimp only
  rw [Option.isSome_or, Bool.or_eq_true, Option.isSome_or, Bool.or_eq_true, htimeout]
  cases hpnl : o.pnlPct with
  | none => simp [pnlExitReason, fallbackExitReason]
  | some pnl =>
    rw [pnlExitReason_isSome_iff, Option.map_some, fallbackExitReason_isSome_iff]
    simp only [Option.mem_some_iff, exists_eq_left', ExitRules.StopDue]
    tauto

/-- A stop is reported as a stop: the take profit, which comes before one of them, holds at a
positive profit only. -/
theorem isStop_of_stopDue (hpnl : o.pnlPct = some pnl) (hstop : rules.StopDue pnl) :
    ∃ reason, (lookForExit rules o peak).1 = some reason ∧ reason.IsStop := by
  unfold lookForExit decideExitReason
  rw [hpnl, Option.map_some]
  by_cases hloss : rules.StopLossDue pnl
  · obtain ⟨henabled, hlimit⟩ := hloss
    refine ⟨.stopLoss, ?_, .inl rfl⟩
    simp [pnlExitReason, henabled, hlimit]
  · have hfallback := hstop.resolve_left hloss
    obtain ⟨hpos, hle⟩ := hfallback
    have htake : ¬ rules.TakeProfitDue pnl := by
      rintro ⟨-, htp, hreached⟩
      linarith
    have hnone : pnlExitReason rules (some pnl) = none := by
      rw [← Option.not_isSome_iff_eq_none, pnlExitReason_isSome_iff]
      exact not_or.mpr ⟨hloss, htake⟩
    refine ⟨.fallbackStoploss, ?_, .inr rfl⟩
    dsimp only
    rw [hnone, Option.none_or, fallbackExitReason, abs_of_pos hpos, if_pos ⟨hpos, hle⟩,
      Option.some_or]

end Decision

/-! ### A whole life -/

/-- The profits in basis points that were seen. -/
def seenPnlBps (os : List PnlObservation) : Set ℚ := {bps | ∃ o ∈ os, o.pnlBps = some bps}

theorem seenPnlBps_concat (os : List PnlObservation) (o : PnlObservation) :
    seenPnlBps (os ++ [o]) = seenPnlBps os ∪ {bps | o.pnlBps = some bps} := by
  ext bps
  simp [seenPnlBps, or_and_right, exists_or]

/-- One look adds its profit to what the peak is the greatest of. -/
theorem isGreatest_lookForExit_peak {rules : ExitRules} {seen : Set ℚ} {peak : ℚ}
    (h : IsGreatest seen peak) (o : PnlObservation) :
    IsGreatest (seen ∪ {bps | o.pnlBps = some bps}) (lookForExit rules o peak).2 := by
  rw [lookForExit_peak]
  cases hpnl : o.pnlBps with
  | none => simpa using h
  | some bps =>
    have hone : {b | some bps = some b} = {bps} := by
      ext b
      simp [eq_comm]
    rw [hone]
    exact h.union isGreatest_singleton

/-- The carried peak is the greatest of its first value and the profits seen. -/
theorem isGreatest_final_peak (rules : ExitRules) (peak₀ : ℚ) (os : List PnlObservation) :
    IsGreatest (insert peak₀ (seenPnlBps os)) (Machines.final (lookForExit rules) os peak₀) := by
  induction os using List.reverseRecOn with
  | nil => simp [seenPnlBps]
  | append_singleton os o ih =>
    rw [Machines.final_append, seenPnlBps_concat, Set.insert_union.symm]
    exact isGreatest_lookForExit_peak ih o

/-- Along any observations of a position the carried peak is the greatest of its first value and the
profits seen, there is a reason at the observations at which a rule holds and at no other, and a
stop is reported as a stop. -/
theorem exit_decisions (rules : ExitRules) (peak₀ : ℚ) (os : List PnlObservation) :
    IsGreatest (insert peak₀ (seenPnlBps os)) (Machines.final (lookForExit rules) os peak₀) ∧
      ∀ before o after, os = before ++ o :: after →
        ∃ peak, IsGreatest (insert peak₀ (seenPnlBps (before ++ [o]))) peak ∧
        ∃ reason, (Machines.outputs (lookForExit rules) os peak₀)[before.length]? = some reason ∧
          (reason.isSome ↔ rules.ExitDue o peak) ∧
          ∀ pnl, o.pnlPct = some pnl → rules.StopDue pnl →
            ∃ stop, reason = some stop ∧ stop.IsStop := by
  refine ⟨isGreatest_final_peak rules peak₀ os, ?_⟩
  rintro before o after rfl
  set peak := Machines.final (lookForExit rules) before peak₀ with hpeak
  refine ⟨(lookForExit rules o peak).2, ?_, (lookForExit rules o peak).1, ?_,
    lookForExit_isSome_iff, fun pnl hpnl hstop => isStop_of_stopDue hpnl hstop⟩
  · have hgreatest := isGreatest_final_peak rules peak₀ (before ++ [o])
    rw [Machines.final_append] at hgreatest
    exact hgreatest
  · rw [Machines.outputs_append, List.getElem?_append_right (by simp), Machines.length_outputs,
      Nat.sub_self]
    rfl

/-- A peak of 30 basis points, and the trailing rule when 10 of them are left. -/
example : Machines.outputs (lookForExit ⟨600, true, 1 / 100, 0, 40, 0, 15, 20⟩)
    [⟨some (1 / 1000), 1⟩, ⟨none, 2⟩, ⟨some (3 / 1000), 3⟩, ⟨some (1 / 1000), 4⟩] 0 =
      [none, none, none, some .fallbackTrailing] := by
  decide +kernel

end Botik
