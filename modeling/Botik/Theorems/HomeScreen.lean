import Botik.AppService.HomeSummary

/-!
# Dangers on the home screen

The home screen counts the first twenty positions by their status as it is written, while the
summary of the same snapshot takes all of them and ignores case. So it shows every danger exactly
for few positions whose states are written in lower case, in a database that can be read.

## Main definitions

* `Home.openPositions` — the open positions of an account
* `Home.ShowsAll` — the screen agrees with all open positions
* `Home.Displayable` — the exact condition for it

## Main results

* `statusCount_eq` — the counts of the screen
* `shows_all_iff`
-/

namespace Botik.AppService

namespace Home

open FuturesRead

/-- The open positions of an account. -/
def openPositions (accountType : String) (db : FuturesDatabase) : List FuturesPosition :=
  if db.exists_ then (db.positions.getD []).filter fun p => IsOpen accountType p else []

/-- The position is in the state, its status written in any letter case. -/
def InState (state : ProtectionState) (p : FuturesPosition) : Prop :=
  Text.lower p.protectionStatus = state.name

instance (state : ProtectionState) (p : FuturesPosition) : Decidable (InState state p) :=
  inferInstanceAs (Decidable (_ = _))

/-- Unprotected, or with a failed protection. -/
def IsDanger (p : FuturesPosition) : Prop := InState .unprotected p ∨ InState .failed p

/-- The global state is critical whenever an open position is in danger or reconciliation has failed,
and the total and the counts are those over all open positions. -/
structure ShowsAll (accountType : String) (db : FuturesDatabase) (inputs : HomeInputs) : Prop where
  critical : ((∃ p ∈ openPositions accountType db, IsDanger p) ∨ inputs.reconciliation = .failed) →
    (summary accountType db inputs).2.state = .critical
  total : (summary accountType db inputs).1.positionsTotal = (openPositions accountType db).length
  counts : ∀ state, (summary accountType db inputs).1.byState.count state =
    (openPositions accountType db).countP fun p => InState state p

/-- The database can be read if there is an open position, there are at most twenty of them, and the
states the screen knows are written in lower case. -/
structure Displayable (accountType : String) (db : FuturesDatabase) : Prop where
  readable : openPositions accountType db ≠ [] → db.readable = true
  few : (openPositions accountType db).length ≤ positionsLimit
  lowerCase : ∀ p ∈ openPositions accountType db, ∀ state, InState state p →
    p.protectionStatus = state.name

/-! ### The screen -/

/-- A count of the screen. -/
theorem statusCount_eq (positions : List FuturesPosition) (status : String) :
    statusCount positions status = positions.countP fun p => p.protectionStatus = status := by
  have hmap : positions.map (fun p => (p.protectionStatus, 1)) =
      (positions.map FuturesPosition.protectionStatus).map fun status => (status, 1) := by
    simp
  rw [statusCount, statusCounts, hmap, Dict.getD_get?_tally_one, List.count, List.countP_map]
  congr 1

theorem count_buildRisk (positions : List FuturesPosition) (state : ProtectionState) :
    (buildRisk positions).byState.count state =
      positions.countP fun p => p.protectionStatus = state.name := by
  rw [← statusCount_eq]
  cases state <;> rfl

/-- The global state is critical exactly if the screen counts a danger or reconciliation failed. -/
theorem state_deriveGlobal_iff (risk : RiskBlock) (reconciliation : ReconciliationState)
    (spot futures : RuntimeStatus) (pipeline : PipelineState) :
    (deriveGlobal risk reconciliation spot futures pipeline).state = .critical ↔
      0 < risk.byState.count .unprotected ∨ 0 < risk.byState.count .failed ∨
        reconciliation = .failed := by
  simp only [deriveGlobal, countTrue, RiskByState.count, List.countP_cons, List.countP_nil, id_eq,
    decide_eq_true_eq, Bool.or_eq_true, Bool.decide_or]
  split_ifs <;> grind

/-- The positions the screen is made from. -/
theorem positions_readSnapshot (accountType : String) (db : FuturesDatabase) :
    (readSnapshot accountType db).positions =
      if db.readable then ((openPositions accountType db).insertionSort Before).take positionsLimit
      else [] := by
  rw [readSnapshot, openPositions]
  cases hexists : db.exists_ with
  | false => simp [emptySnapshot]
  | true =>
    cases hreadable : db.readable with
    | false => simp [emptySnapshot]
    | true =>
      cases htable : db.positions with
      | none => simp [buildSnapshot, readPositions]
      | some rows => simp [buildSnapshot, readPositions]

/-- A count over the stricter condition is as large only if both conditions agree. -/
theorem of_countP_eq {α : Type*} {p q : α → Bool} (hpq : ∀ x, p x = true → q x = true) {l : List α}
    (h : l.countP p = l.countP q) : ∀ x ∈ l, q x = true → p x = true := by
  induction l with
  | nil => intro x hx; cases hx
  | cons a l ih =>
    have hle : l.countP p ≤ l.countP q := List.countP_mono_left fun x _ => hpq x
    rw [List.countP_cons, List.countP_cons] at h
    have ha : q a = true → p a = true := by
      intro hqa
      by_contra hpa
      rw [if_neg hpa, if_pos hqa] at h
      omega
    have hrest : l.countP p = l.countP q := by
      by_cases hqa : q a = true
      · rw [if_pos (ha hqa), if_pos hqa] at h
        omega
      · rw [if_neg (mt (hpq a) hqa), if_neg hqa] at h
        omega
    intro x hx hqx
    rcases List.mem_cons.mp hx with rfl | hx
    · exact ha hqx
    · exact ih hrest x hx hqx

/-- A status that is the name of a state is in that state. -/
theorem inState_of_eq {p : FuturesPosition} {state : ProtectionState}
    (h : p.protectionStatus = state.name) : InState state p := by
  rw [InState, h]
  cases state <;> rfl

section Shown

variable {accountType : String} {db : FuturesDatabase}

/-- Few positions in a readable database are all shown. -/
theorem shown_perm (hreadable : openPositions accountType db ≠ [] → db.readable = true)
    (hfew : (openPositions accountType db).length ≤ positionsLimit) :
    ((readSnapshot accountType db).positions).Perm (openPositions accountType db) := by
  rw [positions_readSnapshot]
  split_ifs with h
  · rw [List.take_of_length_le (by rwa [List.length_insertionSort])]
    exact List.perm_insertionSort _ _
  · by_cases hnone : openPositions accountType db = []
    · rw [hnone]
    · exact absurd (hreadable hnone) h

/-- If as many positions are shown as there are, they are few and the database is readable. -/
theorem few_of_length_eq
    (h : ((readSnapshot accountType db).positions).length = (openPositions accountType db).length) :
    (openPositions accountType db ≠ [] → db.readable = true) ∧
      (openPositions accountType db).length ≤ positionsLimit := by
  rw [positions_readSnapshot] at h
  split_ifs at h with hreadable
  · rw [List.length_take, List.length_insertionSort] at h
    exact ⟨fun _ => hreadable, min_eq_right_iff.mp h⟩
  · have hnone := List.length_eq_zero_iff.mp h.symm
    exact ⟨fun hne => absurd hnone hne, by simp [hnone]⟩

end Shown

/-- The screen agrees with all open positions exactly if they are few, written in lower case, and in
a database that can be read. -/
theorem shows_all_iff (accountType : String) (db : FuturesDatabase) (inputs : HomeInputs) :
    ShowsAll accountType db inputs ↔ Displayable accountType db := by
  have hcount : ∀ state, (summary accountType db inputs).1.byState.count state =
      (readSnapshot accountType db).positions.countP fun p => p.protectionStatus = state.name :=
    count_buildRisk _
  constructor
  · rintro ⟨-, htotal, hcounts⟩
    obtain ⟨hreadable, hfew⟩ := few_of_length_eq htotal
    refine ⟨hreadable, hfew, fun p hp state hstate => ?_⟩
    -- the count of the screen is over the same positions, with the stricter condition
    have heq := hcounts state
    rw [hcount, (shown_perm hreadable hfew).countP_eq] at heq
    have hall := of_countP_eq (by simpa using fun p => inState_of_eq) heq p hp (by simpa using hstate)
    simpa using hall
  · rintro ⟨hreadable, hfew, hlower⟩
    have hperm := shown_perm hreadable hfew
    have hcounts : ∀ state, (summary accountType db inputs).1.byState.count state =
        (openPositions accountType db).countP fun p => InState state p := by
      intro state
      rw [hcount, hperm.countP_eq]
      apply List.countP_congr
      intro p hp
      simpa using ⟨inState_of_eq, hlower p hp state⟩
    have hpositive : ∀ state, (∃ p ∈ openPositions accountType db, InState state p) →
        0 < (summary accountType db inputs).1.byState.count state := by
      rintro state ⟨p, hp, hstate⟩
      rw [hcounts]
      exact List.countP_pos_iff.mpr ⟨p, hp, by simpa using hstate⟩
    refine ⟨fun hcritical => ?_, hperm.length_eq, hcounts⟩
    apply (state_deriveGlobal_iff _ _ _ _ _).mpr
    rcases hcritical with ⟨p, hp, hunprotected | hfailed⟩ | hreconciliation
    · exact Or.inl (hpositive .unprotected ⟨p, hp, hunprotected⟩)
    · exact Or.inr (Or.inl (hpositive .failed ⟨p, hp, hfailed⟩))
    · exact Or.inr (Or.inr hreconciliation)

/-- One open position, whose status is written with a capital. -/
def capitalized : FuturesDatabase where
  exists_ := true
  readable := true
  positions := some [⟨"UNIFIED", "BTCUSDT", "Buy", 1, none, "Unprotected", false, "2026-01-01"⟩]

/-- Nothing else is wrong. -/
def quietInputs : HomeInputs where
  runtimes := []
  reconciliation := .healthy
  pipeline := .idle

theorem capitalized_hidden :
    ¬ ∀ accountType db inputs, ShowsAll accountType db inputs := by
  intro hclaim
  have hcritical := (hclaim "UNIFIED" capitalized quietInputs).critical (Or.inl ⟨_, by decide +kernel,
    Or.inl (by decide +kernel : InState .unprotected
      ⟨"UNIFIED", "BTCUSDT", "Buy", 1, none, "Unprotected", false, "2026-01-01"⟩)⟩)
  revert hcritical
  decide +kernel

end Home

end Botik.AppService
