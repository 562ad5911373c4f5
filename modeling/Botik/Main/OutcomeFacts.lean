import Botik.Main.RefreshFacts
import Botik.Main.RefreshRaises

/-!
# What a fill does to outcomes and rewards

Two statements of an item record an outcome and reward its signal: the branch of a
position that goes flat, and the synchronisation with all executions of the signal.
Everything else leaves outcomes and rewards alone.

## Main definitions

* `Ledger`, `ledger` — the outcomes, the arms and the rewards of a state
* `Paid`, `PaidInFull` — an outcome with its reward, as far as nothing raised, or all of it
* `ChargedInFull` — all of it, net of the fees of the signal
* `flatOutcome?`, `syncOutcome?` — which signal the two record an outcome of, and its
  gross profit

## Main results

* `ledger_step_cases` — both, in this order, whatever raises
* `ledger_step_of_ok`, `charged_step_of_ok` — both completely, where nothing raises
-/

namespace Botik

open Program Runs

/-- The signal an event rewards. -/
def Event.rewarded? : Event → Option String
  | .rewardArm signalId => some signalId
  | _ => none

/-- The rewarded signals, one entry for each update of an arm. -/
def rewardsOf (w : World) : List String := w.trace.filterMap Event.rewarded?

/-- Outcomes and rewards, the signal of each order and the arm of each signal. -/
structure Ledger where
  orderSignals : Dict String (Option String)
  arm : String → Option (String × String)
  outcomes : Dict String OutcomeRow
  bandit : BanditStore
  rewards : List String

def ledger (x : Context) (w : World) : Ledger where
  orderSignals := w.lifecycle.orderSignalMap
  arm := armOfSignal w.lifecycle.signals x.config.profileIds
  outcomes := w.lifecycle.outcomes
  bandit := w.bandit
  rewards := rewardsOf w

namespace Ledger

/-- The outcome of a signal. -/
def write (l : Ledger) (signalId : String) (row : OutcomeRow) : Ledger :=
  { l with outcomes := l.outcomes.set signalId row }

/-- The reward of a signal, which updates the arm it has. -/
def reward (l : Ledger) (signalId : String) (rewardBps : ℚ) : Ledger :=
  match l.arm signalId with
  | none => l
  | some arm =>
    { l with
      bandit := l.bandit.set arm ((loadState l.bandit arm).update rewardBps)
      rewards := l.rewards ++ [signalId] }

@[simp] theorem arm_write (l : Ledger) (signalId : String) (row : OutcomeRow) :
    (l.write signalId row).arm = l.arm := rfl

@[simp] theorem arm_reward (l : Ledger) (signalId : String) (rewardBps : ℚ) :
    (l.reward signalId rewardBps).arm = l.arm := by
  unfold reward
  split <;> rfl

@[simp] theorem orderSignals_reward (l : Ledger) (signalId : String) (rewardBps : ℚ) :
    (l.reward signalId rewardBps).orderSignals = l.orderSignals := by
  unfold reward
  split <;> rfl

@[simp] theorem outcomes_reward (l : Ledger) (signalId : String) (rewardBps : ℚ) :
    (l.reward signalId rewardBps).outcomes = l.outcomes := by
  unfold reward
  split <;> rfl

end Ledger

/-- An outcome of a signal with its reward, or as much of it as came before an
exception. -/
inductive Paid (signalId : String) (l : Ledger) : Ledger → Prop
  | nothing : Paid signalId l l
  | outcome (row : OutcomeRow) : Paid signalId l (l.write signalId row)
  | all (row : OutcomeRow) (rewardBps : ℚ) :
    Paid signalId l ((l.write signalId row).reward signalId rewardBps)

/-- An outcome of this gross profit, and its reward. -/
def PaidInFull (outcome : String × ℚ) (l l' : Ledger) : Prop :=
  ∃ (row : OutcomeRow) (rewardBps : ℚ), row.grossPnlQuote = outcome.2 ∧
    l' = (l.write outcome.1 row).reward outcome.1 rewardBps

/-- The same for an outcome that may not be due. -/
def PaidIf (outcome : Option (String × ℚ)) (l l' : Ledger) : Prop :=
  match outcome with
  | none => l' = l
  | some outcome => Paid outcome.1 l l'

def PaidInFullIf (outcome : Option (String × ℚ)) (l l' : Ledger) : Prop :=
  match outcome with
  | none => l' = l
  | some outcome => PaidInFull outcome l l'

/-- An outcome of this gross profit, net of the fees of its signal, and its reward. -/
def ChargedInFull (fees : String → ℚ) (outcome : String × ℚ) (l l' : Ledger) : Prop :=
  ∃ (row : OutcomeRow) (rewardBps : ℚ), row.grossPnlQuote = outcome.2 ∧
    row.netPnlQuote = outcome.2 - fees outcome.1 ∧
    l' = (l.write outcome.1 row).reward outcome.1 rewardBps

def ChargedInFullIf (fees : String → ℚ) (outcome : Option (String × ℚ)) (l l' : Ledger) : Prop :=
  match outcome with
  | none => l' = l
  | some outcome => ChargedInFull fees outcome l l'

theorem ChargedInFullIf.paidInFullIf {fees : String → ℚ} {outcome : Option (String × ℚ)}
    {l l' : Ledger} (h : ChargedInFullIf fees outcome l l') : PaidInFullIf outcome l l' := by
  cases outcome with
  | none => exact h
  | some outcome =>
    obtain ⟨row, rewardBps, hgross, -, hledger⟩ := h
    exact ⟨row, rewardBps, hgross, hledger⟩

theorem PaidInFullIf.paidIf {outcome : Option (String × ℚ)} {l l' : Ledger}
    (h : PaidInFullIf outcome l l') : PaidIf outcome l l' := by
  cases outcome with
  | none => exact h
  | some outcome =>
    obtain ⟨row, rewardBps, -, rfl⟩ := h
    exact .all row rewardBps

/-- Nothing, all of an outcome, or part of it where its statements may raise. -/
def PartlyPaid (calm : Prop) (outcome : Option (String × ℚ)) (l l' : Ledger) : Prop :=
  l' = l ∨ PaidInFullIf outcome l l' ∨ ¬ calm ∧ PaidIf outcome l l'

theorem PartlyPaid.paidIf {calm : Prop} {outcome : Option (String × ℚ)} {l l' : Ledger}
    (h : PartlyPaid calm outcome l l') : PaidIf outcome l l' := by
  rcases h with rfl | h | ⟨-, h⟩
  · cases outcome with
    | none => rfl
    | some outcome => exact .nothing
  · exact h.paidIf
  · exact h

/-- None of the statements of one family raises. -/
def CalmAt (faults : Faults) (site : OutcomeSite → Site) : Prop := ∀ s, faults (site s) = none

/-! ### Statements that leave the ledger alone -/

section Frames

variable {x : Context} {env : StepEnv} {faults : Faults} {site : Site} {symbol : String}
  {d : Delivery} {fill : Fill} {signalId : Option String}

theorem keeps_ledger_write {update : World → World}
    (h : ∀ w, ledger x (update w) = ledger x w) :
    Keeps (ledger x) (write faults site update) :=
  moves_write h

theorem arm_upsertSignalReward (db : LifecycleStore) (g : String) (rewardBps : ℚ)
    (profileIds : List String) :
    armOfSignal (db.upsertSignalReward g rewardBps).signals profileIds =
      armOfSignal db.signals profileIds := by
  funext signalId
  unfold armOfSignal LifecycleStore.upsertSignalReward
  rw [Dict.get?_update]
  split_ifs
  · cases db.signals.get? signalId <;> rfl
  · rfl

theorem keeps_ledger_writeReward (site : OutcomeSite → Site) (g : String) (rewardBps : ℚ) :
    Keeps (ledger x) (writeReward faults site g rewardBps) := by
  refine keeps_ledger_write fun w => ?_
  simp only [ledger, arm_upsertSignalReward]
  rfl

theorem keeps_ledger_writeOrderPrices (site : OutcomeSite → Site) (g : String)
    (entryPrice exitPrice : Option ℚ) :
    Keeps (ledger x) (writeOrderPrices env site g entryPrice exitPrice) :=
  keeps_ledger_write fun _ => rfl

theorem keeps_ledger_outcomeDenominator (site : OutcomeSite → Site) (signalId : Option String)
    (denom : ℚ) : Keeps (ledger x) (outcomeDenominator faults site signalId denom) := by
  unfold outcomeDenominator
  split
  · exact moves_pure _
  · refine moves_ite (fun _ => moves_pure _) fun _ => ?_
    exact moves_bind moves_read fun _ => moves_ite (fun _ => moves_pure _) fun _ => moves_pure _

theorem keeps_ledger_flatFees (signalId : Option String) :
    Keeps (ledger x) (flatFees env symbol fill signalId) := by
  unfold flatFees
  split
  · exact moves_read
  · exact moves_pure _

theorem keeps_ledger_closeIfLinear (old : Position) (entryVwap price : ℚ) :
    Keeps (ledger x) (closeIfLinear x env symbol old entryVwap price) := by
  unfold closeIfLinear
  split
  · refine moves_bind (keeps_ledger_write fun _ => rfl) fun _ => ?_
    exact keeps_ledger_write fun _ => rfl
  · exact moves_pure _

theorem keeps_ledger_writeStatus (positionSite protectionSite : ProtectionSite)
    (positionQty entryPrice : ℚ) (plan : Option FuturesProtectionPlan)
    (status : ProtectionStatus) :
    Keeps (ledger x)
      (writeStatus x env positionSite protectionSite symbol positionQty entryPrice plan status) :=
  moves_bind (keeps_ledger_write fun _ => rfl) fun _ => keeps_ledger_write fun _ => rfl

theorem rewardsOf_append_order (w : World) (order : OrderRequest) (accepted : Bool) :
    (w.trace ++ [Event.placeOrder order accepted]).filterMap Event.rewarded? = rewardsOf w := by
  rw [List.filterMap_append]
  exact List.append_nil _

theorem keeps_ledger_closeIfUnstoppable (positionQty : ℚ) (attempt : ProtectionAttempt) :
    Keeps (ledger x) (closeIfUnstoppable x env symbol positionQty attempt) := by
  refine moves_ite (fun _ => ?_) fun _ => moves_pure _
  unfold emergencyClose
  refine moves_bind (moves_modify fun w => ?_) fun _ => ?_
  · -- the order goes into the trace, but it is no reward
    change ledger x _ = ledger x w
    simp only [ledger, rewardsOf]
    rw [rewardsOf_append_order]
    rfl
  · exact moves_ite (fun _ => moves_modify fun _ => rfl) fun _ => moves_pure _

theorem keeps_ledger_protectPosition (executor : Executor) (positionQty entryPrice : ℚ) :
    Keeps (ledger x) (protectPosition x executor env symbol positionQty entryPrice) := by
  unfold protectPosition
  refine moves_bind (moves_modify fun _ => rfl) fun _ => ?_
  refine moves_bind moves_read fun status => ?_
  refine moves_bind moves_get fun w => ?_
  dsimp only
  split
  · exact moves_bind (keeps_ledger_writeStatus _ _ _ _ _ _) fun _ => keeps_ledger_write fun _ => rfl
  · unfold applyPlan
    refine moves_bind (keeps_ledger_writeStatus _ _ _ _ _ _) fun _ => ?_
    refine moves_bind (moves_fromExcept _) fun attempt => ?_
    refine moves_bind (keeps_ledger_closeIfUnstoppable _ _) fun _ => ?_
    exact moves_bind (keeps_ledger_writeStatus _ _ _ _ _ _) fun _ => keeps_ledger_write fun _ => rfl

theorem keeps_ledger_guardPosition (new : Position) (effective : Bool) :
    Keeps (ledger x) (guardPosition x env symbol fill new effective) := by
  unfold guardPosition
  split
  · refine moves_ite (fun _ => ?_) fun _ => moves_pure _
    unfold ensureFuturesProtection
    refine moves_bind moves_get fun w => ?_
    split
    · exact moves_pure _
    · exact moves_ite (fun _ => keeps_ledger_protectPosition _ _ _) fun _ => moves_pure _
  · unfold updateHolding
    refine moves_ite (fun _ => moves_pure _) fun _ => ?_
    refine moves_ite (fun _ => keeps_ledger_write fun _ => rfl) fun _ => ?_
    exact moves_ite (fun _ => keeps_ledger_write fun _ => rfl) fun _ => moves_pure _

theorem keeps_ledger_recordOrderEvent :
    Keeps (ledger x) (recordOrderEvent symbol d signalId fill) := by
  unfold recordOrderEvent
  refine moves_bind (moves_fromExcept _) fun _ => ?_
  exact moves_bind (moves_fromExcept _) fun _ => keeps_ledger_write fun _ => rfl

theorem keeps_ledger_recordFill : Keeps (ledger x) (recordFill symbol d fill) :=
  keeps_ledger_write fun _ => rfl

theorem keeps_ledger_mirrorFill : Keeps (ledger x) (mirrorFill x symbol d fill) := by
  unfold mirrorFill
  refine moves_attempt ?_
  split <;> exact keeps_ledger_write fun _ => rfl

theorem keeps_ledger_markOrderFilled : Keeps (ledger x) (markOrderFilled d) := by
  unfold markOrderFilled
  split
  · exact moves_pure _
  · exact keeps_ledger_write fun _ => rfl

end Frames

/-! ### An outcome and its reward -/

section Payment

variable {x : Context} {env : StepEnv} {faults : Faults} {site site' : OutcomeSite → Site}
  {g : String} {row : OutcomeRow} {rewardBps : ℚ} {w w' : World}

/-- A writing statement has its effect, or none. -/
theorem after_write_cases (faults : Faults) (site : Site) (update : World → World) (w : World) :
    after (write faults site update) w = w ∨ after (write faults site update) w = update w := by
  unfold write
  cases faults site with
  | none => exact Or.inr rfl
  | some fault =>
    cases fault with
    | atExecute => exact Or.inl rfl
    | atCommit => exact Or.inr rfl
    | rolledBack => exact Or.inl rfl

theorem write_eq_ok {site : Site} {update : World → World}
    (h : write faults site update w = .ok () w') : w' = update w := by
  unfold write at h
  cases hfault : faults site with
  | none =>
    rw [hfault] at h
    cases h
    rfl
  | some fault =>
    rw [hfault] at h
    cases fault <;> cases h

theorem read_eq_ok {α : Type} {site : Site} {query : World → α} {a : α}
    (h : read faults site query w = .ok a w') : a = query w ∧ w' = w := by
  rcases read_run_cases faults site query w with hrun | hrun
  · rw [hrun] at h
    cases h
    exact ⟨rfl, rfl⟩
  · rw [hrun] at h
    cases h

/-- The update of an arm, in the ledger. -/
theorem ledger_reward_of_none (h : (ledger x w).arm g = none) (rewardBps : ℚ) :
    (ledger x w).reward g rewardBps = ledger x w := by
  rw [Ledger.reward, h]

theorem ledger_reward_of_some {arm : String × String} (h : (ledger x w).arm g = some arm)
    (rewardBps : ℚ) :
    (ledger x w).reward g rewardBps = ledger x { w with
      bandit := w.bandit.set arm ((loadState w.bandit arm).update rewardBps)
      trace := w.trace ++ [.rewardArm g] } := by
  rw [Ledger.reward, h]
  simp only [ledger, rewardsOf, List.filterMap_append]
  rfl

/-- A reward is given or it is not. -/
theorem ledger_updateReward_cases (w : World) :
    ledger x (after (updateReward x faults site g rewardBps) w) = ledger x w ∨
      ledger x (after (updateReward x faults site g rewardBps) w) =
        (ledger x w).reward g rewardBps := by
  unfold updateReward
  rcases read_run_cases faults (site .banditSignal)
    (fun w => armOfSignal w.lifecycle.signals x.config.profileIds g) w with hread | hread
  · rw [after_bind_of_ok hread]
    cases harm : armOfSignal w.lifecycle.signals x.config.profileIds g with
    | none => exact Or.inl rfl
    | some arm =>
      rw [ledger_reward_of_some harm]
      dsimp only
      rcases after_write_cases faults (site .banditArm) _ w with h | h
      · exact Or.inl (congrArg (ledger x) h)
      · exact Or.inr (congrArg (ledger x) h)
  · rw [after_bind_of_error hread]
    exact Or.inl rfl

/-- Where nothing raises, it is given. -/
theorem ledger_updateReward_of_ok (h : updateReward x faults site g rewardBps w = .ok () w') :
    ledger x w' = (ledger x w).reward g rewardBps := by
  unfold updateReward at h
  obtain ⟨arm, w₁, hread, h⟩ := bind_eq_ok h
  obtain ⟨rfl, rfl⟩ := read_eq_ok hread
  cases harm : armOfSignal w₁.lifecycle.signals x.config.profileIds g with
  | none =>
    rw [harm] at h
    cases h
    exact (ledger_reward_of_none harm rewardBps).symm
  | some arm =>
    rw [harm] at h
    rw [write_eq_ok h, ledger_reward_of_some harm]

/-- The reward is given at the end, or not at all. -/
def Rewarding (x : Context) (g : String) (w w' : World) : Prop :=
  ledger x w' = ledger x w ∨ ∃ rewardBps, ledger x w' = (ledger x w).reward g rewardBps

theorem rewarding_bind {α β : Type} {m : RunM α} {k : α → RunM β} (hm : Keeps (ledger x) m)
    (hk : ∀ a, Moves (Rewarding x g) (k a)) : Moves (Rewarding x g) (m >>= k) := by
  intro w
  rcases after_bind_cases m k w with h | ⟨a, -, h⟩
  · rw [h]
    exact Or.inl (hm w)
  · have hrest := hk a (after m w)
    rw [Rewarding, show ledger x (after m w) = ledger x w from hm w, ← h] at hrest
    exact hrest

theorem rewarding_updateReward :
    Moves (Rewarding x g) (updateReward x faults site g rewardBps) := by
  intro w
  exact (ledger_updateReward_cases w).imp_right fun h => ⟨rewardBps, h⟩

/-- An outcome, and what rewards it. -/
theorem paid_writeOutcome_bind {k : Unit → RunM Unit} (hk : ∀ a, Moves (Rewarding x g) (k a)) :
    Moves (fun w w' => Paid g (ledger x w) (ledger x w'))
      (writeOutcome faults site g row >>= k) := by
  intro w
  have hwrite : after (writeOutcome faults site g row) w = w ∨
      ledger x (after (writeOutcome faults site g row) w) = (ledger x w).write g row :=
    (after_write_cases faults (site .outcome) _ w).imp_right (congrArg (ledger x))
  rcases after_bind_cases (writeOutcome faults site g row) k w with h | ⟨a, hok, h⟩
  · rw [h]
    rcases hwrite with hsame | hwritten
    · rw [hsame]
      exact .nothing
    · rw [hwritten]
      exact .outcome row
  · have hwritten : ledger x (after (writeOutcome faults site g row) w) =
        (ledger x w).write g row := by
      rw [show after (writeOutcome faults site g row) w = _ from write_eq_ok hok]
      rfl
    rw [h]
    rcases hk a (after (writeOutcome faults site g row) w) with hsame | ⟨rewardBps, hrewarded⟩
    · rw [hsame, hwritten]
      exact .outcome row
    · rw [hrewarded, hwritten]
      exact .all row rewardBps

/-- At most this outcome is recorded and rewarded. -/
def Pays (x : Context) (outcome : Option (String × ℚ)) (w w' : World) : Prop :=
  PaidIf outcome (ledger x w) (ledger x w')

theorem Pays.of_ledger_eq {outcome : Option (String × ℚ)} (h : ledger x w' = ledger x w) :
    Pays x outcome w w' := by
  unfold Pays
  rw [h]
  cases outcome with
  | none => exact rfl
  | some outcome => exact .nothing

theorem moves_pays_of_keeps {α : Type} {m : RunM α} {outcome : Option (String × ℚ)}
    (h : Keeps (ledger x) m) : Moves (Pays x outcome) m :=
  fun w => .of_ledger_eq (h w)

theorem moves_pays_bind {α β : Type} {m : RunM α} {k : α → RunM β}
    {outcome : Option (String × ℚ)} (hm : Keeps (ledger x) m)
    (hk : ∀ a, Moves (Pays x outcome) (k a)) : Moves (Pays x outcome) (m >>= k) := by
  intro w
  have hsame : ledger x (after m w) = ledger x w := hm w
  rcases after_bind_cases m k w with h | ⟨a, -, h⟩
  · rw [h]
    exact .of_ledger_eq hsame
  · have hrest : Pays x outcome (after m w) (after (m >>= k) w) := h ▸ hk a (after m w)
    unfold Pays at hrest ⊢
    rwa [hsame] at hrest

end Payment

/-! ### A position that goes flat -/

/-- The outcome a fill records because it leaves no effective position: of the signal of
the position, else of its own, with the profit of closing the old position. -/
def flatOutcome? (x : Context) (symbol : String) (signalId : Option String) (fill : Fill)
    (w : World) : Option (String × ℚ) :=
  let old := w.rt.position symbol
  if IsEffective x.config w.rt symbol (moved old fill).qty fill.price then none
  else (Text.firstTruthy (w.rt.details symbol).signalId signalId).map fun g =>
    (g, closeGrossPnl old (entryPriceOr old fill.price) fill.price)

section Flat

variable {x : Context} {env : StepEnv} {symbol : String} {signalId : Option String}
  {old : Position} {fill : Fill} {w w' : World}

theorem moves_pays_recordFlatOutcome (signalId : Option String) {row : OutcomeRow} {gross : ℚ}
    (hgross : row.grossPnlQuote = gross) :
    Moves (Pays x (signalId.map (·, gross))) (recordFlatOutcome x env signalId row) := by
  subst hgross
  cases signalId with
  | none => exact fun w => .of_ledger_eq rfl
  | some g =>
    refine paid_writeOutcome_bind fun _ => ?_
    refine rewarding_bind (keeps_ledger_writeReward _ _ _) fun _ => ?_
    exact rewarding_bind (keeps_ledger_writeOrderPrices _ _ _ _) fun _ => rewarding_updateReward

theorem chargedInFull_recordFlatOutcome {row : OutcomeRow} {fees : String → ℚ}
    (hnet : ∀ g, signalId = some g → row.netPnlQuote = row.grossPnlQuote - fees g)
    (h : recordFlatOutcome x env signalId row w = .ok () w') :
    ChargedInFullIf fees (signalId.map (·, row.grossPnlQuote)) (ledger x w) (ledger x w') := by
  cases signalId with
  | none =>
    cases h
    exact rfl
  | some g =>
    obtain ⟨_, w₁, hwrite, h⟩ := bind_eq_ok h
    obtain ⟨_, w₂, hreward, h⟩ := bind_eq_ok h
    obtain ⟨_, w₃, hprices, h⟩ := bind_eq_ok h
    have h₁ : ledger x w₁ = (ledger x w).write g row := by
      rw [write_eq_ok hwrite]
      rfl
    have h₂ : ledger x w₂ = ledger x w₁ := (keeps_ledger_writeReward _ _ _).of_ok hreward
    have h₃ : ledger x w₃ = ledger x w₂ := (keeps_ledger_writeOrderPrices _ _ _ _).of_ok hprices
    refine ⟨row, row.netEdgeBps, rfl, hnet g rfl, ?_⟩
    rw [ledger_updateReward_of_ok h, h₃, h₂, h₁]

/-- The signal and the profit of the outcome of a closed position. -/
def closedOutcome? (signalId : Option String) (symbol : String) (old : Position) (fill : Fill)
    (w : World) : Option (String × ℚ) :=
  (Text.firstTruthy (w.rt.details symbol).signalId signalId).map
    (·, closeGrossPnl old (entryPriceOr old fill.price) fill.price)

theorem pays_recordFlat (w : World) :
    Pays x (closedOutcome? signalId symbol old fill w) w
      (after (recordFlat x env symbol signalId old fill) w) := by
  unfold recordFlat
  rw [after_get_bind]
  refine moves_pays_bind (keeps_ledger_flatFees _) (fun fees => ?_) w
  refine moves_pays_bind (keeps_ledger_outcomeDenominator _ _ _) fun denom => ?_
  exact moves_pays_recordFlatOutcome _ rfl

/-- The fees of a signal are those of its executions. -/
theorem flatFees_eq_ok {g : String} {fees : ℚ}
    (h : flatFees env symbol fill (some g) w = .ok fees w') :
    fees = sumSignalFeesQuote g symbol w :=
  (read_eq_ok h).1

theorem chargedInFull_recordFlat (h : recordFlat x env symbol signalId old fill w = .ok () w') :
    ChargedInFullIf (fun g => sumSignalFeesQuote g symbol w)
      (closedOutcome? signalId symbol old fill w) (ledger x w) (ledger x w') := by
  unfold recordFlat at h
  rw [bind_of_ok (get_run w)] at h
  obtain ⟨fees, w₁, hfees, h⟩ := bind_eq_ok h
  obtain ⟨denom, w₂, hdenom, h⟩ := bind_eq_ok h
  have h₁ : ledger x w₁ = ledger x w := (keeps_ledger_flatFees _).of_ok hfees
  have h₂ : ledger x w₂ = ledger x w₁ := (keeps_ledger_outcomeDenominator _ _ _).of_ok hdenom
  rw [← h₁, ← h₂]
  refine chargedInFull_recordFlatOutcome (fun g hg => ?_) h
  rw [hg] at hfees
  exact congrArg (_ - ·) (flatFees_eq_ok hfees)

/-- Settling pays the outcome; what comes after it leaves the ledger alone. -/
theorem ledger_settleFlat (w : World) :
    ledger x (after (settleFlat x env symbol signalId old fill) w) =
      ledger x (after (recordFlat x env symbol signalId old fill) w) := by
  unfold settleFlat
  refine Keeps.after_bind (fun _ => ?_) w
  exact moves_bind (keeps_ledger_closeIfLinear _ _ _) fun _ => moves_modify fun _ => rfl

theorem partlyPaid_settleFlat (w : World) :
    PartlyPaid (CalmAt env.faults .flat) (closedOutcome? signalId symbol old fill w) (ledger x w)
      (ledger x (after (settleFlat x env symbol signalId old fill) w)) := by
  rw [ledger_settleFlat]
  by_cases hcalm : CalmAt env.faults .flat
  · have hcovers : Covers (fun _ => False) env.faults .flat := fun s hs => hs (hcalm s)
    have hraises : RaisesOnly (fun _ => False) (recordFlat x env symbol signalId old fill) :=
      raisesOnly_recordFlat hcovers signalId old fill
    obtain ⟨_, hok⟩ := eq_ok_of_raisesOnly hraises (fun _ h => h) w
    exact Or.inr (Or.inl (chargedInFull_recordFlat hok).paidInFullIf)
  · exact Or.inr (Or.inr ⟨hcalm, pays_recordFlat w⟩)

end Flat

/-! ### Moving the position -/

section Move

variable {x : Context} {symbol : String} {d : Delivery} {signalId : Option String} {fill : Fill}
  {w w' : World}

/-- Only a futures position that stays is protected, so nothing happens to the variables of
a symbol that goes flat. -/
theorem keeps_details_guardPosition {env : StepEnv} (new : Position) :
    Keeps (·.rt.details) (guardPosition x env symbol fill new false) := by
  unfold guardPosition
  cases x.config.marketCategory with
  | linear => exact moves_pure _
  | spot =>
    have hquiet : Moves Quiet (updateHolding x env symbol fill new false) :=
      moves_quiet_updateHolding _ _ _ _
    exact hquiet.mono fun _ _ h => congrArg Runtime.details h.rt

theorem keeps_ledger_followPosition {env : StepEnv} (old : Position) :
    Keeps (ledger x) (followPosition x env symbol signalId fill old true) := by
  unfold followPosition
  refine moves_bind moves_get fun w => ?_
  refine moves_ite (fun _ => moves_modify fun _ => rfl) fun _ => ?_
  exact moves_ite (fun h => absurd rfl h) fun _ => moves_pure _

theorem followPosition_of_flat {env : StepEnv} (old : Position) (w : World) :
    followPosition x env symbol signalId fill old false w =
      settleFlat x env symbol signalId old fill w := by
  unfold followPosition
  rw [bind_of_ok (get_run w)]
  simp

/-- A fill that leaves a position records no outcome. -/
theorem flatOutcome?_of_effective (h : IsEffective x.config w.rt symbol
    (moved (w.rt.position symbol) fill).qty fill.price) :
    flatOutcome? x symbol signalId fill w = none := if_pos h

theorem flatOutcome?_of_flat (h : ¬ IsEffective x.config w.rt symbol
    (moved (w.rt.position symbol) fill).qty fill.price) :
    flatOutcome? x symbol signalId fill w =
      closedOutcome? signalId symbol (w.rt.position symbol) fill w := if_neg h

/-- Moving the position pays at most the outcome of a position that went flat. -/
theorem partlyPaid_movePosition (w : World) :
    PartlyPaid (CalmAt d.env.faults .flat) (flatOutcome? x symbol signalId fill w) (ledger x w)
      (ledger x (after (movePosition x symbol d signalId fill) w)) := by
  let old := w.rt.position symbol
  let w₁ := setPosition symbol (moved old fill) w
  by_cases heff : IsEffective x.config w.rt symbol (moved old fill).qty fill.price
  · rw [after_movePosition signalId (decide_eq_true heff)]
    refine Or.inl ?_
    exact moves_bind (keeps_ledger_guardPosition _ _) (fun _ => keeps_ledger_followPosition _) w₁
  · rw [after_movePosition signalId (decide_eq_false heff), flatOutcome?_of_flat heff]
    have hledger : ledger x (after (guardPosition x d.env symbol fill (moved old fill) false) w₁) =
        ledger x w := keeps_ledger_guardPosition _ _ w₁
    have hdetails : (after (guardPosition x d.env symbol fill (moved old fill) false) w₁).rt.details =
        w.rt.details := keeps_details_guardPosition _ w₁
    rcases after_bind_cases (guardPosition x d.env symbol fill (moved old fill) false) (fun _ =>
      followPosition x d.env symbol signalId fill old false) w₁ with h | ⟨_, -, h⟩
    · rw [h]
      exact Or.inl hledger
    · rw [h, after, followPosition_of_flat]
      generalize after (guardPosition x d.env symbol fill (moved old fill) false) w₁ = w₂ at hledger hdetails
      have hpaid : PartlyPaid (CalmAt d.env.faults .flat)
          (closedOutcome? signalId symbol old fill w₂) (ledger x w₂)
          (ledger x (after (settleFlat x d.env symbol signalId old fill) w₂)) :=
        partlyPaid_settleFlat w₂
      rw [hledger, closedOutcome?, hdetails] at hpaid
      exact hpaid

theorem sumSignalFeesQuote_congr {g : String}
    (h : w'.lifecycle.executionsRaw = w.lifecycle.executionsRaw) :
    sumSignalFeesQuote g symbol w' = sumSignalFeesQuote g symbol w := by
  unfold sumSignalFeesQuote
  rw [h]

/-- The guard of a position leaves the raw executions alone. -/
theorem keeps_executionsRaw_guardPosition {env : StepEnv} (new : Position) (effective : Bool) :
    Keeps (·.lifecycle.executionsRaw) (guardPosition x env symbol fill new effective) := by
  intro w
  have hidle : Idle True symbol w (after (guardPosition x env symbol fill new effective) w) :=
    idle_guardPosition fun _ _ => trivial
  exact congrArg Records.executionsRaw hidle.1

theorem chargedInFull_movePosition (h : movePosition x symbol d signalId fill w = .ok () w') :
    ChargedInFullIf (fun g => sumSignalFeesQuote g symbol w)
      (flatOutcome? x symbol signalId fill w) (ledger x w) (ledger x w') := by
  let old := w.rt.position symbol
  let w₁ := setPosition symbol (moved old fill) w
  unfold movePosition at h
  rw [bind_of_ok (get_run w)] at h
  obtain ⟨_, _, hset, h⟩ := bind_eq_ok h
  cases hset
  obtain ⟨_, w₂, hguard, hfollow⟩ := bind_eq_ok h
  -- the guard of the position touches no outcome
  have hkeeps : Keeps (ledger x) (guardPosition x d.env symbol fill (moved old fill)
      (decide (IsEffective x.config w.rt symbol (moved old fill).qty fill.price))) :=
    keeps_ledger_guardPosition _ _
  have h₂ : ledger x w₂ = ledger x w₁ := hkeeps.of_ok hguard
  by_cases heff : IsEffective x.config w.rt symbol (moved old fill).qty fill.price
  -- a position that is left closes no signal
  · rw [flatOutcome?_of_effective heff]
    change followPosition x d.env symbol signalId fill old (decide (IsEffective x.config w.rt symbol
      (moved old fill).qty fill.price)) w₂ = .ok () w' at hfollow
    rw [decide_eq_true heff] at hfollow
    have h₃ : ledger x w' = ledger x w₂ := (keeps_ledger_followPosition _).of_ok hfollow
    exact h₃.trans h₂
  · rw [flatOutcome?_of_flat heff]
    change followPosition x d.env symbol signalId fill old (decide (IsEffective x.config w.rt symbol
      (moved old fill).qty fill.price)) w₂ = .ok () w' at hfollow
    change guardPosition x d.env symbol fill (moved old fill) (decide (IsEffective x.config w.rt
      symbol (moved old fill).qty fill.price)) w₁ = .ok () w₂ at hguard
    rw [decide_eq_false heff] at hfollow hguard
    have hdetails : w₂.rt.details = w₁.rt.details := (keeps_details_guardPosition _).of_ok hguard
    rw [followPosition_of_flat, settleFlat] at hfollow
    obtain ⟨_, w₃, hrecord, hrest⟩ := bind_eq_ok hfollow
    have hclose : Keeps (ledger x) (do
        closeIfLinear x d.env symbol old (entryPriceOr old fill.price) fill.price
        modify (resetSymbolRuntimeState x.config symbol)) :=
      moves_bind (keeps_ledger_closeIfLinear _ _ _) fun _ => moves_modify fun _ => rfl
    have h₄ : ledger x w' = ledger x w₃ := hclose.of_ok hrest
    have hraw : w₂.lifecycle.executionsRaw = w₁.lifecycle.executionsRaw :=
      (keeps_executionsRaw_guardPosition _ _).of_ok hguard
    -- the fees are summed over the rows, which are those of before
    have hcharged := chargedInFull_recordFlat hrecord
    simp only [sumSignalFeesQuote_congr hraw] at hcharged
    rw [h₂, closedOutcome?, hdetails] at hcharged
    rw [h₄]
    exact hcharged

end Move

/-! ### All executions of a signal -/

namespace Roundtrip

/-- The profit of a round trip that is recorded: something was bought and sold. -/
def gross? (r : Roundtrip) : Option ℚ :=
  if r.buyQty ≤ 0 ∨ r.buyNotional ≤ 0 then none
  else r.exitVwap.bind fun exitVwap =>
    if r.matchedQty ≤ 0 then none else some ((exitVwap - r.entryVwap) * r.matchedQty)

end Roundtrip

/-- The symbol of a round trip, from its first execution. -/
def roundtripSymbol (first : ExecutionRow) (symbolHint : String) : String :=
  Text.strip (Text.upper (if first.symbol = "" then symbolHint else first.symbol))

/-- What executions add up to; nothing without executions or without a symbol. -/
def roundtripOf (symbolHint : String) : List ExecutionRow → Option Roundtrip
  | [] => none
  | first :: rest =>
    if roundtripSymbol first symbolHint = "" then none
    else some (.ofRows (roundtripSymbol first symbolHint) (first :: rest))

/-- The outcome the synchronisation records. -/
def syncOutcome? (symbol : String) (signalId : Option String) (db : LifecycleStore) :
    Option (String × ℚ) :=
  (Text.truthy signalId).bind fun g =>
    ((roundtripOf symbol (db.executionsOfSignal g)).bind Roundtrip.gross?).map (g, ·)

section Sync

variable {x : Context} {env : StepEnv} {g symbol : String} {w w' : World} {r : Roundtrip}

theorem moves_pays_recordRoundtrip (exitVwap : ℚ) :
    Moves (Pays x (some (g, (exitVwap - r.entryVwap) * r.matchedQty)))
      (recordRoundtrip x env g r exitVwap) := by
  unfold recordRoundtrip
  refine moves_pays_bind (keeps_ledger_outcomeDenominator _ _ _) fun denom => ?_
  refine paid_writeOutcome_bind fun _ => ?_
  exact rewarding_bind (keeps_ledger_writeReward _ _ _) fun _ => rewarding_updateReward

theorem chargedInFull_recordRoundtrip {fees : String → ℚ} (hfees : fees g = r.totalFeesQuote)
    {exitVwap : ℚ} (h : recordRoundtrip x env g r exitVwap w = .ok () w') :
    ChargedInFullIf fees (some (g, (exitVwap - r.entryVwap) * r.matchedQty)) (ledger x w)
      (ledger x w') := by
  unfold recordRoundtrip at h
  obtain ⟨denom, w₁, hdenom, h⟩ := bind_eq_ok h
  obtain ⟨_, w₂, hwrite, h⟩ := bind_eq_ok h
  obtain ⟨_, w₃, hreward, h⟩ := bind_eq_ok h
  have h₁ : ledger x w₁ = ledger x w := (keeps_ledger_outcomeDenominator _ _ _).of_ok hdenom
  have h₃ : ledger x w₃ = ledger x w₂ := (keeps_ledger_writeReward _ _ _).of_ok hreward
  have h₄ := ledger_updateReward_of_ok h
  rw [h₃, write_eq_ok hwrite] at h₄
  change ledger x w' = ((ledger x w₁).write g _).reward g _ at h₄
  rw [h₁] at h₄
  exact ⟨_, _, by rfl, by rw [hfees], h₄⟩

theorem gross?_of_no_buy (h : r.buyQty ≤ 0 ∨ r.buyNotional ≤ 0) : r.gross? = none := if_pos h

theorem gross?_of_unsold (h : r.exitVwap = none) : r.gross? = none := by
  unfold Roundtrip.gross?
  rw [h]
  split_ifs <;> rfl

theorem gross?_of_unmatched (h : r.matchedQty ≤ 0) : r.gross? = none := by
  unfold Roundtrip.gross?
  cases r.exitVwap <;> simp [h]

theorem gross?_of_matched {exitVwap : ℚ} (hbuy : ¬ (r.buyQty ≤ 0 ∨ r.buyNotional ≤ 0))
    (hexit : r.exitVwap = some exitVwap) (hmatched : ¬ r.matchedQty ≤ 0) :
    r.gross? = some ((exitVwap - r.entryVwap) * r.matchedQty) := by
  rw [Roundtrip.gross?, if_neg hbuy, hexit, Option.bind_some, if_neg hmatched]

theorem moves_pays_syncRoundtrip :
    Moves (Pays x (r.gross?.map (g, ·))) (syncRoundtrip x env g r) := by
  unfold syncRoundtrip
  refine moves_ite (fun _ => moves_pays_of_keeps (moves_pure _)) fun hbuy => ?_
  refine moves_pays_bind (keeps_ledger_writeOrderPrices _ _ _ _) fun _ => ?_
  cases hexit : r.exitVwap with
  | none => exact moves_pays_of_keeps (moves_pure _)
  | some exitVwap =>
    refine moves_ite (fun _ => moves_pays_of_keeps (moves_pure _)) fun hmatched => ?_
    rw [gross?_of_matched hbuy hexit hmatched]
    exact moves_pays_recordRoundtrip exitVwap

theorem chargedInFull_syncRoundtrip {fees : String → ℚ} (hfees : fees g = r.totalFeesQuote)
    (h : syncRoundtrip x env g r w = .ok () w') :
    ChargedInFullIf fees (r.gross?.map (g, ·)) (ledger x w) (ledger x w') := by
  unfold syncRoundtrip at h
  by_cases hbuy : r.buyQty ≤ 0 ∨ r.buyNotional ≤ 0
  · rw [if_pos hbuy] at h
    cases h
    rw [gross?_of_no_buy hbuy]
    exact rfl
  · rw [if_neg hbuy] at h
    obtain ⟨_, w₁, hprices, h⟩ := bind_eq_ok h
    have h₁ : ledger x w₁ = ledger x w := (keeps_ledger_writeOrderPrices _ _ _ _).of_ok hprices
    cases hexit : r.exitVwap with
    | none =>
      rw [hexit] at h
      cases h
      rw [gross?_of_unsold hexit]
      exact h₁
    | some exitVwap =>
      rw [hexit] at h
      dsimp only at h
      by_cases hmatched : r.matchedQty ≤ 0
      · rw [if_pos hmatched] at h
        cases h
        rw [gross?_of_unmatched hmatched]
        exact h₁
      · rw [if_neg hmatched] at h
        rw [gross?_of_matched hbuy hexit hmatched, ← h₁]
        exact chargedInFull_recordRoundtrip hfees h

/-- The synchronisation, once the executions are read. -/
def syncRows (x : Context) (env : StepEnv) (g symbol : String) (rows : List ExecutionRow) :
    RunM Unit :=
  match roundtripOf symbol rows with
  | none => pure ()
  | some r => syncRoundtrip x env g r

theorem syncSignalOutcome_of_truthy {signalId : Option String}
    (h : Text.truthy signalId = some g) :
    syncSignalOutcomeFromExecutions x env signalId symbol =
      (read env.faults (.sync .executions) fun w => w.lifecycle.executionsOfSignal g) >>=
        syncRows x env g symbol := by
  unfold syncSignalOutcomeFromExecutions
  rw [h]
  dsimp only
  congr 1
  funext rows
  unfold syncRows roundtripOf roundtripSymbol
  cases rows with
  | nil => rfl
  | cons first rest =>
    dsimp only
    generalize Text.strip (Text.upper (if first.symbol = "" then symbol else first.symbol)) = s
    by_cases hsymbol : s = ""
    · rw [if_pos hsymbol, if_pos hsymbol]
    · rw [if_neg hsymbol, if_neg hsymbol]

theorem moves_pays_syncRows (rows : List ExecutionRow) :
    Moves (Pays x (((roundtripOf symbol rows).bind Roundtrip.gross?).map (g, ·)))
      (syncRows x env g symbol rows) := by
  unfold syncRows
  cases roundtripOf symbol rows with
  | none => exact moves_pays_of_keeps (moves_pure _)
  | some r => exact moves_pays_syncRoundtrip

theorem chargedInFull_syncRows {fees : String → ℚ} {rows : List ExecutionRow}
    (hfees : ∀ r, roundtripOf symbol rows = some r → fees g = r.totalFeesQuote)
    (h : syncRows x env g symbol rows w = .ok () w') :
    ChargedInFullIf fees (((roundtripOf symbol rows).bind Roundtrip.gross?).map (g, ·))
      (ledger x w) (ledger x w') := by
  unfold syncRows at h
  cases hrows : roundtripOf symbol rows with
  | none =>
    rw [hrows] at h
    cases h
    exact rfl
  | some r =>
    rw [hrows] at h
    exact chargedInFull_syncRoundtrip (hfees r hrows) h

theorem pays_syncSignalOutcome (signalId : Option String) (w : World) :
    Pays x (syncOutcome? symbol signalId w.lifecycle) w
      (after (syncSignalOutcomeFromExecutions x env signalId symbol) w) := by
  unfold syncOutcome?
  cases hsignal : Text.truthy signalId with
  | none =>
    unfold syncSignalOutcomeFromExecutions
    rw [hsignal]
    exact .of_ledger_eq rfl
  | some g =>
    rw [syncSignalOutcome_of_truthy hsignal]
    rcases read_run_cases env.faults (.sync .executions)
      (fun w => w.lifecycle.executionsOfSignal g) w with hread | hread
    · rw [after_bind_of_ok hread]
      exact moves_pays_syncRows _ w
    · rw [after_bind_of_error hread]
      exact .of_ledger_eq rfl

/-- The fees of all executions of a signal that the synchronisation counts. -/
def roundtripFees (symbol : String) (db : LifecycleStore) (g : String) : ℚ :=
  ((roundtripOf symbol (db.executionsOfSignal g)).map Roundtrip.totalFeesQuote).getD 0

theorem chargedInFull_syncSignalOutcome {signalId : Option String}
    (h : syncSignalOutcomeFromExecutions x env signalId symbol w = .ok () w') :
    ChargedInFullIf (roundtripFees symbol w.lifecycle) (syncOutcome? symbol signalId w.lifecycle)
      (ledger x w) (ledger x w') := by
  unfold syncOutcome?
  cases hsignal : Text.truthy signalId with
  | none =>
    unfold syncSignalOutcomeFromExecutions at h
    rw [hsignal] at h
    cases h
    exact rfl
  | some g =>
    rw [syncSignalOutcome_of_truthy hsignal] at h
    obtain ⟨rows, w₁, hread, h⟩ := bind_eq_ok h
    obtain ⟨rfl, rfl⟩ := read_eq_ok hread
    refine chargedInFull_syncRows (fun r hr => ?_) h
    rw [roundtripFees, hr]
    rfl

end Sync

/-! ### A whole item -/

section Item

variable {x : Context} {symbol : String} {d : Delivery} {signalId : Option String} {fill : Fill}
  {w w' : World}

/-- Only the raw executions decide what the synchronisation records. -/
theorem syncOutcome?_congr {db db' : LifecycleStore} (h : db'.executionsRaw = db.executionsRaw) :
    syncOutcome? symbol signalId db' = syncOutcome? symbol signalId db := by
  unfold syncOutcome? LifecycleStore.executionsOfSignal
  rw [h]

theorem partlyPaid_syncSignalOutcome (signalId : Option String) (w : World) :
    PartlyPaid (CalmAt d.env.faults .sync) (syncOutcome? symbol signalId w.lifecycle) (ledger x w)
      (ledger x (after (syncSignalOutcomeFromExecutions x d.env signalId symbol) w)) := by
  by_cases hcalm : CalmAt d.env.faults .sync
  · have hcovers : Covers (fun _ => False) d.env.faults .sync := fun s hs => hs (hcalm s)
    obtain ⟨_, hok⟩ := eq_ok_of_raisesOnly
      (raisesOnly_syncSignalOutcome (x := x) hcovers signalId symbol) (fun _ h => h) w
    exact Or.inr (Or.inl (chargedInFull_syncSignalOutcome hok).paidInFullIf)
  · exact Or.inr (Or.inr ⟨hcalm, pays_syncSignalOutcome signalId w⟩)

theorem partlyPaid_afterFill (w : World) :
    PartlyPaid (CalmAt d.env.faults .sync) (syncOutcome? symbol signalId w.lifecycle) (ledger x w)
      (ledger x (after (afterFill x symbol d signalId fill) w)) := by
  have hmirror : ledger x (after (mirrorFill x symbol d fill) w) = ledger x w :=
    keeps_ledger_mirrorFill w
  have hquiet : Quiet w (after (mirrorFill x symbol d fill) w) := moves_quiet_mirrorFill symbol w
  unfold afterFill
  rcases after_bind_cases (mirrorFill x symbol d fill) _ w with h | ⟨_, -, h⟩
  · rw [h]
    exact Or.inl hmirror
  rw [h, ← hmirror, ← syncOutcome?_congr hquiet.executionsRaw]
  generalize after (mirrorFill x symbol d fill) w = w₁
  have hmark : ledger x (after (markOrderFilled d) w₁) = ledger x w₁ := keeps_ledger_markOrderFilled w₁
  have hraw₁ := (moves_quiet_markOrderFilled (d := d) w₁).executionsRaw
  rcases after_bind_cases (markOrderFilled d) _ w₁ with h | ⟨_, -, h⟩
  · rw [h]
    exact Or.inl hmark
  rw [h, ← hmark, ← syncOutcome?_congr hraw₁]
  exact partlyPaid_syncSignalOutcome signalId _

theorem roundtripFees_congr {db db' : LifecycleStore} (h : db'.executionsRaw = db.executionsRaw) :
    roundtripFees symbol db' = roundtripFees symbol db := by
  funext g
  unfold roundtripFees LifecycleStore.executionsOfSignal
  rw [h]

theorem chargedInFull_afterFill (h : afterFill x symbol d signalId fill w = .ok () w') :
    ChargedInFullIf (roundtripFees symbol w.lifecycle) (syncOutcome? symbol signalId w.lifecycle)
      (ledger x w) (ledger x w') := by
  unfold afterFill at h
  obtain ⟨_, w₁, hmirror, h⟩ := bind_eq_ok h
  obtain ⟨_, w₂, hmark, h⟩ := bind_eq_ok h
  have h₁ : ledger x w₁ = ledger x w := keeps_ledger_mirrorFill.of_ok hmirror
  have h₂ : ledger x w₂ = ledger x w₁ := keeps_ledger_markOrderFilled.of_ok hmark
  have hraw₁ := ((moves_quiet_mirrorFill symbol).of_ok hmirror).executionsRaw
  have hraw₂ := (moves_quiet_markOrderFilled.of_ok hmark).executionsRaw
  have hcharged := chargedInFull_syncSignalOutcome h
  rwa [syncOutcome?_congr (hraw₂.trans hraw₁), roundtripFees_congr (hraw₂.trans hraw₁), h₂, h₁]
    at hcharged

/-- Moving the position leaves the raw executions alone. -/
theorem keeps_executionsRaw_movePosition :
    Keeps (·.lifecycle.executionsRaw) (movePosition x symbol d signalId fill) := by
  intro _
  exact congrArg Records.executionsRaw (idle_movePosition (c := True) signalId fun _ => trivial).1

/-- A recorded item first pays for a position that goes flat, then synchronises its
signal. -/
theorem ledger_applyRecorded_cases (w : World) :
    ∃ l, PartlyPaid (CalmAt d.env.faults .flat) (flatOutcome? x symbol signalId fill w)
        (ledger x w) l ∧
      PartlyPaid (CalmAt d.env.faults .sync) (syncOutcome? symbol signalId w.lifecycle) l
        (ledger x (after (applyRecorded x symbol d signalId fill) w)) := by
  let w₁ := after (movePosition x symbol d signalId fill) w
  refine ⟨ledger x w₁, partlyPaid_movePosition w, ?_⟩
  have hraw₁ : w₁.lifecycle.executionsRaw = w.lifecycle.executionsRaw :=
    keeps_executionsRaw_movePosition w
  unfold applyRecorded
  rcases after_bind_cases (movePosition x symbol d signalId fill) _ w with h | ⟨_, -, h⟩
  · rw [h]
    exact Or.inl rfl
  rw [h]
  have hevent : ledger x (after (recordOrderEvent symbol d signalId fill) w₁) = ledger x w₁ :=
    keeps_ledger_recordOrderEvent w₁
  have hraw₂ := (moves_quiet_recordOrderEvent symbol d signalId fill w₁).executionsRaw
  rcases after_bind_cases (recordOrderEvent symbol d signalId fill) _ w₁ with h | ⟨_, -, h⟩
  · rw [h]
    exact Or.inl hevent
  rw [h, ← hevent, ← syncOutcome?_congr (hraw₂.trans hraw₁)]
  generalize after (recordOrderEvent symbol d signalId fill) w₁ = w₂
  have hfill : ledger x (after (recordFill symbol d fill) w₂) = ledger x w₂ := keeps_ledger_recordFill w₂
  have hraw₃ : (after (recordFill symbol d fill) w₂).lifecycle.executionsRaw =
      w₂.lifecycle.executionsRaw := by
    rcases after_write_cases d.env.faults .fill (addFill symbol d fill) w₂ with h | h
    · exact congrArg (·.lifecycle.executionsRaw) h
    · exact congrArg (·.lifecycle.executionsRaw) h
  rcases after_bind_cases (recordFill symbol d fill) _ w₂ with h | ⟨_, -, h⟩
  · rw [h]
    exact Or.inl hfill
  rw [h, ← hfill, ← syncOutcome?_congr hraw₃]
  exact partlyPaid_afterFill _

/-- Where nothing raises, both outcomes are paid in full, and net of their fees. -/
theorem charged_applyRecorded (h : applyRecorded x symbol d signalId fill w = .ok () w') :
    ∃ l, ChargedInFullIf (fun g => sumSignalFeesQuote g symbol w)
        (flatOutcome? x symbol signalId fill w) (ledger x w) l ∧
      ChargedInFullIf (roundtripFees symbol w.lifecycle) (syncOutcome? symbol signalId w.lifecycle)
        l (ledger x w') := by
  unfold applyRecorded at h
  obtain ⟨_, w₁, hmove, h⟩ := bind_eq_ok h
  obtain ⟨_, w₂, hevent, h⟩ := bind_eq_ok h
  obtain ⟨_, w₃, hfill, h⟩ := bind_eq_ok h
  refine ⟨ledger x w₁, chargedInFull_movePosition hmove, ?_⟩
  have hraw₁ : w₁.lifecycle.executionsRaw = w.lifecycle.executionsRaw :=
    keeps_executionsRaw_movePosition.of_ok hmove
  have hraw₂ := ((moves_quiet_recordOrderEvent symbol d signalId fill).of_ok hevent).executionsRaw
  have hraw₃ : w₃.lifecycle.executionsRaw = w₂.lifecycle.executionsRaw := by
    rw [write_eq_ok hfill]
    rfl
  have h₂ : ledger x w₂ = ledger x w₁ := keeps_ledger_recordOrderEvent.of_ok hevent
  have h₃ : ledger x w₃ = ledger x w₂ := keeps_ledger_recordFill.of_ok hfill
  have hcharged := chargedInFull_afterFill h
  have hraw := hraw₃.trans (hraw₂.trans hraw₁)
  rwa [syncOutcome?_congr hraw, roundtripFees_congr hraw, h₃, h₂] at hcharged

/-- What a fresh readable item may record because the position goes flat, and because
its signal has executions. -/
def flatOutcomeOf (x : Context) (symbol : String) (d : Delivery) (fill : Fill) (w : World) :
    Option (String × ℚ) :=
  flatOutcome? x symbol (signalOf d w) fill w

def syncOutcomeOf (symbol : String) (d : Delivery) (fill : Fill) (feeRate : Option ℚ)
    (w : World) : Option (String × ℚ) :=
  syncOutcome? symbol (signalOf d w) (recordedWorld symbol d fill feeRate w).lifecycle

/-- The ledger after an item: it is the same, or the item is a recorded fill that pays for
a position that goes flat and then for its signal, as far as nothing raises. -/
theorem ledger_step_cases (x : Context) (symbol : String) (d : Delivery) (w : World) :
    ledger x (step x (.item symbol d) w) = ledger x w ∨
      ∃ fill feeRate l, d.execId ∉ w.rt.seenExecIds ∧ d.Recorded symbol fill feeRate ∧
        PartlyPaid (CalmAt d.env.faults .flat) (flatOutcomeOf x symbol d fill w) (ledger x w) l ∧
        PartlyPaid (CalmAt d.env.faults .sync) (syncOutcomeOf symbol d fill feeRate w) l
          (ledger x (step x (.item symbol d) w)) := by
  by_cases hseen : d.execId ∈ w.rt.seenExecIds
  · exact Or.inl (congrArg (ledger x) (step_of_seen hseen))
  rcases step_cases_of_fresh x symbol hseen with hstuck | ⟨fill, feeRate, hrec⟩
  · refine Or.inl ?_
    unfold ledger rewardsOf
    rw [hstuck.orderSignalMap_eq, hstuck.signals_eq, hstuck.outcomes_eq, hstuck.bandit_eq, hstuck.trace_eq]
    rfl
  · rw [step_of_recorded hseen hrec]
    obtain ⟨l, hflat, hsync⟩ := ledger_applyRecorded_cases (recordedWorld symbol d fill feeRate w)
    exact Or.inr ⟨fill, feeRate, l, hseen, hrec, hflat, hsync⟩

/-- Where nothing raises, both are paid in full, and net of their fees. -/
theorem charged_step_of_ok {feeRate : Option ℚ} (hfresh : d.execId ∉ w.rt.seenExecIds)
    (hrec : d.Recorded symbol fill feeRate) (h : work x (.item symbol d) w = .ok () w') :
    let recorded := recordedWorld symbol d fill feeRate w
    ∃ l, ChargedInFullIf (fun g => sumSignalFeesQuote g symbol recorded)
        (flatOutcomeOf x symbol d fill w) (ledger x w) l ∧
      ChargedInFullIf (roundtripFees symbol recorded.lifecycle)
        (syncOutcomeOf symbol d fill feeRate w) l (ledger x w') := by
  have hrun : applyRecorded x symbol d (signalOf d w) fill (recordedWorld symbol d fill feeRate w) =
      .ok () w' := by
    rw [← h, ← ingestFresh_of_recorded hrec, work, ingest, bind_of_ok (get_run w), if_neg hfresh]
    rfl
  exact charged_applyRecorded hrun

theorem ledger_step_of_ok {feeRate : Option ℚ} (hfresh : d.execId ∉ w.rt.seenExecIds)
    (hrec : d.Recorded symbol fill feeRate) (h : work x (.item symbol d) w = .ok () w') :
    ∃ l, PaidInFullIf (flatOutcomeOf x symbol d fill w) (ledger x w) l ∧
      PaidInFullIf (syncOutcomeOf symbol d fill feeRate w) l (ledger x w') := by
  obtain ⟨l, hflat, hsync⟩ := charged_step_of_ok hfresh hrec h
  exact ⟨l, hflat.paidInFullIf, hsync.paidInFullIf⟩

theorem ledger_step_floors (x : Context) (symbol : String) (w : World) :
    ledger x (step x (.floors symbol) w) = ledger x w := by
  have hbandit : (step x (.floors symbol) w).bandit = w.bandit ∧
      (step x (.floors symbol) w).trace = w.trace := by
    rw [step_floors]
    unfold floorsResolved cacheNotionalFloor cachePositionFloor
    split_ifs <;> exact ⟨rfl, rfl⟩
  unfold ledger rewardsOf
  rw [(tables_step_floors x symbol w).1, hbandit.1, hbandit.2]

end Item

/-! ### Concrete signals -/

/-- A signal on `AAAUSDT` for one coin at a hundred. -/
def oneCoinSignal : SignalRow where
  symbol := "AAAUSDT"
  profileId := some "default"
  entryPrice := 100
  orderSizeBase := 1
  rewardNetEdgeBps := none

/-- Two entry orders with signals of their own, and an exit order with the first of these. -/
def signalWorld : World :=
  { World.initial spotMarket.config with
    lifecycle := { LifecycleStore.empty with
      orderSignalMap := ((Dict.empty.set "mm-1" (some "sig-1")).set "mm-2" (some "sig-2")).set
        "px-1" (some "sig-1")
      signals := (Dict.empty.set "sig-1" oneCoinSignal).set "sig-2" oneCoinSignal } }

end Botik
