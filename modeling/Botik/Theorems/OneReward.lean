import Botik.Main.OutcomeFacts

/-!
# One signal, one reward

An outcome is rewarded in the branch of a position that goes flat and again by the
synchronisation of its signal, so one exit fill may reward a signal twice. A signal is
rewarded at most once as long as each fill pays for a signal at most once, and only for one
that has no outcome yet.

## Main definitions

* `RewardedOnce`, `CountsOutcomes` — no signal is rewarded twice, and every arm counts its
  signals with an outcome
* `PaysOnce` — a delivery that rewards a signal once, for its first outcome

## Main results

* `rewarded_once` — a run of such deliveries rewards every signal at most once
* `roundTrip_rewarded_twice` — one entry and one exit, two rewards
-/

namespace Botik

open Program Runs

/-- No signal is rewarded twice, and none without an outcome. -/
structure RewardedOnce (l : Ledger) : Prop where
  nodup : l.rewards.Nodup
  recorded : ∀ g ∈ l.rewards, g ∈ l.outcomes.keys

/-- Every arm counts its signals that have an outcome. -/
def CountsOutcomes (l : Ledger) : Prop :=
  ∀ arm, (loadState l.bandit arm).n =
    (l.outcomes.keys.filter fun g => l.arm g = some arm).length

/-- What a fill would record is of the signal. -/
def RecordsFor (outcome : Option (String × ℚ)) (g : String) : Prop := ∃ gross, outcome = some (g, gross)

/-- A fresh fill pays for a signal with an arm only once, and only if it has no outcome
yet. -/
def PaysOnce (x : Context) (symbol : String) (d : Delivery) (w : World) : Prop :=
  d.execId ∉ w.rt.seenExecIds → ∀ fill feeRate, d.Recorded symbol fill feeRate →
    ∀ g, (ledger x w).arm g ≠ none →
      (RecordsFor (flatOutcomeOf x symbol d fill w) g ∨
          RecordsFor (syncOutcomeOf symbol d fill feeRate w) g →
        g ∉ w.lifecycle.outcomes.keys) ∧
      ¬ (RecordsFor (flatOutcomeOf x symbol d fill w) g ∧
        RecordsFor (syncOutcomeOf symbol d fill feeRate w) g)

/-! ### One payment -/

section Payment

variable {l l' : Ledger} {g : String}

theorem mem_keys_write {row : OutcomeRow} {k : String} :
    k ∈ (l.write g row).outcomes.keys ↔ k = g ∨ k ∈ l.outcomes.keys := by
  rw [Ledger.write, Dict.keys_set]
  split_ifs with hmem
  · exact ⟨Or.inr, fun h => h.elim (fun hk => hk ▸ hmem) id⟩
  · rw [List.mem_append, List.mem_singleton]
    exact or_comm

theorem Paid.arm_eq (h : Paid g l l') : l'.arm = l.arm := by
  cases h with
  | nothing => rfl
  | outcome row => rfl
  | all row rewardBps => rw [Ledger.arm_reward, Ledger.arm_write]

/-- A payment adds at most its own signal to those with an outcome. -/
theorem Paid.mem_keys (h : Paid g l l') {k : String} (hk : k ∈ l'.outcomes.keys) :
    k = g ∨ k ∈ l.outcomes.keys := by
  cases h with
  | nothing => exact Or.inr hk
  | outcome row => exact mem_keys_write.mp hk
  | all row rewardBps =>
    rw [Ledger.outcomes_reward] at hk
    exact mem_keys_write.mp hk

theorem RewardedOnce.write (h : RewardedOnce l) (row : OutcomeRow) :
    RewardedOnce (l.write g row) :=
  ⟨h.nodup, fun k hk => mem_keys_write.mpr (Or.inr (h.recorded k hk))⟩

/-- A signal without an outcome may be paid for. -/
theorem RewardedOnce.paid (h : RewardedOnce l) (hpaid : Paid g l l')
    (hnew : l.arm g ≠ none → g ∉ l.outcomes.keys) : RewardedOnce l' := by
  cases hpaid with
  | nothing => exact h
  | outcome row => exact h.write row
  | all row rewardBps =>
    have hwrite : RewardedOnce (l.write g row) := h.write row
    unfold Ledger.reward
    cases harm : (l.write g row).arm g with
    | none => exact hwrite
    | some arm =>
      have hnot : g ∉ l.outcomes.keys := hnew fun hnone => by
        rw [Ledger.arm_write, hnone] at harm
        cases harm
      refine ⟨?_, ?_⟩
      · rw [List.nodup_append]
        refine ⟨h.nodup, List.nodup_singleton g, fun a ha b hb => ?_⟩
        obtain rfl := List.mem_singleton.mp hb
        exact fun hab => hnot (h.recorded b (hab ▸ ha))
      · intro k hk
        rcases List.mem_append.mp hk with hk | hk
        · exact hwrite.recorded k hk
        · exact mem_keys_write.mpr (Or.inl (List.mem_singleton.mp hk))

/-- With its reward, a signal without an outcome is counted. -/
theorem CountsOutcomes.paid (h : CountsOutcomes l) (row : OutcomeRow) (rewardBps : ℚ)
    (hnew : l.arm g ≠ none → g ∉ l.outcomes.keys) :
    CountsOutcomes ((l.write g row).reward g rewardBps) := by
  intro arm
  have hkeys : ((l.write g row).reward g rewardBps).outcomes.keys =
      if g ∈ l.outcomes.keys then l.outcomes.keys else l.outcomes.keys ++ [g] := by
    rw [Ledger.outcomes_reward]
    exact Dict.keys_set _ _ _
  rw [hkeys, Ledger.arm_reward, Ledger.arm_write]
  cases harm : l.arm g with
  | none =>
    -- an unknown signal is neither rewarded nor counted
    have hsame : (l.write g row).reward g rewardBps = l.write g row := by
      unfold Ledger.reward
      rw [Ledger.arm_write, harm]
    have hcount : (loadState (l.write g row).bandit arm).n = (loadState l.bandit arm).n := rfl
    rw [hsame, hcount, h arm]
    split_ifs
    · rfl
    · rw [List.filter_append, List.length_append]
      simp [harm]
  | some arm' =>
    have hnot : g ∉ l.outcomes.keys := hnew (by rw [harm]; exact Option.some_ne_none arm')
    have hbandit : ((l.write g row).reward g rewardBps).bandit =
        l.bandit.set arm' ((loadState l.bandit arm').update rewardBps) := by
      unfold Ledger.reward
      rw [Ledger.arm_write, harm]
      rfl
    rw [hbandit, if_neg hnot, List.filter_append, List.length_append, ← h arm, loadState,
      Dict.get?_set]
    by_cases hsame : arm = arm'
    · subst hsame
      rw [if_pos rfl]
      simp [harm, ArmState.update]
    · have hne : ¬ arm' = arm := fun heq => hsame heq.symm
      rw [if_neg hsame]
      simp [harm, hne, loadState]

end Payment

/-! ### One item, and a run -/

section Run

variable {x : Context} {w : World}

/-- What two payments, one after the other, preserve: each may use that its signal has no
outcome yet. -/
theorem preserved_of_paid_twice {P : Ledger → Prop} {flat sync : Option (String × ℚ)}
    {l₀ l₁ l₂ : Ledger} (h₀ : P l₀) (hflat : PaidIf flat l₀ l₁)
    (hfirst : (∀ g, RecordsFor flat g → l₀.arm g ≠ none → g ∉ l₀.outcomes.keys) → P l₀ → P l₁)
    (hsecond : (∀ g, RecordsFor sync g → l₁.arm g ≠ none → g ∉ l₁.outcomes.keys) → P l₁ → P l₂)
    (honce : ∀ g, l₀.arm g ≠ none →
      (RecordsFor flat g ∨ RecordsFor sync g → g ∉ l₀.outcomes.keys) ∧
        ¬ (RecordsFor flat g ∧ RecordsFor sync g)) : P l₂ := by
  have h₁ : P l₁ := hfirst (fun g hg harm => (honce g harm).1 (Or.inl hg)) h₀
  refine hsecond (fun g hg harm hmem => ?_) h₁
  cases flat with
  | none =>
    obtain rfl : l₁ = l₀ := hflat
    exact (honce g harm).1 (Or.inr hg) hmem
  | some outcome =>
    have hpaid : Paid outcome.1 l₀ l₁ := hflat
    rw [hpaid.arm_eq] at harm
    rcases hpaid.mem_keys hmem with rfl | hold
    · exact (honce outcome.1 harm).2 ⟨⟨outcome.2, rfl⟩, hg⟩
    · exact (honce g harm).1 (Or.inr hg) hold

theorem RewardedOnce.paidIf {outcome : Option (String × ℚ)} {l l' : Ledger}
    (hpaid : PaidIf outcome l l')
    (hnew : ∀ g, RecordsFor outcome g → l.arm g ≠ none → g ∉ l.outcomes.keys)
    (h : RewardedOnce l) : RewardedOnce l' := by
  cases outcome with
  | none =>
    obtain rfl : l' = l := hpaid
    exact h
  | some outcome => exact h.paid hpaid (hnew outcome.1 ⟨outcome.2, rfl⟩)

theorem CountsOutcomes.partlyPaid {calm : Prop} {outcome : Option (String × ℚ)} {l l' : Ledger}
    (hpaid : PartlyPaid calm outcome l l') (hcalm : calm)
    (hnew : ∀ g, RecordsFor outcome g → l.arm g ≠ none → g ∉ l.outcomes.keys)
    (h : CountsOutcomes l) : CountsOutcomes l' := by
  rcases hpaid with rfl | hfull | ⟨hnot, -⟩
  · exact h
  · cases outcome with
    | none =>
      obtain rfl : l' = l := hfull
      exact h
    | some outcome =>
      obtain ⟨row, rewardBps, -, rfl⟩ := hfull
      exact h.paid row rewardBps (hnew outcome.1 ⟨outcome.2, rfl⟩)
  · exact absurd hcalm hnot

/-- The unit of work rewards a signal once, for its first outcome. -/
def PaysOnceAt (x : Context) (w : World) (u : Work) : Prop :=
  ∀ symbol d, u = .item symbol d → PaysOnce x symbol d w

theorem rewardedOnce_step {u : Work} (h : RewardedOnce (ledger x w)) (hpays : PaysOnceAt x w u) :
    RewardedOnce (ledger x (step x u w)) := by
  cases u with
  | floors symbol => rwa [ledger_step_floors]
  | item symbol d =>
    rcases ledger_step_cases x symbol d w with hsame | ⟨fill, feeRate, l, hfresh, hrec, hflat, hsync⟩
    · rwa [hsame]
    · exact preserved_of_paid_twice h hflat.paidIf (RewardedOnce.paidIf hflat.paidIf)
        (RewardedOnce.paidIf hsync.paidIf) (hpays symbol d rfl hfresh fill feeRate hrec)

/-- Recording outcomes and rewards never raises. -/
def Work.Calm : Work → Prop
  | .floors _ => True
  | .item _ d => CalmAt d.env.faults .flat ∧ CalmAt d.env.faults .sync

theorem countsOutcomes_step {u : Work} (h : CountsOutcomes (ledger x w))
    (hpays : PaysOnceAt x w u) (hcalm : u.Calm) : CountsOutcomes (ledger x (step x u w)) := by
  cases u with
  | floors symbol => rwa [ledger_step_floors]
  | item symbol d =>
    rcases ledger_step_cases x symbol d w with hsame | ⟨fill, feeRate, l, hfresh, hrec, hflat, hsync⟩
    · rwa [hsame]
    · exact preserved_of_paid_twice h hflat.paidIf (CountsOutcomes.partlyPaid hflat hcalm.1)
        (CountsOutcomes.partlyPaid hsync hcalm.2) (hpays symbol d rfl hfresh fill feeRate hrec)

/-- In a run whose fills each pay for a signal at most once, and only for one without an
outcome, every signal is rewarded at most once; and where recording outcomes does not raise,
every arm counts the signals that have one. -/
theorem rewarded_once (x : Context) (batches : List (List Fetch)) (w₀ : World)
    (h₀ : RewardedOnce (ledger x w₀))
    (hpays : ∀ t ∈ transitions (step x) (reached x batches w₀) w₀, PaysOnceAt x t.before t.input) :
    (∀ g, (rewardsOf (runRefreshes x batches w₀)).count g ≤ 1) ∧
      (CountsOutcomes (ledger x w₀) → (∀ u ∈ reached x batches w₀, u.Calm) →
        CountsOutcomes (ledger x (runRefreshes x batches w₀))) := by
  rw [runRefreshes_eq_run]
  constructor
  · have hstep : ∀ w u, RewardedOnce (ledger x w) → PaysOnceAt x w u →
        RewardedOnce (ledger x (step x u w)) :=
      fun _ _ h hp => rewardedOnce_step h hp
    have hrun : RewardedOnce (ledger x (run (step x) (reached x batches w₀) w₀)) :=
      run_of_inv hstep h₀ hpays
    exact fun g => List.nodup_iff_count_le_one.mp hrun.nodup g
  · intro hcounts hcalm
    have hstep : ∀ w u, CountsOutcomes (ledger x w) → PaysOnceAt x w u ∧ u.Calm →
        CountsOutcomes (ledger x (step x u w)) :=
      fun _ _ h hp => countsOutcomes_step h hp.1 hp.2
    exact run_of_inv hstep hcounts fun t ht => ⟨hpays t ht, hcalm _ (input_mem ht)⟩

end Run

/-! ### An entry and an exit -/

/-- The exit order of a position has the signal of its entry, so its fill rewards that
signal when the position goes flat, and again when the signal is synchronised. -/
theorem roundTrip_rewarded_twice :
    let buy := linkedDelivery "e1" "mm-1" "Buy" "1" "100"
    let sell := linkedDelivery "e2" "px-1" "Sell" "1" "110"
    let w := runRefreshes spotMarket
      [[Fetch.single "AAAUSDT" buy], [Fetch.single "AAAUSDT" sell]] signalWorld
    (rewardsOf w).count "sig-1" = 2 ∧ (loadState w.bandit ("AAAUSDT", "default")).n = 2 ∧
      w.lifecycle.outcomes.keys = ["sig-1"] := by
  decide +kernel

/-- The position of the first signal. -/
def boughtWorld : World :=
  runRefreshes spotMarket
    [[Fetch.single "AAAUSDT" (linkedDelivery "e1" "mm-1" "Buy" "1" "100")]] signalWorld

def unlinkedSell : Delivery := plainDelivery "e2" "Sell" "1" "110"

def unlinkedSellFill : Fill where
  side := .sell
  qty := 1
  price := 110
  qty_pos := unit_pos
  execFee := 0
  feeCurrency := ""
  execTimeMs := 1700000000000
  effectiveQty := 1
  effectiveQty_pos := unit_pos

/-- A sale without an order link closes the position, and rewards its signal once. -/
theorem unlinkedSell_rewarded_once :
    (∀ g, (rewardsOf (runRefreshes spotMarket [[Fetch.single "AAAUSDT" unlinkedSell]]
        boughtWorld)).count g ≤ 1) ∧
      CountsOutcomes (ledger spotMarket (runRefreshes spotMarket
        [[Fetch.single "AAAUSDT" unlinkedSell]] boughtWorld)) := by
  have hreached : reached spotMarket [[Fetch.single "AAAUSDT" unlinkedSell]] boughtWorld =
      [.floors "AAAUSDT", .item "AAAUSDT" unlinkedSell] :=
    reached_single rfl [("AAAUSDT", unlinkedSell)] boughtWorld
  have hrewards : rewardsOf boughtWorld = [] := by decide +kernel
  have houtcomes : boughtWorld.lifecycle.outcomes.entries = [] := by decide +kernel
  have hbandit : boughtWorld.bandit.entries = [] := by decide +kernel
  -- the bought coin has not been rewarded yet
  have hstart : RewardedOnce (ledger spotMarket boughtWorld) := by
    constructor
    · change (rewardsOf boughtWorld).Nodup
      rw [hrewards]
      exact List.nodup_nil
    · intro g hg
      change g ∈ rewardsOf boughtWorld at hg
      rw [hrewards] at hg
      exact absurd hg List.not_mem_nil
  have hcounts : CountsOutcomes (ledger spotMarket boughtWorld) := by
    intro arm
    have hload : loadState boughtWorld.bandit arm = .initial := by
      rw [loadState, Dict.get?, hbandit]
      rfl
    have hkeys : boughtWorld.lifecycle.outcomes.keys = [] := by
      rw [Dict.keys, houtcomes]
      rfl
    change (loadState boughtWorld.bandit arm).n =
      (boughtWorld.lifecycle.outcomes.keys.filter _).length
    rw [hload, hkeys]
    rfl
  have hmain := rewarded_once spotMarket [[Fetch.single "AAAUSDT" unlinkedSell]] boughtWorld hstart ?_
  · refine ⟨hmain.1, hmain.2 hcounts fun u hu => ?_⟩
    rw [hreached] at hu
    rcases List.mem_pair.mp hu with rfl | rfl
    · trivial
    · exact ⟨fun _ => rfl, fun _ => rfl⟩
  · intro t ht symbol d hinput hfresh fill feeRate hrec g _
    rw [hreached, transitions_cons, transitions_cons, transitions_nil] at ht
    rcases List.mem_pair.mp ht with rfl | rfl
    · cases hinput
    cases hinput
    have hread : unlinkedSell.read "AAAUSDT" = .ok (some unlinkedSellFill) := by decide +kernel
    obtain rfl : fill = unlinkedSellFill :=
      Option.some.inj (Except.ok.inj (hrec.read_eq.symm.trans hread))
    -- without an order link no signal is found to sync
    have hsync : ∀ w, syncOutcomeOf "AAAUSDT" unlinkedSell unlinkedSellFill feeRate w = none :=
      fun _ => rfl
    constructor
    · intro _ hmem
      have hkeys : (step spotMarket (.floors "AAAUSDT") boughtWorld).lifecycle.outcomes.entries =
        [] := by decide +kernel
      rw [Dict.keys, hkeys] at hmem
      exact absurd hmem List.not_mem_nil
    · rintro ⟨-, gross, hgross⟩
      rw [hsync] at hgross
      cases hgross

end Botik
