import Botik.Library.Runs
import Botik.Main.ProtectionFacts
import Botik.Theorems.Verification

/-!
# Runs of protection calls

Whatever the exchange answers, and whatever status earlier calls left behind, a
call that gets past its early returns ends with both of its rows settled.

## Main definitions

* `StepEnv.ReadablePositions` — the numbers in the answer of `get_positions` can be
  read
* `ProtectionCall`, `callStep` — one call, with the percentages it finds

## Main results

* `protection_settles_each_call`
-/

namespace Botik

open Program Runs

/-! ### Readable answers -/

/-- Every number of the item can be read. -/
structure PositionItem.Readable (item : PositionItem) : Prop where
  size : ∃ q, item.readSize = .ok q
  positionIdx : ∃ n, intField "positionIdx" item.positionIdx = .ok n
  stopLoss : ∃ q, floatField "stopLoss" item.stopLoss = .ok q
  takeProfit : ∃ q, floatField "takeProfit" item.takeProfit = .ok q
  trailingStop : ∃ q, floatField "trailingStop" item.trailingStop = .ok q

/-- The answer of `get_positions`, where there is one, has readable items. -/
def StepEnv.ReadablePositions (env : StepEnv) : Prop :=
  ∀ positions, env.positions = .ok positions → ∀ item ∈ positions.list, item.Readable

/-- A scan of readable items returns, with a readable item or none. -/
theorem scanPositions_of_readable (symbolU sideU : String) (positionIdx : ℤ)
    (candidate : Option PositionItem) {items : List PositionItem}
    (hitems : ∀ item ∈ items, item.Readable) (hcandidate : ∀ item ∈ candidate, item.Readable) :
    ∃ r, scanPositions symbolU sideU positionIdx candidate items = .ok r ∧
      ∀ item ∈ r, item.Readable := by
  induction items generalizing candidate with
  | nil => exact ⟨candidate, rfl, hcandidate⟩
  | cons item items ih =>
    rw [List.forall_mem_cons] at hitems
    obtain ⟨hitem, hrest⟩ := hitems
    have hnoted : ∀ i ∈ candidate.or (some item), i.Readable := by
      intro i hi
      rcases Option.or_eq_some_iff.mp hi with h | ⟨_, h⟩
      · exact hcandidate i h
      · exact Option.some.inj h ▸ hitem
    obtain ⟨size, hsize⟩ := hitem.size
    obtain ⟨idx, hidx⟩ := hitem.positionIdx
    rw [PositionItem.readSize] at hsize
    rw [scanPositions]
    by_cases hsymbol : Text.strip (Text.upper (Text.orEmpty item.symbol)) ≠ symbolU
    · rw [if_pos hsymbol]
      exact ih candidate hrest hcandidate
    rw [if_neg hsymbol]
    simp only [hsize, hidx, bind, Except.bind]
    by_cases hzero : |size| ≤ 0
    · rw [if_pos hzero]
      exact ih candidate hrest hcandidate
    rw [if_neg hzero]
    by_cases hexact : Text.strip (Text.orEmpty item.side) = sideU ∧ idx = positionIdx
    · rw [if_pos hexact]
      refine ⟨some item, rfl, fun i hi => ?_⟩
      exact Option.some.inj hi ▸ hitem
    · rw [if_neg hexact]
      exact ih (candidate.or (some item)) hrest hnoted

theorem judgeCandidate_of_readable {candidate : Option PositionItem}
    (h : ∀ item ∈ candidate, item.Readable) : ∃ verified, judgeCandidate candidate = .ok verified := by
  cases candidate with
  | none => exact ⟨_, rfl⟩
  | some item =>
    have hitem := h item rfl
    obtain ⟨stopLoss, hstop⟩ := hitem.stopLoss
    obtain ⟨takeProfit, htake⟩ := hitem.takeProfit
    obtain ⟨trailingStop, htrailing⟩ := hitem.trailingStop
    rw [judgeCandidate]
    simp only [hstop, htake, htrailing, bind, Except.bind]
    split_ifs <;> exact ⟨_, rfl⟩

/-- Over a readable answer the verification returns. -/
theorem verify_of_readable {env : StepEnv} (henv : env.ReadablePositions) (executor : Executor)
    (symbol side : String) (positionIdx : ℤ) :
    ∃ verified, verifyFuturesProtectionFromExchange executor env.positions symbol side positionIdx =
      .ok verified := by
  by_cases hlisted : ∃ items, Listed executor env.positions items
  · obtain ⟨items, hlisted⟩ := hlisted
    have hitems : ∀ item ∈ items, item.Readable := by
      obtain ⟨_, positions, hanswer, _, rfl⟩ := hlisted
      exact henv positions hanswer
    obtain ⟨r, hscan, hr⟩ := scanPositions_of_readable (Text.strip (Text.upper symbol))
      (Text.strip side) positionIdx none hitems (by simp)
    obtain ⟨verified, hjudge⟩ := judgeCandidate_of_readable hr
    refine ⟨verified, ?_⟩
    rw [verify_of_listed hlisted, hscan]
    exact hjudge
  · obtain ⟨reason, hfailed⟩ := verify_of_not_listed symbol side positionIdx (not_exists.mp hlisted)
    exact ⟨_, hfailed⟩

theorem attemptReadable_of_readable {env : StepEnv} (henv : env.ReadablePositions) (x : Context)
    (executor : Executor) (symbol : String) (positionQty : ℚ) :
    AttemptReadable x executor env symbol positionQty := by
  unfold AttemptReadable attemptProtection
  split_ifs with hcapability hcallable haccepted
  · obtain ⟨verified, hverified⟩ := verify_of_readable henv executor (Text.upper symbol)
      (sideOfQty positionQty).text 0
    rw [hverified]
    exact ⟨_, rfl⟩
  all_goals exact ⟨_, rfl⟩

/-! ### Runs -/

/-- One call of the protection routine, with the percentages it finds for its
symbol and what the outside answers. -/
structure ProtectionCall where
  symbol : String
  positionQty : ℚ
  entryPrice : ℚ
  stopLossPct : ℚ
  takeProfitPct : ℚ
  env : StepEnv

/-- The percentages of the call are set, then the routine runs. -/
def callStep (x : Context) (call : ProtectionCall) : World → World := after do
  modify (setDetails call.symbol fun details => { details with
    stopLossPct := call.stopLossPct
    takeProfitPct := call.takeProfitPct })
  ensureFuturesProtection x call.env call.symbol call.positionQty call.entryPrice

/-- One call that is due ends settled, from any state. -/
theorem endsSettled_callStep {x : Context} {call : ProtectionCall} {w : World}
    (hwrites : call.env.ProtectionWrites) (hreadable : call.env.ReadablePositions)
    (hdue : ProtectionDue x call.env w.rt call.symbol call.positionQty call.entryPrice) :
    ∃ executor, x.executor = some executor ∧
      EndsSettled executor call.env call.symbol call.positionQty (callStep x call w) := by
  -- the percentages do not matter for whether the call is due
  let w₁ := setDetails call.symbol (fun details => { details with
    stopLossPct := call.stopLossPct
    takeProfitPct := call.takeProfitPct }) w
  have hdue₁ : ProtectionDue x call.env w₁.rt call.symbol call.positionQty call.entryPrice := hdue
  obtain ⟨executor, hexecutor, hcall⟩ := ensureFuturesProtection_of_due hdue₁
  refine ⟨executor, hexecutor, ?_⟩
  unfold callStep
  rw [after_modify_bind, hcall]
  exact (after_protectPosition hwrites).2
    (attemptReadable_of_readable hreadable x executor call.symbol call.positionQty)

/-- In every run of calls, each one that gets past its early returns leaves the
position row and the protection row with one settled status, and with protected
only if the stops were accepted and then confirmed in this call. -/
theorem protection_settles_each_call (x : Context) (calls : List ProtectionCall) (w : World)
    (hcalls : ∀ call ∈ calls, call.env.ProtectionWrites ∧ call.env.ReadablePositions) :
    ∀ t ∈ transitions (callStep x) calls w,
      ProtectionDue x t.input.env t.before.rt t.input.symbol t.input.positionQty
        t.input.entryPrice →
      ∃ executor, x.executor = some executor ∧
        EndsSettled executor t.input.env t.input.symbol t.input.positionQty t.after := by
  intro t ht hdue
  obtain ⟨hwrites, hreadable⟩ := hcalls t.input (input_mem ht)
  rw [after_eq_step ht]
  exact endsSettled_callStep hwrites hreadable hdue

/-! ### A repaired position -/

/-- The exchange lists a long position with both stops. -/
def longProtected : PositionsReply where
  reply := ⟨some 0, some "OK"⟩
  list := [
    { symbol := some "BTCUSDT"
      side := some "Buy"
      positionIdx := some "0"
      size := some "1"
      qty := none
      stopLoss := some "99.7"
      takeProfit := some "100.5"
      trailingStop := none }]

/-- A call on which the exchange accepts the stops at the second attempt. -/
def acceptedCall : ProtectionCall where
  symbol := "BTCUSDT"
  positionQty := 1
  entryPrice := 100
  stopLossPct := 3 / 1000
  takeProfitPct := 5 / 1000
  env := { calmEnv with
    protectionClock := 1010
    setTradingStop := fun i => if i = 0 then .error "timeout" else .ok ⟨some 0, none⟩
    positions := .ok longProtected }

/-- A call on which every attempt and the emergency close time out. -/
def refusedCall : ProtectionCall := { acceptedCall with env := calmEnv }

/-- After a refused call an accepted one, ten seconds later, ends settled. -/
theorem repair_settles :
    ∃ executor, bitcoinLinear.executor = some executor ∧
      EndsSettled executor acceptedCall.env acceptedCall.symbol acceptedCall.positionQty
        (run (callStep bitcoinLinear) [refusedCall, acceptedCall]
          (World.initial bitcoinLinear.config)) := by
  let w := World.initial bitcoinLinear.config
  let w₁ := callStep bitcoinLinear refusedCall w
  refine protection_settles_each_call bitcoinLinear [refusedCall, acceptedCall] w ?_
    ⟨w₁, acceptedCall, callStep bitcoinLinear acceptedCall w₁⟩
    (mem_transitions [refusedCall] acceptedCall [] w) ?_
  · intro call hcall
    rcases List.mem_pair.mp hcall with rfl | rfl
    · exact ⟨fun _ => rfl, fun positions hpositions => by cases hpositions⟩
    · refine ⟨fun _ => rfl, fun positions hpositions item hitem => ?_⟩
      cases hpositions
      obtain rfl := List.mem_singleton.mp hitem
      exact ⟨⟨1, by decide +kernel⟩, ⟨0, by decide +kernel⟩, ⟨997 / 10, by decide +kernel⟩,
        ⟨1005 / 10, by decide +kernel⟩, ⟨0, by decide +kernel⟩⟩
  · decide +kernel

end Botik
