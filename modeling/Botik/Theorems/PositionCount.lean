import Botik.Theorems.LeverageCap

/-!
# The number of active symbols in an iteration

The count the risk manager sees is rebuilt for every intent and leaves the symbol of the intent
out. Nothing an intent does changes what is held, so the set of active symbols only grows by the
symbols of accepted orders, and only while it is below the limit.

## Main definitions

* `stateAtIntents` — the state in which an iteration turns to the intents
* `activeSet`, `placedSymbols`
* `WithinLimit` — the invariant of the intents

## Main results

* `active_within_limit` — after the intents the limit is exceeded by no new symbol
-/

namespace Botik

open Program

/-- The symbols of which something is held or ordered in this state. -/
def activeSet (c : Config) (s : LoopState) : Finset String :=
  (activeSymbols c s.world.rt s.vars).toFinset

/-- The symbols of these intents. -/
def placedSymbols (accepted : List OrderIntent) : Finset String :=
  (accepted.map OrderIntent.symbol).toFinset

/-- The stages between the open orders and the intents. -/
def manageExits (x : Context) (env : LoopEnv) : LoopM Unit := do
  cancelOurOrders env
  let s ← get
  let managed := env.arrange (managedSymbols x.config s.world.rt)
  forceExits x env managed
  placeExitQuotes x env managed

/-- The state in which an iteration turns to the intents, if it gets there. -/
def stateAtIntents (x : Context) (env : LoopEnv) (w : World) : Option LoopState :=
  match env.openOrders with
  | .error _ => none
  | .ok reply =>
    if reply.retCode = some 0 then
      match (takeStock x env reply.list >>= fun _ => manageExits x env) ⟨w, .initial⟩ with
      | .ok _ s => some s
      | .error _ _ => none
    else none

/-- What holds while the intents are processed that began in the state `s₀`. -/
structure WithinLimit (c : Config) (s₀ s : LoopState) : Prop where
  holdings : s.world.holdings = s₀.world.holdings
  openOrderSymbols : s.vars.openOrderSymbols = s₀.vars.openOrderSymbols
  count : ((activeSet c s₀ ∪ placedSymbols s.vars.accepted).card : ℤ) ≤
    max ((activeSet c s₀).card : ℤ) c.maxOpenPositions

section Counting

variable {c : Config} {rt rt' : Runtime} {vars : LoopVars} {s₀ s : LoopState}

/-- Only the holdings of the runtime are counted. -/
theorem activeSymbols_congr (h : rt'.holdings = rt.holdings) :
    activeSymbols c rt' vars = activeSymbols c rt vars := by
  obtain ⟨htracked, hrest⟩ := Prod.mk.inj h
  obtain ⟨hposition, hrest⟩ := Prod.mk.inj hrest
  obtain ⟨hfloor, hwallet⟩ := Prod.mk.inj hrest
  have hfloors : positionFloor c rt' = positionFloor c rt := by
    funext symbol
    unfold positionFloor
    rw [hfloor]
  unfold activeSymbols
  rw [htracked, hposition, hfloors, hwallet]

theorem currentOpenPosCount_eq_card (symbol : String) :
    currentOpenPosCount c rt vars symbol = ((activeSymbols c rt vars).toFinset.erase symbol).card := by
  unfold currentOpenPosCount
  have hnodup : ((activeSymbols c rt vars).dedup.filter (· ≠ symbol)).Nodup :=
    (List.nodup_dedup _).filter _
  rw [← List.toFinset_card_of_nodup hnodup]
  congr 1
  ext other
  simp only [List.mem_toFinset, List.mem_filter, List.mem_dedup, Finset.mem_erase, decide_eq_true_eq]
  exact And.comm

/-- The set that is counted is the one of the beginning with the symbols placed since. -/
theorem WithinLimit.toFinset_activeSymbols (h : WithinLimit c s₀ s)
    (hnone : s₀.vars.accepted = []) (hrt : rt.holdings = s.world.holdings) :
    (activeSymbols c rt s.vars).toFinset = activeSet c s₀ ∪ placedSymbols s.vars.accepted := by
  rw [activeSymbols_congr (hrt.trans h.holdings)]
  unfold activeSet activeSymbols placedSymbols
  rw [h.openOrderSymbols, hnone, List.map_nil, List.append_nil, List.toFinset_append]

/-- An admitted intent keeps the limit: its symbol is left out of the count, and joins it. -/
theorem WithinLimit.addAccepted {intent : OrderIntent} {w : World} (h : WithinLimit c s₀ s)
    (hnone : s₀.vars.accepted = []) (hlimit : 0 < c.maxOpenPositions)
    (hrt : rt.holdings = s.world.holdings)
    (hallowed : (checkIntent c rt s.vars intent).allowed = true)
    (hholdings : w.holdings = s.world.holdings) :
    WithinLimit c s₀ ⟨w, s.vars.addAccepted intent⟩ := by
  obtain ⟨-, -, hcount, -, -⟩ := checkIntent_allowed_iff.mp hallowed
  have hbelow := hcount hlimit
  rw [currentOpenPosCount_eq_card, h.toFinset_activeSymbols hnone hrt] at hbelow
  refine ⟨hholdings.trans h.holdings, h.openOrderSymbols, ?_⟩
  have hplaced : activeSet c s₀ ∪ placedSymbols (s.vars.addAccepted intent).accepted =
      insert intent.symbol
        ((activeSet c s₀ ∪ placedSymbols s.vars.accepted).erase intent.symbol) := by
    change activeSet c s₀ ∪ placedSymbols (s.vars.accepted ++ [intent]) = _
    ext other
    simp only [placedSymbols, List.map_append, List.map_cons, List.map_nil, List.toFinset_append,
      Finset.mem_union, Finset.mem_insert, Finset.mem_erase, List.mem_toFinset, List.mem_singleton]
    tauto
  rw [hplaced]
  have hgrows := Finset.card_insert_le intent.symbol
    ((activeSet c s₀ ∪ placedSymbols s.vars.accepted).erase intent.symbol)
  omega

end Counting

section Intents

variable {x : Context} {env : LoopEnv} {w : World} {s₀ s : LoopState}

/-- One intent keeps the limit. -/
theorem WithinLimit.processIntent (h : WithinLimit x.config s₀ s) (hnone : s₀.vars.accepted = [])
    (hlimit : 0 < x.config.maxOpenPositions) (i : IntentInput) :
    WithinLimit x.config s₀ (after (Botik.processIntent x i) s) := by
  have hkept : (after (Botik.processIntent x i) s).world.holdings = s.world.holdings :=
    keeps_holdings_processIntent x i s
  rcases processIntent_cases x i s with hsame | ⟨intent, -, ⟨rt, hrt, hallowed⟩, hadded⟩
  · refine ⟨hkept.trans h.holdings, ?_, ?_⟩
    · rw [hsame]
      exact h.openOrderSymbols
    · rw [hsame]
      exact h.count
  · have hnext := h.addAccepted hnone hlimit hrt hallowed hkept
    rwa [← hadded] at hnext

/-- All intents keep the limit, wherever an exception ends them. -/
theorem withinLimit_processIntents (hnone : s₀.vars.accepted = [])
    (hlimit : 0 < x.config.maxOpenPositions) :
    WithinLimit x.config s₀ (after (processIntents x env) s₀) := by
  have hbegin : WithinLimit x.config s₀ s₀ := by
    refine ⟨rfl, rfl, ?_⟩
    rw [hnone]
    exact le_max_of_le_left (by simp [placedSymbols])
  have hstep : ∀ i, Preserves (WithinLimit x.config s₀) (Botik.processIntent x i) :=
    fun i s hs => hs.processIntent hnone hlimit i
  unfold processIntents
  exact moves_bind (moves_fromExcept _) (fun intents => moves_each hstep intents) s₀ hbegin

theorem sendOrders_eq : sendOrders x env = manageExits x env >>= fun _ => processIntents x env := by
  unfold sendOrders manageExits
  simp only [bind_assoc]

/-- Before the intents nothing is accepted. -/
theorem keeps_accepted_manageExits :
    Keeps (fun s : LoopState => s.vars.accepted) (manageExits x env) := by
  have hcounts : ∀ {α : Type} {m : LoopM α}, Keeps LoopState.counts m →
      Keeps (fun s : LoopState => s.vars.accepted) m :=
    fun hm => hm.comp fun counts => counts.2.2
  unfold manageExits
  refine moves_bind (hcounts keeps_counts_cancelOurOrders) fun _ => ?_
  refine moves_bind moves_get fun s => ?_
  refine moves_bind (moves_each (fun symbol => hcounts (keeps_counts_exitSymbol symbol)) _)
    fun _ => ?_
  exact moves_each (fun symbol => hcounts (keeps_counts_quoteSymbol symbol)) _

theorem accepted_of_beforeIntents (orders : List OpenOrder) :
    Keeps (fun s : LoopState => s.vars.accepted)
      (takeStock x env orders >>= fun _ => manageExits x env) :=
  moves_bind (keeps_accepted_takeStock orders) fun _ => keeps_accepted_manageExits

/-- An iteration that does not get to the intents accepts none. -/
theorem acceptedIntents_of_none (h : stateAtIntents x env w = none) :
    acceptedIntents x env w = [] := by
  unfold stateAtIntents at h
  unfold acceptedIntents loopBody
  cases horders : env.openOrders with
  | error text => rfl
  | ok reply =>
    simp only [horders] at h
    simp only [Except.mapError, fromExcept_ok, pure_bind]
    split_ifs with hstop hok
    · rfl
    · rw [if_pos hok] at h
      rw [sendOrders_eq, ← bind_assoc]
      cases hbefore : (takeStock x env reply.list >>= fun _ => manageExits x env)
          ⟨w, .initial⟩ with
      | ok u s =>
        rw [hbefore] at h
        cases h
      | error e s =>
        rw [after_bind_of_error hbefore]
        exact (accepted_of_beforeIntents reply.list).of_error hbefore
    · rfl

/-- An iteration that gets to the intents ends with them. -/
theorem acceptedIntents_of_some (h : stateAtIntents x env w = some s) :
    s.vars.accepted = [] ∧
      acceptedIntents x env w = (after (processIntents x env) s).vars.accepted := by
  unfold stateAtIntents at h
  unfold acceptedIntents loopBody
  cases horders : env.openOrders with
  | error text =>
    rw [horders] at h
    cases h
  | ok reply =>
    simp only [horders] at h
    split_ifs at h with hok
    have hstop : reply.retCode ≠ some 10004 := by
      rw [hok]
      decide
    simp only [Except.mapError, fromExcept_ok, pure_bind]
    rw [if_neg hstop, if_pos hok, sendOrders_eq, ← bind_assoc]
    cases hbefore : (takeStock x env reply.list >>= fun _ => manageExits x env)
        ⟨w, .initial⟩ with
    | ok u s' =>
      rw [hbefore] at h
      cases h
      rw [after_bind_of_ok hbefore]
      exact ⟨(accepted_of_beforeIntents reply.list).of_ok hbefore, rfl⟩
    | error e s' =>
      rw [hbefore] at h
      cases h

/-- Every accepted intent is one of the strategy, as it was sent. -/
theorem sent_of_mem_acceptedIntents {intent : OrderIntent}
    (h : intent ∈ acceptedIntents x env w) :
    ∃ inputs, env.intents = .ok inputs ∧
      ∃ i ∈ inputs, intentToSend x.config i.env i.intent = some intent := by
  cases hstart : stateAtIntents x env w with
  | none =>
    rw [acceptedIntents_of_none hstart] at h
    cases h
  | some s =>
    obtain ⟨hnone, haccepted⟩ := acceptedIntents_of_some hstart
    rw [haccepted] at h
    unfold processIntents at h
    cases hintents : env.intents with
    | error text =>
      rw [hintents] at h
      simp only [Except.mapError, fromExcept_error, after_throw_bind, hnone] at h
      cases h
    | ok inputs =>
      rw [hintents] at h
      simp only [Except.mapError, fromExcept_ok, pure_bind] at h
      refine ⟨inputs, rfl, ?_⟩
      -- one intent adds at most itself, as it was sent
      have hstep : ∀ i ∈ inputs, Preserves (fun s : LoopState => ∀ intent ∈ s.vars.accepted,
          ∃ i ∈ inputs, intentToSend x.config i.env i.intent = some intent)
          (Botik.processIntent x i) := by
        intro i hi s hs intent hintent
        rcases processIntent_cases x i s with hsame | ⟨sent, hsent, -, hadded⟩
        · rw [hsame] at hintent
          exact hs intent hintent
        · rw [hadded] at hintent
          rcases List.mem_append.mp hintent with hbefore | hnew
          · exact hs intent hbefore
          · obtain rfl := List.mem_singleton.mp hnew
            exact ⟨i, hi, hsent⟩
      refine moves_each_of_mem hstep s ?_ intent h
      intro intent hintent
      rw [hnone] at hintent
      cases hintent

end Intents

/-- After all intents, the symbols active at their beginning and those of accepted orders number
no more than the limit, unless that many were active before. -/
theorem active_within_limit (x : Context) (env : LoopEnv) (w : World)
    (hlimit : 0 < x.config.maxOpenPositions) :
    match stateAtIntents x env w with
    | none => acceptedIntents x env w = []
    | some s =>
      ((activeSet x.config s ∪ placedSymbols (acceptedIntents x env w)).card : ℤ) ≤
        max ((activeSet x.config s).card : ℤ) x.config.maxOpenPositions := by
  cases hstart : stateAtIntents x env w with
  | none => exact acceptedIntents_of_none hstart
  | some s =>
    obtain ⟨hnone, haccepted⟩ := acceptedIntents_of_some hstart
    dsimp only
    rw [haccepted]
    exact (withinLimit_processIntents hnone hlimit).count

/-- A run for one position at a time. -/
def singlePosition : Context :=
  ⟨{ Config.default ["BTCUSDT"] .linear with maxOpenPositions := 1 }, none⟩

/-- An entry on top of an open order of the same symbol is accepted, and nothing is counted twice. -/
theorem same_symbol_within_limit :
    (acceptedIntents singlePosition (plainEnv (smallOrder 0) 1)
        (quietWorld singlePosition.config)).length = 1 ∧
      match stateAtIntents singlePosition (plainEnv (smallOrder 0) 1)
          (quietWorld singlePosition.config) with
      | none => False
      | some s =>
        ((activeSet singlePosition.config s ∪ placedSymbols (acceptedIntents singlePosition
          (plainEnv (smallOrder 0) 1) (quietWorld singlePosition.config))).card : ℤ) ≤
            max ((activeSet singlePosition.config s).card : ℤ) 1 := by
  have haccepted : (acceptedIntents singlePosition (plainEnv (smallOrder 0) 1)
      (quietWorld singlePosition.config)).length = 1 := by decide +kernel
  have hbound := active_within_limit singlePosition (plainEnv (smallOrder 0) 1)
    (quietWorld singlePosition.config) (by decide)
  refine ⟨haccepted, ?_⟩
  cases hstart : stateAtIntents singlePosition (plainEnv (smallOrder 0) 1)
      (quietWorld singlePosition.config) with
  | none =>
    rw [hstart] at hbound
    simp only [hbound] at haccepted
    cases haccepted
  | some s =>
    rw [hstart] at hbound
    exact hbound

end Botik
