import Botik.Main.Steps

/-!
# What an iteration counts and admits

The stages of an iteration before the intents leave the exposures alone once the open orders are
counted, and an intent is only counted after the risk manager admitted it.

## Main definitions

* `LoopVars.counts` — the exposures and the accepted intents
* `Runtime.holdings` — what the positions and the wallet hold

## Main results

* `moves_onWorld` — runtime code leaves the local variables alone
* `processIntent_cases` — an intent is counted only if it was admitted, on unchanged holdings
-/

namespace Botik

open Program

section OnWorld

variable {α : Type} {m : RunM α}

/-- Runtime code changes the tables and nothing else. -/
theorem moves_onWorld {R : LoopState → LoopState → Prop}
    (h : ∀ s, R s { s with world := after m s.world }) : Moves R (onWorld m) :=
  moves_zoom h

theorem onWorld_of_ok {s : LoopState} {w : World} {a : α} (h : m s.world = .ok a w) :
    onWorld m s = .ok a { s with world := w } :=
  zoom_of_ok h

theorem onWorld_of_error {s : LoopState} {w : World} {e : Exn} (h : m s.world = .error e w) :
    onWorld m s = .error e { s with world := w } :=
  zoom_of_error h

theorem onWorld_eq_ok {s s' : LoopState} {a : α} (h : onWorld m s = .ok a s') :
    ∃ w, m s.world = .ok a w ∧ s' = { s with world := w } :=
  zoom_eq_ok h

theorem keeps_vars_onWorld {β : Type} (f : LoopVars → β) :
    Keeps (fun s : LoopState => f s.vars) (onWorld m) :=
  moves_onWorld fun _ => rfl

end OnWorld

/-! ### One open order -/

/-- An open order that is added had a readable price and quantity, and was sorted by its link. -/
theorem addOpenOrder_eq_ok {vars vars' : LoopVars} {order : OpenOrder}
    (h : vars.addOpenOrder order = .ok vars') :
    ∃ price qty, floatField "price" order.price = .ok price ∧
      floatField "qty" order.qty = .ok qty ∧
      vars' = (vars.addExposure (Text.orEmpty order.symbol) (price * qty)).sortOrder
        (Text.orEmpty order.symbol) (Text.orEmpty order.orderLinkId) order := by
  unfold LoopVars.addOpenOrder at h
  cases hprice : floatField "price" order.price with
  | error e =>
    rw [hprice] at h
    cases h
  | ok price =>
    cases hqty : floatField "qty" order.qty with
    | error e =>
      rw [hprice, hqty] at h
      cases h
    | ok qty =>
      rw [hprice, hqty] at h
      exact ⟨price, qty, rfl, rfl, (Except.ok.inj h).symm⟩

/-- An open order that is read is added to the local variables. -/
theorem countOpenOrder_eq_ok {order : OpenOrder} {s s' : LoopState}
    (h : countOpenOrder order s = .ok () s') :
    ∃ vars, s.vars.addOpenOrder order = .ok vars ∧ s' = { s with vars := vars } := by
  have hrun : (fromExcept (s.vars.addOpenOrder order) >>=
      fun vars => modifyVars fun _ => vars) s = .ok () s' := h
  obtain ⟨vars, s₁, hadd, hset⟩ := bind_eq_ok hrun
  obtain ⟨hvars, rfl⟩ := fromExcept_eq_ok hadd
  cases hset
  exact ⟨vars, hvars, rfl⟩

/-! ### The exposures -/

/-- The exposures and the accepted intents. -/
def LoopVars.counts (vars : LoopVars) : ℚ × (String → ℚ) × List OrderIntent :=
  (vars.totalExposure, vars.symbolExposure, vars.accepted)

/-- The counts of a state. -/
def LoopState.counts (s : LoopState) : ℚ × (String → ℚ) × List OrderIntent := s.vars.counts

section Counts

variable {x : Context} {env : LoopEnv}

theorem keeps_counts_onWorld {α : Type} (m : RunM α) : Keeps LoopState.counts (onWorld m) :=
  keeps_vars_onWorld LoopVars.counts

theorem keeps_counts_cancelOurOrders : Keeps LoopState.counts (cancelOurOrders env) := by
  unfold cancelOurOrders
  refine moves_bind moves_get fun s => ?_
  exact keeps_counts_onWorld _

theorem keeps_counts_exitSymbol (symbol : String) :
    Keeps LoopState.counts (exitSymbol x env symbol) := by
  unfold exitSymbol
  apply moves_bind (keeps_counts_onWorld _)
  intro blocked
  apply moves_ite
  · intro _
    exact moves_modify fun _ => rfl
  · intro _
    exact moves_pure _

theorem keeps_counts_quoteSymbol (symbol : String) :
    Keeps LoopState.counts (quoteSymbol x env symbol) := by
  unfold quoteSymbol
  refine moves_bind moves_get fun s => ?_
  exact keeps_counts_onWorld _

end Counts

/-! ### The holdings -/

/-- What the positions and the wallet hold. -/
def Runtime.holdings (rt : Runtime) :
    List String × (String → Position) × (String → Option ℚ) × List String :=
  (rt.tracked, rt.position, rt.positionFloor, rt.walletHeldBaseSymbols)

def World.holdings (w : World) : List String × (String → Position) × (String → Option ℚ) ×
    List String :=
  w.rt.holdings

/-- No step of an intent touches the holdings. -/
theorem entrySteps_holdings : EntrySteps (SameAs World.holdings) where
  tables := AllowsTables.allowsRecords fun _ _ h => congrArg Runtime.holdings h.rt
  timestamps _ _ := rfl
  details _ _ _ := rfl
  stop _ := rfl

/-! ### Admitted intents -/

section Admitted

variable {x : Context} {env : IntentEnv} {vars : LoopVars} {intent sent : OrderIntent}
  {reply : OrderReply} {w w' : World}

/-- An intent that is accepted was sent as it is. -/
theorem placeIntent_accepted (h : placeIntent x env intent w = .ok (.accepted sent reply) w') :
    sent = intent ∧ reply.retCode = some 0 := by
  unfold placeIntent at h
  obtain ⟨answer, w₁, -, hrest⟩ := bind_eq_ok h
  split_ifs at hrest with hstop haccepted
  · cases hrest
  · cases hrest
    exact ⟨rfl, haccepted⟩
  · cases hrest

/-- An intent that is accepted was admitted by the risk manager, on the holdings of the state it
was submitted in. -/
theorem gateIntent_accepted
    (h : gateIntent x env vars intent w = .ok (.accepted sent reply) w') :
    sent = intent ∧ reply.retCode = some 0 ∧ ∃ rt : Runtime, rt.holdings = w.holdings ∧
      (checkIntent x.config rt vars intent).allowed = true := by
  unfold gateIntent at h
  obtain ⟨locked, w₁, hlocked, h⟩ := bind_eq_ok h
  split_ifs at h
  · cases h
  obtain ⟨held, w₂, hheld, h⟩ := bind_eq_ok h
  split_ifs at h
  · cases h
  obtain ⟨rejection, w₃, hrejection, h⟩ := bind_eq_ok h
  have hkept : w₃.holdings = w.holdings := by
    calc w₃.holdings = w₂.holdings :=
          Moves.of_ok (R := SameAs World.holdings) moves_futuresRejection hrejection
      _ = w₁.holdings := Moves.of_ok (R := SameAs World.holdings) moves_holdPolicyBlocks hheld
      _ = w.holdings := (moves_lockBlocks entrySteps_holdings.tables).of_ok hlocked
  cases rejection with
  | some reason => cases h
  | none =>
    obtain ⟨admitted, w₄, hcheck, h⟩ := bind_eq_ok h
    split_ifs at h with hadmitted
    · obtain ⟨hsent, hcode⟩ := placeIntent_accepted h
      refine ⟨hsent, hcode, ?_⟩
      unfold checkRisk at hcheck
      obtain ⟨⟨⟩, w₅, hfresh, hcheck⟩ := bind_eq_ok hcheck
      obtain ⟨w₆, w₇, hget, hcheck⟩ := bind_eq_ok hcheck
      cases hfresh
      cases hget
      cases hcheck
      refine ⟨_, ?_, hadmitted⟩
      exact hkept
    · cases h

theorem submitIntent_accepted
    (h : submitIntent x env vars intent w = .ok (.accepted sent reply) w') :
    intentToSend x.config env intent = some sent ∧ ∃ rt : Runtime, rt.holdings = w.holdings ∧
      (checkIntent x.config rt vars sent).allowed = true := by
  unfold submitIntent at h
  cases hsend : intentToSend x.config env intent with
  | none =>
    rw [hsend] at h
    cases h
  | some prepared =>
    rw [hsend] at h
    obtain ⟨⟨⟩, w₁, hrecord, h⟩ := bind_eq_ok h
    obtain ⟨rfl, -, rt, hholdings, hallowed⟩ := gateIntent_accepted h
    have hkept : w₁.holdings = w.holdings :=
      (moves_recordSignal entrySteps_holdings.tables).of_ok hrecord
    exact ⟨rfl, rt, hholdings.trans hkept, hallowed⟩

end Admitted

/-- The local variables stay, or the intent is counted as it was sent, admitted on the holdings of
the state. -/
theorem processIntent_cases (x : Context) (i : IntentInput) (s : LoopState) :
    (after (processIntent x i) s).vars = s.vars ∨
      ∃ intent, intentToSend x.config i.env i.intent = some intent ∧
        (∃ rt : Runtime, rt.holdings = s.world.holdings ∧
          (checkIntent x.config rt s.vars intent).allowed = true) ∧
        (after (processIntent x i) s).vars = s.vars.addAccepted intent := by
  unfold processIntent
  rw [after_get_bind]
  split_ifs with hstopped hblocked
  · exact Or.inl rfl
  · exact Or.inl rfl
  · cases hsubmit : submitIntent x i.env s.vars i.intent s.world with
    | error e w' =>
      left
      rw [after_bind_of_error (onWorld_of_error hsubmit)]
    | ok submission w' =>
      rw [after_bind_of_ok (onWorld_of_ok hsubmit)]
      cases submission with
      | skipped => exact Or.inl rfl
      | stopped => exact Or.inl rfl
      | accepted intent reply =>
        right
        obtain ⟨hsent, hadmitted⟩ := submitIntent_accepted hsubmit
        refine ⟨intent, hsent, hadmitted, ?_⟩
        rw [after_modify_bind]
        -- what is recorded afterwards leaves the local variables alone
        exact keeps_vars_onWorld (m := recordEntry x i.env intent reply) id
          (countAccepted i.env intent { s with world := w' })

/-- An intent leaves the holdings alone, whatever becomes of it. -/
theorem keeps_holdings_processIntent (x : Context) (i : IntentInput) :
    Keeps (fun s : LoopState => s.world.holdings) (processIntent x i) := by
  intro s
  exact moves_processIntent entrySteps_holdings (fun _ _ _ _ => rfl) s

/-- What the counts determine and every admitted intent preserves is preserved by the stages that
send orders. -/
theorem preserves_sendOrders {x : Context} {P : LoopVars → Prop}
    (hcounts : ∀ vars vars', vars'.counts = vars.counts → P vars → P vars')
    (hallows : ∀ vars intent rt, P vars → (checkIntent x.config rt vars intent).allowed = true →
      P (vars.addAccepted intent)) (env : LoopEnv) :
    Preserves (fun s => P s.vars) (sendOrders x env) := by
  have hkept : ∀ {α : Type} {m : LoopM α}, Keeps LoopState.counts m →
      Preserves (fun s => P s.vars) m :=
    fun hm => hm.mono fun s s' h hs => hcounts s.vars s'.vars h hs
  have hintents : ∀ i, Preserves (fun s : LoopState => P s.vars) (processIntent x i) := by
    intro i s hs
    rcases processIntent_cases x i s with hsame | ⟨intent, -, ⟨rt, -, hallowed⟩, hadded⟩
    · rwa [hsame]
    · rw [hadded]
      exact hallows s.vars intent rt hs hallowed
  unfold sendOrders
  refine moves_bind (hkept keeps_counts_cancelOurOrders) fun _ => ?_
  refine moves_bind moves_get fun s => ?_
  refine moves_bind (moves_each (fun symbol => hkept (keeps_counts_exitSymbol symbol)) _)
    fun _ => ?_
  refine moves_bind (moves_each (fun symbol => hkept (keeps_counts_quoteSymbol symbol)) _)
    fun _ => ?_
  exact moves_bind (moves_fromExcept _) fun intents => moves_each hintents intents

end Botik
