import Botik.Theorems.ExitControl
import Botik.Theorems.Restart

/-!
# Held coins

A holding that was imported by hand or recovered from the exchange is not to be sold. The intents
of the strategy are checked against the holdings. The two exit routines are not: they close whatever
position is tracked, and that position may have been bought by hand.

## Main definitions

* `HeldCoin` — the holding of a symbol is protected
* `SellSent` — an iteration sends a sell order of a symbol
* `SparesCoin` — the exits of a symbol are not due, and its holding stays protected

## Main results

* `noSell_of_spares` — one iteration
* `held_coins_not_sold` — in every run whose iterations spare the held coins, none is sold
-/

namespace Botik

open Program Runs

/-- The holding of a symbol must not be sold. -/
def HeldCoin (db : SpotStore) (symbol : String) : Prop :=
  ∃ e, db.holdingOf (Text.upper symbol) = some e ∧ e.2.isProtected = true

/-- The side of a sell order, as the hold policy reads it. -/
def IsSell (side : String) : Prop := Text.lower (Text.strip side) = "sell"

/-- No sell order of the symbol. -/
def NoSell (symbol : String) (event : Event) : Prop :=
  ∀ order accepted, event = .placeOrder order accepted → order.symbol = symbol →
    ¬ IsSell order.side

/-- An iteration sends a sell order of the symbol. -/
def SellSent (x : Context) (env : LoopEnv) (w : World) (symbol : String) : Prop :=
  ∃ event ∈ bodyEvents x env w, ¬ NoSell symbol event

/-- The forced exit of a long position is due. -/
def ForcedSaleDue (x : Context) (env : LoopEnv) (s : LoopState) (symbol : String) : Prop :=
  symbol ∈ managedSymbols x.config s.world.rt ∧ 0 < (s.world.rt.position symbol).qty ∧
    ForceExitDue x (env.exits symbol) s.world symbol

/-- The exit quote of a long position is due. -/
def QuotedSaleDue (x : Context) (env : LoopEnv) (s : LoopState) (symbol : String) : Prop :=
  0 < (s.world.rt.position symbol).qty ∧ ∃ price,
    ExitQuoteDue x (env.quotes symbol) s.world symbol (s.vars.quotesOf symbol) price

/-- The strategy wants to sell the symbol. -/
def SellIntended (env : LoopEnv) (symbol : String) : Prop :=
  ∃ inputs, env.intents = .ok inputs ∧ ∃ i ∈ inputs, i.intent.symbol = symbol ∧
    IsSell i.intent.side

/-- Nothing sells the symbol past the hold policy: no exit of it is due, and where the strategy
wants to sell it, it is still held once the executions are ingested. -/
structure SparesCoin (x : Context) (env : LoopEnv) (begun : World) (symbol : String) : Prop where
  forced : ∀ s, stateAtExits x env begun = some s → ¬ ForcedSaleDue x env s symbol
  quoted : ∀ s s₁, stateAtExits x env begun = some s → stateAtQuotes x env begun = some s₁ →
    symbol ∈ managedSymbols x.config s.world.rt → ¬ QuotedSaleDue x env s₁ symbol
  held : ∀ s, stateAtExits x env begun = some s → SellIntended env symbol →
    HeldCoin s.world.spot symbol

section Sides

variable {x : Context} {symbol other : String} {w : World} {qty : ℚ}

theorem noSell_of_other {order : OrderRequest} {accepted : Bool} (h : order.symbol ≠ symbol) :
    NoSell symbol (.placeOrder order accepted) := by
  intro order' accepted' hsame hsymbol
  cases hsame
  exact absurd hsymbol h

/-- A position is closed by a sale only if it is long. -/
theorem pos_of_isSell_closingSide (h : IsSell (closingSide qty).text) : 0 < qty := by
  by_contra hneg
  unfold closingSide at h
  rw [if_neg hneg] at h
  exact absurd h (by unfold IsSell; decide)

theorem noSell_of_forcedExit {env : ExitEnv} {event : Event}
    (h : OnlyForcedExit x env symbol w event)
    (hnone : ¬ (0 < (w.rt.position symbol).qty ∧ ForceExitDue x env w symbol)) :
    NoSell symbol event := by
  intro order accepted hsame _ hsell
  obtain ⟨hdue, book, reason, rfl⟩ := h order accepted hsame
  exact hnone ⟨pos_of_isSell_closingSide hsell, hdue⟩

theorem noSell_of_exitQuote {env : QuoteEnv} {openQuotes : List OpenOrder} {event : Event}
    (h : OnlyExitQuote x env symbol openQuotes w event)
    (hnone : ¬ (0 < (w.rt.position symbol).qty ∧
      ∃ price, ExitQuoteDue x env w symbol openQuotes price)) : NoSell symbol event := by
  intro order accepted hsame _ hsell
  obtain ⟨price, hdue, rfl⟩ := h order accepted hsame
  exact hnone ⟨pos_of_isSell_closingSide hsell, price, hdue⟩

end Sides

/-! ### The exits -/

/-- What the exits of the other symbols leave of a symbol. -/
structure Aside (x : Context) (symbol : String) (s s' : LoopState) : Prop where
  view : exitView x symbol s'.world = exitView x symbol s.world
  quotes : s'.vars.openPositionOrders = s.vars.openPositionOrders
  emits : LoopEmits (NoSell symbol) s s'

instance (x : Context) (symbol : String) : IsPreorder LoopState (Aside x symbol) where
  refl s := ⟨rfl, rfl, refl_of (LoopEmits _) s⟩
  trans _ _ _ h₁₂ h₂₃ := ⟨h₂₃.view.trans h₁₂.view, h₂₃.quotes.trans h₁₂.quotes,
    trans_of (LoopEmits _) h₁₂.emits h₂₃.emits⟩

section Exits

variable {x : Context} {env : LoopEnv} {symbol other : String} {s s' : LoopState}

theorem after_onWorld {α : Type} (m : RunM α) (s : LoopState) :
    after (onWorld m) s = { s with world := after m s.world } :=
  after_zoom s

theorem aside_exitSymbol (hne : other ≠ symbol) :
    Moves (Aside x symbol) (exitSymbol x env other) := by
  have hquotes : Keeps (fun s : LoopState => s.vars.openPositionOrders)
      (exitSymbol x env other) := by
    unfold exitSymbol
    refine moves_bind (keeps_vars_onWorld LoopVars.openPositionOrders) fun blocked => ?_
    exact moves_ite (fun _ => moves_modify fun _ => rfl) fun _ => moves_pure _
  intro s
  refine ⟨(moves_exitSymbol_other hne.symm).1 s, hquotes s, emits_exitSymbol ?_ ?_ s⟩
  · intro order accepted hsame
    cases hsame
  · exact fun qty book reason accepted => noSell_of_other hne

theorem aside_quoteSymbol (hne : other ≠ symbol) :
    Moves (Aside x symbol) (quoteSymbol x env other) := by
  have hquotes : Keeps (fun s : LoopState => s.vars.openPositionOrders)
      (quoteSymbol x env other) :=
    moves_bind moves_get fun _ => keeps_vars_onWorld LoopVars.openPositionOrders
  have hview : Moves (OnWorlds (SameAs (exitView x symbol))) (quoteSymbol x env other) := by
    refine moves_bind moves_get fun s => moves_worlds_onWorld ?_
    exact moves_maybePlacePositionExitQuote (quoteSteps_other hne.symm) (fun _ _ _ _ _ => rfl)
      fun _ _ _ _ => rfl
  intro s
  refine ⟨hview s, hquotes s, emits_quoteSymbol ?_ ?_⟩
  · intro quote _ orderSymbol accepted order accepted' hsame
    cases hsame
  · exact fun qty price accepted => noSell_of_other hne

/-- The forced exit of a symbol sells nothing unless it is due. -/
theorem noSell_exitSymbol (hnone : ¬ (0 < (s.world.rt.position symbol).qty ∧
      ForceExitDue x (env.exits symbol) s.world symbol)) :
    LoopEmits (NoSell symbol) s (after (exitSymbol x env symbol) s) := by
  have hforced : LoopEmits (NoSell symbol) s
      (after (onWorld (maybeForceExit x (env.exits symbol) symbol)) s) := by
    rw [after_onWorld]
    exact (emits_maybeForceExit x (env.exits symbol) symbol s.world).mono fun event hevent =>
      noSell_of_forcedExit hevent hnone
  have hblocks : ∀ blocked : Bool, Moves (LoopEmits (NoSell symbol)) (if blocked then
      modifyVars fun vars => { vars with blockedSymbols := vars.blockedSymbols ++ [symbol] }
      else pure () : LoopM Unit) := fun blocked =>
    moves_ite (fun _ => moves_worlds_modifyVars _) fun _ => moves_pure _
  unfold exitSymbol
  rcases after_bind_cases (onWorld (maybeForceExit x (env.exits symbol) symbol)) _ s with h |
    ⟨blocked, -, h⟩
  · rw [h]
    exact hforced
  · rw [h]
    exact trans_of (LoopEmits _) hforced (hblocks blocked _)

/-- The exit quote of a symbol sells nothing unless it is due. -/
theorem noSell_quoteSymbol (hnone : ¬ QuotedSaleDue x env s symbol) :
    LoopEmits (NoSell symbol) s (after (quoteSymbol x env symbol) s) := by
  unfold quoteSymbol
  rw [after_get_bind, after_onWorld]
  exact (emits_maybePlacePositionExitQuote x (env.quotes symbol) symbol _ s.world).mono
    fun event hevent => noSell_of_exitQuote hevent hnone

end Exits

/-! ### The holdings -/

/-- The holdings are the same. -/
abbrev KeepsHoldings (w w' : World) : Prop := SameAs (fun w : World => w.spot.holdings) w w'

theorem HeldCoin.congr {symbol : String} {w w' : World} (h : KeepsHoldings w w')
    (hheld : HeldCoin w.spot symbol) : HeldCoin w'.spot symbol := by
  have hsame : w'.spot.holdings = w.spot.holdings := h
  unfold HeldCoin SpotStore.holdingOf at hheld ⊢
  rwa [hsame]

theorem quoteSteps_holdings (x : Context) (symbol : String) : QuoteSteps x symbol KeepsHoldings where
  tables := AllowsTables.allowsRecords fun _ _ h => h.holdings
  timestamps _ _ := rfl
  positionFloor w := by
    obtain ⟨floors, hcached⟩ := cachePositionFloor_eq symbol w (resolvedPositionFloor x w.rt symbol)
    rw [hcached]
    rfl
  notionalFloor w := by
    obtain ⟨floors, hcached⟩ := cacheNotionalFloor_eq symbol w (resolvedNotionalFloor x w.rt symbol)
    rw [hcached]
    rfl
  dust _ _ := rfl

theorem exitSteps_holdings (x : Context) (symbol : String) : ExitSteps x symbol KeepsHoldings where
  toQuoteSteps := quoteSteps_holdings x symbol
  details _ _ := rfl
  forced _ _ := rfl
  decided _ := rfl

theorem entrySteps_spotHoldings : EntrySteps KeepsHoldings where
  tables := AllowsTables.allowsRecords fun _ _ h => h.holdings
  timestamps _ _ := rfl
  details _ _ _ := rfl
  stop _ := rfl

/-! ### The intents -/

section Intents

variable {x : Context} {env : IntentEnv} {intent : OrderIntent} {symbol : String} {w : World}
  {vars : LoopVars}

/-- The hold policy refuses the sale of a held coin. -/
theorem spotSellBlocked_of_held (hsell : IsSell intent.side)
    (hheld : HeldCoin w.spot intent.symbol) :
    (spotSellBlockedByHoldPolicy .spot w.spot intent.symbol intent.side).1 = true := by
  obtain ⟨e, hrow, hprotected⟩ := hheld
  unfold IsSell at hsell
  unfold spotSellBlockedByHoldPolicy
  rw [if_neg (by simp), if_neg (by simp [hsell]), hrow]
  dsimp only
  rw [if_pos hprotected]

/-- An intent to sell a held coin does not get past the hold policy. -/
theorem silent_gateIntent (hspot : x.config.marketCategory = .spot) (hsell : IsSell intent.side)
    (hheld : HeldCoin w.spot intent.symbol) :
    Emits (fun _ => False) w (after (gateIntent x env vars intent) w) := by
  have hlocks : Moves (Emits fun _ => False) (lockBlocks x env intent) :=
    moves_lockBlocks allowsRecords_emits
  unfold gateIntent
  rcases after_bind_cases (lockBlocks x env intent) _ w with h | ⟨locked, hlocked, h⟩
  · rw [h]
    exact hlocks w
  · rw [h]
    refine trans_of (Emits _) (hlocks w) ?_
    have hstill : HeldCoin (after (lockBlocks x env intent) w).spot intent.symbol :=
      hheld.congr (Moves.of_ok (R := KeepsHoldings) (moves_lockBlocks entrySteps_spotHoldings.tables)
        hlocked)
    generalize after (lockBlocks x env intent) w = w₁ at hstill ⊢
    split_ifs
    · exact refl_of (Emits _) w₁
    -- the policy reads the holding, and blocks
    have hpolicy : holdPolicyBlocks x env intent = read env.faults (.intent .holdPolicy) fun w =>
        (spotSellBlockedByHoldPolicy x.config.marketCategory w.spot intent.symbol intent.side).1 :=
      if_pos ⟨hspot, hsell⟩
    rw [hpolicy]
    rcases read_run_cases env.faults (.intent .holdPolicy) (fun w =>
      (spotSellBlockedByHoldPolicy x.config.marketCategory w.spot intent.symbol intent.side).1) w₁
      with hread | hread
    · rw [after_bind_of_ok hread, hspot, spotSellBlocked_of_held hsell hstill, if_pos rfl]
      exact refl_of (Emits _) w₁
    · rw [after_bind_of_error hread]
      exact refl_of (Emits _) w₁

theorem silent_submitIntent (hspot : x.config.marketCategory = .spot) (hsell : IsSell intent.side)
    (hheld : HeldCoin w.spot intent.symbol) :
    Emits (fun _ => False) w (after (submitIntent x env vars intent) w) := by
  unfold submitIntent
  cases hsent : intentToSend x.config env intent with
  | none => exact refl_of (Emits _) w
  | some sent =>
    have hsame := sameOrder_of_intentToSend hsent
    have hrecords : Moves (Emits fun _ => False) (recordSignal env sent) :=
      moves_recordSignal allowsRecords_emits
    dsimp only
    rcases after_bind_cases (recordSignal env sent) _ w with h | ⟨u, hrecorded, h⟩
    · rw [h]
      exact hrecords w
    · rw [h]
      refine trans_of (Emits _) (hrecords w) (silent_gateIntent hspot ?_ ?_)
      · rwa [hsame.side]
      · rw [hsame.symbol]
        exact hheld.congr (Moves.of_ok (R := KeepsHoldings)
          (moves_recordSignal entrySteps_spotHoldings.tables) hrecorded)

end Intents

/-! ### One iteration -/

/-- The holding of a symbol stays, and nothing of it is sold; `c` says that a sale is intended. -/
def Guarded (c : Prop) (symbol : String) (s s' : LoopState) : Prop :=
  (c → HeldCoin s.world.spot symbol) →
    (c → HeldCoin s'.world.spot symbol) ∧ LoopEmits (NoSell symbol) s s'

instance (c : Prop) (symbol : String) : IsPreorder LoopState (Guarded c symbol) where
  refl s h := ⟨h, refl_of (LoopEmits _) s⟩
  trans s₁ s₂ s₃ h₁₂ h₂₃ h := by
    obtain ⟨hheld, hemits⟩ := h₁₂ h
    obtain ⟨hheld', hemits'⟩ := h₂₃ hheld
    exact ⟨hheld', trans_of (LoopEmits _) hemits hemits'⟩

section Iteration

variable {x : Context} {env : LoopEnv} {symbol : String} {s : LoopState} {c : Prop}

theorem LoopEmits.of_false {s s' : LoopState} {P : Event → Prop}
    (h : Emits (fun _ => False) s.world s'.world) : LoopEmits P s s' :=
  h.mono fun _ hfalse => hfalse.elim

/-- An intent to sell a held coin sends nothing. -/
theorem silent_processIntent (hspot : x.config.marketCategory = .spot) {i : IntentInput}
    (hsell : IsSell i.intent.side) (hheld : HeldCoin s.world.spot i.intent.symbol) :
    LoopEmits (NoSell symbol) s (after (processIntent x i) s) := by
  have hstopped : Moves (LoopEmits (NoSell symbol)) (onWorld (modify stopLoop) : LoopM Unit) :=
    moves_worlds_onWorld (moves_modify fun _ => emits_of_eq rfl)
  have haccepted : ∀ intent reply, Moves (LoopEmits (NoSell symbol)) (do
      modify (countAccepted i.env intent)
      onWorld (recordEntry x i.env intent reply) : LoopM Unit) := by
    intro intent reply
    refine moves_bind (moves_modify fun s => emits_of_eq rfl) fun _ => ?_
    exact moves_worlds_onWorld (moves_recordEntry allowsRecords_emits reply)
  have hsubmit : LoopEmits (NoSell symbol) s
      (after (onWorld (submitIntent x i.env s.vars i.intent)) s) := by
    rw [after_onWorld]
    exact .of_false (silent_submitIntent hspot hsell hheld)
  unfold processIntent
  rw [after_get_bind]
  split_ifs
  · exact refl_of (LoopEmits _) s
  · exact refl_of (LoopEmits _) s
  · rcases after_bind_cases (onWorld (submitIntent x i.env s.vars i.intent)) _ s with h |
      ⟨submission, -, h⟩
    · rw [h]
      exact hsubmit
    · rw [h]
      refine trans_of (LoopEmits _) hsubmit ?_
      cases submission with
      | skipped => exact refl_of (LoopEmits _) _
      | stopped => exact hstopped _
      | accepted intent reply => exact haccepted intent reply _

/-- No intent sells a symbol that is held where a sale of it is intended. -/
theorem guarded_processIntents (hspot : x.config.marketCategory = .spot) :
    Moves (Guarded (SellIntended env symbol) symbol) (processIntents x env) := by
  have hholdings : ∀ i, Moves (OnWorlds KeepsHoldings) (processIntent x i) :=
    fun i => moves_processIntent entrySteps_spotHoldings fun _ _ _ _ => rfl
  unfold processIntents
  cases hintents : env.intents with
  | error text => exact moves_throw _
  | ok inputs =>
    change Moves _ (each (processIntent x) inputs)
    refine moves_each_of_mem fun i hi s hguard => ⟨?_, ?_⟩
    · exact fun hintended => (hguard hintended).congr (hholdings i s)
    · by_cases hsells : i.intent.symbol = symbol ∧ IsSell i.intent.side
      · obtain ⟨rfl, hsell⟩ := hsells
        exact silent_processIntent hspot hsell (hguard ⟨inputs, hintents, i, hi, rfl, hsell⟩)
      · refine emits_processIntent (fun sent hsame timeInForce accepted => ?_) s
        intro order accepted' hevent hsymbol hsell
        cases hevent
        exact hsells ⟨hsame.symbol.symm.trans hsymbol, hsame.side ▸ hsell⟩

/-- The stages after the exits have begun. -/
def afterExits (x : Context) (env : LoopEnv) : LoopM Unit := do
  let s ← get
  let managed := env.arrange (managedSymbols x.config s.world.rt)
  forceExits x env managed
  placeExitQuotes x env managed
  processIntents x env

/-- Once an iteration turns to its exits, it sells nothing of a symbol it spares. -/
theorem noSell_afterExits (hspot : x.config.marketCategory = .spot)
    (hforced : ¬ ForcedSaleDue x env s symbol)
    (hquoted : ∀ s₁, exitStage x env s = .ok () s₁ →
      symbol ∈ managedSymbols x.config s.world.rt → ¬ QuotedSaleDue x env s₁ symbol)
    (hheld : SellIntended env symbol → HeldCoin s.world.spot symbol) :
    LoopEmits (NoSell symbol) s (after (afterExits x env) s) := by
  have hperm := env.arrange_perm (managedSymbols x.config s.world.rt)
  have hnodup : (env.arrange (managedSymbols x.config s.world.rt)).Nodup :=
    hperm.nodup_iff.mpr (List.nodup_dedup _)
  have hexits : Moves (OnWorlds KeepsHoldings)
      (forceExits x env (env.arrange (managedSymbols x.config s.world.rt))) := by
    refine moves_each (fun other => ?_) _
    unfold exitSymbol
    refine moves_bind (moves_worlds_onWorld ?_) fun blocked => ?_
    · exact moves_maybeForceExit (exitSteps_holdings x other) fun _ _ _ _ _ => rfl
    · exact moves_ite (fun _ => moves_worlds_modifyVars _) fun _ => moves_pure _
  have hquotes : Moves (OnWorlds KeepsHoldings)
      (placeExitQuotes x env (env.arrange (managedSymbols x.config s.world.rt))) := by
    refine moves_each (fun other => moves_bind moves_get fun _ => moves_worlds_onWorld ?_) _
    exact moves_maybePlacePositionExitQuote (quoteSteps_holdings x other) (fun _ _ _ _ _ => rfl)
      fun _ _ _ _ => rfl
  -- the forced exits: the symbol has its turn once, on the position it had before
  have hfirst : LoopEmits (NoSell symbol) s
      (after (forceExits x env (env.arrange (managedSymbols x.config s.world.rt))) s) := by
    refine after_each_of_turn (R := Aside x symbol) hnodup (fun _ _ h => h.emits)
      (fun other hne => aside_exitSymbol hne) fun hmem s₁ haside => noSell_exitSymbol ?_
    rintro ⟨hlong, hdue⟩
    have hposition : s₁.world.rt.position symbol = s.world.rt.position symbol :=
      congrArg ExitView.position haside.view
    rw [hposition] at hlong
    exact hforced ⟨hperm.mem_iff.mp hmem, hlong, hdue.congr haside.view.symm⟩
  unfold afterExits
  rw [after_get_bind]
  dsimp only
  rcases after_bind_cases (forceExits x env (env.arrange (managedSymbols x.config s.world.rt))) _ s
    with h | ⟨u, hreturned, h⟩
  · rw [h]
    exact hfirst
  rw [h]
  refine trans_of (LoopEmits _) hfirst ?_
  have hheld₁ := fun hintended => (hheld hintended).congr (hexits.of_ok hreturned)
  have hdue := hquoted _ (by
    unfold exitStage
    rw [bind_of_ok (get_run s)]
    exact hreturned)
  generalize after (forceExits x env (env.arrange (managedSymbols x.config s.world.rt))) s = s₁
    at hheld₁ hdue ⊢
  -- the exit quotes
  have hsecond : LoopEmits (NoSell symbol) s₁
      (after (placeExitQuotes x env (env.arrange (managedSymbols x.config s.world.rt))) s₁) := by
    refine after_each_of_turn (R := Aside x symbol) hnodup (fun _ _ h => h.emits)
      (fun other hne => aside_quoteSymbol hne) fun hmem s₂ haside => noSell_quoteSymbol ?_
    rintro ⟨hlong, price, hprice⟩
    refine hdue (hperm.mem_iff.mp hmem) ⟨?_, price, hprice.congr haside.view.symm ?_⟩
    · have hposition : s₂.world.rt.position symbol = s₁.world.rt.position symbol :=
        congrArg ExitView.position haside.view
      rwa [hposition] at hlong
    · unfold LoopVars.quotesOf
      rw [haside.quotes]
  rcases after_bind_cases (placeExitQuotes x env
    (env.arrange (managedSymbols x.config s.world.rt))) _ s₁ with h | ⟨u, hreturned, h⟩
  · rw [h]
    exact hsecond
  rw [h]
  refine trans_of (LoopEmits _) hsecond ?_
  -- the intents
  exact (guarded_processIntents hspot _
    fun hintended => (hheld₁ hintended).congr (hquotes.of_ok hreturned)).2

theorem sendOrders_eq_cancel_bind :
    sendOrders x env = cancelOurOrders env >>= fun _ => afterExits x env := rfl

/-- The body of an iteration sells nothing of a symbol it spares. -/
theorem noSell_loopBody {begun : World} (hspot : x.config.marketCategory = .spot)
    (h : SparesCoin x env begun symbol) :
    LoopEmits (NoSell symbol) ⟨begun, .initial⟩ (after (loopBody x env) ⟨begun, .initial⟩) := by
  unfold loopBody
  cases horders : env.openOrders with
  | error text => exact refl_of (LoopEmits _) _
  | ok reply =>
    simp only [Except.mapError, fromExcept_ok, pure_bind]
    split_ifs with hstop hok
    · exact emits_of_eq rfl
    -- taking stock and cancelling come before the exits, and sell nothing
    · have hstock : Moves (LoopEmits (NoSell symbol)) (takeStock x env reply.list) := by
        refine emits_takeStock ⟨fun hlinear => ?_, ?_⟩ _
        · rw [hspot] at hlinear
          cases hlinear
        · intro signalId order accepted hsame
          cases hsame
      rcases after_bind_cases (takeStock x env reply.list) _ ⟨begun, .initial⟩ with hraised |
        ⟨⟨⟩, hstocked, hafter⟩
      · rw [hraised]
        exact hstock _
      rw [hafter]
      refine trans_of (LoopEmits _) (hstock _) ?_
      generalize after (takeStock x env reply.list) ⟨begun, .initial⟩ = s₁ at hstocked ⊢
      have hcancels : LoopEmits (NoSell symbol) s₁ (after (cancelOurOrders env) s₁) := by
        refine emits_cancelOurOrders fun link _ accepted order accepted' hsame => ?_
        cases hsame
      rw [sendOrders_eq_cancel_bind]
      rcases after_bind_cases (cancelOurOrders env) _ s₁ with hraised | ⟨⟨⟩, hcancelled, hafter⟩
      · rw [hraised]
        exact hcancels
      rw [hafter]
      refine trans_of (LoopEmits _) hcancels ?_
      generalize after (cancelOurOrders env) s₁ = s₂ at hcancelled ⊢
      -- what the exits start from is what the hypotheses speak of
      have hbefore : beforeExits x env reply.list ⟨begun, .initial⟩ = .ok () s₂ := by
        unfold beforeExits
        rw [bind_of_ok hstocked]
        exact hcancelled
      have hexits : stateAtExits x env begun = some s₂ :=
        stateAfter_eq_some.mpr ⟨reply, horders, hok, hbefore⟩
      refine noSell_afterExits hspot (h.forced s₂ hexits) (fun s₃ hreturned => ?_) (h.held s₂ hexits)
      refine h.quoted s₂ s₃ hexits (stateAfter_eq_some.mpr ⟨reply, horders, hok, ?_⟩)
      rw [bind_of_ok hbefore]
      exact hreturned
    · exact refl_of (LoopEmits _) _

/-- An iteration sells nothing of a symbol it spares. -/
theorem noSell_of_spares {w : World} (hspot : x.config.marketCategory = .spot)
    (h : ∀ begun, bodyBegin x env w = some begun → SparesCoin x env begun symbol) :
    ¬ SellSent x env w symbol := by
  rintro ⟨event, hevent, hsells⟩
  unfold bodyEvents at hevent
  cases hbegin : bodyBegin x env w with
  | none =>
    rw [hbegin] at hevent
    cases hevent
  | some begun =>
    rw [hbegin] at hevent
    obtain ⟨events, htrace, hnone⟩ := noSell_loopBody hspot (h begun hbegin)
    dsimp only at htrace hevent
    rw [htrace, List.drop_left] at hevent
    exact hsells (hnone event hevent)

end Iteration

/-! ### Runs -/

/-- No held coin is sold by a run: every iteration leaves alone what is held when it begins. -/
def HeldCoinsKept (x : Context) (envs : List LoopEnv) (w : World) : Prop :=
  ∀ t ∈ transitions (iteration x) envs w, ∀ symbol, HeldCoin t.before.spot symbol →
    ¬ SellSent x t.input t.before symbol

/-- In a spot run in which no exit of a held coin is due, and which holds on to the coins the
strategy wants to sell, no held coin is sold. -/
theorem held_coins_not_sold (x : Context) (envs : List LoopEnv) (w : World)
    (hspot : x.config.marketCategory = .spot)
    (hspares : ∀ t ∈ transitions (iteration x) envs w, ∀ symbol, HeldCoin t.before.spot symbol →
      ∀ begun, bodyBegin x t.input t.before = some begun →
        SparesCoin x t.input begun symbol) :
    HeldCoinsKept x envs w := by
  intro t ht symbol hheld
  exact noSell_of_spares hspot (hspares t ht symbol hheld)

/-! ### Two runs -/

/-- A spot run that configures no symbol. -/
def idleSpot : Context := { spotMarket with config := .default [] .spot }

/-- One coin that was recovered from the exchange. -/
def recoveredCoin : World :=
  { World.initial idleSpot.config with
    spot := (World.initial idleSpot.config).spot.upsertSpotHolding ⟨unified, "AAAUSDT", "AAA"⟩
      (recoveredHoldingRow (recoveryWith []) 1) }

/-- An iteration in which the strategy wants to sell it. -/
def sellingEnv : LoopEnv :=
  { buyingEnv 1000 100 "e1" "1" with
    fetches := []
    intents := .ok [⟨{ plainIntent 1 with symbol := "AAAUSDT", side := "Sell" }, plainIntentEnv⟩] }

/-- The hold policy keeps the coin. -/
theorem recovered_coin_kept :
    HeldCoin recoveredCoin.spot "AAAUSDT" ∧ SellIntended sellingEnv "AAAUSDT" ∧
      HeldCoinsKept idleSpot [sellingEnv] recoveredCoin := by
  have hheld : (recoveredCoin.spot.holdingOf (Text.upper "AAAUSDT")).any
      (fun e => e.2.isProtected) = true := by decide +kernel
  have hbegin : ∀ begun, bodyBegin idleSpot sellingEnv recoveredCoin = some begun →
      begun = recoveredCoin := by
    intro begun h
    unfold bodyBegin at h
    rw [if_neg (by decide +kernel)] at h
    exact (Option.some.inj h).symm
  have hexits : stateAtExits idleSpot sellingEnv recoveredCoin = some ⟨recoveredCoin, .initial⟩ := rfl
  refine ⟨(Option.any_eq_true _ _).mp hheld, ⟨_, rfl, _, List.mem_singleton_self _, rfl, ?_⟩, ?_⟩
  · unfold IsSell
    decide
  refine held_coins_not_sold idleSpot [sellingEnv] recoveredCoin rfl ?_
  intro t ht symbol hsymbol begun hbegun
  obtain rfl := List.mem_singleton.mp ht
  obtain rfl := hbegin begun hbegun
  have hnone : ∀ s, stateAtExits idleSpot sellingEnv recoveredCoin = some s →
      s = ⟨recoveredCoin, .initial⟩ := fun s hs => Option.some.inj (hs.symm.trans hexits)
  refine ⟨?_, ?_, ?_⟩
  · rintro s hs ⟨hmanaged, -⟩
    rw [hnone s hs] at hmanaged
    cases hmanaged
  · intro s s₁ hs _ hmanaged
    rw [hnone s hs] at hmanaged
    cases hmanaged
  · intro s hs _
    rw [hnone s hs]
    exact hsymbol

/-- A start on empty tables: 0.4 were bought by hand within a day, and the wallet holds one. -/
def boughtByHand : RecoveryEnv :=
  { recoveryWith [plainItem "e1" "Buy" "0.4" "100"] with
    wallet := .ok ⟨⟨some 0, none⟩, [⟨some "AAA", some "1"⟩]⟩ }

/-- The state after this start. -/
def recoveredByHand : World :=
  after (recoverPositionsOnStartup spotMarket boughtByHand) (.initial spotMarket.config)

/-- An iteration at half the price. -/
def fallingEnv : LoopEnv := { buyingEnv 1000 50 "e1" "0.4" with fetches := [], intents := .ok [] }

/-- The sale of what was bought by hand. -/
def forcedSale : OrderRequest where
  symbol := "AAAUSDT"
  side := "Sell"
  qty := 2 / 5
  price := 50
  orderLinkId := "force-exit-AAAUSDT-AAAUSDT"
  timeInForce := "IOC"
  orderType := "Limit"

/-- The price falls to a half, and the coin that was recovered is sold. -/
theorem recovered_coin_sold : ¬ HeldCoinsKept spotMarket [fallingEnv] recoveredByHand := by
  intro h
  have hheld : (recoveredByHand.spot.holdingOf (Text.upper "AAAUSDT")).any
      (fun e => e.2.isProtected) = true := by decide +kernel
  have hsent : .placeOrder forcedSale true ∈ bodyEvents spotMarket fallingEnv recoveredByHand := by
    decide +kernel
  refine h ⟨recoveredByHand, fallingEnv, _⟩ List.mem_cons_self "AAAUSDT"
    ((Option.any_eq_true _ _).mp hheld) ⟨_, hsent, fun hnone => ?_⟩
  refine hnone forcedSale true rfl rfl ?_
  unfold IsSell
  decide

end Botik
