import Botik.Main.TradingLoop

/-!
# The steps of the stages

Every routine of an iteration is a sequence of a few kinds of steps. A relation of states that
allows these steps holds between the states before and after the routine, whatever raises.

## Main definitions

* `QuoteSteps`, `ExitSteps`, `EntrySteps` — the relation allows the steps of an exit quote, of a
  forced exit, of an entry
* `OnWorlds` — a relation of states of the tables, in an iteration

## Main results

* `moves_maybeForceExit`, `moves_maybePlacePositionExitQuote`
* `moves_processIntent`, `moves_sendOrders`
-/

namespace Botik

open Program

/-- Remembering a floor touches no order. -/
theorem sameOrders_cachePositionFloor (symbol : String) (floor : ℚ) (w : World) :
    SameOrders w (cachePositionFloor symbol floor w) := by
  unfold cachePositionFloor
  split_ifs <;> exact ⟨rfl, rfl, rfl, rfl⟩

theorem sameOrders_cacheNotionalFloor (symbol : String) (floor : ℚ) (w : World) :
    SameOrders w (cacheNotionalFloor symbol floor w) := by
  unfold cacheNotionalFloor
  split_ifs <;> exact ⟨rfl, rfl, rfl, rfl⟩

/-! ### Exits -/

/-- The relation allows every step of an exit quote of a symbol, besides its calls. -/
structure QuoteSteps (x : Context) (symbol : String) (R : World → World → Prop) : Prop where
  tables : AllowsRecords R
  timestamps : ∀ times w, R w { w with rt := { w.rt with orderTimestamps := times } }
  positionFloor : ∀ w, R w (cachePositionFloor symbol (resolvedPositionFloor x w.rt symbol) w)
  notionalFloor : ∀ w, R w (cacheNotionalFloor symbol (resolvedNotionalFloor x w.rt symbol) w)
  dust : ∀ clock w, R w (suppressDust x.config clock symbol w)

/-- The relation allows every step of a forced exit of a symbol, besides its call. -/
structure ExitSteps (x : Context) (symbol : String) (R : World → World → Prop) : Prop extends
    QuoteSteps x symbol R where
  details : ∀ f w, R w (setDetails symbol f w)
  forced : ∀ clock w, R w (noteForceExit clock symbol w)
  decided : ∀ w, R w (note (.decideExit symbol) w)

section Exits

variable {R : World → World → Prop} {x : Context} {symbol : String}

theorem moves_resolvePositionFloor (h : QuoteSteps x symbol R) :
    Moves R (resolvePositionFloor x symbol) := by
  intro w
  unfold resolvePositionFloor
  rw [after_get_bind, after_modify_bind, after_pure]
  exact h.positionFloor w

theorem moves_resolvePositionNotionalFloor (h : QuoteSteps x symbol R) :
    Moves R (resolvePositionNotionalFloor x symbol) := by
  intro w
  unfold resolvePositionNotionalFloor
  rw [after_get_bind, after_modify_bind, after_pure]
  exact h.notionalFloor w

variable [IsPreorder World R]

theorem moves_auditExit (h : AllowsRecords R) (env : ExitEnv) (site : ExitSite)
    (eventType : String) (refId : Option String) :
    Moves R (auditExit x env site symbol eventType refId) :=
  moves_write fun w => h.tables w _ ⟨rfl, rfl, rfl, rfl⟩ ⟨rfl, rfl, rfl, rfl⟩

/-- What follows the answer to a forced exit. -/
theorem moves_forceExitAnswered {env : ExitEnv} {order : OrderRequest} (h : ExitSteps x symbol R)
    (hsymbol : order.symbol = symbol) (reply : OrderReply) :
    Moves R (do
      modify (noteForceExit env.sentClock order.symbol)
      if reply.retCode = some 0 then recordForceExit x env order reply
      else if reply.isInvalidQty then do
        modify (suppressDust x.config env.sentClock order.symbol)
        return false
      else do
        auditExit x env .failureAudit order.symbol "forced_exit_submission_failed"
          (some order.orderLinkId)
        return true) := by
  subst hsymbol
  have hrecord : Moves R (recordForceExit x env order reply) := by
    unfold recordForceExit
    refine moves_bind (moves_modify fun w => h.timestamps _ w) fun _ => ?_
    refine moves_bind moves_get fun w => ?_
    refine moves_bind (moves_recordOrder h.tables x _ _ _ _ _) fun _ => ?_
    exact moves_bind (moves_auditExit h.tables env _ _ _) fun _ => moves_pure _
  refine moves_bind (moves_modify (h.forced _)) fun _ => ?_
  refine moves_ite (fun _ => hrecord) fun _ => ?_
  refine moves_ite (fun _ => moves_bind (moves_modify (h.dust _)) fun _ => moves_pure _) fun _ => ?_
  exact moves_bind (moves_auditExit h.tables env _ _ _) fun _ => moves_pure _

theorem moves_sendForceExit {env : ExitEnv} {order : OrderRequest} (h : ExitSteps x symbol R)
    (hsymbol : order.symbol = symbol)
    (hsend : ∀ accepted w, R w (note (.placeOrder order accepted) w)) :
    Moves R (sendForceExit x env order) :=
  moves_bind (moves_placeOrder (hsend _)) fun reply => moves_forceExitAnswered h hsymbol reply

theorem moves_decideExit {env : ExitEnv} (h : ExitSteps x symbol R) (mark : ℚ) :
    Moves R (decideExit x env symbol mark) := by
  unfold decideExit
  refine moves_bind moves_get fun w => ?_
  refine moves_bind (moves_modify h.decided) fun _ => ?_
  refine moves_bind (moves_modify (h.details _)) fun _ => ?_
  cases x.config.marketCategory with
  | spot => exact moves_pure _
  | linear => exact moves_read

/-- The order of a forced exit closes what is held. -/
theorem moves_forceExit {env : ExitEnv} {book : OrderBookAggregate} {reason : ExitReason}
    (h : ExitSteps x symbol R) (hsend : ∀ qty accepted w,
      R w (note (.placeOrder (forceExitOrder x.config env symbol qty book reason) accepted) w)) :
    Moves R (forceExit x env symbol book reason) := by
  unfold forceExit
  refine moves_bind moves_get fun w => ?_
  refine moves_bind (moves_auditExit h.tables env _ _ _) fun _ => ?_
  refine moves_ite (fun _ => moves_pure _) fun _ => ?_
  exact moves_ite (fun _ => moves_pure _) fun _ => moves_sendForceExit h rfl (hsend _)

/-- The steps of `maybe_force_exit`. -/
theorem moves_maybeForceExit {env : ExitEnv} (h : ExitSteps x symbol R)
    (hsend : ∀ qty book reason accepted w,
      R w (note (.placeOrder (forceExitOrder x.config env symbol qty book reason) accepted) w)) :
    Moves R (maybeForceExit x env symbol) := by
  have hbook : ∀ notionalFloor book, Moves R (exitAtBook x env symbol notionalFloor book) := by
    intro notionalFloor book
    unfold exitAtBook
    refine moves_bind moves_get fun w => ?_
    refine moves_ite (fun _ => moves_bind (moves_modify (h.dust _)) fun _ => moves_pure _)
      fun _ => ?_
    refine moves_bind (moves_decideExit h _) fun reason => ?_
    cases reason with
    | none => exact moves_pure _
    | some reason => exact moves_forceExit h fun qty => hsend qty book reason
  have hposition : Moves R (exitPosition x env symbol) := by
    unfold exitPosition
    refine moves_bind (moves_resolvePositionNotionalFloor h.toQuoteSteps) fun notionalFloor => ?_
    refine moves_bind moves_get fun w => ?_
    refine moves_ite (fun _ => moves_bind (moves_modify (h.dust _)) fun _ => moves_pure _)
      fun _ => ?_
    refine moves_bind (moves_modify fun w => h.details _ w) fun _ => ?_
    cases env.book with
    | none => exact moves_pure _
    | some book => exact hbook notionalFloor book
  unfold maybeForceExit
  refine moves_bind moves_get fun w => ?_
  refine moves_ite (fun _ => moves_pure _) fun _ => ?_
  refine moves_ite (fun _ => moves_pure _) fun _ => ?_
  refine moves_bind (moves_resolvePositionFloor h.toQuoteSteps) fun floor => ?_
  exact moves_ite (fun _ => moves_pure _) fun _ => hposition

theorem moves_cancelQuote {env : QuoteEnv} {order : OpenOrder}
    (hcancel : ∀ orderSymbol accepted w, R w (note (.cancelOrder orderSymbol
      (Text.strip (Text.orEmpty order.orderLinkId)) accepted) w)) :
    Moves R (cancelQuote env symbol order) := by
  unfold cancelQuote
  exact moves_ite (fun _ => moves_pure _) fun _ => moves_cancelOrder (hcancel _ _)

/-- What follows the answer to an exit quote. -/
theorem moves_exitQuoteAnswered {env : QuoteEnv} {order : OrderRequest} (h : QuoteSteps x symbol R)
    (hsymbol : order.symbol = symbol) (reply : OrderReply) :
    Moves R (if reply.retCode = some 0 then recordExitQuote x env order reply
      else if reply.isInvalidQty then modify (suppressDust x.config env.sentClock order.symbol)
      else pure ()) := by
  subst hsymbol
  have hrecord : Moves R (recordExitQuote x env order reply) := by
    unfold recordExitQuote
    refine moves_bind (moves_modify fun w => h.timestamps _ w) fun _ => ?_
    refine moves_bind moves_get fun w => ?_
    exact moves_recordOrder h.tables x _ _ _ _ _
  refine moves_ite (fun _ => hrecord) fun _ => ?_
  exact moves_ite (fun _ => moves_modify (h.dust _)) fun _ => moves_pure _

theorem moves_sendExitQuote {env : QuoteEnv} {order : OrderRequest} (h : QuoteSteps x symbol R)
    (hsymbol : order.symbol = symbol)
    (hsend : ∀ accepted w, R w (note (.placeOrder order accepted) w)) :
    Moves R (sendExitQuote x env order) :=
  moves_bind (moves_placeOrder (hsend _)) fun reply => moves_exitQuoteAnswered h hsymbol reply

/-- The steps of `maybe_place_position_exit_quote`. -/
theorem moves_maybePlacePositionExitQuote {env : QuoteEnv} {openQuotes : List OpenOrder}
    (h : QuoteSteps x symbol R)
    (hcancel : ∀ order ∈ openQuotes, ∀ orderSymbol accepted w, R w (note (.cancelOrder orderSymbol
      (Text.strip (Text.orEmpty order.orderLinkId)) accepted) w))
    (hsend : ∀ qty price accepted w,
      R w (note (.placeOrder (exitQuoteOrder env symbol qty price) accepted) w)) :
    Moves R (maybePlacePositionExitQuote x env symbol openQuotes) := by
  have hreplace : ∀ floor price,
      Moves R (replaceQuotes x env symbol floor price openQuotes) := by
    intro floor price
    unfold replaceQuotes
    refine moves_bind moves_get fun w => moves_bind (moves_fromExcept _) fun same => ?_
    refine moves_ite (fun _ => moves_pure _) fun _ => ?_
    refine moves_bind (moves_each_of_mem fun order horder => ?_) fun _ => ?_
    · exact moves_cancelQuote (hcancel order horder)
    · exact moves_sendExitQuote h rfl (hsend _ _)
  have hposition : ∀ floor, Moves R (quotePosition x env symbol floor openQuotes) := by
    intro floor
    unfold quotePosition
    refine moves_bind (moves_resolvePositionNotionalFloor h) fun notionalFloor => ?_
    refine moves_bind moves_get fun w => ?_
    split
    · exact moves_pure _
    · exact moves_ite (fun _ => moves_modify (h.dust _)) fun _ => hreplace _ _
  unfold maybePlacePositionExitQuote
  refine moves_bind moves_get fun w => ?_
  refine moves_ite (fun _ => moves_pure _) fun _ => ?_
  refine moves_ite (fun _ => moves_pure _) fun _ => ?_
  refine moves_bind (moves_resolvePositionFloor h) fun floor => ?_
  exact moves_ite (fun _ => moves_pure _) fun _ => hposition floor

end Exits

/-! ### Entries -/

/-- The relation allows every step of an intent, besides its call. -/
structure EntrySteps (R : World → World → Prop) : Prop where
  tables : AllowsRecords R
  timestamps : ∀ times w, R w { w with rt := { w.rt with orderTimestamps := times } }
  details : ∀ symbol f w, R w (setDetails symbol f w)
  stop : ∀ w, R w (stopLoop w)

section Entries

variable {R : World → World → Prop} [IsPreorder World R] {x : Context} {env : IntentEnv}
  {intent : OrderIntent}

theorem moves_recordSignal (h : AllowsRecords R) : Moves R (recordSignal env intent) :=
  moves_write fun w => h.tables w _ ⟨rfl, rfl, rfl, rfl⟩ ⟨rfl, rfl, rfl, rfl⟩

theorem moves_lockBlocks (h : AllowsRecords R) : Moves R (lockBlocks x env intent) := by
  unfold lockBlocks
  refine moves_bind moves_read fun reason => ?_
  cases reason with
  | none => exact moves_pure _
  | some _ =>
    refine moves_bind (moves_write fun w => ?_) fun _ => moves_pure _
    exact h.tables w _ ⟨rfl, rfl, rfl, rfl⟩ ⟨rfl, rfl, rfl, rfl⟩

theorem moves_holdPolicyBlocks : Moves R (holdPolicyBlocks x env intent) :=
  moves_ite (fun _ => moves_read) fun _ => moves_pure _

theorem moves_futuresRejection : Moves R (futuresRejection x env intent) := by
  unfold futuresRejection
  cases x.config.marketCategory with
  | spot => exact moves_pure _
  | linear => exact moves_bind moves_get fun _ => moves_read

/-- The risk manager only forgets the orders older than a minute. -/
theorem moves_checkRisk (h : EntrySteps R) (vars : LoopVars) :
    Moves R (checkRisk x env vars intent) :=
  moves_bind (moves_modify fun w => h.timestamps _ w) fun _ => moves_bind moves_get fun _ =>
    moves_pure _

theorem moves_placeIntent (hsend : ∀ accepted w, R w (note (.placeOrder
      (intent.request (entryTimeInForce x.config intent)) accepted) w)) :
    Moves R (placeIntent x env intent) := by
  have hguarded : Moves R
      (guardedPlaceOrder x.config env intent (entryTimeInForce x.config intent)) := by
    unfold guardedPlaceOrder
    cases guardRefusal x.config env intent (entryTimeInForce x.config intent) with
    | none => exact moves_placeOrder (hsend _)
    | some refusal => exact moves_pure _
  unfold placeIntent
  refine moves_bind hguarded fun reply => ?_
  refine moves_ite (fun _ => moves_pure _) fun _ => ?_
  exact moves_ite (fun _ => moves_pure _) fun _ => moves_pure _

theorem moves_gateIntent (h : EntrySteps R) (hsend : ∀ accepted w, R w (note (.placeOrder
      (intent.request (entryTimeInForce x.config intent)) accepted) w)) (vars : LoopVars) :
    Moves R (gateIntent x env vars intent) := by
  unfold gateIntent
  refine moves_bind (moves_lockBlocks h.tables) fun _ => ?_
  refine moves_ite (fun _ => moves_pure _) fun _ => ?_
  refine moves_bind moves_holdPolicyBlocks fun _ => ?_
  refine moves_ite (fun _ => moves_pure _) fun _ => ?_
  refine moves_bind moves_futuresRejection fun rejection => ?_
  cases rejection with
  | some reason => exact moves_pure _
  | none =>
    refine moves_bind (moves_checkRisk h vars) fun _ => ?_
    exact moves_ite (fun _ => moves_placeIntent hsend) fun _ => moves_pure _

theorem moves_submitIntent (h : EntrySteps R) (hsend : ∀ sent,
      intentToSend x.config env intent = some sent → ∀ accepted w, R w (note (.placeOrder
        (sent.request (entryTimeInForce x.config sent)) accepted) w)) (vars : LoopVars) :
    Moves R (submitIntent x env vars intent) := by
  unfold submitIntent
  cases hsent : intentToSend x.config env intent with
  | none => exact moves_pure _
  | some sent =>
    exact moves_bind (moves_recordSignal h.tables) fun _ =>
      moves_gateIntent h (hsend sent hsent) vars

/-- The records of an accepted entry only write tables. -/
theorem moves_recordEntry (h : AllowsRecords R) (reply : OrderReply) :
    Moves R (recordEntry x env intent reply) := by
  have hplan : Moves R (planEntryProtection x env intent) := by
    unfold planEntryProtection
    refine moves_bind moves_get fun w => ?_
    dsimp only
    split
    · exact moves_write fun w => h.tables w _ ⟨rfl, rfl, rfl, rfl⟩ ⟨rfl, rfl, rfl, rfl⟩
    · exact moves_pure _
  unfold recordEntry
  exact moves_bind (moves_recordOrder h x _ _ _ _ _) fun _ => hplan

end Entries

/-! ### In an iteration -/

/-- The relation holds for the tables of two states of an iteration. -/
def OnWorlds (R : World → World → Prop) (s s' : LoopState) : Prop := R s.world s'.world

instance (R : World → World → Prop) [IsPreorder World R] : IsPreorder LoopState (OnWorlds R) where
  refl s := refl_of R s.world
  trans _ _ _ h h' := trans_of R h h'

section Iteration

variable {R : World → World → Prop} {x : Context}

theorem moves_worlds_onWorld {α : Type} {m : RunM α} (h : Moves R m) :
    Moves (OnWorlds R) (onWorld m) :=
  moves_zoom fun s => h s.world

variable [IsPreorder World R]

theorem moves_worlds_modifyVars (f : LoopVars → LoopVars) : Moves (OnWorlds R) (modifyVars f) :=
  moves_modify fun s => refl_of R s.world

/-- The steps of an intent. -/
theorem moves_processIntent (h : EntrySteps R) {i : IntentInput} (hsend : ∀ sent,
      intentToSend x.config i.env i.intent = some sent → ∀ accepted w, R w (note (.placeOrder
        (sent.request (entryTimeInForce x.config sent)) accepted) w)) :
    Moves (OnWorlds R) (processIntent x i) := by
  have hcount : ∀ (intent : OrderIntent) (w : World),
      R w (adoptActions intent (registerOrderPlaced i.env.sentClock w)) :=
    fun intent w => trans_of R (h.timestamps _ w) (h.details _ _ _)
  unfold processIntent
  refine moves_bind moves_get fun s => ?_
  refine moves_ite (fun _ => moves_pure _) fun _ => ?_
  refine moves_ite (fun _ => moves_pure _) fun _ => ?_
  refine moves_bind (moves_worlds_onWorld (moves_submitIntent h hsend s.vars)) fun r => ?_
  cases r with
  | skipped => exact moves_pure _
  | stopped => exact moves_worlds_onWorld (moves_modify h.stop)
  | accepted intent reply =>
    refine moves_bind (moves_modify fun s => hcount intent s.world) fun _ => ?_
    exact moves_worlds_onWorld (moves_recordEntry h.tables reply)

/-- The steps of the stages that send orders. -/
theorem moves_sendOrders {env : LoopEnv} (hexits : ∀ symbol, ExitSteps x symbol R)
    (hentries : EntrySteps R) (hcalls : ∀ event w, R w (note event w)) :
    Moves (OnWorlds R) (sendOrders x env) := by
  -- a cancellation writes no table
  have hcancel : Moves (OnWorlds R) (cancelOurOrders env) := by
    unfold cancelOurOrders
    refine moves_bind moves_get fun s => moves_worlds_onWorld (moves_each (fun link => ?_) _)
    exact moves_cancelOrder fun w => hcalls _ w
  have hexit : ∀ symbol, Moves (OnWorlds R) (exitSymbol x env symbol) := by
    intro symbol
    have hforced : Moves R (maybeForceExit x (env.exits symbol) symbol) :=
      moves_maybeForceExit (hexits symbol) fun _ _ _ _ w => hcalls _ w
    unfold exitSymbol
    refine moves_bind (moves_worlds_onWorld hforced) fun blocked => ?_
    exact moves_ite (fun _ => moves_worlds_modifyVars _) fun _ => moves_pure _
  have hquote : ∀ symbol, Moves (OnWorlds R) (quoteSymbol x env symbol) := by
    intro symbol
    unfold quoteSymbol
    refine moves_bind moves_get fun s => moves_worlds_onWorld ?_
    exact moves_maybePlacePositionExitQuote (hexits symbol).toQuoteSteps
      (fun _ _ _ _ w => hcalls _ w) fun _ _ _ w => hcalls _ w
  have hintent : ∀ i, Moves (OnWorlds R) (processIntent x i) := fun i =>
    moves_processIntent hentries fun _ _ _ w => hcalls _ w
  unfold sendOrders
  refine moves_bind hcancel fun _ => moves_bind moves_get fun s => ?_
  refine moves_bind (moves_each hexit _) fun _ => moves_bind (moves_each hquote _) fun _ => ?_
  -- a strategy that raises ends the iteration
  exact moves_bind (moves_fromExcept _) fun intents => moves_each hintent intents

end Iteration

end Botik
