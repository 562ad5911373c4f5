import Botik.Main.Traces
import Botik.Strategy.SpikeReversal
import Botik.Theorems.PositionCount

/-!
# Entry quotes of an earlier iteration

Every iteration cancels the entry quotes it finds in the list of open orders, and knows them by the
beginning of their links. `MicroSpreadStrategy` makes links of this kind. The links of
`SpikeReversalStrategy` begin differently, so its resting orders are never cancelled.

## Main definitions

* `strategyIntents`, `AsksStrategy` — the intents of a run come from its strategy
* `ordersRead`, `entriesPlaced`, `bodyEvents` — what an iteration reads, places and sends
* `RestingEntry` — an entry of one iteration, found in the next list of open orders
* `EntriesCancelled` — every such order is sent to `cancel_order`
* `CancelReached` — nothing raises before its turn

## Main results

* `cancelSent_iff` — the orders one iteration cancels
* `entries_cancelled_iff` — the runs that cancel their entry quotes
-/

namespace Botik

open Program Runs

/-! ### Runs of a strategy -/

/-- `strategy.get_intents(state)`, of the strategy of the run. -/
def strategyIntents (c : Config) (sc : StrategyConfig) (v : TradingView) :
    StrategyM (List OrderIntent) :=
  if c.spikeReversal then SpikeReversal.getIntents sc v else MicroSpread.getIntents sc v

/-- The intents of an iteration are those of the strategy, at some trading state. -/
def AsksStrategy (x : Context) (sc : StrategyConfig) (env : LoopEnv) : Prop :=
  ∀ inputs, env.intents = .ok inputs → ∃ v times times',
    strategyIntents x.config sc v times = .ok (inputs.map IntentInput.intent) times'

/-- The state in which the body of an iteration begins, if it is not skipped. -/
def bodyBegin (x : Context) (env : LoopEnv) (w : World) : Option World :=
  if x.executor.isNone ∨ w.rt.stopped = true ∨ env.panic.isSome ∨ env.paused = true then none
  else some (reconcileIfDue env w)

/-- The calls and decisions of the body of an iteration. -/
def bodyEvents (x : Context) (env : LoopEnv) (w : World) : List Event :=
  match bodyBegin x env w with
  | none => []
  | some begun => (after (loopBody x env) ⟨begun, .initial⟩).world.trace.drop begun.trace.length

/-- The entries an iteration placed. -/
def entriesPlaced (x : Context) (env : LoopEnv) (w : World) : List OrderIntent :=
  match bodyBegin x env w with
  | none => []
  | some begun => acceptedIntents x env begun

/-- The open orders an iteration reads, if it reads them successfully. -/
def ordersRead (x : Context) (env : LoopEnv) (w : World) : Option (List OpenOrder) :=
  if (bodyBegin x env w).isNone then none
  else
    match env.openOrders with
    | .error _ => none
    | .ok reply => if reply.retCode = some 0 then some reply.list else none

/-- In a run, an order that the iteration `env` reads in the state `w'` is an entry of an earlier
iteration, and no iteration between the two read the open orders. -/
def RestingEntry (x : Context) (envs : List LoopEnv) (w : World) (env : LoopEnv) (w' : World)
    (listed : List OpenOrder) (order : OpenOrder) : Prop :=
  ∃ before first between rest intent,
    envs = before ++ first :: (between ++ env :: rest) ∧
      intent ∈ entriesPlaced x first (runLoop x before w) ∧
      (∀ t ∈ transitions (iteration x) between (runLoop x (before ++ [first]) w),
        ordersRead x t.input t.before = none) ∧
      w' = runLoop x (before ++ first :: between) w ∧
      ordersRead x env w' = some listed ∧ order ∈ listed ∧
      order.orderLinkId = some intent.orderLinkId

/-- An order of the list is sent to `cancel_order`. -/
def CancelSent (x : Context) (env : LoopEnv) (w : World) (order : OpenOrder) : Prop :=
  ∃ accepted, Event.cancelOrder (Text.orEmpty order.symbol) (Text.orEmpty order.orderLinkId)
    accepted ∈ bodyEvents x env w

/-- Every entry quote that still rests when the open orders are read next is cancelled then. -/
def EntriesCancelled (x : Context) (envs : List LoopEnv) (w : World) : Prop :=
  ∀ env w' listed order, RestingEntry x envs w env w' listed order → CancelSent x env w' order

/-! ### What is recognised -/

/-- The loop takes the order for an entry quote of its own. -/
def OpenOrder.isOurs (order : OpenOrder) : Bool :=
  Text.startsWith "mm-" (Text.orEmpty order.orderLinkId) ||
    Text.startsWith "spk-" (Text.orEmpty order.orderLinkId)

/-- `our_mm_order_link_ids`, from the list. -/
def ourLinks (listed : List OpenOrder) : List (String × String) :=
  (listed.filter OpenOrder.isOurs).map fun order =>
    (Text.orEmpty order.symbol, Text.orEmpty order.orderLinkId)

/-- Nothing raises before the order's turn: neither the stages that bring the state up to date, nor
an earlier cancellation. -/
def CancelReached (x : Context) (env : LoopEnv) (w : World) (listed : List OpenOrder)
    (order : OpenOrder) : Prop :=
  (∃ begun s, bodyBegin x env w = some begun ∧
    takeStock x env listed ⟨begun, .initial⟩ = .ok () s) ∧
    ∀ link ∈ (ourLinks listed).takeWhile
        (· ≠ (Text.orEmpty order.symbol, Text.orEmpty order.orderLinkId)),
      ∃ reply, env.cancelAnswer link.2 = .ok reply

section Links

variable {x : Context} {env : LoopEnv} {vars vars' : LoopVars} {s s' : LoopState}
  {listed : List OpenOrder} {order : OpenOrder}

/-- All quotes the loop keeps apart are exit quotes. -/
def ExitQuotesOnly (vars : LoopVars) : Prop :=
  ∀ order ∈ vars.openPositionOrders, Text.startsWith "px-" (Text.orEmpty order.orderLinkId) = true

theorem sorted_addOpenOrder (h : vars.addOpenOrder order = .ok vars') :
    vars'.ourOrderLinks = vars.ourOrderLinks ++ ourLinks [order] ∧
      (ExitQuotesOnly vars → ExitQuotesOnly vars') := by
  obtain ⟨price, qty, -, -, rfl⟩ := addOpenOrder_eq_ok h
  unfold LoopVars.sortOrder ourLinks
  by_cases hours : order.isOurs = true
  · have hlinks := hours
    unfold OpenOrder.isOurs at hlinks
    rw [if_pos hlinks]
    refine ⟨by simp [hours, LoopVars.addExposure], fun hquotes => hquotes⟩
  · have hlinks := hours
    unfold OpenOrder.isOurs at hlinks
    rw [if_neg hlinks]
    split_ifs with hquote
    · refine ⟨by simp [hours, LoopVars.addExposure], fun hquotes => ?_⟩
      intro other hother
      rcases List.mem_append.mp hother with hbefore | hnew
      · exact hquotes other hbefore
      · obtain rfl := List.mem_singleton.mp hnew
        exact hquote
    · exact ⟨by simp [hours, LoopVars.addExposure], fun hquotes => hquotes⟩

/-- Reading the open orders collects the entry quotes. -/
theorem sorted_readOpenOrders (h : readOpenOrders listed s = .ok () s') :
    s'.vars.ourOrderLinks = s.vars.ourOrderLinks ++ ourLinks listed ∧
      (ExitQuotesOnly s.vars → ExitQuotesOnly s'.vars) := by
  unfold readOpenOrders at h
  induction listed generalizing s with
  | nil =>
    cases h
    exact ⟨(List.append_nil _).symm, id⟩
  | cons order rest ih =>
    rw [each_cons] at h
    obtain ⟨⟨⟩, s₁, hfirst, hrest⟩ := bind_eq_ok h
    obtain ⟨vars, hadd, rfl⟩ := countOpenOrder_eq_ok hfirst
    obtain ⟨hlinks, hquotes⟩ := sorted_addOpenOrder hadd
    obtain ⟨hlinks', hquotes'⟩ := ih hrest
    refine ⟨?_, fun hs => hquotes' (hquotes hs)⟩
    have hcons : ourLinks (order :: rest) = ourLinks [order] ++ ourLinks rest := by
      unfold ourLinks
      rw [← List.map_append, ← List.filter_append, List.singleton_append]
    rw [hlinks', hcons, ← List.append_assoc, ← hlinks]

/-- What is known of the links once the state is up to date. -/
theorem sorted_takeStock {w : World} (h : takeStock x env listed ⟨w, .initial⟩ = .ok () s) :
    s.vars.ourOrderLinks = ourLinks listed ∧ ExitQuotesOnly s.vars := by
  unfold takeStock at h
  obtain ⟨⟨⟩, s₁, hsymbols, h⟩ := bind_eq_ok h
  cases hsymbols
  obtain ⟨⟨⟩, s₂, hrefresh, h⟩ := bind_eq_ok h
  obtain ⟨w₂, -, rfl⟩ := onWorld_eq_ok hrefresh
  obtain ⟨⟨⟩, s₃, hwallet, h⟩ := bind_eq_ok h
  obtain ⟨w₃, -, rfl⟩ := onWorld_eq_ok hwallet
  obtain ⟨hlinks, hquotes⟩ := sorted_readOpenOrders h
  refine ⟨hlinks.trans (List.nil_append _), hquotes ?_⟩
  intro order horder
  cases horder

end Links

/-! ### The cancellations -/

section Cancellations

variable {x : Context} {env : LoopEnv} {listed : List OpenOrder} {w : World}

/-- The event of a cancellation. -/
def cancelEvent (env : LoopEnv) (link : String × String) : Event :=
  .cancelOrder link.1 link.2 (env.cancelAnswer link.2).accepted

/-- The cancellations that are sent: up to the first that raises. -/
def cancellationsSent (env : LoopEnv) : List (String × String) → List (String × String)
  | [] => []
  | link :: links =>
    match env.cancelAnswer link.2 with
    | .ok _ => link :: cancellationsSent env links
    | .error _ => [link]

/-- A cancellation is sent if the ones before it are answered. -/
theorem mem_cancellationsSent {link : String × String} {links : List (String × String)} :
    link ∈ cancellationsSent env links ↔ link ∈ links ∧
      ∀ other ∈ links.takeWhile (· ≠ link), ∃ reply, env.cancelAnswer other.2 = .ok reply := by
  induction links with
  | nil => simp [cancellationsSent]
  | cons first links ih =>
    rw [cancellationsSent]
    by_cases hfirst : first = link
    · subst hfirst
      cases hanswer : env.cancelAnswer first.2 <;> simp
    · have hne : link ≠ first := Ne.symm hfirst
      rw [List.takeWhile_cons_of_pos (by simpa using hfirst), List.forall_mem_cons, List.mem_cons]
      cases hanswer : env.cancelAnswer first.2 with
      | ok reply => simp [hne, ih]
      | error text => simp [hne]

/-- The trace after the cancellations, whether or not one of them raised. -/
theorem trace_cancelLinks (links : List (String × String)) (w : World) :
    (after (each (fun link => cancelOrder link.1 link.2 (env.cancelAnswer link.2)) links)
      w).trace = w.trace ++ (cancellationsSent env links).map (cancelEvent env) := by
  induction links generalizing w with
  | nil => simp [cancellationsSent]
  | cons link links ih =>
    let w₁ := note (.cancelOrder link.1 link.2 (env.cancelAnswer link.2).accepted) w
    rw [each_cons, cancellationsSent]
    cases hanswer : env.cancelAnswer link.2 with
    | ok reply =>
      have hfirst : cancelOrder link.1 link.2 (.ok reply) w = .ok ()
          (note (.cancelOrder link.1 link.2 (Attempt.accepted (.ok reply))) w) := rfl
      rw [after_bind_of_ok (by simpa only [hanswer] using hfirst), ih]
      simp [note, cancelEvent, hanswer]
    | error text =>
      have hfirst : cancelOrder link.1 link.2 (.error text) w = .error (.api "cancel_order")
          (note (.cancelOrder link.1 link.2 (Attempt.accepted (.error text))) w) := rfl
      rw [after_bind_of_error (by simpa only [hanswer] using hfirst)]
      simp [note, cancelEvent, hanswer]

end Cancellations

/-! ### One iteration -/

/-- Only exit quotes are cancelled. -/
def OnlyExitQuotes (event : Event) : Prop :=
  ∀ symbol link accepted, event = .cancelOrder symbol link accepted →
    Text.startsWith "px-" link = true

/-- After the cancellations, the loop cancels exit quotes only. -/
def LaterStage (s s' : LoopState) : Prop :=
  ExitQuotesOnly s.vars → ExitQuotesOnly s'.vars ∧ LoopEmits OnlyExitQuotes s s'

instance : IsPreorder LoopState LaterStage where
  refl s h := ⟨h, refl_of (LoopEmits OnlyExitQuotes) s⟩
  trans s₁ s₂ s₃ h₁₂ h₂₃ h := by
    obtain ⟨hquotes₂, hemits₁₂⟩ := h₁₂ h
    obtain ⟨hquotes₃, hemits₂₃⟩ := h₂₃ hquotes₂
    exact ⟨hquotes₃, trans_of (LoopEmits OnlyExitQuotes) hemits₁₂ hemits₂₃⟩

section Iteration

variable {x : Context} {env : LoopEnv}

theorem later_exitSymbol (symbol : String) : Moves LaterStage (exitSymbol x env symbol) := by
  have hkeeps : Keeps (fun s : LoopState => s.vars.openPositionOrders)
      (exitSymbol x env symbol) := by
    unfold exitSymbol
    refine moves_bind (keeps_vars_onWorld LoopVars.openPositionOrders) fun blocked => ?_
    exact moves_ite (fun _ => moves_modify fun _ => rfl) fun _ => moves_pure _
  intro s hquotes
  refine ⟨?_, emits_exitSymbol ?_ ?_ s⟩
  · intro order horder
    have hsame : (after (exitSymbol x env symbol) s).vars.openPositionOrders =
        s.vars.openPositionOrders := hkeeps s
    rw [hsame] at horder
    exact hquotes order horder
  · intro symbol link accepted h
    cases h
  · intro qty book reason accepted symbol link accepted' h
    cases h

theorem later_quoteSymbol (symbol : String) : Moves LaterStage (quoteSymbol x env symbol) := by
  have hkeeps : Keeps (fun s : LoopState => s.vars.openPositionOrders)
      (quoteSymbol x env symbol) :=
    moves_bind moves_get fun _ => keeps_vars_onWorld LoopVars.openPositionOrders
  intro s hquotes
  refine ⟨?_, emits_quoteSymbol ?_ ?_⟩
  · intro order horder
    have hsame : (after (quoteSymbol x env symbol) s).vars.openPositionOrders =
        s.vars.openPositionOrders := hkeeps s
    rw [hsame] at horder
    exact hquotes order horder
  · -- the quotes of the symbol keep their beginning without blanks around them
    intro order horder orderSymbol accepted symbol' link' accepted' h
    cases h
    have hquote := hquotes order (List.mem_filter.mp horder).1
    exact Text.startsWith_strip (by decide) (by decide) (by decide) hquote
  · intro qty price accepted symbol' link' accepted' h
    cases h

theorem later_processIntent (i : IntentInput) : Moves LaterStage (processIntent x i) := by
  intro s hquotes
  refine ⟨?_, emits_processIntent ?_ s⟩
  · rcases processIntent_cases x i s with hsame | ⟨intent, -, -, hadded⟩
    · rwa [hsame]
    · rw [hadded]
      exact hquotes
  · intro sent _ timeInForce accepted symbol link accepted' h
    cases h

variable (x env) in
/-- What an iteration sends once the state is up to date. -/
theorem trace_sendOrders {s : LoopState} (hquotes : ExitQuotesOnly s.vars) :
    ∃ later, (after (sendOrders x env) s).world.trace = s.world.trace ++
        ((cancellationsSent env s.vars.ourOrderLinks).map (cancelEvent env) ++ later) ∧
      ∀ event ∈ later, OnlyExitQuotes event := by
  let cancelled := after (cancelOurOrders env) s
  have htrace : cancelled.world.trace = s.world.trace ++
      (cancellationsSent env s.vars.ourOrderLinks).map (cancelEvent env) := by
    change (after (cancelOurOrders env) s).world.trace = _
    unfold cancelOurOrders
    rw [after_get_bind]
    unfold onWorld
    rw [after_zoom]
    exact trace_cancelLinks s.vars.ourOrderLinks s.world
  have hvars : cancelled.vars = s.vars := by
    have hkeeps : Keeps LoopState.vars (cancelOurOrders env) :=
      moves_bind moves_get fun _ => keeps_vars_onWorld id
    exact hkeeps s
  have hlater : Moves LaterStage (do
      let s ← get
      let managed := env.arrange (managedSymbols x.config s.world.rt)
      forceExits x env managed
      placeExitQuotes x env managed
      processIntents x env) := by
    refine moves_bind moves_get fun s => ?_
    refine moves_bind (moves_each later_exitSymbol _) fun _ => ?_
    refine moves_bind (moves_each later_quoteSymbol _) fun _ => ?_
    exact moves_bind (moves_fromExcept _) fun intents => moves_each later_processIntent intents
  unfold sendOrders
  rcases after_bind_cases (cancelOurOrders env) _ s with hraised | ⟨u, -, hreturned⟩
  · refine ⟨[], ?_, by simp⟩
    rw [hraised, List.append_nil]
    exact htrace
  · rw [hreturned]
    obtain ⟨-, later, hgrown, honly⟩ := hlater cancelled (by rw [hvars]; exact hquotes)
    refine ⟨later, ?_, honly⟩
    rw [hgrown, htrace, List.append_assoc]

end Iteration

/-! ### Runs -/

section Runs

variable {x : Context} {env : LoopEnv} {w : World} {listed : List OpenOrder} {order : OpenOrder}

/-- The order is sent to `cancel_order` if its link is recognised and its turn comes. -/
theorem cancelSent_iff (hread : ordersRead x env w = some listed)
    (hlink : Text.startsWith "px-" (Text.orEmpty order.orderLinkId) = false) :
    CancelSent x env w order ↔
      (Text.orEmpty order.symbol, Text.orEmpty order.orderLinkId) ∈ ourLinks listed ∧
        CancelReached x env w listed order := by
  unfold ordersRead at hread
  unfold CancelSent bodyEvents CancelReached
  cases hbegin : bodyBegin x env w with
  | none =>
    rw [hbegin] at hread
    cases hread
  | some begun =>
    rw [hbegin] at hread
    cases horders : env.openOrders with
    | error text =>
      rw [horders] at hread
      cases hread
    | ok reply =>
      simp only [horders, Option.isNone_some, Bool.false_eq_true, if_false] at hread
      split_ifs at hread with hok
      obtain rfl := Option.some.inj hread
      have hstop : reply.retCode ≠ some 10004 := by
        rw [hok]
        decide
      unfold loopBody
      rw [horders]
      simp only [Except.mapError, fromExcept_ok, pure_bind, if_neg hstop, if_pos hok]
      -- nothing is cancelled while the state is brought up to date
      have hsilent : Moves (LoopEmits fun event => ∀ symbol link accepted,
          event ≠ .cancelOrder symbol link accepted) (takeStock x env reply.list) := by
        refine emits_takeStock ⟨?_, ?_⟩ _
        · intro _ env symbol qty accepted symbol' link' accepted' h
          cases h
        · intro signalId symbol link accepted h
          cases h
      cases hstock : takeStock x env reply.list ⟨begun, .initial⟩ with
      | error e s =>
        obtain ⟨events, htrace, hnone⟩ := hsilent.of_error hstock
        rw [after_bind_of_error hstock, htrace, List.drop_left]
        constructor
        · rintro ⟨accepted, hmem⟩
          exact absurd rfl (hnone _ hmem _ _ _)
        · rintro ⟨-, ⟨begun', s', hbegun, hreturned⟩, -⟩
          cases Option.some.inj hbegun
          rw [hstock] at hreturned
          cases hreturned
      | ok u s =>
        obtain ⟨events, htrace, hnone⟩ := hsilent.of_ok hstock
        obtain ⟨hlinks, hquotes⟩ := sorted_takeStock hstock
        obtain ⟨later, hsent, honly⟩ := trace_sendOrders x env hquotes
        rw [after_bind_of_ok hstock, hsent, htrace, hlinks, List.append_assoc, List.drop_left]
        constructor
        · rintro ⟨accepted, hmem⟩
          rcases List.mem_append.mp hmem with hfirst | hmem
          · exact absurd rfl (hnone _ hfirst _ _ _)
          rcases List.mem_append.mp hmem with hcancelled | hlater
          · obtain ⟨link, hin, hevent⟩ := List.mem_map.mp hcancelled
            obtain ⟨hours, hearlier⟩ := mem_cancellationsSent.mp hin
            cases link with
            | mk symbol link =>
              injection hevent with hsymbol hsame
              subst hsymbol
              subst hsame
              exact ⟨hours, ⟨begun, s, rfl, hstock⟩, hearlier⟩
          · have hquote := honly _ hlater _ _ _ rfl
            rw [hlink] at hquote
            cases hquote
        · rintro ⟨hours, -, hearlier⟩
          refine ⟨(env.cancelAnswer (Text.orEmpty order.orderLinkId)).accepted, ?_⟩
          refine List.mem_append_right _ (List.mem_append_left _ ?_)
          exact List.mem_map.mpr ⟨_, mem_cancellationsSent.mpr ⟨hours, hearlier⟩, rfl⟩

/-- An entry has a link of the strategy of the run. -/
theorem link_of_mem_entriesPlaced {sc : StrategyConfig} {intent : OrderIntent}
    (hasks : AsksStrategy x sc env) (h : intent ∈ entriesPlaced x env w) :
    if x.config.spikeReversal then SpikeReversal.IsLink intent.orderLinkId
    else MicroSpread.IsLink intent.orderLinkId := by
  unfold entriesPlaced at h
  cases hbegin : bodyBegin x env w with
  | none =>
    rw [hbegin] at h
    cases h
  | some begun =>
    rw [hbegin] at h
    obtain ⟨inputs, hintents, i, hi, hsent⟩ := sent_of_mem_acceptedIntents h
    obtain ⟨v, times, times', hanswer⟩ := hasks inputs hintents
    rw [(sameOrder_of_intentToSend hsent).orderLinkId]
    unfold strategyIntents at hanswer
    have hmem : i.intent ∈ inputs.map IntentInput.intent := List.mem_map_of_mem hi
    split_ifs at hanswer ⊢ with hmode
    · exact SpikeReversal.link_of_mem hanswer i.intent hmem
    · exact MicroSpread.link_of_mem hanswer i.intent hmem

end Runs

/-- A run cancels its resting entry quotes exactly if its strategy is `MicroSpreadStrategy` wherever
one rests, and nothing raises before the turn of the quote. -/
theorem entries_cancelled_iff (x : Context) (sc : StrategyConfig) (envs : List LoopEnv) (w : World)
    (hasks : ∀ env ∈ envs, AsksStrategy x sc env) :
    EntriesCancelled x envs w ↔
      ∀ env w' listed order, RestingEntry x envs w env w' listed order →
        x.config.spikeReversal = false ∧ CancelReached x env w' listed order := by
  unfold EntriesCancelled
  refine forall_congr' fun env => forall_congr' fun w' => forall_congr' fun listed =>
    forall_congr' fun order => imp_congr_right fun hresting => ?_
  obtain ⟨before, first, between, rest, intent, henvs, hplaced, -, -, hread, horder, hlink⟩ :=
    hresting
  have hstrategy := link_of_mem_entriesPlaced (hasks first (by simp [henvs])) hplaced
  have hsame : Text.orEmpty order.orderLinkId = intent.orderLinkId := by
    rw [hlink]
    rfl
  cases hmode : x.config.spikeReversal with
  | true =>
    -- the links begin with `spkrev-`
    rw [hmode, if_pos rfl, ← hsame] at hstrategy
    rw [cancelSent_iff hread (SpikeReversal.not_exitQuote hstrategy)]
    constructor
    · rintro ⟨hours, -⟩
      obtain ⟨other, hother, hpair⟩ := List.mem_map.mp hours
      have hrecognised := (List.mem_filter.mp hother).2
      unfold OpenOrder.isOurs at hrecognised
      rw [(Prod.mk.inj hpair).2, Bool.or_eq_true] at hrecognised
      exact absurd hrecognised (SpikeReversal.not_isLink hstrategy)
    · rintro ⟨h, -⟩
      cases h
  | false =>
    rw [hmode, if_neg Bool.false_ne_true, ← hsame] at hstrategy
    rw [cancelSent_iff hread (MicroSpread.not_exitQuote hstrategy)]
    have hours : (Text.orEmpty order.symbol, Text.orEmpty order.orderLinkId) ∈ ourLinks listed := by
      refine List.mem_map.mpr ⟨order, List.mem_filter.mpr ⟨horder, ?_⟩, rfl⟩
      unfold OpenOrder.isOurs
      rw [Bool.or_eq_true]
      exact hstrategy
    simp [hours]

/-! ### Two runs -/

/-- A futures run on one symbol, with one of the two strategies. -/
def bitcoinQuotes (spikeReversal : Bool) : Context :=
  { bitcoinLinear with config := { bitcoinLinear.config with spikeReversal := spikeReversal } }

/-- A wide book, and a spike upwards. -/
def spikeView : TradingView where
  paused := false
  activeSymbols := ["BTCUSDT"]
  scannerReady := true
  orderbook := fun symbol => some
    { symbol := symbol, bestBid := 100, bestAsk := 101, mid := 201 / 2, spreadTicks := 100,
      imbalanceTopN := 0, bestBidSize := 1, bestAskSize := 1, tsMs := 0 }
  pairFilter := fun _ => some ⟨some 1, some 20⟩
  activeProfileId := fun _ => none
  tickSize := fun _ => none
  clock := 1000
  hex := fun n => toString n

/-- The answer of the strategy, with what happens around every intent. -/
def askStrategy (c : Config) (sc : StrategyConfig) (v : TradingView) (env : IntentEnv) :
    Except String (List IntentInput) :=
  match strategyIntents c sc v fun _ => 0 with
  | .ok intents _ => .ok (intents.map fun intent => ⟨intent, env⟩)
  | .error text _ => .error text

/-- An iteration on these open orders, at this trading state; every call is answered. -/
def quotingEnv (c : Config) (sc : StrategyConfig) (v : TradingView) (orders : List OpenOrder) :
    LoopEnv :=
  { plainEnv (smallOrder 0) 1 with
    openOrders := .ok ⟨some 0, orders⟩
    cancelAnswer := fun _ => .ok ⟨some 0, none⟩
    intents := askStrategy c sc v { plainIntentEnv with
      book := some { bestBid := 100, bestAsk := 101, mid := 201 / 2 } } }

theorem asksStrategy_quotingEnv {x : Context} {sc : StrategyConfig} {v : TradingView}
    {orders : List OpenOrder} : AsksStrategy x sc (quotingEnv x.config sc v orders) := by
  intro inputs hinputs
  change askStrategy x.config sc v _ = .ok inputs at hinputs
  unfold askStrategy at hinputs
  cases hanswer : strategyIntents x.config sc v fun _ => 0 with
  | error text times =>
    rw [hanswer] at hinputs
    cases hinputs
  | ok intents times =>
    rw [hanswer] at hinputs
    obtain rfl := Except.ok.inj hinputs
    refine ⟨v, fun _ => 0, times, ?_⟩
    rw [hanswer, List.map_map]
    change _ = EStateM.Result.ok (intents.map id) times
    rw [List.map_id]

/-- A resting order of the list. -/
def restingQuote (link : String) : OpenOrder where
  symbol := some "BTCUSDT"
  side := some "Sell"
  price := some "101"
  qty := some "0.1"
  orderLinkId := some link

/-- The default settings, with resting orders in both strategies. -/
def makerSettings : StrategyConfig :=
  { StrategyConfig.default ["BTCUSDT"] with spikeReversalTaker := false }

/-- An iteration that places the orders of the strategy. -/
def placingEnv (spikeReversal : Bool) : LoopEnv :=
  quotingEnv (bitcoinQuotes spikeReversal).config makerSettings spikeView []

/-- The next iteration, which finds one of them. -/
def findingEnv (spikeReversal : Bool) (link : String) : LoopEnv :=
  quotingEnv (bitcoinQuotes spikeReversal).config makerSettings { spikeView with paused := true }
    [restingQuote link]

/-- A fresh process. -/
def quotingWorld (spikeReversal : Bool) : World := .initial (bitcoinQuotes spikeReversal).config

/-- An order of `SpikeReversalStrategy` that rests is not cancelled. -/
theorem spike_order_not_cancelled :
    ¬ ∀ x sc envs w, (∀ env ∈ envs, AsksStrategy x sc env) → EntriesCancelled x envs w := by
  intro h
  have hcancelled := h (bitcoinQuotes true) makerSettings
    [placingEnv true, findingEnv true "spkrev-BTCUSDT-0"] (quotingWorld true) (by
      intro env henv
      simp only [List.mem_cons, List.not_mem_nil, or_false] at henv
      rcases henv with rfl | rfl
      · exact asksStrategy_quotingEnv
      · exact asksStrategy_quotingEnv)
  have hlinks : (entriesPlaced (bitcoinQuotes true) (placingEnv true) (quotingWorld true)).map
      OrderIntent.orderLinkId = ["spkrev-BTCUSDT-0"] := by decide +kernel
  obtain ⟨intent, hplaced, hlink⟩ := List.mem_map.mp (hlinks ▸ List.mem_singleton_self _)
  have hread : ordersRead (bitcoinQuotes true) (findingEnv true "spkrev-BTCUSDT-0")
      (runLoop (bitcoinQuotes true) [placingEnv true] (quotingWorld true)) =
        some [restingQuote "spkrev-BTCUSDT-0"] := by decide +kernel
  have hsilent : bodyEvents (bitcoinQuotes true) (findingEnv true "spkrev-BTCUSDT-0")
      (runLoop (bitcoinQuotes true) [placingEnv true] (quotingWorld true)) = [] := by
    decide +kernel
  obtain ⟨accepted, hmem⟩ := hcancelled _ _ _ (restingQuote "spkrev-BTCUSDT-0")
    ⟨[], placingEnv true, [], [], intent, rfl, hplaced, by simp, rfl, hread,
      List.mem_singleton_self _, by rw [hlink]; rfl⟩
  rw [List.nil_append, hsilent] at hmem
  cases hmem

/-- An order of `MicroSpreadStrategy` that rests is cancelled. -/
theorem spread_order_cancelled :
    (∀ env ∈ [placingEnv false, findingEnv false "spk-BTCUSDT-bid-0"],
      AsksStrategy (bitcoinQuotes false) makerSettings env) ∧
    EntriesCancelled (bitcoinQuotes false) [placingEnv false, findingEnv false "spk-BTCUSDT-bid-0"]
      (quotingWorld false) := by
  have hasks : ∀ env ∈ [placingEnv false, findingEnv false "spk-BTCUSDT-bid-0"],
      AsksStrategy (bitcoinQuotes false) makerSettings env := by
    intro env henv
    simp only [List.mem_cons, List.not_mem_nil, or_false] at henv
    rcases henv with rfl | rfl
    · exact asksStrategy_quotingEnv
    · exact asksStrategy_quotingEnv
  refine ⟨hasks, (entries_cancelled_iff (bitcoinQuotes false) makerSettings _ _ hasks).mpr ?_⟩
  rintro env w' listed order ⟨before, first, between, rest, intent, henvs, -, -, rfl, hread, -, -⟩
  refine ⟨rfl, ?_⟩
  -- the second iteration is the one that reads
  have hlength := congrArg List.length henvs
  simp only [List.length_cons, List.length_nil, List.length_append] at hlength
  obtain rfl : before = [] := List.length_eq_zero_iff.mp (by omega)
  obtain rfl : between = [] := List.length_eq_zero_iff.mp (by omega)
  obtain ⟨rfl, hrest⟩ := List.cons.inj henvs
  obtain ⟨rfl, -⟩ := List.cons.inj hrest
  have hlisted : ordersRead (bitcoinQuotes false) (findingEnv false "spk-BTCUSDT-bid-0")
      (runLoop (bitcoinQuotes false) [placingEnv false] (quotingWorld false)) =
        some [restingQuote "spk-BTCUSDT-bid-0"] := by decide +kernel
  obtain rfl := Option.some.inj (hread.symm.trans hlisted)
  have hbegin : bodyBegin (bitcoinQuotes false) (findingEnv false "spk-BTCUSDT-bid-0")
      (runLoop (bitcoinQuotes false) [placingEnv false] (quotingWorld false)) =
        some (runLoop (bitcoinQuotes false) [placingEnv false] (quotingWorld false)) := by
    unfold bodyBegin
    rw [if_neg (by decide +kernel)]
    rfl
  have hreturns : raised (takeStock (bitcoinQuotes false)
      (findingEnv false "spk-BTCUSDT-bid-0") [restingQuote "spk-BTCUSDT-bid-0"])
      ⟨runLoop (bitcoinQuotes false) [placingEnv false] (quotingWorld false), .initial⟩ = none := by
    decide +kernel
  obtain ⟨⟨⟩, s, hstock⟩ := eq_ok_of_raised hreturns
  exact ⟨⟨_, s, hbegin, hstock⟩, fun link _ => ⟨_, rfl⟩⟩

end Botik
