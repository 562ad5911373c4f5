import Botik.Main.ExitFacts
import Botik.Main.LoopTurns
import Botik.Main.RefreshFacts

/-!
# The closing orders of a turn

A forced exit, an exit quote and an ingested execution send one order at most, for the quantity
that is tracked when they decide. Only the exit quote cancels anything before, and only what it was
given as the open quotes of the symbol. The other stages send no closing order.

## Main definitions

* `SendsOne` — among some events at most one order is sent, after certain cancellations
* `closingSymbol?`, `closingQty?` — the symbol a stage may close, and how much of it

## Main results

* `sends_maybeForceExit`, `sends_maybePlacePositionExitQuote`, `sends_ingest`
* `sends_stage` — the closing order of a stage
-/

namespace Botik

open Program

/-- The event sends no order. -/
def NoOrder (event : Event) : Prop := ∀ order accepted, event ≠ .placeOrder order accepted

/-- At most one order is sent, one that satisfies `P`, and these links are cancelled before. -/
def SendsOne (cancelled : String → Prop) (P : OrderRequest → Prop) (events : List Event) : Prop :=
  (∀ event ∈ events, NoOrder event) ∨
    ∃ before order accepted later, events = before ++ .placeOrder order accepted :: later ∧
      (∀ event ∈ before, NoOrder event) ∧ (∀ event ∈ later, NoOrder event) ∧ P order ∧
      ∀ link, cancelled link → ∃ symbol, .cancelOrder symbol link true ∈ before

/-- What is added to the trace sends at most one order. -/
def Sends (cancelled : String → Prop) (P : OrderRequest → Prop) (w w' : World) : Prop :=
  ∃ events, w'.trace = w.trace ++ events ∧ SendsOne cancelled P events

section Rules

variable {cancelled : String → Prop} {P Q : OrderRequest → Prop} {w w₁ w' : World} {α β : Type}

theorem Sends.of_quiet (h : Emits NoOrder w w') : Sends cancelled P w w' := by
  obtain ⟨events, htrace, hquiet⟩ := h
  exact ⟨events, htrace, Or.inl hquiet⟩

/-- Events without an order come before, and may cancel some of the links. -/
theorem Sends.prepend {before : String → Prop} {events : List Event} (h : Sends before P w₁ w')
    (htrace : w₁.trace = w.trace ++ events) (hquiet : ∀ event ∈ events, NoOrder event)
    (hcancelled : ∀ link, cancelled link →
      before link ∨ ∃ symbol, .cancelOrder symbol link true ∈ events) :
    Sends cancelled P w w' := by
  obtain ⟨rest, hrest, hsends⟩ := h
  refine ⟨events ++ rest, by rw [hrest, htrace, List.append_assoc], ?_⟩
  rcases hsends with hnone | ⟨first, order, accepted, later, rfl, hfirst, hlater, hP, hlinks⟩
  · exact Or.inl fun event hevent => (List.mem_append.mp hevent).elim (hquiet event) (hnone event)
  · refine Or.inr ⟨events ++ first, order, accepted, later, (List.append_assoc _ _ _).symm, ?_,
      hlater, hP, ?_⟩
    · exact fun event hevent => (List.mem_append.mp hevent).elim (hquiet event) (hfirst event)
    · intro link hlink
      rcases hcancelled link hlink with hbefore | ⟨symbol, hmem⟩
      · obtain ⟨symbol, hmem⟩ := hlinks link hbefore
        exact ⟨symbol, List.mem_append_right _ hmem⟩
      · exact ⟨symbol, List.mem_append_left _ hmem⟩

theorem Sends.quiet_left (hquiet : Emits NoOrder w w₁) (h : Sends cancelled P w₁ w') :
    Sends cancelled P w w' := by
  obtain ⟨events, htrace, hevents⟩ := hquiet
  exact h.prepend htrace hevents fun _ hlink => Or.inl hlink

theorem Sends.quiet_right (h : Sends cancelled P w w₁) (hquiet : Emits NoOrder w₁ w') :
    Sends cancelled P w w' := by
  obtain ⟨events, htrace, hsends⟩ := h
  obtain ⟨rest, hrest, hevents⟩ := hquiet
  refine ⟨events ++ rest, by rw [hrest, htrace, List.append_assoc], ?_⟩
  rcases hsends with hnone | ⟨before, order, accepted, later, rfl, hbefore, hlater, hP, hlinks⟩
  · exact Or.inl fun event hevent => (List.mem_append.mp hevent).elim (hnone event) (hevents event)
  · refine Or.inr ⟨before, order, accepted, later ++ rest, ?_, hbefore, ?_, hP, hlinks⟩
    · rw [List.append_assoc, List.cons_append]
    · exact fun event hevent => (List.mem_append.mp hevent).elim (hlater event) (hevents event)

theorem Sends.imp (h : Sends cancelled Q w w') (hPQ : ∀ order, Q order → P order) :
    Sends cancelled P w w' := by
  obtain ⟨events, htrace, hsends⟩ := h
  refine ⟨events, htrace, hsends.imp id ?_⟩
  rintro ⟨before, order, accepted, later, hparts, hbefore, hlater, hQ, hlinks⟩
  exact ⟨before, order, accepted, later, hparts, hbefore, hlater, hPQ order hQ, hlinks⟩

/-- More is known of the order if it is known of all orders. -/
theorem Sends.of_emits (h : Sends cancelled Q w w')
    (hemits : Emits (fun event => ∀ order accepted, event = .placeOrder order accepted → P order)
      w w') : Sends cancelled P w w' := by
  obtain ⟨events, htrace, hsends⟩ := h
  obtain ⟨events', htrace', hP⟩ := hemits
  obtain rfl := List.append_cancel_left (htrace.symm.trans htrace')
  refine ⟨events, htrace, hsends.imp id ?_⟩
  rintro ⟨before, order, accepted, later, rfl, hbefore, hlater, -, hlinks⟩
  exact ⟨before, order, accepted, later, rfl, hbefore, hlater,
    hP _ (List.mem_append_right _ List.mem_cons_self) order accepted rfl, hlinks⟩

/-- Nothing is sent before the rest of a program. -/
theorem sends_bind_left {m : RunM α} {g : α → RunM β} (hm : Moves (Emits NoOrder) m)
    (hg : ∀ a w₁, m w = .ok a w₁ → Sends cancelled P w₁ (after (g a) w₁)) :
    Sends cancelled P w (after (m >>= g) w) := by
  cases hrun : m w with
  | ok a w₁ =>
    rw [after_bind_of_ok hrun]
    exact (hg a w₁ hrun).quiet_left (hm.of_ok hrun)
  | error e w₁ =>
    rw [after_bind_of_error hrun]
    exact .of_quiet (hm.of_error hrun)

/-- Nothing is sent after the first part of a program. -/
theorem sends_bind_right {m : RunM α} {g : α → RunM β} (hm : Sends cancelled P w (after m w))
    (hg : ∀ a, Moves (Emits NoOrder) (g a)) : Sends cancelled P w (after (m >>= g) w) := by
  rcases after_bind_cases m g w with h | ⟨a, -, h⟩
  · rwa [h]
  · rw [h]
    exact hm.quiet_right (hg a _)

/-- A choice sends what its branch sends. -/
theorem sends_ite {c : Prop} [Decidable c] {m m' : RunM α}
    (hm : c → Sends cancelled P w (after m w)) (hm' : ¬ c → Sends cancelled P w (after m' w)) :
    Sends cancelled P w (after (if c then m else m') w) := by
  split_ifs with hc
  · exact hm hc
  · exact hm' hc

/-- A program that may return at once sends what it sends otherwise. -/
theorem sends_unless {c : Prop} [Decidable c] {a : α} {m : RunM α}
    (hm : ¬ c → Sends cancelled P w (after m w)) :
    Sends cancelled P w (after (if c then pure a else m) w) :=
  sends_ite (fun _ => .of_quiet (refl_of _ _)) hm

/-- An order that is noted. -/
theorem sends_note (order : OrderRequest) (accepted : Bool) (w : World) :
    Sends (fun _ => False) (fun _ => True) w (note (.placeOrder order accepted) w) :=
  ⟨_, rfl, Or.inr ⟨[], order, accepted, [], rfl, by simp, by simp, trivial, by simp⟩⟩

/-- An order that is sent, with what follows its answer. -/
theorem sends_placeOrder {order : OrderRequest} {answer : OrderAnswer} {g : OrderReply → RunM β}
    (hg : ∀ reply, Moves (Emits NoOrder) (g reply)) (w : World) :
    Sends (fun _ => False) (fun _ => True) w (after (placeOrder order answer >>= g) w) := by
  refine sends_bind_right ?_ hg
  unfold placeOrder
  rw [after_modify_bind]
  cases answer with
  | ok reply => exact sends_note order _ w
  | error text => exact sends_note order _ w

end Rules

theorem quiet_exitSteps (x : Context) (symbol : String) : ExitSteps x symbol (Emits NoOrder) :=
  exitSteps_emits fun _ _ h => by cases h

theorem quiet_recordSteps : RecordSteps (Emits NoOrder) where
  tables _ _ h := emits_of_eq h.trace
  reward _ _ := emits_note fun _ _ h => by cases h

/-! ### Forced exits -/

section ForcedExit

variable {x : Context} {env : ExitEnv} {symbol : String} {w : World}

theorem sends_forceExit (w : World) (book : OrderBookAggregate) (reason : ExitReason) :
    Sends (fun _ => False) (fun _ => True) w (after (forceExit x env symbol book reason) w) := by
  have hquiet := quiet_exitSteps x symbol
  unfold forceExit
  rw [after_get_bind]
  refine sends_bind_left (moves_auditExit hquiet.tables env _ _ _) fun _ w₁ _ => ?_
  -- nothing is sent where forced exits are off, or while they cool down
  refine sends_unless fun _ => ?_
  refine sends_unless fun _ => ?_
  exact sends_placeOrder (fun reply => moves_forceExitAnswered hquiet rfl reply) w₁

/-- A forced exit sends one order at most, for the tracked quantity. -/
theorem sends_maybeForceExit (x : Context) (env : ExitEnv) (symbol : String) (w : World) :
    Sends (fun _ => False) (fun order => ∃ book reason, order = forceExitOrder x.config env symbol
      (w.rt.position symbol).qty book reason) w (after (maybeForceExit x env symbol) w) := by
  have hquiet := quiet_exitSteps x symbol
  have hbook : ∀ notionalFloor book w, Sends (fun _ => False) (fun _ => True) w
      (after (exitAtBook x env symbol notionalFloor book) w) := by
    intro notionalFloor book w
    unfold exitAtBook
    rw [after_get_bind]
    -- dust is forgotten without an order
    refine sends_ite (fun _ => .of_quiet ?_) fun _ => ?_
    · exact moves_bind (moves_modify (hquiet.dust _)) (fun _ => moves_pure _) w
    · refine sends_bind_left (moves_decideExit hquiet _) fun reason w₁ _ => ?_
      cases reason with
      | none => exact .of_quiet (refl_of _ _)
      | some reason => exact sends_forceExit w₁ book reason
  have hposition : ∀ w, Sends (fun _ => False) (fun _ => True) w
      (after (exitPosition x env symbol) w) := by
    intro w
    unfold exitPosition
    refine sends_bind_left (moves_resolvePositionNotionalFloor hquiet.toQuoteSteps)
      fun notionalFloor w₁ _ => ?_
    rw [after_get_bind]
    refine sends_ite (fun _ => .of_quiet ?_) fun _ => ?_
    · exact moves_bind (moves_modify (hquiet.dust _)) (fun _ => moves_pure _) w₁
    · refine sends_bind_left (moves_modify fun w => hquiet.details _ w) fun _ w₂ _ => ?_
      cases env.book with
      | none => exact .of_quiet (refl_of _ _)
      | some book => exact hbook notionalFloor book w₂
  have honce : Sends (fun _ => False) (fun _ => True) w
      (after (maybeForceExit x env symbol) w) := by
    unfold maybeForceExit
    rw [after_get_bind]
    refine sends_unless fun _ => ?_
    refine sends_unless fun _ => ?_
    refine sends_bind_left (moves_resolvePositionFloor hquiet.toQuoteSteps) fun floor w₁ _ => ?_
    exact sends_unless fun _ => hposition w₁
  -- which order it is, follows from what every event of the call is
  refine honce.of_emits ((emits_maybeForceExit x env symbol w).mono ?_)
  intro event honly order accepted hevent
  exact (honly order accepted hevent).2

end ForcedExit

/-! ### Exit quotes -/

/-- The link by which an open quote is cancelled. -/
def OpenOrder.cancelLink (order : OpenOrder) : String := Text.strip (Text.orEmpty order.orderLinkId)

/-- A quote with this link is cancelled, and the exchange accepts it. -/
def QuoteCancelled (env : QuoteEnv) (openQuotes : List OpenOrder) (link : String) : Prop :=
  link ≠ "" ∧ (∃ order ∈ openQuotes, order.cancelLink = link) ∧
    (env.cancelAnswer link).accepted = true

instance (env : QuoteEnv) (openQuotes : List OpenOrder) (link : String) :
    Decidable (QuoteCancelled env openQuotes link) :=
  inferInstanceAs (Decidable (_ ∧ _))

section ExitQuotes

variable {x : Context} {env : QuoteEnv} {symbol : String} {w w' : World}
  {openQuotes : List OpenOrder}

theorem quiet_cancelQuote (order : OpenOrder) :
    Moves (Emits NoOrder) (cancelQuote env symbol order) :=
  moves_cancelQuote fun _ _ _ => emits_note fun _ _ h => by cases h

theorem trace_cancelOrder {orderSymbol link : String} {answer : Attempt}
    (h : cancelOrder orderSymbol link answer w = .ok () w') :
    w'.trace = w.trace ++ [.cancelOrder orderSymbol link answer.accepted] := by
  unfold cancelOrder at h
  obtain ⟨⟨⟩, w₁, hnoted, hanswered⟩ := bind_eq_ok h
  cases hnoted
  cases answer with
  | ok reply =>
    cases hanswered
    rfl
  | error text => cases hanswered

/-- A quote with a link is cancelled by it. -/
theorem trace_cancelQuote {order : OpenOrder} (h : cancelQuote env symbol order w = .ok () w')
    (hlink : order.cancelLink ≠ "") : ∃ orderSymbol, w'.trace = w.trace ++
      [.cancelOrder orderSymbol order.cancelLink (env.cancelAnswer order.cancelLink).accepted] := by
  have hne : ¬ Text.strip (Text.orEmpty order.orderLinkId) = "" := hlink
  unfold cancelQuote at h
  rw [if_neg hne] at h
  exact ⟨_, trace_cancelOrder h⟩

/-- Once all open quotes are cancelled, so are those whose cancellation was accepted. -/
theorem trace_cancelQuotes (h : each (cancelQuote env symbol) openQuotes w = .ok () w') :
    ∃ events, w'.trace = w.trace ++ events ∧ (∀ event ∈ events, NoOrder event) ∧
      ∀ link, QuoteCancelled env openQuotes link →
        ∃ symbol, .cancelOrder symbol link true ∈ events := by
  induction openQuotes generalizing w with
  | nil =>
    cases h
    refine ⟨[], (List.append_nil _).symm, by simp, ?_⟩
    rintro link ⟨-, ⟨order, horder, -⟩, -⟩
    cases horder
  | cons order openQuotes ih =>
    rw [each_cons] at h
    obtain ⟨⟨⟩, w₁, hfirst, hrest⟩ := bind_eq_ok h
    obtain ⟨first, htrace₁, hquiet₁⟩ := (quiet_cancelQuote order).of_ok hfirst
    obtain ⟨rest, htrace, hquiet, hcancelled⟩ := ih hrest
    refine ⟨first ++ rest, by rw [htrace, htrace₁, List.append_assoc], ?_, ?_⟩
    · exact fun event hevent => (List.mem_append.mp hevent).elim (hquiet₁ event) (hquiet event)
    rintro link ⟨hlink, ⟨other, hother, hsame⟩, haccepted⟩
    rcases List.mem_cons.mp hother with rfl | hother
    · -- this quote has its own turn
      obtain ⟨orderSymbol, hw₁⟩ := trace_cancelQuote hfirst (fun h => hlink (hsame ▸ h))
      obtain rfl := List.append_cancel_left (htrace₁.symm.trans hw₁)
      refine ⟨orderSymbol, List.mem_append_left _ (List.mem_singleton.mpr ?_)⟩
      rw [hsame, haccepted]
    · obtain ⟨symbol, hmem⟩ := hcancelled link ⟨hlink, ⟨other, hother, hsame⟩, haccepted⟩
      exact ⟨symbol, List.mem_append_right _ hmem⟩

/-- An exit quote is sent, if at all, for the tracked quantity, after the open quotes are
cancelled. -/
theorem sends_maybePlacePositionExitQuote (x : Context) (env : QuoteEnv) (symbol : String)
    (openQuotes : List OpenOrder) (w : World) :
    Sends (QuoteCancelled env openQuotes)
      (fun order => ∃ price, order = exitQuoteOrder env symbol (w.rt.position symbol).qty price) w
      (after (maybePlacePositionExitQuote x env symbol openQuotes) w) := by
  have hquiet := quiet_exitSteps x symbol
  have hreplace : ∀ floor price w, Sends (QuoteCancelled env openQuotes) (fun _ => True) w
      (after (replaceQuotes x env symbol floor price openQuotes) w) := by
    intro floor price w
    unfold replaceQuotes
    rw [after_get_bind]
    refine sends_bind_left (moves_fromExcept _) fun same w₁ _ => ?_
    refine sends_unless fun _ => ?_
    -- an exception of a cancellation ends the routine before the new quote
    cases hcancel : each (cancelQuote env symbol) openQuotes w₁ with
    | error e w₂ =>
      rw [after_bind_of_error hcancel]
      exact .of_quiet ((moves_each quiet_cancelQuote openQuotes).of_error hcancel)
    | ok u w₂ =>
      rw [after_bind_of_ok hcancel]
      obtain ⟨events, htrace, hevents, hcancelled⟩ := trace_cancelQuotes hcancel
      refine (sends_placeOrder ?_ w₂).prepend htrace hevents
        fun link hlink => Or.inr (hcancelled link hlink)
      exact fun reply => moves_exitQuoteAnswered hquiet.toQuoteSteps rfl reply
  have hposition : ∀ floor w, Sends (QuoteCancelled env openQuotes) (fun _ => True) w
      (after (quotePosition x env symbol floor openQuotes) w) := by
    intro floor w
    unfold quotePosition
    refine sends_bind_left (moves_resolvePositionNotionalFloor hquiet.toQuoteSteps)
      fun notionalFloor w₁ _ => ?_
    rw [after_get_bind]
    cases plannedExitQuote x.config env w₁.rt symbol with
    | none => exact .of_quiet (refl_of _ _)
    | some price =>
      exact sends_ite (fun _ => .of_quiet (moves_modify (hquiet.dust _) w₁))
        fun _ => hreplace floor price w₁
  have honce : Sends (QuoteCancelled env openQuotes) (fun _ => True) w
      (after (maybePlacePositionExitQuote x env symbol openQuotes) w) := by
    unfold maybePlacePositionExitQuote
    rw [after_get_bind]
    refine sends_unless fun _ => ?_
    refine sends_unless fun _ => ?_
    refine sends_bind_left (moves_resolvePositionFloor hquiet.toQuoteSteps) fun floor w₁ _ => ?_
    exact sends_unless fun _ => hposition floor w₁
  refine honce.of_emits ((emits_maybePlacePositionExitQuote x env symbol openQuotes w).mono ?_)
  intro event honly order accepted hevent
  obtain ⟨price, -, horder⟩ := honly order accepted hevent
  exact ⟨price, horder⟩

end ExitQuotes

/-! ### Executions -/

section Executions

variable {x : Context} {env : StepEnv} {symbol : String} {d : Delivery}

/-- Protecting a position sends one order at most, the one that closes it. -/
theorem sends_ensureFuturesProtection (positionQty entryPrice : ℚ) (w : World) :
    Sends (fun _ => False) (fun order => order = emergencyOrder env symbol positionQty) w
      (after (ensureFuturesProtection x env symbol positionQty entryPrice) w) := by
  have hquiet := quiet_recordSteps
  -- the emergency close is the one place that sends
  have hclose : ∀ w, Sends (fun _ => False) (fun _ => True) w
      (after (emergencyClose x env symbol positionQty) w) := by
    intro w
    unfold emergencyClose
    refine sends_bind_right (m := modify _) (sends_note _ _ w) fun _ => ?_
    exact moves_ite (fun _ => hquiet.modify fun _ => ⟨rfl, rfl, rfl, rfl⟩) fun _ => moves_pure _
  have hplan : ∀ executor plan phase w, Sends (fun _ => False) (fun _ => True) w
      (after (applyPlan x executor env symbol positionQty entryPrice plan phase) w) := by
    intro executor plan phase w
    unfold applyPlan
    refine sends_bind_left (moves_writeStatus hquiet _ _ _ _) fun _ w₁ _ => ?_
    refine sends_bind_left (moves_fromExcept _) fun attempt w₂ _ => ?_
    refine sends_bind_right (sends_ite (fun _ => hclose w₂) fun _ => .of_quiet (refl_of _ _))
      fun _ => ?_
    refine moves_bind (moves_writeStatus hquiet _ _ _ _) fun _ => ?_
    exact hquiet.write fun _ => ⟨rfl, rfl, rfl, rfl⟩
  have honce : Sends (fun _ => False) (fun _ => True) w
      (after (ensureFuturesProtection x env symbol positionQty entryPrice) w) := by
    unfold ensureFuturesProtection
    rw [after_get_bind]
    cases x.executor with
    | none => exact .of_quiet (refl_of _ _)
    | some executor =>
      refine sends_ite (fun _ => ?_) fun _ => .of_quiet (refl_of _ _)
      unfold protectPosition
      refine sends_bind_left (hquiet.modify fun _ => ⟨rfl, rfl, rfl, rfl⟩) fun _ w₁ _ => ?_
      refine sends_bind_left moves_read fun status w₂ _ => ?_
      rw [after_get_bind]
      dsimp only
      cases buildFuturesProtectionPlan entryPrice positionQty (w₂.rt.details symbol).stopLossPct
          (w₂.rt.details symbol).takeProfitPct with
      | none =>
        refine .of_quiet (moves_bind (moves_writeStatus hquiet _ _ _ _) (fun _ => ?_) w₂)
        exact hquiet.write fun _ => ⟨rfl, rfl, rfl, rfl⟩
      | some plan => exact hplan executor plan _ w₂
  -- which order it is, follows from what every event of the call is
  refine honce.of_emits (moves_ensureFuturesProtection ⟨?_, ?_⟩ (fun _ accepted w => ?_) w)
  · exact fun _ _ h => emits_of_eq h.trace
  · exact fun signalId w => emits_note fun _ _ h => by cases h
  · exact emits_note fun _ _ h => (Event.placeOrder.inj h).1.symm

/-- An ingested execution sends one order at most, which closes the position it leads to. -/
theorem sends_ingest (x : Context) (symbol : String) (d : Delivery) (w : World) :
    Sends (fun _ => False) (fun order => ∃ fill, d.read symbol = .ok (some fill) ∧
        order = emergencyOrder d.env symbol (moved (w.rt.position symbol) fill).qty) w
      (after (ingest x symbol d) w) := by
  have hquiet := quiet_recordSteps
  have hmove : ∀ signalId fill w, Sends (fun _ => False)
      (fun order => order = emergencyOrder d.env symbol (moved (w.rt.position symbol) fill).qty) w
      (after (applyRecorded x symbol d signalId fill) w) := by
    intro signalId fill w
    refine sends_bind_right ?_ fun _ => moves_recordMoved hquiet signalId fill
    unfold movePosition
    rw [after_get_bind]
    refine sends_bind_left (hquiet.modify fun _ => ⟨rfl, rfl, rfl, rfl⟩) fun _ w₁ _ => ?_
    refine sends_bind_right ?_ fun _ => moves_followPosition hquiet _ _ _ _
    unfold guardPosition
    cases x.config.marketCategory with
    | linear =>
      exact sends_ite (fun _ => sends_ensureFuturesProtection _ _ w₁)
        fun _ => .of_quiet (refl_of _ _)
    | spot => exact .of_quiet (moves_updateHolding hquiet _ _ _ w₁)
  -- up to its move the position is the one before, so the order is for what the fill leads to
  have hposition : ∀ {α : Type} {m : RunM α} {a : α} {w w₁ : World},
      Moves (SameAs fun w : World => w.rt.position) m → m w = .ok a w₁ →
        w₁.rt.position = w.rt.position :=
    fun hkept hrun => hkept.of_ok hrun
  unfold ingest
  rw [after_get_bind]
  refine sends_unless fun _ => ?_
  refine sends_bind_left (hquiet.modify fun _ => ⟨rfl, rfl, rfl, rfl⟩) fun _ w₁ hmark => ?_
  cases hmark
  unfold ingestFresh
  refine sends_bind_left (moves_fromExcept _) fun head w₁ hran => ?_
  obtain ⟨hhead, rfl⟩ := fromExcept_eq_ok hran
  cases head with
  | none => exact .of_quiet (refl_of _ _)
  | some head =>
    refine sends_bind_left (moves_signalIdOfLink _) fun signalId w₁ hsignal => ?_
    have hw₁ := hposition (moves_signalIdOfLink _) hsignal
    refine sends_bind_left (moves_fromExcept _) fun fill w₂ hran' => ?_
    obtain ⟨hfill, rfl⟩ := fromExcept_eq_ok hran'
    cases fill with
    | none => exact .of_quiet (refl_of _ _)
    | some fill =>
      refine sends_bind_left (moves_recordExecution hquiet signalId fill) fun _ w₃ hrecord => ?_
      have hkeeps : Moves (SameAs fun w : World => w.rt.position)
          (recordExecution symbol d signalId fill) :=
        moves_bind (moves_fromExcept _) fun _ => moves_write fun _ => rfl
      have hw₃ := hposition hkeeps hrecord
      have hread : d.read symbol = .ok (some fill) := by
        unfold Delivery.read
        rw [hhead]
        exact hfill
      refine (hmove signalId fill w₃).imp fun order horder => ⟨fill, hread, ?_⟩
      rw [horder, hw₃, hw₁]
      rfl

end Executions

/-! ### Stages -/

namespace Stage

/-- The symbol whose position a stage may close. -/
def closingSymbol? : Stage → Option String
  | .work (.item symbol _) => some symbol
  | .exit symbol => some symbol
  | .quote symbol => some symbol
  | _ => none

/-- The tracked quantity that a stage may close, from the state before it. -/
def closingQty? (s : LoopState) : Stage → Option ℚ
  | .work (.item symbol d) =>
    (d.read symbol).toOption.join.map fun fill => (moved (s.world.rt.position symbol) fill).qty
  | .exit symbol => some (s.world.rt.position symbol).qty
  | .quote symbol => some (s.world.rt.position symbol).qty
  | _ => none

/-- The links that a stage cancels before it closes anything. -/
def Cancels (env : LoopEnv) (s : LoopState) : Stage → String → Prop
  | .quote symbol, link => QuoteCancelled (env.quotes symbol) (s.vars.quotesOf symbol) link
  | _, _ => False

instance (env : LoopEnv) (s : LoopState) (st : Stage) (link : String) :
    Decidable (Cancels env s st link) := by
  unfold Cancels
  split <;> infer_instance

end Stage

section Stages

variable {x : Context} {env : LoopEnv}

theorem world_after_onWorld {m : RunM Unit} (s : LoopState) :
    (after (onWorld m) s).world = after m s.world :=
  congrArg LoopState.world (after_zoom s)

theorem world_after_exitSymbol (symbol : String) (s : LoopState) :
    (after (exitSymbol x env symbol) s).world =
      after (maybeForceExit x (env.exits symbol) symbol) s.world := by
  unfold exitSymbol
  cases hrun : maybeForceExit x (env.exits symbol) symbol s.world with
  | ok blocked w =>
    rw [after_bind_of_ok (onWorld_of_ok hrun), after_of_ok hrun]
    cases blocked <;> rfl
  | error e w => rw [after_bind_of_error (onWorld_of_error hrun), after_of_error hrun]

/-- The order of a stage that closes positions is for the tracked quantity. -/
theorem sends_stage {st : Stage} {symbol : String} (s : LoopState)
    (hst : st.closingSymbol? = some symbol) :
    Sends (st.Cancels env s)
      (fun order => ∃ qty, st.closingQty? s = some qty ∧ order.qty = Text.fixed8 |qty|) s.world
      (after (stage x env st) s).world := by
  cases st with
  | work u =>
    cases u with
    | floors other => cases hst
    | item other d =>
      change Sends _ _ _ (after (onWorld (ingest x other d)) s).world
      rw [world_after_onWorld]
      refine (sends_ingest x other d s.world).imp fun order horder => ?_
      obtain ⟨fill, hread, rfl⟩ := horder
      refine ⟨_, ?_, rfl⟩
      change Option.map _ (d.read other).toOption.join = _
      rw [hread]
      rfl
  | exit other =>
    change Sends _ _ _ (after (exitSymbol x env other) s).world
    rw [world_after_exitSymbol]
    refine (sends_maybeForceExit x (env.exits other) other s.world).imp fun order horder => ?_
    obtain ⟨book, reason, rfl⟩ := horder
    exact ⟨_, rfl, rfl⟩
  | quote other =>
    change Sends _ _ _ (after (quoteSymbol x env other) s).world
    unfold quoteSymbol
    rw [after_get_bind, world_after_onWorld]
    refine (sends_maybePlacePositionExitQuote x (env.quotes other) other _ s.world).imp
      fun order horder => ?_
    obtain ⟨price, rfl⟩ := horder
    exact ⟨_, rfl, rfl⟩
  | symbols orders => cases hst
  | wallet => cases hst
  | count order => cases hst
  | cancelEntry link => cases hst
  | intent i => cases hst

end Stages

end Botik
