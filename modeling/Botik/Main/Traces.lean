import Botik.Main.RefreshSteps

/-!
# What the stages of an iteration send

The trace only grows. This file says for every routine of an iteration which events it may add:
ingesting executions can close an unprotected position, a forced exit decides and sends one order,
an exit quote cancels earlier quotes and sends one, and an intent is sent as it is.

## Main definitions

* `Emits P` — whatever was added to the trace satisfies `P`

## Main results

* `emits_takeStock`, `emits_exitSymbol`, `emits_quoteSymbol`, `emits_processIntent`
-/

namespace Botik

open Program

/-- The trace only grew, by events that satisfy `P`. -/
def Emits (P : Event → Prop) (w w' : World) : Prop :=
  ∃ events, w'.trace = w.trace ++ events ∧ ∀ event ∈ events, P event

instance (P : Event → Prop) : IsPreorder World (Emits P) where
  refl w := ⟨[], (List.append_nil _).symm, by simp⟩
  trans w₁ w₂ w₃ h₁₂ h₂₃ := by
    obtain ⟨first, hfirst, hP₁⟩ := h₁₂
    obtain ⟨second, hsecond, hP₂⟩ := h₂₃
    refine ⟨first ++ second, ?_, ?_⟩
    · rw [hsecond, hfirst, List.append_assoc]
    · intro event hevent
      exact (List.mem_append.mp hevent).elim (hP₁ event) (hP₂ event)

section Rules

variable {P : Event → Prop} {w : World} {event : Event}

theorem emits_of_eq {w' : World} (h : w'.trace = w.trace) : Emits P w w' :=
  ⟨[], h.trans (List.append_nil _).symm, by simp⟩

theorem emits_append (hP : P event) (w' : World) (h : w'.trace = w.trace ++ [event]) :
    Emits P w w' :=
  ⟨[event], h, by simpa using hP⟩

theorem emits_note (hP : P event) : Emits P w (note event w) := emits_append hP _ rfl

theorem Emits.mono {Q : Event → Prop} {w' : World} (h : Emits P w w')
    (hPQ : ∀ event, P event → Q event) : Emits Q w w' := by
  obtain ⟨events, htrace, hP⟩ := h
  exact ⟨events, htrace, fun event hevent => hPQ event (hP event hevent)⟩

end Rules

theorem allowsRecords_emits {P : Event → Prop} : AllowsRecords (Emits P) :=
  AllowsTables.allowsRecords fun _ _ h => emits_of_eq h.trace

/-- An exit quote sends its calls and nothing else. -/
theorem quoteSteps_emits (x : Context) (symbol : String) {P : Event → Prop} :
    QuoteSteps x symbol (Emits P) where
  tables := allowsRecords_emits
  timestamps _ _ := emits_of_eq rfl
  positionFloor w := emits_of_eq (sameOrders_cachePositionFloor symbol _ w).trace
  notionalFloor w := emits_of_eq (sameOrders_cacheNotionalFloor symbol _ w).trace
  dust _ _ := emits_of_eq rfl

/-- A forced exit decides, besides its call. -/
theorem exitSteps_emits {x : Context} {symbol : String} {P : Event → Prop}
    (hdecide : P (.decideExit symbol)) : ExitSteps x symbol (Emits P) where
  toQuoteSteps := quoteSteps_emits x symbol
  details _ _ := emits_of_eq rfl
  forced _ _ := emits_of_eq rfl
  decided _ := emits_note hdecide

/-- An intent sends its call and nothing else. -/
theorem entrySteps_emits {P : Event → Prop} : EntrySteps (Emits P) where
  tables := allowsRecords_emits
  timestamps _ _ := emits_of_eq rfl
  details _ _ _ := emits_of_eq rfl
  stop _ := emits_of_eq rfl

/-! ### Executions -/

/-- The events that follow from an execution; only futures positions are closed. -/
structure AdmitsExecutions (x : Context) (P : Event → Prop) : Prop where
  close : x.config.marketCategory = .linear → ∀ env symbol qty accepted,
    P (.placeOrder (emergencyOrder env symbol qty) accepted)
  reward : ∀ signalId, P (.rewardArm signalId)

/-- Ingesting executions sends these events and nothing else. -/
theorem ingestSteps_emits {x : Context} {P : Event → Prop} (hP : AdmitsExecutions x P) :
    IngestSteps x (Emits P) where
  tables _ _ h := emits_of_eq h.trace
  close hmarket env symbol qty accepted _ := emits_note (hP.close hmarket env symbol qty accepted)
  reward signalId _ := emits_note (hP.reward signalId)

/-! ### The stages of an iteration -/

/-- The same order, with another price at most. -/
structure SameOrder (intent sent : OrderIntent) : Prop where
  symbol : sent.symbol = intent.symbol
  side : sent.side = intent.side
  orderLinkId : sent.orderLinkId = intent.orderLinkId

/-- An intent is sent as it is; only its price is adjusted. -/
theorem sameOrder_of_intentToSend {c : Config} {env : IntentEnv} {intent sent : OrderIntent}
    (h : intentToSend c env intent = some sent) : SameOrder intent sent := by
  obtain ⟨price, rfl⟩ := intentToSend_eq_some h
  exact ⟨rfl, rfl, rfl⟩

/-- The trace only grew, by events that satisfy `P`. -/
abbrev LoopEmits (P : Event → Prop) : LoopState → LoopState → Prop := OnWorlds (Emits P)

section Stages

variable {P : Event → Prop} {x : Context} {env : LoopEnv}

theorem emits_takeStock (hP : AdmitsExecutions x P) (orders : List OpenOrder) :
    Moves (LoopEmits P) (takeStock x env orders) :=
  moves_takeStock (ingestSteps_emits hP) orders

/-- The entry quotes of the bot are cancelled. -/
theorem emits_cancelOurOrders {s : LoopState} (hcancel : ∀ link ∈ s.vars.ourOrderLinks,
    ∀ accepted, P (.cancelOrder link.1 link.2 accepted)) :
    LoopEmits P s (after (cancelOurOrders env) s) := by
  unfold cancelOurOrders
  rw [after_get_bind]
  refine moves_worlds_onWorld (moves_each_of_mem fun link hlink => ?_) s
  exact moves_cancelOrder fun _ => emits_note (hcancel link hlink _)

theorem emits_exitSymbol {symbol : String} (hdecide : P (.decideExit symbol))
    (hexit : ∀ qty book reason accepted,
      P (.placeOrder (forceExitOrder x.config (env.exits symbol) symbol qty book reason) accepted)) :
    Moves (LoopEmits P) (exitSymbol x env symbol) := by
  have hforced : Moves (Emits P) (maybeForceExit x (env.exits symbol) symbol) :=
    moves_maybeForceExit (exitSteps_emits hdecide) fun qty book reason accepted _ =>
      emits_note (hexit qty book reason accepted)
  unfold exitSymbol
  refine moves_bind (moves_worlds_onWorld hforced) fun blocked => ?_
  exact moves_ite (fun _ => moves_worlds_modifyVars _) fun _ => moves_pure _

theorem emits_quoteSymbol {symbol : String} {s : LoopState}
    (hcancel : ∀ order ∈ s.vars.quotesOf symbol, ∀ orderSymbol accepted,
      P (.cancelOrder orderSymbol (Text.strip (Text.orEmpty order.orderLinkId)) accepted))
    (hquote : ∀ qty price accepted,
      P (.placeOrder (exitQuoteOrder (env.quotes symbol) symbol qty price) accepted)) :
    LoopEmits P s (after (quoteSymbol x env symbol) s) := by
  have hquoted : Moves (Emits P) (maybePlacePositionExitQuote x (env.quotes symbol) symbol
      (s.vars.quotesOf symbol)) :=
    moves_maybePlacePositionExitQuote (quoteSteps_emits x symbol)
      (fun order horder orderSymbol accepted _ =>
        emits_note (hcancel order horder orderSymbol accepted))
      fun qty price accepted _ => emits_note (hquote qty price accepted)
  unfold quoteSymbol
  rw [after_get_bind]
  exact moves_worlds_onWorld hquoted s

/-- What an intent sends is the intent. -/
theorem emits_processIntent {i : IntentInput} (hsend : ∀ sent, SameOrder i.intent sent →
      ∀ timeInForce accepted, P (.placeOrder (sent.request timeInForce) accepted)) :
    Moves (LoopEmits P) (processIntent x i) := by
  refine moves_processIntent entrySteps_emits fun sent hsent accepted _ => ?_
  exact emits_note (hsend sent (sameOrder_of_intentToSend hsent) _ accepted)

end Stages

end Botik
