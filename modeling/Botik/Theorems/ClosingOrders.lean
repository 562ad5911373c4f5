import Botik.Main.ClosingSends
import Botik.Main.ExchangeAccount
import Botik.Theorems.LeverageCap
import Botik.Theorems.ProtectionRuns
import Botik.Theorems.OrderQuantity

/-!
# Closing orders and the position

A forced exit, an exit quote and an emergency close each are for the whole position that is tracked.
The exit quote cancels the earlier quotes first; the others leave them. What is left of the closing
orders therefore stays within the position while a closing order arrives only after the earlier ones
are done or cancelled, for no more than the position at the exchange, and nothing else takes from
the position meanwhile. A forced exit beside a resting quote goes beyond it.

## Main definitions

* `Episode`, `episode` — a turn of the loop, and what happens at the exchange meanwhile
* `PlaysLoop` — the episodes of a run of the loop
* `StaysCovered` — the closing orders never exceed the position
* `Careful` — what an episode must avoid

## Main results

* `world_run_episodes` — the episodes of a run follow the trading loop
* `covered_of_careful` — a run of careful episodes stays covered
* `not_staysCovered_of_beside` — a whole closing order beside others is too much
* `exit_beside_quote` — a run in which one is sent
-/

namespace Botik

open Program Runs StockClaims

/-! ### Runs with an exchange -/

/-- The event is a call to the exchange. -/
def Event.isCall : Event → Bool
  | .placeOrder _ _ | .cancelOrder _ _ _ | .cancelAllOrders _ => true
  | .decideExit _ | .rewardArm _ => false

namespace Turn

/-- The turn may close a position of the symbol. -/
def closes (symbol : String) : Turn → Bool
  | .start _ => false
  | .stage _ st => st.closingSymbol?.any fun other => Text.upper other = Text.upper symbol

/-- The tracked quantity that a turn may close. -/
def closingQty? (s : LoopState) : Turn → Option ℚ
  | .start _ => none
  | .stage _ st => st.closingQty? s

/-- The links that a turn cancels before it closes anything. -/
def Cancels (s : LoopState) : Turn → String → Prop
  | .start _, _ => False
  | .stage env st, link => st.Cancels env s link

instance (s : LoopState) (t : Turn) (link : String) : Decidable (Cancels s t link) := by
  unfold Cancels
  split <;> infer_instance

/-- The calls of a turn. -/
def calls (x : Context) (s : LoopState) (t : Turn) : List Event :=
  ((turn x t s).world.trace.drop s.world.trace.length).filter Event.isCall

end Turn

/-- A turn of the loop, and what happens at the exchange until the next turn. -/
structure Episode where
  turn : Turn
  moments : List Moment

namespace Episode

/-- The account at the moments of an episode. -/
def steps (symbol : String) (e : Episode) (a : ExchangeAccount) :
    List (Transition ExchangeAccount Moment) :=
  transitions (Moment.happen (e.turn.closes symbol)) e.moments a

end Episode

/-- The loop and the account after an episode. -/
def episode (x : Context) (symbol : String) (e : Episode) (p : LoopState × ExchangeAccount) :
    LoopState × ExchangeAccount :=
  (turn x e.turn p.1, run (Moment.happen (e.turn.closes symbol)) e.moments p.2)

/-- The exchange plays by its rules: the calls arrive in order, when the orders that do not rest are
done, and the accepted ones are for the quantity that is sent. -/
structure Plays (x : Context) (symbol : String) (filters : Option LotFilters)
    (p : LoopState × ExchangeAccount) (e : Episode) : Prop where
  calls : e.moments.filterMap Moment.event? = e.turn.calls x p.1
  settled : ∀ u ∈ e.steps symbol p.2, u.input.event?.isSome = true → RestingOnly u.before
  quantity : e.turn.closes symbol = true → ∀ m ∈ e.moments, ∀ sent ∈ m.accepted?,
    SendsQty x.config.marketCategory filters sent.1 sent.2

/-- The episodes are those of a run of the trading loop. -/
structure PlaysLoop (x : Context) (symbol : String) (filters : Option LotFilters)
    (envs : List LoopEnv) (w : World) (a : ExchangeAccount) (episodes : List Episode) : Prop where
  turns : episodes.map Episode.turn = loopTurns x envs w
  plays : ∀ t ∈ transitions (episode x symbol) episodes (⟨w, .initial⟩, a),
    Plays x symbol filters t.before t.input

/-- At every moment, what is left of the closing orders is at most the position. -/
def StaysCovered (x : Context) (symbol : String) (w : World) (a : ExchangeAccount)
    (episodes : List Episode) : Prop :=
  a.Covered ∧ ∀ t ∈ transitions (episode x symbol) episodes (⟨w, .initial⟩, a),
    ∀ u ∈ t.input.steps symbol t.before.2, u.after.Covered

/-- A closing order arrives in the episode. -/
def ClosesIn (symbol : String) (e : Episode) : Prop :=
  e.turn.closes symbol = true ∧ ∃ m ∈ e.moments, m.accepted?.isSome = true

/-- What an episode must avoid. While closing orders are left, nothing else may take from the
position. A closing order must not come beside an earlier one that rests and is not cancelled in its
turn, and the quantity that is tracked must neither be above the position when it arrives nor be
raised by the lot filters. -/
structure Careful (x : Context) (symbol : String) (filters : Option LotFilters)
    (p : LoopState × ExchangeAccount) (e : Episode) : Prop where
  trades : ∀ u ∈ e.steps symbol p.2, ∀ qty ∈ u.input.traded?,
    owed u.before.claims = 0 ∨ |u.before.stock| ≤ |u.before.stock + qty|
  cleared : ClosesIn symbol e → ∀ claim ∈ p.2.claims, claim.key.rests = true →
    claim.left = 0 ∨ e.turn.Cancels p.1 claim.key.orderLinkId
  tracked : e.turn.closes symbol = true → ∀ u ∈ e.steps symbol p.2, ∀ sent ∈ u.input.accepted?,
    ∀ held ∈ e.turn.closingQty? p.1, Text.fixed8 |held| ≤ |u.before.stock| ∧
      KeptByLot x.config.marketCategory filters sent.1.side sent.1.price (Text.fixed8 |held|)

/-- The turns of some episodes, as a run of their own. -/
theorem loop_run_episodes (x : Context) (symbol : String) (episodes : List Episode)
    (p : LoopState × ExchangeAccount) : (run (episode x symbol) episodes p).1 =
      run (turn x) (episodes.map Episode.turn) p.1 := by
  induction episodes generalizing p with
  | nil => rfl
  | cons e episodes ih => exact ih (episode x symbol e p)

/-- The episodes of a run lead the trading loop to where it goes. -/
theorem world_run_episodes {x : Context} {symbol : String} {filters : Option LotFilters}
    {envs : List LoopEnv} {w : World} {a : ExchangeAccount} {episodes : List Episode}
    (h : PlaysLoop x symbol filters envs w a episodes) :
    (run (episode x symbol) episodes (⟨w, .initial⟩, a)).1.world = runLoop x envs w := by
  rw [loop_run_episodes, h.turns]
  exact run_loopTurns x envs ⟨w, .initial⟩

/-! ### The calls of a turn -/

section Calls

variable {x : Context} {s : LoopState} {t : Turn} {symbol : String} {cancelled : String → Prop}
  {P : OrderRequest → Prop} {events before later : List Event} {order : OrderRequest}
  {accepted : Bool}

theorem SendsOne.filter_isCall (h : SendsOne cancelled P events) :
    SendsOne cancelled P (events.filter Event.isCall) := by
  rcases h with hnone | ⟨before, order, accepted, later, rfl, hbefore, hlater, hP, hlinks⟩
  · exact Or.inl fun event hevent => hnone event (List.mem_filter.mp hevent).1
  · refine Or.inr ⟨before.filter Event.isCall, order, accepted, later.filter Event.isCall, ?_,
      fun event hevent => hbefore event (List.mem_filter.mp hevent).1,
      fun event hevent => hlater event (List.mem_filter.mp hevent).1, hP, ?_⟩
    · rw [List.filter_append, List.filter_cons_of_pos rfl]
    · intro link hlink
      obtain ⟨symbol, hmem⟩ := hlinks link hlink
      exact ⟨symbol, List.mem_filter.mpr ⟨hmem, rfl⟩⟩

/-- What is known before an order that is sent. -/
theorem SendsOne.of_split (h : SendsOne cancelled P events)
    (hsplit : events = before ++ .placeOrder order accepted :: later) :
    (∀ event ∈ before, NoOrder event) ∧ P order ∧
      ∀ link, cancelled link → ∃ symbol, .cancelOrder symbol link true ∈ before := by
  rcases h with hnone | ⟨before', order', accepted', later', hparts, hbefore, hlater, hP, hlinks⟩
  · refine absurd rfl (hnone (.placeOrder order accepted) ?_ order accepted)
    rw [hsplit]
    exact List.mem_append_right _ List.mem_cons_self
  · -- the one order of the events is the order in question
    obtain ⟨rfl, hrest⟩ : before' = before ∧
        .placeOrder order' accepted' :: later' = .placeOrder order accepted :: later := by
      rcases List.append_eq_append_iff.mp (hparts.symm.trans hsplit) with
        ⟨between, hmore, hrest⟩ | ⟨between, hmore, hrest⟩
      · cases between with
        | nil =>
          rw [List.append_nil] at hmore
          exact ⟨hmore.symm, hrest⟩
        | cons event between =>
          obtain ⟨-, hlater'⟩ := List.cons.inj hrest
          refine absurd rfl (hlater (.placeOrder order accepted) ?_ order accepted)
          rw [hlater']
          exact List.mem_append_right _ List.mem_cons_self
      · cases between with
        | nil =>
          rw [List.append_nil] at hmore
          exact ⟨hmore, hrest.symm⟩
        | cons event between =>
          obtain ⟨rfl, -⟩ := List.cons.inj hrest
          refine absurd rfl (hbefore (.placeOrder order accepted) ?_ order accepted)
          rw [hmore]
          exact List.mem_append_right _ List.mem_cons_self
    obtain ⟨hevent, -⟩ := List.cons.inj hrest
    obtain ⟨rfl, -⟩ := Event.placeOrder.inj hevent
    exact ⟨hbefore, hP, hlinks⟩

/-- The order of a turn that closes positions is for the tracked quantity, after its
cancellations. -/
theorem sendsOne_calls (hcloses : t.closes symbol = true) : SendsOne (t.Cancels s)
    (fun order => ∃ qty, t.closingQty? s = some qty ∧ order.qty = Text.fixed8 |qty|)
    (t.calls x s) := by
  cases t with
  | start env => cases hcloses
  | stage env st =>
    obtain ⟨other, hother, -⟩ := (Option.any_eq_true _ _).mp hcloses
    obtain ⟨events, htrace, hsends⟩ := sends_stage s hother
    unfold Turn.calls
    change SendsOne _ _ (((after (stage x env st) s).world.trace.drop _).filter _)
    rw [htrace, List.drop_left]
    exact hsends.filter_isCall

end Calls

/-! ### One episode -/

section Episodes

variable {x : Context} {symbol : String} {filters : Option LotFilters} {closing : Bool}
  {p : LoopState × ExchangeAccount} {e : Episode} {a : ExchangeAccount} {m : Moment}
  {u : Transition ExchangeAccount Moment} {moments : List Moment}

/-- Only an accepted order adds a claim. -/
theorem addsNothing_of_noOrder (h : ∀ event, m.event? = some event → NoOrder event)
    {move : Move ClosingOrder ℚ} (hmove : m.move? closing = some move) : move.AddsNothing := by
  rintro key left rfl
  cases m with
  | arrives event qty =>
    have hquiet := h event rfl
    cases event with
    | placeOrder order accepted => exact hquiet order accepted rfl
    | cancelOrder symbol link accepted => cases accepted <;> cases hmove
    | cancelAllOrders accepted => cases accepted <;> cases hmove
    | decideExit symbol => cases hmove
    | rewardArm signalId => cases hmove
  | fills link qty => cases hmove
  | cancels link => cases hmove
  | trades qty => cases hmove

theorem metWhere_happen {q : ClosingOrder → Prop} (ha : a.MetWhere q)
    (h : ∀ event, m.event? = some event → NoOrder event) : (m.happen closing a).MetWhere q := by
  unfold Moment.happen
  cases hmove : m.move? closing with
  | none => exact ha
  | some move => exact ha.apply (addsNothing_of_noOrder h hmove)

/-- Claims that are met stay met until an order arrives. -/
theorem metWhere_run {q : ClosingOrder → Prop} (ha : a.MetWhere q)
    (h : ∀ event ∈ moments.filterMap Moment.event?, NoOrder event) :
    (run (Moment.happen closing) moments a).MetWhere q := by
  have hstep : ∀ (b : ExchangeAccount) (m : Moment), b.MetWhere q →
      (∀ event, m.event? = some event → NoOrder event) → (m.happen closing b).MetWhere q :=
    fun b m hb hm => metWhere_happen hb hm
  refine run_of_inv hstep ha ?_
  intro t ht event hevent
  exact h event (List.mem_filterMap.mpr ⟨t.input, input_mem ht, hevent⟩)

/-- An order whose cancellation is accepted is gone when the next order arrives. -/
theorem metWhere_of_cancelled {other link : String}
    (h : ∀ event ∈ moments.filterMap Moment.event?, NoOrder event)
    (hcancelled : .cancelOrder other link true ∈ moments.filterMap Moment.event?) :
    (run (Moment.happen closing) moments a).MetWhere fun order =>
      ClosingOrder.hasLink link order = true := by
  obtain ⟨m, hm, hevent⟩ := List.mem_filterMap.mp hcancelled
  obtain ⟨before, later, rfl⟩ := List.append_of_mem hm
  rw [run_append, run_cons]
  refine metWhere_run ?_ fun event hmem => h event ?_
  · cases m with
    | arrives event qty =>
      obtain rfl := Option.some.inj hevent
      exact Book.metWhere_giveUp
    | fills link qty => cases hevent
    | cancels link => cases hevent
    | trades qty => cases hevent
  · rw [List.filterMap_append, List.mem_append]
    right
    rw [List.filterMap_cons, hevent]
    exact List.mem_cons_of_mem _ hmem

/-- The calls of the turn, divided where one arrives. -/
theorem Plays.calls_of_split (hplays : Plays x symbol filters p e) {before later : List Moment}
    {event : Event} {qty : ℚ} (hsplit : e.moments = before ++ .arrives event qty :: later) :
    e.turn.calls x p.1 =
      before.filterMap Moment.event? ++ event :: later.filterMap Moment.event? := by
  rw [← hplays.calls, hsplit, List.filterMap_append]
  rfl

/-- Nothing is owed when a closing order of a careful episode arrives. -/
theorem owed_of_careful (hplays : Plays x symbol filters p e)
    (hcareful : Careful x symbol filters p e) {before later : List Moment} {order : OrderRequest}
    {qty : ℚ}
    (hsplit : e.moments = before ++ .arrives (.placeOrder order true) qty :: later)
    (hcloses : e.turn.closes symbol = true) :
    owed (run (Moment.happen (e.turn.closes symbol)) before p.2).claims = 0 := by
  obtain ⟨hquiet, -, hlinks⟩ := (sendsOne_calls hcloses).of_split (hplays.calls_of_split hsplit)
  have hsettled := hplays.settled ⟨_, .arrives (.placeOrder order true) qty, _⟩
    (by rw [Episode.steps, hsplit]; exact mem_transitions before _ later p.2) rfl
  -- where the turn does not cancel it, an earlier order that rests was filled before the turn
  have hrested : (run (Moment.happen (e.turn.closes symbol)) before p.2).MetWhere fun order =>
      order.rests = true ∧ ¬ e.turn.Cancels p.1 order.orderLinkId := by
    refine metWhere_run (fun claim hclaim hkey => ?_) hquiet
    have hin : ClosesIn symbol e :=
      ⟨hcloses, _, by rw [hsplit]; exact List.mem_append_right _ List.mem_cons_self, rfl⟩
    exact (hcareful.cleared hin claim hclaim hkey.1).resolve_right hkey.2
  rw [owed_eq_zero_iff]
  intro claim hclaim
  by_cases hrests : claim.key.rests = true
  · by_cases hcancels : e.turn.Cancels p.1 claim.key.orderLinkId
    · obtain ⟨other, hmem⟩ := hlinks _ hcancels
      exact metWhere_of_cancelled hquiet hmem claim hclaim (decide_eq_true rfl)
    · exact hrested claim hclaim ⟨hrests, hcancels⟩
  · exact (hsettled claim hclaim).resolve_left hrests

theorem abs_signed (order : OrderRequest) (qty : ℚ) : |order.signed qty| = |qty| := by
  unfold OrderRequest.signed
  split_ifs
  · exact abs_neg qty
  · rfl

/-- A closing order of a careful episode comes to an account without claims, and is for no more
than its position. -/
theorem sound_add_of_careful (hplays : Plays x symbol filters p e)
    (hcareful : Careful x symbol filters p e) (hu : u ∈ e.steps symbol p.2) {order : OrderRequest}
    {qty : ℚ} (hinput : u.input = .arrives (.placeOrder order true) qty)
    (hcloses : e.turn.closes symbol = true) :
    (Move.add (ClosingOrder.ofRequest order) (order.signed qty)).Sound u.before := by
  obtain ⟨before, later, hsplit, hbefore⟩ := exists_split_of_mem_transitions hu
  rw [hinput] at hsplit
  have howed := owed_of_careful hplays hcareful hsplit hcloses
  obtain ⟨-, ⟨held, hheld, hqty⟩, -⟩ := (sendsOne_calls hcloses).of_split
    (hplays.calls_of_split hsplit)
  obtain ⟨hwithin, hkept⟩ := hcareful.tracked hcloses u hu (order, qty) (by rw [hinput]; rfl)
    held hheld
  have hmem : .arrives (.placeOrder order true) qty ∈ e.moments := by
    rw [hsplit]
    exact List.mem_append_right _ List.mem_cons_self
  obtain ⟨hnonneg, hle⟩ := (hplays.quantity hcloses _ hmem (order, qty) rfl).le (hqty ▸ hkept)
  refine ⟨hbefore ▸ howed, ?_⟩
  rw [abs_signed, abs_of_nonneg hnonneg]
  exact hle.trans (hqty ▸ hwithin)

/-- Whatever happens in a careful episode keeps the cover. -/
theorem sound_of_careful (hplays : Plays x symbol filters p e)
    (hcareful : Careful x symbol filters p e) (hu : u ∈ e.steps symbol p.2)
    {move : Move ClosingOrder ℚ} (hmove : u.input.move? (e.turn.closes symbol) = some move) :
    move.Sound u.before := by
  cases hinput : u.input with
  | fills link qty =>
    rw [hinput] at hmove
    obtain rfl := Option.some.inj hmove
    trivial
  | cancels link =>
    rw [hinput] at hmove
    obtain rfl := Option.some.inj hmove
    trivial
  -- while closing orders are left, no other trade takes from the position
  | trades qty =>
    have hkept := hcareful.trades u hu qty (by rw [hinput]; rfl)
    rw [hinput] at hmove
    obtain rfl := Option.some.inj hmove
    exact hkept
  | arrives event qty =>
    rw [hinput] at hmove
    cases event with
    | decideExit symbol => cases hmove
    | rewardArm signalId => cases hmove
    | cancelOrder other link accepted =>
      cases accepted with
      | false => cases hmove
      | true =>
        obtain rfl := Option.some.inj hmove
        trivial
    | cancelAllOrders accepted =>
      cases accepted with
      | false => cases hmove
      | true =>
        obtain rfl := Option.some.inj hmove
        trivial
    | placeOrder order accepted =>
      cases accepted with
      | false => cases hmove
      | true =>
        change (if e.turn.closes symbol then _ else none) = some move at hmove
        -- an accepted order counts if it is of the closing side
        split_ifs at hmove with hcloses
        obtain rfl := Option.some.inj hmove
        exact sound_add_of_careful hplays hcareful hu hinput hcloses

/-- A moment that is sound keeps the cover. -/
theorem covered_happen (ha : a.Covered)
    (hsound : ∀ move, m.move? closing = some move → move.Sound a) :
    (m.happen closing a).Covered := by
  unfold Moment.happen
  cases hmove : m.move? closing with
  | none => exact ha
  | some move => exact ha.apply (hsound move hmove)

/-- A careful episode stays covered. -/
theorem covered_steps (hplays : Plays x symbol filters p e)
    (hcareful : Careful x symbol filters p e) (hp : p.2.Covered) :
    (∀ u ∈ e.steps symbol p.2, u.after.Covered) ∧ (episode x symbol e p).2.Covered := by
  have hstep : ∀ (a : ExchangeAccount) (m : Moment), a.Covered →
      (∀ move, m.move? (e.turn.closes symbol) = some move → move.Sound a) →
        (m.happen (e.turn.closes symbol) a).Covered :=
    fun a m ha hm => covered_happen ha hm
  have hsound : ∀ u ∈ e.steps symbol p.2, ∀ move,
      u.input.move? (e.turn.closes symbol) = some move → move.Sound u.before :=
    fun u hu move hmove => sound_of_careful hplays hcareful hu hmove
  exact ⟨fun u hu => (forall_transitions_of_inv hstep hp hsound u hu).2,
    run_of_inv hstep hp hsound⟩

end Episodes

/-! ### Runs -/

/-- In a run of the trading loop whose episodes are all careful, what is left of the closing orders
is at most the position at every moment. -/
theorem covered_of_careful (x : Context) (symbol : String) (filters : Option LotFilters)
    (envs : List LoopEnv) (w : World) (a : ExchangeAccount) (episodes : List Episode)
    (hnone : a.claims = []) (hplays : PlaysLoop x symbol filters envs w a episodes)
    (hcareful : ∀ t ∈ transitions (episode x symbol) episodes (⟨w, .initial⟩, a),
      Careful x symbol filters t.before t.input) :
    StaysCovered x symbol w a episodes := by
  have hfirst : a.Covered := by
    unfold Book.Covered
    rw [hnone, owed_nil]
    exact abs_nonneg _
  let Inv : LoopState × ExchangeAccount → Prop := fun p => p.2.Covered
  have hstep : ∀ p e, Inv p → Plays x symbol filters p e ∧ Careful x symbol filters p e →
      Inv (episode x symbol e p) :=
    fun p e hp h => (covered_steps h.1 h.2 hp).2
  have hall : ∀ t ∈ transitions (episode x symbol) episodes (⟨w, .initial⟩, a),
      Inv t.before ∧ Inv t.after :=
    forall_transitions_of_inv hstep hfirst fun t ht => ⟨hplays.plays t ht, hcareful t ht⟩
  exact ⟨hfirst, fun t ht => (covered_steps (hplays.plays t ht) (hcareful t ht) (hall t ht).1).1⟩

/-- A closing order for the whole position that arrives while others are unfilled is too much, in
every run. -/
theorem not_staysCovered_of_beside {x : Context} {symbol : String} {w : World} {a : ExchangeAccount}
    {episodes : List Episode} {t : Transition (LoopState × ExchangeAccount) Episode}
    {u : Transition ExchangeAccount Moment} {order : OrderRequest} {qty : ℚ}
    (ht : t ∈ transitions (episode x symbol) episodes (⟨w, .initial⟩, a))
    (hu : u ∈ t.input.steps symbol t.before.2) (hcloses : t.input.turn.closes symbol = true)
    (harrives : u.input = .arrives (.placeOrder order true) qty) (hleft : 0 < owed u.before.claims)
    (hwhole : |u.before.stock| ≤ |qty|) : ¬ StaysCovered x symbol w a episodes := by
  intro hcovered
  have hafter := hcovered.2 t ht u hu
  have hadded : u.after = u.before.add (.ofRequest order) (order.signed qty) := by
    rw [after_eq_step hu, harrives, hcloses]
    rfl
  rw [hadded, Book.covered_add_iff, abs_signed] at hafter
  exact absurd (hwhole.trans_lt (lt_add_of_pos_left _ hleft)) hafter.not_gt

/-! ### A quote, and a forced exit beside it -/

/-- The lot filters of the symbol. -/
def bitcoinLot : Option LotFilters :=
  LotFilters.ofFields ⟨some "0.001", none, some "0.001", none, some "5"⟩

/-- A coin is bought at a hundred, and the stops are accepted. -/
def boughtCoin : Delivery :=
  ⟨plainItem "e1" "Buy" "1" "100", { calmEnv with
    setTradingStop := fun _ => .ok ⟨some 0, none⟩
    positions := .ok longProtected }⟩

/-- The top of a book at a best bid. -/
def bookAt (bid : ℚ) : OrderBookAggregate :=
  { bestBid := bid, bestAsk := bid + 1 / 100, mid := bid + 1 / 200 }

/-- The answer to an order that is accepted. -/
def acceptedOrder : OrderAnswer := .ok { retCode := some 0, retMsg := none, orderId := some "1" }

/-- An iteration at a time and a best bid, without entries; all calls are accepted. -/
def exitingEnv (clock bid : ℚ) (orders : List OpenOrder) (fetches : List Fetch) : LoopEnv :=
  { plainEnv (smallOrder 0) 1 with
    openOrders := .ok ⟨some 0, orders⟩
    fetches := fetches
    exits := fun _ =>
      { faults := fun _ => none, clock := clock, sentClock := clock, utc := 0,
        book := some (bookAt bid), linkId := "1", answer := acceptedOrder }
    quotes := fun _ =>
      { faults := fun _ => none, clock := clock, sentClock := clock, utc := 0,
        book := some (bookAt bid), tickSize := some (1 / 100), linkId := "1",
        cancelAnswer := fun _ => .ok ⟨some 0, none⟩, answer := acceptedOrder }
    intents := .ok [] }

/-- The iteration that reads the buy and quotes its exit. -/
def quotingExit : LoopEnv := exitingEnv 1000 100 [] [Fetch.single "BTCUSDT" boughtCoin]

/-- The exit quote, as it is listed. -/
def listedExit : OpenOrder where
  symbol := some "BTCUSDT"
  side := some "Sell"
  price := some "100.22"
  qty := some "1"
  orderLinkId := some "px-BTCUSDT-1"

/-- The iteration after the price fell by a hundredth, which stops the loss. -/
def stoppingLoss : LoopEnv := exitingEnv 1020 99 [listedExit] []

/-- The exit quote. -/
def exitSale : OrderRequest where
  symbol := "BTCUSDT"
  side := "Sell"
  qty := 1
  price := 5011 / 50
  orderLinkId := "px-BTCUSDT-1"
  timeInForce := "PostOnly"
  orderType := "Limit"

/-- The order of the forced exit. -/
def stopLossSale : OrderRequest where
  symbol := "BTCUSDT"
  side := "Sell"
  qty := 1
  price := 99
  orderLinkId := "force-exit-BTCUSDT-1"
  timeInForce := "IOC"
  orderType := "Limit"

/-- What happens in the first iteration: the coin is bought, and the quote arrives. -/
def quotingMoments : List (List Moment) :=
  [[.trades 1], [], [], [], [], [], [.arrives (.placeOrder exitSale true) 1]]

/-- What happens in the second: the forced exit arrives and is filled. -/
def stoppingMoments : List (List Moment) :=
  [[], [], [], [], [.arrives (.placeOrder stopLossSale true) 1, .fills "force-exit-BTCUSDT-1" (-1)],
    []]

/-- A fresh process. -/
def exitingWorld : World := .initial bitcoinLinear.config

/-- The episodes of some iterations, with what happens meanwhile. -/
def episodesOf (envs : List LoopEnv) (moments : List (List Moment)) : List Episode :=
  ((loopTurns bitcoinLinear envs exitingWorld).zip moments).map fun pair => ⟨pair.1, pair.2⟩

/-- The rules of the exchange, for what happens in these iterations. -/
theorem playsLoop_episodesOf {envs : List LoopEnv} {moments : List (List Moment)}
    (hlength : (loopTurns bitcoinLinear envs exitingWorld).length = moments.length)
    (hrules : ∀ t ∈ transitions (episode bitcoinLinear "BTCUSDT") (episodesOf envs moments)
        (⟨exitingWorld, .initial⟩, ⟨0, []⟩),
      t.input.moments.filterMap Moment.event? = t.input.turn.calls bitcoinLinear t.before.1 ∧
        ∀ u ∈ t.input.steps "BTCUSDT" t.before.2, u.input.event?.isSome = true →
          RestingOnly u.before)
    (hsent : ∀ ms ∈ moments, ∀ m ∈ ms, ∀ sent ∈ m.accepted?,
      SendsQty .linear bitcoinLot sent.1 sent.2) :
    PlaysLoop bitcoinLinear "BTCUSDT" bitcoinLot envs exitingWorld ⟨0, []⟩
      (episodesOf envs moments) where
  turns := by
    unfold episodesOf
    rw [List.map_map]
    exact List.map_fst_zip hlength.le
  plays t ht := by
    obtain ⟨hcalls, hsettled⟩ := hrules t ht
    refine ⟨hcalls, hsettled, fun _ => hsent _ ?_⟩
    obtain ⟨pair, hpair, heq⟩ := List.mem_map.mp (input_mem ht)
    rw [← heq]
    exact (List.of_mem_zip hpair).2

theorem sendsQty_exitSale : SendsQty .linear bitcoinLot exitSale 1 :=
  ⟨"1", "100.22", "1", ⟨1, 0⟩, ⟨10022, -2⟩, ⟨1, 0⟩, by decide +kernel, by decide +kernel,
    by decide +kernel, by decide +kernel, by decide +kernel, by decide +kernel, by decide +kernel⟩

theorem sendsQty_stopLossSale : SendsQty .linear bitcoinLot stopLossSale 1 :=
  ⟨"1", "99", "1", ⟨1, 0⟩, ⟨99, 0⟩, ⟨1, 0⟩, by decide +kernel, by decide +kernel,
    by decide +kernel, by decide +kernel, by decide +kernel, by decide +kernel, by decide +kernel⟩

/-- The forced exit of a position whose exit quote rests: once it is filled, the quote is left
without a position. -/
theorem exit_beside_quote :
    PlaysLoop bitcoinLinear "BTCUSDT" bitcoinLot [quotingExit, stoppingLoss] exitingWorld ⟨0, []⟩
        (episodesOf [quotingExit, stoppingLoss] (quotingMoments ++ stoppingMoments)) ∧
      (run (episode bitcoinLinear "BTCUSDT")
          (episodesOf [quotingExit, stoppingLoss] (quotingMoments ++ stoppingMoments))
          (⟨exitingWorld, .initial⟩, ⟨0, []⟩)).2 =
        ⟨0, [⟨⟨"px-BTCUSDT-1", true⟩, -1⟩, ⟨⟨"force-exit-BTCUSDT-1", false⟩, 0⟩]⟩ ∧
      ¬ StaysCovered bitcoinLinear "BTCUSDT" exitingWorld ⟨0, []⟩
          (episodesOf [quotingExit, stoppingLoss] (quotingMoments ++ stoppingMoments)) := by
  refine ⟨playsLoop_episodesOf (by decide +kernel) (by decide +kernel) ?_, by decide +kernel, ?_⟩
  · simp only [quotingMoments, stoppingMoments, List.cons_append, List.nil_append,
      List.forall_mem_cons, List.not_mem_nil, false_implies, implies_true, and_true, true_and,
      Moment.accepted?, Option.mem_def, Option.some.injEq, reduceCtorEq, forall_eq']
    exact ⟨sendsQty_exitSale, sendsQty_stopLossSale⟩
  · intro hcovered
    exact absurd hcovered.2 (by decide +kernel)

/-- Two fifths of the coin, sold by the exit quote. -/
def soldPart : Delivery :=
  { boughtCoin with item := plainItem "e2" "Sell" "0.4" "100.22" }

/-- The iteration after a rise, which reads the sale and quotes what is left at a higher price. -/
def requotingExit : LoopEnv :=
  { exitingEnv 1020 (1003 / 10) [listedExit] [Fetch.single "BTCUSDT" soldPart] with
    quotes := fun _ =>
      { faults := fun _ => none, clock := 1020, sentClock := 1020, utc := 0,
        book := some (bookAt (1003 / 10)), tickSize := some (1 / 100), linkId := "2",
        cancelAnswer := fun _ => .ok ⟨some 0, none⟩, answer := acceptedOrder } }

/-- The second exit quote. -/
def secondSale : OrderRequest where
  symbol := "BTCUSDT"
  side := "Sell"
  qty := 3 / 5
  price := 10031 / 100
  orderLinkId := "px-BTCUSDT-2"
  timeInForce := "PostOnly"
  orderType := "Limit"

/-- What happens in the second iteration: the first quote is filled in part and cancelled, and the
second one arrives and is filled in part. -/
def requotingMoments : List (List Moment) :=
  [[.fills "px-BTCUSDT-1" (-2 / 5)], [], [], [], [], [], [],
    [.arrives (.cancelOrder "BTCUSDT" "px-BTCUSDT-1" true) 0,
      .arrives (.placeOrder secondSale true) (3 / 5), .fills "px-BTCUSDT-2" (-1 / 5)]]

theorem sendsQty_secondSale : SendsQty .linear bitcoinLot secondSale (3 / 5) :=
  ⟨"0.6", "100.31", "0.6", ⟨6, -1⟩, ⟨10031, -2⟩, ⟨6, -1⟩, by decide +kernel, by decide +kernel,
    by decide +kernel, by decide +kernel, by decide +kernel, by decide +kernel, by decide +kernel⟩

/-- Both iterations, with what happens meanwhile. -/
def twoQuotes : List Episode :=
  episodesOf [quotingExit, requotingExit] (quotingMoments ++ requotingMoments)

/-- An exit quote that is filled in part, cancelled and sent again for the rest stays within the
position, and the rest of the second one is what is left of the position. -/
theorem quote_covered :
    (run (episode bitcoinLinear "BTCUSDT") twoQuotes (⟨exitingWorld, .initial⟩, ⟨0, []⟩)).2 =
        ⟨2 / 5, [⟨⟨"px-BTCUSDT-2", true⟩, -2 / 5⟩]⟩ ∧
      StaysCovered bitcoinLinear "BTCUSDT" exitingWorld ⟨0, []⟩ twoQuotes := by
  refine ⟨by decide +kernel, covered_of_careful bitcoinLinear "BTCUSDT" bitcoinLot
    [quotingExit, requotingExit] exitingWorld ⟨0, []⟩ twoQuotes rfl
    (playsLoop_episodesOf (by decide +kernel) (by decide +kernel) ?_) ?_⟩
  · simp only [quotingMoments, requotingMoments, List.cons_append, List.nil_append,
      List.forall_mem_cons, List.not_mem_nil, false_implies, implies_true, and_true, true_and,
      Moment.accepted?, Option.mem_def, Option.some.injEq, reduceCtorEq, forall_eq']
    exact ⟨sendsQty_exitSale, sendsQty_secondSale⟩
  · intro t ht
    have htrades : ∀ t ∈ transitions (episode bitcoinLinear "BTCUSDT") twoQuotes
        (⟨exitingWorld, .initial⟩, ⟨0, []⟩), ∀ u ∈ t.input.steps "BTCUSDT" t.before.2,
          ∀ qty ∈ u.input.traded?,
            owed u.before.claims = 0 ∨ |u.before.stock| ≤ |u.before.stock + qty| := by
      decide +kernel
    -- only the second quote comes beside a claim, the first quote, which its turn cancels
    have hcleared : ∀ t ∈ transitions (episode bitcoinLinear "BTCUSDT") twoQuotes
        (⟨exitingWorld, .initial⟩, ⟨0, []⟩), t.input.turn.closes "BTCUSDT" = true →
          (∃ m ∈ t.input.moments, m.accepted?.isSome = true) → ∀ claim ∈ t.before.2.claims,
            claim.left = 0 ∨ t.input.turn.Cancels t.before.1 claim.key.orderLinkId := by
      decide +kernel
    have htracked : ∀ t ∈ transitions (episode bitcoinLinear "BTCUSDT") twoQuotes
        (⟨exitingWorld, .initial⟩, ⟨0, []⟩),
        t.input.turn.closes "BTCUSDT" = true → ∀ u ∈ t.input.steps "BTCUSDT" t.before.2,
          ∀ sent ∈ u.input.accepted?, ∀ held ∈ t.input.turn.closingQty? t.before.1,
            Text.fixed8 |held| ≤ |u.before.stock| ∧ KeptByLot bitcoinLinear.config.marketCategory
              bitcoinLot sent.1.side sent.1.price (Text.fixed8 |held|) := by
      decide +kernel
    exact ⟨htrades t ht, fun hcloses claim hclaim _ =>
      hcleared t ht hcloses.1 hcloses.2 claim hclaim, htracked t ht⟩

end Botik
