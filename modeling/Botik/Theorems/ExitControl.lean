import Botik.Main.ExitFacts
import Botik.Theorems.QuoteCancellation

/-!
# Live positions under exit control

An iteration decides on every position that is at its floors and closes its symbol for entries,
unless the symbol was given up as dust a moment ago, or is given up now because the exchange takes
no order of its size.

## Main definitions

* `stateAtExits`, `stateAtQuotes` — the states in which an iteration turns to the exits, the quotes
* `entryEvents` — what the intents of an iteration send
* `UnderControl` — a symbol is decided on and closed for entries
* `LiveUnderControl` — in a run, every live position is

## Main results

* `underControl_iff` — when a live position is, in one iteration
* `live_under_control_iff` — the runs in which every live position is
-/

namespace Botik

open Program Runs

/-! ### The stages of an iteration -/

/-- The state after some stages, if the iteration gets through them. -/
def stateAfter (stages : List OpenOrder → LoopM Unit) (env : LoopEnv) (w : World) :
    Option LoopState :=
  match env.openOrders with
  | .error _ => none
  | .ok reply =>
    if reply.retCode = some 0 then
      match stages reply.list ⟨w, .initial⟩ with
      | .ok _ s => some s
      | .error _ _ => none
    else none

/-- The stages before the forced exits. -/
def beforeExits (x : Context) (env : LoopEnv) (orders : List OpenOrder) : LoopM Unit := do
  takeStock x env orders
  cancelOurOrders env

/-- The forced exits of the symbols that are managed in this state. -/
def exitStage (x : Context) (env : LoopEnv) : LoopM Unit := do
  let s ← get
  forceExits x env (env.arrange (managedSymbols x.config s.world.rt))

/-- The state in which an iteration turns to the forced exits, if it gets there. -/
def stateAtExits (x : Context) (env : LoopEnv) (w : World) : Option LoopState :=
  stateAfter (beforeExits x env) env w

/-- The state in which an iteration turns to the exit quotes, if it gets there. -/
def stateAtQuotes (x : Context) (env : LoopEnv) (w : World) : Option LoopState :=
  stateAfter (fun orders => beforeExits x env orders >>= fun _ => exitStage x env) env w

/-- What the intents of an iteration send; one that does not get to them sends nothing. -/
def entryEvents (x : Context) (env : LoopEnv) (w : World) : List Event :=
  match stateAtIntents x env w with
  | none => []
  | some s => (after (processIntents x env) s).world.trace.drop s.world.trace.length

section Stages

variable {x : Context} {env : LoopEnv} {w : World} {s s' : LoopState}
  {stages : List OpenOrder → LoopM Unit}

theorem stateAfter_eq_some : stateAfter stages env w = some s ↔ ∃ reply,
    env.openOrders = .ok reply ∧ reply.retCode = some 0 ∧
      stages reply.list ⟨w, .initial⟩ = .ok () s := by
  unfold stateAfter
  cases env.openOrders with
  | error text => simp
  | ok reply =>
    dsimp only
    split_ifs with hok
    · cases hrun : stages reply.list ⟨w, .initial⟩ with
      | ok u s₁ =>
        simp only [Option.some.injEq, Except.ok.injEq]
        constructor
        · rintro rfl
          exact ⟨reply, rfl, hok, hrun⟩
        · rintro ⟨reply', rfl, -, hsame⟩
          rw [hrun] at hsame
          cases hsame
          rfl
      | error e s₁ =>
        simp only [Except.ok.injEq, false_iff, reduceCtorEq]
        rintro ⟨reply', rfl, -, hsame⟩
        rw [hrun] at hsame
        cases hsame
    · simp [hok]

/-- An iteration that gets to the intents went through the exits and the quotes. -/
theorem stages_of_intents (h : stateAtIntents x env w = some s') :
    ∃ s s₁, stateAtExits x env w = some s ∧ stateAtQuotes x env w = some s₁ ∧
      forceExits x env (env.arrange (managedSymbols x.config s.world.rt)) s = .ok () s₁ ∧
      placeExitQuotes x env (env.arrange (managedSymbols x.config s.world.rt)) s₁ = .ok () s' := by
  have hafter : stateAfter (fun orders => takeStock x env orders >>= fun _ => manageExits x env)
      env w = some s' := h
  obtain ⟨reply, horders, hok, hrun⟩ := stateAfter_eq_some.mp hafter
  obtain ⟨⟨⟩, s₁, hstock, hrun⟩ := bind_eq_ok hrun
  unfold manageExits at hrun
  obtain ⟨⟨⟩, s₂, hcancelled, hrun⟩ := bind_eq_ok hrun
  obtain ⟨s₃, s₄, hget, hrun⟩ := bind_eq_ok hrun
  cases hget
  obtain ⟨⟨⟩, s₅, hexits, hquotes⟩ := bind_eq_ok hrun
  have hbefore : beforeExits x env reply.list ⟨w, .initial⟩ = .ok () s₂ := by
    unfold beforeExits
    rw [bind_of_ok hstock]
    exact hcancelled
  refine ⟨s₂, s₅, ?_, ?_, hexits, hquotes⟩
  · exact stateAfter_eq_some.mpr ⟨reply, horders, hok, hbefore⟩
  · refine stateAfter_eq_some.mpr ⟨reply, horders, hok, ?_⟩
    rw [bind_of_ok hbefore]
    exact hexits

end Stages

/-! ### What the exits do to one symbol -/

/-- The symbol is decided on and closed for entries, and no entry is sent for it. -/
structure UnderControl (x : Context) (env : LoopEnv) (w : World) (s s' : LoopState)
    (symbol : String) : Prop where
  decided : .decideExit symbol ∈ s'.world.trace.drop s.world.trace.length
  blocked : symbol ∈ s'.vars.blockedSymbols
  noEntry : ∀ order accepted, .placeOrder order accepted ∈ entryEvents x env w →
    order.symbol ≠ symbol

/-- The symbol is closed for entries. -/
def Blocks (symbol : String) (s : LoopState) : Prop := symbol ∈ s.vars.blockedSymbols

section Symbol

variable {x : Context} {env : LoopEnv} {w : World} {s s' : LoopState} {symbol other : String}
  {managed : List String}

theorem keeps_blocks_countOpenOrder (order : OpenOrder) :
    Keeps (fun s : LoopState => s.vars.blockedSymbols) (countOpenOrder order) := by
  intro s
  unfold countOpenOrder
  rw [after_get_bind]
  cases hadd : s.vars.addOpenOrder order with
  | error e => rfl
  | ok vars =>
    change vars.blockedSymbols = s.vars.blockedSymbols
    obtain ⟨price, qty, -, -, rfl⟩ := addOpenOrder_eq_ok hadd
    unfold LoopVars.sortOrder
    split_ifs <;> rfl

/-- Before the exits no symbol is closed for entries. -/
theorem blockedSymbols_stateAtExits (h : stateAtExits x env w = some s) :
    s.vars.blockedSymbols = [] := by
  obtain ⟨reply, -, -, hrun⟩ := stateAfter_eq_some.mp h
  have hkeeps : Keeps (fun s : LoopState => s.vars.blockedSymbols)
      (beforeExits x env reply.list) := by
    unfold beforeExits takeStock cancelOurOrders
    refine moves_bind (moves_bind (moves_modify fun _ => rfl) fun _ => ?_) fun _ => ?_
    · refine moves_bind (keeps_vars_onWorld LoopVars.blockedSymbols) fun _ => ?_
      refine moves_bind (keeps_vars_onWorld LoopVars.blockedSymbols) fun _ => ?_
      exact moves_each keeps_blocks_countOpenOrder _
    · exact moves_bind moves_get fun _ => keeps_vars_onWorld LoopVars.blockedSymbols
  exact hkeeps.of_ok hrun

/-- The exit of another symbol leaves a symbol alone. -/
theorem moves_exitSymbol_other (hne : symbol ≠ other) :
    Moves (OnWorlds (SameAs (exitView x symbol))) (exitSymbol x env other) ∧
      Keeps (Blocks symbol) (exitSymbol x env other) := by
  refine ⟨?_, ?_⟩
  · unfold exitSymbol
    refine moves_bind (moves_worlds_onWorld ?_) fun blocked => ?_
    · exact moves_maybeForceExit (exitSteps_other hne) fun _ _ _ _ _ => rfl
    · exact moves_ite (fun _ => moves_worlds_modifyVars _) fun _ => moves_pure _
  · have hblocks : ∀ s, Blocks symbol { s with
        vars := { s.vars with blockedSymbols := s.vars.blockedSymbols ++ [other] } } =
          Blocks symbol s := by
      intro s
      simp [Blocks, hne]
    unfold exitSymbol
    refine moves_bind (keeps_vars_onWorld fun vars => symbol ∈ vars.blockedSymbols)
      fun blocked => ?_
    exact moves_ite (fun _ => moves_modify hblocks) fun _ => moves_pure _

/-- The exit of a symbol closes it for entries if the routine says so. -/
theorem exitSymbol_ok (h : exitSymbol x env symbol s = .ok () s') :
    ∃ blocked w', maybeForceExit x (env.exits symbol) symbol s.world = .ok blocked w' ∧
      s'.world = w' ∧ s'.vars.blockedSymbols =
        if blocked then s.vars.blockedSymbols ++ [symbol] else s.vars.blockedSymbols := by
  unfold exitSymbol at h
  obtain ⟨blocked, s₁, hforced, h⟩ := bind_eq_ok h
  obtain ⟨w', hrun, rfl⟩ := onWorld_eq_ok hforced
  refine ⟨blocked, w', hrun, ?_⟩
  cases blocked with
  | true =>
    cases h
    exact ⟨rfl, rfl⟩
  | false =>
    cases h
    exact ⟨rfl, rfl⟩

/-- The exits decide and send, and the trace only grows. -/
theorem grows_exitSymbol (other : String) :
    Moves (LoopEmits fun _ => True) (exitSymbol x env other) :=
  emits_exitSymbol trivial fun _ _ _ _ => trivial

theorem grows_quoteSymbol (other : String) :
    Moves (LoopEmits fun _ => True) (quoteSymbol x env other) :=
  fun _ => emits_quoteSymbol (fun _ _ _ _ => trivial) fun _ _ _ => trivial

/-- A managed symbol has its turn once. -/
theorem turn_of_managed (hnodup : managed.Nodup) (hmem : symbol ∈ managed)
    (h : forceExits x env managed s = .ok () s') :
    ∃ s₁ s₂, exitView x symbol s₁.world = exitView x symbol s.world ∧
      (Blocks symbol s₁ ↔ Blocks symbol s) ∧ LoopEmits (fun _ => True) s s₁ ∧
      exitSymbol x env symbol s₁ = .ok () s₂ ∧
      (Blocks symbol s' ↔ Blocks symbol s₂) ∧ LoopEmits (fun _ => True) s₂ s' := by
  obtain ⟨before, rest, rfl⟩ := List.append_of_mem hmem
  have hothers : ∀ other ∈ before ++ rest, symbol ≠ other := by
    intro other hother hsame
    rw [List.nodup_append] at hnodup
    subst hsame
    rcases List.mem_append.mp hother with hin | hin
    · exact hnodup.2.2 symbol hin symbol List.mem_cons_self rfl
    · exact (List.nodup_cons.mp hnodup.2.1).1 hin
  unfold forceExits at h
  rw [each_append] at h
  obtain ⟨⟨⟩, s₁, hbefore, h⟩ := bind_eq_ok h
  rw [each_cons] at h
  obtain ⟨⟨⟩, s₂, hturn, hrest⟩ := bind_eq_ok h
  have hview : Moves (OnWorlds (SameAs (exitView x symbol))) (each (exitSymbol x env) before) :=
    moves_each_of_mem fun other hin =>
      (moves_exitSymbol_other (hothers other (List.mem_append_left _ hin))).1
  have hblocks : ∀ others, (∀ other ∈ others, other ∈ before ++ rest) →
      Keeps (Blocks symbol) (each (exitSymbol x env) others) := fun others hsub =>
    moves_each_of_mem fun other hin => (moves_exitSymbol_other (hothers other (hsub other hin))).2
  have hgrows : ∀ others, Moves (LoopEmits fun _ => True) (each (exitSymbol x env) others) :=
    fun others => moves_each grows_exitSymbol others
  refine ⟨s₁, s₂, hview.of_ok hbefore, ?_, (hgrows before).of_ok hbefore, hturn, ?_,
    (hgrows rest).of_ok hrest⟩
  · exact iff_of_eq ((hblocks before fun _ => List.mem_append_left _).of_ok hbefore)
  · exact iff_of_eq ((hblocks rest fun _ => List.mem_append_right _).of_ok hrest)

/-- A live position is managed. -/
theorem mem_managedSymbols_of_live {exitEnv : ExitEnv} (h : Live x exitEnv s.world symbol) :
    symbol ∈ managedSymbols x.config s.world.rt := by
  unfold managedSymbols
  rw [List.mem_dedup, List.mem_append, List.mem_filter]
  exact Or.inr ⟨h.tracked, decide_eq_true h.quantity⟩

/-- A symbol that is closed for entries is left out by the intents. -/
theorem noEntry_of_blocked (hintents : stateAtIntents x env w = some s')
    (hblocked : Blocks symbol s') (order : OrderRequest) (accepted : Bool)
    (h : .placeOrder order accepted ∈ entryEvents x env w) : order.symbol ≠ symbol := by
  let P : Event → Prop := fun event =>
    ∀ order accepted, event = .placeOrder order accepted → order.symbol ≠ symbol
  -- the symbol stays closed, so the two are kept together
  let R : LoopState → LoopState → Prop := fun s₁ s₂ =>
    Blocks symbol s₁ → Blocks symbol s₂ ∧ LoopEmits P s₁ s₂
  have : IsPreorder LoopState R :=
    { refl := fun s hs => ⟨hs, refl_of (LoopEmits P) s⟩
      trans := fun s₁ s₂ s₃ h₁₂ h₂₃ hs => by
        obtain ⟨hs₂, hemits₁₂⟩ := h₁₂ hs
        obtain ⟨hs₃, hemits₂₃⟩ := h₂₃ hs₂
        exact ⟨hs₃, trans_of (LoopEmits P) hemits₁₂ hemits₂₃⟩ }
  have hstep : ∀ i, Moves R (processIntent x i) := by
    intro i s hs
    refine ⟨?_, ?_⟩
    · rcases processIntent_cases x i s with hsame | ⟨intent, -, -, hadded⟩
      · unfold Blocks
        rwa [hsame]
      · unfold Blocks
        rw [hadded]
        exact hs
    · by_cases hsymbol : i.intent.symbol = symbol
      · -- the intent is skipped
        unfold processIntent
        rw [after_get_bind]
        split_ifs with hstopped hskipped
        · exact refl_of (LoopEmits P) s
        · exact refl_of (LoopEmits P) s
        · rw [hsymbol] at hskipped
          exact absurd hs hskipped
      · refine emits_processIntent (fun sent hsent timeInForce accepted => ?_) s
        intro order accepted' hsame
        cases hsame
        intro hother
        exact hsymbol (hsent.symbol.symm.trans hother)
  have hall : Moves R (processIntents x env) :=
    moves_bind (moves_fromExcept _) fun intents => moves_each hstep intents
  obtain ⟨-, events, htrace, hP⟩ := hall s' hblocked
  unfold entryEvents at h
  rw [hintents] at h
  dsimp only at h
  rw [htrace, List.drop_left] at h
  exact hP _ h order accepted rfl

/-- A live position is under control exactly if the symbol was not given up as dust, then or now. -/
theorem underControl_iff (hx : x.executor.isSome = true)
    (hexits : stateAtExits x env w = some s) (hintents : stateAtIntents x env w = some s')
    (hlive : Live x (env.exits symbol) s.world symbol) :
    UnderControl x env w s s' symbol ↔ ¬ Suppressed (env.exits symbol) s.world symbol ∧
      ¬ RejectedAsDust x (env.exits symbol) s.world symbol := by
  obtain ⟨s₀, s₁, hexits₀, -, hforced, hquoted⟩ := stages_of_intents hintents
  obtain rfl : s = s₀ := Option.some.inj (hexits.symm.trans hexits₀)
  have hperm := env.arrange_perm (managedSymbols x.config s.world.rt)
  have hnodup : (env.arrange (managedSymbols x.config s.world.rt)).Nodup :=
    hperm.nodup_iff.mpr (List.nodup_dedup _)
  have hmem : symbol ∈ env.arrange (managedSymbols x.config s.world.rt) :=
    hperm.mem_iff.mpr (mem_managedSymbols_of_live hlive)
  obtain ⟨sa, sb, hview, hbefore, hgrows₁, hturn, hrest, hgrows₂⟩ :=
    turn_of_managed hnodup hmem hforced
  -- the quotes leave the local variables alone
  have hquotes : s'.vars = s₁.vars := by
    have hkeeps : Keeps LoopState.vars
        (placeExitQuotes x env (env.arrange (managedSymbols x.config s.world.rt))) :=
      moves_each (fun _ => moves_bind moves_get fun _ => keeps_vars_onWorld id) _
    exact hkeeps.of_ok hquoted
  have hgrows₃ : LoopEmits (fun _ => True) s₁ s' :=
    Moves.of_ok (R := LoopEmits fun _ => True) (moves_each grows_quoteSymbol _) hquoted
  obtain ⟨blocked, w', hrun, hworld, hvars⟩ := exitSymbol_ok hturn
  have hfirst : ¬ Blocks symbol s := by
    unfold Blocks
    rw [blockedSymbols_stateAtExits hexits]
    exact List.not_mem_nil
  have hblocked : Blocks symbol s' ↔ blocked = true := by
    have hsame : Blocks symbol s' ↔ Blocks symbol s₁ := by
      unfold Blocks
      rw [hquotes]
    have hnone : symbol ∉ sa.vars.blockedSymbols := fun h => hfirst (hbefore.mp h)
    rw [hsame, hrest]
    unfold Blocks
    rw [hvars]
    cases blocked <;> simp [hnone]
  have hat : AtFloors x.config (env.exits symbol) (exitView x symbol sa.world) := by
    rw [hview]
    exact hlive.atFloors
  by_cases hclock : Suppressed (env.exits symbol) s.world symbol
  · -- the routine is left at once
    rw [maybeForceExit_of_suppressed hx ((suppressed_congr hview).mpr hclock)] at hrun
    cases hrun
    constructor
    · intro h
      have himpossible := hblocked.mp h.blocked
      cases himpossible
    · exact fun h => absurd hclock h.1
  · have hsuppressed : ¬ Suppressed (env.exits symbol) sa.world symbol := by
      rwa [suppressed_congr hview]
    obtain ⟨⟨events, htrace⟩, hanswer⟩ := maybeForceExit_live hx hsuppressed hat hrun
    rw [rejectedAsDust_congr hview] at hanswer
    constructor
    · intro h
      have hyes := hblocked.mp h.blocked
      refine ⟨hclock, fun hrejected => ?_⟩
      rw [hanswer.mpr hrejected] at hyes
      cases hyes
    · rintro ⟨-, hrejected⟩
      have hyes : blocked = true := by
        cases blocked with
        | true => rfl
        | false => exact absurd (hanswer.mp rfl) hrejected
      refine ⟨?_, hblocked.mpr hyes, noEntry_of_blocked hintents (hblocked.mpr hyes)⟩
      obtain ⟨first, hfirst, -⟩ := hgrows₁
      obtain ⟨second, hsecond, -⟩ := hgrows₂
      obtain ⟨third, hthird, -⟩ := hgrows₃
      rw [hworld, htrace, hfirst] at hsecond
      rw [hthird, hsecond]
      simp

end Symbol

/-! ### Runs -/

/-- A live position when an iteration turns to the exits; the iteration gets to its intents, and
would send entries. -/
structure LiveTurn (x : Context) (env : LoopEnv) (before : World) (begun : World)
    (s s' : LoopState) (symbol : String) : Prop where
  begins : bodyBegin x env before = some begun
  atExits : stateAtExits x env begun = some s
  atIntents : stateAtIntents x env begun = some s'
  live : Live x (env.exits symbol) s.world symbol

/-- In a run, every live position is under control. -/
def LiveUnderControl (x : Context) (envs : List LoopEnv) (w : World) : Prop :=
  ∀ t ∈ transitions (iteration x) envs w, ∀ begun s s' symbol,
    LiveTurn x t.input t.before begun s s' symbol → UnderControl x t.input begun s s' symbol

theorem isSome_of_bodyBegin {x : Context} {env : LoopEnv} {w begun : World}
    (h : bodyBegin x env w = some begun) : x.executor.isSome = true := by
  unfold bodyBegin at h
  split_ifs at h with hskipped
  cases hexecutor : x.executor with
  | none =>
    rw [hexecutor] at hskipped
    exact absurd (Or.inl rfl) hskipped
  | some executor => rfl

theorem LiveTurn.underControl_iff {x : Context} {env : LoopEnv} {before begun : World}
    {s s' : LoopState} {symbol : String} (h : LiveTurn x env before begun s s' symbol) :
    UnderControl x env begun s s' symbol ↔ ¬ Suppressed (env.exits symbol) s.world symbol ∧
      ¬ RejectedAsDust x (env.exits symbol) s.world symbol :=
  Botik.underControl_iff (isSome_of_bodyBegin h.begins) h.atExits h.atIntents h.live

/-- An iteration at a time and a price that ingests a buy at a hundred, and an intent to buy. -/
def buyingEnv (clock bid : ℚ) (execId qty : String) : LoopEnv :=
  { plainEnv (smallOrder 0) 1 with
    openOrders := .ok ⟨some 0, []⟩
    fetches := [Fetch.single "AAAUSDT" (plainDelivery execId "Buy" qty "100")]
    exits := fun symbol =>
      { faults := fun _ => none, clock := clock, sentClock := clock, utc := 0,
        book := some { bestBid := bid, bestAsk := bid + 1, mid := bid + 1 / 2 },
        linkId := symbol, answer := .ok { retCode := some 0, retMsg := none, orderId := some "1" } }
    intents := .ok [⟨{ plainIntent 1 with symbol := "AAAUSDT" }, plainIntentEnv⟩] }

/-- A little is bought and falls below the notional floor; ten seconds later more is bought. -/
def dustThenBuy : List LoopEnv := [buyingEnv 1000 40 "e1" "0.02", buyingEnv 1010 100 "e2" "1"]

end Botik
