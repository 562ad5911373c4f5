import Botik.Main.UniverseLoop
import Botik.Theorems.SnapshotReadiness

/-!
# The universe and the stream

The ranking takes the best of what the floors admit, and lowers the floors no further than it has
to. A new universe keeps the symbols that are held, and the client of the stream keeps their books:
to such a symbol the changes of the universe are invisible.

## Main definitions

* `WsPublic.SymbolView`, `WsPublic.viewOf` — what the client and the state know of one symbol
* `UniverseEvent.message?` — what the stream sees of an event

## Main results

* `Discovery.ranked_symbols_are_best`
* `WsPublic.viewOf_handleMessage_congr`, `WsPublic.viewOf_updateSymbols`
* `books_follow_universe` — every run of events
* `held_symbol_keeps_book` — a symbol that is held at every change
-/

namespace Botik

open Market Runs

/-! ### The ranking -/

namespace Discovery

variable (candidates : List Candidate) (size : ℕ)

theorem length_pick (f : Floors) :
    (pick candidates size f).length = min size (admitted candidates f).length := by
  unfold pick
  rw [List.length_take, Newest.length_sortedBy]

/-- What is taken at some floors, and what is left out. -/
theorem pick_spec (f : Floors) :
    ∃ rest, (admitted candidates f).Perm (pick candidates size f ++ rest) ∧
      (pick candidates size f ++ rest).Pairwise fun a b => b.rank ≤ a.rank :=
  Newest.take_sortedBy_spec (fun c : Candidate => OrderDual.toDual c.rank) (admitted candidates f)
    size

/-- The floors after some of the rounds. The rounds go on while too little is taken and the floors
are not low. -/
theorem relax_spec (rounds : ℕ) (f : Floors)
    (hfew : (admitted candidates f).length < size) :
    ∃ k ≤ rounds,
      relax candidates size rounds f (pick candidates size f) =
        pick candidates size (Floors.halved^[k] f) ∧
      (∀ j < k, (admitted candidates (Floors.halved^[j] f)).length < size) ∧
      ((admitted candidates (Floors.halved^[k] f)).length < size →
        k = rounds ∨ (Floors.halved^[k] f).IsLow) := by
  induction rounds generalizing f with
  | zero => exact ⟨0, le_rfl, rfl, fun _ hj => absurd hj (Nat.not_lt_zero _), fun _ => .inl rfl⟩
  | succ rounds ih =>
    unfold relax
    dsimp only
    rw [length_pick]
    split_ifs with hstop
    · refine ⟨1, Nat.succ_le_succ (Nat.zero_le _), rfl, ?_, fun hlow => ?_⟩
      · intro j hj
        rwa [Nat.lt_one_iff.mp hj]
      · rw [Function.iterate_one] at hlow ⊢
        rcases hstop with hfull | hlow'
        · exact absurd (hfull.trans (min_le_right _ _)) (not_le.mpr hlow)
        · exact .inr hlow'
    · obtain ⟨hfew', -⟩ := not_or.mp hstop
      have hnext : (admitted candidates f.halved).length < size := by omega
      obtain ⟨k, hk, hrelax, hbefore, hend⟩ := ih f.halved hnext
      refine ⟨k + 1, Nat.succ_le_succ hk, hrelax, ?_, fun hlow => ?_⟩
      · rintro (_ | j) hj
        · exact hfew
        · exact hbefore j (Nat.lt_of_succ_lt_succ hj)
      · exact (hend hlow).imp_left (congrArg (· + 1))

end Discovery

/-! ### What is known of one symbol -/

namespace WsPublic

section Normalize

variable {s : String} {symbols symbols' : List String}

theorem mem_foldl_addNormalized (symbols out : List String) :
    s ∈ symbols.foldl addNormalized out ↔
      s ∈ out ∨ s ≠ "" ∧ ∃ raw ∈ symbols, Text.upper (Text.strip raw) = s := by
  induction symbols generalizing out with
  | nil => simp
  | cons raw symbols ih =>
    rw [List.foldl_cons, ih, addNormalized]
    split_ifs with hskip
    · constructor
      · rintro (hout | ⟨hne, raw', hmem, heq⟩)
        · exact .inl hout
        · exact .inr ⟨hne, raw', List.mem_cons_of_mem _ hmem, heq⟩
      · rintro (hout | ⟨hne, raw', hmem, rfl⟩)
        · exact .inl hout
        · rcases List.mem_cons.mp hmem with rfl | hmem
          · exact .inl (hskip.resolve_left hne)
          · exact .inr ⟨hne, raw', hmem, rfl⟩
    · obtain ⟨hne, -⟩ := not_or.mp hskip
      rw [List.mem_append, List.mem_singleton]
      constructor
      · rintro ((hout | rfl) | ⟨hne', raw', hmem, heq⟩)
        · exact .inl hout
        · exact .inr ⟨hne, raw, List.mem_cons_self, rfl⟩
        · exact .inr ⟨hne', raw', List.mem_cons_of_mem _ hmem, heq⟩
      · rintro (hout | ⟨hne', raw', hmem, rfl⟩)
        · exact .inl (.inl hout)
        · rcases List.mem_cons.mp hmem with rfl | hmem
          · exact .inl (.inr rfl)
          · exact .inr ⟨hne', raw', hmem, rfl⟩

theorem mem_normalizeSymbols :
    s ∈ normalizeSymbols symbols ↔
      s ≠ "" ∧ ∃ raw ∈ symbols, Text.upper (Text.strip raw) = s := by
  unfold normalizeSymbols
  rw [mem_foldl_addNormalized]
  simp

/-- A normalized symbol stays what it is. -/
theorem upper_strip_of_mem (h : s ∈ normalizeSymbols symbols) : Text.upper (Text.strip s) = s := by
  obtain ⟨-, raw, -, rfl⟩ := mem_normalizeSymbols.mp h
  rw [Text.upper_strip, Text.upper_upper, ← Text.upper_strip, Text.strip_strip]

theorem mem_normalizeSymbols_of_mem (h : s ∈ normalizeSymbols symbols) (hmem : s ∈ symbols') :
    s ∈ normalizeSymbols symbols' :=
  mem_normalizeSymbols.mpr ⟨(mem_normalizeSymbols.mp h).1, s, hmem, upper_strip_of_mem h⟩

theorem mem_normalizeSymbols_twice :
    s ∈ normalizeSymbols (normalizeSymbols symbols) ↔ s ∈ normalizeSymbols symbols := by
  refine ⟨fun h => ?_, fun h => mem_normalizeSymbols_of_mem h h⟩
  obtain ⟨-, raw, hraw, heq⟩ := mem_normalizeSymbols.mp h
  rwa [← heq, upper_strip_of_mem hraw]

end Normalize

/-- What the state knows of one symbol. -/
@[ext] structure SymbolView where
  top : Option Market.OrderBookAggregate
  levels : Option (List Level × List Level)
  tickSize : Option ℚ
  snapshotReady : Option Bool
  updatedMs : Option ℤ
  spreads : Option (List (ℤ × ℚ))
  mids : Option (List (ℤ × ℚ))

/-- The entries of one symbol. -/
def symbolView (s : String) (state : MarketState) : SymbolView where
  top := state.orderbooks.get? s
  levels := state.orderbookLevels.get? s
  tickSize := state.symbolTickSize.get? s
  snapshotReady := state.bookSnapshotReady.get? s
  updatedMs := state.lastBookUpdateMs.get? s
  spreads := state.spreadBpsHistory.get? s
  mids := state.midHistory.get? s

/-- What the client and the state know of one symbol. -/
def viewOf (s : String) (c : Client) : Option RawBook × SymbolView :=
  (c.books.get? s, symbolView s c.state)

section State

variable {state state' : MarketState} {nowMs : ℤ} {symbol s : String}
  {agg : Market.OrderBookAggregate} {levels : List Level × List Level} {isSnapshot : Bool}
  {tickSize : ℚ}

/-- An entry of another symbol. -/
theorem symbolView_setOrderbook_of_ne (h : s ≠ symbol) :
    symbolView s (state.setOrderbook nowMs symbol agg (some levels) isSnapshot (some tickSize)) =
      symbolView s state := by
  unfold symbolView MarketState.setOrderbook MarketState.appendPruned
  generalize (if agg.tsMs ≠ 0 then agg.tsMs else nowMs) = tsMs
  ext1 <;> dsimp only
  · exact Dict.get?_set_of_ne h _ _
  · exact Dict.get?_set_of_ne h _ _
  · split_ifs
    · exact Dict.get?_set_of_ne h _ _
    · rfl
  · split_ifs
    · exact Dict.get?_set_of_ne h _ _
    · exact Dict.get?_insertIfAbsent_of_ne h _ _
  · exact Dict.get?_set_of_ne h _ _
  · split_ifs
    · exact Dict.get?_set_of_ne h _ _
    · rfl
  · split_ifs
    · exact Dict.get?_set_of_ne h _ _
    · rfl

/-- An entry depends on what was known of its symbol. -/
theorem symbolView_setOrderbook_congr (h : symbolView symbol state = symbolView symbol state') :
    symbolView symbol
        (state.setOrderbook nowMs symbol agg (some levels) isSnapshot (some tickSize)) =
      symbolView symbol
        (state'.setOrderbook nowMs symbol agg (some levels) isSnapshot (some tickSize)) := by
  obtain ⟨-, -, htick, hready, -, hspreads, hmids⟩ := SymbolView.mk.inj h
  unfold symbolView MarketState.setOrderbook MarketState.appendPruned
  generalize (if agg.tsMs ≠ 0 then agg.tsMs else nowMs) = tsMs
  ext1 <;> dsimp only
  · rw [Dict.get?_set_self, Dict.get?_set_self]
  · rw [Dict.get?_set_self, Dict.get?_set_self]
  · split_ifs
    · rw [Dict.get?_set_self, Dict.get?_set_self]
    · exact htick
  · split_ifs
    · rw [Dict.get?_set_self, Dict.get?_set_self]
    · rw [Dict.get?_insertIfAbsent_self, Dict.get?_insertIfAbsent_self, hready]
  · rw [Dict.get?_set_self, Dict.get?_set_self]
  · split_ifs
    · rw [hspreads, Dict.get?_set_self, Dict.get?_set_self]
    · exact hspreads
  · split_ifs
    · rw [hmids, Dict.get?_set_self, Dict.get?_set_self]
    · exact hmids

end State

section View

variable {x : Settings} {nowMs : ℤ} {m : BookMessage} {c c' : Client} {s : String}
  {symbols : List String}

/-- A message of another symbol. -/
theorem viewOf_handleMessage_of_ne (h : s ≠ m.symbol) :
    viewOf s (handleMessage x nowMs m c) = viewOf s c := by
  unfold handleMessage
  cases hbook : c.books.get? m.symbol with
  | none => rfl
  | some book =>
    refine Prod.ext (Dict.get?_set_of_ne h _ _) ?_
    change symbolView s (publish x nowMs m (m.applyTo book) c.state) = symbolView s c.state
    rcases publish_cases x nowMs m (m.applyTo book) c.state with
      ⟨-, agg, tickSize, -, hpublish⟩ | ⟨-, hpublish⟩
    · rw [hpublish, symbolView_setOrderbook_of_ne h]
    · rw [hpublish]

theorem symbolView_publish_congr {state state' : MarketState} (book : RawBook)
    (h : symbolView m.symbol state = symbolView m.symbol state') :
    symbolView m.symbol (publish x nowMs m book state) =
      symbolView m.symbol (publish x nowMs m book state') := by
  unfold publish
  dsimp only
  split
  · exact h
  · exact symbolView_setOrderbook_congr h

/-- What a message makes of a symbol depends on what was known of it. -/
theorem viewOf_handleMessage_congr (x : Settings) (nowMs : ℤ) (m : BookMessage)
    (h : viewOf s c = viewOf s c') :
    viewOf s (handleMessage x nowMs m c) = viewOf s (handleMessage x nowMs m c') := by
  by_cases hsymbol : s = m.symbol
  · subst hsymbol
    obtain ⟨hbooks, hview⟩ := Prod.mk.inj h
    unfold handleMessage
    rw [← hbooks]
    cases hbook : c.books.get? m.symbol with
    | none => exact h
    | some book =>
      refine Prod.ext ?_ (symbolView_publish_congr (m.applyTo book) hview)
      change (c.books.set m.symbol _).get? m.symbol = (c'.books.set m.symbol _).get? m.symbol
      rw [Dict.get?_set_self, Dict.get?_set_self]
  · rw [viewOf_handleMessage_of_ne hsymbol, viewOf_handleMessage_of_ne hsymbol, h]

/-- A symbol that is subscribed to before and after a change of the symbols. -/
theorem viewOf_updateSymbols (hold : s ∈ c.symbols) (hnew : s ∈ normalizeSymbols symbols) :
    viewOf s (updateSymbols symbols c) = viewOf s c := by
  unfold updateSymbols
  dsimp only
  split_ifs with hsame
  · rfl
  · have hadded : s ∉ (normalizeSymbols symbols).filter fun s => s ∉ c.symbols := by
      simp [hold]
    have hremoved : s ∉ c.symbols.filter fun s => s ∉ normalizeSymbols symbols := by
      simp [hnew]
    rw [foldl_addSymbol, foldl_dropSymbol]
    unfold viewOf symbolView
    dsimp only
    rw [Dict.get?_foldl_erase, Dict.get?_foldl_set, Dict.get?_foldl_erase, if_neg hremoved,
      if_neg hremoved, if_neg hadded]

theorem mem_symbols_updateSymbols (hne : normalizeSymbols symbols ≠ []) :
    s ∈ (updateSymbols symbols c).symbols ↔ s ∈ normalizeSymbols symbols := by
  unfold updateSymbols
  dsimp only
  split_ifs with hsame
  · obtain ⟨hadded, hremoved⟩ := hsame.resolve_left hne
    simp only [List.filter_eq_nil_iff, decide_eq_true_eq, not_not] at hadded hremoved
    exact ⟨hremoved s, hadded s⟩
  · rw [foldl_addSymbol, foldl_dropSymbol]

/-- The raw books follow the subscriptions. -/
theorem isSome_books_updateSymbols (hne : normalizeSymbols symbols ≠ [])
    (h : ∀ s, (c.books.get? s).isSome ↔ s ∈ c.symbols) (s : String) :
    ((updateSymbols symbols c).books.get? s).isSome ↔ s ∈ (updateSymbols symbols c).symbols := by
  rcases updateSymbols_cases symbols c with hsame | ⟨-, hbooks, -⟩
  · rw [hsame]
    exact h s
  · have hs := h s
    rw [mem_symbols_updateSymbols hne, hbooks]
    by_cases hold : s ∈ c.symbols
    · by_cases hnew : s ∈ normalizeSymbols symbols
      · simpa [hold, hnew] using hs
      · simp [hold, hnew]
    · by_cases hnew : s ∈ normalizeSymbols symbols
      · simp [hold, hnew]
      · simpa [hold, hnew] using hs

theorem symbols_handleMessage : (handleMessage x nowMs m c).symbols = c.symbols := by
  unfold handleMessage
  split <;> rfl

theorem isSome_books_handleMessage :
    ((handleMessage x nowMs m c).books.get? s).isSome ↔ (c.books.get? s).isSome := by
  unfold handleMessage
  cases hbook : c.books.get? m.symbol with
  | none => rfl
  | some book =>
    dsimp only
    rw [Dict.get?_set]
    split_ifs with hsymbol
    · rw [hsymbol, hbook]
      exact iff_of_true rfl rfl
    · rfl

end View

end WsPublic

/-! ### The universe -/

open WsPublic

/-- What the stream sees of an event. -/
def UniverseEvent.message? : UniverseEvent → Option (ℤ × BookMessage)
  | .message nowMs m => some (nowMs, m)
  | _ => none

/-- A round begins. -/
def UniverseEvent.IsRefresh : UniverseEvent → Prop
  | .refresh _ _ => True
  | _ => False

namespace Universe

variable {x : UniverseSettings} {state : MarketState} {u : Universe} {event : UniverseEvent}
  {s : String}

/-- The client is subscribed to the universe, keeps the raw books of its symbols, and what else is
published is what `state` had. -/
structure Subscribed (state : MarketState) (u : Universe) : Prop where
  symbols : ∀ s, s ∈ u.client.symbols ↔ s ∈ normalizeSymbols u.symbols
  books : ∀ s, (u.client.books.get? s).isSome ↔ s ∈ u.client.symbols
  published : ∀ s, (u.client.state.orderbooks.get? s).isSome →
    s ∈ u.client.symbols ∨ u.client.state.orderbooks.get? s = state.orderbooks.get? s

theorem subscribed_start (x : UniverseSettings) (state : MarketState) :
    (start x state).Subscribed state := by
  refine ⟨fun s => Iff.rfl, fun s => ?_, fun s _ => .inr rfl⟩
  change (((normalizeSymbols x.config.symbols).foldl (fun books s => books.set s RawBook.empty)
    Dict.empty).get? s).isSome ↔ s ∈ normalizeSymbols x.config.symbols
  rw [Dict.get?_foldl_set]
  split_ifs with hmem
  · exact iff_of_true rfl hmem
  · exact iff_of_false Bool.false_ne_true hmem

/-! #### A new universe -/

/-- A round leaves everything as it is, or changes the universe to the merged symbols. -/
theorem refresh_cases (x : UniverseSettings) (discovered : Except PyError (List String))
    (u : Universe) :
    u.refresh x discovered = u ∨
      ∃ found, mergedSymbols x.config u.rt found ≠ [] ∧
        (u.refresh x discovered).symbols = mergedSymbols x.config u.rt found ∧
        (u.refresh x discovered).client =
          updateSymbols (mergedSymbols x.config u.rt found) u.client := by
  unfold refresh
  cases discovered with
  | error e => exact .inl rfl
  | ok found =>
    dsimp only
    split_ifs with hsame
    · exact .inl rfl
    · exact .inr ⟨found, fun hnil => hsame (.inr (.inl hnil)), rfl, rfl⟩

theorem mem_normalizeSymbols_mergedSymbols {c : Config} {rt : Runtime} {found : List String} :
    s ∈ normalizeSymbols (mergedSymbols c rt found) ↔ s ∈ mergedSymbols c rt found :=
  mem_normalizeSymbols_twice

theorem normalizeSymbols_mergedSymbols_ne_nil {c : Config} {rt : Runtime} {found : List String}
    (h : mergedSymbols c rt found ≠ []) : normalizeSymbols (mergedSymbols c rt found) ≠ [] := by
  obtain ⟨s, hs⟩ := List.exists_mem_of_ne_nil _ h
  exact List.ne_nil_of_mem (mem_normalizeSymbols_mergedSymbols.mpr hs)

/-- A held symbol stays in the universe. -/
theorem mem_mergedSymbols_of_held {c : Config} {rt : Runtime} {symbols : List String}
    (hs : s ∈ normalizeSymbols symbols) (hheld : s ∈ heldSymbols c rt) (found : List String) :
    s ∈ mergedSymbols c rt found :=
  mem_normalizeSymbols_of_mem hs (List.mem_append_left _ hheld)

theorem Subscribed.refresh (h : u.Subscribed state) (discovered : Except PyError (List String)) :
    (u.refresh x discovered).Subscribed state := by
  rcases refresh_cases x discovered u with hsame | ⟨found, hne, hsymbols, hclient⟩
  · rw [hsame]
    exact h
  · have hnormal := normalizeSymbols_mergedSymbols_ne_nil hne
    constructor
    · intro s
      rw [hclient, hsymbols, mem_symbols_updateSymbols hnormal]
    · intro s
      rw [hclient]
      exact isSome_books_updateSymbols hnormal h.books s
    · intro s htop
      rw [hclient] at htop ⊢
      rw [mem_symbols_updateSymbols hnormal]
      rcases updateSymbols_cases (mergedSymbols x.config u.rt found) u.client with
        hsame | ⟨-, -, htops, -⟩
      · rw [hsame] at htop ⊢
        refine (h.published s htop).imp_left fun hmem => ?_
        rwa [← mem_symbols_updateSymbols hnormal, hsame]
      · rw [htops] at htop ⊢
        split_ifs at htop ⊢ with hremoved
        · exact absurd htop Bool.false_ne_true
        · refine (h.published s htop).imp_left fun hmem => ?_
          exact not_not.mp fun hnew => hremoved ⟨hmem, hnew⟩

/-! #### One event -/

theorem Subscribed.message (h : u.Subscribed state) (nowMs : ℤ) (m : BookMessage) :
    (Universe.step x (.message nowMs m) u).Subscribed state := by
  constructor
  · intro s
    change s ∈ (handleMessage x.stream nowMs m u.client).symbols ↔ _
    rw [symbols_handleMessage]
    exact h.symbols s
  · intro s
    change ((handleMessage x.stream nowMs m u.client).books.get? s).isSome ↔
      s ∈ (handleMessage x.stream nowMs m u.client).symbols
    rw [symbols_handleMessage, isSome_books_handleMessage]
    exact h.books s
  · intro s htop
    change ((handleMessage x.stream nowMs m u.client).state.orderbooks.get? s).isSome at htop
    change s ∈ (handleMessage x.stream nowMs m u.client).symbols ∨
      (handleMessage x.stream nowMs m u.client).state.orderbooks.get? s = state.orderbooks.get? s
    rw [symbols_handleMessage]
    -- only the book of the symbol of the message is published
    by_cases hsymbol : s = m.symbol
    · cases hbook : u.client.books.get? m.symbol with
      | none =>
        have hsame : handleMessage x.stream nowMs m u.client = u.client := by
          unfold handleMessage
          rw [hbook]
        rw [hsame] at htop ⊢
        exact h.published s htop
      | some book =>
        rw [hsymbol]
        exact .inl ((h.books m.symbol).mp (by rw [hbook]; rfl))
    · have hview : viewOf s (handleMessage x.stream nowMs m u.client) = viewOf s u.client :=
        viewOf_handleMessage_of_ne hsymbol
      have htops : (handleMessage x.stream nowMs m u.client).state.orderbooks.get? s =
          u.client.state.orderbooks.get? s :=
        congrArg (fun v : Option RawBook × SymbolView => v.2.top) hview
      rw [htops] at htop ⊢
      exact h.published s htop

theorem Subscribed.step (h : u.Subscribed state) :
    (Universe.step x event u).Subscribed state := by
  cases event with
  | refresh instruments tickers => exact h.refresh _
  | activate => exact ⟨h.symbols, h.books, h.published⟩
  | message nowMs m => exact h.message nowMs m
  | trade rt => exact ⟨h.symbols, h.books, h.published⟩
  | scan selected profiles policyMeta => exact ⟨h.symbols, h.books, h.published⟩

/-- The client after what it sees of an event. -/
def hear (x : UniverseSettings) (e : ℤ × BookMessage) (c : Client) : Client :=
  handleMessage x.stream e.1 e.2 c

/-- To a held symbol an event is what the stream sees of it. -/
theorem viewOf_step (event : UniverseEvent) (hu : u.Subscribed state)
    (hs : s ∈ normalizeSymbols u.symbols)
    (hheld : event.IsRefresh → s ∈ heldSymbols x.config u.rt) :
    s ∈ normalizeSymbols (Universe.step x event u).symbols ∧
      viewOf s (Universe.step x event u).client =
        viewOf s (run (hear x) event.message?.toList u.client) := by
  cases event with
  | refresh instruments tickers =>
    change s ∈ normalizeSymbols (u.refresh x _).symbols ∧ viewOf s (u.refresh x _).client = _
    rcases refresh_cases x
      (Discovery.discoverTopSymbolsByCategory x.category x.discovery instruments tickers) u with
      hsame | ⟨found, hne, hsymbols, hclient⟩
    · rw [hsame]
      exact ⟨hs, rfl⟩
    · have hmem := mem_mergedSymbols_of_held hs (hheld trivial) found
      have hnew := mem_normalizeSymbols_mergedSymbols.mpr hmem
      rw [hsymbols, hclient]
      exact ⟨hnew, viewOf_updateSymbols ((hu.symbols s).mpr hs) hnew⟩
  | activate => exact ⟨hs, rfl⟩
  | message nowMs m => exact ⟨hs, rfl⟩
  | trade rt => exact ⟨hs, rfl⟩
  | scan selected profiles policyMeta => exact ⟨hs, rfl⟩

/-! #### Runs of events -/

theorem viewOf_hear_congr {c c' : Client} (h : viewOf s c = viewOf s c')
    (messages : List (ℤ × BookMessage)) :
    viewOf s (run (hear x) messages c) = viewOf s (run (hear x) messages c') := by
  induction messages generalizing c c' with
  | nil => exact h
  | cons e messages ih => exact ih (viewOf_handleMessage_congr x.stream e.1 e.2 h)

theorem subscribed_run (x : UniverseSettings) (state : MarketState)
    (events : List UniverseEvent) :
    (run (Universe.step x) events (start x state)).Subscribed state :=
  run_of_inv (P := fun _ _ => True) (fun _ _ h _ => h.step) (subscribed_start x state)
    fun _ _ => trivial

/-- A run, to a symbol that is held whenever a round begins. -/
theorem viewOf_run (hu : u.Subscribed state) (hs : s ∈ normalizeSymbols u.symbols)
    {events : List UniverseEvent}
    (hheld : ∀ t ∈ transitions (Universe.step x) events u,
      t.input.IsRefresh → s ∈ heldSymbols x.config t.before.rt) :
    s ∈ normalizeSymbols (run (Universe.step x) events u).symbols ∧
      viewOf s (run (Universe.step x) events u).client =
        viewOf s (run (hear x) (events.filterMap UniverseEvent.message?) u.client) := by
  induction events generalizing u with
  | nil => exact ⟨hs, rfl⟩
  | cons event events ih =>
    rw [transitions_cons, List.forall_mem_cons] at hheld
    obtain ⟨hmem, hview⟩ := viewOf_step event hu hs hheld.1
    obtain ⟨hlast, hrun⟩ := ih hu.step hmem hheld.2
    refine ⟨hlast, ?_⟩
    rw [run_cons, hrun, viewOf_hear_congr hview, ← run_append]
    cases event <;> rfl

end Universe

/-- In every run the client keeps the raw books of the universe and of no other symbol, and a book
that is published of a symbol outside of it is the one from before the run. -/
theorem books_follow_universe (x : UniverseSettings) (state : MarketState)
    (events : List UniverseEvent) (s : String) :
    let u := run (Universe.step x) events (Universe.start x state)
    ((u.client.books.get? s).isSome ↔ s ∈ normalizeSymbols u.symbols) ∧
      ((u.client.state.orderbooks.get? s).isSome →
        s ∈ normalizeSymbols u.symbols ∨
          u.client.state.orderbooks.get? s = state.orderbooks.get? s) := by
  intro u
  have hu : u.Subscribed state := Universe.subscribed_run x state events
  refine ⟨(hu.books s).trans (hu.symbols s), fun htop => ?_⟩
  exact (hu.published s htop).imp_left (hu.symbols s).mp

/-- A symbol of the universe that is held whenever a round begins stays in it, and what is known of
it is what the messages of the stream alone make of it. -/
theorem held_symbol_keeps_book (x : UniverseSettings) (state : MarketState)
    (before after : List UniverseEvent) (s : String)
    (hs : s ∈ normalizeSymbols
      (run (Universe.step x) before (Universe.start x state)).symbols)
    (hheld : ∀ t ∈ transitions (Universe.step x) after
        (run (Universe.step x) before (Universe.start x state)),
      t.input.IsRefresh → s ∈ heldSymbols x.config t.before.rt) :
    let u := run (Universe.step x) before (Universe.start x state)
    let v := run (Universe.step x) (before ++ after) (Universe.start x state)
    s ∈ normalizeSymbols v.symbols ∧
      viewOf s v.client =
        viewOf s (run (Universe.hear x) (after.filterMap UniverseEvent.message?) u.client) := by
  intro u v
  have hv : v = run (Universe.step x) after u := run_append
  rw [hv]
  exact Universe.viewOf_run (Universe.subscribed_run x state before) hs hheld

/-- One symbol to begin with, and floors that admit everything. -/
def smallUniverse : UniverseSettings where
  config := Config.default ["BTCUSDT"] .linear
  stream := ⟨50, 1 / 100⟩
  category := .linear
  discovery := ⟨"USDT", 5, 0, 0, 0, 0, true⟩
  scannerTopK := 1
  policyModelId := none

/-- A book arrives and a position is opened. -/
def bookThenPosition : List UniverseEvent :=
  [.message 1 ⟨"BTCUSDT", true, [(100, 1)], [(101, 1)], none⟩,
    .trade { Runtime.initial smallUniverse.config with position := fun _ => ⟨1, 100⟩ }]

/-- Another symbol is discovered, and the books go on. -/
def discoveryThenBooks : List UniverseEvent :=
  [.refresh (.ok []) (.ok [⟨some "ETHUSDT", some "Trading", some "10", some "10", some "11",
      some "1", some "1"⟩]),
    .message 2 ⟨"BTCUSDT", false, [(99, 2)], [], none⟩,
    .message 3 ⟨"ETHUSDT", true, [(10, 1)], [(11, 1)], none⟩]

theorem discovery_keeps_bitcoin_book :
    (run (Universe.step smallUniverse) (bookThenPosition ++ discoveryThenBooks)
        (Universe.start smallUniverse .empty)).symbols = ["BTCUSDT", "ETHUSDT"] ∧
      viewOf "BTCUSDT" (run (Universe.step smallUniverse) (bookThenPosition ++ discoveryThenBooks)
          (Universe.start smallUniverse .empty)).client =
        viewOf "BTCUSDT" (run (Universe.hear smallUniverse)
          (discoveryThenBooks.filterMap UniverseEvent.message?)
          (run (Universe.step smallUniverse) bookThenPosition
            (Universe.start smallUniverse .empty)).client) := by
  refine ⟨by decide +kernel, (held_symbol_keeps_book smallUniverse .empty bookThenPosition
    discoveryThenBooks "BTCUSDT" (by decide +kernel) ?_).2⟩
  intro t ht hrefresh
  rcases List.mem_cons.mp ht with rfl | ht
  · decide +kernel
  · rcases List.mem_cons.mp ht with rfl | ht
    · exact hrefresh.elim
    · rw [List.mem_singleton.mp ht] at hrefresh
      exact hrefresh.elim

end Botik
