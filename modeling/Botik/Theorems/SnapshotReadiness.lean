import Botik.Library.Runs
import Botik.Marketdata.WsPublic

/-!
# The readiness of a book

A symbol becomes ready when a snapshot of it is published, and stays ready when it is dropped and
subscribed to again, while its raw book starts empty. A delta that arrives before the new snapshot
can then publish a book under a readiness from before.

## Main definitions

* `WsPublic.Observed` — the client, with the snapshots that arrived since each symbol was added
* `WsPublic.Observed.Honest` — ready symbols have books built on such a snapshot
* `WsPublic.PublishesStale` — a delta that publishes a book without one, under an old readiness

## Main results

* `WsPublic.honest_observe_iff` — one event
* `readiness_honest_iff` — every run of events
-/

namespace Botik

open Market Runs

namespace WsPublic

/-- What can happen to the client. A reconnect subscribes to the same symbols again and changes
nothing that is stored. -/
inductive StreamEvent
  | updateSymbols (symbols : List String)
  | reconnect
  | message (nowMs : ℤ) (m : BookMessage)

/-- The client, with what the stream sent for each symbol since it was added. -/
structure Observed where
  client : Client
  /-- A snapshot arrived since the symbol was added. -/
  snapshotSeen : String → Bool
  /-- The last published book was built on a snapshot that arrived since the symbol was added. -/
  builtOnSnapshot : String → Bool

/-- Both sides of a raw book have levels. -/
def RawBook.TwoSided (book : RawBook) : Prop := book.bids.entries ≠ [] ∧ book.asks.entries ≠ []

instance (book : RawBook) : Decidable book.TwoSided := inferInstanceAs (Decidable (_ ∧ _))

/-- The symbol is subscribed to by an update. -/
def IsAdded (symbols : List String) (c : Client) (symbol : String) : Prop :=
  symbol ∈ (updateSymbols symbols c).symbols ∧ symbol ∉ c.symbols

instance (symbols : List String) (c : Client) (symbol : String) :
    Decidable (IsAdded symbols c symbol) :=
  inferInstanceAs (Decidable (_ ∧ _))

/-- A message of a subscribed symbol, on its raw book. -/
def observeMessage (x : Settings) (nowMs : ℤ) (m : BookMessage) (book : RawBook) (o : Observed) :
    Observed :=
  let seen := m.isSnapshot || o.snapshotSeen m.symbol
  { client := handleMessage x nowMs m o.client
    snapshotSeen := Function.update o.snapshotSeen m.symbol seen
    builtOnSnapshot :=
      if (m.applyTo book).TwoSided then Function.update o.builtOnSnapshot m.symbol seen
      else o.builtOnSnapshot }

/-- One event. -/
def observe (x : Settings) : StreamEvent → Observed → Observed
  | .updateSymbols symbols, o =>
    { client := updateSymbols symbols o.client
      snapshotSeen := fun symbol =>
        if IsAdded symbols o.client symbol then false else o.snapshotSeen symbol
      builtOnSnapshot := fun symbol =>
        if IsAdded symbols o.client symbol then false else o.builtOnSnapshot symbol }
  | .reconnect, o => o
  | .message nowMs m, o =>
    match o.client.books.get? m.symbol with
    | none => o
    | some book => observeMessage x nowMs m book o

/-- The published book of a ready symbol was built on a snapshot that arrived since the symbol was
added. -/
def Observed.Honest (o : Observed) : Prop :=
  ∀ symbol, o.client.state.isBookSnapshotReady symbol = true →
    (o.client.state.orderbooks.get? symbol).isSome → o.builtOnSnapshot symbol = true

/-- A delta that publishes the book of a symbol that is ready from before, while no snapshot arrived
since the symbol was added. -/
def PublishesStale (o : Observed) : StreamEvent → Prop
  | .message _ m => m.isSnapshot = false ∧
      (∃ book, o.client.books.get? m.symbol = some book ∧ (m.applyTo book).TwoSided) ∧
      o.client.state.isBookSnapshotReady m.symbol = true ∧ o.snapshotSeen m.symbol = false
  | _ => False

/-- Raw books are of subscribed symbols, and so are published books. -/
structure Subscribed (o : Observed) : Prop where
  books : ∀ symbol, (o.client.books.get? symbol).isSome ↔ symbol ∈ o.client.symbols
  published : ∀ symbol, (o.client.state.orderbooks.get? symbol).isSome → symbol ∈ o.client.symbols

/-! ### Updates of the symbols -/

section Update

variable {c : Client} {symbols : List String} {symbol : String}

theorem foldl_addSymbol (added : List String) (c : Client) :
    added.foldl addSymbol c =
      { c with books := added.foldl (fun books s => books.set s .empty) c.books } := by
  induction added generalizing c with
  | nil => rfl
  | cons s added ih => exact ih (addSymbol c s)

theorem foldl_dropSymbol (removed : List String) (c : Client) :
    removed.foldl dropSymbol c =
      { c with
        books := removed.foldl (fun books s => books.erase s) c.books
        state := { c.state with
          orderbooks := removed.foldl (fun books s => books.erase s) c.state.orderbooks } } := by
  induction removed generalizing c with
  | nil => rfl
  | cons s removed ih => exact ih (dropSymbol c s)

/-- What an update does: the added symbols get empty raw books, the removed ones lose theirs and
their top of book, and the readiness of all stays. -/
theorem updateSymbols_cases (symbols : List String) (c : Client) :
    updateSymbols symbols c = c ∨
      ((updateSymbols symbols c).symbols = normalizeSymbols symbols ∧
        (∀ symbol, (updateSymbols symbols c).books.get? symbol =
          if symbol ∈ c.symbols ∧ symbol ∉ normalizeSymbols symbols then none
          else if symbol ∈ normalizeSymbols symbols ∧ symbol ∉ c.symbols then some .empty
          else c.books.get? symbol) ∧
        (∀ symbol, (updateSymbols symbols c).state.orderbooks.get? symbol =
          if symbol ∈ c.symbols ∧ symbol ∉ normalizeSymbols symbols then none
          else c.state.orderbooks.get? symbol) ∧
        ∀ symbol, (updateSymbols symbols c).state.isBookSnapshotReady symbol =
          c.state.isBookSnapshotReady symbol) := by
  unfold updateSymbols
  dsimp only
  split_ifs with hsame
  · exact Or.inl rfl
  · right
    rw [foldl_addSymbol, foldl_dropSymbol]
    refine ⟨rfl, fun symbol => ?_, fun symbol => ?_, fun symbol => rfl⟩
    · dsimp only
      rw [Dict.get?_foldl_erase, Dict.get?_foldl_set]
      simp only [List.mem_filter, decide_eq_true_eq]
    · dsimp only
      rw [Dict.get?_foldl_erase]
      simp only [List.mem_filter, decide_eq_true_eq]

end Update

/-! ### Messages -/

section Message

variable {x : Settings} {nowMs : ℤ} {m : BookMessage} {book : RawBook} {s : MarketState}
  {symbol : String}

/-- A sorted side is empty only if the side is. -/
theorem listing_ne_nil_iff {r : ℚ → ℚ → Prop} [DecidableRel r] (side : Dict ℚ ℚ) :
    side.listing r (fun _ => true) ≠ [] ↔ side.entries ≠ [] := by
  unfold Dict.listing
  rw [List.filter_eq_self.mpr fun _ _ => rfl, ne_eq, ne_eq, ← List.length_eq_zero_iff,
    List.length_insertionSort, List.length_eq_zero_iff]

variable (x nowMs m s) in
/-- A two-sided book is published, and a snapshot makes its symbol ready. -/
theorem publish_of_sides (hsides : book.TwoSided) :
    (∀ symbol, ((publish x nowMs m book s).orderbooks.get? symbol).isSome ↔
        symbol = m.symbol ∨ (s.orderbooks.get? symbol).isSome) ∧
      ∀ symbol, (publish x nowMs m book s).isBookSnapshotReady symbol =
        if symbol = m.symbol ∧ m.isSnapshot = true then true
        else s.isBookSnapshotReady symbol := by
  rcases publish_cases x nowMs m book s with ⟨-, agg, tickSize, -, heq⟩ | ⟨hempty, -⟩
  · rw [heq]
    constructor
    · intro symbol
      rw [MarketState.orderbooks_setOrderbook]
      by_cases hsymbol : symbol = m.symbol
      · simp [hsymbol]
      · simp [hsymbol]
    · exact fun symbol => MarketState.isBookSnapshotReady_setOrderbook
  · exact absurd ⟨(listing_ne_nil_iff _).mpr hsides.1, (listing_ne_nil_iff _).mpr hsides.2⟩ hempty

variable (x nowMs m s) in
/-- A book with an empty side is not published. -/
theorem publish_of_not_sides (hsides : ¬ book.TwoSided) : publish x nowMs m book s = s := by
  rcases publish_cases x nowMs m book s with ⟨hboth, -⟩ | ⟨-, heq⟩
  · exact absurd ⟨(listing_ne_nil_iff _).mp hboth.1, (listing_ne_nil_iff _).mp hboth.2⟩ hsides
  · exact heq

end Message

/-! ### One event -/

section Observe

variable {x : Settings} {o : Observed} {event : StreamEvent}

theorem Subscribed.observe (h : Subscribed o) : Subscribed (observe x event o) := by
  cases event with
  | reconnect => exact h
  | updateSymbols symbols =>
    -- an update opens the books of the new symbols and drops those of the removed
    rcases updateSymbols_cases symbols o.client with hsame | ⟨hsymbols, hbooks, htops, -⟩
    · constructor
      · change ∀ symbol, ((updateSymbols symbols o.client).books.get? symbol).isSome ↔
          symbol ∈ (updateSymbols symbols o.client).symbols
        rw [hsame]
        exact h.books
      · change ∀ symbol, ((updateSymbols symbols o.client).state.orderbooks.get? symbol).isSome →
          symbol ∈ (updateSymbols symbols o.client).symbols
        rw [hsame]
        exact h.published
    · constructor
      · intro symbol
        change ((updateSymbols symbols o.client).books.get? symbol).isSome ↔
          symbol ∈ (updateSymbols symbols o.client).symbols
        have hbook := h.books symbol
        rw [hbooks, hsymbols]
        by_cases hold : symbol ∈ o.client.symbols
        · by_cases hnew : symbol ∈ normalizeSymbols symbols
          · simpa [hold, hnew] using hbook
          · simp [hold, hnew]
        · by_cases hnew : symbol ∈ normalizeSymbols symbols
          · simp [hold, hnew]
          · simpa [hold, hnew] using hbook
      · intro symbol htop
        change ((updateSymbols symbols o.client).state.orderbooks.get? symbol).isSome at htop
        change symbol ∈ (updateSymbols symbols o.client).symbols
        rw [htops] at htop
        rw [hsymbols]
        by_contra hnew
        split_ifs at htop with hremoved
        · exact Bool.false_ne_true htop
        · exact hremoved ⟨h.published symbol htop, hnew⟩
  | message nowMs m =>
    cases hbook : o.client.books.get? m.symbol with
    | none =>
      -- a message of a symbol that is not followed is passed over
      have hsame : WsPublic.observe x (.message nowMs m) o = o := by
        simp only [WsPublic.observe, hbook]
      rw [hsame]
      exact h
    | some book =>
      have hobserve : WsPublic.observe x (.message nowMs m) o = observeMessage x nowMs m book o := by
        simp only [WsPublic.observe, hbook]
      have hmem : m.symbol ∈ o.client.symbols := (h.books m.symbol).mp (by rw [hbook]; rfl)
      have hclient : handleMessage x nowMs m o.client = { o.client with
          books := o.client.books.set m.symbol (m.applyTo book)
          state := publish x nowMs m (m.applyTo book) o.client.state } := by
        unfold handleMessage
        rw [hbook]
      rw [hobserve]
      unfold observeMessage
      rw [hclient]
      constructor
      · intro symbol
        dsimp only
        rw [Dict.get?_set]
        split_ifs with hsymbol
        · rw [hsymbol]
          exact iff_of_true rfl hmem
        · exact h.books symbol
      · intro symbol
        dsimp only
        -- only a book with both sides is published
        by_cases hsides : (m.applyTo book).TwoSided
        · rw [(publish_of_sides x nowMs m o.client.state hsides).1]
          rintro (rfl | htop)
          · exact hmem
          · exact h.published symbol htop
        · rw [publish_of_not_sides x nowMs m o.client.state hsides]
          exact h.published symbol

/-- An update of the symbols keeps the readiness honest: an added symbol has no published book. -/
theorem Observed.Honest.updateSymbols (hsub : Subscribed o) (h : o.Honest)
    (symbols : List String) : (WsPublic.observe x (.updateSymbols symbols) o).Honest := by
  intro symbol hready htop
  change (WsPublic.updateSymbols symbols o.client).state.isBookSnapshotReady symbol = true at hready
  change ((WsPublic.updateSymbols symbols o.client).state.orderbooks.get? symbol).isSome at htop
  change (if IsAdded symbols o.client symbol then false else o.builtOnSnapshot symbol) = true
  rcases updateSymbols_cases symbols o.client with hsame | ⟨hsymbols, -, htops, hreadiness⟩
  · rw [hsame] at hready htop
    rw [if_neg]
    · exact h symbol hready htop
    · rintro ⟨hnew, hold⟩
      rw [hsame] at hnew
      exact hold hnew
  · rw [hreadiness] at hready
    rw [htops] at htop
    split_ifs at htop with hremoved
    · exact absurd htop Bool.false_ne_true
    · rw [if_neg fun hadded : IsAdded symbols o.client symbol =>
        hadded.2 (hsub.published symbol htop)]
      exact h symbol hready htop

/-- One event keeps the readiness honest if and only if it is no stale delta. -/
theorem honest_observe_iff (hsub : Subscribed o) (h : o.Honest) :
    (observe x event o).Honest ↔ ¬ PublishesStale o event := by
  cases event with
  | reconnect => exact iff_of_true h id
  | updateSymbols symbols => exact iff_of_true (h.updateSymbols hsub symbols) id
  | message nowMs m =>
    cases hbook : o.client.books.get? m.symbol with
    | none =>
      have hsame : observe x (.message nowMs m) o = o := by simp only [observe, hbook]
      rw [hsame]
      refine iff_of_true h ?_
      rintro ⟨-, ⟨book, hsome, -⟩, -⟩
      exact Option.some_ne_none _ (hsome.symm.trans hbook)
    | some book =>
      have hobserve : observe x (.message nowMs m) o = observeMessage x nowMs m book o := by
        simp only [observe, hbook]
      have hclient : (handleMessage x nowMs m o.client).state =
          publish x nowMs m (m.applyTo book) o.client.state := by
        unfold handleMessage
        rw [hbook]
      rw [hobserve]
      by_cases hsides : (m.applyTo book).TwoSided
      · obtain ⟨htops, hready⟩ := publish_of_sides x nowMs m o.client.state hsides
        have hbuilt : (observeMessage x nowMs m book o).builtOnSnapshot =
            Function.update o.builtOnSnapshot m.symbol (m.isSnapshot || o.snapshotSeen m.symbol) :=
          if_pos hsides
        constructor
        · rintro hafter ⟨hdelta, -, hold, hunseen⟩
          have hbad := hafter m.symbol
          rw [hbuilt] at hbad
          unfold observeMessage at hbad
          dsimp only at hbad
          rw [hclient, hready, Function.update_self, hdelta, hunseen] at hbad
          simp only [Bool.false_eq_true, and_false, if_false] at hbad
          exact Bool.false_ne_true (hbad hold ((htops m.symbol).mpr (Or.inl rfl)))
        · intro hnot symbol hready' htop
          change (handleMessage x nowMs m o.client).state.isBookSnapshotReady symbol = true
            at hready'
          change ((handleMessage x nowMs m o.client).state.orderbooks.get? symbol).isSome at htop
          rw [hclient] at hready' htop
          rw [hready] at hready'
          rw [hbuilt]
          by_cases hsymbol : symbol = m.symbol
          · subst hsymbol
            rw [Function.update_self]
            -- without a snapshot this is the stale delta
            by_contra hunseen
            rw [Bool.not_eq_true, Bool.or_eq_false_iff] at hunseen
            obtain ⟨hdelta, hunseen⟩ := hunseen
            rw [if_neg (by simp [hdelta])] at hready'
            exact hnot ⟨hdelta, ⟨book, hbook, hsides⟩, hready', hunseen⟩
          · rw [Function.update_of_ne hsymbol]
            rw [if_neg fun hboth => hsymbol hboth.1] at hready'
            exact h symbol hready' (((htops symbol).mp htop).resolve_left hsymbol)
      · have hbuilt : (observeMessage x nowMs m book o).builtOnSnapshot = o.builtOnSnapshot :=
          if_neg hsides
        refine iff_of_true ?_ ?_
        · intro symbol hready' htop
          change (handleMessage x nowMs m o.client).state.isBookSnapshotReady symbol = true
            at hready'
          change ((handleMessage x nowMs m o.client).state.orderbooks.get? symbol).isSome at htop
          rw [hclient, publish_of_not_sides x nowMs m _ hsides] at hready' htop
          rw [hbuilt]
          exact h symbol hready' htop
        · rintro ⟨-, ⟨book', hsome, hsides'⟩, -⟩
          obtain rfl := Option.some.inj (hbook.symm.trans hsome)
          exact hsides hsides'

end Observe

/-- A client that was just made, with an empty trading state. -/
def Observed.start (symbols : List String) : Observed where
  client := .start symbols .empty
  snapshotSeen := fun _ => false
  builtOnSnapshot := fun _ => false

theorem subscribed_start (symbols : List String) : Subscribed (.start symbols) where
  books := by
    intro symbol
    change (((normalizeSymbols symbols).foldl (fun books s => books.set s RawBook.empty)
      Dict.empty).get? symbol).isSome ↔ symbol ∈ normalizeSymbols symbols
    rw [Dict.get?_foldl_set]
    split_ifs with hmem
    · exact iff_of_true rfl hmem
    · exact iff_of_false (by simp) hmem
  published := fun _ h => absurd h Bool.false_ne_true

theorem honest_start (symbols : List String) : (Observed.start symbols).Honest :=
  fun _ h => absurd h Bool.false_ne_true

end WsPublic

open WsPublic

/-- Along a run of updates, reconnects and messages every published book of a ready symbol was built
on a snapshot that arrived since the symbol was last added, if and only if no delta publishes a book
under an old readiness before the new snapshot. -/
theorem readiness_honest_iff (x : Settings) (symbols : List String) (events : List StreamEvent) :
    (∀ t ∈ transitions (observe x) events (.start symbols), t.after.Honest) ↔
      ∀ t ∈ transitions (observe x) events (.start symbols), ¬ PublishesStale t.before t.input :=
  forall_after_iff (Q := Subscribed) (A := fun _ : StreamEvent => True)
    (P := fun o event => ¬ PublishesStale o event) (fun _ _ hsub _ => hsub.observe)
    (fun _ _ hsub _ h => honest_observe_iff hsub h) (subscribed_start symbols)
    (honest_start symbols) fun _ _ => trivial

/-- A symbol is dropped and added again, and a delta arrives before the new snapshot. -/
def staleEvents : List StreamEvent :=
  [.message 1 ⟨"BTCUSDT", true, [(100, 1)], [(101, 1)], none⟩, .updateSymbols ["ETHUSDT"],
    .updateSymbols ["BTCUSDT", "ETHUSDT"]]

theorem ready_on_stale_delta :
    ¬ ∀ (x : Settings) (symbols : List String) (events : List StreamEvent),
      ∀ t ∈ transitions (observe x) events (.start symbols), t.after.Honest := by
  intro h
  have hhonest := h ⟨50, 1 / 100⟩ ["BTCUSDT"] _ _ (mem_transitions staleEvents
    (.message 2 ⟨"BTCUSDT", false, [(90, 1)], [(120, 1)], none⟩) [] _) "BTCUSDT"
  revert hhonest
  decide +kernel

end Botik
