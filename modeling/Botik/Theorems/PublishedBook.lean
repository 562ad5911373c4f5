import Botik.Library.Runs
import Botik.Marketdata.WsPublic

/-!
# The published book and the stream

The raw book of a symbol is the fold of its messages since the last snapshot. What is published is
that fold whenever both of its sides have levels; a message that empties a side is applied but not
published, so the book from before it stays.

## Main definitions

* `WsPublic.lastSize`, `WsPublic.updatesSince` — the fold, from the messages alone
* `WsPublic.MatchesFold` — what is published of a symbol is its fold
* `WsPublic.KeepsSides` — a message leaves no side of a two-sided book empty

## Main results

* `WsPublic.Represents.applyTo` — one message, on the raw book
* `published_book_matches_iff` — every run of messages
-/

namespace Botik

open Market Runs

namespace WsPublic

/-! ### The fold of the messages -/

/-- The last size a list of updates gives to a price, if it is not zero. -/
def lastSize (updates : List Level) (price : ℚ) : Option ℚ :=
  ((updates.filter fun u => u.1 = price).getLast?.map Prod.snd).filter (· ≠ 0)

/-- The updates of one side of a symbol since its last snapshot, the snapshot included. -/
def updatesSince (side : BookMessage → List Level) (symbol : String)
    (history : List BookMessage) : List Level :=
  history.foldl (fun updates m =>
    if m.symbol = symbol then if m.isSnapshot then side m else updates ++ side m
    else updates) []

theorem lastSize_nil (price : ℚ) : lastSize [] price = none := rfl

theorem lastSize_concat (updates : List Level) (u : Level) (price : ℚ) :
    lastSize (updates ++ [u]) price =
      if price = u.1 then if u.2 = 0 then none else some u.2 else lastSize updates price := by
  unfold lastSize
  rw [List.filter_append]
  by_cases hprice : price = u.1
  · by_cases hzero : u.2 = 0
    · simp [hprice, hzero]
    · simp [hprice, hzero]
  · have hother : ¬ u.1 = price := fun h => hprice h.symm
    simp [hprice, hother]

theorem updatesSince_concat (side : BookMessage → List Level) (symbol : String)
    (history : List BookMessage) (m : BookMessage) :
    updatesSince side symbol (history ++ [m]) =
      if m.symbol = symbol then
        if m.isSnapshot then side m else updatesSince side symbol history ++ side m
      else updatesSince side symbol history := by
  unfold updatesSince
  rw [List.foldl_append]
  rfl

/-! ### Raw books -/

/-- The book has the last sizes of the updates. -/
def Represents (book : Dict ℚ ℚ) (updates : List Level) : Prop :=
  ∀ price, book.get? price = lastSize updates price

theorem represents_empty : Represents .empty [] := fun price => (Dict.get?_empty price)

theorem Represents.applyUpdate {book : Dict ℚ ℚ} {updates : List Level}
    (h : Represents book updates) (u : Level) :
    Represents (applyUpdate book u) (updates ++ [u]) := by
  intro price
  rw [lastSize_concat]
  unfold WsPublic.applyUpdate
  split_ifs with hzero hprice hprice
  · rw [hprice, Dict.get?_erase_self]
  · rw [Dict.get?_erase_of_ne hprice, h price]
  · rw [hprice, Dict.get?_set_self]
  · rw [Dict.get?_set_of_ne hprice, h price]

theorem Represents.applyDelta {book : Dict ℚ ℚ} {updates : List Level}
    (h : Represents book updates) (new : List Level) :
    Represents (applyDelta book new) (updates ++ new) := by
  induction new generalizing book updates with
  | nil =>
    rw [List.append_nil]
    exact h
  | cons u new ih =>
    have hrest := ih (h.applyUpdate u)
    rwa [List.append_assoc, List.singleton_append] at hrest

/-- Without zero sizes a snapshot is a delta of the empty book. -/
theorem ofLevels_eq_applyDelta {levels : List Level} (h : ∀ level ∈ levels, level.2 ≠ 0) :
    ofLevels levels = applyDelta .empty levels := by
  have hfold : ∀ (levels : List Level), (∀ level ∈ levels, level.2 ≠ 0) → ∀ book : Dict ℚ ℚ,
      levels.foldl (fun book level => book.set level.1 level.2) book =
        levels.foldl WsPublic.applyUpdate book := by
    intro levels
    induction levels with
    | nil => exact fun _ _ => rfl
    | cons level levels ih =>
      intro hlevels book
      obtain ⟨hlevel, hrest⟩ := List.forall_mem_cons.mp hlevels
      have hupdate : WsPublic.applyUpdate book level = book.set level.1 level.2 := if_neg hlevel
      rw [List.foldl_cons, List.foldl_cons, hupdate]
      exact ih hrest _
  exact hfold levels h _

theorem represents_ofLevels {levels : List Level} (h : ∀ level ∈ levels, level.2 ≠ 0) :
    Represents (ofLevels levels) levels := by
  rw [ofLevels_eq_applyDelta h]
  simpa using represents_empty.applyDelta levels

/-! ### Sorted levels -/

/-- A side as a list: every price with its last size, in strict order. -/
def IsListing (lt : ℚ → ℚ → Prop) (levels : List Level) (updates : List Level) : Prop :=
  (levels.map Prod.fst).Pairwise lt ∧
    ∀ price size, (price, size) ∈ levels ↔ lastSize updates price = some size

section Sorted

variable {book : Dict ℚ ℚ} {updates : List Level}

theorem isListing_sortedBids (h : Represents book updates) :
    IsListing (fun p q => q < p) (sortedBids book) updates := by
  constructor
  · unfold sortedBids
    rw [Dict.map_fst_listing]
    have hle := List.pairwise_insertionSort (fun p q : ℚ => q ≤ p)
      (book.keys.filter fun _ => true)
    have hne : (book.keyListing (fun p q : ℚ => q ≤ p) fun _ => true).Pairwise (· ≠ ·) :=
      Dict.nodup_keyListing _ _ book
    exact (hle.and hne).imp fun h => lt_of_le_of_ne h.1 h.2.symm
  · intro price size
    unfold sortedBids
    rw [Dict.mem_listing, h price]
    exact and_iff_left rfl

theorem isListing_sortedAsks (h : Represents book updates) :
    IsListing (fun p q => p < q) (sortedAsks book) updates := by
  constructor
  · unfold sortedAsks
    rw [Dict.map_fst_listing]
    have hle := List.pairwise_insertionSort (fun p q : ℚ => p ≤ q)
      (book.keys.filter fun _ => true)
    have hne : (book.keyListing (fun p q : ℚ => p ≤ q) fun _ => true).Pairwise (· ≠ ·) :=
      Dict.nodup_keyListing _ _ book
    exact (hle.and hne).imp fun h => lt_of_le_of_ne h.1 h.2
  · intro price size
    unfold sortedAsks
    rw [Dict.mem_listing, h price]
    exact and_iff_left rfl

/-- The side has a level. -/
def HasLevel (updates : List Level) : Prop := ∃ price size, lastSize updates price = some size

theorem IsListing.ne_nil_iff {lt : ℚ → ℚ → Prop} {levels : List Level}
    (h : IsListing lt levels updates) : levels ≠ [] ↔ HasLevel updates := by
  constructor
  · intro hne
    obtain ⟨level, levels', rfl⟩ := List.exists_cons_of_ne_nil hne
    exact ⟨level.1, level.2, (h.2 _ _).mp List.mem_cons_self⟩
  · rintro ⟨price, size, hsize⟩
    exact List.ne_nil_of_mem ((h.2 price size).mpr hsize)

/-- The first price of a side comes before all others. -/
theorem IsListing.head {lt : ℚ → ℚ → Prop} {level : Level} {levels : List Level}
    (h : IsListing lt (level :: levels) updates) :
    lastSize updates level.1 = some level.2 ∧
      ∀ price size, lastSize updates price = some size → price = level.1 ∨ lt level.1 price := by
  refine ⟨(h.2 _ _).mp List.mem_cons_self, fun price size hsize => ?_⟩
  rcases List.mem_cons.mp ((h.2 price size).mpr hsize) with heq | hmem
  · exact Or.inl (congrArg Prod.fst heq)
  · have hfirst := (List.pairwise_cons.mp h.1).1
    exact Or.inr (hfirst price (List.mem_map_of_mem hmem))

end Sorted

/-! ### What is published -/

/-- The best prices of the fold, with their sizes. -/
structure IsTop (agg : Market.OrderBookAggregate) (bids asks : List Level) : Prop where
  bid : lastSize bids agg.bestBid = some agg.bestBidSize
  bid_greatest : ∀ price size, lastSize bids price = some size → price ≤ agg.bestBid
  ask : lastSize asks agg.bestAsk = some agg.bestAskSize
  ask_least : ∀ price size, lastSize asks price = some size → agg.bestAsk ≤ price

/-- Both sides of the fold have levels. -/
def TwoSided (symbol : String) (history : List BookMessage) : Prop :=
  HasLevel (updatesSince BookMessage.bids symbol history) ∧
    HasLevel (updatesSince BookMessage.asks symbol history)

/-- What is published of a symbol is its fold, and it is published once both sides have levels. A
top of book implies that they have. -/
structure MatchesFold (symbol : String) (history : List BookMessage) (s : MarketState) : Prop where
  levels : ∀ bids asks, s.orderbookLevels.get? symbol = some (bids, asks) →
    IsListing (fun p q => q < p) bids (updatesSince BookMessage.bids symbol history) ∧
      IsListing (fun p q => p < q) asks (updatesSince BookMessage.asks symbol history)
  top : ∀ agg, s.orderbooks.get? symbol = some agg →
    IsTop agg (updatesSince BookMessage.bids symbol history)
      (updatesSince BookMessage.asks symbol history)
  published : TwoSided symbol history →
    (s.orderbookLevels.get? symbol).isSome ∧ (s.orderbooks.get? symbol).isSome

theorem MatchesFold.twoSided {symbol : String} {history : List BookMessage} {s : MarketState}
    (h : MatchesFold symbol history s) (hpublished : (s.orderbooks.get? symbol).isSome) :
    TwoSided symbol history := by
  obtain ⟨agg, hagg⟩ := Option.isSome_iff_exists.mp hpublished
  have htop := h.top agg hagg
  exact ⟨⟨_, _, htop.bid⟩, ⟨_, _, htop.ask⟩⟩

/-- The aggregate of two sorted sides. -/
theorem isTop_aggregateFromBook {symbol : String} {bids asks ubids uasks : List Level}
    {tickSize : ℚ} {topN : ℕ} {tsMs : ℤ} {agg : Market.OrderBookAggregate}
    (hbids : IsListing (fun p q => q < p) bids ubids)
    (hasks : IsListing (fun p q => p < q) asks uasks)
    (hagg : aggregateFromBook symbol bids asks tickSize topN tsMs = some agg) :
    IsTop agg ubids uasks := by
  match bids, asks, hbids, hasks, hagg with
  | bid :: bids, ask :: asks, hbids, hasks, hagg =>
    obtain rfl := Option.some.inj hagg
    obtain ⟨hbid, hgreatest⟩ := hbids.head
    obtain ⟨hask, hleast⟩ := hasks.head
    refine ⟨hbid, fun price size hsize => ?_, hask, fun price size hsize => ?_⟩
    · rcases hgreatest price size hsize with rfl | hlt
      · exact le_rfl
      · exact hlt.le
    · rcases hleast price size hsize with rfl | hlt
      · exact le_rfl
      · exact hlt.le

/-! ### One message -/

/-- The client with the messages it got. -/
structure Feed where
  client : Client
  history : List BookMessage

/-- A message arrives, at a time. -/
def receive (x : Settings) (input : ℤ × BookMessage) (f : Feed) : Feed where
  client := handleMessage x input.1 input.2 f.client
  history := f.history ++ [input.2]

/-- A snapshot lists no zero sizes. -/
def BookMessage.HasSizes (m : BookMessage) : Prop :=
  m.isSnapshot = true → (∀ level ∈ m.bids, level.2 ≠ 0) ∧ ∀ level ∈ m.asks, level.2 ≠ 0

instance (m : BookMessage) : Decidable m.HasSizes := inferInstanceAs (Decidable (_ → _))

/-- The raw books of the subscribed symbols are their folds, and the levels of a symbol are
published with its top of book. -/
structure Tracks (symbols : List String) (f : Feed) : Prop where
  books : ∀ symbol ∈ symbols, ∃ book, f.client.books.get? symbol = some book ∧
    Represents book.bids (updatesSince BookMessage.bids symbol f.history) ∧
    Represents book.asks (updatesSince BookMessage.asks symbol f.history)
  others : ∀ symbol, symbol ∉ symbols → f.client.books.get? symbol = none
  together : ∀ symbol, (f.client.state.orderbookLevels.get? symbol).isSome ↔
    (f.client.state.orderbooks.get? symbol).isSome

/-- The message leaves no side of a two-sided book of a subscribed symbol empty. -/
def KeepsSides (symbols : List String) (f : Feed) (m : BookMessage) : Prop :=
  m.symbol ∈ symbols → TwoSided m.symbol f.history → TwoSided m.symbol (f.history ++ [m])

section Receive

variable {x : Settings} {symbols : List String} {f : Feed} {nowMs : ℤ} {m : BookMessage}
  {book : RawBook} {symbol : String} {history : List BookMessage} {s : MarketState}

/-- A message on a raw book is the same message on the fold. -/
theorem Represents.applyTo (hm : m.HasSizes)
    (hbids : Represents book.bids (updatesSince BookMessage.bids m.symbol history))
    (hasks : Represents book.asks (updatesSince BookMessage.asks m.symbol history)) :
    Represents (m.applyTo book).bids (updatesSince BookMessage.bids m.symbol (history ++ [m])) ∧
      Represents (m.applyTo book).asks
        (updatesSince BookMessage.asks m.symbol (history ++ [m])) := by
  rw [updatesSince_concat, updatesSince_concat, if_pos rfl, if_pos rfl]
  unfold BookMessage.applyTo
  by_cases hsnapshot : m.isSnapshot = true
  · rw [if_pos hsnapshot, if_pos hsnapshot, if_pos hsnapshot]
    exact ⟨represents_ofLevels (hm hsnapshot).1, represents_ofLevels (hm hsnapshot).2⟩
  · rw [if_neg hsnapshot, if_neg hsnapshot, if_neg hsnapshot]
    exact ⟨hbids.applyDelta m.bids, hasks.applyDelta m.asks⟩

theorem updatesSince_concat_of_ne (side : BookMessage → List Level) (hne : symbol ≠ m.symbol) :
    updatesSince side symbol (history ++ [m]) = updatesSince side symbol history := by
  rw [updatesSince_concat, if_neg fun h => hne h.symm]

/-- Publishing a raw book writes nothing of other symbols. -/
theorem publish_of_ne (hne : symbol ≠ m.symbol) :
    (publish x nowMs m book s).orderbooks.get? symbol = s.orderbooks.get? symbol ∧
      (publish x nowMs m book s).orderbookLevels.get? symbol =
        s.orderbookLevels.get? symbol := by
  rcases publish_cases x nowMs m book s with ⟨-, agg, tickSize, -, heq⟩ | ⟨-, heq⟩
  · rw [heq]
    constructor
    · exact MarketState.orderbooks_setOrderbook.trans (if_neg hne)
    · exact MarketState.orderbookLevels_setOrderbook.trans (if_neg hne)
  · rw [heq]
    exact ⟨rfl, rfl⟩

variable (x nowMs s) in
/-- A raw book with levels on both sides is published. -/
theorem publish_of_twoSided {ubids uasks : List Level} (hbids : Represents book.bids ubids)
    (hasks : Represents book.asks uasks) (htwo : HasLevel ubids ∧ HasLevel uasks) :
    ∃ agg, IsTop agg ubids uasks ∧
      (publish x nowMs m book s).orderbooks.get? m.symbol = some agg ∧
      (publish x nowMs m book s).orderbookLevels.get? m.symbol =
        some (sortedBids book.bids, sortedAsks book.asks) := by
  rcases publish_cases x nowMs m book s with ⟨-, agg, tickSize, hagg, heq⟩ | ⟨hempty, -⟩
  · refine ⟨agg, isTop_aggregateFromBook (isListing_sortedBids hbids) (isListing_sortedAsks hasks)
      hagg, ?_⟩
    rw [heq]
    constructor
    · exact MarketState.orderbooks_setOrderbook.trans (if_pos rfl)
    · exact MarketState.orderbookLevels_setOrderbook.trans (if_pos rfl)
  · exact absurd ⟨(isListing_sortedBids hbids).ne_nil_iff.mpr htwo.1,
      (isListing_sortedAsks hasks).ne_nil_iff.mpr htwo.2⟩ hempty

/-- A raw book with an empty side is not. -/
theorem publish_of_not_twoSided {ubids uasks : List Level} (hbids : Represents book.bids ubids)
    (hasks : Represents book.asks uasks) (htwo : ¬ (HasLevel ubids ∧ HasLevel uasks)) :
    publish x nowMs m book s = s := by
  rcases publish_cases x nowMs m book s with ⟨hsides, -⟩ | ⟨-, heq⟩
  · exact absurd ⟨(isListing_sortedBids hbids).ne_nil_iff.mp hsides.1,
      (isListing_sortedAsks hasks).ne_nil_iff.mp hsides.2⟩ htwo
  · exact heq

variable (x nowMs m) in
theorem handleMessage_of_get? {c : Client} (hbook : c.books.get? m.symbol = some book) :
    handleMessage x nowMs m c = { c with
      books := c.books.set m.symbol (m.applyTo book)
      state := publish x nowMs m (m.applyTo book) c.state } := by
  unfold handleMessage
  rw [hbook]

variable (x nowMs m) in
/-- Messages of other symbols are dropped. -/
theorem handleMessage_of_unknown {c : Client} (hnone : c.books.get? m.symbol = none) :
    handleMessage x nowMs m c = c := by
  unfold handleMessage
  rw [hnone]

/-- The levels of the symbol are published with its top of book. -/
theorem together_publish
    (h : ∀ symbol, (s.orderbookLevels.get? symbol).isSome ↔ (s.orderbooks.get? symbol).isSome) :
    ((publish x nowMs m book s).orderbookLevels.get? symbol).isSome ↔
      ((publish x nowMs m book s).orderbooks.get? symbol).isSome := by
  rcases publish_cases x nowMs m book s with ⟨-, agg, tickSize, -, heq⟩ | ⟨-, heq⟩
  · rw [heq, MarketState.orderbooks_setOrderbook, MarketState.orderbookLevels_setOrderbook]
    split_ifs
    · exact iff_of_true rfl rfl
    · exact h symbol
  · rw [heq]
    exact h symbol

theorem Tracks.receive (h : Tracks symbols f) (hm : m.HasSizes) :
    Tracks symbols (receive x (nowMs, m) f) := by
  by_cases hsymbol : m.symbol ∈ symbols
  · obtain ⟨book, hbook, hbids, hasks⟩ := h.books m.symbol hsymbol
    have hclient := handleMessage_of_get? x nowMs m hbook
    unfold WsPublic.receive
    rw [hclient]
    constructor
    · intro symbol hmem
      by_cases hsame : symbol = m.symbol
      · subst hsame
        exact ⟨m.applyTo book, Dict.get?_set_self _ _ _, Represents.applyTo hm hbids hasks⟩
      · obtain ⟨book', hbook', hbids', hasks'⟩ := h.books symbol hmem
        refine ⟨book', (Dict.get?_set_of_ne hsame _ _).trans hbook', ?_⟩
        rw [updatesSince_concat_of_ne _ hsame, updatesSince_concat_of_ne _ hsame]
        exact ⟨hbids', hasks'⟩
    · intro symbol hnot
      have hne : symbol ≠ m.symbol := fun heq => hnot (heq ▸ hsymbol)
      exact (Dict.get?_set_of_ne hne _ _).trans (h.others symbol hnot)
    · exact fun symbol => together_publish h.together
  · have hclient := handleMessage_of_unknown x nowMs m (h.others m.symbol hsymbol)
    unfold WsPublic.receive
    rw [hclient]
    refine ⟨fun symbol hmem => ?_, h.others, h.together⟩
    have hne : symbol ≠ m.symbol := fun heq => hsymbol (heq ▸ hmem)
    rw [updatesSince_concat_of_ne _ hne, updatesSince_concat_of_ne _ hne]
    exact h.books symbol hmem

/-- A message of another symbol leaves what is published of a symbol and its fold. -/
theorem matchesFold_receive_of_ne (hne : symbol ≠ m.symbol) :
    MatchesFold symbol (f.history ++ [m]) (handleMessage x nowMs m f.client).state ↔
      MatchesFold symbol f.history f.client.state := by
  have hstate : (handleMessage x nowMs m f.client).state.orderbooks.get? symbol =
        f.client.state.orderbooks.get? symbol ∧
      (handleMessage x nowMs m f.client).state.orderbookLevels.get? symbol =
        f.client.state.orderbookLevels.get? symbol := by
    unfold handleMessage
    cases f.client.books.get? m.symbol with
    | none => exact ⟨rfl, rfl⟩
    | some book => exact publish_of_ne hne
  have htwo : TwoSided symbol (f.history ++ [m]) ↔ TwoSided symbol f.history := by
    unfold TwoSided
    rw [updatesSince_concat_of_ne _ hne, updatesSince_concat_of_ne _ hne]
  constructor
  · rintro ⟨hlevels, htop, hpublished⟩
    rw [hstate.2, updatesSince_concat_of_ne _ hne, updatesSince_concat_of_ne _ hne] at hlevels
    rw [hstate.1, updatesSince_concat_of_ne _ hne, updatesSince_concat_of_ne _ hne] at htop
    rw [htwo, hstate.1, hstate.2] at hpublished
    exact ⟨hlevels, htop, hpublished⟩
  · rintro ⟨hlevels, htop, hpublished⟩
    constructor
    · rw [hstate.2, updatesSince_concat_of_ne _ hne, updatesSince_concat_of_ne _ hne]
      exact hlevels
    · rw [hstate.1, updatesSince_concat_of_ne _ hne, updatesSince_concat_of_ne _ hne]
      exact htop
    · rw [htwo, hstate.1, hstate.2]
      exact hpublished

/-- A message keeps what is published true to the folds if and only if it leaves no side of a
two-sided book empty. -/
theorem matchesFold_receive_iff (htracks : Tracks symbols f) (hm : m.HasSizes)
    (hmatch : ∀ symbol ∈ symbols, MatchesFold symbol f.history f.client.state) :
    (∀ symbol ∈ symbols, MatchesFold symbol (WsPublic.receive x (nowMs, m) f).history
        (WsPublic.receive x (nowMs, m) f).client.state) ↔ KeepsSides symbols f m := by
  change (∀ symbol ∈ symbols, MatchesFold symbol (f.history ++ [m])
    (handleMessage x nowMs m f.client).state) ↔ _
  by_cases hsymbol : m.symbol ∈ symbols
  swap
  · refine iff_of_true (fun symbol hmem => ?_) fun h => absurd h hsymbol
    have hne : symbol ≠ m.symbol := fun heq => hsymbol (heq ▸ hmem)
    exact (matchesFold_receive_of_ne hne).mpr (hmatch symbol hmem)
  obtain ⟨book, hbook, hbids, hasks⟩ := htracks.books m.symbol hsymbol
  obtain ⟨hbids', hasks'⟩ := Represents.applyTo hm hbids hasks
  -- only what is published of the symbol of the message is in question
  have honly : (∀ symbol ∈ symbols, MatchesFold symbol (f.history ++ [m])
      (handleMessage x nowMs m f.client).state) ↔
        MatchesFold m.symbol (f.history ++ [m]) (handleMessage x nowMs m f.client).state := by
    refine ⟨fun h => h m.symbol hsymbol, fun h symbol hmem => ?_⟩
    by_cases hsame : symbol = m.symbol
    · rw [hsame]
      exact h
    · exact (matchesFold_receive_of_ne hsame).mpr (hmatch symbol hmem)
  rw [honly, handleMessage_of_get? x nowMs m hbook]
  by_cases htwo : TwoSided m.symbol (f.history ++ [m])
  · obtain ⟨agg, htop, hagg, hlevels⟩ := publish_of_twoSided x nowMs f.client.state
      hbids' hasks' htwo
    refine iff_of_true ⟨?_, ?_, fun _ => ?_⟩ fun _ _ => htwo
    · intro bids asks heq
      have hpair := Option.some.inj (hlevels.symm.trans heq)
      obtain ⟨rfl, rfl⟩ := Prod.mk.inj hpair
      exact ⟨isListing_sortedBids hbids', isListing_sortedAsks hasks'⟩
    · intro agg' heq
      obtain rfl := Option.some.inj (hagg.symm.trans heq)
      exact htop
    · exact ⟨by rw [hlevels]; rfl, by rw [hagg]; rfl⟩
  · rw [publish_of_not_twoSided hbids' hasks' htwo]
    by_cases hbefore : TwoSided m.symbol f.history
    · -- the top of book from before is still published
      refine iff_of_false (fun h => htwo (h.twoSided ?_)) fun h => htwo (h hsymbol hbefore)
      exact ((hmatch m.symbol hsymbol).published hbefore).2
    · have hnone : ¬ (f.client.state.orderbooks.get? m.symbol).isSome := fun h =>
        hbefore ((hmatch m.symbol hsymbol).twoSided h)
      refine iff_of_true ⟨?_, ?_, fun h => absurd h htwo⟩ fun _ h => absurd h hbefore
      · intro bids asks heq
        have hsome : (f.client.state.orderbookLevels.get? m.symbol).isSome := by rw [heq]; rfl
        exact absurd ((htracks.together m.symbol).mp hsome) hnone
      · intro agg heq
        exact absurd (by rw [heq]; rfl) hnone

end Receive

/-! ### Runs -/

/-- A client that was just made, with an empty trading state. -/
def Feed.start (symbols : List String) : Feed := ⟨.start symbols .empty, []⟩

theorem not_twoSided_nil (symbol : String) : ¬ TwoSided symbol [] :=
  fun ⟨⟨_, _, hsize⟩, _⟩ => (Option.some_ne_none _).symm hsize

theorem tracks_start (symbols : List String) :
    Tracks (normalizeSymbols symbols) (Feed.start symbols) := by
  have hbooks : ∀ symbol, (Feed.start symbols).client.books.get? symbol =
      if symbol ∈ normalizeSymbols symbols then some .empty else none := by
    intro symbol
    exact (Dict.get?_foldl_set _ _ _ _).trans (by rw [Dict.get?_empty])
  constructor
  · intro symbol hmem
    refine ⟨.empty, ?_, represents_empty, represents_empty⟩
    rw [hbooks, if_pos hmem]
  · intro symbol hnot
    rw [hbooks, if_neg hnot]
  · exact fun symbol => Iff.rfl

theorem matchesFold_start (symbols : List String) (symbol : String) :
    MatchesFold symbol (Feed.start symbols).history (Feed.start symbols).client.state where
  levels := fun _ _ h => absurd h (Option.some_ne_none _).symm
  top := fun _ h => absurd h (Option.some_ne_none _).symm
  published := fun h => absurd h (not_twoSided_nil symbol)

end WsPublic

open WsPublic

/-- Along a run of messages the published levels and top of book of every subscribed symbol are the
fold of its messages after every message, if and only if no message leaves a side of a two-sided
book empty. -/
theorem published_book_matches_iff (x : Settings) (symbols : List String)
    (messages : List (ℤ × BookMessage)) (hmessages : ∀ input ∈ messages, input.2.HasSizes) :
    (∀ t ∈ transitions (receive x) messages (Feed.start symbols),
        ∀ symbol ∈ normalizeSymbols symbols,
          MatchesFold symbol t.after.history t.after.client.state) ↔
      ∀ t ∈ transitions (receive x) messages (Feed.start symbols),
        KeepsSides (normalizeSymbols symbols) t.before t.input.2 :=
  forall_after_iff (Q := Tracks (normalizeSymbols symbols)) (A := fun input : ℤ × BookMessage => input.2.HasSizes)
    (P := fun f (input : ℤ × BookMessage) => KeepsSides (normalizeSymbols symbols) f input.2)
    (fun _ _ htracks hm => htracks.receive hm)
    (fun _ _ htracks hm hmatch => matchesFold_receive_iff htracks hm hmatch)
    (tracks_start symbols) (fun symbol _ => matchesFold_start symbols symbol) hmessages

/-- A book of one bid and one ask. -/
def firstBook : BookMessage := ⟨"BTCUSDT", true, [(100, 1)], [(101, 1)], none⟩

/-- Another bid is added. -/
def addedBid : BookMessage := ⟨"BTCUSDT", false, [(99, 2)], [], none⟩

/-- The only ask is taken away. -/
def removedAsk : BookMessage := ⟨"BTCUSDT", false, [], [(101, 0)], none⟩

theorem book_with_added_bid_matches :
    MatchesFold "BTCUSDT" [firstBook, addedBid]
      (run (receive ⟨50, 1 / 100⟩) [(1, firstBook), (2, addedBid)]
        (Feed.start ["BTCUSDT"])).client.state := by
  have hkeeps : ∀ t ∈ transitions (receive ⟨50, 1 / 100⟩) [(1, firstBook), (2, addedBid)]
      (Feed.start ["BTCUSDT"]), KeepsSides (normalizeSymbols ["BTCUSDT"]) t.before t.input.2 := by
    intro t ht
    rcases List.mem_cons.mp ht with rfl | ht
    · exact fun _ hbefore => absurd hbefore (not_twoSided_nil _)
    · obtain rfl := List.mem_singleton.mp ht
      exact fun _ _ => ⟨⟨100, 1, by decide +kernel⟩, ⟨101, 1, by decide +kernel⟩⟩
  have hmatches := (published_book_matches_iff ⟨50, 1 / 100⟩ ["BTCUSDT"]
    [(1, firstBook), (2, addedBid)] (by decide +kernel)).mpr hkeeps
  exact hmatches _ (mem_transitions [(1, firstBook)] (2, addedBid) [] _) "BTCUSDT"
    (by decide +kernel)

/-- The last ask is removed, and the top of book with it is published still. -/
theorem removed_ask_still_published :
    ¬ ∀ (x : Settings) (symbols : List String) (messages : List (ℤ × BookMessage)),
      (∀ input ∈ messages, input.2.HasSizes) →
        ∀ t ∈ transitions (receive x) messages (Feed.start symbols),
          ∀ symbol ∈ normalizeSymbols symbols,
            MatchesFold symbol t.after.history t.after.client.state := by
  intro h
  have hmatch := h ⟨50, 1 / 100⟩ ["BTCUSDT"] [(1, firstBook), (2, removedAsk)]
    (by decide +kernel) _ (mem_transitions [(1, firstBook)] (2, removedAsk) [] _) "BTCUSDT"
    (by decide +kernel)
  obtain ⟨-, price, size, hsize⟩ := hmatch.twoSided (by decide +kernel)
  -- the fold has no asks left
  have hupdates : updatesSince BookMessage.asks "BTCUSDT" [firstBook, removedAsk] =
      ([] ++ [(101, 1)]) ++ [(101, 0)] := by decide +kernel
  have hnone : lastSize (updatesSince BookMessage.asks "BTCUSDT" [firstBook, removedAsk]) price =
      none := by
    rw [hupdates, lastSize_concat, lastSize_concat, lastSize_nil]
    by_cases hprice : price = 101
    · simp [hprice]
    · simp [hprice]
  exact Option.some_ne_none _ (hsize.symm.trans hnone)

end Botik
