import Botik.Main.TickGrid
import Botik.Theorems.QuoteLadder

/-!
# What repricing makes of the quotes of a symbol

Before an intent is sent its price is taken anew from the top of the book, each intent on its own:
a target inside the spread is rounded to the tick. What the quotes of a symbol keep is decided by
where their targets lie on the grid, each price of which attracts the targets up to the middles to
its neighbours. Quotes of one side and one offset have one target, so a ladder becomes one price;
an offset of zero is replaced by the configured one.

## Main definitions

* `KeepsStructure` — the quotes sent rest on their sides, apart from each other, and at the touch
  where that was asked for
* `SafeTargets`, `SafePrices` — when that holds, with and without repricing

## Main results

* `keepsStructure_iff`
* `burst_collapses` — the slices of a burst are sent at one price
-/

namespace Botik

/-! ### Targets -/

variable {c : Config} {env : IntentEnv} {book : OrderBookAggregate} {intents : List OrderIntent}

/-- What the price of an intent is rounded from. -/
def repriceTarget (c : Config) (env : IntentEnv) (book : OrderBookAggregate)
    (intent : OrderIntent) : ℚ :=
  targetPrice book (entryTick c env intent) (Text.upper intent.side = "BUY") (isMakerOnly c intent)

/-- A target above half a tick is not rounded to zero. -/
def Survives (c : Config) (env : IntentEnv) (book : OrderBookAggregate) (intent : OrderIntent) :
    Prop :=
  tickSizeOr c env.tickSize / 2 < repriceTarget c env book intent

/-- A usable book that is young enough. -/
structure FreshBook (c : Config) (env : IntentEnv) (book : OrderBookAggregate) : Prop where
  book_eq : env.book = some book
  usable : book.isUsable = true
  fresh : ∃ updateMs, env.bookUpdateMs = some updateMs ∧
    env.wallMs - updateMs ≤ c.quoteMaxBookAgeMs

/-- The intent goes out at the rounded target, or not at all. -/
theorem prepareIntentForSend_eq_some_iff (hfresh : FreshBook c env book)
    (hfast : c.fastRepriceOnSend = true) {intent sent : OrderIntent} :
    prepareIntentForSend c env intent (isMakerOnly c intent) = some sent ↔
      Survives c env book intent ∧
        sent = { intent with
          price := snap (tickSizeOr c env.tickSize) (repriceTarget c env book intent) } := by
  obtain ⟨updateMs, hupdate, hage⟩ := hfresh.fresh
  have hfilter : env.book.filter OrderBookAggregate.isUsable = some book := by
    rw [hfresh.book_eq, Option.filter_some, if_pos hfresh.usable]
  unfold prepareIntentForSend
  rw [if_neg (by simp [hfast]), hfilter, hupdate]
  change (if c.quoteMaxBookAgeMs < env.wallMs - updateMs then none else _) = _ ↔ _
  rw [if_neg (not_lt.mpr hage)]
  change (if snap (tickSizeOr c env.tickSize) (repriceTarget c env book intent) ≤ 0 then none
    else some _) = _ ↔ _
  unfold Survives
  rw [← snap_pos_iff (tickSizeOr_pos c env.tickSize)]
  split_ifs with hpos
  · simp [not_lt.mpr hpos]
  · simp only [not_le.mp hpos, true_and, Option.some.injEq]
    exact eq_comm

/-! ### The targets of one book -/

/-- The distance of an entry whose intent asks for none: the configured one. -/
theorem entryTick_of_zero {intent : OrderIntent} (h : intent.actionEntryTickOffset = some 0) :
    entryTick c env intent = tickSizeOr c env.tickSize * max c.entryTickOffset 0 := by
  unfold entryTick
  rw [h]
  norm_cast

/-- How many ticks an intent without an offset of its own is moved into the spread. -/
def ticksMoved (c : Config) (env : IntentEnv) (book : OrderBookAggregate) : ℤ :=
  if book.bestAsk ≤ book.bestBid + tickSizeOr c env.tickSize * max c.entryTickOffset 0 then 0
  else max c.entryTickOffset 0

/-- The spread has no room for the configured offset, or there is none. -/
def StaysAtTouch (c : Config) (env : IntentEnv) (book : OrderBookAggregate) : Prop :=
  c.entryTickOffset ≤ 0 ∨
    book.bestAsk - book.bestBid ≤ tickSizeOr c env.tickSize * c.entryTickOffset

theorem ticksMoved_eq_zero_iff : ticksMoved c env book = 0 ↔ StaysAtTouch c env book := by
  unfold ticksMoved StaysAtTouch
  rcases le_or_gt c.entryTickOffset 0 with hneg | hpos
  · simp [hneg]
  · rw [max_eq_left hpos.le]
    simp only [not_le.mpr hpos, false_or, sub_le_iff_le_add']
    split_ifs with hroom
    · simp [hroom]
    · simp [hroom, hpos.ne']

section Sides

variable {intent : OrderIntent}

theorem repriceTarget_buy (hbuy : intent.side = "Buy") (hmaker : isMakerOnly c intent = true) :
    repriceTarget c env book intent =
      if book.bestAsk ≤ book.bestBid + entryTick c env intent then book.bestBid
      else book.bestBid + entryTick c env intent := by
  have hupper : decide (Text.upper intent.side = "BUY") = true := by
    rw [hbuy]
    decide +kernel
  unfold repriceTarget
  rw [hupper, hmaker]
  rfl

theorem repriceTarget_sale (hsale : intent.side = "Sell") (hmaker : isMakerOnly c intent = true) :
    repriceTarget c env book intent =
      if book.bestAsk - entryTick c env intent ≤ book.bestBid then book.bestAsk
      else book.bestAsk - entryTick c env intent := by
  have hupper : decide (Text.upper intent.side = "BUY") = false := by
    rw [hsale]
    decide +kernel
  unfold repriceTarget
  rw [hupper, hmaker]
  rfl

/-- A buy of no offset is quoted at the best bid exactly when that is on the grid and not moved. -/
theorem snap_buy_eq_iff (hbuy : intent.side = "Buy") (hmaker : isMakerOnly c intent = true)
    (hzero : intent.actionEntryTickOffset = some 0) :
    snap (tickSizeOr c env.tickSize) (repriceTarget c env book intent) = book.bestBid ↔
      OnGrid (tickSizeOr c env.tickSize) book.bestBid ∧ StaysAtTouch c env book := by
  have htarget : repriceTarget c env book intent =
      book.bestBid + ticksMoved c env book * tickSizeOr c env.tickSize := by
    rw [repriceTarget_buy hbuy hmaker, entryTick_of_zero hzero]
    unfold ticksMoved
    split_ifs
    · simp
    · push_cast
      ring
  rw [htarget, snap_add_ticks_eq_iff (tickSizeOr_pos c env.tickSize), ticksMoved_eq_zero_iff]

theorem snap_sale_eq_iff (hsale : intent.side = "Sell") (hmaker : isMakerOnly c intent = true)
    (hzero : intent.actionEntryTickOffset = some 0) :
    snap (tickSizeOr c env.tickSize) (repriceTarget c env book intent) = book.bestAsk ↔
      OnGrid (tickSizeOr c env.tickSize) book.bestAsk ∧ StaysAtTouch c env book := by
  have htarget : repriceTarget c env book intent =
      book.bestAsk + (-ticksMoved c env book : ℤ) * tickSizeOr c env.tickSize := by
    rw [repriceTarget_sale hsale hmaker, entryTick_of_zero hzero]
    unfold ticksMoved
    simp only [sub_le_iff_le_add]
    split_ifs
    · simp
    · push_cast
      ring
  rw [htarget, snap_add_ticks_eq_iff (tickSizeOr_pos c env.tickSize), neg_eq_zero,
    ticksMoved_eq_zero_iff]

end Sides

/-! ### The quotes of an iteration -/

/-- The intents that are sent, each beside what it is sent as. -/
def sentIntents (c : Config) (env : IntentEnv) (intents : List OrderIntent) :
    List (OrderIntent × OrderIntent) :=
  intents.filterMap fun intent =>
    (prepareIntentForSend c env intent (isMakerOnly c intent)).map (intent, ·)

/-- Quotes rest on their sides of the book and apart from each other, and at the touch where that
was asked for. -/
structure KeepsStructure (book : OrderBookAggregate) (sent : List (OrderIntent × OrderIntent)) :
    Prop where
  buy : ∀ p ∈ sent, p.1.side = "Buy" → p.2.price < book.bestAsk
  sale : ∀ p ∈ sent, p.1.side = "Sell" → book.bestBid < p.2.price
  buy_lt_sale : ∀ p ∈ sent, p.1.side = "Buy" → ∀ q ∈ sent, q.1.side = "Sell" →
    p.2.price < q.2.price
  apart : ∀ p ∈ sent, ∀ q ∈ sent, p.1.side = q.1.side → p.1.price ≠ q.1.price →
    p.2.price ≠ q.2.price
  touch_buy : ∀ p ∈ sent, p.1.side = "Buy" → p.1.actionEntryTickOffset = some 0 →
    p.2.price = book.bestBid
  touch_sale : ∀ p ∈ sent, p.1.side = "Sell" → p.1.actionEntryTickOffset = some 0 →
    p.2.price = book.bestAsk

theorem keepsStructure_def {sent : List (OrderIntent × OrderIntent)} :
    KeepsStructure book sent ↔
      (∀ p ∈ sent, p.1.side = "Buy" → p.2.price < book.bestAsk) ∧
      (∀ p ∈ sent, p.1.side = "Sell" → book.bestBid < p.2.price) ∧
      (∀ p ∈ sent, p.1.side = "Buy" → ∀ q ∈ sent, q.1.side = "Sell" → p.2.price < q.2.price) ∧
      (∀ p ∈ sent, ∀ q ∈ sent, p.1.side = q.1.side → p.1.price ≠ q.1.price →
        p.2.price ≠ q.2.price) ∧
      (∀ p ∈ sent, p.1.side = "Buy" → p.1.actionEntryTickOffset = some 0 →
        p.2.price = book.bestBid) ∧
      ∀ p ∈ sent, p.1.side = "Sell" → p.1.actionEntryTickOffset = some 0 →
        p.2.price = book.bestAsk :=
  ⟨fun h => ⟨h.buy, h.sale, h.buy_lt_sale, h.apart, h.touch_buy, h.touch_sale⟩,
    fun h => ⟨h.1, h.2.1, h.2.2.1, h.2.2.2.1, h.2.2.2.2.1, h.2.2.2.2.2⟩⟩

instance (book : OrderBookAggregate) (sent : List (OrderIntent × OrderIntent)) :
    Decidable (KeepsStructure book sent) := decidable_of_iff' _ keepsStructure_def

/-- Targets that are rounded to such quotes: where they lie among the middles of the grid. -/
structure SafeTargets (c : Config) (env : IntentEnv) (book : OrderBookAggregate)
    (intents : List OrderIntent) : Prop where
  /-- The target of a buy is nearer to the grid below the best ask. -/
  buy : ∀ i ∈ intents, Survives c env book i → i.side = "Buy" →
    InLowerHalf (tickSizeOr c env.tickSize) (⌈book.bestAsk / tickSizeOr c env.tickSize⌉ - 1)
      (repriceTarget c env book i)
  /-- The target of a sale is nearer to the grid above the best bid. -/
  sale : ∀ i ∈ intents, Survives c env book i → i.side = "Sell" →
    ¬ InLowerHalf (tickSizeOr c env.tickSize) ⌊book.bestBid / tickSizeOr c env.tickSize⌋
      (repriceTarget c env book i)
  /-- A middle of the grid lies between the targets of a buy and a sale. -/
  buy_lt_sale : ∀ i ∈ intents, Survives c env book i → i.side = "Buy" →
    ∀ j ∈ intents, Survives c env book j → j.side = "Sell" →
      ∃ n, InLowerHalf (tickSizeOr c env.tickSize) n (repriceTarget c env book i) ∧
        ¬ InLowerHalf (tickSizeOr c env.tickSize) n (repriceTarget c env book j)
  /-- A middle of the grid lies between the targets of two prices of one side. -/
  apart : ∀ i ∈ intents, Survives c env book i → ∀ j ∈ intents, Survives c env book j →
    i.side = j.side → i.price ≠ j.price →
      ∃ n, ¬ (InLowerHalf (tickSizeOr c env.tickSize) n (repriceTarget c env book i) ↔
        InLowerHalf (tickSizeOr c env.tickSize) n (repriceTarget c env book j))
  touch_buy : ∀ i ∈ intents, Survives c env book i → i.side = "Buy" →
    i.actionEntryTickOffset = some 0 →
      OnGrid (tickSizeOr c env.tickSize) book.bestBid ∧ StaysAtTouch c env book
  touch_sale : ∀ i ∈ intents, Survives c env book i → i.side = "Sell" →
    i.actionEntryTickOffset = some 0 →
      OnGrid (tickSizeOr c env.tickSize) book.bestAsk ∧ StaysAtTouch c env book

/-- Prices that are such quotes already. -/
structure SafePrices (book : OrderBookAggregate) (intents : List OrderIntent) : Prop where
  buy : ∀ i ∈ intents, i.side = "Buy" → i.price < book.bestAsk
  sale : ∀ i ∈ intents, i.side = "Sell" → book.bestBid < i.price
  buy_lt_sale : ∀ i ∈ intents, i.side = "Buy" → ∀ j ∈ intents, j.side = "Sell" →
    i.price < j.price
  touch_buy : ∀ i ∈ intents, i.side = "Buy" → i.actionEntryTickOffset = some 0 →
    i.price = book.bestBid
  touch_sale : ∀ i ∈ intents, i.side = "Sell" → i.actionEntryTickOffset = some 0 →
    i.price = book.bestAsk

theorem mem_sentIntents {p : OrderIntent × OrderIntent} :
    p ∈ sentIntents c env intents ↔
      p.1 ∈ intents ∧ prepareIntentForSend c env p.1 (isMakerOnly c p.1) = some p.2 := by
  simp only [sentIntents, List.mem_filterMap, Option.map_eq_some_iff]
  constructor
  · rintro ⟨i, hi, sent, hsent, rfl⟩
    exact ⟨hi, hsent⟩
  · rintro ⟨hi, hsent⟩
    exact ⟨p.1, hi, p.2, hsent, rfl⟩

/-- With repricing, what is sent is decided by the targets. -/
theorem keepsStructure_iff_targets (hfresh : FreshBook c env book)
    (hmaker : ∀ i ∈ intents, isMakerOnly c i = true) (hfast : c.fastRepriceOnSend = true) :
    KeepsStructure book (sentIntents c env intents) ↔ SafeTargets c env book intents := by
  have htick := tickSizeOr_pos c env.tickSize
  -- the pairs that are sent are those of the surviving intents, repriced
  have hsent : ∀ {i}, i ∈ intents → Survives c env book i →
      (i, { i with price := snap (tickSizeOr c env.tickSize) (repriceTarget c env book i) }) ∈
        sentIntents c env intents := fun hi hs =>
    mem_sentIntents.mpr ⟨hi, (prepareIntentForSend_eq_some_iff hfresh hfast).mpr ⟨hs, rfl⟩⟩
  have hof : ∀ {p}, p ∈ sentIntents c env intents → p.1 ∈ intents ∧ Survives c env book p.1 ∧
      p.2 = { p.1 with
        price := snap (tickSizeOr c env.tickSize) (repriceTarget c env book p.1) } := fun hp =>
    ⟨(mem_sentIntents.mp hp).1,
      (prepareIntentForSend_eq_some_iff hfresh hfast).mp (mem_sentIntents.mp hp).2⟩
  constructor
  -- each clause of the structure is a clause about the targets before the tick snaps them
  · intro h
    refine ⟨?_, ?_, ?_, ?_, ?_, ?_⟩
    · intro i hi hs hside
      exact (snap_lt_iff htick).mp (h.buy _ (hsent hi hs) hside)
    · intro i hi hs hside
      exact (lt_snap_iff htick).mp (h.sale _ (hsent hi hs) hside)
    · intro i hi hs hside j hj hs' hside'
      exact (snap_lt_snap_iff htick).mp
        (h.buy_lt_sale _ (hsent hi hs) hside _ (hsent hj hs') hside')
    · intro i hi hs j hj hs' hside hprice
      exact (snap_ne_snap_iff htick).mp (h.apart _ (hsent hi hs) _ (hsent hj hs') hside hprice)
    · intro i hi hs hside hzero
      exact (snap_buy_eq_iff hside (hmaker i hi) hzero).mp
        (h.touch_buy _ (hsent hi hs) hside hzero)
    · intro i hi hs hside hzero
      exact (snap_sale_eq_iff hside (hmaker i hi) hzero).mp
        (h.touch_sale _ (hsent hi hs) hside hzero)
  · intro h
    refine ⟨?_, ?_, ?_, ?_, ?_, ?_⟩
    · intro p hp hside
      obtain ⟨hi, hs, hp2⟩ := hof hp
      rw [hp2]
      exact (snap_lt_iff htick).mpr (h.buy _ hi hs hside)
    · intro p hp hside
      obtain ⟨hi, hs, hp2⟩ := hof hp
      rw [hp2]
      exact (lt_snap_iff htick).mpr (h.sale _ hi hs hside)
    · intro p hp hside q hq hside'
      obtain ⟨hi, hs, hp2⟩ := hof hp
      obtain ⟨hj, hs', hq2⟩ := hof hq
      rw [hp2, hq2]
      exact (snap_lt_snap_iff htick).mpr (h.buy_lt_sale _ hi hs hside _ hj hs' hside')
    · intro p hp q hq hside hprice
      obtain ⟨hi, hs, hp2⟩ := hof hp
      obtain ⟨hj, hs', hq2⟩ := hof hq
      rw [hp2, hq2]
      exact (snap_ne_snap_iff htick).mpr (h.apart _ hi hs _ hj hs' hside hprice)
    · intro p hp hside hzero
      obtain ⟨hi, hs, hp2⟩ := hof hp
      rw [hp2]
      exact (snap_buy_eq_iff hside (hmaker _ hi) hzero).mpr (h.touch_buy _ hi hs hside hzero)
    · intro p hp hside hzero
      obtain ⟨hi, hs, hp2⟩ := hof hp
      rw [hp2]
      exact (snap_sale_eq_iff hside (hmaker _ hi) hzero).mpr (h.touch_sale _ hi hs hside hzero)

/-- Without repricing every intent is sent as it is. -/
theorem keepsStructure_iff_prices (hfast : c.fastRepriceOnSend = false) :
    KeepsStructure book (sentIntents c env intents) ↔ SafePrices book intents := by
  -- a pair that is sent is an intent and itself
  have hmem : ∀ p, p ∈ sentIntents c env intents ↔ p.1 ∈ intents ∧ p.2 = p.1 := by
    intro p
    rw [mem_sentIntents]
    unfold prepareIntentForSend
    rw [if_pos (by simp [hfast]), Option.some.injEq, eq_comm (b := p.2)]
  have hself : ∀ {i}, i ∈ intents → (i, i) ∈ sentIntents c env intents := fun hi =>
    (hmem _).mpr ⟨hi, rfl⟩
  constructor
  · intro h
    exact ⟨fun i hi hside => h.buy _ (hself hi) hside,
      fun i hi hside => h.sale _ (hself hi) hside,
      fun i hi hside j hj hside' => h.buy_lt_sale _ (hself hi) hside _ (hself hj) hside',
      fun i hi hside hzero => h.touch_buy _ (hself hi) hside hzero,
      fun i hi hside hzero => h.touch_sale _ (hself hi) hside hzero⟩
  · intro h
    have hof : ∀ {p}, p ∈ sentIntents c env intents → p.1 ∈ intents ∧ p.2 = p.1 := fun hp =>
      (hmem _).mp hp
    refine ⟨?_, ?_, ?_, ?_, ?_, ?_⟩
    · intro p hp hside
      rw [(hof hp).2]
      exact h.buy _ (hof hp).1 hside
    · intro p hp hside
      rw [(hof hp).2]
      exact h.sale _ (hof hp).1 hside
    · intro p hp hside q hq hside'
      rw [(hof hp).2, (hof hq).2]
      exact h.buy_lt_sale _ (hof hp).1 hside _ (hof hq).1 hside'
    · intro p hp q hq _ hprice
      rwa [(hof hp).2, (hof hq).2]
    · intro p hp hside hzero
      rw [(hof hp).2]
      exact h.touch_buy _ (hof hp).1 hside hzero
    · intro p hp hside hzero
      rw [(hof hp).2]
      exact h.touch_sale _ (hof hp).1 hside hzero

/-- The quotes of a fresh book keep their structure exactly when their targets, or without repricing
their prices, are safe. -/
theorem keepsStructure_iff (hfresh : FreshBook c env book)
    (hmaker : ∀ i ∈ intents, isMakerOnly c i = true) :
    KeepsStructure book (sentIntents c env intents) ↔
      if c.fastRepriceOnSend then SafeTargets c env book intents else SafePrices book intents := by
  split_ifs with hfast
  · exact keepsStructure_iff_targets hfresh hmaker hfast
  · exact keepsStructure_iff_prices (by simpa using hfast)

/-! ### A ladder -/

/-- Two intents of one side and one offset are sent at one price. -/
theorem sent_price_eq (hfresh : FreshBook c env book) (hfast : c.fastRepriceOnSend = true)
    {p q : OrderIntent × OrderIntent} (hp : p ∈ sentIntents c env intents)
    (hq : q ∈ sentIntents c env intents) (hside : p.1.side = q.1.side)
    (hoffset : p.1.actionEntryTickOffset = q.1.actionEntryTickOffset)
    (hmaker : isMakerOnly c p.1 = isMakerOnly c q.1) : p.2.price = q.2.price := by
  obtain ⟨-, hp2⟩ := (prepareIntentForSend_eq_some_iff hfresh hfast).mp (mem_sentIntents.mp hp).2
  obtain ⟨-, hq2⟩ := (prepareIntentForSend_eq_some_iff hfresh hfast).mp (mem_sentIntents.mp hq).2
  have htarget : repriceTarget c env book p.1 = repriceTarget c env book q.1 := by
    unfold repriceTarget entryTick
    rw [hside, hoffset, hmaker]
  rw [hp2, hq2, htarget]

/-- The top of the book the quotes were made for. -/
def quotedBook : OrderBookAggregate where
  bestBid := 100
  bestAsk := 101
  mid := 201 / 2

/-- The iteration in which they are sent, over the same book. -/
def sendingEnv : IntentEnv where
  faults := fun _ => none
  clock := 1000
  sentClock := 1000
  wallMs := 0
  utc := 0
  book := some quotedBook
  bookUpdateMs := some 0
  tickSize := some (1 / 10)
  pairFilter := some ⟨some "PASS", false⟩
  pairDecision := ⟨"PASS", 0⟩
  answer := .ok { retCode := some 0, retMsg := none, orderId := some "1" }

theorem freshBook_sendingEnv : FreshBook (.default ["BTCUSDT"] .spot) sendingEnv quotedBook :=
  ⟨rfl, by decide +kernel, 0, rfl, by decide⟩

/-- The slices of a burst, where each asks for one tick more than the one before. -/
def rungs : List OrderIntent :=
  (MicroSpread.firstIntents (.default ["BTCUSDT"]) MicroSpread.spikeView).zipIdx.map
    fun p => { p.1 with actionEntryTickOffset := some (p.2 / 2 + 1) }

/-- They keep their structure. -/
theorem rungs_keepStructure :
    (sentIntents (.default ["BTCUSDT"] .spot) sendingEnv rungs).map
        (fun p => (p.1.side, p.1.price, p.2.price)) =
      [("Buy", 1001 / 10, 1001 / 10), ("Sell", 1009 / 10, 1009 / 10),
        ("Buy", 1000 / 10, 1002 / 10), ("Sell", 1010 / 10, 1008 / 10),
        ("Buy", 999 / 10, 1003 / 10), ("Sell", 1011 / 10, 1007 / 10),
        ("Buy", 998 / 10, 1004 / 10), ("Sell", 1012 / 10, 1006 / 10)] ∧
      KeepsStructure quotedBook (sentIntents (.default ["BTCUSDT"] .spot) sendingEnv rungs) ∧
      SafeTargets (.default ["BTCUSDT"] .spot) sendingEnv quotedBook rungs := by
  have hkeeps : KeepsStructure quotedBook
      (sentIntents (.default ["BTCUSDT"] .spot) sendingEnv rungs) := by
    decide +kernel
  exact ⟨by decide +kernel, hkeeps,
    (keepsStructure_iff freshBook_sendingEnv (by decide +kernel)).mp hkeeps⟩

/-- The four slices of a burst are sent at one price, on either side. -/
theorem burst_collapses :
    ∃ intents times,
      MicroSpread.getIntents (.default ["BTCUSDT"]) MicroSpread.spikeView (fun _ => 0) =
        .ok intents times ∧
      FreshBook (.default ["BTCUSDT"] .spot) sendingEnv quotedBook ∧
      (∀ intent ∈ intents, isMakerOnly (.default ["BTCUSDT"] .spot) intent = true) ∧
      (sentIntents (.default ["BTCUSDT"] .spot) sendingEnv intents).map
          (fun p => (p.1.side, p.1.price, p.2.price)) =
        [("Buy", 1001 / 10, 1001 / 10), ("Sell", 1009 / 10, 1009 / 10),
          ("Buy", 1000 / 10, 1001 / 10), ("Sell", 1010 / 10, 1009 / 10),
          ("Buy", 999 / 10, 1001 / 10), ("Sell", 1011 / 10, 1009 / 10),
          ("Buy", 998 / 10, 1001 / 10), ("Sell", 1012 / 10, 1009 / 10)] ∧
      ¬ KeepsStructure quotedBook (sentIntents (.default ["BTCUSDT"] .spot) sendingEnv intents) := by
  obtain ⟨times, hrun⟩ := MicroSpread.getIntents_of_firstIntents_ne (c := .default ["BTCUSDT"])
    (v := MicroSpread.spikeView) (by decide +kernel)
  refine ⟨_, times, hrun, freshBook_sendingEnv, by decide +kernel, by decide +kernel, ?_⟩
  -- the first two buys have one offset
  intro hkeeps
  have hfirst := List.get_mem (sentIntents (.default ["BTCUSDT"] .spot) sendingEnv
    (MicroSpread.firstIntents (.default ["BTCUSDT"]) MicroSpread.spikeView)) ⟨0, by decide +kernel⟩
  have hsecond := List.get_mem (sentIntents (.default ["BTCUSDT"] .spot) sendingEnv
    (MicroSpread.firstIntents (.default ["BTCUSDT"]) MicroSpread.spikeView)) ⟨2, by decide +kernel⟩
  exact hkeeps.apart _ hfirst _ hsecond (by decide +kernel) (by decide +kernel)
    (sent_price_eq freshBook_sendingEnv rfl hfirst hsecond (by decide +kernel) (by decide +kernel)
      (by decide +kernel))

end Botik
