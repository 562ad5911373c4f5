import Botik.Library.SlidingWindow
import Botik.Strategy.SpikeReversal

/-!
# The discipline of trading against spikes

Over all calls of the strategy a symbol rests for the cooldown between its orders, also where the
active list names it twice. No call makes more orders than configured, no maker order takes, and
every order is against its spike exactly where the configuration says so.

## Main definitions

* `SpikeReversal.cooldown`
* `SpikeReversal.Emits` — what one call does
* `SpikeReversal.answers`, `emissions` — the intents of the calls
* `SpikeReversal.Disciplined`

## Main results

* `exists_getIntents` — a call returns, and `Emits`
* `pairwise_emissions` — the intents of a symbol are a cooldown apart
* `disciplined_answers`
-/

namespace Botik

open Program

namespace SpikeReversal

variable {c : StrategyConfig} {v : TradingView} {views : List TradingView}
  {times times' : String → ℚ} {symbol : String} {symbols : List String}
  {intent : OrderIntent} {intents before : List OrderIntent} {last price : ℚ} {side : Side}

/-- The time a symbol rests after an order. -/
def cooldown (c : StrategyConfig) : ℚ := max c.spikeReversalCooldownSec (1 / 10)

theorem cooldown_pos (c : StrategyConfig) : 0 < cooldown c :=
  lt_of_lt_of_le (by norm_num) (le_max_right _ _)

/-! ### One symbol -/

/-- What a triggered order was made of. -/
structure Triggered (c : StrategyConfig) (v : TradingView) (last : ℚ) (symbol : String)
    (side : Side) (price : ℚ) (book : Market.OrderBookAggregate) : Prop where
  book_eq : v.orderbook symbol = some book
  direction : |v.spikeDirection symbol| = 1
  rested : cooldown c ≤ v.clock - last
  side_eq : side = sideOf c (v.spikeDirection symbol)
  keeps : wouldTake c book side price = false

theorem exists_triggered (h : triggerOf c v last symbol = some (side, price)) :
    ∃ book, Triggered c v last symbol side price book := by
  unfold triggerOf at h
  cases hbook : v.orderbook symbol with
  | none => simp [hbook] at h
  | some book =>
    simp only [hbook] at h
    split_ifs at h with hquote hspike hrest hprice htake
    obtain ⟨rfl, rfl⟩ := Prod.mk.inj (Option.some.inj h)
    obtain ⟨hdirection, -⟩ := not_or.mp hspike
    exact ⟨book, hbook, not_not.mp hdirection, not_lt.mp hrest, rfl, Bool.eq_false_iff.mpr htake⟩

/-- A symbol does not trigger in the call that set its time. -/
theorem triggerOf_clock (c : StrategyConfig) (v : TradingView) (symbol : String) :
    triggerOf c v v.clock symbol = none := by
  cases h : triggerOf c v v.clock symbol with
  | none => rfl
  | some order =>
    obtain ⟨book, htriggered⟩ := exists_triggered h
    have hrested := htriggered.rested
    rw [sub_self] at hrested
    exact absurd hrested (not_le.mpr (cooldown_pos c))

/-! ### One call -/

/-- What a call does: each intent is triggered by the times before the call, no symbol has two, and
the symbols of the intents get the time of the call. -/
structure Emits (c : StrategyConfig) (v : TradingView) (times : String → ℚ)
    (intents : List OrderIntent) (times' : String → ℚ) : Prop where
  triggered : ∀ intent ∈ intents, ∃ side price hex,
    triggerOf c v (times intent.symbol) intent.symbol = some (side, price) ∧
      intent = spikeIntent c v intent.symbol side price hex
  nodup : (intents.map OrderIntent.symbol).Nodup
  times_eq : ∀ symbol, times' symbol =
    if symbol ∈ intents.map OrderIntent.symbol then v.clock else times symbol

theorem emits_nil : Emits c v times [] times where
  triggered := by simp
  nodup := List.nodup_nil
  times_eq := by simp

/-- A symbol that triggers, and then the others. -/
theorem Emits.cons (hex : String)
    (htrigger : triggerOf c v (times symbol) symbol = some (side, price))
    (h : Emits c v (Function.update times symbol v.clock) intents times') :
    Emits c v times (spikeIntent c v symbol side price hex :: intents) times' := by
  have hother : ∀ intent ∈ intents, intent.symbol ≠ symbol := by
    rintro intent hintent rfl
    obtain ⟨side', price', hex', hagain, -⟩ := h.triggered intent hintent
    rw [Function.update_self, triggerOf_clock] at hagain
    cases hagain
  constructor
  · intro intent hintent
    rcases List.mem_cons.mp hintent with rfl | hintent
    · exact ⟨side, price, hex, htrigger, rfl⟩
    · have hlater := h.triggered intent hintent
      rwa [Function.update_of_ne (hother intent hintent)] at hlater
  · refine List.nodup_cons.mpr ⟨fun hmem => ?_, h.nodup⟩
    obtain ⟨intent, hintent, heq⟩ := List.mem_map.mp hmem
    exact hother intent hintent heq
  · intro s
    rw [h.times_eq s]
    by_cases hs : s = symbol
    · subst hs
      simp [spikeIntent]
    · simp [spikeIntent, hs]

theorem triggerSymbols_of_none (h : triggerOf c v (times symbol) symbol = none) :
    triggerSymbols c v (symbol :: symbols) before times =
      triggerSymbols c v symbols before times := by
  have hget : (get : StrategyM (String → ℚ)) times = .ok times times := rfl
  rw [triggerSymbols, bind_of_ok hget, h]

theorem triggerSymbols_of_some (h : triggerOf c v (times symbol) symbol = some (side, price)) :
    triggerSymbols c v (symbol :: symbols) before times =
      triggerSymbols c v symbols
        (before ++ [spikeIntent c v symbol side price (v.hex before.length)])
        (Function.update times symbol v.clock) := by
  have hget : (get : StrategyM (String → ℚ)) times = .ok times times := rfl
  rw [triggerSymbols, bind_of_ok hget, h]
  rfl

/-- The symbols in turn. -/
theorem exists_triggerSymbols (symbols : List String) (before : List OrderIntent)
    (times : String → ℚ) : ∃ intents times',
      triggerSymbols c v symbols before times = .ok (before ++ intents) times' ∧
        Emits c v times intents times' ∧ intents.length ≤ symbols.length := by
  induction symbols generalizing before times with
  | nil => exact ⟨[], times, by rw [List.append_nil]; rfl, emits_nil, le_rfl⟩
  | cons symbol symbols ih =>
    cases htrigger : triggerOf c v (times symbol) symbol with
    | none =>
      obtain ⟨intents, times', hrun, hemits, hlength⟩ := ih before times
      refine ⟨intents, times', ?_, hemits, hlength.trans (Nat.le_succ _)⟩
      rw [← hrun, triggerSymbols_of_none htrigger]
    | some order =>
      obtain ⟨side, price⟩ := order
      let intent := spikeIntent c v symbol side price (v.hex before.length)
      obtain ⟨intents, times', hrun, hemits, hlength⟩ :=
        ih (before ++ [intent]) (Function.update times symbol v.clock)
      refine ⟨intent :: intents, times', ?_, hemits.cons _ htrigger, Nat.succ_le_succ hlength⟩
      rw [List.append_cons, ← hrun, triggerSymbols_of_some htrigger]

theorem length_orderedSymbols_le :
    (orderedSymbols c v).length ≤ (max c.spikeReversalMaxSymbols 1).toNat :=
  List.length_take_le _ _

/-- A call returns, and makes no more intents than configured. -/
theorem exists_getIntents (c : StrategyConfig) (v : TradingView) (times : String → ℚ) :
    ∃ intents times', getIntents c v times = .ok intents times' ∧
      Emits c v times intents times' ∧
        intents.length ≤ (max c.spikeReversalMaxSymbols 1).toNat := by
  unfold getIntents
  split_ifs with hpaused
  · exact ⟨[], times, rfl, emits_nil, Nat.zero_le _⟩
  · obtain ⟨intents, times', hrun, hemits, hlength⟩ :=
      exists_triggerSymbols (c := c) (v := v) (orderedSymbols c v) [] times
    exact ⟨intents, times', hrun, hemits, hlength.trans length_orderedSymbols_le⟩

/-! ### All calls -/

/-- The calls of the strategy: what each one sees, and its intents. -/
def answers (c : StrategyConfig) :
    List TradingView → (String → ℚ) → List (TradingView × List OrderIntent)
  | [], _ => []
  | v :: views, times =>
    match getIntents c v times with
    | .ok intents times' => (v, intents) :: answers c views times'
    | .error _ times' => (v, []) :: answers c views times'

/-- The intents of all calls, each with what its call saw. -/
def emissions (c : StrategyConfig) (views : List TradingView) (times : String → ℚ) :
    List (TradingView × OrderIntent) :=
  (answers c views times).flatMap fun answer => answer.2.map fun intent => (answer.1, intent)

theorem answers_cons (h : getIntents c v times = .ok intents times') :
    answers c (v :: views) times = (v, intents) :: answers c views times' := by
  rw [answers, h]

theorem emissions_cons (h : getIntents c v times = .ok intents times') :
    emissions c (v :: views) times =
      intents.map (fun intent => (v, intent)) ++ emissions c views times' := by
  rw [emissions, answers_cons h, List.flatMap_cons, ← emissions]

theorem Emits.rested (h : Emits c v times intents times') (hmem : intent ∈ intents) :
    cooldown c ≤ v.clock - times intent.symbol := by
  obtain ⟨side, price, hex, htrigger, -⟩ := h.triggered intent hmem
  obtain ⟨book, htriggered⟩ := exists_triggered htrigger
  exact htriggered.rested

/-- The time of a symbol never goes back. -/
theorem Emits.le_times (h : Emits c v times intents times') (symbol : String) :
    times symbol ≤ times' symbol := by
  rw [h.times_eq]
  split_ifs with hmem
  · obtain ⟨intent, hintent, rfl⟩ := List.mem_map.mp hmem
    exact sub_nonneg.mp ((cooldown_pos c).le.trans (h.rested hintent))
  · exact le_rfl

/-- Whatever is emitted comes a cooldown after the time the symbol had. -/
theorem rested_of_mem_emissions {e : TradingView × OrderIntent}
    (he : e ∈ emissions c views times) : cooldown c ≤ e.1.clock - times e.2.symbol := by
  induction views generalizing times with
  | nil => cases he
  | cons v views ih =>
    obtain ⟨intents, times', hrun, hemits, -⟩ := exists_getIntents c v times
    rw [emissions_cons hrun, List.mem_append] at he
    rcases he with hnow | hlater
    · obtain ⟨intent, hintent, rfl⟩ := List.mem_map.mp hnow
      exact hemits.rested hintent
    · exact (ih hlater).trans (sub_le_sub_left (hemits.le_times _) _)

/-- The intents of a symbol are a cooldown apart. -/
theorem pairwise_emissions (views : List TradingView) (times : String → ℚ) :
    (emissions c views times).Pairwise fun e e' =>
      e.2.symbol = e'.2.symbol → cooldown c ≤ e'.1.clock - e.1.clock := by
  induction views generalizing times with
  | nil => exact List.Pairwise.nil
  | cons v views ih =>
    obtain ⟨intents, times', hrun, hemits, -⟩ := exists_getIntents c v times
    rw [emissions_cons hrun]
    refine List.pairwise_append.mpr ⟨?_, ih times', ?_⟩
    · -- within one call no symbol has two intents
      refine List.pairwise_map.mpr ((List.pairwise_map.mp hemits.nodup).imp ?_)
      intro intent intent' hne heq
      exact absurd heq hne
    · intro e he e' he' heq
      obtain ⟨intent, hintent, rfl⟩ := List.mem_map.mp he
      have hrested := rested_of_mem_emissions he'
      rwa [← heq, hemits.times_eq, if_pos (List.mem_map_of_mem hintent)] at hrested

/-- A call and one of its intents. -/
theorem emits_of_mem_answers {answer : TradingView × List OrderIntent}
    (h : answer ∈ answers c views times) : ∃ times₀ times₁,
      Emits c answer.1 times₀ answer.2 times₁ ∧
        answer.2.length ≤ (max c.spikeReversalMaxSymbols 1).toNat := by
  induction views generalizing times with
  | nil => cases h
  | cons v views ih =>
    obtain ⟨intents, times', hrun, hemits, hlength⟩ := exists_getIntents c v times
    rw [answers_cons hrun] at h
    rcases List.mem_cons.mp h with rfl | hlater
    · exact ⟨times, times', hemits, hlength⟩
    · exact ih hlater

/-- The side against a spike. -/
def against (direction : ℤ) : Side := if 0 < direction then .sell else .buy

theorem sideOf_eq_against_iff (direction : ℤ) :
    sideOf c direction = against direction ↔ c.spikeReversalReverse = true := by
  unfold sideOf against
  split_ifs <;> simp_all

/-- An intent of a call: made from a book of its symbol, not taking if it is to make, and against
its spike exactly where the configuration reverses. -/
structure WellMade (c : StrategyConfig) (v : TradingView) (intent : OrderIntent) : Prop where
  quoted : ∃ book, v.orderbook intent.symbol = some book ∧
    (intent.actionMakerOnly = some true →
      (intent.side = Side.buy.text → intent.price < book.bestAsk) ∧
        (intent.side = Side.sell.text → book.bestBid < intent.price))
  sided : intent.side = Side.buy.text ∨ intent.side = Side.sell.text
  spike : |v.spikeDirection intent.symbol| = 1
  reversed : intent.side = (against (v.spikeDirection intent.symbol)).text ↔
    c.spikeReversalReverse = true

theorem text_inj {side side' : Side} : side.text = side'.text ↔ side = side' := by
  constructor
  · intro h
    have hread := congrArg Side.ofText? h
    rw [Side.ofText?_text, Side.ofText?_text] at hread
    exact Option.some.inj hread
  · rintro rfl
    rfl

/-- A maker order that keeps off the other side of its book. -/
theorem lt_of_not_wouldTake {book : Market.OrderBookAggregate}
    (h : wouldTake c book side price = false) (hmake : makerOnly c = true) :
    (side = .buy → price < book.bestAsk) ∧ (side = .sell → book.bestBid < price) := by
  unfold wouldTake at h
  rw [hmake, decide_eq_false_iff_not, not_and, not_or] at h
  obtain ⟨hbuy, hsell⟩ := h rfl
  constructor
  · intro hside
    exact not_le.mp fun hle => hbuy ⟨hside, hle⟩
  · intro hside
    exact not_le.mp fun hle => hsell ⟨hside, hle⟩

theorem Emits.wellMade (h : Emits c v times intents times') (hmem : intent ∈ intents) :
    WellMade c v intent := by
  obtain ⟨side, price, hex, htrigger, hintent⟩ := h.triggered intent hmem
  obtain ⟨book, htriggered⟩ := exists_triggered htrigger
  have hside : intent.side = side.text := by rw [hintent]; rfl
  have hprice : intent.price = price := by rw [hintent]; rfl
  have hmaker : intent.actionMakerOnly = some (makerOnly c) := by rw [hintent]; rfl
  constructor
  · refine ⟨book, htriggered.book_eq, fun hmake => ?_⟩
    obtain ⟨hbuy, hsell⟩ := lt_of_not_wouldTake htriggered.keeps
      (Option.some.inj (hmaker.symm.trans hmake))
    rw [hside, hprice, text_inj, text_inj]
    exact ⟨hbuy, hsell⟩
  · rw [hside, text_inj, text_inj]
    cases side with
    | buy => exact Or.inl rfl
    | sell => exact Or.inr rfl
  · exact htriggered.direction
  · rw [hside, text_inj, htriggered.side_eq, sideOf_eq_against_iff]

/-- The discipline over all calls. -/
structure Disciplined (c : StrategyConfig) (views : List TradingView) : Prop where
  window : ∀ symbol start width, width < cooldown c →
    ((emissions c views fun _ => 0).filter fun e =>
      e.2.symbol = symbol ∧ start ≤ e.1.clock ∧ e.1.clock ≤ start + width).length ≤ 1
  few : ∀ answer ∈ answers c views fun _ => 0,
    answer.2.length ≤ max c.spikeReversalMaxSymbols 1
  wellMade : ∀ e ∈ emissions c views fun _ => 0, WellMade c e.1 e.2

/-- The calls of a new strategy are disciplined, whatever they see and whatever the clock does. -/
theorem disciplined_answers (c : StrategyConfig) (views : List TradingView) :
    Disciplined c views := by
  constructor
  · intro symbol start width hwidth
    refine SlidingWindow.length_filter_le_one (pairwise_emissions views _) ?_
    rintro e e' hapart hin hin'
    simp only [decide_eq_true_eq] at hin hin'
    have hspaced := hapart (hin.1.trans hin'.1.symm)
    linarith [hin.2.1, hin'.2.2]
  · intro answer hanswer
    obtain ⟨times₀, times₁, -, hlength⟩ := emits_of_mem_answers hanswer
    have hpos : (1 : ℤ) ≤ max c.spikeReversalMaxSymbols 1 := le_max_right _ _
    omega
  · rintro e he
    obtain ⟨answer, hanswer, he⟩ := List.mem_flatMap.mp he
    obtain ⟨intent, hintent, rfl⟩ := List.mem_map.mp he
    obtain ⟨times₀, times₁, hemits, -⟩ := emits_of_mem_answers hanswer
    exact hemits.wellMade hintent

end SpikeReversal

end Botik
