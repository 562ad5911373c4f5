import Botik.Main.SignalRecords
import Botik.MlService.Dataset
import Botik.Theorems.RepricedQuotes

/-!
# The features of the policy and of the training

A model scores a profile before there is an order, and is trained on the signals of the orders that
followed. The two rows of features agree in everything the order takes over from the pair filter and
from the profile. The sizes are another matter: the policy estimates them by the size of the profile,
while the strategy sizes its orders by their notional and always rests.

## Main definitions

* `OrderIntent.CarriesActions` — an intent under a profile
* `StoredBuy` — a buy from the choice of its profile to the row of its signal

## Main results

* `MicroSpread.carriesActions_of_mem` — every intent carries the actions of its profile
* `StoredBuy.agreesButSizes` — where the two rows agree
-/

namespace Botik

/-! ### What an intent carries -/

/-- An entry under a profile: it rests, whatever the profile says. -/
structure OrderIntent.CarriesActions (intent : OrderIntent) (profile : ActionProfile) : Prop where
  entryTickOffset : intent.actionEntryTickOffset = some profile.entryTickOffset
  targetProfit : intent.actionTargetProfit = some profile.targetProfit
  safetyBuffer : intent.actionSafetyBuffer = some profile.safetyBuffer
  stopLossPct : intent.actionStopLossPct = profile.stopLossPct
  takeProfitPct : intent.actionTakeProfitPct = profile.takeProfitPct
  holdTimeoutSec : intent.actionHoldTimeoutSec = profile.holdTimeoutSec
  makerOnly : intent.actionMakerOnly = some true

namespace MicroSpread

variable {c : StrategyConfig} {v : TradingView} {intents : List OrderIntent} {intent : OrderIntent}
  {times times' : String → ℚ}

/-- Every intent is one side of a quote. -/
theorem exists_sideIntent (hrun : getIntents c v times = .ok intents times')
    (hmem : intent ∈ intents) :
    ∃ quote side price link, IsQuote c v quote ∧ intent = sideIntent c quote side price link := by
  obtain ⟨quotes, slices, hsliced⟩ := exists_slices hrun
  rw [hsliced.intents_eq] at hmem
  obtain ⟨s, hs, hside⟩ := mem_flatMap_orders.mp hmem
  have hquote := hsliced.isQuote _ (hsliced.of_mem hs).1
  rcases hside with rfl | rfl
  · exact ⟨s.quote, "Buy", _, _, hquote, rfl⟩
  · exact ⟨s.quote, "Sell", _, _, hquote, rfl⟩

/-- Every intent of the strategy carries the actions of its profile. -/
theorem carriesActions_of_mem {profileId : Option String} {profile : ActionProfile}
    (hrun : getIntents c v times = .ok intents times') (hmem : intent ∈ intents)
    (hactive : activeProfile c v intent.symbol = (profileId, some profile)) :
    intent.profileId = profileId ∧ intent.CarriesActions profile := by
  obtain ⟨quote, side, price, link, ⟨book, hspec⟩, rfl⟩ := exists_sideIntent hrun hmem
  have hquote : quote = candidate c v quote.symbol book := hspec.eq_candidate
  have hprofile : activeProfile c v quote.symbol = (profileId, some profile) := hactive
  have hid : quote.profileId = profileId := by rw [hquote]; simp [candidate, hprofile]
  have hof : quote.profile = some profile := by rw [hquote]; simp [candidate, hprofile]
  refine ⟨hid, ?_, ?_, ?_, by simp [sideIntent, hof], by simp [sideIntent, hof],
    by simp [sideIntent, hof], rfl⟩
  · rw [sideIntent, hquote]
    simp [candidate, hprofile]
  · rw [sideIntent, hquote]
    simp [candidate, hprofile]
  · rw [sideIntent, hquote]
    simp [candidate, hprofile]

end MicroSpread

namespace OrderIntent.CarriesActions

variable {intent sent : OrderIntent} {profile : ActionProfile}

theorem withPrice (h : intent.CarriesActions profile) (price : ℚ) :
    { intent with price := price }.CarriesActions profile := { h with }

/-- Only the price of an entry that carries its actions is adjusted before it is sent. -/
theorem sent_eq {c : Config} {env : IntentEnv} (h : intent.CarriesActions profile)
    (hsent : intentToSend c env intent = some sent) :
    sent = { intent with price := sent.price } := by
  have hmaker : isMakerOnly c intent = true := by simp [isMakerOnly, h.makerOnly]
  obtain ⟨price, rfl⟩ := intentToSend_eq_some hsent
  simp [hmaker, h.makerOnly]

end OrderIntent.CarriesActions

/-! ### Two rows -/

/-- The features taken from the snapshot of the pair filter and from the profile. -/
def sharedFeatures : List String :=
  ["depth_bid_quote_at_signal", "depth_ask_quote_at_signal", "slippage_buy_bps_est",
    "slippage_sell_bps_est", "trades_per_min_at_signal", "p95_trade_gap_ms_at_signal",
    "vol_1s_bps_at_signal", "min_required_spread_bps", "action_entry_tick_offset",
    "action_target_profit", "action_safety_buffer", "action_min_top_book_qty",
    "action_stop_loss_pct", "action_take_profit_pct", "action_hold_timeout_sec", "side_sign",
    "symbol_hash", "profile_hash", "impulse_bps_at_signal", "spike_direction",
    "spike_strength_bps"]

/-! ### From a profile to the row of a signal -/

/-- A buy from the choice of its profile by a model to the row of its signal. The pair filter and
the book do not change on the way. -/
structure StoredBuy where
  symbol : String
  snapshot : PairSnapshot
  profile : PolicyProfile
  model : ModelBundle
  bandit : List String → List (String × String)
  passSymbols : List String
  profiles : List PolicyProfile
  ctx : String → Option PairSnapshot
  eps : ℚ
  draws : ℕ → PolicyDraw
  ctx_eq : ctx symbol = some snapshot
  selected : IsSelected bandit passSymbols profiles ctx model eps draws symbol profile
  strategy : StrategyConfig
  view : TradingView
  times : String → ℚ
  times' : String → ℚ
  intents : List OrderIntent
  intent : OrderIntent
  pairFilter_eq : view.pairFilter symbol = some snapshot.toSpikeSnapshot
  active : MicroSpread.activeProfile strategy view symbol =
    (some profile.profileId, some profile.toActionProfile)
  emitted : MicroSpread.getIntents strategy view times = .ok intents times'
  intent_mem : intent ∈ intents
  intent_symbol : intent.symbol = symbol
  intent_buy : intent.side = "Buy"
  config : Config
  env : IntentEnv
  sent : OrderIntent
  signals : SignalTable
  bestBid_eq : env.book.map (fun book => book.bestBid) =
    (view.orderbook symbol).map Market.OrderBookAggregate.bestBid
  bestAsk_eq : env.book.map (fun book => book.bestAsk) =
    (view.orderbook symbol).map Market.OrderBookAggregate.bestAsk
  mid_eq : env.book.map (fun book => book.mid) =
    (view.orderbook symbol).map Market.OrderBookAggregate.mid
  sent_eq : intentToSend config env intent = some sent
  /-- The signal is stored: there is no other of its id. -/
  fresh : signals.get? (intentSignalId sent) = none

namespace StoredBuy

variable (b : StoredBuy)

/-- The row a model scores. -/
def scored : List ℚ :=
  buildFeatureRow b.symbol (b.ctx b.symbol) b.profile b.model.modelId

/-- What the loop knows of the symbol when it stores the signal. -/
def known : SignalContext where
  pair := b.ctx b.symbol
  policyMeta := (select b.bandit b.passSymbols b.profiles b.ctx (some b.model) b.eps b.draws).get?
    b.symbol
  policyModelId := some b.model.modelId

/-- The row the loop stores. -/
def row : SignalSnapshot :=
  signalSnapshot b.env b.known (MicroSpread.tagsOf b.strategy b.view b.intent) b.sent

/-- The row the training makes of the stored signal. -/
def trained : Option (List ℚ) :=
  ((b.signals.insertSignalSnapshot (intentSignalId b.sent) b.row).get?
    (intentSignalId b.sent)).map rowToFeatures

theorem trained_eq : b.trained = some (rowToFeatures b.row) := by
  rw [trained, SignalTable.get?_insertSignalSnapshot b.fresh, Option.map_some]

/-- The intent carries the actions of the profile, and is sent with another price at most. -/
theorem carried : b.intent.profileId = some b.profile.profileId ∧
    b.intent.CarriesActions b.profile.toActionProfile :=
  MicroSpread.carriesActions_of_mem b.emitted b.intent_mem (b.intent_symbol ▸ b.active)

theorem sent_eq_intent : b.sent = { b.intent with price := b.sent.price } :=
  b.carried.2.sent_eq b.sent_eq

/-- So does the order that is sent. -/
theorem sent_carries : b.sent.profileId = some b.profile.profileId ∧
    b.sent.CarriesActions b.profile.toActionProfile := by
  rw [b.sent_eq_intent]
  exact ⟨b.carried.1, b.carried.2.withPrice _⟩

theorem known_pair : b.known.pair = some b.snapshot := b.ctx_eq

theorem sent_symbol : b.sent.symbol = b.symbol := by
  rw [b.sent_eq_intent]
  exact b.intent_symbol

/-- What is scored, in the words of the snapshot. -/
theorem scored_eq :
    b.scored = buildFeatureRow b.symbol (some b.snapshot) b.profile b.model.modelId := by
  rw [scored, b.ctx_eq]

/-- What is trained, in the words of the snapshot, the profile and the order. -/
theorem rowToFeatures_row : rowToFeatures b.row =
    [signalSpreadBps b.env.book, toFloat b.snapshot.depthBidQuote,
      toFloat b.snapshot.depthAskQuote, toFloat b.snapshot.slippageBuyBps,
      toFloat b.snapshot.slippageSellBps, toFloat b.snapshot.tradesPerMin,
      toFloat b.snapshot.p95TradeGapMs, toFloat b.snapshot.vol1sBps,
      toFloat b.snapshot.minRequiredSpreadBps, b.sent.price * b.sent.qty, b.sent.qty,
      b.profile.entryTickOffset, b.sent.qty, b.profile.targetProfit, b.profile.safetyBuffer,
      b.profile.minTopBookQty, toFloat b.profile.stopLossPct, toFloat b.profile.takeProfitPct,
      toFloat (b.profile.holdTimeoutSec.map Int.cast), 1, 1, stableHashToUnit b.symbol,
      stableHashToUnit b.profile.profileId, stableHashToUnit "rules-v1",
      toFloat b.snapshot.impulseBps, toFloat (b.snapshot.spikeDirection.map Int.cast),
      toFloat b.snapshot.spikeStrengthBps] := by
  have hside : sideSign b.sent.side = 1 := by
    rw [b.sent_eq_intent, b.intent_buy]
    decide
  have hqty : b.intent.qty = b.sent.qty := by rw [b.sent_eq_intent]
  have hspike : ((b.snapshot.spikeDirection.getD 0 : ℤ) : ℚ) =
      (b.snapshot.spikeDirection.map Int.cast).getD 0 := by
    cases b.snapshot.spikeDirection with
    | none => simp
    | some direction => simp
  have hactive : MicroSpread.activeProfile b.strategy b.view b.intent.symbol =
      (some b.profile.profileId, some b.profile.toActionProfile) := b.intent_symbol ▸ b.active
  obtain ⟨hid, hcarries⟩ := b.sent_carries
  simp [rowToFeatures, row, signalSnapshot, MicroSpread.tagsOf, b.known_pair, b.sent_symbol, hside,
    hqty, hactive, hid, hcarries.entryTickOffset, hcarries.targetProfit, hcarries.safetyBuffer,
    hcarries.stopLossPct, hcarries.takeProfitPct, hcarries.holdTimeoutSec, hcarries.makerOnly,
    hspike, Text.orEmpty, toFloat]

/-- A feature the two rows share, whatever the order. -/
theorem sameFeature_of_shared {name : String} (hname : name ∈ sharedFeatures) :
    SameFeature name b.scored (rowToFeatures b.row) := by
  have hother {other : String} (h : other ∉ sharedFeatures) : other ≠ name :=
    fun heq => h (heq ▸ hname)
  rw [b.scored_eq, b.rowToFeatures_row]
  simp [SameFeature, featureNames, buildFeatureRow, toFloat,
    hother (by decide : "spread_bps_at_signal" ∉ sharedFeatures),
    hother (by decide : "order_size_quote" ∉ sharedFeatures),
    hother (by decide : "order_size_base" ∉ sharedFeatures),
    hother (by decide : "action_order_qty_base" ∉ sharedFeatures),
    hother (by decide : "action_maker_only" ∉ sharedFeatures),
    hother (by decide : "model_version_hash" ∉ sharedFeatures)]

theorem sameFeature_orderSizeQuote :
    SameFeature "order_size_quote" b.scored (rowToFeatures b.row) ↔
      b.profile.orderQtyBase * toFloat b.snapshot.mid = b.sent.price * b.sent.qty := by
  rw [b.scored_eq, b.rowToFeatures_row]
  simp [SameFeature, featureNames, buildFeatureRow]

theorem sameFeature_orderSizeBase :
    SameFeature "order_size_base" b.scored (rowToFeatures b.row) ↔
      b.profile.orderQtyBase = b.sent.qty := by
  rw [b.scored_eq, b.rowToFeatures_row]
  simp [SameFeature, featureNames, buildFeatureRow]

theorem sameFeature_actionOrderQtyBase :
    SameFeature "action_order_qty_base" b.scored (rowToFeatures b.row) ↔
      b.profile.orderQtyBase = b.sent.qty := by
  rw [b.scored_eq, b.rowToFeatures_row]
  simp [SameFeature, featureNames, buildFeatureRow]

theorem sameFeature_actionMakerOnly :
    SameFeature "action_maker_only" b.scored (rowToFeatures b.row) ↔
      b.profile.makerOnly ≠ some false := by
  rw [b.scored_eq, b.rowToFeatures_row]
  cases hmaker : b.profile.makerOnly with
  | none => simp [SameFeature, featureNames, buildFeatureRow, hmaker]
  | some makerOnly =>
    cases makerOnly with
    | true => simp [SameFeature, featureNames, buildFeatureRow, hmaker]
    | false => simp [SameFeature, featureNames, buildFeatureRow, hmaker]

/-- The two rows are the same if they agree in every feature. -/
theorem scored_eq_rowToFeatures_iff : b.scored = rowToFeatures b.row ↔
    ∀ name ∈ featureNames, SameFeature name b.scored (rowToFeatures b.row) :=
  eq_iff_sameFeature (length_buildFeatureRow _ _ _ _) (length_rowToFeatures _)

/-- The two rows agree in what the order takes over, and in its size and kind only if they happen to
be those of the profile. -/
structure AgreesButSizes (trained : List ℚ) : Prop where
  shared : ∀ name ∈ sharedFeatures, SameFeature name b.scored trained
  orderSizeQuote : SameFeature "order_size_quote" b.scored trained ↔
    b.profile.orderQtyBase * toFloat b.snapshot.mid = b.sent.price * b.sent.qty
  orderSizeBase : SameFeature "order_size_base" b.scored trained ↔
    b.profile.orderQtyBase = b.sent.qty
  actionOrderQtyBase : SameFeature "action_order_qty_base" b.scored trained ↔
    b.profile.orderQtyBase = b.sent.qty
  actionMakerOnly : SameFeature "action_maker_only" b.scored trained ↔
    b.profile.makerOnly ≠ some false

/-- Every buy a model chose the profile of is trained on, with a row that agrees in all but the
estimates. -/
theorem agreesButSizes : ∃ trained, b.trained = some trained ∧ b.AgreesButSizes trained :=
  ⟨rowToFeatures b.row, b.trained_eq,
    { shared := fun _ hname => b.sameFeature_of_shared hname
      orderSizeQuote := b.sameFeature_orderSizeQuote
      orderSizeBase := b.sameFeature_orderSizeBase
      actionOrderQtyBase := b.sameFeature_actionOrderQtyBase
      actionMakerOnly := b.sameFeature_actionMakerOnly }⟩

end StoredBuy

/-! ### A buy of bitcoin -/

/-- A profile with a thousandth of a coin. -/
def safeProfile : PolicyProfile where
  profileId := "safe"
  entryTickOffset := 1
  orderQtyBase := 1 / 1000
  targetProfit := 1 / 10000
  safetyBuffer := 1 / 20000
  minTopBookQty := 0
  stopLossPct := some (3 / 1000)
  takeProfitPct := some (5 / 1000)
  holdTimeoutSec := some 180
  makerOnly := some true

def calmSnapshot : PairSnapshot where
  spikeDirection := some 0
  spikeStrengthBps := some 0
  status := some "PASS"
  mid := some (201 / 2)
  medianSpreadBps := some 90
  depthBidQuote := some 5000
  depthAskQuote := some 5000
  slippageBuyBps := some 1
  slippageSellBps := some 1
  tradesPerMin := some 60
  p95TradeGapMs := some 2000
  vol1sBps := some 3
  minRequiredSpreadBps := some 6
  impulseBps := some 0

/-- A model that expects the same of every profile. -/
def evenModel : ModelBundle where
  modelId := "model-1"
  predictWithDetails := fun rows => (rows.map fun _ => 1 / 2, rows.map fun _ => 10)

def safeStrategy : StrategyConfig :=
  { StrategyConfig.default ["BTCUSDT"] with actionProfiles := [safeProfile.toActionProfile] }

def safeView : TradingView :=
  { MicroSpread.wideView ["BTCUSDT"] with
    pairFilter := fun _ => some calmSnapshot.toSpikeSnapshot
    activeProfileId := fun _ => some "safe" }

def safeIntent : OrderIntent where
  symbol := "BTCUSDT"
  side := "Buy"
  price := 1001 / 10
  qty := 20 / 201
  orderLinkId := "mm-BTCUSDT-bid-0123456789ab"
  profileId := some "safe"
  actionEntryTickOffset := some 1
  actionTargetProfit := some (1 / 10000)
  actionSafetyBuffer := some (1 / 20000)
  actionStopLossPct := some (3 / 1000)
  actionTakeProfitPct := some (5 / 1000)
  actionHoldTimeoutSec := some 180
  actionMakerOnly := some true

theorem isSelected_safeProfile : IsSelected (fun _ => []) ["BTCUSDT"] [safeProfile]
    (fun _ => some calmSnapshot) evenModel 0 (fun _ => ⟨1 / 2, 0⟩) "BTCUSDT" safeProfile :=
  ⟨List.mem_singleton_self _, by decide +kernel⟩

theorem activeProfile_safeView : MicroSpread.activeProfile safeStrategy safeView "BTCUSDT" =
    (some safeProfile.profileId, some safeProfile.toActionProfile) := by
  rfl

theorem safeIntent_mem : safeIntent ∈ MicroSpread.firstIntents safeStrategy safeView := by
  decide +kernel

theorem intentToSend_safeIntent :
    intentToSend (.default ["BTCUSDT"] .spot) sendingEnv safeIntent = some safeIntent := by
  decide +kernel

theorem mid_safeView : sendingEnv.book.map (fun book => book.mid) =
    (safeView.orderbook "BTCUSDT").map Market.OrderBookAggregate.mid := by
  decide +kernel

/-- The first buy under the profile the model selects, sent over the same book. -/
def safeBuy (times' : String → ℚ)
    (emitted : MicroSpread.getIntents safeStrategy safeView (fun _ => 0) =
      .ok (MicroSpread.firstIntents safeStrategy safeView) times') : StoredBuy where
  symbol := "BTCUSDT"
  snapshot := calmSnapshot
  profile := safeProfile
  model := evenModel
  bandit := fun _ => []
  passSymbols := ["BTCUSDT"]
  profiles := [safeProfile]
  ctx := fun _ => some calmSnapshot
  eps := 0
  draws := fun _ => ⟨1 / 2, 0⟩
  ctx_eq := rfl
  selected := isSelected_safeProfile
  strategy := safeStrategy
  view := safeView
  times := fun _ => 0
  times' := times'
  intents := MicroSpread.firstIntents safeStrategy safeView
  intent := safeIntent
  pairFilter_eq := rfl
  active := activeProfile_safeView
  emitted := emitted
  intent_mem := safeIntent_mem
  intent_symbol := rfl
  intent_buy := rfl
  config := .default ["BTCUSDT"] .spot
  env := sendingEnv
  sent := safeIntent
  signals := .empty
  bestBid_eq := rfl
  bestAsk_eq := rfl
  mid_eq := mid_safeView
  sent_eq := intentToSend_safeIntent
  fresh := rfl

/-- A thousandth of a coin is scored, a tenth is trained on. -/
theorem safeBuy_differs :
    ∃ times' emitted, (safeBuy times' emitted).trained ≠ some (safeBuy times' emitted).scored := by
  obtain ⟨times', hrun⟩ := MicroSpread.getIntents_of_firstIntents_ne (c := safeStrategy)
    (v := safeView) (List.ne_nil_of_mem safeIntent_mem)
  refine ⟨times', hrun, fun hsame => ?_⟩
  rw [StoredBuy.trained_eq, Option.some.injEq, eq_comm,
    StoredBuy.scored_eq_rowToFeatures_iff] at hsame
  have hsize := hsame "order_size_base" (by decide)
  rw [StoredBuy.sameFeature_orderSizeBase] at hsize
  have hqty : (1 / 1000 : ℚ) = 20 / 201 := hsize
  norm_num at hqty

/-- Its rows agree in what the order took over. -/
theorem safeBuy_agrees : ∃ times' emitted trained,
    (safeBuy times' emitted).trained = some trained ∧
      (safeBuy times' emitted).AgreesButSizes trained := by
  obtain ⟨times', hrun⟩ := MicroSpread.getIntents_of_firstIntents_ne (c := safeStrategy)
    (v := safeView) (List.ne_nil_of_mem safeIntent_mem)
  exact ⟨times', hrun, StoredBuy.agreesButSizes (safeBuy times' hrun)⟩

end Botik
