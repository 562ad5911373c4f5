import Mathlib.Algebra.Order.Archimedean.Basic
import Mathlib.Tactic.FieldSimp
import Mathlib.Tactic.Ring
import Botik.Main.TradingLoopFacts

/-!
# The leveraged exposure of an iteration

The risk manager counts a new order with its leverage, the trading loop adds up the earlier ones
without. So the caps hold for the leveraged sum only where the leverage is one, or where nothing is
admitted anyway.

## Main definitions

* `exposureNotional`, `exposureNotionalOf` — the notional of open orders and accepted intents
* `WithinCaps` — both caps hold for the leveraged notional
* `LeveragedCap` — they hold after every iteration that begins within them

## Main results

* `leveragedCap_iff` — the configurations for which they do
-/

namespace Botik

open Program

/-! ### Notionals -/

/-- The notional of an open order. -/
def OpenOrder.notional (order : OpenOrder) : ℚ := readFloat order.price * readFloat order.qty

def OrderIntent.notional (intent : OrderIntent) : ℚ := intent.price * intent.qty

/-- The notional of the open orders and the accepted intents. -/
def exposureNotional (orders : List OpenOrder) (accepted : List OrderIntent) : ℚ :=
  (orders.map OpenOrder.notional).sum + (accepted.map OrderIntent.notional).sum

/-- The part of one symbol. -/
def exposureNotionalOf (orders : List OpenOrder) (accepted : List OrderIntent) (symbol : String) : ℚ :=
  ((orders.filter fun order => Text.orEmpty order.symbol = symbol).map OpenOrder.notional).sum +
    ((accepted.filter fun intent => intent.symbol = symbol).map OrderIntent.notional).sum

/-- The exposures count these orders. -/
structure Counted (orders : List OpenOrder) (vars : LoopVars) : Prop where
  total : vars.totalExposure = exposureNotional orders vars.accepted
  symbol : ∀ symbol, vars.symbolExposure symbol = exposureNotionalOf orders vars.accepted symbol

/-- Both caps hold for the leveraged notional. -/
structure WithinCaps (c : Config) (orders : List OpenOrder) (accepted : List OrderIntent) :
    Prop where
  total : exposureNotional orders accepted * c.riskLeverage ≤ c.riskManager.maxTotalExposureUsdt
  symbol : ∀ symbol, exposureNotionalOf orders accepted symbol * c.riskLeverage ≤
    c.riskManager.maxSymbolExposureUsdt

/-- The intents an iteration accepts. -/
def acceptedIntents (x : Context) (env : LoopEnv) (w : World) : List OrderIntent :=
  (after (loopBody x env) ⟨w, .initial⟩).vars.accepted

/-- Every iteration over open orders within the caps stays within them. The exchange lists no
negative prices and quantities. -/
def LeveragedCap (x : Context) : Prop :=
  ∀ env w orders, env.openOrders = .ok orders → (∀ order ∈ orders.list, 0 ≤ order.notional) →
    WithinCaps x.config orders.list [] →
      WithinCaps x.config orders.list (acceptedIntents x env w)

section Counting

variable {orders : List OpenOrder} {vars vars' : LoopVars} {intent : OrderIntent}

theorem Counted.congr (h : vars'.counts = vars.counts) (hcounted : Counted orders vars) :
    Counted orders vars' := by
  obtain ⟨htotal, hrest⟩ := Prod.mk.inj h
  obtain ⟨hsymbol, haccepted⟩ := Prod.mk.inj hrest
  refine ⟨?_, fun symbol => ?_⟩
  · rw [htotal, haccepted]
    exact hcounted.total
  · rw [hsymbol, haccepted]
    exact hcounted.symbol symbol

theorem exposureNotional_append (accepted : List OrderIntent) :
    exposureNotional orders (accepted ++ [intent]) =
      exposureNotional orders accepted + intent.price * intent.qty := by
  unfold exposureNotional
  simp only [List.map_append, List.sum_append, List.map_cons, List.map_nil, List.sum_cons,
    List.sum_nil, add_zero, OrderIntent.notional, add_assoc]

theorem exposureNotionalOf_append (accepted : List OrderIntent) (symbol : String) :
    exposureNotionalOf orders (accepted ++ [intent]) symbol =
      exposureNotionalOf orders accepted symbol +
        if intent.symbol = symbol then intent.price * intent.qty else 0 := by
  unfold exposureNotionalOf
  rw [List.filter_append]
  by_cases h : intent.symbol = symbol
  · simp [h, OrderIntent.notional, add_assoc]
  · simp [h]

theorem Counted.addAccepted (h : Counted orders vars) : Counted orders (vars.addAccepted intent) := by
  constructor
  · change vars.totalExposure + intent.price * intent.qty =
      exposureNotional orders (vars.accepted ++ [intent])
    rw [exposureNotional_append, h.total]
  · intro symbol
    change Function.update vars.symbolExposure intent.symbol
      (vars.symbolExposure intent.symbol + intent.price * intent.qty) symbol =
        exposureNotionalOf orders (vars.accepted ++ [intent]) symbol
    rw [exposureNotionalOf_append]
    by_cases hsymbol : intent.symbol = symbol
    · subst hsymbol
      rw [Function.update_self, if_pos rfl, h.symbol]
    · rw [Function.update_of_ne (Ne.symm hsymbol), if_neg hsymbol, add_zero, h.symbol]

/-- A number that is read is the number of the text. -/
theorem readFloat_of_floatField {name : String} {field : Option String} {q : ℚ}
    (h : floatField name field = .ok q) : readFloat field = q := by
  unfold floatField at h
  cases field with
  | none =>
    cases h
    rfl
  | some text =>
    by_cases hempty : text = ""
    · subst hempty
      cases h
      decide +kernel
    · have htruthy : Text.truthy (some text) = some text := by simp [Text.truthy, hempty]
      rw [htruthy] at h
      unfold readFloat
      rw [Option.bind_some]
      cases hfloat : Text.float? text with
      | none =>
        simp only [hfloat] at h
        cases h
      | some value =>
        simp only [hfloat] at h
        cases h
        rfl

theorem counts_sortOrder (symbol link : String) (order : OpenOrder) :
    (vars.sortOrder symbol link order).counts = vars.counts := by
  unfold LoopVars.sortOrder
  split_ifs <;> rfl

/-- One more open order is counted. -/
theorem counted_addOpenOrder {order : OpenOrder} (h : Counted orders vars)
    (hnone : vars.accepted = []) (hadd : vars.addOpenOrder order = .ok vars') :
    Counted (orders ++ [order]) vars' ∧ vars'.accepted = [] := by
  obtain ⟨price, qty, hprice, hqty, rfl⟩ := addOpenOrder_eq_ok hadd
  have hnotional : order.notional = price * qty := by
    unfold OpenOrder.notional
    rw [readFloat_of_floatField hprice, readFloat_of_floatField hqty]
  let added := vars.addExposure (Text.orEmpty order.symbol) (price * qty)
  have hsorted : (added.sortOrder (Text.orEmpty order.symbol)
      (Text.orEmpty order.orderLinkId) order).counts = added.counts := counts_sortOrder _ _ _
  have hadded : Counted (orders ++ [order]) added := by
    constructor
    · change vars.totalExposure + price * qty = exposureNotional (orders ++ [order]) vars.accepted
      rw [h.total, hnone]
      simp [exposureNotional, hnotional]
    · intro symbol
      change Function.update vars.symbolExposure (Text.orEmpty order.symbol)
        (vars.symbolExposure (Text.orEmpty order.symbol) + price * qty) symbol =
          exposureNotionalOf (orders ++ [order]) vars.accepted symbol
      have hsymbol := h.symbol symbol
      rw [hnone] at hsymbol ⊢
      by_cases heq : Text.orEmpty order.symbol = symbol
      · subst heq
        rw [Function.update_self, hsymbol]
        simp [exposureNotionalOf, hnotional]
      · rw [Function.update_of_ne (Ne.symm heq), hsymbol]
        simp [exposureNotionalOf, heq]
  exact ⟨hadded.congr hsorted, (congrArg (fun counts => counts.2.2) hsorted).trans hnone⟩

end Counting

/-! ### An iteration -/

section Iteration

variable {x : Context} {env : LoopEnv} {w : World} {orders : OpenOrdersReply}

/-- Reading the open orders counts them. -/
theorem counted_readOpenOrders {listed rest : List OpenOrder} {s s' : LoopState}
    (h : Counted listed s.vars) (hnone : s.vars.accepted = [])
    (hread : readOpenOrders rest s = .ok () s') :
    Counted (listed ++ rest) s'.vars ∧ s'.vars.accepted = [] := by
  unfold readOpenOrders at hread
  induction rest generalizing listed s with
  | nil =>
    cases hread
    rw [List.append_nil]
    exact ⟨h, hnone⟩
  | cons order rest ih =>
    rw [each_cons] at hread
    obtain ⟨⟨⟩, s₁, hfirst, hread⟩ := bind_eq_ok hread
    obtain ⟨vars, hadd, rfl⟩ := countOpenOrder_eq_ok hfirst
    obtain ⟨hcounted, hstill⟩ := counted_addOpenOrder h hnone hadd
    have hall := ih hcounted hstill hread
    rwa [List.append_assoc] at hall

/-- While the state is brought up to date, nothing is accepted. -/
theorem keeps_accepted_takeStock (listed : List OpenOrder) :
    Keeps (fun s : LoopState => s.vars.accepted) (takeStock x env listed) := by
  have hread : ∀ order, Keeps (fun s : LoopState => s.vars.accepted) (countOpenOrder order) := by
    intro order s
    unfold countOpenOrder
    rw [after_get_bind]
    cases hadd : s.vars.addOpenOrder order with
    | error e => rfl
    | ok vars =>
      change vars.accepted = s.vars.accepted
      obtain ⟨price, qty, -, -, rfl⟩ := addOpenOrder_eq_ok hadd
      exact congrArg (fun counts => counts.2.2) (counts_sortOrder _ _ _)
  unfold takeStock
  refine moves_bind (moves_modify fun _ => rfl) fun _ => ?_
  refine moves_bind (keeps_vars_onWorld LoopVars.accepted) fun _ => ?_
  refine moves_bind (keeps_vars_onWorld LoopVars.accepted) fun _ => ?_
  exact moves_each hread listed

/-- After the open orders are read, they are counted. -/
theorem counted_takeStock {listed : List OpenOrder} {s : LoopState}
    (h : takeStock x env listed ⟨w, .initial⟩ = .ok () s) :
    Counted listed s.vars ∧ s.vars.accepted = [] := by
  unfold takeStock at h
  obtain ⟨⟨⟩, s₁, hsymbols, h⟩ := bind_eq_ok h
  cases hsymbols
  obtain ⟨⟨⟩, s₂, hrefresh, h⟩ := bind_eq_ok h
  obtain ⟨w₂, -, rfl⟩ := onWorld_eq_ok hrefresh
  obtain ⟨⟨⟩, s₃, hwallet, h⟩ := bind_eq_ok h
  obtain ⟨w₃, -, rfl⟩ := onWorld_eq_ok hwallet
  have hinitial : Counted [] { LoopVars.initial with openOrderSymbols := openOrderSymbols listed } :=
    ⟨(add_zero 0).symm, fun _ => (add_zero 0).symm⟩
  exact counted_readOpenOrders hinitial rfl h

/-- An iteration accepts nothing, or it ends with a property that holds once the open orders are
counted and that every admitted intent preserves. -/
theorem accepted_eq_nil_or {P : LoopVars → Prop} (horders : env.openOrders = .ok orders)
    (hcounts : ∀ vars vars', vars'.counts = vars.counts → P vars → P vars')
    (hbegin : ∀ vars, Counted orders.list vars → vars.accepted = [] → P vars)
    (hallows : ∀ vars intent rt, P vars → (checkIntent x.config rt vars intent).allowed = true →
      P (vars.addAccepted intent)) :
    acceptedIntents x env w = [] ∨ P (after (loopBody x env) ⟨w, .initial⟩).vars := by
  unfold acceptedIntents loopBody
  rw [horders]
  simp only [Except.mapError, fromExcept_ok, pure_bind]
  split_ifs with hstop hok
  · exact Or.inl rfl
  · cases hstock : takeStock x env orders.list ⟨w, .initial⟩ with
    | error e s =>
      left
      rw [after_bind_of_error hstock]
      have hkept : SameAs (fun s : LoopState => s.vars.accepted) ⟨w, .initial⟩
          (after (takeStock x env orders.list) ⟨w, .initial⟩) :=
        keeps_accepted_takeStock orders.list _
      rw [after_of_error hstock] at hkept
      exact hkept
    | ok _ s =>
      right
      rw [after_bind_of_ok hstock]
      obtain ⟨hcounted, hnone⟩ := counted_takeStock hstock
      exact preserves_sendOrders hcounts hallows env s (hbegin s.vars hcounted hnone)
  · exact Or.inl rfl

end Iteration

/-! ### Where the caps hold -/

section Holds

variable {x : Context}

/-- The leverage the risk manager counts with. -/
theorem effectiveLeverage_riskLeverage (c : Config) :
    effectiveLeverage (some c.riskLeverage) = c.riskLeverage := by
  have hone : 1 ≤ c.riskLeverage := by
    unfold Config.riskLeverage
    cases c.marketCategory with
    | spot => exact le_refl 1
    | linear => exact one_le_effectiveLeverage _
  exact max_eq_left hone

theorem checkIntent_allowed_iff {c : Config} {rt : Runtime} {vars : LoopVars}
    {intent : OrderIntent} : (checkIntent c rt vars intent).allowed = true ↔
      0 < intent.notional * c.riskLeverage ∧
        (rt.orderTimestamps.length : ℤ) < c.maxOrdersPerMinute ∧
        (0 < c.maxOpenPositions →
          (currentOpenPosCount c rt vars intent.symbol : ℤ) < c.maxOpenPositions) ∧
        vars.totalExposure + intent.notional * c.riskLeverage ≤
          c.riskManager.maxTotalExposureUsdt ∧
        vars.symbolExposure intent.symbol + intent.notional * c.riskLeverage ≤
          c.riskManager.maxSymbolExposureUsdt := by
  unfold checkIntent
  rw [RiskManager.checkOrder_allowed_iff, effectiveLeverage_riskLeverage]
  exact Iff.rfl

/-- Without leverage the loop counts what the risk manager counts. -/
theorem leveragedCap_of_one (hone : x.config.riskLeverage = 1) : LeveragedCap x := by
  intro env w orders horders hnonneg hopen
  have hcases := accepted_eq_nil_or (x := x) (w := w)
    (P := fun vars => Counted orders.list vars ∧ WithinCaps x.config orders.list vars.accepted)
    horders
    (fun vars vars' h hP => ⟨hP.1.congr h, by
      rw [show vars'.accepted = vars.accepted from congrArg (fun counts => counts.2.2) h]
      exact hP.2⟩)
    (fun vars hcounted hnone => ⟨hcounted, by rw [hnone]; exact hopen⟩)
    (fun vars intent rt hP hallowed => ?_)
  · rcases hcases with hnone | ⟨-, hwithin⟩
    · rw [hnone]
      exact hopen
    · exact hwithin
  · obtain ⟨hcounted, hwithin⟩ := hP
    obtain ⟨-, -, -, htotal, hsymbol⟩ := checkIntent_allowed_iff.mp hallowed
    rw [hone, mul_one] at htotal hsymbol
    refine ⟨hcounted.addAccepted, ?_, fun symbol => ?_⟩
    · change exposureNotional orders.list (vars.accepted ++ [intent]) * _ ≤ _
      rw [exposureNotional_append, hone, mul_one, ← hcounted.total]
      exact htotal
    · change exposureNotionalOf orders.list (vars.accepted ++ [intent]) symbol * _ ≤ _
      rw [exposureNotionalOf_append, hone, mul_one]
      have hbefore := hwithin.symbol symbol
      rw [hone, mul_one] at hbefore
      split_ifs with heq
      · subst heq
        rw [← hcounted.symbol]
        exact hsymbol
      · rwa [add_zero]

/-- Where nothing can be admitted, the sum is that of the open orders. -/
theorem leveragedCap_of_none_admitted (h : x.config.riskManager.maxTotalExposureUsdt ≤ 0 ∨
    x.config.riskManager.maxSymbolExposureUsdt ≤ 0 ∨ x.config.maxOrdersPerMinute ≤ 0) :
    LeveragedCap x := by
  intro env w orders horders hnonneg hopen
  have hcases := accepted_eq_nil_or (x := x) (w := w)
    (P := fun vars => Counted orders.list vars ∧ vars.accepted = [])
    horders
    (fun vars vars' h hP => ⟨hP.1.congr h, (congrArg (fun counts => counts.2.2) h).trans hP.2⟩)
    (fun vars hcounted hnone => ⟨hcounted, hnone⟩)
    (fun vars intent rt hP hallowed => ?_)
  · have hnone : acceptedIntents x env w = [] := hcases.elim id fun hP => hP.2
    rw [hnone]
    exact hopen
  · exfalso
    obtain ⟨hcounted, hnone⟩ := hP
    obtain ⟨hpositive, horders, -, htotal, hsymbol⟩ := checkIntent_allowed_iff.mp hallowed
    have hsum : ∀ listed : List OpenOrder, (∀ order ∈ listed, 0 ≤ order.notional) →
        0 ≤ (listed.map OpenOrder.notional).sum := by
      intro listed hlisted
      apply List.sum_nonneg
      intro q hq
      obtain ⟨order, hmem, rfl⟩ := List.mem_map.mp hq
      exact hlisted order hmem
    have htotal₀ : 0 ≤ vars.totalExposure := by
      rw [hcounted.total, hnone]
      simpa [exposureNotional] using hsum orders.list hnonneg
    have hsymbol₀ : 0 ≤ vars.symbolExposure intent.symbol := by
      rw [hcounted.symbol, hnone]
      simpa [exposureNotionalOf] using hsum _ fun order hmem =>
        hnonneg order (List.mem_filter.mp hmem).1
    rcases h with h | h | h
    · linarith
    · linarith
    · omega

end Holds

/-! ### Where they fail -/

section Text

open Text

/-- The text of a small number. -/
def smallText (k : ℕ) : String := String.ofList ('0' :: '.' :: (List.replicate k '0' ++ ['1']))

/-- A text without blanks is stripped already. -/
theorem strip_of_forall {cs : List Char} (h : ∀ c ∈ cs, isSpace c = false) :
    strip (String.ofList cs) = String.ofList cs := by
  have hkept : ∀ ds : List Char, (∀ c ∈ ds, isSpace c = false) →
      ds.dropWhile isSpace = ds := by
    intro ds hds
    cases ds with
    | nil => rfl
    | cons d ds => exact List.dropWhile_cons_of_neg (by simp [hds d List.mem_cons_self])
  unfold strip
  rw [String.toList_ofList, hkept cs h,
    hkept cs.reverse fun c hc => h c (List.mem_reverse.mp hc), List.reverse_reverse]

theorem digits_zeros (k : ℕ) : digits (List.replicate k '0' ++ ['1']) = 1 := by
  have hzeros : ∀ n, (List.replicate n '0').foldl
      (fun m (c : Char) => 10 * m + (c.toNat - '0'.toNat)) 0 = 0 := by
    intro n
    induction n with
    | zero => rfl
    | succ n ih => exact ih
  unfold digits
  rw [List.foldl_append, hzeros]
  rfl

theorem float?_smallText (k : ℕ) : float? (smallText k) = some ((1 / 10) ^ (k + 1)) := by
  have hchars : ∀ c ∈ '0' :: '.' :: (List.replicate k '0' ++ ['1']), c ∈ ['0', '.', '1'] := by
    intro c hc
    simp only [List.mem_cons, List.mem_append, List.mem_replicate, List.not_mem_nil, or_false] at hc ⊢
    tauto
  have hblank : ∀ c ∈ '0' :: '.' :: (List.replicate k '0' ++ ['1']), isSpace c = false := by
    intro c hc
    have hmem := hchars c hc
    simp only [List.mem_cons, List.not_mem_nil, or_false] at hmem
    rcases hmem with rfl | rfl | rfl <;> rfl
  have hmantissa : ('0' :: '.' :: (List.replicate k '0' ++ ['1'])).span
      (fun c => decide (c ≠ 'e' ∧ c ≠ 'E')) =
        ('0' :: '.' :: (List.replicate k '0' ++ ['1']), []) := by
    have hall : ∀ c ∈ '0' :: '.' :: (List.replicate k '0' ++ ['1']),
        decide (c ≠ 'e' ∧ c ≠ 'E') = true := by
      intro c hc
      have hmem := hchars c hc
      simp only [List.mem_cons, List.not_mem_nil, or_false] at hmem
      rcases hmem with rfl | rfl | rfl <;> rfl
    rw [List.span_eq_takeWhile_dropWhile, List.takeWhile_eq_self_iff.mpr hall,
      List.dropWhile_eq_nil_iff.mpr hall]
  have hdigits : digits? ('0' :: (List.replicate k '0' ++ ['1'])) = some 1 := by
    unfold digits?
    rw [if_pos]
    · exact congrArg some (digits_zeros (k + 1))
    · refine ⟨List.cons_ne_nil _ _, List.all_eq_true.mpr fun c hc => ?_⟩
      simp only [List.mem_cons, List.mem_append, List.mem_replicate, List.not_mem_nil,
        or_false] at hc
      rcases hc with rfl | ⟨-, rfl⟩ | rfl <;> rfl
  have hsplit : ('0' :: '.' :: (List.replicate k '0' ++ ['1'])).span (fun c => decide (c ≠ '.')) =
      (['0'], '.' :: (List.replicate k '0' ++ ['1'])) := by
    rw [List.span_eq_takeWhile_dropWhile]
    rfl
  have hsign : splitSign ('0' :: '.' :: (List.replicate k '0' ++ ['1'])) =
      (false, '0' :: '.' :: (List.replicate k '0' ++ ['1'])) := rfl
  unfold float? smallText
  rw [strip_of_forall hblank, String.toList_ofList, hsign]
  simp only [hmantissa, hsplit, List.drop_succ_cons, List.drop_zero, List.cons_append,
    List.nil_append, hdigits, exponent?]
  -- the number is the digit one behind `k` zeros
  have hlength : (List.replicate k '0' ++ ['1']).length = k + 1 := by simp
  rw [hlength]
  have hpower : (10 : ℚ) ^ ((0 : ℤ) - ((k + 1 : ℕ) : ℤ)) = (1 / 10) ^ (k + 1) := by
    rw [zero_sub, zpow_neg, zpow_natCast, one_div, inv_pow]
  simp only [hpower, Nat.cast_one, one_mul, Bool.false_eq_true, if_false]

end Text

section Fails

/-- A small open order of BTCUSDT. -/
def smallOrder (k : ℕ) : OpenOrder where
  symbol := some "BTCUSDT"
  side := some "Buy"
  price := some "1"
  qty := some (smallText k)
  orderLinkId := none

/-- A resting buy of BTCUSDT at one. -/
def plainIntent (qty : ℚ) : OrderIntent where
  symbol := "BTCUSDT"
  side := "Buy"
  price := 1
  qty := qty
  orderLinkId := "mm-1"
  profileId := none
  actionEntryTickOffset := some 1
  actionTargetProfit := none
  actionSafetyBuffer := none
  actionStopLossPct := some (1 / 100)
  actionTakeProfitPct := some (1 / 100)
  actionHoldTimeoutSec := none
  actionMakerOnly := some true

/-- A fresh book, a filter that passes and an exchange that accepts. -/
def plainIntentEnv : IntentEnv where
  faults := fun _ => none
  clock := 0
  sentClock := 0
  wallMs := 0
  utc := 0
  book := some { bestBid := 1, bestAsk := 2, mid := 3 / 2 }
  bookUpdateMs := some 0
  tickSize := some 1
  pairFilter := some ⟨some "PASS", false⟩
  pairDecision := ⟨"PASS", 0⟩
  answer := .ok { retCode := some 0, retMsg := none, orderId := some "1" }

/-- An iteration over one open order and one intent. -/
def plainEnv (order : OpenOrder) (qty : ℚ) : LoopEnv where
  reconciliation := none
  panic := none
  paused := false
  openOrders := .ok ⟨some 0, [order]⟩
  fetches := []
  wallet := none
  cancelAnswer := fun _ => .error ""
  arrange := id
  arrange_perm := fun _ => List.Perm.refl _
  exits := fun symbol =>
    { faults := fun _ => none, clock := 0, sentClock := 0, utc := 0, book := none,
      linkId := symbol, answer := .error "" }
  quotes := fun symbol =>
    { faults := fun _ => none, clock := 0, sentClock := 0, utc := 0, book := none,
      tickSize := none, linkId := symbol, cancelAnswer := fun _ => .error "", answer := .error "" }
  intents := .ok [⟨plainIntent qty, plainIntentEnv⟩]

/-- A fresh process without symbols, whose exits are all held back. -/
def quietWorld (c : Config) : World :=
  { World.initial c with rt := { Runtime.initial c with
      tracked := []
      dustExitSuppressedUntil := fun _ => 1
      lastForceExitTs := fun _ => 1 - c.forceExitCooldownSec } }

variable {x : Context} {order : OpenOrder} {qty : ℚ}

/-- The intent is sent at its own price. -/
theorem intentToSend_plainIntent (c : Config) (qty : ℚ) :
    intentToSend c plainIntentEnv (plainIntent qty) = some (plainIntent qty) := by
  have htick : tickSizeOr c (some 1) = 1 := by
    change max (1 : ℚ) (1 / 10 ^ 12) = 1
    norm_num
  -- the book is read at the time of the intent
  have hage : ¬ c.quoteMaxBookAgeMs < 0 - 0 := by
    have hpos : 100 ≤ c.quoteMaxBookAgeMs := le_max_right _ _
    omega
  have hprepared : prepareIntentForSend c plainIntentEnv (plainIntent qty) true =
      some (plainIntent qty) := by
    unfold prepareIntentForSend
    split_ifs with hfast
    -- repriced, it stays at its own price
    · have htarget : targetPrice { bestBid := 1, bestAsk := 2, mid := 3 / 2 } 1 true true = 1 := by
        decide +kernel
      have hsnap : snap 1 1 = 1 := by decide +kernel
      have hentry : entryTick c plainIntentEnv (plainIntent qty) = 1 := by
        change tickSizeOr c (some 1) * ((max (1 : ℤ) 0 : ℤ) : ℚ) = 1
        rw [htick]
        norm_num
      have hbook : plainIntentEnv.book.filter OrderBookAggregate.isUsable =
          some { bestBid := 1, bestAsk := 2, mid := 3 / 2 } := by decide +kernel
      have hbuy : decide (Text.upper (plainIntent qty).side = "BUY") = true := by
        change decide (Text.upper "Buy" = "BUY") = true
        decide +kernel
      rw [hbook, hentry, hbuy]
      change (if c.quoteMaxBookAgeMs < 0 - 0 then none else _) = _
      rw [if_neg hage]
      have hprice : snap (tickSizeOr c plainIntentEnv.tickSize)
          (targetPrice { bestBid := 1, bestAsk := 2, mid := 3 / 2 } 1 true true) = 1 := by
        change snap (tickSizeOr c (some 1)) _ = 1
        rw [htarget, htick, hsnap]
      rw [hprice]
      exact if_neg (by norm_num)
    · rfl
  unfold intentToSend
  rw [show isMakerOnly c (plainIntent qty) = true from rfl, hprepared]
  rfl

/-- Without rows and without earlier orders, the intent is accepted if the risk manager admits it. -/
theorem submitIntent_plainIntent {vars : LoopVars} {w : World}
    (hlinear : x.config.marketCategory = .linear) (hissues : w.core = .empty)
    (hrows : w.futures = .empty) (hfree : w.rt.orderTimestamps = [])
    (hallowed : (checkIntent x.config w.rt vars (plainIntent qty)).allowed = true) :
    ∃ reply w', submitIntent x plainIntentEnv vars (plainIntent qty) w =
      .ok (.accepted (plainIntent qty) reply) w' := by
  -- nothing is locked, held or at risk
  have hlocks : ∀ w' : World, w'.core = .empty →
      lockBlocks x plainIntentEnv (plainIntent qty) w' = .ok false w' := by
    intro w' hcore
    have hreason : getReconciliationEntryBlockReason .empty (plainIntent qty).symbol = none := by
      change getReconciliationEntryBlockReason .empty "BTCUSDT" = none
      decide +kernel
    unfold lockBlocks
    rw [bind_of_ok (read_run_of_none rfl w'), hcore, hreason]
    rfl
  have hheld : holdPolicyBlocks x plainIntentEnv (plainIntent qty) = return false := by
    unfold holdPolicyBlocks
    rw [if_neg]
    rintro ⟨hspot, -⟩
    rw [hlinear] at hspot
    cases hspot
  have hrejected : ∀ w' : World, w'.futures = .empty →
      futuresRejection x plainIntentEnv (plainIntent qty) w' = .ok none w' := by
    intro w' hfutures
    have hgate : linearEntryRejection .empty "BTCUSDT" (usablePrice (some (3 / 2))) (1 / 100)
        (1 / 100) = none := by decide +kernel
    unfold futuresRejection
    rw [hlinear]
    change read plainIntentEnv.faults (.intent .entryGate) (fun w => linearEntryRejection w.futures
      "BTCUSDT" (usablePrice (some (3 / 2))) (1 / 100) (1 / 100)) w' = _
    rw [read_run_of_none rfl]
    rw [hfutures, hgate]
  have hguard : guardRefusal x.config plainIntentEnv (plainIntent qty) "PostOnly" = none := by
    have htaken : postOnlyWouldTake { bestBid := 1, bestAsk := 2, mid := 3 / 2 } (plainIntent qty)
        "PostOnly" = false := by
      unfold postOnlyWouldTake
      norm_num [plainIntent]
      decide
    have hbook : bookRefusal plainIntentEnv (plainIntent qty) "PostOnly" = none := by
      unfold bookRefusal
      norm_num [plainIntentEnv, htaken]
    unfold guardRefusal
    rw [hbook]
    have hstatus : Text.upper "PASS" = "PASS" := by decide +kernel
    simp [plainIntentEnv, Text.orEmpty, hstatus]
  -- the signal is recorded, the gates are passed and the order is sent
  obtain ⟨w₀, hrecord, hcore, hfutures, hrt⟩ :
      ∃ w₀, recordSignal plainIntentEnv (plainIntent qty) w = .ok () w₀ ∧
        w₀.core = w.core ∧ w₀.futures = w.futures ∧ w₀.rt = w.rt := ⟨_, rfl, rfl, rfl, rfl⟩
  have hchecked : ∀ w' : World, w'.rt = w.rt →
      ∃ w'', checkRisk x plainIntentEnv vars (plainIntent qty) w' = .ok true w'' := by
    intro w' hrt
    have hkept : lastMinute plainIntentEnv.clock w'.rt.orderTimestamps =
        w'.rt.orderTimestamps := by
      rw [hrt, hfree]
      rfl
    refine ⟨w', ?_⟩
    change EStateM.Result.ok (checkIntent x.config { w'.rt with
      orderTimestamps := lastMinute plainIntentEnv.clock w'.rt.orderTimestamps } vars
        (plainIntent qty)).allowed { w' with rt := { w'.rt with
          orderTimestamps := lastMinute plainIntentEnv.clock w'.rt.orderTimestamps } } = _
    rw [hkept]
    change EStateM.Result.ok (checkIntent x.config w'.rt vars (plainIntent qty)).allowed w' = _
    rw [hrt, hallowed]
  obtain ⟨w₁, hrisk⟩ := hchecked w₀ hrt
  unfold submitIntent
  rw [intentToSend_plainIntent]
  dsimp only
  rw [bind_of_ok hrecord]
  unfold gateIntent
  rw [bind_of_ok (hlocks w₀ (hcore.trans hissues)), if_neg Bool.false_ne_true, hheld, pure_bind,
    if_neg Bool.false_ne_true, bind_of_ok (hrejected w₀ (hfutures.trans hrows))]
  dsimp only
  rw [bind_of_ok hrisk, if_pos rfl]
  unfold placeIntent guardedPlaceOrder
  rw [show entryTimeInForce x.config (plainIntent qty) = "PostOnly" from rfl, hguard]
  exact ⟨_, _, rfl⟩

/-- The intent is counted. -/
theorem processIntent_plainIntent {s : LoopState} (hlinear : x.config.marketCategory = .linear)
    (hrunning : s.world.rt.stopped = false) (hunblocked : s.vars.blockedSymbols = [])
    (hissues : s.world.core = .empty) (hrows : s.world.futures = .empty)
    (hfree : s.world.rt.orderTimestamps = [])
    (hallowed : (checkIntent x.config s.world.rt s.vars (plainIntent qty)).allowed = true) :
    (after (processIntent x ⟨plainIntent qty, plainIntentEnv⟩) s).vars =
      s.vars.addAccepted (plainIntent qty) := by
  obtain ⟨reply, w', hsubmit⟩ := submitIntent_plainIntent hlinear hissues hrows hfree hallowed
  unfold processIntent
  rw [after_get_bind, hrunning, if_neg Bool.false_ne_true, if_neg (by rw [hunblocked]; simp),
    after_bind_of_ok (onWorld_of_ok hsubmit)]
  dsimp only
  rw [after_modify_bind]
  exact keeps_vars_onWorld (m := recordEntry x plainIntentEnv (plainIntent qty) reply) id
    (countAccepted plainIntentEnv (plainIntent qty) { s with world := w' })

/-- Exits that are held back do nothing. -/
theorem exitSymbol_quietWorld (symbol : String) (vars : LoopVars) :
    exitSymbol x (plainEnv order qty) symbol ⟨quietWorld x.config, vars⟩ =
      .ok () ⟨quietWorld x.config, vars⟩ := by
  have hheld : maybeForceExit x ((plainEnv order qty).exits symbol) symbol (quietWorld x.config) =
      .ok false (quietWorld x.config) := by
    unfold maybeForceExit
    rw [bind_of_ok (get_run _)]
    split_ifs with hnone hsuppressed
    · rfl
    · rfl
    · exact absurd (zero_lt_one' ℚ) hsuppressed
  unfold exitSymbol
  rw [bind_of_ok (onWorld_of_ok hheld)]
  rfl

/-- Exit quotes that are held back do nothing. -/
theorem quoteSymbol_quietWorld (symbol : String) (vars : LoopVars) :
    quoteSymbol x (plainEnv order qty) symbol ⟨quietWorld x.config, vars⟩ =
      .ok () ⟨quietWorld x.config, vars⟩ := by
  have hheld : ∀ openQuotes, maybePlacePositionExitQuote x ((plainEnv order qty).quotes symbol)
      symbol openQuotes (quietWorld x.config) = .ok () (quietWorld x.config) := by
    intro openQuotes
    have hcooling : 0 - (1 - x.config.forceExitCooldownSec) < x.config.forceExitCooldownSec := by
      linarith
    unfold maybePlacePositionExitQuote
    rw [bind_of_ok (get_run _)]
    split_ifs with hnone hcooldown
    · rfl
    · rfl
    · exact absurd hcooling hcooldown
  unfold quoteSymbol
  rw [bind_of_ok (get_run _)]
  exact onWorld_of_ok (hheld _)

theorem price_smallOrder (k : ℕ) : floatField "price" (smallOrder k).price = .ok 1 := by
  change floatField "price" (some "1") = .ok 1
  decide +kernel

theorem qty_smallOrder (k : ℕ) :
    floatField "qty" (smallOrder k).qty = .ok ((1 / 10) ^ (k + 1)) := by
  have hnonempty : smallText k ≠ "" := by
    intro hempty
    have hlist := congrArg String.toList hempty
    unfold smallText at hlist
    rw [String.toList_ofList] at hlist
    cases hlist
  have htruthy : Text.truthy (some (smallText k)) = some (smallText k) := by
    simp [Text.truthy, hnonempty]
  change floatField "qty" (some (smallText k)) = _
  unfold floatField
  rw [htruthy]
  dsimp only
  rw [float?_smallText]

theorem notional_smallOrder (k : ℕ) : (smallOrder k).notional = (1 / 10) ^ (k + 1) := by
  unfold OpenOrder.notional
  rw [readFloat_of_floatField (price_smallOrder k), readFloat_of_floatField (qty_smallOrder k),
    one_mul]

/-- The local variables with a small open order. -/
def smallVars (k : ℕ) : LoopVars :=
  { LoopVars.initial with openOrderSymbols := ["BTCUSDT"] }.addExposure "BTCUSDT"
    (1 * (1 / 10) ^ (k + 1))

/-- A small open order is counted. -/
theorem takeStock_smallOrder (k : ℕ) :
    takeStock x (plainEnv (smallOrder k) qty) [smallOrder k] ⟨quietWorld x.config, .initial⟩ =
      .ok () ⟨quietWorld x.config, smallVars k⟩ := by
  have hrefresh : refreshPositionsFromExecutions x [] (quietWorld x.config) =
      .ok () (quietWorld x.config) := by
    unfold refreshPositionsFromExecutions
    cases x.executor <;> rfl
  have hsymbols : openOrderSymbols [smallOrder k] = ["BTCUSDT"] := by
    change (([some "BTCUSDT"].map Text.orEmpty).filter (Text.strip · ≠ "")).map Text.upper = _
    decide +kernel
  have hadd : LoopVars.addOpenOrder
      { LoopVars.initial with openOrderSymbols := ["BTCUSDT"] } (smallOrder k) =
        .ok (smallVars k) := by
    unfold LoopVars.addOpenOrder
    rw [price_smallOrder, qty_smallOrder]
    rfl
  have hcount : countOpenOrder (smallOrder k) ⟨quietWorld x.config,
      { LoopVars.initial with openOrderSymbols := ["BTCUSDT"] }⟩ =
        .ok () ⟨quietWorld x.config, smallVars k⟩ := by
    unfold countOpenOrder
    rw [bind_of_ok (get_run _)]
    dsimp only
    rw [hadd]
    rfl
  unfold takeStock
  rw [hsymbols]
  have hfirst : modifyVars (fun vars => { vars with openOrderSymbols := ["BTCUSDT"] })
      ⟨quietWorld x.config, LoopVars.initial⟩ = .ok () ⟨quietWorld x.config,
        { LoopVars.initial with openOrderSymbols := ["BTCUSDT"] }⟩ := rfl
  rw [bind_of_ok hfirst, bind_of_ok (onWorld_of_ok hrefresh),
    bind_of_ok (onWorld_of_ok (modify_run _ _))]
  unfold readOpenOrders
  rw [each_cons]
  exact bind_of_ok hcount

/-- The small open order leaves room for the intent. -/
theorem acceptedIntents_plainEnv {k : ℕ} (hlinear : x.config.marketCategory = .linear)
    (hallowed : (checkIntent x.config (quietWorld x.config).rt (smallVars k)
      (plainIntent qty)).allowed = true) :
    acceptedIntents x (plainEnv (smallOrder k) qty) (quietWorld x.config) = [plainIntent qty] := by
  let start : LoopState := ⟨quietWorld x.config, smallVars k⟩
  have hexits : ∀ managed, forceExits x (plainEnv (smallOrder k) qty) managed start =
      .ok () start :=
    fun managed => each_of_forall_run fun symbol _ => exitSymbol_quietWorld symbol _
  have hquotes : ∀ managed, placeExitQuotes x (plainEnv (smallOrder k) qty) managed start =
      .ok () start :=
    fun managed => each_of_forall_run fun symbol _ => quoteSymbol_quietWorld symbol _
  have hcancel : cancelOurOrders (plainEnv (smallOrder k) qty) start = .ok () start := rfl
  have hvars : (after (processIntent x ⟨plainIntent qty, plainIntentEnv⟩) start).vars =
      (smallVars k).addAccepted (plainIntent qty) :=
    processIntent_plainIntent hlinear rfl rfl rfl rfl rfl hallowed
  have hintents : (after (processIntents x (plainEnv (smallOrder k) qty)) start).vars =
      (smallVars k).addAccepted (plainIntent qty) := by
    change (after (processIntent x ⟨plainIntent qty, plainIntentEnv⟩ >>= fun _ => pure ())
      start).vars = _
    rcases after_bind_cases (processIntent x ⟨plainIntent qty, plainIntentEnv⟩)
      (fun _ => pure ()) start with h | ⟨a, -, h⟩
    · rw [h, hvars]
    · rw [h, after_pure, hvars]
  have hbody : after (loopBody x (plainEnv (smallOrder k) qty)) ⟨quietWorld x.config, .initial⟩ =
      after (processIntents x (plainEnv (smallOrder k) qty)) start := by
    change after (takeStock x (plainEnv (smallOrder k) qty) [smallOrder k] >>= fun _ =>
      sendOrders x (plainEnv (smallOrder k) qty)) ⟨quietWorld x.config, .initial⟩ = _
    rw [after_bind_of_ok (takeStock_smallOrder k)]
    unfold sendOrders
    rw [after_bind_of_ok hcancel, after_get_bind]
    dsimp only
    rw [after_bind_of_ok (hexits _), after_bind_of_ok (hquotes _)]
  unfold acceptedIntents
  rw [hbody, hintents]
  rfl

end Fails

/-! ### The main result -/

section Main

variable {x : Context}

/-- With leverage, an intent that fills the smaller cap leaves too little for the leverage of the
orders before it. -/
theorem not_leveragedCap (hlinear : x.config.marketCategory = .linear)
    (hleverage : 1 < x.config.riskLeverage)
    (htotal : 0 < x.config.riskManager.maxTotalExposureUsdt)
    (hsymbol : 0 < x.config.riskManager.maxSymbolExposureUsdt)
    (horders : 0 < x.config.maxOrdersPerMinute) : ¬ LeveragedCap x := by
  intro hcap
  have hpos : 0 < x.config.riskLeverage := zero_lt_one.trans hleverage
  have hmin := lt_min htotal hsymbol
  -- the open order takes the notional `a`, the intent what the smaller cap leaves of it
  obtain ⟨k, hk⟩ := exists_pow_lt_of_lt_one (div_pos hmin hpos) (show (1 / 10 : ℚ) < 1 by norm_num)
  obtain ⟨a, ha⟩ : ∃ a : ℚ, a = (1 / 10) ^ (k + 1) := ⟨_, rfl⟩
  have hapos : 0 < a := by
    rw [ha]
    positivity
  have hsmall : a * x.config.riskLeverage < min x.config.riskManager.maxTotalExposureUsdt
      x.config.riskManager.maxSymbolExposureUsdt := by
    have hle : a ≤ (1 / 10) ^ k := by
      rw [ha]
      exact pow_le_pow_of_le_one (by norm_num) (by norm_num) (Nat.le_succ k)
    exact (lt_div_iff₀ hpos).mp (hle.trans_lt hk)
  have hroom : a < min x.config.riskManager.maxTotalExposureUsdt
      x.config.riskManager.maxSymbolExposureUsdt := by nlinarith
  obtain ⟨qty, hqty⟩ : ∃ qty : ℚ, qty * x.config.riskLeverage =
      min x.config.riskManager.maxTotalExposureUsdt x.config.riskManager.maxSymbolExposureUsdt - a :=
    ⟨_, div_mul_cancel₀ _ hpos.ne'⟩
  have hnotional : (plainIntent qty).notional * x.config.riskLeverage =
      min x.config.riskManager.maxTotalExposureUsdt
        x.config.riskManager.maxSymbolExposureUsdt - a := by
    rw [← hqty]
    change 1 * qty * _ = _
    rw [one_mul]
  have hcaps : min x.config.riskManager.maxTotalExposureUsdt
      x.config.riskManager.maxSymbolExposureUsdt ≤ x.config.riskManager.maxTotalExposureUsdt ∧
    min x.config.riskManager.maxTotalExposureUsdt
      x.config.riskManager.maxSymbolExposureUsdt ≤ x.config.riskManager.maxSymbolExposureUsdt :=
    ⟨min_le_left _ _, min_le_right _ _⟩
  have hcount : currentOpenPosCount x.config (quietWorld x.config).rt (smallVars k)
      (plainIntent qty).symbol = 0 := by rfl
  have hallowed : (checkIntent x.config (quietWorld x.config).rt (smallVars k)
      (plainIntent qty)).allowed = true := by
    have hsum : (smallVars k).totalExposure = a := by
      change 0 + 1 * (1 / 10) ^ (k + 1) = a
      rw [ha, zero_add, one_mul]
    have hsumOf : (smallVars k).symbolExposure (plainIntent qty).symbol = a := by
      change Function.update (fun _ => (0 : ℚ)) "BTCUSDT" (0 + 1 * (1 / 10) ^ (k + 1)) "BTCUSDT" = a
      rw [Function.update_self, ha, zero_add, one_mul]
    rw [checkIntent_allowed_iff, hcount, hsum, hsumOf, hnotional]
    refine ⟨sub_pos.mpr hroom, horders, fun hlimit => hlimit, ?_, ?_⟩
    · linarith only [hcaps.1]
    · linarith only [hcaps.2]
  have hlisted : ∀ order ∈ [smallOrder k], 0 ≤ order.notional := by
    intro order horder
    rw [List.mem_singleton.mp horder, notional_smallOrder, ← ha]
    exact hapos.le
  have hbefore : exposureNotional [smallOrder k] [] = a := by
    simp [exposureNotional, notional_smallOrder, ha]
  have hbeforeOf : exposureNotionalOf [smallOrder k] [] "BTCUSDT" = a := by
    have hkept : [smallOrder k].filter (fun order => Text.orEmpty order.symbol = "BTCUSDT") =
        [smallOrder k] := rfl
    unfold exposureNotionalOf
    rw [hkept]
    simp [notional_smallOrder, ha]
  have hopen : WithinCaps x.config [smallOrder k] [] := by
    constructor
    · rw [hbefore]
      linarith only [hsmall, hcaps.1]
    · intro symbol
      by_cases hsame : "BTCUSDT" = symbol
      · subst hsame
        rw [hbeforeOf]
        linarith only [hsmall, hcaps.2]
      · have hnone : exposureNotionalOf [smallOrder k] [] symbol = 0 := by
          have hdropped : [smallOrder k].filter (fun order => Text.orEmpty order.symbol = symbol) =
              [] := List.filter_eq_nil_iff.mpr fun order horder => by
            rw [List.mem_singleton.mp horder]
            exact fun heq => hsame (of_decide_eq_true heq)
          unfold exposureNotionalOf
          rw [hdropped]
          simp
        rw [hnone, zero_mul]
        exact hsymbol.le
  have hafter := hcap (plainEnv (smallOrder k) qty) (quietWorld x.config) ⟨some 0, [smallOrder k]⟩
    rfl hlisted hopen
  rw [acceptedIntents_plainEnv hlinear hallowed] at hafter
  -- together they exceed the smaller cap by what the leverage adds to `a`
  have hexcess : min x.config.riskManager.maxTotalExposureUsdt
      x.config.riskManager.maxSymbolExposureUsdt <
        (a + (plainIntent qty).notional) * x.config.riskLeverage := by
    rw [add_mul, hnotional]
    nlinarith
  have htotalAfter := hafter.total
  have hsymbolAfter := hafter.symbol "BTCUSDT"
  rw [show [plainIntent qty] = [] ++ [plainIntent qty] from rfl] at htotalAfter hsymbolAfter
  rw [exposureNotional_append, hbefore] at htotalAfter
  rw [exposureNotionalOf_append, hbeforeOf,
    if_pos (show (plainIntent qty).symbol = "BTCUSDT" from rfl)] at hsymbolAfter
  exact absurd (le_min htotalAfter hsymbolAfter) hexcess.not_ge

/-- The leveraged notional respects the caps exactly where the leverage is one, or where the risk
manager admits nothing. -/
theorem leveragedCap_iff (x : Context) (hlinear : x.config.marketCategory = .linear) :
    LeveragedCap x ↔ x.config.riskLeverage = 1 ∨
      x.config.riskManager.maxTotalExposureUsdt ≤ 0 ∨
      x.config.riskManager.maxSymbolExposureUsdt ≤ 0 ∨ x.config.maxOrdersPerMinute ≤ 0 := by
  constructor
  · intro hcap
    by_contra hnot
    push Not at hnot
    obtain ⟨hone, htotal, hsymbol, horders⟩ := hnot
    have hle : 1 ≤ x.config.riskLeverage := by
      rw [← effectiveLeverage_riskLeverage]
      exact one_le_effectiveLeverage _
    exact not_leveragedCap hlinear (lt_of_le_of_ne hle (Ne.symm hone)) htotal hsymbol horders hcap
  · rintro (hone | hnone)
    · exact leveragedCap_of_one hone
    · exact leveragedCap_of_none_admitted hnone

/-- The default leverage is one. -/
theorem default_leveragedCap : LeveragedCap ⟨Config.default ["BTCUSDT"] .linear, none⟩ :=
  (leveragedCap_iff ⟨Config.default ["BTCUSDT"] .linear, none⟩ rfl).mpr
    (Or.inl (show (Config.default ["BTCUSDT"] .linear).riskLeverage = 1 by decide +kernel))

/-- At leverage two, an open order of 10 and a new one of 45 have the leveraged notional 110; the
cap of a symbol is 100. -/
theorem doubled_exceeds_cap :
    ¬ LeveragedCap ⟨{ Config.default ["BTCUSDT"] .linear with defaultLeverage := some 2 },
      some (bybitRestClient (fun _ => none) fun _ => none)⟩ := by
  intro hcap
  let order : OpenOrder := ⟨some "BTCUSDT", some "Buy", some "1", some "10", none⟩
  let c : Config := { Config.default ["BTCUSDT"] .linear with defaultLeverage := some 2 }
  have hopen : WithinCaps c [order] [] := by
    have hother : ∀ symbol, exposureNotionalOf [order] [] symbol = 10 ∨
        exposureNotionalOf [order] [] symbol = 0 := by
      intro symbol
      by_cases hsame : "BTCUSDT" = symbol
      · subst hsame
        left
        decide +kernel
      · right
        simp [exposureNotionalOf, order, Text.orEmpty, hsame]
    constructor
    · decide +kernel
    · intro symbol
      rcases hother symbol with h | h
      · rw [h]
        decide +kernel
      · rw [h]
        decide +kernel
  have hafter := hcap (plainEnv order 45) (quietWorld c) ⟨some 0, [order]⟩ rfl (by decide +kernel)
    hopen
  have hexceeded : ¬ exposureNotionalOf [order] (acceptedIntents ⟨c,
      some (bybitRestClient (fun _ => none) fun _ => none)⟩ (plainEnv order 45) (quietWorld c))
        "BTCUSDT" * c.riskLeverage ≤ c.riskManager.maxSymbolExposureUsdt := by decide +kernel
  exact hexceeded (hafter.symbol "BTCUSDT")

end Main

end Botik
