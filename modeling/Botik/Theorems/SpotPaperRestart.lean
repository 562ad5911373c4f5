import Mathlib.Data.Finset.Dedup
import Mathlib.Data.Fintype.EquivFin
import Mathlib.Order.Lattice
import Mathlib.Tactic.FieldSimp
import Mathlib.Tactic.Linarith
import Botik.Execution.SpotPaper
import Botik.Library.Upserts

/-!
# The spot paper engine after a restart

A new engine over the same table has the holdings, but not the stops and targets, the times of the
purchases and the balance. It goes on like the old one exactly where what is lost does not matter.

## Main definitions

* `SpotPaper.Session`, `SpotPaper.runSessions` — calls and restarts
* `SpotPaper.BehavesAlike` — two engines answer alike, whatever comes
* `SpotPaper.Recoverable` — what the old engine knows is what the new one makes up

## Main results

* `SpotPaper.mirrored_runSessions` — the table has the holdings
* `SpotPaper.behavesAlike_of_alike` — engines that differ in nothing that matters
* `restart_behaves_alike_iff`
-/

namespace Botik

namespace SpotPaper

open Machines

/-! ### Runs -/

/-- A call of an engine whose policy is `SimpleExitPolicy`, with its transactions committed. -/
def Call.Regular (holdTimeoutMs : ℤ) : Call → Prop
  | .buy _ _ _ committed => committed = true
  | .sell _ _ _ _ committed => committed = true
  | .tick policy _ _ _ pricedCommitted soldCommitted =>
    (∃ policyMs, policy = SimpleExitPolicy.onTick holdTimeoutMs policyMs) ∧
      pricedCommitted = true ∧ soldCommitted = true

/-- What happens to an engine: a call, or the start of a new engine over its table. -/
inductive Session
  | call (c : Call)
  | restart (tradeIds : String → String) (nowMs : ℤ)

def Session.Regular (holdTimeoutMs : ℤ) : Session → Prop
  | .call c => c.Regular holdTimeoutMs
  | .restart _ _ => True

/-- One of them; every engine is given the same balance. -/
def sessionStep (balanceUsdt : ℚ) : Session → SpotPaperState → SpotPaperState
  | .call c, s => (step c s).2
  | .restart tradeIds nowMs, s => start balanceUsdt tradeIds nowMs s.table

/-- A run from an engine over an empty table. -/
def runSessions (balanceUsdt : ℚ) (sessions : List Session) : SpotPaperState :=
  Runs.run (sessionStep balanceUsdt) sessions (start balanceUsdt id 0 .empty)

/-! ### Behaviour -/

/-- What a holding is worth knowing for; the trade id is made up and the price is the last tick. -/
def heldPart (h : PaperHolding) : String × ℚ × ℚ × ℚ × ℚ :=
  (h.baseAsset, h.qty, h.avgEntryPrice, h.entryFee, h.purchaseValueUsdt)

/-- The resolution of the times in the tables. -/
def clockResolutionMs : ℤ := 1000

/-- The same trade, with its hold time up to the resolution of the clock. -/
structure SameTrade (a b : SpotPaperTrade) : Prop where
  symbol : a.symbol = b.symbol
  entryPrice : a.entryPrice = b.entryPrice
  exitPrice : a.exitPrice = b.exitPrice
  qty : a.qty = b.qty
  netPnl : a.netPnl = b.netPnl
  exitReason : a.exitReason = b.exitReason
  holdTime : |a.holdTimeMs - b.holdTimeMs| < clockResolutionMs

/-- The same purchase, or the same sales. -/
inductive SameAnswer : Answer → Answer → Prop
  | bought (tradeId : Option String) : SameAnswer (.bought tradeId) (.bought tradeId)
  | sold {as bs : List SpotPaperTrade} (h : List.Forall₂ SameTrade as bs) :
      SameAnswer (.sold as) (.sold bs)

/-- The same is held. -/
def SameHoldings (s t : SpotPaperState) : Prop :=
  ∀ symbol, (s.holdings.get? symbol).map heldPart =
    (t.holdings.get? symbol).map heldPart

/-- The two engines hold and answer the same, whatever is called. -/
def BehavesAlike (holdTimeoutMs : ℤ) (s t : SpotPaperState) : Prop :=
  ∀ calls : List Call, (∀ call ∈ calls, call.Regular holdTimeoutMs) →
    List.Forall₂ SameAnswer (outputs step calls s) (outputs step calls t) ∧
      SameHoldings (final step calls s) (final step calls t)

/-- The stop and target an engine uses for a symbol. -/
def stops (s : SpotPaperState) (symbol : String) : ℚ × ℚ := (s.protection symbol).getD (0, 0)

/-- A stop of zero and a target that every positive price reaches. -/
def ClosesAnywhere (stops : ℚ × ℚ) : Prop := stops.1 = 0 ∧ stops.2 ≤ 0

/-- What the engine knows of the balance, the stops and the times is what a new engine makes up. -/
structure Recoverable (balanceUsdt : ℚ) (restartMs : ℤ) (s : SpotPaperState) : Prop where
  balance : s.balance = balanceUsdt
  holdings : ∀ symbol h, s.holdings.get? symbol = some h →
    ClosesAnywhere (stops s symbol) ∧ |h.openedAtMs - restartMs| < clockResolutionMs

/-! ### The table has the holdings -/

/-- A row stores a holding. -/
structure Stores (row : SpotPaperRow) (h : PaperHolding) : Prop where
  qty : row.freeQty = h.qty
  avgEntryPrice : row.avgEntryPrice = h.avgEntryPrice
  purchaseValue : row.purchaseValueUsdt = h.purchaseValueUsdt

/-- The rows are those of the holdings, and what they leave out can be computed from them. -/
structure Mirrored (s : SpotPaperState) : Prop where
  derived : ∀ symbol h, s.holdings.get? symbol = some h →
    h.baseAsset = baseAsset symbol ∧ h.entryFee = h.purchaseValueUsdt * spotFeeRate
  stored : ∀ symbol h, s.holdings.get? symbol = some h →
    ∃ row, s.table.get? (symbol, baseAsset symbol) = some row ∧ Stores row h
  only : ∀ key row, s.table.get? key = some row →
    key.2 = baseAsset key.1 ∧ ∃ h, s.holdings.get? key.1 = some h

section Table

variable {s : SpotPaperState}

theorem Mirrored.bought (hs : Mirrored s) (o : BuyOrder) (tradeId : String) (nowMs : ℤ) :
    Mirrored (bought o tradeId nowMs true s) := by
  have hholdings : ∀ symbol, (SpotPaper.bought o tradeId nowMs true s).holdings.get? symbol =
      if symbol = o.symbol then some (newHolding o.symbol tradeId o.qty o.entryPrice nowMs)
      else s.holdings.get? symbol := fun _ => Dict.get?_set _ _ _ _
  -- a buy over a holding replaces both the holding and its row
  have htable : ∀ key, (SpotPaper.bought o tradeId nowMs true s).table.get? key =
      if key = (o.symbol, baseAsset o.symbol) then some (boughtRow o.qty o.entryPrice
        (s.table.get? (o.symbol, baseAsset o.symbol)))
      else s.table.get? key := fun _ => Dict.get?_set _ _ _ _
  constructor
  · intro symbol h hget
    rw [hholdings] at hget
    split_ifs at hget with hsame
    · cases hget
      exact ⟨by rw [hsame]; rfl, rfl⟩
    · exact hs.derived symbol h hget
  · intro symbol h hget
    rw [hholdings] at hget
    rw [htable]
    split_ifs at hget with hsame
    · cases hget
      rw [hsame, if_pos rfl]
      exact ⟨_, rfl, rfl, rfl, rfl⟩
    · rw [if_neg fun hkey => hsame (Prod.mk.inj hkey).1]
      exact hs.stored symbol h hget
  · intro key row hrow
    rw [htable] at hrow
    rw [hholdings]
    split_ifs at hrow with hkey
    · rw [hkey, if_pos rfl]
      exact ⟨rfl, _, rfl⟩
    · obtain ⟨hbase, h, hget⟩ := hs.only key row hrow
      refine ⟨hbase, ?_⟩
      split_ifs
      · exact ⟨_, rfl⟩
      · exact ⟨h, hget⟩

theorem Mirrored.sold (hs : Mirrored s) {symbol : String} {h : PaperHolding}
    (hheld : s.holdings.get? symbol = some h) (price : ℚ) :
    Mirrored (sold symbol h price true s) := by
  have hholdings : ∀ symbol', (SpotPaper.sold symbol h price true s).holdings.get? symbol' =
      if symbol' = symbol then none else s.holdings.get? symbol' := Dict.get?_erase _ _
  have hbase : h.baseAsset = baseAsset symbol := (hs.derived symbol h hheld).1
  have htable : ∀ key, (SpotPaper.sold symbol h price true s).table.get? key =
      if key = (symbol, h.baseAsset) then none else s.table.get? key := Dict.get?_erase _ _
  constructor
  · intro symbol' h' hget
    rw [hholdings] at hget
    split_ifs at hget
    exact hs.derived symbol' h' hget
  · intro symbol' h' hget
    rw [hholdings] at hget
    split_ifs at hget with hsame
    rw [htable, if_neg fun hkey => hsame (Prod.mk.inj hkey).1]
    exact hs.stored symbol' h' hget
  · intro key row hrow
    rw [htable] at hrow
    split_ifs at hrow with hkey
    obtain ⟨hkeyBase, h', hget⟩ := hs.only key row hrow
    refine ⟨hkeyBase, h', ?_⟩
    -- a row of the symbol would be the one that was removed
    have hother : key.1 ≠ symbol := fun hsame =>
      hkey (Prod.ext hsame (by rw [hkeyBase, hsame, hbase]))
    rw [hholdings, if_neg hother]
    exact hget

theorem Mirrored.priced (hs : Mirrored s) {symbol : String} {h : PaperHolding}
    (hheld : s.holdings.get? symbol = some h) (price : ℚ) :
    Mirrored (priced symbol h price true s) := by
  have hholdings : ∀ symbol', (SpotPaper.priced symbol h price true s).holdings.get? symbol' =
      if symbol' = symbol then some { h with currentPrice := price }
      else s.holdings.get? symbol' := fun _ => Dict.get?_set _ _ _ _
  have htable : ∀ key, (SpotPaper.priced symbol h price true s).table.get? key =
      if key = (symbol, h.baseAsset) then
        (s.table.get? key).map fun row => { row with currentPrice := price }
      else s.table.get? key := fun _ => Dict.get?_update _ _ _ _
  constructor
  · intro symbol' h' hget
    rw [hholdings] at hget
    split_ifs at hget with hsame
    · cases hget
      rw [hsame]
      exact hs.derived symbol h hheld
    · exact hs.derived symbol' h' hget
  -- a price changes neither the quantity nor the average of any holding
  · intro symbol' h' hget
    rw [hholdings] at hget
    have hrow : ∃ row, s.table.get? (symbol', baseAsset symbol') = some row ∧ Stores row h' := by
      split_ifs at hget with hsame
      · cases hget
        rw [hsame]
        obtain ⟨row, hrow, hqty, havg, hvalue⟩ := hs.stored symbol h hheld
        exact ⟨row, hrow, hqty, havg, hvalue⟩
      · exact hs.stored symbol' h' hget
    obtain ⟨row, hrow, hqty, havg, hvalue⟩ := hrow
    rw [htable, hrow]
    split_ifs
    · exact ⟨_, rfl, hqty, havg, hvalue⟩
    · exact ⟨row, rfl, hqty, havg, hvalue⟩
  -- no row comes or goes
  · intro key row hrow
    have hold : ∃ old, s.table.get? key = some old := by
      rw [htable] at hrow
      split_ifs at hrow
      · obtain ⟨old, hold, -⟩ := Option.map_eq_some_iff.mp hrow
        exact ⟨old, hold⟩
      · exact ⟨row, hrow⟩
    obtain ⟨old, hold⟩ := hold
    obtain ⟨hbase, h', hget⟩ := hs.only key old hold
    refine ⟨hbase, ?_⟩
    rw [hholdings]
    split_ifs
    · exact ⟨_, rfl⟩
    · exact ⟨h', hget⟩

theorem Mirrored.sell (hs : Mirrored s) (symbol : String) (price : ℚ) (exitReason : String)
    (nowMs : ℤ) : Mirrored (sell symbol price exitReason nowMs true s).2 := by
  unfold SpotPaper.sell
  cases hheld : s.holdings.get? symbol with
  | none => exact hs
  | some h => exact hs.sold hheld price

theorem Mirrored.step (hs : Mirrored s) {holdTimeoutMs : ℤ} {call : Call}
    (hcall : call.Regular holdTimeoutMs) : Mirrored (step call s).2 := by
  cases call with
  | buy o tradeId nowMs committed =>
    obtain rfl : committed = true := hcall
    change Mirrored (buy o tradeId nowMs true s).2
    unfold buy
    split_ifs
    · exact hs.bought o tradeId nowMs
    · exact hs
  | sell symbol price exitReason nowMs committed =>
    obtain rfl : committed = true := hcall
    exact hs.sell symbol price exitReason nowMs
  | tick policy symbol price nowMs pricedCommitted soldCommitted =>
    obtain ⟨-, rfl, rfl⟩ := hcall
    change Mirrored (onPriceTick policy symbol price nowMs true true s).2
    unfold onPriceTick
    cases hheld : s.holdings.get? symbol with
    | none => exact hs
    | some h =>
      dsimp only
      split_ifs
      · exact (hs.priced hheld price).sell _ _ _ _
      · exact hs.priced hheld price

/-- Loading goes row by row. -/
theorem loadHoldings_eq_upsertAll (tradeIds : String → String) (nowMs : ℤ)
    (table : Dict (String × String) SpotPaperRow) :
    loadHoldings tradeIds nowMs table = Dict.upsertAll (fun new _ => new)
      (table.entries.map fun e =>
        (e.1.1, loadedHolding (tradeIds e.1.1) nowMs e.1.2 e.2)) .empty := by
  have hsame : ∀ (v : PaperHolding) old, Upserts.stored (fun new _ => new) v old = v := by
    intro v old
    cases old <;> rfl
  unfold loadHoldings Dict.upsertAll
  rw [List.foldl_map]
  congr 1
  funext holdings e
  unfold loadRow Dict.upsert
  rw [hsame]

/-- A symbol is loaded from its only row. -/
theorem Mirrored.get?_loadHoldings (hs : Mirrored s) (tradeIds : String → String) (nowMs : ℤ)
    (symbol : String) : (loadHoldings tradeIds nowMs s.table).get? symbol =
      (s.table.get? (symbol, baseAsset symbol)).map
        (loadedHolding (tradeIds symbol) nowMs (baseAsset symbol)) := by
  have hbase : ∀ key ∈ s.table.keys, key.2 = baseAsset key.1 := by
    intro key hkey
    obtain ⟨row, hrow⟩ := Dict.mem_keys_iff.mp hkey
    exact (hs.only key row hrow).1
  rw [loadHoldings_eq_upsertAll]
  cases hrow : s.table.get? (symbol, baseAsset symbol) with
  | none =>
    rw [Dict.get?_upsertAll_of_not_mem]
    · rfl
    · intro w hw hsymbol
      obtain ⟨e, he, rfl⟩ := List.mem_map.mp hw
      have hkey : e.1 ∈ s.table.keys := List.mem_map_of_mem he
      have heq : e.1 = (symbol, baseAsset symbol) := Prod.ext hsymbol (by
        rw [hbase e.1 hkey]
        exact congrArg baseAsset hsymbol)
      exact Dict.get?_eq_none_iff.mp hrow (heq ▸ hkey)
  | some row =>
    have hnodup : ((s.table.entries.map fun e =>
        (e.1.1, loadedHolding (tradeIds e.1.1) nowMs e.1.2 e.2)).map Prod.fst).Nodup := by
      have hkeys : (s.table.keys.map Prod.fst).Nodup := by
        apply List.Nodup.map_on _ s.table.nodupKeys
        intro key hkey key' hkey' hsymbol
        exact Prod.ext hsymbol (by rw [hbase key hkey, hbase key' hkey', hsymbol])
      unfold Dict.keys at hkeys
      rw [List.map_map] at hkeys ⊢
      exact hkeys
    have hmem : (symbol, loadedHolding (tradeIds symbol) nowMs (baseAsset symbol) row) ∈
        s.table.entries.map fun e =>
          (e.1.1, loadedHolding (tradeIds e.1.1) nowMs e.1.2 e.2) :=
      List.mem_map.mpr ⟨((symbol, baseAsset symbol), row), Dict.mem_entries_iff.mpr hrow, rfl⟩
    rw [Dict.get?_upsertAll_of_mem hnodup hmem]
    rfl

theorem Mirrored.start (hs : Mirrored s) (balanceUsdt : ℚ) (tradeIds : String → String)
    (nowMs : ℤ) : Mirrored (start balanceUsdt tradeIds nowMs s.table) := by
  have hget : ∀ symbol, (SpotPaper.start balanceUsdt tradeIds nowMs s.table).holdings.get? symbol =
      (s.table.get? (symbol, baseAsset symbol)).map
        (loadedHolding (tradeIds symbol) nowMs (baseAsset symbol)) :=
    hs.get?_loadHoldings tradeIds nowMs
  constructor
  · intro symbol h hheld
    rw [hget] at hheld
    obtain ⟨row, -, rfl⟩ := Option.map_eq_some_iff.mp hheld
    exact ⟨rfl, rfl⟩
  · intro symbol h hheld
    rw [hget] at hheld
    obtain ⟨row, hrow, rfl⟩ := Option.map_eq_some_iff.mp hheld
    exact ⟨row, hrow, rfl, rfl, rfl⟩
  · intro key row hrow
    obtain ⟨hbase, -⟩ := hs.only key row hrow
    refine ⟨hbase, loadedHolding (tradeIds key.1) nowMs (baseAsset key.1) row, ?_⟩
    have hkey : key = (key.1, baseAsset key.1) := Prod.ext rfl hbase
    have hstored : s.table.get? key = some row := hrow
    rw [hget, ← hkey, hstored]
    rfl

theorem mirrored_runSessions (balanceUsdt : ℚ) {holdTimeoutMs : ℤ} {sessions : List Session}
    (h : ∀ session ∈ sessions, session.Regular holdTimeoutMs) :
    Mirrored (runSessions balanceUsdt sessions) := by
  have hempty : Mirrored (SpotPaper.start balanceUsdt id 0 .empty) := by
    constructor
    · intro symbol h hget
      cases hget
    · intro symbol h hget
      cases hget
    · intro key row hrow
      cases hrow
  apply Runs.run_of_inv (P := fun _ session => session.Regular holdTimeoutMs) _ hempty
  · intro t ht
    exact h t.input (Runs.input_mem ht)
  · intro s session hs hsession
    cases session with
    | call c => exact hs.step hsession
    | restart tradeIds nowMs => exact hs.start balanceUsdt tradeIds nowMs

end Table

/-! ### Engines that differ in nothing that matters -/

/-- Two holdings with their stops: equal but for the trade id and the price, or both closed by the
next tick whatever the price. -/
structure AlikeHolding (a b : PaperHolding × (ℚ × ℚ)) : Prop where
  held : heldPart a.1 = heldPart b.1
  opened : |a.1.openedAtMs - b.1.openedAtMs| < clockResolutionMs
  stops : a.1.openedAtMs = b.1.openedAtMs ∧ a.2 = b.2 ∨ ClosesAnywhere a.2 ∧ ClosesAnywhere b.2

/-- The engines have the same balance and alike holdings. -/
structure Alike (s t : SpotPaperState) : Prop where
  balance : s.balance = t.balance
  holdings : ∀ symbol, Option.Rel AlikeHolding
    ((s.holdings.get? symbol).map fun h => (h, stops s symbol))
    ((t.holdings.get? symbol).map fun h => (h, stops t symbol))

section Alike

variable {s t : SpotPaperState} {symbol : String}

/-- At any price a stop of zero or a target below closes, with the reason the price alone decides. -/
theorem onTick_of_closesAnywhere {holdTimeoutMs nowMs : ℤ} {h : PaperHolding} {price : ℚ}
    (hstops : ClosesAnywhere (stops s symbol)) :
    SimpleExitPolicy.onTick holdTimeoutMs nowMs (snapshot symbol h price s) =
      .closing (if price ≤ 0 then "sl_hit" else "tp_hit") := by
  obtain ⟨hstop, htarget⟩ := hstops
  have hstopHit : SimpleExitPolicy.StopHit (snapshot symbol h price s).side
      (snapshot symbol h price s).markPrice (snapshot symbol h price s).stopLoss ↔ price ≤ 0 := by
    change price ≤ (stops s symbol).1 ↔ _
    rw [hstop]
  unfold SimpleExitPolicy.onTick
  by_cases hprice : price ≤ 0
  · rw [if_pos (hstopHit.mpr hprice), if_pos hprice]
  · have htargetHit : SimpleExitPolicy.TargetHit (snapshot symbol h price s).side
        (snapshot symbol h price s).markPrice (snapshot symbol h price s).takeProfit := by
      change (stops s symbol).2 ≤ price
      exact htarget.trans (not_le.mp hprice).le
    rw [if_neg fun hhit => hprice (hstopHit.mp hhit), if_neg hprice, if_pos htargetHit]

/-- Selling holdings with the same parts brings in the same. -/
theorem sameTrade_of_heldPart (symbol : String) {h h' : PaperHolding} (hheld : heldPart h = heldPart h')
    (hopened : |h.openedAtMs - h'.openedAtMs| < clockResolutionMs) (price : ℚ)
    (exitReason : String) (nowMs : ℤ) :
    SameTrade (soldTrade symbol h price exitReason nowMs)
        (soldTrade symbol h' price exitReason nowMs) ∧
      netProceeds h price = netProceeds h' price := by
  obtain ⟨-, hrest⟩ := Prod.mk.inj hheld
  obtain ⟨hqty, hrest⟩ := Prod.mk.inj hrest
  obtain ⟨havg, hrest⟩ := Prod.mk.inj hrest
  obtain ⟨hfee, -⟩ := Prod.mk.inj hrest
  have hproceeds : netProceeds h price = netProceeds h' price := by
    unfold netProceeds
    rw [hqty]
  have hcost : h.costBasis = h'.costBasis := by
    unfold PaperHolding.costBasis
    rw [havg, hqty, hfee]
  refine ⟨⟨rfl, havg, rfl, hqty, ?_, rfl, ?_⟩, hproceeds⟩
  · change netProceeds h price - h.costBasis = netProceeds h' price - h'.costBasis
    rw [hproceeds, hcost]
  · change |nowMs - h.openedAtMs - (nowMs - h'.openedAtMs)| < clockResolutionMs
    rw [sub_sub_sub_cancel_left, abs_sub_comm]
    exact hopened

/-- Alike holdings are asked about alike: the policy closes both for the same reason, or none. -/
theorem AlikeHolding.onTick_eq {h h' : PaperHolding}
    (halike : AlikeHolding (h, SpotPaper.stops s symbol) (h', SpotPaper.stops t symbol))
    (holdTimeoutMs nowMs : ℤ) (price : ℚ) :
    SimpleExitPolicy.onTick holdTimeoutMs nowMs (snapshot symbol h price s) =
      SimpleExitPolicy.onTick holdTimeoutMs nowMs (snapshot symbol h' price t) := by
  rcases halike.stops with ⟨hopened, hstops⟩ | ⟨hstops, hstops'⟩
  · have hstop : (snapshot symbol h price s).stopLoss = (snapshot symbol h' price t).stopLoss :=
      congrArg Prod.fst hstops
    have htarget : (snapshot symbol h price s).takeProfit =
        (snapshot symbol h' price t).takeProfit := congrArg Prod.snd hstops
    have htime : (snapshot symbol h price s).openedAtMs =
        (snapshot symbol h' price t).openedAtMs := hopened
    unfold SimpleExitPolicy.onTick
    rw [hstop, htarget, htime]
    rfl
  · rw [onTick_of_closesAnywhere hstops, onTick_of_closesAnywhere hstops']

theorem alike_bought (halike : Alike s t) (o : BuyOrder) (tradeId : String) (nowMs : ℤ) :
    Alike (bought o tradeId nowMs true s) (bought o tradeId nowMs true t) := by
  constructor
  · change s.balance - o.totalCost = t.balance - o.totalCost
    rw [halike.balance]
  · intro symbol
    have hrest := halike.holdings symbol
    unfold bought stops
    dsimp only
    rw [Dict.get?_set, Dict.get?_set]
    by_cases hsame : symbol = o.symbol
    · rw [if_pos hsame, if_pos hsame, hsame, Function.update_self, Function.update_self]
      exact Option.Rel.some ⟨rfl, by rw [sub_self]; decide, Or.inl ⟨rfl, rfl⟩⟩
    · rw [if_neg hsame, if_neg hsame, Function.update_of_ne hsame, Function.update_of_ne hsame]
      exact hrest

theorem Alike.holding (halike : Alike s t) {h h' : PaperHolding}
    (hheld : s.holdings.get? symbol = some h) (hheld' : t.holdings.get? symbol = some h') :
    AlikeHolding (h, stops s symbol) (h', stops t symbol) := by
  have hrel := halike.holdings symbol
  rw [hheld, hheld'] at hrel
  cases hrel with
  | some h => exact h

/-- Either both engines hold something of a symbol, or none does. -/
theorem Alike.cases (halike : Alike s t) (symbol : String) :
    s.holdings.get? symbol = none ∧ t.holdings.get? symbol = none ∨
      ∃ h h', s.holdings.get? symbol = some h ∧ t.holdings.get? symbol = some h' := by
  have hrel := halike.holdings symbol
  cases hs : s.holdings.get? symbol with
  | none =>
    cases ht : t.holdings.get? symbol with
    | none => exact Or.inl ⟨rfl, rfl⟩
    | some h' =>
      rw [hs, ht] at hrel
      cases hrel
  | some h =>
    cases ht : t.holdings.get? symbol with
    | none =>
      rw [hs, ht] at hrel
      cases hrel
    | some h' => exact Or.inr ⟨h, h', rfl, rfl⟩

/-- The prices of alike holdings may change. -/
theorem alike_priced (halike : Alike s t) {h h' : PaperHolding}
    (hheld : s.holdings.get? symbol = some h) (hheld' : t.holdings.get? symbol = some h')
    (price : ℚ) : Alike (priced symbol h price true s) (priced symbol h' price true t) := by
  refine ⟨halike.balance, fun symbol' => ?_⟩
  have hrest := halike.holdings symbol'
  change Option.Rel AlikeHolding
    (((s.holdings.set symbol { h with currentPrice := price }).get? symbol').map
      fun h => (h, stops s symbol'))
    (((t.holdings.set symbol { h' with currentPrice := price }).get? symbol').map
      fun h => (h, stops t symbol'))
  rw [Dict.get?_set, Dict.get?_set]
  by_cases hsame : symbol' = symbol
  · rw [if_pos hsame, if_pos hsame]
    obtain ⟨hsameHeld, hopened, hstops⟩ := halike.holding hheld hheld'
    exact Option.Rel.some ⟨hsameHeld, hopened, hsame ▸ hstops⟩
  · rw [if_neg hsame, if_neg hsame]
    exact hrest

theorem alike_sold (halike : Alike s t) {h h' : PaperHolding}
    (hheld : s.holdings.get? symbol = some h) (hheld' : t.holdings.get? symbol = some h')
    (price : ℚ) : Alike (sold symbol h price true s) (sold symbol h' price true t) := by
  obtain ⟨hsameHeld, hopened, -⟩ := halike.holding hheld hheld'
  have hproceeds := (sameTrade_of_heldPart symbol hsameHeld hopened price "" 0).2
  constructor
  · change s.balance + netProceeds h price = t.balance + netProceeds h' price
    rw [halike.balance, hproceeds]
  · intro symbol'
    have hrest := halike.holdings symbol'
    unfold sold stops
    dsimp only
    rw [Dict.get?_erase, Dict.get?_erase]
    by_cases hsame : symbol' = symbol
    · rw [if_pos hsame, if_pos hsame]
      exact Option.Rel.none
    · rw [if_neg hsame, if_neg hsame, Function.update_of_ne hsame, Function.update_of_ne hsame]
      exact hrest

/-- A sale is answered alike. -/
theorem alike_sell (halike : Alike s t) (symbol : String) (price : ℚ) (exitReason : String)
    (nowMs : ℤ) :
    List.Forall₂ SameTrade (sell symbol price exitReason nowMs true s).1.toList
        (sell symbol price exitReason nowMs true t).1.toList ∧
      Alike (sell symbol price exitReason nowMs true s).2
        (sell symbol price exitReason nowMs true t).2 := by
  unfold sell
  rcases halike.cases symbol with ⟨hs, ht⟩ | ⟨h, h', hs, ht⟩
  · rw [hs, ht]
    exact ⟨List.Forall₂.nil, halike⟩
  · rw [hs, ht]
    obtain ⟨hsameHeld, hopened, -⟩ := halike.holding hs ht
    have htrade := (sameTrade_of_heldPart symbol hsameHeld hopened price exitReason
      nowMs).1
    exact ⟨List.Forall₂.cons htrade List.Forall₂.nil, alike_sold halike hs ht price⟩

/-- One call is answered alike. -/
theorem alike_step (halike : Alike s t) {holdTimeoutMs : ℤ} {call : Call}
    (hcall : call.Regular holdTimeoutMs) :
    SameAnswer (step call s).1 (step call t).1 ∧ Alike (step call s).2 (step call t).2 := by
  cases call with
  | buy o tradeId nowMs committed =>
    obtain rfl : committed = true := hcall
    -- both engines refuse the same buys
    have hafford : Affordable s o ↔ Affordable t o := by
      unfold Affordable
      rw [halike.balance]
      rcases halike.cases o.symbol with ⟨hs, ht⟩ | ⟨h, h', hs, ht⟩
      · rw [hs, ht]
      · rw [hs, ht]
        simp
    change SameAnswer (.bought (buy o tradeId nowMs true s).1)
      (.bought (buy o tradeId nowMs true t).1) ∧ Alike (buy o tradeId nowMs true s).2
        (buy o tradeId nowMs true t).2
    unfold buy
    by_cases hs : Affordable s o
    · rw [if_pos hs, if_pos (hafford.mp hs)]
      exact ⟨.bought _, alike_bought halike o tradeId nowMs⟩
    · rw [if_neg hs, if_neg fun ht => hs (hafford.mpr ht)]
      exact ⟨.bought _, halike⟩
  | sell symbol price exitReason nowMs committed =>
    obtain rfl : committed = true := hcall
    obtain ⟨htrades, hnext⟩ := alike_sell halike symbol price exitReason nowMs
    exact ⟨.sold htrades, hnext⟩
  | tick policy symbol price nowMs pricedCommitted soldCommitted =>
    obtain ⟨⟨policyMs, rfl⟩, rfl, rfl⟩ := hcall
    change SameAnswer (.sold (onPriceTick _ symbol price nowMs true true s).1)
      (.sold (onPriceTick _ symbol price nowMs true true t).1) ∧
        Alike (onPriceTick _ symbol price nowMs true true s).2
          (onPriceTick _ symbol price nowMs true true t).2
    unfold onPriceTick
    rcases halike.cases symbol with ⟨hs, ht⟩ | ⟨h, h', hs, ht⟩
    · rw [hs, ht]
      exact ⟨.sold List.Forall₂.nil, halike⟩
    · rw [hs, ht]
      -- the policies agree on the action, and its reason becomes that of the trade
      have haction := (halike.holding hs ht).onTick_eq holdTimeoutMs policyMs price
      have hpriced := alike_priced halike hs ht price
      dsimp only
      rw [haction]
      split_ifs
      · obtain ⟨htrades, hnext⟩ := alike_sell hpriced symbol price _ nowMs
        exact ⟨.sold htrades, hnext⟩
      · exact ⟨.sold List.Forall₂.nil, hpriced⟩

theorem Alike.sameHoldings (halike : Alike s t) : SameHoldings s t := by
  intro symbol
  rcases halike.cases symbol with ⟨hs, ht⟩ | ⟨h, h', hs, ht⟩
  · rw [hs, ht]
  · rw [hs, ht]
    exact congrArg some (halike.holding hs ht).held

/-- Engines that differ in nothing that matters behave alike. -/
theorem behavesAlike_of_alike (halike : Alike s t) (holdTimeoutMs : ℤ) :
    BehavesAlike holdTimeoutMs s t := by
  intro calls
  induction calls generalizing s t with
  | nil => exact fun _ => ⟨List.Forall₂.nil, halike.sameHoldings⟩
  | cons call calls ih =>
    intro hcalls
    obtain ⟨hcall, hrest⟩ := List.forall_mem_cons.mp hcalls
    obtain ⟨hanswer, hnext⟩ := alike_step halike hcall
    obtain ⟨hanswers, hholdings⟩ := ih hnext hrest
    exact ⟨List.Forall₂.cons hanswer hanswers, hholdings⟩

end Alike

/-! ### What a new engine must make up -/

section Restart

variable {s : SpotPaperState} {balanceUsdt : ℚ} {tradeIds : String → String} {restartMs : ℤ}

/-- What the rows restore of a holding. -/
theorem Mirrored.restored (hs : Mirrored s) (balanceUsdt : ℚ) (tradeIds : String → String)
    (restartMs : ℤ) (symbol : String) :
    s.holdings.get? symbol = none ∧
        (SpotPaper.start balanceUsdt tradeIds restartMs s.table).holdings.get? symbol = none ∨
      ∃ h h', s.holdings.get? symbol = some h ∧
        (SpotPaper.start balanceUsdt tradeIds restartMs s.table).holdings.get? symbol = some h' ∧
          heldPart h = heldPart h' ∧ h'.openedAtMs = restartMs := by
  have hget : (SpotPaper.start balanceUsdt tradeIds restartMs s.table).holdings.get? symbol =
      (s.table.get? (symbol, baseAsset symbol)).map
        (loadedHolding (tradeIds symbol) restartMs (baseAsset symbol)) :=
    hs.get?_loadHoldings tradeIds restartMs symbol
  cases hheld : s.holdings.get? symbol with
  | none =>
    left
    refine ⟨rfl, ?_⟩
    cases hrow : s.table.get? (symbol, baseAsset symbol) with
    | none =>
      rw [hget, hrow]
      rfl
    | some row =>
      obtain ⟨-, h, hsome⟩ := hs.only _ row hrow
      rw [hheld] at hsome
      cases hsome
  | some h =>
    right
    obtain ⟨hbase, hfee⟩ := hs.derived symbol h hheld
    obtain ⟨row, hrow, hqty, havg, hvalue⟩ := hs.stored symbol h hheld
    refine ⟨h, _, rfl, by rw [hget, hrow]; rfl, ?_, rfl⟩
    unfold heldPart loadedHolding
    rw [hbase, hfee, hqty, havg, hvalue]

/-- Where nothing that matters is lost, the new engine is alike. -/
theorem Recoverable.alike (hrec : Recoverable balanceUsdt restartMs s) (hs : Mirrored s) :
    Alike s (start balanceUsdt tradeIds restartMs s.table) := by
  refine ⟨hrec.balance, fun symbol => ?_⟩
  rcases hs.restored balanceUsdt tradeIds restartMs symbol with ⟨hnone, hnone'⟩ |
    ⟨h, h', hheld, hheld', hsameHeld, hopened⟩
  · rw [hnone, hnone']
    exact Option.Rel.none
  · rw [hheld, hheld']
    obtain ⟨hstops, htime⟩ := hrec.holdings symbol h hheld
    refine Option.Rel.some ⟨hsameHeld, by rwa [hopened], Or.inr ⟨hstops, rfl, le_refl 0⟩⟩

/-- Some symbol is not held. -/
theorem exists_not_held (s : SpotPaperState) : ∃ symbol, s.holdings.get? symbol = none := by
  obtain ⟨symbol, hsymbol⟩ := Infinite.exists_notMem_finset s.holdings.keys.toFinset
  refine ⟨symbol, Dict.get?_eq_none_iff.mpr fun hmem => hsymbol ?_⟩
  rwa [List.mem_toFinset]

/-- An engine that accepts the same purchases has the same balance. -/
theorem balance_eq_of_behavesAlike {holdTimeoutMs : ℤ} (hs : Mirrored s)
    (h : BehavesAlike holdTimeoutMs s (start balanceUsdt tradeIds restartMs s.table)) :
    s.balance = balanceUsdt := by
  obtain ⟨symbol, hnone⟩ := exists_not_held s
  have hnone' : (start balanceUsdt tradeIds restartMs s.table).holdings.get? symbol = none := by
    rcases hs.restored balanceUsdt tradeIds restartMs symbol with ⟨-, hnone'⟩ | ⟨_, _, hheld, -⟩
    · exact hnone'
    · rw [hnone] at hheld
      cases hheld
  -- a purchase that costs exactly the larger balance
  let o : BuyOrder := ⟨symbol, 1, max s.balance balanceUsdt / (1 + spotFeeRate), 0, 0⟩
  have hcost : o.totalCost = max s.balance balanceUsdt := by
    change max s.balance balanceUsdt / (1 + spotFeeRate) * 1 +
      max s.balance balanceUsdt / (1 + spotFeeRate) * 1 * spotFeeRate = _
    have hne : 1 + spotFeeRate ≠ 0 := by
      unfold spotFeeRate
      norm_num
    field_simp
  obtain ⟨hanswers, -⟩ := h [.buy o "" 0 true] (by simp [Call.Regular])
  have hsame : (buy o "" 0 true s).1 =
      (buy o "" 0 true (start balanceUsdt tradeIds restartMs s.table)).1 := by
    cases hanswers with
    | cons hanswer _ =>
      generalize hleft : (step (.buy o "" 0 true) s).1 = left at hanswer
      generalize hright : (step (.buy o "" 0 true)
        (start balanceUsdt tradeIds restartMs s.table)).1 = right at hanswer
      cases hanswer with
      | bought tradeId =>
        exact (Answer.bought.inj hleft).trans (Answer.bought.inj hright).symm
      | sold _ => cases hleft
  have haccepts : ∀ t : SpotPaperState, t.holdings.get? symbol = none →
      ((buy o "" 0 true t).1.isSome ↔ max s.balance balanceUsdt ≤ t.balance) := by
    intro t ht
    have hafford : Affordable t o ↔ max s.balance balanceUsdt ≤ t.balance := by
      unfold Affordable
      rw [hcost]
      exact and_iff_right ht
    rw [← hafford]
    unfold buy
    split_ifs with h
    · exact iff_of_true rfl h
    · exact iff_of_false Bool.false_ne_true h
  have hiff := (haccepts s hnone).symm.trans (hsame ▸ haccepts _ hnone')
  change max s.balance balanceUsdt ≤ s.balance ↔ max s.balance balanceUsdt ≤ balanceUsdt at hiff
  rcases le_total s.balance balanceUsdt with hle | hle
  · have hmax : max s.balance balanceUsdt ≤ balanceUsdt := max_le hle le_rfl
    exact le_antisymm hle ((le_max_right _ _).trans (hiff.mpr hmax))
  · have hmax : max s.balance balanceUsdt ≤ s.balance := max_le le_rfl hle
    exact le_antisymm ((le_max_left _ _).trans (hiff.mp hmax)) hle

/-- The trades one call reports are alike. -/
theorem trades_of_behavesAlike {holdTimeoutMs : ℤ} {t : SpotPaperState}
    (h : BehavesAlike holdTimeoutMs s t) (call : Call) (hcall : call.Regular holdTimeoutMs) :
    List.Forall₂ SameTrade (step call s).1.trades (step call t).1.trades := by
  obtain ⟨hanswers, -⟩ := h [call] (by simpa using hcall)
  cases hanswers with
  | cons hanswer _ =>
    generalize (step call s).1 = left at hanswer
    generalize (step call t).1 = right at hanswer
    cases hanswer with
    | bought _ => exact List.Forall₂.nil
    | sold htrades => exact htrades

/-- A new engine sells at the first tick, for the reason the price decides; an engine that behaves
alike does, too. -/
theorem reason_of_behavesAlike {holdTimeoutMs : ℤ} (hs : Mirrored s)
    (h : BehavesAlike holdTimeoutMs s (start balanceUsdt tradeIds restartMs s.table))
    {symbol : String} {held : PaperHolding} (hheld : s.holdings.get? symbol = some held) (price : ℚ) :
    (SimpleExitPolicy.onTick holdTimeoutMs 0 (snapshot symbol held price s)).reason =
      if price ≤ 0 then "sl_hit" else "tp_hit" := by
  rcases hs.restored balanceUsdt tradeIds restartMs symbol with ⟨hnone, -⟩ |
    ⟨_, held', hget, hheld', -, -⟩
  · rw [hheld] at hnone
    cases hnone
  -- stop and target of the new engine are zero
  have hnew : SimpleExitPolicy.onTick holdTimeoutMs 0
      (snapshot symbol held' price (start balanceUsdt tradeIds restartMs s.table)) =
        .closing (if price ≤ 0 then "sl_hit" else "tp_hit") :=
    onTick_of_closesAnywhere ⟨rfl, le_refl 0⟩
  generalize (if price ≤ 0 then "sl_hit" else "tp_hit") = reason at hnew ⊢
  -- one tick of both engines; the new one sells in it
  have htrades := trades_of_behavesAlike h
    (.tick (SimpleExitPolicy.onTick holdTimeoutMs 0) symbol price 0 true true)
    ⟨⟨0, rfl⟩, rfl, rfl⟩
  change List.Forall₂ SameTrade (onPriceTick _ symbol price 0 true true s).1
    (onPriceTick _ symbol price 0 true true _).1 at htrades
  unfold onPriceTick at htrades
  rw [hheld, hheld'] at htrades
  dsimp only at htrades
  have hcloses : (PolicyAction.closing reason).action = .closeAll := rfl
  rw [hnew, if_pos hcloses] at htrades
  have hsold : ∀ (t : SpotPaperState) (held : PaperHolding) (reason : String),
      (sell symbol price reason 0 true (priced symbol held price true t)).1.toList =
        [soldTrade symbol { held with currentPrice := price } price reason 0] := by
    intro t held reason
    have hget : (priced symbol held price true t).holdings.get? symbol =
        some { held with currentPrice := price } := Dict.get?_set_self _ _ _
    unfold sell
    rw [hget]
    rfl
  rw [hsold (start balanceUsdt tradeIds restartMs s.table) held' (PolicyAction.closing reason).reason]
    at htrades
  by_cases hclosed :
      (SimpleExitPolicy.onTick holdTimeoutMs 0 (snapshot symbol held price s)).action = .closeAll
  · rw [if_pos hclosed, hsold] at htrades
    cases htrades with
    | cons htrade _ => exact htrade.exitReason
  · rw [if_neg hclosed] at htrades
    cases htrades

/-- The reason tells which of the checks closed. -/
theorem closesAnywhere_of_reasons {holdTimeoutMs : ℤ} {symbol : String} {held : PaperHolding}
    (h : ∀ price, (SimpleExitPolicy.onTick holdTimeoutMs 0 (snapshot symbol held price s)).reason =
      if price ≤ 0 then "sl_hit" else "tp_hit") : ClosesAnywhere (stops s symbol) := by
  have hreason : ∀ price, price ≤ (stops s symbol).1 ∧ price ≤ 0 ∨
      ¬ price ≤ (stops s symbol).1 ∧ (stops s symbol).2 ≤ price ∧ ¬ price ≤ 0 := by
    intro price
    have hprice := h price
    unfold SimpleExitPolicy.onTick at hprice
    by_cases hstop : price ≤ (stops s symbol).1
    · left
      refine ⟨hstop, ?_⟩
      rw [if_pos (show SimpleExitPolicy.StopHit (snapshot symbol held price s).side
        (snapshot symbol held price s).markPrice (snapshot symbol held price s).stopLoss
          from hstop)] at hprice
      by_contra hpos
      rw [if_neg hpos] at hprice
      exact absurd hprice (by decide)
    · right
      rw [if_neg (show ¬ SimpleExitPolicy.StopHit (snapshot symbol held price s).side
        (snapshot symbol held price s).markPrice (snapshot symbol held price s).stopLoss
          from hstop)] at hprice
      by_cases htarget : (stops s symbol).2 ≤ price
      · refine ⟨hstop, htarget, fun hneg => ?_⟩
        rw [if_pos (show SimpleExitPolicy.TargetHit (snapshot symbol held price s).side
          (snapshot symbol held price s).markPrice (snapshot symbol held price s).takeProfit
            from htarget), if_pos hneg] at hprice
        exact absurd hprice (by decide)
      · exfalso
        rw [if_neg (show ¬ SimpleExitPolicy.TargetHit (snapshot symbol held price s).side
          (snapshot symbol held price s).markPrice (snapshot symbol held price s).takeProfit
            from htarget)] at hprice
        -- a timeout or nothing is none of the two reasons
        split_ifs at hprice
        all_goals exact absurd hprice (by decide)
  constructor
  · have hzero : (0 : ℚ) ≤ (stops s symbol).1 := by
      rcases hreason 0 with ⟨hstop, -⟩ | ⟨-, -, hpos⟩
      · exact hstop
      · exact absurd le_rfl hpos
    rcases hreason (stops s symbol).1 with ⟨-, hneg⟩ | ⟨hstop, -⟩
    · exact le_antisymm hneg hzero
    · exact absurd le_rfl hstop
  · by_contra hpos
    have hhalf : 0 < (stops s symbol).2 / 2 := half_pos (not_le.mp hpos)
    rcases hreason ((stops s symbol).2 / 2) with ⟨-, hneg⟩ | ⟨-, htarget, -⟩
    · exact absurd hneg hhalf.not_ge
    · linarith

/-- Only an engine that loses nothing is matched by a new one. -/
theorem recoverable_of_behavesAlike {holdTimeoutMs : ℤ} (hs : Mirrored s)
    (h : BehavesAlike holdTimeoutMs s (start balanceUsdt tradeIds restartMs s.table)) :
    Recoverable balanceUsdt restartMs s := by
  refine ⟨balance_eq_of_behavesAlike hs h, fun symbol held hheld => ⟨?_, ?_⟩⟩
  · exact closesAnywhere_of_reasons (reason_of_behavesAlike hs h hheld)
  · rcases hs.restored balanceUsdt tradeIds restartMs symbol with ⟨hnone, -⟩ |
      ⟨_, held', hget, hheld', -, hopened⟩
    · rw [hheld] at hnone
      cases hnone
    have htrades := trades_of_behavesAlike h (.sell symbol 0 "manual" 0 true) rfl
    change List.Forall₂ SameTrade (sell symbol 0 "manual" 0 true s).1.toList
      (sell symbol 0 "manual" 0 true _).1.toList at htrades
    unfold sell at htrades
    rw [hheld, hheld'] at htrades
    cases htrades with
    | cons htrade _ =>
      have htime : |0 - held.openedAtMs - (0 - held'.openedAtMs)| < clockResolutionMs :=
        htrade.holdTime
      rw [sub_sub_sub_cancel_left, abs_sub_comm, hopened] at htime
      exact htime

end Restart

end SpotPaper

open SpotPaper

/-- A new engine over the tables of a run goes on like the old one, whatever comes, exactly if the
balance is the one every engine starts with and every holding was bought within the resolution of
the clock with a stop and a target that close it at any price. -/
theorem restart_behaves_alike_iff (balanceUsdt : ℚ) (holdTimeoutMs : ℤ) (sessions : List Session)
    (hsessions : ∀ session ∈ sessions, session.Regular holdTimeoutMs)
    (tradeIds : String → String) (restartMs : ℤ) :
    BehavesAlike holdTimeoutMs (runSessions balanceUsdt sessions)
        (start balanceUsdt tradeIds restartMs (runSessions balanceUsdt sessions).table) ↔
      Recoverable balanceUsdt restartMs (runSessions balanceUsdt sessions) := by
  have hs := mirrored_runSessions balanceUsdt hsessions
  constructor
  · intro h
    exact recoverable_of_behavesAlike hs h
  · intro hrec
    exact behavesAlike_of_alike (hrec.alike hs) holdTimeoutMs

/-- A coin bought and sold at its target, two coins held, and a first restart, which forgets their
stops and gives the balance back. -/
def twoHeld : List Session :=
  [.call (.buy ⟨"BTCUSDT", 1, 100, 90, 110⟩ "t1" 0 true),
    .call (.tick (SimpleExitPolicy.onTick 60000 1) "BTCUSDT" 111 1000 true true),
    .call (.buy ⟨"BTCUSDT", 2, 105, 95, 120⟩ "t2" 2000 true),
    .call (.buy ⟨"ETHUSDT", 3, 50, 45, 60⟩ "t3" 3000 true),
    .restart id 5000]

/-- A second restart within a second of the first changes nothing for the two coins. -/
theorem twoHeld_recoverable :
    (runSessions 1000 twoHeld).holdings.keys = ["BTCUSDT", "ETHUSDT"] ∧
      BehavesAlike 60000 (runSessions 1000 twoHeld)
        (start 1000 id 5900 (runSessions 1000 twoHeld).table) := by
  -- the first restart forgot the stops, and counts as the time of both purchases
  have hheld : ∀ e ∈ (runSessions 1000 twoHeld).holdings.entries,
      ((stops (runSessions 1000 twoHeld) e.1).1 = 0 ∧
        (stops (runSessions 1000 twoHeld) e.1).2 ≤ 0) ∧
      |e.2.openedAtMs - 5900| < clockResolutionMs := by decide +kernel
  refine ⟨by decide +kernel, (restart_behaves_alike_iff 1000 60000 twoHeld ?_ id 5900).mpr
    ⟨by decide +kernel, fun symbol h hget => hheld (symbol, h) (Dict.mem_entries_iff.mpr hget)⟩⟩
  intro session hsession
  simp only [twoHeld, List.mem_cons, List.not_mem_nil, or_false] at hsession
  rcases hsession with rfl | rfl | rfl | rfl | rfl
  · rfl
  · exact ⟨⟨1, rfl⟩, rfl, rfl⟩
  · rfl
  · rfl
  · trivial

/-- Bought at 100 with the stop 90 and the target 110, the new engine sells at 100. -/
theorem stop_forgotten :
    ¬ BehavesAlike 0 (runSessions 1000 [.call (.buy ⟨"BTCUSDT", 1, 100, 90, 110⟩ "t1" 0 true)])
      (start 1000 id 0
        (runSessions 1000 [.call (.buy ⟨"BTCUSDT", 1, 100, 90, 110⟩ "t1" 0 true)]).table) := by
  intro h
  have htrades := trades_of_behavesAlike h
    (.tick (SimpleExitPolicy.onTick 0 0) "BTCUSDT" 100 0 true true) ⟨⟨0, rfl⟩, rfl, rfl⟩
  have hkept : (SpotPaper.step (.tick (SimpleExitPolicy.onTick 0 0) "BTCUSDT" 100 0 true true)
      (runSessions 1000
        [.call (.buy ⟨"BTCUSDT", 1, 100, 90, 110⟩ "t1" 0 true)])).1.trades.length = 0 := by
    decide +kernel
  have hsold : (SpotPaper.step (.tick (SimpleExitPolicy.onTick 0 0) "BTCUSDT" 100 0 true true)
      (start 1000 id 0 (runSessions 1000
        [.call (.buy ⟨"BTCUSDT", 1, 100, 90, 110⟩ "t1" 0 true)]).table)).1.trades.length = 1 := by
    decide +kernel
  have hlength := htrades.length_eq
  rw [hkept, hsold] at hlength
  cases hlength

end Botik
