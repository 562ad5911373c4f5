import Mathlib.Tactic.Linarith
import Botik.Execution.FuturesPaperFacts
import Botik.Library.Runs
import Botik.Library.Sums

/-!
# The tables of the futures paper engine

All trades of a symbol and side share one row of `futures_positions`. Opening overwrites its size,
closing any trade zeroes it, and a partial close marks the whole trade as closed. The row agrees
with the trades, and no quantity is lost, exactly in the runs that never have two trades of a
symbol and side part.

## Main definitions

* `PaperLedger` — the tables, with the quantities that were opened and closed
* `PaperLedger.Agree` — the row of a position is the sum of its open trades, and nothing is lost
* `FuturesPaper.Sound` — a call that treats the trades of a symbol and side as one

## Main results

* `PaperLedger.agree_record_iff` — one call
* `paper_tables_agree_iff` — every run
-/

namespace Botik

open Runs FuturesPaper

/-- The tables, with what was opened and closed of every symbol and side. -/
structure PaperLedger where
  tables : FuturesPaperState
  opened : String × PositionSide → ℚ
  closed : String × PositionSide → ℚ

namespace FuturesPaper

/-- What a trade counts for in a symbol and side. -/
def openPart (key : String × PositionSide) (t : PaperTrade) : ℚ :=
  if (t.symbol, t.side) = key ∧ t.exit = none then t.qty else 0

/-- The quantity still open of a symbol and side. -/
def openQty (s : FuturesPaperState) (key : String × PositionSide) : ℚ :=
  Sums.total (fun _ t => openPart key t) s.trades

/-- The quantities a tick passes to `close_position`, of a symbol and side. -/
def closedQty (policy : Policy) (symbol : String) (markPrice : ℚ) (s : FuturesPaperState)
    (key : String × PositionSide) : ℚ :=
  (((loadOpenPositions s symbol markPrice).filter fun pos => (pos.symbol, pos.side) = key).map
    fun pos => (qtyToClose (policy pos) pos).getD 0).sum

/-- What the callers promise: a positive quantity, and parts that are parts. -/
def Call.IsOrdinary : Call → Prop
  | .openPosition o _ _ => 0 < o.qty
  | .onPriceTick policy _ _ _ => ∀ pos, (policy pos).action = .closePartial →
      0 < (policy pos).qtyPct ∧ (policy pos).qtyPct < 1

/-- A position is opened only where none of its symbol and side is open, and a tick that closes a
trade closes every open trade of its symbol and side, and all of it. -/
def Sound (s : FuturesPaperState) : Call → Prop
  | .openPosition o tradeId _ => s.trades.get? tradeId = none →
      ∀ id t, s.trades.get? id = some t → t.exit = none → (t.symbol, t.side) ≠ (o.symbol, o.side)
  | .onPriceTick policy symbol markPrice _ =>
    ∀ id t, s.trades.get? id = some t → ClosedBy policy symbol markPrice s id t →
      ∀ id' t', s.trades.get? id' = some t' → IsOpenOf symbol t' → t'.side = t.side →
        (policy (snapshot s markPrice id' t')).action = .closeAll

end FuturesPaper

namespace PaperLedger

/-- One call. -/
def record : Call → PaperLedger → PaperLedger
  | .openPosition o tradeId nowMs, l =>
    { tables := FuturesPaper.step (.openPosition o tradeId nowMs) l.tables
      opened := if (openPosition o tradeId nowMs l.tables).1.isSome then
          Function.update l.opened (o.symbol, o.side) (l.opened (o.symbol, o.side) + o.qty)
        else l.opened
      closed := l.closed }
  | .onPriceTick policy symbol markPrice nowMs, l =>
    { tables := FuturesPaper.step (.onPriceTick policy symbol markPrice nowMs) l.tables
      opened := l.opened
      closed := fun key => l.closed key + closedQty policy symbol markPrice l.tables key }

/-- The row of a position is the sum of its open trades, and what was opened is closed or still
open. -/
structure Agree (l : PaperLedger) : Prop where
  size : ∀ key, positionSize l.tables key = openQty l.tables key
  quantity : ∀ key, l.opened key = l.closed key + openQty l.tables key

/-- Every trade has a positive quantity. -/
def Positive (l : PaperLedger) : Prop := ∀ id t, l.tables.trades.get? id = some t → 0 < t.qty

/-! ### Opening -/

section Opening

variable {l : PaperLedger} {o : OpenRequest} {tradeId : String} {nowMs : ℤ}

theorem openPart_nonneg {key : String × PositionSide} {t : PaperTrade} (hqty : 0 < t.qty) :
    0 ≤ openPart key t := by
  unfold openPart
  split_ifs
  · exact hqty.le
  · exact le_rfl

/-- Nothing is open of a symbol and side if there is no open trade. -/
theorem openQty_eq_zero_iff (hpos : l.Positive) {key : String × PositionSide} :
    openQty l.tables key = 0 ↔ ∀ id t, l.tables.trades.get? id = some t → t.exit = none →
      (t.symbol, t.side) ≠ key := by
  have hnonneg : ∀ e ∈ l.tables.trades.entries, 0 ≤ openPart key e.2 := fun e he =>
    openPart_nonneg (hpos e.1 e.2 (Dict.mem_entries_iff.mp he))
  unfold openQty Sums.total
  rw [Sums.sum_map_eq_zero_iff hnonneg]
  constructor
  · intro hzero id t hrow hopen hkey
    have hpart := hzero (id, t) (Dict.mem_entries_iff.mpr hrow)
    unfold openPart at hpart
    rw [if_pos ⟨hkey, hopen⟩] at hpart
    exact (hpos id t hrow).ne' hpart
  · rintro hnone ⟨id, t⟩ hmem
    apply if_neg
    rintro ⟨hkey, hopen⟩
    exact hnone id t (Dict.mem_entries_iff.mp hmem) hopen hkey

theorem openPart_trade (key : String × PositionSide) :
    openPart key (o.trade nowMs) = if key = (o.symbol, o.side) then o.qty else 0 := by
  unfold openPart
  by_cases hkey : key = (o.symbol, o.side)
  · rw [if_pos hkey, if_pos ⟨hkey.symm, rfl⟩]
    rfl
  · rw [if_neg hkey, if_neg fun h => hkey h.1.symm]

/-- A request with a taken id changes nothing. -/
theorem record_openPosition_of_taken (htaken : (l.tables.trades.get? tradeId).isSome) :
    record (.openPosition o tradeId nowMs) l = l := by
  have hsame : openPosition o tradeId nowMs l.tables = (none, l.tables) := by
    simp [openPosition, htaken]
  simp [record, FuturesPaper.step, hsame]

variable (o nowMs) in
/-- The tables after a new position. -/
theorem step_openPosition_of_new (hnew : l.tables.trades.get? tradeId = none) :
    openPosition o tradeId nowMs l.tables = (some tradeId, { l.tables with
      trades := l.tables.trades.set tradeId (o.trade nowMs)
      positions := l.tables.positions.set (o.symbol, o.side) o.position }) := by
  simp [openPosition, hnew]

/-- Opening keeps the tables agreeing if and only if nothing is open of the symbol and side. -/
theorem agree_openPosition_iff (hpos : l.Positive) (hagree : l.Agree) :
    (record (.openPosition o tradeId nowMs) l).Agree ↔
      Sound l.tables (.openPosition o tradeId nowMs) := by
  by_cases htaken : (l.tables.trades.get? tradeId).isSome
  · rw [record_openPosition_of_taken htaken]
    exact iff_of_true hagree fun hnew => by rw [hnew] at htaken; simp at htaken
  · have hnew : l.tables.trades.get? tradeId = none := Option.not_isSome_iff_eq_none.mp htaken
    have hopen := step_openPosition_of_new o nowMs hnew
    -- the new trade adds to what is open of its key
    have hqty : ∀ key, openQty (record (.openPosition o tradeId nowMs) l).tables key =
        openQty l.tables key + if key = (o.symbol, o.side) then o.qty else 0 := by
      intro key
      change Sums.total _ (openPosition o tradeId nowMs l.tables).2.trades = _
      rw [hopen, ← openPart_trade]
      exact Sums.total_set_of_none _ hnew _
    -- the row of the position is overwritten, whatever its size was
    have hsize : ∀ key, positionSize (record (.openPosition o tradeId nowMs) l).tables key =
        if key = (o.symbol, o.side) then o.qty else positionSize l.tables key := by
      intro key
      change positionSize (openPosition o tradeId nowMs l.tables).2 key = _
      rw [hopen]
      unfold positionSize
      dsimp only
      rw [Dict.get?_set]
      split_ifs
      · rfl
      · rfl
    have hopened : ∀ key, (record (.openPosition o tradeId nowMs) l).opened key =
        l.opened key + if key = (o.symbol, o.side) then o.qty else 0 := by
      intro key
      simp only [record, hopen, Option.isSome_some, if_true, Function.update_apply]
      split_ifs with hkey
      · rw [hkey]
      · rw [add_zero]
    constructor
    · intro hafter _
      rw [← openQty_eq_zero_iff hpos]
      -- the two agree only if nothing was open before
      have hcell := hafter.size (o.symbol, o.side)
      rw [hsize, hqty, if_pos rfl, if_pos rfl] at hcell
      linarith
    · intro hsound
      have hzero := (openQty_eq_zero_iff hpos).mpr (hsound hnew)
      refine ⟨fun key => ?_, fun key => ?_⟩
      · rw [hsize, hqty, hagree.size]
        split_ifs with hkey
        · rw [hkey, hzero, zero_add]
        · rw [add_zero]
      · rw [hopened, hqty, hagree.quantity]
        exact add_assoc _ _ _

end Opening

/-! ### Ticks -/

section Tick

variable {l : PaperLedger} {policy : Policy} {symbol : String} {markPrice : ℚ} {nowMs : ℤ}
  {key : String × PositionSide} {id : String} {t : PaperTrade}

/-- What a tick closes of a trade, for a symbol and side. -/
def closedPart (policy : Policy) (symbol : String) (markPrice : ℚ) (s : FuturesPaperState)
    (key : String × PositionSide) (id : String) (t : PaperTrade) : ℚ :=
  if IsOpenOf symbol t ∧ (t.symbol, t.side) = key then
    (qtyToClose (policy (snapshot s markPrice id t)) (snapshot s markPrice id t)).getD 0
  else 0

/-- The quantities a tick closes, as a sum over all trades. -/
theorem closedQty_eq_total (s : FuturesPaperState) :
    closedQty policy symbol markPrice s key =
      Sums.total (closedPart policy symbol markPrice s key) s.trades := by
  unfold closedQty loadOpenPositions Sums.total
  induction s.trades.entries with
  | nil => rfl
  | cons e es ih =>
    by_cases hopen : IsOpenOf symbol e.2
    · have hsnap : ((snapshot s markPrice e.1 e.2).symbol, (snapshot s markPrice e.1 e.2).side) =
          (e.2.symbol, e.2.side) := rfl
      by_cases hkey : (e.2.symbol, e.2.side) = key
      · simpa [hopen, hsnap, hkey, closedPart] using ih
      · simpa [hopen, hsnap, hkey, closedPart] using ih
    · simpa [hopen, closedPart] using ih

/-- What is open after a tick, as a sum over the trades before it. -/
theorem openQty_onPriceTick (s : FuturesPaperState) :
    openQty (onPriceTick policy symbol markPrice nowMs s).2 key =
      Sums.total (fun id t => openPart key (settled policy symbol markPrice nowMs s id t))
        s.trades := by
  unfold openQty Sums.total
  rw [entries_onPriceTick, List.map_map]
  rfl

/-- A trade the tick closes counts for nothing afterwards. -/
theorem openPart_settled_of_closedBy
    (hclosed : ClosedBy policy symbol markPrice l.tables id t) :
    openPart key (settled policy symbol markPrice nowMs l.tables id t) = 0 := by
  apply if_neg
  rintro ⟨-, hopen⟩
  exact ((exit_settled_eq_none_iff id t).mp hopen).2 hclosed

variable (l id) in
/-- What a tick leaves unclosed of an open trade it asks about: nothing if and only if the policy
closes all of it. -/
theorem openPart_sub_closedPart (hopen : IsOpenOf symbol t) (hkey : (t.symbol, t.side) = key)
    (hqty : 0 < t.qty) (hpolicy : Call.IsOrdinary (.onPriceTick policy symbol markPrice nowMs)) :
    0 ≤ openPart key t - closedPart policy symbol markPrice l.tables key id t ∧
      (openPart key t - closedPart policy symbol markPrice l.tables key id t = 0 ↔
        (policy (snapshot l.tables markPrice id t)).action = .closeAll) := by
  have hpart : openPart key t = t.qty := if_pos ⟨hkey, hopen.2⟩
  have hclosed : closedPart policy symbol markPrice l.tables key id t =
      (qtyToClose (policy (snapshot l.tables markPrice id t))
        (snapshot l.tables markPrice id t)).getD 0 := if_pos ⟨hopen, hkey⟩
  have hsnap : (snapshot l.tables markPrice id t).qty = t.qty := rfl
  have hfraction := hpolicy (snapshot l.tables markPrice id t)
  rw [hpart, hclosed]
  unfold qtyToClose
  cases haction : (policy (snapshot l.tables markPrice id t)).action with
  | closeAll => simp [hsnap]
  | closePartial =>
    obtain ⟨hpos, hless⟩ := hfraction haction
    have hrest : 0 < t.qty - t.qty * (policy (snapshot l.tables markPrice id t)).qtyPct := by
      have hmul := mul_lt_mul_of_pos_left hless hqty
      linarith
    simp only [hsnap, Option.getD_some, reduceCtorEq, iff_false]
    exact ⟨hrest.le, hrest.ne'⟩
  | hold => simp [hqty.le, hqty.ne']
  | add => simp [hqty.le, hqty.ne']
  | hedge => simp [hqty.le, hqty.ne']

variable (l policy symbol markPrice nowMs id) in
/-- A trade that is not of the key counts nowhere. -/
theorem parts_of_ne (hkey : (t.symbol, t.side) ≠ key) :
    openPart key t = 0 ∧ closedPart policy symbol markPrice l.tables key id t = 0 ∧
      openPart key (settled policy symbol markPrice nowMs l.tables id t) = 0 := by
  refine ⟨if_neg fun h => hkey h.1, if_neg fun h => hkey h.2, ?_⟩
  apply if_neg
  rw [key_settled]
  exact fun h => hkey h.1

variable (key nowMs) in
/-- A tick that closes nothing of a symbol and side changes nothing there. -/
theorem parts_of_none_closed (hnone : ¬ ClosedBy policy symbol markPrice l.tables id t) :
    closedPart policy symbol markPrice l.tables key id t = 0 ∧
      openPart key (settled policy symbol markPrice nowMs l.tables id t) = openPart key t := by
  rw [settled_of_not_closedBy hnone]
  refine ⟨?_, rfl⟩
  unfold closedPart
  split_ifs with hopen
  · cases hclose : qtyToClose (policy (snapshot l.tables markPrice id t))
        (snapshot l.tables markPrice id t) with
    | none => rfl
    | some qtyClosed => exact absurd ⟨hopen.1, by rw [hclose]; rfl⟩ hnone
  · rfl

/-- Closing everything closes the trade. -/
theorem closedBy_of_closeAll (hopen : IsOpenOf symbol t)
    (haction : (policy (snapshot l.tables markPrice id t)).action = .closeAll) :
    ClosedBy policy symbol markPrice l.tables id t :=
  ⟨hopen, by simp [qtyToClose, haction]⟩

/-- A symbol and side of which a tick closes something agree afterwards if and only if it closes
everything there is. -/
theorem agree_key_iff (hpos : l.Positive)
    (hpolicy : Call.IsOrdinary (.onPriceTick policy symbol markPrice nowMs)) (hagree : l.Agree)
    (hsymbol : key.1 = symbol) :
    (openQty (onPriceTick policy symbol markPrice nowMs l.tables).2 key = 0 ∧
        l.opened key = l.closed key + closedQty policy symbol markPrice l.tables key +
          openQty (onPriceTick policy symbol markPrice nowMs l.tables).2 key) ↔
      ∀ id t, l.tables.trades.get? id = some t → IsOpenOf symbol t → (t.symbol, t.side) = key →
        (policy (snapshot l.tables markPrice id t)).action = .closeAll := by
  -- what the tick leaves unclosed of each trade
  have hsub : Sums.total (fun id t => openPart key t -
      closedPart policy symbol markPrice l.tables key id t) l.tables.trades =
        openQty l.tables key - closedQty policy symbol markPrice l.tables key := by
    rw [closedQty_eq_total]
    exact Sums.total_sub _ _ _
  have hrow : ∀ e ∈ l.tables.trades.entries, 0 ≤ openPart key e.2 -
      closedPart policy symbol markPrice l.tables key e.1 e.2 ∧
        (openPart key e.2 - closedPart policy symbol markPrice l.tables key e.1 e.2 = 0 ↔
          (IsOpenOf symbol e.2 → (e.2.symbol, e.2.side) = key →
            (policy (snapshot l.tables markPrice e.1 e.2)).action = .closeAll)) := by
    rintro ⟨id, t⟩ hmem
    by_cases hkey : (t.symbol, t.side) = key
    · by_cases hopen : IsOpenOf symbol t
      · obtain ⟨hnonneg, hzero⟩ := openPart_sub_closedPart l id hopen hkey
          (hpos id t (Dict.mem_entries_iff.mp hmem)) hpolicy
        exact ⟨hnonneg, hzero.trans ⟨fun h _ _ => h, fun h => h hopen hkey⟩⟩
      · -- a closed trade of the key
        have hexit : t.exit ≠ none := fun h => hopen ⟨by rw [← hsymbol, ← hkey], h⟩
        have hpart : openPart key t = 0 := if_neg fun h => hexit h.2
        have hclosed : closedPart policy symbol markPrice l.tables key id t = 0 :=
          if_neg fun h => hopen h.1
        simp [hpart, hclosed, hopen]
    · obtain ⟨hpart, hclosed, -⟩ := parts_of_ne l policy symbol markPrice nowMs id hkey
      simp [hpart, hclosed, hkey]
  have hall := Sums.sum_map_eq_zero_iff fun e he => (hrow e he).1
  constructor
  · rintro ⟨hopen, hquantity⟩ id t hget hopenOf hkey
    have hzero : Sums.total (fun id t => openPart key t -
        closedPart policy symbol markPrice l.tables key id t) l.tables.trades = 0 := by
      have hbefore := hagree.quantity key
      rw [hsub]
      linarith
    have hmem := Dict.mem_entries_iff.mpr hget
    exact (hrow _ hmem).2.mp (hall.mp hzero _ hmem) hopenOf hkey
  · intro hsound
    have hopen : openQty (onPriceTick policy symbol markPrice nowMs l.tables).2 key = 0 := by
      rw [openQty_onPriceTick]
      apply List.sum_eq_zero
      intro q hq
      obtain ⟨⟨id, t⟩, hmem, rfl⟩ := List.mem_map.mp hq
      by_cases hkey : (t.symbol, t.side) = key
      · by_cases hopenOf : IsOpenOf symbol t
        · have haction := hsound id t (Dict.mem_entries_iff.mp hmem) hopenOf hkey
          exact openPart_settled_of_closedBy (closedBy_of_closeAll hopenOf haction)
        · have hexit : t.exit ≠ none := fun h => hopenOf ⟨by rw [← hsymbol, ← hkey], h⟩
          exact if_neg fun h => hexit ((exit_settled_eq_none_iff id t).mp h.2).1
      · exact (parts_of_ne l policy symbol markPrice nowMs id hkey).2.2
    refine ⟨hopen, ?_⟩
    have hzero : Sums.total (fun id t => openPart key t -
        closedPart policy symbol markPrice l.tables key id t) l.tables.trades = 0 := by
      apply hall.mpr
      rintro ⟨id, t⟩ hmem
      exact (hrow _ hmem).2.mpr fun hopenOf hkey =>
        hsound id t (Dict.mem_entries_iff.mp hmem) hopenOf hkey
    have hbefore := hagree.quantity key
    rw [hopen]
    rw [hsub] at hzero
    linarith

end Tick

/-! ### One call -/

section Calls

variable {l : PaperLedger}

/-- A tick keeps the tables agreeing if and only if it closes the trades of a symbol and side
together. -/
theorem agree_onPriceTick_iff {policy : Policy} {symbol : String} {markPrice : ℚ} {nowMs : ℤ}
    (hpos : l.Positive) (hpolicy : Call.IsOrdinary (.onPriceTick policy symbol markPrice nowMs))
    (hagree : l.Agree) :
    (record (.onPriceTick policy symbol markPrice nowMs) l).Agree ↔
      Sound l.tables (.onPriceTick policy symbol markPrice nowMs) := by
  have hsize := positionSize_onPriceTick policy symbol markPrice nowMs l.tables
  -- a symbol and side of which nothing is closed agrees as before
  have hsame : ∀ key, ¬ ClosesSome policy (loadOpenPositions l.tables symbol markPrice) key →
      openQty (onPriceTick policy symbol markPrice nowMs l.tables).2 key = openQty l.tables key ∧
        closedQty policy symbol markPrice l.tables key = 0 := by
    intro key hnone
    have hparts : ∀ e ∈ l.tables.trades.entries,
        openPart key (settled policy symbol markPrice nowMs l.tables e.1 e.2) = openPart key e.2 ∧
          closedPart policy symbol markPrice l.tables key e.1 e.2 = 0 := by
      rintro ⟨id, t⟩ hmem
      by_cases hkey : (t.symbol, t.side) = key
      · have hstays : ¬ ClosedBy policy symbol markPrice l.tables id t := fun hclosed =>
          hnone (closesSome_iff.mpr ⟨id, t, Dict.mem_entries_iff.mp hmem, hkey, hclosed⟩)
        obtain ⟨hclosed, hopen⟩ := parts_of_none_closed nowMs key hstays
        exact ⟨hopen, hclosed⟩
      · obtain ⟨hopen, hclosed, hafter⟩ :=
          parts_of_ne l policy symbol markPrice nowMs id hkey
        exact ⟨hafter.trans hopen.symm, hclosed⟩
    rw [openQty_onPriceTick, closedQty_eq_total]
    unfold openQty Sums.total
    refine ⟨congrArg List.sum (List.map_congr_left fun e he => (hparts e he).1), ?_⟩
    rw [List.map_congr_left fun e he => (hparts e he).2]
    simp
  have hafter : ∀ key, positionSize (record (.onPriceTick policy symbol markPrice nowMs) l).tables
      key = positionSize (onPriceTick policy symbol markPrice nowMs l.tables).2 key := fun _ => rfl
  constructor
  · intro hagree' id t hrow hclosed id' t' hrow' hopen' hside
    have hsome : ClosesSome policy (loadOpenPositions l.tables symbol markPrice)
        (t.symbol, t.side) := closesSome_iff.mpr ⟨id, t, hrow, rfl, hclosed⟩
    have hzero : openQty (onPriceTick policy symbol markPrice nowMs l.tables).2
        (t.symbol, t.side) = 0 :=
      (hagree'.size (t.symbol, t.side)).symm.trans ((hsize _).1 hsome)
    have hkey : (t'.symbol, t'.side) = (t.symbol, t.side) := by
      rw [hopen'.1, hclosed.1.1, hside]
    exact (agree_key_iff hpos hpolicy hagree hclosed.1.1).mp
      ⟨hzero, hagree'.quantity (t.symbol, t.side)⟩ id' t' hrow' hopen' hkey
  · intro hsound
    have hkeys : ∀ key, ClosesSome policy (loadOpenPositions l.tables symbol markPrice) key →
        openQty (onPriceTick policy symbol markPrice nowMs l.tables).2 key = 0 ∧
          l.opened key = l.closed key + closedQty policy symbol markPrice l.tables key +
            openQty (onPriceTick policy symbol markPrice nowMs l.tables).2 key := by
      intro key hsome
      obtain ⟨id, t, hrow, hkey, hopen, hclose⟩ := closesSome_iff.mp hsome
      have hsymbol : key.1 = symbol := by rw [← hkey, hopen.1]
      apply (agree_key_iff hpos hpolicy hagree hsymbol).mpr
      intro id' t' hrow' hopen' hkey'
      exact hsound id t hrow ⟨hopen, hclose⟩ id' t' hrow' hopen'
        (Prod.mk.inj (hkey'.trans hkey.symm)).2
    refine ⟨fun key => ?_, fun key => ?_⟩
    · by_cases hsome : ClosesSome policy (loadOpenPositions l.tables symbol markPrice) key
      · exact ((hsize key).1 hsome).trans (hkeys key hsome).1.symm
      · exact ((hsize key).2 hsome).trans ((hagree.size key).trans (hsame key hsome).1.symm)
    · by_cases hsome : ClosesSome policy (loadOpenPositions l.tables symbol markPrice) key
      · exact (hkeys key hsome).2
      · obtain ⟨hopen, hclosed⟩ := hsame key hsome
        change l.opened key = l.closed key + closedQty policy symbol markPrice l.tables key +
          openQty (onPriceTick policy symbol markPrice nowMs l.tables).2 key
        rw [hopen, hclosed, add_zero]
        exact hagree.quantity key

/-- A call keeps the tables agreeing if and only if it is sound. -/
theorem agree_record_iff {c : Call} (hpos : l.Positive) (hc : c.IsOrdinary) (hagree : l.Agree) :
    (record c l).Agree ↔ Sound l.tables c := by
  cases c with
  | openPosition o tradeId nowMs => exact agree_openPosition_iff hpos hagree
  | onPriceTick policy symbol markPrice nowMs => exact agree_onPriceTick_iff hpos hc hagree

theorem Positive.record {c : Call} (hpos : l.Positive) (hc : c.IsOrdinary) :
    (record c l).Positive := by
  intro id t hrow
  cases c with
  | openPosition o tradeId nowMs =>
    by_cases htaken : (l.tables.trades.get? tradeId).isSome
    · rw [record_openPosition_of_taken htaken] at hrow
      exact hpos id t hrow
    · have hnew : l.tables.trades.get? tradeId = none := Option.not_isSome_iff_eq_none.mp htaken
      change (openPosition o tradeId nowMs l.tables).2.trades.get? id = some t at hrow
      rw [step_openPosition_of_new o nowMs hnew] at hrow
      change (l.tables.trades.set tradeId (o.trade nowMs)).get? id = some t at hrow
      rw [Dict.get?_set] at hrow
      split_ifs at hrow
      · obtain rfl := Option.some.inj hrow
        exact hc
      · exact hpos id t hrow
  | onPriceTick policy symbol markPrice nowMs =>
    change (onPriceTick policy symbol markPrice nowMs l.tables).2.trades.get? id = some t at hrow
    rw [get?_onPriceTick] at hrow
    obtain ⟨t₀, hrow₀, rfl⟩ := Option.map_eq_some_iff.mp hrow
    rw [qty_settled]
    exact hpos id t₀ hrow₀

end Calls

/-- Nothing opened and nothing closed. -/
def empty : PaperLedger where
  tables := ⟨.empty, .empty, .empty⟩
  opened := fun _ => 0
  closed := fun _ => 0

theorem agree_empty : empty.Agree where
  size := fun _ => rfl
  quantity := fun _ => by simp [empty, openQty]

theorem positive_empty : empty.Positive := fun id t hrow => by simp [empty] at hrow

end PaperLedger

open PaperLedger

/-- Along a run of openings and ticks the position rows agree with the open trades, and what was
opened is closed or still open, after every call if and only if every call treats the trades of a
symbol and side as one. -/
theorem paper_tables_agree_iff (l : PaperLedger) (hagree : l.Agree) (hpos : l.Positive)
    (calls : List Call) (hcalls : ∀ c ∈ calls, c.IsOrdinary) :
    (∀ t ∈ transitions record calls l, t.after.Agree) ↔
      ∀ t ∈ transitions record calls l, Sound t.before.tables t.input :=
  forall_after_iff (A := Call.IsOrdinary) (P := fun l c => Sound l.tables c)
    (fun _ _ hl hc => Positive.record hl hc) (fun _ _ hl hc ha => agree_record_iff hl hc ha) hpos
    hagree hcalls

/-- A long position of a quantity, opened at 100. -/
def longOf (qty : ℚ) : OpenRequest := ⟨"BTCUSDT", .long, 100, qty, 90, 110⟩

/-- One position, opened and closed. -/
def openedAndClosed : List Call :=
  [.openPosition (longOf 1) "a" 0,
    .onPriceTick (fun _ => .closing "tp_hit") "BTCUSDT" 110 1]

theorem opened_and_closed_agrees : (run record openedAndClosed PaperLedger.empty).Agree := by
  have hordinary : ∀ c ∈ openedAndClosed, c.IsOrdinary := by
    intro c hc
    rcases List.mem_cons.mp hc with rfl | hc
    · exact one_pos
    · obtain rfl := List.mem_singleton.mp hc
      intro pos haction
      exact absurd haction (by simp [PolicyAction.closing])
  have hsound : ∀ t ∈ transitions record openedAndClosed PaperLedger.empty,
      Sound t.before.tables t.input := by
    intro t ht
    rcases List.mem_cons.mp ht with rfl | ht
    · rintro - id t hrow
      simp [PaperLedger.empty] at hrow
    · obtain rfl := List.mem_singleton.mp ht
      exact fun _ _ _ _ _ _ _ _ _ => rfl
  have hagree := (paper_tables_agree_iff PaperLedger.empty agree_empty positive_empty
    openedAndClosed hordinary).mpr hsound
  exact hagree _ (mem_transitions (openedAndClosed.take 1) _ [] _)

/-- A second position of a symbol and side takes the place of the first in the row. -/
theorem second_position_overwrites :
    ¬ ∀ calls : List Call, (∀ c ∈ calls, c.IsOrdinary) →
      ∀ t ∈ transitions record calls PaperLedger.empty, t.after.Agree := by
  intro h
  have hcalls : ∀ c ∈ [Call.openPosition (longOf 1) "a" 0, .openPosition (longOf 2) "b" 0],
      c.IsOrdinary := by
    intro c hc
    rcases List.mem_cons.mp hc with rfl | hc
    · exact one_pos
    · obtain rfl := List.mem_singleton.mp hc
      exact two_pos
  have hagree := h _ hcalls _ (mem_transitions [Call.openPosition (longOf 1) "a" 0]
    (Call.openPosition (longOf 2) "b" 0) [] PaperLedger.empty)
  have hsize := hagree.size ("BTCUSDT", .long)
  revert hsize
  decide +kernel

end Botik
