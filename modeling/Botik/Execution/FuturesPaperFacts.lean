import Mathlib.Data.List.Nodup
import Botik.Execution.FuturesPaper

/-!
# What a tick of the futures paper engine does

The loop over the open trades closes every trade the policy wants to close, on the stop and target
that stood in the tables when the tick began. The rows of the other trades stay, and so do the
protections.

## Main definitions

* `FuturesPaper.settled` — a trade after a tick

## Main results

* `FuturesPaper.entries_onPriceTick`, `FuturesPaper.get?_onPriceTick` — the trades after a tick
* `FuturesPaper.positionSize_onPriceTick` — the sizes after a tick
* `FuturesPaper.closes_onPriceTick`, `FuturesPaper.closes_filter_eq` — the answer of a tick
-/

namespace Botik

namespace FuturesPaper

/-- A trade after it was asked about. -/
def closedRow (policy : Policy) (nowMs : ℤ) (pos : PositionSnapshot) (t : PaperTrade) : PaperTrade :=
  match qtyToClose (policy pos) pos with
  | none => t
  | some qtyClosed => { t with exit := some (exitOf pos qtyClosed (policy pos).reason nowMs) }

/-- A trade after a tick. -/
def settled (policy : Policy) (symbol : String) (markPrice : ℚ) (nowMs : ℤ) (s : FuturesPaperState)
    (tradeId : String) (t : PaperTrade) : PaperTrade :=
  if IsOpenOf symbol t then closedRow policy nowMs (snapshot s markPrice tradeId t) t else t

section Row

variable {policy : Policy} {nowMs : ℤ} {pos : PositionSnapshot}
  {acc : List FuturesPaperClose × FuturesPaperState}

/-- One row of the loop goes over the trades in place. -/
theorem entries_tickRow : (tickRow policy nowMs acc pos).2.trades.entries =
    acc.2.trades.entries.map fun e =>
      if e.1 = pos.tradeId then (e.1, closedRow policy nowMs pos e.2) else e := by
  unfold tickRow closedRow
  cases hclose : qtyToClose (policy pos) pos with
  | none => simp [updateMarkPrice]
  | some qtyClosed => exact Dict.entries_update _ _ _

theorem protections_tickRow :
    (tickRow policy nowMs acc pos).2.protections = acc.2.protections := by
  unfold tickRow
  cases qtyToClose (policy pos) pos <;> rfl

/-- The size of a position: zero where there is no row. -/
def positionSize (s : FuturesPaperState) (key : String × PositionSide) : ℚ :=
  ((s.positions.get? key).map PaperPositionRow.size).getD 0

/-- A closed trade empties the position of its symbol and side. -/
theorem positionSize_tickRow (key : String × PositionSide) :
    positionSize (tickRow policy nowMs acc pos).2 key =
    if (pos.symbol, pos.side) = key ∧ (qtyToClose (policy pos) pos).isSome then 0
    else positionSize acc.2 key := by
  have hmark : positionSize (updateMarkPrice pos acc.2) key = positionSize acc.2 key := by
    unfold positionSize updateMarkPrice
    dsimp only
    rw [Dict.get?_update]
    split_ifs with hkey
    · rw [Option.map_map]
      rfl
    · rfl
  unfold tickRow
  cases hclose : qtyToClose (policy pos) pos with
  | none =>
    dsimp only
    rw [hmark, if_neg fun h => Bool.false_ne_true h.2]
  | some qtyClosed =>
    by_cases hkey : (pos.symbol, pos.side) = key
    · rw [if_pos ⟨hkey, rfl⟩]
      unfold positionSize closePosition
      dsimp only
      rw [Dict.get?_update, if_pos hkey.symm, Option.map_map]
      cases (updateMarkPrice pos acc.2).positions.get? key <;> rfl
    · rw [if_neg fun h => hkey h.1, ← hmark]
      unfold positionSize closePosition
      dsimp only
      rw [Dict.get?_update, if_neg fun h => hkey h.symm]

end Row

/-! ### The loop -/

section Tick

variable {policy : Policy} {symbol : String} {markPrice : ℚ} {nowMs : ℤ} {s : FuturesPaperState}

/-- A list of rows goes over every trade in turn. -/
theorem entries_foldl_tickRow (rows : List PositionSnapshot)
    (acc : List FuturesPaperClose × FuturesPaperState) :
    (rows.foldl (tickRow policy nowMs) acc).2.trades.entries =
      acc.2.trades.entries.map fun e => rows.foldl (fun e pos =>
        if e.1 = pos.tradeId then (e.1, closedRow policy nowMs pos e.2) else e) e := by
  induction rows generalizing acc with
  | nil => simp
  | cons pos rows ih =>
    rw [List.foldl_cons, ih, entries_tickRow, List.map_map]
    rfl

/-- Only the row of a trade itself changes it. -/
theorem foldl_rows_of_nodup {es : List (String × PaperTrade)} (hnodup : (es.map Prod.fst).Nodup)
    (snap : String × PaperTrade → PositionSnapshot) (hsnap : ∀ e, (snap e).tradeId = e.1)
    (e : String × PaperTrade) :
    (es.map snap).foldl (fun e pos =>
        if e.1 = pos.tradeId then (e.1, closedRow policy nowMs pos e.2) else e) e =
      match es.find? (fun e' => e'.1 = e.1) with
      | some e' => (e.1, closedRow policy nowMs (snap e') e.2)
      | none => e := by
  induction es generalizing e with
  | nil => rfl
  | cons e' es ih =>
    obtain ⟨hnot, hrest⟩ := List.nodup_cons.mp hnodup
    rw [List.map_cons, List.foldl_cons, hsnap, List.find?_cons]
    by_cases hkey : e'.1 = e.1
    · -- the rows after it are of other trades
      have hnone : es.find? (fun e'' => e''.1 = e.1) = none := by
        rw [List.find?_eq_none]
        intro e'' he'' hsame
        exact hnot (List.mem_map.mpr ⟨e'', he'', (of_decide_eq_true hsame).trans hkey.symm⟩)
      rw [if_pos hkey.symm, ih hrest]
      simp [hkey, hnone]
    · rw [if_neg fun h => hkey h.symm, ih hrest]
      simp [hkey]

/-- The trades after a tick. -/
theorem entries_onPriceTick : (onPriceTick policy symbol markPrice nowMs s).2.trades.entries =
    s.trades.entries.map fun e => (e.1, settled policy symbol markPrice nowMs s e.1 e.2) := by
  unfold onPriceTick loadOpenPositions
  rw [entries_foldl_tickRow]
  apply List.map_congr_left
  rintro ⟨tradeId, t⟩ hmem
  have hnodup : ((s.trades.entries.filter fun e => IsOpenOf symbol e.2).map Prod.fst).Nodup :=
    s.trades.nodupKeys.sublist (List.filter_sublist.map _)
  -- the rows are visited one by one, each for its own trade
  rw [foldl_rows_of_nodup hnodup (fun e => snapshot s markPrice e.1 e.2) fun _ => rfl]
  unfold settled
  by_cases hopen : IsOpenOf symbol t
  · -- the row of the trade is the only one with its id
    have hfind : (s.trades.entries.filter fun e => IsOpenOf symbol e.2).find?
        (fun e => e.1 = tradeId) = some (tradeId, t) := by
      have hrow : (tradeId, t) ∈ s.trades.entries.filter fun e => IsOpenOf symbol e.2 :=
        List.mem_filter.mpr ⟨hmem, decide_eq_true hopen⟩
      cases hfound : (s.trades.entries.filter fun e => IsOpenOf symbol e.2).find?
          (fun e => e.1 = tradeId) with
      | none =>
        have hnone := List.find?_eq_none.mp hfound _ hrow
        simp at hnone
      | some e =>
        have hid : e.1 = tradeId := by simpa using List.find?_some hfound
        have heq : e = (tradeId, t) := List.inj_on_of_nodup_map hnodup
          (List.mem_of_find?_eq_some hfound) hrow hid
        rw [heq]
    rw [hfind, if_pos hopen]
  -- a closed trade, or one of another symbol, is not among the rows
  · have hfind : (s.trades.entries.filter fun e => IsOpenOf symbol e.2).find?
        (fun e => e.1 = tradeId) = none := by
      rw [List.find?_eq_none]
      rintro e he hid
      obtain ⟨hentry, hrow⟩ := List.mem_filter.mp he
      have heq : e = (tradeId, t) := List.inj_on_of_nodup_map s.trades.nodupKeys hentry hmem
        (of_decide_eq_true hid)
      rw [heq] at hrow
      exact hopen (of_decide_eq_true hrow)
    rw [hfind, if_neg hopen]

/-- A trade after a tick. -/
theorem get?_onPriceTick (tradeId : String) :
    (onPriceTick policy symbol markPrice nowMs s).2.trades.get? tradeId =
      (s.trades.get? tradeId).map (settled policy symbol markPrice nowMs s tradeId) := by
  apply Option.ext
  intro t'
  rw [← Dict.mem_entries_iff, entries_onPriceTick, List.mem_map]
  constructor
  · rintro ⟨⟨id, t⟩, hmem, heq⟩
    obtain ⟨rfl, rfl⟩ := Prod.mk.inj heq
    rw [Dict.mem_entries_iff.mp hmem]
    rfl
  · intro hget
    obtain ⟨t, ht, rfl⟩ := Option.map_eq_some_iff.mp hget
    exact ⟨(tradeId, t), Dict.mem_entries_iff.mpr ht, rfl⟩

theorem protections_onPriceTick :
    (onPriceTick policy symbol markPrice nowMs s).2.protections = s.protections := by
  have hrows : ∀ (rows : List PositionSnapshot) (acc : List FuturesPaperClose × FuturesPaperState),
      (rows.foldl (tickRow policy nowMs) acc).2.protections = acc.2.protections := by
    intro rows
    induction rows with
    | nil => exact fun _ => rfl
    | cons pos rows ih =>
      intro acc
      rw [List.foldl_cons, ih, protections_tickRow]
  exact hrows _ _

/-- A tick of the loop wants to close a trade of this symbol and side. -/
def ClosesSome (policy : Policy) (rows : List PositionSnapshot) (key : String × PositionSide) :
    Prop :=
  ∃ pos ∈ rows, (pos.symbol, pos.side) = key ∧ (qtyToClose (policy pos) pos).isSome

theorem closesSome_iff {key : String × PositionSide} :
    ClosesSome policy (loadOpenPositions s symbol markPrice) key ↔
      ∃ id t, s.trades.get? id = some t ∧ (t.symbol, t.side) = key ∧ IsOpenOf symbol t ∧
        (qtyToClose (policy (snapshot s markPrice id t)) (snapshot s markPrice id t)).isSome := by
  unfold ClosesSome loadOpenPositions
  constructor
  · rintro ⟨pos, hmem, hkey, hclose⟩
    obtain ⟨e, he, rfl⟩ := List.mem_map.mp hmem
    obtain ⟨hentry, hopen⟩ := List.mem_filter.mp he
    exact ⟨e.1, e.2, Dict.mem_entries_iff.mp hentry, hkey, of_decide_eq_true hopen, hclose⟩
  · rintro ⟨id, t, hrow, hkey, hopen, hclose⟩
    refine ⟨snapshot s markPrice id t, ?_, hkey, hclose⟩
    have hentry : (id, t) ∈ s.trades.entries.filter fun e => IsOpenOf symbol e.2 :=
      List.mem_filter.mpr ⟨Dict.mem_entries_iff.mpr hrow, decide_eq_true hopen⟩
    exact List.mem_map.mpr ⟨(id, t), hentry, rfl⟩

/-- The position of a symbol and side is emptied by the first trade that is closed. -/
theorem positionSize_foldl_tickRow (rows : List PositionSnapshot)
    (acc : List FuturesPaperClose × FuturesPaperState) (key : String × PositionSide) :
    (ClosesSome policy rows key → positionSize (rows.foldl (tickRow policy nowMs) acc).2 key = 0) ∧
      (¬ ClosesSome policy rows key →
        positionSize (rows.foldl (tickRow policy nowMs) acc).2 key = positionSize acc.2 key) := by
  induction rows generalizing acc with
  | nil => exact ⟨fun ⟨_, hmem, _⟩ => absurd hmem List.not_mem_nil, fun _ => rfl⟩
  | cons pos rows ih =>
    rw [List.foldl_cons]
    obtain ⟨hzero, hsame⟩ := ih (tickRow policy nowMs acc pos)
    by_cases hrest : ClosesSome policy rows key
    · have hsome : ClosesSome policy (pos :: rows) key := by
        obtain ⟨pos', hmem, hpos'⟩ := hrest
        exact ⟨pos', List.mem_cons_of_mem _ hmem, hpos'⟩
      exact ⟨fun _ => hzero hrest, fun hnone => absurd hsome hnone⟩
    · rw [hsame hrest, positionSize_tickRow]
      constructor
      · rintro ⟨pos', hmem, hpos'⟩
        rcases List.mem_cons.mp hmem with rfl | hmem
        · rw [if_pos hpos']
        · exact absurd ⟨pos', hmem, hpos'⟩ hrest
      · intro hnone
        rw [if_neg fun hpos => hnone ⟨pos, List.mem_cons_self, hpos⟩]

variable (policy symbol markPrice nowMs s) in
/-- The sizes after a tick. -/
theorem positionSize_onPriceTick (key : String × PositionSide) :
    (ClosesSome policy (loadOpenPositions s symbol markPrice) key →
        positionSize (onPriceTick policy symbol markPrice nowMs s).2 key = 0) ∧
      (¬ ClosesSome policy (loadOpenPositions s symbol markPrice) key →
        positionSize (onPriceTick policy symbol markPrice nowMs s).2 key = positionSize s key) :=
  positionSize_foldl_tickRow _ _ key

/-- What a tick answers: the trades the policy closes. -/
theorem closes_onPriceTick : (onPriceTick policy symbol markPrice nowMs s).1 =
    (loadOpenPositions s symbol markPrice).filterMap fun pos =>
      (qtyToClose (policy pos) pos).map fun qtyClosed =>
        closeResult pos qtyClosed (policy pos).reason := by
  have hrows : ∀ (rows : List PositionSnapshot) (acc : List FuturesPaperClose × FuturesPaperState),
      (rows.foldl (tickRow policy nowMs) acc).1 = acc.1 ++ rows.filterMap fun pos =>
        (qtyToClose (policy pos) pos).map fun qtyClosed =>
          closeResult pos qtyClosed (policy pos).reason := by
    intro rows
    induction rows with
    | nil => intro acc; simp
    | cons pos rows ih =>
      intro acc
      rw [List.foldl_cons, ih]
      unfold tickRow
      cases hclose : qtyToClose (policy pos) pos with
      | none => simp [hclose]
      | some qtyClosed => simp [hclose]
  exact hrows _ _

/-! ### One trade -/

/-- The tick closes the trade. -/
def ClosedBy (policy : Policy) (symbol : String) (markPrice : ℚ) (s : FuturesPaperState)
    (tradeId : String) (t : PaperTrade) : Prop :=
  IsOpenOf symbol t ∧ (qtyToClose (policy (snapshot s markPrice tradeId t))
    (snapshot s markPrice tradeId t)).isSome

theorem key_settled (tradeId : String) (t : PaperTrade) :
    ((settled policy symbol markPrice nowMs s tradeId t).symbol,
      (settled policy symbol markPrice nowMs s tradeId t).side) = (t.symbol, t.side) := by
  unfold settled closedRow
  split_ifs
  · cases qtyToClose (policy (snapshot s markPrice tradeId t)) (snapshot s markPrice tradeId t) with
    | none => rfl
    | some qtyClosed => rfl
  · rfl

theorem qty_settled (tradeId : String) (t : PaperTrade) :
    (settled policy symbol markPrice nowMs s tradeId t).qty = t.qty := by
  unfold settled closedRow
  split_ifs
  · cases qtyToClose (policy (snapshot s markPrice tradeId t)) (snapshot s markPrice tradeId t) with
    | none => rfl
    | some qtyClosed => rfl
  · rfl

/-- A trade is open after a tick if it was open and is not closed by it. -/
theorem exit_settled_eq_none_iff (tradeId : String) (t : PaperTrade) :
    (settled policy symbol markPrice nowMs s tradeId t).exit = none ↔
      t.exit = none ∧ ¬ ClosedBy policy symbol markPrice s tradeId t := by
  unfold settled closedRow ClosedBy
  by_cases hopen : IsOpenOf symbol t
  · rw [if_pos hopen]
    cases qtyToClose (policy (snapshot s markPrice tradeId t)) (snapshot s markPrice tradeId t) with
    | none => simp
    | some qtyClosed => simp [hopen]
  · rw [if_neg hopen]
    simp [hopen]

/-- A trade that is not closed is not written at all. -/
theorem settled_of_not_closedBy {tradeId : String} {t : PaperTrade}
    (hstays : ¬ ClosedBy policy symbol markPrice s tradeId t) :
    settled policy symbol markPrice nowMs s tradeId t = t := by
  unfold settled closedRow
  split_ifs with hopen
  · cases hclose : qtyToClose (policy (snapshot s markPrice tradeId t))
        (snapshot s markPrice tradeId t) with
    | none => rfl
    | some qtyClosed => exact absurd ⟨hopen, by rw [hclose]; rfl⟩ hstays
  · rfl

/-- The open trades after a tick. -/
theorem open_onPriceTick_iff {tradeId : String} {t : PaperTrade} (hopen : t.exit = none) :
    (onPriceTick policy symbol markPrice nowMs s).2.trades.get? tradeId = some t ↔
      s.trades.get? tradeId = some t ∧ ¬ ClosedBy policy symbol markPrice s tradeId t := by
  rw [get?_onPriceTick, Option.map_eq_some_iff]
  constructor
  · rintro ⟨t, hrow, rfl⟩
    have hstays := ((exit_settled_eq_none_iff tradeId t).mp hopen).2
    rw [settled_of_not_closedBy hstays]
    exact ⟨hrow, hstays⟩
  · rintro ⟨hrow, hstays⟩
    exact ⟨t, hrow, settled_of_not_closedBy hstays⟩

/-- The answers of a symbol and side, from the rows of that symbol and side. -/
theorem closes_filter_eq (key : String × PositionSide) :
    (onPriceTick policy symbol markPrice nowMs s).1.filter
        (fun close => (close.symbol, close.side) = key) =
      ((s.trades.entries.filter fun e => IsOpenOf symbol e.2 ∧ (e.2.symbol, e.2.side) = key).map
        fun e => snapshot s markPrice e.1 e.2).filterMap fun pos =>
          (qtyToClose (policy pos) pos).map fun qtyClosed =>
            closeResult pos qtyClosed (policy pos).reason := by
  rw [closes_onPriceTick]
  unfold loadOpenPositions
  induction s.trades.entries with
  | nil => rfl
  | cons e es ih =>
    by_cases hopen : IsOpenOf symbol e.2
    · by_cases hkey : (e.2.symbol, e.2.side) = key
      · cases hclose : qtyToClose (policy (snapshot s markPrice e.1 e.2))
            (snapshot s markPrice e.1 e.2) with
        | none => simpa [hopen, hkey, hclose] using ih
        | some qtyClosed =>
          have hsame : ((snapshot s markPrice e.1 e.2).symbol,
              (snapshot s markPrice e.1 e.2).side) = key := hkey
          simpa [hopen, hkey, hclose, closeResult, hsame] using ih
      · cases hclose : qtyToClose (policy (snapshot s markPrice e.1 e.2))
            (snapshot s markPrice e.1 e.2) with
        | none => simpa [hopen, hkey, hclose] using ih
        | some qtyClosed =>
          have hother : ¬ ((snapshot s markPrice e.1 e.2).symbol,
              (snapshot s markPrice e.1 e.2).side) = key := hkey
          simpa [hopen, hkey, hclose, closeResult, hother] using ih
    · simpa [hopen] using ih

end Tick

end FuturesPaper

end Botik
