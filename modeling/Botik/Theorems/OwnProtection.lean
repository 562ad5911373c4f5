import Mathlib.Algebra.Order.Field.Basic
import Mathlib.Algebra.Order.Field.Rat
import Mathlib.Order.Interval.Set.LinearOrder
import Botik.Execution.FuturesPaperFacts
import Botik.Library.Runs

/-!
# The stop and the target of a futures paper trade

`open_position` gets a stop and a target and stores neither. The ticks read the protection of the
symbol and side instead, which opens and ticks never write, and the time of the opening in whole
seconds. A trade keeps its own stop and target only where these say the same.

## Main definitions

* `FuturesPaper.Reaches` — a call at which a trade should be closed
* `FuturesPaper.KeepsOwn` — the stored protection and time say what the trade asked for

## Main results

* `FuturesPaper.isOpen_run_iff` — when a trade is open after a run
* `follows_own_protection_iff` — the trades that keep their own stop and target
-/

namespace Botik

open Runs SimpleExitPolicy

/-! ### Prices between a stop and a target -/

/-- Open intervals of a dense order are equal if their ends are, or if both are empty. -/
theorem Ioo_eq_Ioo_iff {α : Type*} [LinearOrder α] [DenselyOrdered α] {a b c d : α} :
    Set.Ioo a b = Set.Ioo c d ↔ (a = c ∧ b = d) ∨ (b ≤ a ∧ d ≤ c) := by
  constructor
  · intro heq
    by_cases hab : a < b
    · -- a nonempty interval has its ends as bounds
      have hcd : c < d := by
        rw [← Set.nonempty_Ioo, ← heq]
        exact Set.nonempty_Ioo.mpr hab
      obtain ⟨hca, hbd⟩ := (Set.Ioo_subset_Ioo_iff hab).mp heq.subset
      obtain ⟨hac, hdb⟩ := (Set.Ioo_subset_Ioo_iff hcd).mp heq.symm.subset
      exact Or.inl ⟨le_antisymm hac hca, le_antisymm hbd hdb⟩
    · refine Or.inr ⟨not_lt.mp hab, ?_⟩
      rw [Set.Ioo_eq_empty hab] at heq
      exact Set.Ioo_eq_empty_iff.mp heq.symm |> not_lt.mp
  · rintro (⟨rfl, rfl⟩ | ⟨hba, hdc⟩)
    · rfl
    · rw [Set.Ioo_eq_empty (not_lt.mpr hba), Set.Ioo_eq_empty (not_lt.mpr hdc)]

namespace FuturesPaper

/-- The price is at the stop or at the target. -/
def Hit (side : PositionSide) (price stopLoss takeProfit : ℚ) : Prop :=
  StopHit side price stopLoss ∨ TargetHit side price takeProfit

/-- No price lies between the stop and the target. -/
def NoRoom (side : PositionSide) (stopLoss takeProfit : ℚ) : Prop :=
  match side with
  | .long => takeProfit ≤ stopLoss
  | .short => stopLoss ≤ takeProfit

/-- The prices at which the position stays. -/
def room (side : PositionSide) (stopLoss takeProfit : ℚ) : Set ℚ :=
  match side with
  | .long => Set.Ioo stopLoss takeProfit
  | .short => Set.Ioo takeProfit stopLoss

theorem mem_room_iff {side : PositionSide} {price stopLoss takeProfit : ℚ} :
    price ∈ room side stopLoss takeProfit ↔ ¬ Hit side price stopLoss takeProfit := by
  cases side
  · simp [room, Hit, StopHit, TargetHit]
  · simp [room, Hit, StopHit, TargetHit, and_comm]

theorem room_eq_iff {side : PositionSide} {stopLoss takeProfit stopLoss' takeProfit' : ℚ} :
    room side stopLoss takeProfit = room side stopLoss' takeProfit' ↔
      (stopLoss = stopLoss' ∧ takeProfit = takeProfit') ∨
        (NoRoom side stopLoss takeProfit ∧ NoRoom side stopLoss' takeProfit') := by
  cases side
  · exact Ioo_eq_Ioo_iff
  · exact Ioo_eq_Ioo_iff.trans (or_congr_left and_comm)

theorem noRoom_iff {side : PositionSide} {stopLoss takeProfit : ℚ} :
    NoRoom side stopLoss takeProfit ↔ ∀ price, Hit side price stopLoss takeProfit := by
  have hempty : NoRoom side stopLoss takeProfit ↔ room side stopLoss takeProfit = ∅ := by
    cases side
    · exact not_lt.symm.trans Set.Ioo_eq_empty_iff.symm
    · exact not_lt.symm.trans Set.Ioo_eq_empty_iff.symm
  rw [hempty, Set.eq_empty_iff_forall_notMem]
  simp only [mem_room_iff, not_not]

/-- Two protections that decide every price alike. -/
theorem hit_congr_iff {side : PositionSide} {stopLoss takeProfit stopLoss' takeProfit' : ℚ} :
    (∀ price, Hit side price stopLoss takeProfit ↔ Hit side price stopLoss' takeProfit') ↔
      (stopLoss = stopLoss' ∧ takeProfit = takeProfit') ∨
        (NoRoom side stopLoss takeProfit ∧ NoRoom side stopLoss' takeProfit') := by
  rw [← room_eq_iff, Set.ext_iff]
  apply forall_congr'
  intro price
  rw [mem_room_iff, mem_room_iff, not_iff_not]

/-! ### Calls under the simple policy -/

/-- The ticks ask the simple policy with this timeout. -/
def Call.IsSimple (holdTimeoutMs : ℤ) : Call → Prop
  | .openPosition _ _ _ => True
  | .onPriceTick policy _ _ nowMs => policy = onTick holdTimeoutMs nowMs

/-- The call is a tick of the symbol at which a trade with this stop, target and opening time is
due. -/
def Reaches (holdTimeoutMs : ℤ) (symbol : String) (side : PositionSide)
    (stopLoss takeProfit : ℚ) (openedAtMs : ℤ) : Call → Prop
  | .openPosition _ _ _ => False
  | .onPriceTick _ symbol' price nowMs => symbol' = symbol ∧
      (Hit side price stopLoss takeProfit ∨ TimedOut holdTimeoutMs nowMs openedAtMs)

/-- The stop a tick reads for a symbol and side. -/
def storedStop (s : FuturesPaperState) (key : String × PositionSide) : ℚ :=
  ((s.protections.get? key).bind PaperProtection.slPrice).getD 0

/-- The target a tick reads for a symbol and side. -/
def storedTarget (s : FuturesPaperState) (key : String × PositionSide) : ℚ :=
  ((s.protections.get? key).bind PaperProtection.tpPrice).getD 0

/-- The call is a tick at which the trade is due by what the tables say. -/
def StoredReaches (holdTimeoutMs : ℤ) (s : FuturesPaperState) (t : PaperTrade) : Call → Prop :=
  Reaches holdTimeoutMs t.symbol t.side (storedStop s (t.symbol, t.side))
    (storedTarget s (t.symbol, t.side)) (t.openedAtSec * 1000)

section Steps

variable {holdTimeoutMs : ℤ} {s : FuturesPaperState} {tradeId : String} {t : PaperTrade} {c : Call}

/-- A call writes no protection. -/
theorem protections_step (c : Call) (s : FuturesPaperState) :
    (step c s).protections = s.protections := by
  cases c with
  | openPosition o tradeId nowMs =>
    simp only [step, openPosition]
    split_ifs
    · rfl
    · rfl
  | onPriceTick policy symbol markPrice nowMs => exact protections_onPriceTick

theorem protections_run (calls : List Call) (s : FuturesPaperState) :
    (run step calls s).protections = s.protections := by
  induction calls generalizing s with
  | nil => rfl
  | cons c calls ih => rw [run_cons, ih, protections_step]

/-- Opening another position leaves the row of a trade. -/
theorem get?_openPosition {o : OpenRequest} {newId : String} {nowMs : ℤ}
    (hrow : s.trades.get? tradeId = some t) :
    (openPosition o newId nowMs s).2.trades.get? tradeId = some t := by
  unfold openPosition
  split_ifs with htaken
  · exact hrow
  · have hne : tradeId ≠ newId := by
      rintro rfl
      rw [hrow] at htaken
      exact htaken rfl
    exact (Dict.get?_set_of_ne hne _ _).trans hrow

variable (tradeId) in
/-- The simple policy closes a trade at the ticks at which the tables say so. -/
theorem closedBy_simple_iff {symbol : String} {price : ℚ} {nowMs : ℤ} (hopen : t.exit = none) :
    ClosedBy (onTick holdTimeoutMs nowMs) symbol price s tradeId t ↔
      StoredReaches holdTimeoutMs s t
        (.onPriceTick (onTick holdTimeoutMs nowMs) symbol price nowMs) := by
  have hcloses : (qtyToClose (onTick holdTimeoutMs nowMs (snapshot s price tradeId t))
      (snapshot s price tradeId t)).isSome ↔ Closes holdTimeoutMs nowMs
        (snapshot s price tradeId t) := by
    rw [← onTick_closeAll_iff]
    rcases onTick_action holdTimeoutMs nowMs (snapshot s price tradeId t) with haction | haction
    · simp [qtyToClose, haction]
    · simp [qtyToClose, haction]
  unfold ClosedBy
  rw [hcloses]
  constructor
  · rintro ⟨⟨hsymbol, -⟩, hstop | htarget | htime⟩
    · exact ⟨hsymbol.symm, Or.inl (Or.inl hstop)⟩
    · exact ⟨hsymbol.symm, Or.inl (Or.inr htarget)⟩
    · exact ⟨hsymbol.symm, Or.inr htime⟩
  · rintro ⟨hsymbol, (hstop | htarget) | htime⟩
    · exact ⟨⟨hsymbol.symm, hopen⟩, Or.inl hstop⟩
    · exact ⟨⟨hsymbol.symm, hopen⟩, Or.inr (Or.inl htarget)⟩
    · exact ⟨⟨hsymbol.symm, hopen⟩, Or.inr (Or.inr htime)⟩

/-- One call: an open trade stays as it is or is closed. -/
theorem row_step_of_open (hc : c.IsSimple holdTimeoutMs) (hrow : s.trades.get? tradeId = some t)
    (hopen : t.exit = none) :
    (¬ StoredReaches holdTimeoutMs s t c ∧ (step c s).trades.get? tradeId = some t) ∨
      (StoredReaches holdTimeoutMs s t c ∧ ¬ IsOpen (step c s) tradeId) := by
  cases c with
  | openPosition o newId nowMs => exact Or.inl ⟨id, get?_openPosition hrow⟩
  | onPriceTick policy symbol price nowMs =>
    obtain rfl : policy = onTick holdTimeoutMs nowMs := hc
    rw [← closedBy_simple_iff tradeId hopen]
    by_cases hclosed : ClosedBy (onTick holdTimeoutMs nowMs) symbol price s tradeId t
    · refine Or.inr ⟨hclosed, fun ⟨t', hrow', hopen'⟩ => ?_⟩
      obtain ⟨hbefore, hstays⟩ := (open_onPriceTick_iff hopen').mp hrow'
      rw [hrow] at hbefore
      obtain rfl := Option.some.inj hbefore
      exact hstays hclosed
    · exact Or.inl ⟨hclosed, (open_onPriceTick_iff hopen).mpr ⟨hrow, hclosed⟩⟩

theorem isSome_step (hknown : (s.trades.get? tradeId).isSome) (c : Call) :
    ((step c s).trades.get? tradeId).isSome := by
  obtain ⟨t, hrow⟩ := Option.isSome_iff_exists.mp hknown
  cases c with
  | openPosition o newId nowMs =>
    have hsame : (step (.openPosition o newId nowMs) s).trades.get? tradeId = some t :=
      get?_openPosition hrow
    rw [hsame]
    rfl
  | onPriceTick policy symbol price nowMs =>
    change ((onPriceTick policy symbol price nowMs s).2.trades.get? tradeId).isSome
    rw [get?_onPriceTick, hrow]
    rfl

/-- No call opens a closed trade again. -/
theorem isOpen_of_step (hknown : (s.trades.get? tradeId).isSome)
    (hopen : IsOpen (step c s) tradeId) : IsOpen s tradeId := by
  obtain ⟨t, hrow⟩ := Option.isSome_iff_exists.mp hknown
  obtain ⟨t', hrow', hopen'⟩ := hopen
  cases c with
  | openPosition o newId nowMs =>
    have hsame : (step (.openPosition o newId nowMs) s).trades.get? tradeId = some t :=
      get?_openPosition hrow
    rw [hsame] at hrow'
    obtain rfl := Option.some.inj hrow'
    exact ⟨t, hrow, hopen'⟩
  | onPriceTick policy symbol price nowMs =>
    exact ⟨t', ((open_onPriceTick_iff hopen').mp hrow').1, hopen'⟩

/-- What the tables say of a trade depends on the protections only. -/
theorem storedReaches_step : StoredReaches holdTimeoutMs (step c s) t =
    StoredReaches holdTimeoutMs s t := by
  unfold StoredReaches storedStop storedTarget
  rw [protections_step]

end Steps

section Runs

variable {holdTimeoutMs : ℤ} {s : FuturesPaperState} {tradeId : String} {t : PaperTrade}
  {calls : List Call}

theorem not_isOpen_run (hknown : (s.trades.get? tradeId).isSome) (hclosed : ¬ IsOpen s tradeId) :
    ¬ IsOpen (run step calls s) tradeId := by
  induction calls generalizing s with
  | nil => exact hclosed
  | cons c calls ih => exact ih (isSome_step hknown c) fun h => hclosed (isOpen_of_step hknown h)

/-- An open trade is open after a run if the tables never said it was due. -/
theorem isOpen_run_iff (hrow : s.trades.get? tradeId = some t) (hopen : t.exit = none)
    (hcalls : ∀ c ∈ calls, c.IsSimple holdTimeoutMs) :
    IsOpen (run step calls s) tradeId ↔ ∀ c ∈ calls, ¬ StoredReaches holdTimeoutMs s t c := by
  induction calls generalizing s with
  | nil => exact iff_of_true ⟨t, hrow, hopen⟩ fun _ hc => absurd hc List.not_mem_nil
  | cons c calls ih =>
    obtain ⟨hc, hrest⟩ := List.forall_mem_cons.mp hcalls
    rw [run_cons, List.forall_mem_cons]
    rcases row_step_of_open hc hrow hopen with ⟨hstays, hrow'⟩ | ⟨hdue, hclosed⟩
    · rw [ih hrow' hrest, storedReaches_step]
      exact (and_iff_right hstays).symm
    · have hknown : (s.trades.get? tradeId).isSome := by rw [hrow]; rfl
      exact iff_of_false (not_isOpen_run (isSome_step hknown c) hclosed) fun h => h.1 hdue

end Runs

/-! ### A trade's own stop and target -/

/-- What the tables say of a trade is what it was opened with: the protection of its symbol and
side decides every price alike, and the time of the opening loses no milliseconds. -/
def KeepsOwn (holdTimeoutMs : ℤ) (s : FuturesPaperState) (o : OpenRequest) (nowMs : ℤ) : Prop :=
  ((storedStop s (o.symbol, o.side) = o.stopLoss ∧
      storedTarget s (o.symbol, o.side) = o.takeProfit) ∨
    (NoRoom o.side (storedStop s (o.symbol, o.side)) (storedTarget s (o.symbol, o.side)) ∧
      NoRoom o.side o.stopLoss o.takeProfit)) ∧
  (0 < holdTimeoutMs → nowMs % 1000 = 0 ∨ NoRoom o.side o.stopLoss o.takeProfit)

/-- The tables decide every later tick as the trade asked for. -/
theorem keepsOwn_iff {holdTimeoutMs : ℤ} {s : FuturesPaperState} {o : OpenRequest} {nowMs : ℤ} :
    KeepsOwn holdTimeoutMs s o nowMs ↔ ∀ c, StoredReaches holdTimeoutMs s (o.trade nowMs) c ↔
      Reaches holdTimeoutMs o.symbol o.side o.stopLoss o.takeProfit nowMs c := by
  unfold KeepsOwn
  rw [← hit_congr_iff, noRoom_iff]
  constructor
  · rintro ⟨hhit, htime⟩ c
    cases c with
    | openPosition o' tradeId nowMs' => exact Iff.rfl
    | onPriceTick policy symbol price laterMs =>
      refine and_congr_right fun _ => ?_
      change Hit o.side price (storedStop s (o.symbol, o.side))
        (storedTarget s (o.symbol, o.side)) ∨
          TimedOut holdTimeoutMs laterMs (seconds nowMs * 1000) ↔ _
      rw [hhit price]
      apply or_congr_right'
      intro hstays
      refine and_congr_right fun hpos => ?_
      rcases htime hpos with hwhole | hroom
      · have hsame : seconds nowMs * 1000 = nowMs := by unfold seconds; omega
        rw [hsame]
      · exact absurd (hroom price) hstays
  · intro h
    -- long before the timeout only the price decides
    have hhit : ∀ price, Hit o.side price (storedStop s (o.symbol, o.side))
        (storedTarget s (o.symbol, o.side)) ↔ Hit o.side price o.stopLoss o.takeProfit := by
      intro price
      have hearly : ∀ openedAtMs, nowMs - 1000 ≤ openedAtMs →
          ¬ TimedOut holdTimeoutMs (nowMs - 1000) openedAtMs := by
        rintro openedAtMs hle ⟨hpos, helapsed⟩
        omega
      have hsecond : nowMs - 1000 ≤ seconds nowMs * 1000 := by unfold seconds; omega
      have hcall := h (.onPriceTick (onTick 0 0) o.symbol price (nowMs - 1000))
      have hstored : StoredReaches holdTimeoutMs s (o.trade nowMs)
          (.onPriceTick (onTick 0 0) o.symbol price (nowMs - 1000)) ↔
            Hit o.side price (storedStop s (o.symbol, o.side))
              (storedTarget s (o.symbol, o.side)) := by
        refine (and_iff_right rfl).trans (or_iff_left ?_)
        exact hearly _ hsecond
      rw [← hstored, hcall]
      exact (and_iff_right rfl).trans (or_iff_left (hearly _ (by omega)))
    refine ⟨hhit, fun hpos => ?_⟩
    -- when the recorded second has timed out, the opening has not
    by_contra hneither
    push Not at hneither
    obtain ⟨hwhole, price, hstays⟩ := hneither
    have hcall := h (.onPriceTick (onTick 0 0) o.symbol price
      (seconds nowMs * 1000 + holdTimeoutMs))
    have htimed : TimedOut holdTimeoutMs (seconds nowMs * 1000 + holdTimeoutMs)
        (seconds nowMs * 1000) := ⟨hpos, by omega⟩
    obtain ⟨-, hown⟩ := hcall.mp ⟨rfl, Or.inr htimed⟩
    rcases hown with hown | ⟨-, helapsed⟩
    · exact hstays hown
    · unfold seconds at helapsed
      omega

end FuturesPaper

open FuturesPaper

/-- A trade opened in any run is open exactly until the first tick of its symbol that reaches its
own stop or target or its timeout, whatever follows, if and only if the tables keep what it was
opened with. -/
theorem follows_own_protection_iff (holdTimeoutMs : ℤ) (s : FuturesPaperState)
    (before : List Call) (o : OpenRequest) (tradeId : String) (nowMs : ℤ)
    (hnew : (run FuturesPaper.step before s).trades.get? tradeId = none) :
    (∀ after : List Call, (∀ c ∈ after, c.IsSimple holdTimeoutMs) →
      (IsOpen (run FuturesPaper.step (before ++ .openPosition o tradeId nowMs :: after) s) tradeId ↔
        ∀ c ∈ after,
          ¬ Reaches holdTimeoutMs o.symbol o.side o.stopLoss o.takeProfit nowMs c)) ↔
      KeepsOwn holdTimeoutMs s o nowMs := by
  rw [keepsOwn_iff]
  have hrow : (FuturesPaper.step (.openPosition o tradeId nowMs) (run FuturesPaper.step before s)).trades.get? tradeId =
      some (o.trade nowMs) := by
    change (openPosition o tradeId nowMs (run FuturesPaper.step before s)).2.trades.get? tradeId = _
    simp [openPosition, hnew]
  have hstored : StoredReaches holdTimeoutMs
      (FuturesPaper.step (.openPosition o tradeId nowMs) (run FuturesPaper.step before s)) (o.trade nowMs) =
        StoredReaches holdTimeoutMs s (o.trade nowMs) := by
    unfold StoredReaches storedStop storedTarget
    rw [protections_step, protections_run]
  have hopen : ∀ after : List Call, (∀ c ∈ after, c.IsSimple holdTimeoutMs) →
      (IsOpen (run FuturesPaper.step (before ++ .openPosition o tradeId nowMs :: after) s) tradeId ↔
        ∀ c ∈ after, ¬ StoredReaches holdTimeoutMs s (o.trade nowMs) c) := by
    intro after hafter
    rw [run_append, run_cons, isOpen_run_iff hrow rfl hafter, hstored]
  constructor
  · intro h c
    cases c with
    | openPosition o' tradeId' nowMs' => exact Iff.rfl
    | onPriceTick policy symbol price laterMs =>
      -- one tick after the opening tells the two apart
      have htick : ∀ c ∈ [Call.onPriceTick (onTick holdTimeoutMs laterMs) symbol price laterMs],
          c.IsSimple holdTimeoutMs := by simp [Call.IsSimple]
      have hsame := (hopen _ htick).symm.trans (h _ htick)
      simp only [List.mem_singleton, forall_eq] at hsame
      exact not_iff_not.mp hsame
  · intro h after hafter
    rw [hopen after hafter]
    simp only [h]

/-- A position with the stop 90 and the target 110. -/
def longFrom90To110 : OpenRequest := ⟨"BTCUSDT", .long, 100, 1, 90, 110⟩

/-- A tick at its entry price reaches neither. -/
theorem not_reaches_entryPrice :
    ¬ Reaches 0 "BTCUSDT" .long 90 110 0 (.onPriceTick (onTick 0 1) "BTCUSDT" 100 1) := by
  rintro ⟨-, (hstop | htarget) | htime⟩
  · have hbelow : ¬ StopHit .long 100 90 := by decide +kernel
    exact hbelow hstop
  · have habove : ¬ TargetHit .long 100 110 := by decide +kernel
    exact habove htarget
  · exact lt_irrefl 0 htime.1

/-- With its own protection saved, a trade keeps it. -/
theorem saved_protection_kept :
    IsOpen (run FuturesPaper.step [.openPosition longFrom90To110 "t" 0,
        .onPriceTick (onTick 0 1) "BTCUSDT" 100 1]
      (saveProtection "BTCUSDT" .long 90 110 ⟨.empty, .empty, .empty⟩)) "t" := by
  have hfollows := (follows_own_protection_iff 0
    (saveProtection "BTCUSDT" .long 90 110 ⟨.empty, .empty, .empty⟩)
    [] longFrom90To110 "t" 0 rfl).mpr ⟨Or.inl ⟨rfl, rfl⟩, fun h => absurd h (lt_irrefl 0)⟩
  apply (hfollows [.onPriceTick (onTick 0 1) "BTCUSDT" 100 1] (by simp [Call.IsSimple])).mpr
  intro c hc
  rw [List.mem_singleton.mp hc]
  exact not_reaches_entryPrice

/-- Nothing saves a protection when a position is opened: the first tick closes the trade at its
entry price, although that is neither its stop nor its target. -/
theorem closed_at_entry_price :
    ¬ ∀ (s : FuturesPaperState) (o : OpenRequest) (tradeId : String) (nowMs : ℤ),
      s.trades.get? tradeId = none → ∀ after : List Call, (∀ c ∈ after, c.IsSimple 0) →
        (IsOpen (run FuturesPaper.step (.openPosition o tradeId nowMs :: after) s) tradeId ↔
          ∀ c ∈ after, ¬ Reaches 0 o.symbol o.side o.stopLoss o.takeProfit nowMs c) := by
  intro h
  have hcall := h ⟨.empty, .empty, .empty⟩ longFrom90To110 "t" 0 rfl
    [.onPriceTick (onTick 0 1) "BTCUSDT" 100 1] (by simp [Call.IsSimple])
  have hopen := hcall.mpr (by
    intro c hc
    rw [List.mem_singleton.mp hc]
    exact not_reaches_entryPrice)
  obtain ⟨t, hrow, hexit⟩ := hopen
  have hclosed : ((run FuturesPaper.step [.openPosition longFrom90To110 "t" 0,
      .onPriceTick (onTick 0 1) "BTCUSDT" 100 1] ⟨.empty, .empty, .empty⟩).trades.get? "t").map
        PaperTrade.exit ≠ some none := by decide +kernel
  exact hclosed (by rw [hrow, Option.map_some, hexit])

end Botik
