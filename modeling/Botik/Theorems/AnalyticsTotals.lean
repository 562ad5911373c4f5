import Botik.AppService.AnalyticsRead
import Botik.Library.Sums
import Mathlib.Data.List.Dedup

/-!
# What the analytics count

Each table is read up to 250 trades, and the flag of the recent trades compares a list that was cut
to 20 with 20. Where a table has a column of the profit but lacks another one, as `outcomes` of the
trading process lacks `model_scope`, nothing is counted at all. So the analytics agree with all closed
trades exactly if there are none, or at most 20 in tables that can be read.

## Main definitions

* `AnalyticsRead.closedTrades` — all closed trades of both tables
* `AnalyticsRead.countedTrades` — those the snapshot is computed from
* `AnalyticsRead.Faithful` — the snapshot agrees with all of them
* `AnalyticsRead.Answered` — both queries return
* `AnalyticsRead.WithinLimits`, `AnalyticsRead.Countable` — the exact conditions for the total and
  for the snapshot

## Main results

* `cumulativePnl_eq` — a point of the curve sums up the trades up to its day
* `length_equityCurve` — the curve has a point for every day
* `total_iff` — when all closed trades are counted
* `faithful_iff`
-/

namespace Botik.AppService

namespace AnalyticsRead

/-- The closed trades of a table. -/
def allClosed (source : TradeSource) (table : Option TradeTable) : List ClosedTrade :=
  match table with
  | none => []
  | some table => table.rows.filterMap
      (closedTrade source.defaultScope ((pnlColumn source table).getD fun _ => none))

/-- All closed trades of both tables. -/
def closedTrades (db : Option Tables) : List ClosedTrade :=
  match db with
  | none => []
  | some db => allClosed futuresPaperSource db.futuresPaperTrades ++
      allClosed outcomesSource db.outcomes

/-- The trades that are read, none where a statement raises. -/
def countedTrades (newest : NewestFirst) (raises : Bool) (db : Option Tables) : List ClosedTrade :=
  match db with
  | none => []
  | some db => if raises then [] else (collectBoundedTrades newest db).getD []

/-- The days on which trades were closed. -/
def days (trades : List ClosedTrade) : List String := ((trades.map date).filter (· ≠ "")).dedup

/-- The profit of the trades up to a day. -/
def pnlUntil (trades : List ClosedTrade) (day : String) : ℚ :=
  ((trades.filter fun trade => date trade ≠ "" ∧ date trade ≤ day).map ClosedTrade.pnl).sum

/-- The totals and every point of the curve of a snapshot are those over all these trades, and the
flags tell whether there are more days or trades than are listed. -/
structure Faithful (snapshot : AnalyticsReadSnapshot) (trades : List ClosedTrade) : Prop where
  total : snapshot.summary.totalClosedTrades = trades.length
  wins : snapshot.summary.winningTrades = (trades.map ClosedTrade.win).sum
  pnl : snapshot.summary.totalNetPnl = (trades.map ClosedTrade.pnl).sum
  curve : ∀ point ∈ snapshot.equityCurve, point.cumulativePnl = pnlUntil trades point.date
  curveTruncated :
    snapshot.equityCurveTruncated = true ↔ snapshot.equityCurve.length < (days trades).length
  recentTruncated :
    snapshot.recentClosedTradesTruncated = true ↔
      snapshot.recentClosedTrades.length < trades.length

/-- A table with closed trades has a column of their profit. -/
def HasColumn (source : TradeSource) (table : Option TradeTable) : Prop :=
  ∀ t ∈ table, pnlColumn source t = none → allClosed source table = []

/-- A table that is queried has all the columns that are named. -/
def Resolves (source : TradeSource) (table : Option TradeTable) : Prop :=
  ∀ t ∈ table, pnlColumn source t ≠ none →
    queriedColumns.all (resolvesColumn t.columns) = true

/-- No statement raises. -/
structure Answered (raises : Bool) (db : Tables) : Prop where
  calm : raises = false
  futuresPaper : Resolves futuresPaperSource db.futuresPaperTrades
  outcomes : Resolves outcomesSource db.outcomes

/-- Each table has at most 250 closed trades, and a column of their profit if it has any. -/
structure WithinLimits (db : Tables) : Prop where
  futuresColumn : HasColumn futuresPaperSource db.futuresPaperTrades
  outcomesColumn : HasColumn outcomesSource db.outcomes
  futuresFew : (allClosed futuresPaperSource db.futuresPaperTrades).length ≤ maxTradesPerSource
  outcomesFew : (allClosed outcomesSource db.outcomes).length ≤ maxTradesPerSource

/-- No statement raises, and there are at most twenty closed trades, in tables with a column of the
profit. -/
structure Countable (raises : Bool) (db : Tables) : Prop where
  answered : Answered raises db
  futuresColumn : HasColumn futuresPaperSource db.futuresPaperTrades
  outcomesColumn : HasColumn outcomesSource db.outcomes
  few : (closedTrades (some db)).length ≤ recentClosedTradesLimit

/-! ### Reading -/

section Reading

variable {newest : NewestFirst} {source : TradeSource} {table : Option TradeTable}
  {trades : List ClosedTrade}

/-- A query raises exactly where a column is missing. -/
theorem readTable_eq_none_iff : readTable newest source table = none ↔ ¬ Resolves source table := by
  unfold readTable Resolves
  cases table with
  | none => simp
  | some t =>
    dsimp only
    cases hpnl : pnlColumn source t with
    | none => simp [hpnl]
    | some pnl => simp [hpnl]

theorem length_le_of_readTable (h : readTable newest source table = some trades) :
    trades.length ≤ (allClosed source table).length := by
  cases table with
  | none =>
    obtain rfl := Option.some.inj h
    exact le_refl _
  | some t =>
    unfold readTable at h
    unfold allClosed
    dsimp only at h ⊢
    cases hcolumn : pnlColumn source t with
    | none =>
      rw [hcolumn] at h
      obtain rfl := Option.some.inj h
      exact Nat.zero_le _
    | some pnl =>
      rw [hcolumn] at h
      dsimp only at h
      split_ifs at h
      obtain rfl := Option.some.inj h
      rw [List.length_reverse, List.length_take, (newest.perm _).length_eq]
      exact min_le_right _ _

theorem length_le_max_of_readTable (h : readTable newest source table = some trades) :
    trades.length ≤ maxTradesPerSource := by
  cases table with
  | none =>
    obtain rfl := Option.some.inj h
    exact Nat.zero_le _
  | some t =>
    unfold readTable at h
    dsimp only at h
    cases hcolumn : pnlColumn source t with
    | none =>
      rw [hcolumn] at h
      obtain rfl := Option.some.inj h
      exact Nat.zero_le _
    | some pnl =>
      rw [hcolumn] at h
      dsimp only at h
      split_ifs at h
      obtain rfl := Option.some.inj h
      rw [List.length_reverse, List.length_take]
      exact min_le_left _ _

/-- A table is read as it is if it is small. -/
theorem perm_of_readTable (h : readTable newest source table = some trades)
    (hcolumn : HasColumn source table)
    (hfew : (allClosed source table).length ≤ maxTradesPerSource) :
    trades.Perm (allClosed source table) := by
  cases table with
  | none =>
    obtain rfl := Option.some.inj h
    exact List.Perm.refl _
  | some t =>
    unfold readTable at h
    dsimp only at h
    cases hpnl : pnlColumn source t with
    | none =>
      rw [hpnl] at h
      obtain rfl := Option.some.inj h
      rw [hcolumn t rfl hpnl]
    | some pnl =>
      rw [hpnl] at h
      dsimp only at h
      split_ifs at h
      obtain rfl := Option.some.inj h
      rw [allClosed, hpnl] at hfew ⊢
      dsimp only [Option.getD_some] at hfew ⊢
      rw [List.take_of_length_le (by rwa [(newest.perm _).length_eq])]
      exact (List.reverse_perm _).trans (newest.perm _)

/-- A table of which everything was read has a column of the profit. -/
theorem hasColumn_of_length_le (h : readTable newest source table = some trades)
    (hall : (allClosed source table).length ≤ trades.length) : HasColumn source table := by
  rintro t rfl hcolumn
  have hnothing : readTable newest source (some t) = some [] := by
    rw [readTable, hcolumn]
  rw [hnothing] at h
  obtain rfl := Option.some.inj h
  exact List.length_eq_zero_iff.mp (Nat.le_zero.mp hall)

end Reading

/-! ### The curve -/

section Curve

variable {daily : String → ℚ} {cumulative : ℚ} {dates : List String}

theorem length_curve : (curve daily cumulative dates).length = dates.length := by
  induction dates generalizing cumulative with
  | nil => rfl
  | cons d dates ih => rw [curve, List.length_cons, ih, List.length_cons]

theorem date_mem_of_mem_curve {point : AnalyticsEquityPoint}
    (h : point ∈ curve daily cumulative dates) : point.date ∈ dates := by
  induction dates generalizing cumulative with
  | nil => cases h
  | cons d dates ih =>
    rcases List.mem_cons.mp h with rfl | hlater
    · exact List.mem_cons_self
    · exact List.mem_cons_of_mem d (ih hlater)

/-- Over ascending dates a point sums up the days up to its own. -/
theorem cumulative_of_mem_curve (hsorted : dates.Pairwise (· < ·)) {point : AnalyticsEquityPoint}
    (h : point ∈ curve daily cumulative dates) :
    point.cumulativePnl = cumulative + ((dates.filter (· ≤ point.date)).map daily).sum := by
  induction dates generalizing cumulative with
  | nil => cases h
  | cons d dates ih =>
    obtain ⟨hfirst, hrest⟩ := List.pairwise_cons.mp hsorted
    rcases List.mem_cons.mp h with rfl | hlater
    · -- the first day: all others come later
      have hnone : dates.filter (· ≤ d) = [] :=
        List.filter_eq_nil_iff.mpr fun d' hd' => by simpa using hfirst d' hd'
      simp [hnone]
    · have hle : d ≤ point.date := (hfirst _ (date_mem_of_mem_curve hlater)).le
      rw [ih hrest hlater, List.filter_cons_of_pos (by simpa using hle), List.map_cons,
        List.sum_cons, add_assoc]

end Curve

section Trades

variable (trades : List ClosedTrade)

theorem sortedDates_pairwise : (sortedDates trades).Pairwise (· < ·) := by
  have hle : (sortedDates trades).Pairwise (· ≤ ·) := List.pairwise_insertionSort _ _
  have hnodup : (sortedDates trades).Nodup :=
    (List.perm_insertionSort _ _).nodup_iff.mpr (dailyPnls trades).nodupKeys
  exact hle.imp₂ (fun _ _ hab hne => lt_of_le_of_ne hab hne) hnodup

theorem mem_sortedDates {d : String} :
    d ∈ sortedDates trades ↔ d ≠ "" ∧ ∃ trade ∈ trades, date trade = d := by
  rw [sortedDates, List.mem_insertionSort, dailyPnls, Dict.mem_keys_tally, datedPnls]
  simp only [List.mem_map, List.mem_filter, decide_eq_true_eq]
  constructor
  · rintro ⟨r, ⟨⟨trade, htrade, rfl⟩, hne⟩, rfl⟩
    exact ⟨hne, trade, htrade, rfl⟩
  · rintro ⟨hne, trade, htrade, rfl⟩
    exact ⟨_, ⟨⟨trade, htrade, rfl⟩, hne⟩, rfl⟩

/-- The profit up to a day, over the dated profits. -/
theorem pnlUntil_eq (day : String) :
    pnlUntil trades day = (((datedPnls trades).filter fun r => r.1 ≤ day).map Prod.snd).sum := by
  rw [pnlUntil, datedPnls, List.filter_filter, List.filter_map, List.map_map]
  congr 2
  apply List.filter_congr
  intro trade _
  simp [Bool.and_comm]

/-- A point of the curve sums up the trades up to its day. -/
theorem cumulativePnl_eq {point : AnalyticsEquityPoint} (h : point ∈ equityCurve trades) :
    point.cumulativePnl = pnlUntil trades point.date := by
  have hnodup : ((sortedDates trades).filter (· ≤ point.date)).Nodup :=
    ((List.perm_insertionSort _ _).nodup_iff.mpr (dailyPnls trades).nodupKeys).filter _
  have hkeys : ∀ r ∈ (datedPnls trades).filter fun r => r.1 ≤ point.date,
      r.1 ∈ (sortedDates trades).filter (· ≤ point.date) := by
    intro r hr
    obtain ⟨hmem, hle⟩ := List.mem_filter.mp hr
    have hdate : r.1 ∈ sortedDates trades := by
      rw [sortedDates, List.mem_insertionSort, dailyPnls, Dict.mem_keys_tally]
      exact List.mem_map_of_mem hmem
    exact List.mem_filter.mpr ⟨hdate, hle⟩
  rw [cumulative_of_mem_curve (sortedDates_pairwise trades) h, zero_add, pnlUntil_eq,
    ← Sums.sum_map_by_key hnodup Prod.fst Prod.snd hkeys]
  congr 1
  apply List.map_congr_left
  intro d hd
  have hle : d ≤ point.date := by simpa using (List.mem_filter.mp hd).2
  -- the rows of the day are all among those up to the day of the point
  have hrows : ((datedPnls trades).filter fun r => r.1 ≤ point.date).filter (fun r => r.1 = d) =
      (datedPnls trades).filter fun r => r.1 = d := by
    rw [List.filter_filter]
    apply List.filter_congr
    intro r _
    by_cases hr : r.1 = d <;> simp [hr, hle]
  have hsum := Sums.sum_map_filter (fun r : String × ℚ => decide (r.1 = d)) Prod.snd
    ((datedPnls trades).filter fun r => r.1 ≤ point.date)
  rw [hrows] at hsum
  rw [dailyPnls, Dict.getD_get?_tally, Dict.valuesOf, hsum]
  simp

/-- The curve has a point for every day. -/
theorem length_equityCurve : (equityCurve trades).length = (days trades).length := by
  have hperm : (sortedDates trades).Perm (days trades) := by
    have hnodup : (sortedDates trades).Nodup :=
      (List.perm_insertionSort _ _).nodup_iff.mpr (dailyPnls trades).nodupKeys
    rw [days, List.perm_ext_iff_of_nodup hnodup (List.nodup_dedup _)]
    intro d
    rw [mem_sortedDates, List.mem_dedup, List.mem_filter, List.mem_map, decide_eq_true_eq,
      and_comm]
  rw [equityCurve, length_curve, hperm.length_eq]

end Trades

/-! ### The snapshot -/

section Snapshot

variable {newest : NewestFirst} {raises : Bool} {db : Tables} {today : String}
  {trades : List ClosedTrade}

/-- A snapshot is one of the trades that were read. -/
theorem readSnapshot_eq (newest : NewestFirst) (today : String) (raises : Bool)
    (db : Option Tables) :
    readSnapshot newest today raises db = snapshotOf today (countedTrades newest raises db) := by
  have hnone : snapshotOf today [] = emptySnapshot := if_pos rfl
  unfold readSnapshot countedTrades
  cases db with
  | none => exact hnone.symm
  | some db =>
    dsimp only
    split_ifs
    · exact hnone.symm
    · unfold buildSnapshot
      cases collectBoundedTrades newest db with
      | none => exact hnone.symm
      | some trades => rfl

/-- Where a statement raises, nothing is counted. -/
theorem countedTrades_of_not_answered (h : ¬ Answered raises db) :
    countedTrades newest raises (some db) = [] := by
  unfold countedTrades
  dsimp only
  split_ifs with hraises
  · rfl
  -- one of the two tables lacks a column its query names
  have hmissing : ¬ Resolves futuresPaperSource db.futuresPaperTrades ∨
      ¬ Resolves outcomesSource db.outcomes := by
    by_contra hboth
    obtain ⟨hfutures, houtcomes⟩ := not_or.mp hboth
    exact h ⟨by simpa using hraises, not_not.mp hfutures, not_not.mp houtcomes⟩
  unfold collectBoundedTrades readFuturesPaper readOutcomes
  rcases hmissing with hfutures | houtcomes
  · rw [readTable_eq_none_iff.mpr hfutures]
    rfl
  · rw [readTable_eq_none_iff.mpr houtcomes]
    cases readTable newest futuresPaperSource db.futuresPaperTrades <;> rfl

/-- Where none raises, the trades of both tables are merged. -/
theorem countedTrades_of_answered (newest : NewestFirst) (h : Answered raises db) :
    ∃ futures outcomes, readTable newest futuresPaperSource db.futuresPaperTrades = some futures ∧
      readTable newest outcomesSource db.outcomes = some outcomes ∧
        (countedTrades newest raises (some db)).Perm (futures ++ outcomes) := by
  obtain ⟨futures, hfutures⟩ := Option.ne_none_iff_exists'.mp
    (mt readTable_eq_none_iff.mp (not_not.mpr h.futuresPaper) :
      readTable newest futuresPaperSource db.futuresPaperTrades ≠ none)
  obtain ⟨outcomes, houtcomes⟩ := Option.ne_none_iff_exists'.mp
    (mt readTable_eq_none_iff.mp (not_not.mpr h.outcomes) :
      readTable newest outcomesSource db.outcomes ≠ none)
  refine ⟨futures, outcomes, hfutures, houtcomes, ?_⟩
  have hcollected : collectBoundedTrades newest db =
      some ((futures ++ outcomes).insertionSort fun a b => a.closedAt ≤ b.closedAt) := by
    unfold collectBoundedTrades readFuturesPaper readOutcomes
    rw [hfutures, houtcomes]
    rfl
  have hcounted : countedTrades newest raises (some db) =
      (futures ++ outcomes).insertionSort fun a b => a.closedAt ≤ b.closedAt := by
    rw [countedTrades, h.calm, hcollected]
    rfl
  rw [hcounted]
  exact List.perm_insertionSort _ _

/-- Within the limits all closed trades are counted. -/
theorem countedTrades_perm (newest : NewestFirst) (hanswered : Answered raises db)
    (h : WithinLimits db) :
    (countedTrades newest raises (some db)).Perm (closedTrades (some db)) := by
  obtain ⟨futures, outcomes, hfutures, houtcomes, hmerged⟩ :=
    countedTrades_of_answered newest hanswered
  exact hmerged.trans ((perm_of_readTable hfutures h.futuresColumn h.futuresFew).append
    (perm_of_readTable houtcomes h.outcomesColumn h.outcomesFew))

/-- As many trades are counted as there are exactly if there are none, or nothing raises and they are
within the limits. -/
theorem length_countedTrades_iff :
    (countedTrades newest raises (some db)).length = (closedTrades (some db)).length ↔
      closedTrades (some db) = [] ∨ Answered raises db ∧ WithinLimits db := by
  by_cases hanswered : Answered raises db
  swap
  -- a statement raised, and nothing is shown
  · rw [countedTrades_of_not_answered hanswered, List.length_nil, eq_comm,
      List.length_eq_zero_iff]
    simp [hanswered]
  obtain ⟨futures, outcomes, hfutures, houtcomes, hmerged⟩ :=
    countedTrades_of_answered newest hanswered
  have hfuturesLe := length_le_of_readTable hfutures
  have houtcomesLe := length_le_of_readTable houtcomes
  have hsplit : (closedTrades (some db)).length =
      (allClosed futuresPaperSource db.futuresPaperTrades).length +
        (allClosed outcomesSource db.outcomes).length := List.length_append
  have hcounted : (countedTrades newest raises (some db)).length =
      futures.length + outcomes.length := by
    rw [hmerged.length_eq, List.length_append]
  constructor
  · intro h
    -- nothing is missing from either table
    have hfuturesAll : (allClosed futuresPaperSource db.futuresPaperTrades).length ≤
        futures.length := by omega
    have houtcomesAll : (allClosed outcomesSource db.outcomes).length ≤ outcomes.length := by omega
    exact .inr ⟨hanswered, hasColumn_of_length_le hfutures hfuturesAll,
      hasColumn_of_length_le houtcomes houtcomesAll,
      hfuturesAll.trans (length_le_max_of_readTable hfutures),
      houtcomesAll.trans (length_le_max_of_readTable houtcomes)⟩
  -- without closed trades both tables give none
  · rintro (hnone | ⟨-, hwithin⟩)
    · rw [hnone, List.length_nil] at hsplit ⊢
      omega
    · exact (countedTrades_perm newest hanswered hwithin).length_eq

/-- The number of trades the snapshot shows, of how many it says there are, and its flag. -/
theorem totals_snapshotOf (today : String) (trades : List ClosedTrade) :
    (snapshotOf today trades).summary.totalClosedTrades = trades.length ∧
      (snapshotOf today trades).recentClosedTrades.length =
        min recentClosedTradesLimit trades.length ∧
      (snapshotOf today trades).recentClosedTradesTruncated = false := by
  unfold snapshotOf
  split_ifs with hnone
  · simp [hnone, emptySnapshot]
  · rw [computeAnalytics, if_neg hnone]
    simp only [List.length_map, List.length_take, List.length_reverse, List.length_drop]
    refine ⟨trivial, by omega, ?_⟩
    rw [decide_eq_false_iff_not]
    omega

/-- The total is that of all closed trades exactly if there are none, or nothing raises and they are
within the limits. -/
theorem total_iff (newest : NewestFirst) (today : String) (raises : Bool) (db : Tables) :
    (readSnapshot newest today raises (some db)).summary.totalClosedTrades =
        (closedTrades (some db)).length ↔
      closedTrades (some db) = [] ∨ Answered raises db ∧ WithinLimits db := by
  rw [readSnapshot_eq, (totals_snapshotOf today _).1]
  exact length_countedTrades_iff

/-- The sums of the snapshot and its part of the curve. -/
theorem sums_snapshotOf (today : String) (trades : List ClosedTrade) :
    (snapshotOf today trades).summary.winningTrades = (trades.map ClosedTrade.win).sum ∧
      (snapshotOf today trades).summary.totalNetPnl = (trades.map ClosedTrade.pnl).sum ∧
      (snapshotOf today trades).equityCurve = (equityCurve trades).drop
        ((equityCurve trades).length - equityCurveLimit) ∧
      (snapshotOf today trades).equityCurveTruncated =
        decide (equityCurveLimit < (equityCurve trades).length) := by
  unfold snapshotOf
  split_ifs with hnone
  · rw [hnone]
    exact ⟨rfl, rfl, rfl, rfl⟩
  · rw [computeAnalytics, if_neg hnone]
    exact ⟨rfl, rfl, rfl, rfl⟩

/-- A snapshot of few trades is one of all of them. -/
theorem faithful_snapshotOf (today : String) {trades all : List ClosedTrade}
    (hperm : trades.Perm all) (hfew : all.length ≤ recentClosedTradesLimit) :
    Faithful (snapshotOf today trades) all := by
  obtain ⟨htotal, hlisted, hflag⟩ := totals_snapshotOf today trades
  obtain ⟨hwins, hpnl, hcurve, hmore⟩ := sums_snapshotOf today trades
  have hdays : (equityCurve trades).length = (days all).length := by
    rw [length_equityCurve]
    exact ((hperm.map date).filter _).dedup.length_eq
  constructor
  · rw [htotal, hperm.length_eq]
  · rw [hwins, (hperm.map ClosedTrade.win).sum_eq]
  · rw [hpnl, (hperm.map ClosedTrade.pnl).sum_eq]
  · intro point hpoint
    rw [hcurve] at hpoint
    rw [cumulativePnl_eq _ (List.mem_of_mem_drop hpoint)]
    exact ((hperm.filter _).map ClosedTrade.pnl).sum_eq
  · rw [hmore, hcurve, List.length_drop, hdays, decide_eq_true_eq, equityCurveLimit]
    omega
  · rw [hflag, hlisted, hperm.length_eq, min_eq_right hfew]
    simp

/-- Few trades are within the limits. -/
theorem withinLimits_of_countable (h : Countable raises db) : WithinLimits db := by
  have hfew := h.few
  rw [closedTrades, List.length_append, recentClosedTradesLimit] at hfew
  refine ⟨h.futuresColumn, h.outcomesColumn, ?_, ?_⟩
  all_goals
    rw [maxTradesPerSource]
    omega

/-- The analytics agree with all closed trades exactly if there are none, or no statement raises and
there are at most twenty, in tables with a column of the profit. -/
theorem faithful_iff (newest : NewestFirst) (today : String) (raises : Bool)
    (db : Option Tables) :
    Faithful (readSnapshot newest today raises db) (closedTrades db) ↔
      closedTrades db = [] ∨ ∃ tables ∈ db, Countable raises tables := by
  cases db with
  | none =>
    rw [readSnapshot_eq]
    exact iff_of_true (faithful_snapshotOf today (.refl _) (Nat.zero_le _)) (.inl rfl)
  | some db =>
    simp only [Option.mem_def, Option.some.injEq, exists_eq_left']
    constructor
    · intro h
      rcases (total_iff newest today raises db).mp h.total with hnone | ⟨hanswered, hlimits⟩
      · exact .inl hnone
      -- the flag says that no trade is missing from the list
      obtain ⟨-, hlisted, hflag⟩ :=
        totals_snapshotOf today (countedTrades newest raises (some db))
      have hrecent := h.recentTruncated
      rw [readSnapshot_eq, hflag, hlisted,
        (countedTrades_perm newest hanswered hlimits).length_eq] at hrecent
      have hfew : ¬ min recentClosedTradesLimit (closedTrades (some db)).length <
          (closedTrades (some db)).length := fun hlt => absurd (hrecent.mpr hlt) (by simp)
      exact .inr ⟨hanswered, hlimits.futuresColumn, hlimits.outcomesColumn, by omega⟩
    · rw [readSnapshot_eq]
      rintro (hnone | hcountable)
      · -- whatever raises, no trade is counted where there is none
        have hcounted : countedTrades newest raises (some db) = [] := by
          have hlength : (countedTrades newest raises (some db)).length =
              (closedTrades (some db)).length := length_countedTrades_iff.mpr (.inl hnone)
          rw [hnone] at hlength
          exact List.length_eq_zero_iff.mp hlength
        rw [hcounted, hnone]
        exact faithful_snapshotOf today (.refl _) (Nat.zero_le _)
      · exact faithful_snapshotOf today (countedTrades_perm newest hcountable.answered
          (withinLimits_of_countable hcountable)) hcountable.few

end Snapshot

/-- The order of a stable sort. -/
def stableOrder : NewestFirst where
  order rows := rows.insertionSort fun a b => b.closedAt ≤ a.closedAt
  perm _ := List.perm_insertionSort _ _
  sorted rows := by
    have : Std.Total fun a b : ClosedTrade => b.closedAt ≤ a.closedAt :=
      ⟨fun a b => le_total b.closedAt a.closedAt⟩
    have : IsTrans ClosedTrade fun a b => b.closedAt ≤ a.closedAt :=
      ⟨fun _ _ _ hab hbc => le_trans hbc hab⟩
    exact List.pairwise_insertionSort _ rows

/-- The columns of `outcomes` that a migration makes. -/
def outcomesColumns : List String :=
  ["signal_id", "model_scope", "symbol", "entry_vwap", "exit_vwap", "filled_qty", "hold_time_ms",
    "gross_pnl_quote", "net_pnl_quote", "net_edge_bps", "max_adverse_excursion_bps",
    "max_favorable_excursion_bps", "was_fully_filled", "was_profitable", "exit_reason",
    "closed_at_utc"]

/-- Twenty-one outcomes. -/
def manyOutcomes : Tables where
  futuresPaperTrades := none
  outcomes := some ⟨outcomesColumns, List.replicate 21
    ⟨some "BTCUSDT", none, some 1, none, none, some "2026-01-01"⟩, fun _ _ _ => by decide +kernel⟩

theorem many_outcomes_not_flagged :
    ¬ ∀ newest today raises db,
      Faithful (readSnapshot newest today raises db) (closedTrades db) := by
  intro hclaim
  have hflag := (hclaim stableOrder "2026-01-02" false (some manyOutcomes)).recentTruncated
  revert hflag
  decide +kernel

/-- The table of the trading process, with one outcome: it has no `model_scope`. -/
def lifecycleOutcome : Tables where
  futuresPaperTrades := none
  outcomes := some ⟨outcomesColumns.filter (· ≠ "model_scope"),
    [⟨some "BTCUSDT", none, some 1, none, none, some "2026-01-01"⟩], fun _ _ _ => by decide +kernel⟩

example : readSnapshot stableOrder "2026-01-02" false (some lifecycleOutcome) = emptySnapshot := by
  decide +kernel

end AnalyticsRead

end Botik.AppService
