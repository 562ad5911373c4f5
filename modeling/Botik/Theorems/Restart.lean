import Botik.Main.Recovery
import Botik.Main.RefreshFacts

/-!
# Recovery and the live run

The table of raw executions grows by one row with every fill that is applied. A
recovery that adds these rows up arrives at the live positions as long as the live
run did nothing but add up, in the same order: it dropped no residue, closed no
position by an emergency order, and took no execution twice.

## Main definitions

* `Repeats` — the rows add up to the tracked positions, symbol by symbol
* `Replayable` — a fill whose effect the recovery can repeat

## Main results

* `repeats_step` — a replayable fill keeps the table a repetition
* `restart_recovers` — over runs
* `residue_comes_back` — a dropped residue is there again after a restart
-/

namespace Botik

open Program Runs

/-- The rows of `executions_raw` add up to the tracked positions, and are in the
order of their times for each symbol. -/
structure Repeats (w : World) : Prop where
  position : ∀ symbol,
    w.rt.position symbol = replayed symbol w.lifecycle.executionsRaw.entries
  tidy : ∀ symbol, (w.rt.position symbol).Tidy
  in_order : ∀ symbol, (w.lifecycle.executionsRaw.entries.filter fun e => e.2.symbol = symbol).Pairwise
    fun a b => a.2.execTimeMs ≤ b.2.execTimeMs
  named : ∀ e ∈ w.lifecycle.executionsRaw.entries, e.1 ≠ "" ∧ e.2.symbol ≠ ""

/-- A fresh fill that a recovery can repeat: it only adds to its position, and is
recorded under a new id, not before an older execution of its symbol. -/
structure Replayable (x : Context) (symbol : String) (d : Delivery) (fill : Fill) (w : World) :
    Prop where
  symbol_ne : symbol ≠ ""
  adds : OnlyAdds x symbol d fill w
  new_row : w.lifecycle.executionsRaw.get? d.execId = none
  in_order : ∀ e ∈ w.lifecycle.executionsRaw.entries, e.2.symbol = symbol →
    e.2.execTimeMs ≤ fill.execTimeMs

section Step

variable {x : Context} {symbol : String} {d : Delivery} {fill : Fill} {w : World}

/-- The row of an execution repeats its fill. -/
theorem applied_executionRow (hread : d.read symbol = .ok (some fill)) (signalId : Option String)
    (feeRate : Option ℚ) (p : Position) :
    (executionRow symbol d signalId fill feeRate).applied p = moved p fill := by
  obtain ⟨head, hhead, hfill⟩ := exists_head_of_read hread
  obtain ⟨hsame, heffective⟩ := fill_of_readFill hfill
  have hside : Side.ofText? (Text.orEmpty d.item.side) = some fill.side := by
    have h := ofText?_of_readHead hhead
    rw [← hsame] at h
    exact h
  have hpos : ¬ (fill.qty ≤ 0 ∨ fill.effectiveQty ≤ 0) := by
    rintro (h | h)
    · exact absurd fill.qty_pos h.not_gt
    · exact absurd fill.effectiveQty_pos h.not_gt
  have happlied : (executionRow symbol d signalId fill feeRate).applied p =
      if fill.qty ≤ 0 ∨ effectiveQty symbol fill.side fill.qty fill.execFee
          (Text.upper (Text.orEmpty d.item.feeCurrency)) ≤ 0 then p
      else applyFill p fill.side.text (effectiveQty symbol fill.side fill.qty fill.execFee
          (Text.upper (Text.orEmpty d.item.feeCurrency))) fill.price := by
    unfold ExecutionRow.applied
    rw [show (executionRow symbol d signalId fill feeRate).side = d.item.side from rfl, hside]
    rfl
  rw [happlied, ← heffective, if_neg hpos]
  rfl

/-- One replayable fill keeps the table a repetition of the positions. -/
theorem repeats_of_replayable (hfresh : d.execId ∉ w.rt.seenExecIds) (hw : Repeats w)
    (h : Replayable x symbol d fill w) : Repeats (step x (.item symbol d) w) := by
  obtain ⟨feeRate, hrec⟩ := h.adds.recorded
  let row := executionRow symbol d (signalOf d w) fill feeRate
  have hposition := position_of_onlyAdds hfresh (hw.tidy symbol) h.adds
  -- the fill is a new row at the end
  have hentries : (step x (.item symbol d) w).lifecycle.executionsRaw.entries =
      w.lifecycle.executionsRaw.entries ++ [(d.execId, row)] := by
    rw [executionsRaw_step_of_recorded hfresh hrec, Dict.insertIfAbsent_of_none h.new_row,
      Dict.entries_set_of_get?_eq_none h.new_row]
  have hrow : row.symbol = symbol := rfl
  refine ⟨fun s => ?_, fun s => ?_, fun s => ?_, fun e he => ?_⟩
  · rw [hposition, hentries, replayed, List.filter_append, List.foldl_append]
    -- the fold over the rows of the symbol takes one step more
    by_cases hs : symbol = s
    · subst hs
      have hlast : [(d.execId, row)].filter (fun e => e.2.symbol = row.symbol) =
          [(d.execId, row)] := by simp
      rw [← hrow, hlast, Function.update_self, hrow, List.foldl_cons, List.foldl_nil]
      rw [applied_executionRow hrec.read_eq, hw.position symbol]
      rfl
    · have hlast : [(d.execId, row)].filter (fun e => e.2.symbol = s) = [] := by simp [hrow, hs]
      rw [hlast, Function.update_of_ne (Ne.symm hs), hw.position s]
      rfl
  · rw [hposition]
    by_cases hs : s = symbol
    · subst hs
      rw [Function.update_self]
      exact tidy_moved (hw.tidy s)
    · rw [Function.update_of_ne hs]
      exact hw.tidy s
  · rw [hentries, List.filter_append, List.pairwise_append]
    refine ⟨hw.in_order s, ?_, fun a ha b hb => ?_⟩
    · exact List.Pairwise.filter _ (List.pairwise_singleton _ _)
    · -- the new row comes last, and none of its symbol is younger
      obtain ⟨hb, hbs⟩ := List.mem_filter.mp hb
      obtain ⟨ha, has⟩ := List.mem_filter.mp ha
      obtain rfl := List.mem_singleton.mp hb
      have hsame : a.2.symbol = symbol :=
        (of_decide_eq_true has).trans (of_decide_eq_true hbs).symm
      exact h.in_order a ha hsame
  · rw [hentries, List.mem_append, List.mem_singleton] at he
    rcases he with he | rfl
    · exact hw.named e he
    · exact ⟨d.item.executionId_ne_empty, h.symbol_ne⟩

/-- One unit of work keeps the table a repetition, if it delivers no fresh fill or a
replayable one. -/
theorem repeats_step (w : World) (u : Work) (hw : Repeats w)
    (hu : ∀ s d fill, u = .item s d → d.execId ∉ w.rt.seenExecIds →
      d.read s = .ok (some fill) → Replayable x s d fill w) : Repeats (step x u w) := by
  have hsame : ∀ w', w'.rt.position = w.rt.position →
      w'.lifecycle.executionsRaw = w.lifecycle.executionsRaw → Repeats w' := by
    intro w' hposition hraw
    refine ⟨?_, ?_, ?_, ?_⟩
    · rw [hposition, hraw]
      exact hw.position
    · rw [hposition]
      exact hw.tidy
    · rw [hraw]
      exact hw.in_order
    · rw [hraw]
      exact hw.named
  cases u with
  | floors s =>
    exact hsame _ (position_step_floors x s w) (by rw [(tables_step_floors x s w).1])
  | item s d =>
    by_cases hseen : d.execId ∈ w.rt.seenExecIds
    · rwa [step_of_seen hseen]
    by_cases hread : ∃ fill, d.read s = .ok (some fill)
    · obtain ⟨fill, hread⟩ := hread
      exact repeats_of_replayable hseen hw (hu s d fill rfl hseen hread)
    · -- what cannot be read leaves no row
      rcases step_cases_of_fresh x s hseen with hstuck | ⟨fill, feeRate, hrec⟩
      · refine hsame _ (by rw [hstuck.rt_eq]; rfl) ?_
        exact hstuck.executionsRaw.resolve_right fun h => hread h.1
      · exact absurd ⟨fill, hrec.read_eq⟩ hread

end Step

/-! ### The recovery -/

section Recovery

variable {x : Context} {env : RecoveryEnv} {w : World}

/-- A fresh process replays a repeating table, all of it recent, to the same
positions. -/
theorem position_replayStored (hw : Repeats w) (hquery : env.queryFails = false)
    (hrecent : ∀ e ∈ w.lifecycle.executionsRaw.entries, env.cutoffMs < e.2.execTimeMs)
    (symbol : String) :
    (replayStored env (w.restart x.config)).rt.position symbol = w.rt.position symbol := by
  have hall : (w.restart x.config).lifecycle.executionsRaw.entries.filter
      (fun e => env.cutoffMs < e.2.execTimeMs) = w.lifecycle.executionsRaw.entries :=
    List.filter_eq_self.mpr fun e he => decide_eq_true (hrecent e he)
  have hrows : recentExecutions env.cutoffMs (w.restart x.config).lifecycle =
      LifecycleStore.byExecTime w.lifecycle.executionsRaw.entries := by
    rw [recentExecutions, hall]
  have hnamed : ∀ e ∈ LifecycleStore.byExecTime w.lifecycle.executionsRaw.entries,
      e.1 ≠ "" ∧ e.2.symbol ≠ "" := fun e he =>
    hw.named e ((List.mem_insertionSort _).mp he)
  rw [replayStored, hquery, if_neg Bool.false_ne_true, hrows,
    position_foldl_replayRow hnamed symbol,
    LifecycleStore.filter_byExecTime (hw.in_order symbol), hw.position symbol]
  rfl

/-- Every execution of the table is seen after the replay. -/
theorem mem_seenExecIds_replayStored (hw : Repeats w) (hquery : env.queryFails = false)
    (hrecent : ∀ e ∈ w.lifecycle.executionsRaw.entries, env.cutoffMs < e.2.execTimeMs)
    {execId : String} (hid : execId ∈ w.lifecycle.executionsRaw.keys) :
    execId ∈ (replayStored env (w.restart x.config)).rt.seenExecIds := by
  have hmem : ∀ e, e ∈ recentExecutions env.cutoffMs (w.restart x.config).lifecycle ↔
      e ∈ w.lifecycle.executionsRaw.entries := by
    intro e
    rw [recentExecutions, LifecycleStore.byExecTime, List.mem_insertionSort, List.mem_filter]
    exact ⟨fun h => h.1, fun h => ⟨h, decide_eq_true (hrecent e h)⟩⟩
  rw [replayStored, hquery, if_neg Bool.false_ne_true]
  refine mem_seenExecIds_foldl_replayRow (fun e he => (hw.named e ((hmem e).mp he)).1) (Or.inr ?_)
  obtain ⟨e, he, rfl⟩ := List.mem_map.mp hid
  exact List.mem_map.mpr ⟨e, (hmem e).mpr he, rfl⟩

/-- Lists that hold only seen executions are skipped. -/
theorem recoverListed_of_seen (hseen : ∀ symbol answer, env.executions symbol = .ok answer →
    ∀ item ∈ answer.list, item.executionId ∈ w.rt.seenExecIds) :
    recoverListed x env w = .ok () w := by
  unfold recoverListed
  cases x.executor with
  | none => rfl
  | some executor =>
    dsimp only
    rw [bind_of_ok (get_run w)]
    refine each_of_forall_run fun symbol _ => ?_
    unfold recoverSymbol
    cases hanswer : env.executions symbol with
    | error e => rfl
    | ok answer =>
      dsimp only
      split_ifs
      · refine each_of_forall_run fun item hitem => recoverItem_of_seen ?_
        exact hseen symbol answer hanswer item (List.mem_reverse.mp hitem)
      · rfl

/-- In every run whose fresh fills are replayable, a recovery on its table, all of it
of the last day, with lists that hold nothing else, arrives at its positions. -/
theorem restart_recovers (x : Context) (batches : List (List Fetch)) (env : RecoveryEnv) :
    let w := World.initial x.config
    let ts := transitions (step x) (reached x batches w) w
    let live := runRefreshes x batches w
    let table := live.lifecycle.executionsRaw
    (∀ t ∈ ts, ∀ symbol d fill, t.input = .item symbol d →
      d.execId ∉ t.before.rt.seenExecIds → d.read symbol = .ok (some fill) →
      Replayable x symbol d fill t.before) →
    env.queryFails = false → (∀ e ∈ table.entries, env.cutoffMs < e.2.execTimeMs) →
    (∀ symbol answer, env.executions symbol = .ok answer →
      ∀ item ∈ answer.list, item.executionId ∈ table.keys) →
    ∀ symbol, (after (recoverPositionsOnStartup x env) (live.restart x.config)).rt.position symbol =
      live.rt.position symbol := by
  intro w ts live table hrun hquery hrecent hsubset symbol
  have hstart : Repeats w := by
    refine ⟨fun _ => rfl, fun _ => Position.tidy_flat, fun _ => List.Pairwise.nil, fun e he => ?_⟩
    exact absurd he List.not_mem_nil
  have hlive : Repeats live := by
    have h : Repeats (run (step x) (reached x batches w) w) :=
      run_of_inv repeats_step hstart hrun
    rwa [← runRefreshes_eq_run] at h
  have hlisted : recoverListed x env (replayStored env (live.restart x.config)) =
      .ok () (replayStored env (live.restart x.config)) :=
    recoverListed_of_seen fun s answer hanswer item hitem =>
      mem_seenExecIds_replayStored hlive hquery hrecent (hsubset s answer hanswer item hitem)
  -- the wallet and the ages leave the positions
  have hrest : (after (recoverPositionsOnStartup x env) (live.restart x.config)).rt.position =
      (replayStored env (live.restart x.config)).rt.position := by
    unfold recoverPositionsOnStartup
    rw [after_modify_bind, after_bind_of_ok hlisted]
    rcases after_bind_cases (importWallet x env) _ (replayStored env (live.restart x.config)) with
      h | ⟨_, _, h⟩
    · rw [h]
      exact keeps_importWallet x env _
    · rw [h, after_modify, position_markRecovered]
      exact keeps_importWallet x env _
  rw [hrest]
  exact position_replayStored hlive hquery hrecent symbol

end Recovery

/-! ### A residue, and four fills -/

/-- A recovery at the time of the concrete deliveries, with one list for every
symbol. -/
def recoveryWith (items : List ExecutionItem) : RecoveryEnv where
  faults := fun _ => none
  queryFails := false
  utc := 0
  wallMs := 1700000000000
  clock := 0
  order := id
  executions := fun _ => .ok ⟨⟨some 0, none⟩, items⟩
  wallet := .error "no wallet"

/-- A buy below the notional floor is dropped by the live run, and is a position
again after the restart. -/
theorem residue_comes_back :
    let buy := plainDelivery "e1" "Buy" "0.006" "100"
    let live := runRefreshes spotMarket [[Fetch.single "AAAUSDT" buy]]
      (World.initial spotMarket.config)
    let restarted := after (recoverPositionsOnStartup spotMarket (recoveryWith [buy.item]))
      (live.restart spotMarket.config)
    live.rt.position "AAAUSDT" = .flat ∧ restarted.rt.position "AAAUSDT" = ⟨6 / 1000, 100⟩ := by
  decide +kernel

/-- Two buys and a sale of one coin, and a buy of another in between. -/
def fourFills : List (String × Delivery) :=
  [("AAAUSDT", plainDelivery "e1" "Buy" "1" "100"),
    ("BBBUSDT", plainDelivery "e2" "Buy" "3" "7"),
    ("AAAUSDT", plainDelivery "e3" "Buy" "1" "110"),
    ("AAAUSDT", plainDelivery "e4" "Sell" "0.5" "120")]

/-- What is left of the coins is there after a restart, at its average price. -/
theorem fourFills_recovered :
    let live := runRefreshes spotMarket (fourFills.map fun e => [Fetch.single e.1 e.2])
      (World.initial spotMarket.config)
    (live.rt.position "AAAUSDT" = ⟨3 / 2, 105⟩ ∧ live.rt.position "BBBUSDT" = ⟨3, 7⟩) ∧
      ∀ symbol, (after (recoverPositionsOnStartup spotMarket
        (recoveryWith (fourFills.map fun e => e.2.item)))
          (live.restart spotMarket.config)).rt.position symbol = live.rt.position symbol := by
  intro live
  let w := World.initial spotMarket.config
  have hreached : reached spotMarket (fourFills.map fun e => [Fetch.single e.1 e.2]) w =
      fourFills.flatMap fun e => [.floors e.1, .item e.1 e.2] := reached_single rfl fourFills w
  -- each fill is effective, new, and not older than those of its symbol
  have hfills : ∀ t ∈ transitions (step spotMarket)
      (fourFills.flatMap fun e => [.floors e.1, .item e.1 e.2]) w,
      OnNewFill (fun w symbol d fill => symbol ≠ "" ∧ d.Recorded symbol fill none ∧
        IsEffective spotMarket.config w.rt symbol (moved (w.rt.position symbol) fill).qty
          fill.price ∧
        w.lifecycle.executionsRaw.get? d.execId = none ∧
        ∀ e ∈ w.lifecycle.executionsRaw.entries, e.2.symbol = symbol →
          e.2.execTimeMs ≤ fill.execTimeMs) t := by decide +kernel
  -- every row is within the window of the recovery
  have hrecent : ∀ e ∈ live.lifecycle.executionsRaw.entries,
      (recoveryWith (fourFills.map fun e => e.2.item)).cutoffMs < e.2.execTimeMs := by
    decide +kernel
  have hkeys : ∀ item ∈ fourFills.map fun e => e.2.item,
      item.executionId ∈ live.lifecycle.executionsRaw.keys := by decide +kernel
  have hmain := restart_recovers spotMarket (fourFills.map fun e => [Fetch.single e.1 e.2])
    (recoveryWith (fourFills.map fun e => e.2.item))
  refine ⟨by decide +kernel, hmain (fun t ht symbol d fill hinput hfresh hread => ?_) rfl hrecent
    fun symbol answer hanswer item hitem => ?_⟩
  · rw [hreached] at ht
    obtain ⟨hsymbol, hrec, heffective, hnew, horder⟩ :=
      (hfills t ht).of_read hinput hfresh hread
    exact ⟨hsymbol, onlyAdds_of_spot rfl hrec heffective, hnew, horder⟩
  · cases hanswer
    exact hkeys item hitem

end Botik
