import Botik.Theorems.RealisedProfit
import Botik.Tools.ExportDataset

/-!
# The exported dataset and the outcomes

The export adds up the executions of a signal a second time, in the database: the fees as they were
charged, in whatever currency, and the price over both sides. It agrees with the outcomes as long as
the fees of a signal with an outcome are charged in the quote currency, an outcome is written anew
with every further fill, and the first fill of a signal is on its entry side.

## Main definitions

* `ExportAgrees` — the exported fees are those of the outcome; the price of a signal without an
  outcome is that of its entries
* `CountsAlike` — a fill both aggregations count in the same way
* `Doing` — a refresh, or anything else the runtime does

## Main results

* `Exportable.step` — what such a fill keeps
* `exportAgrees_of_run`
* `baseFee_not_exported` — a fee charged in the base currency
-/

namespace Botik

open Program Runs

/-! ### Agreement -/

/-- The average price of the executions on one side. -/
def sideVwap (side : Side) (rows : List ExecutionRow) : Option ℚ :=
  let entries := rows.filter fun row => Side.ofText? (Text.orEmpty row.side) = some side
  entryVwapExec (entries.map ExecutionRow.execQty).sum
    (entries.map fun row => row.execPrice * row.execQty).sum

/-- An exported row agrees with the outcome of its signal, or with the entries where there is
none. -/
def RowAgrees (db : LifecycleStore) (r : ExportRow) : Prop :=
  match db.outcomes.get? r.signalId with
  | some out => r.totalFeesQuote = out.grossPnlQuote - out.netPnlQuote
  | none => ∀ side, Side.ofText? r.side = some side →
      r.entryVwap = sideVwap side (rowsOfSignal db r.signalId)

/-- Every exported row does. -/
def ExportAgrees (signals : SignalTable) (w : World) : Prop :=
  ∀ r ∈ exportDataset signals w, RowAgrees w.lifecycle r

/-- The conversion to the quote currency leaves the fee of an execution alone. -/
def InQuote (symbol : String) (row : ExecutionRow) : Prop :=
  feeToQuote symbol row.execFee (Text.orEmpty row.feeCurrency) row.execPrice = row.execFee

/-- The signal has an execution on a side. -/
def HasTraded (db : LifecycleStore) (g : String) (side : Side) : Prop :=
  ∃ row ∈ rowsOfSignal db g, Side.ofText? (Text.orEmpty row.side) = some side

/-- A row with everything the synchronisation asks of it. -/
structure CountedRow (row : ExecutionRow) : Prop where
  price_pos : 0 < row.execPrice
  qty_pos : 0 < row.execQty
  side : ∃ side, Side.ofText? (Text.orEmpty row.side) = some side
  symbol_ne : Text.strip (Text.upper row.symbol) ≠ ""

/-- What holds between two fills: outcomes are net of the exported fees, and a signal without one
has traded on its entry side only. -/
structure Exportable (signals : SignalTable) (w : World) : Prop where
  counted : ∀ g, ∀ row ∈ rowsOfSignal w.lifecycle g, g ≠ "" ∧ CountedRow row
  fees : ∀ g out, w.lifecycle.outcomes.get? g = some out → g ≠ "" ∧
    out.grossPnlQuote - out.netPnlQuote =
      ((rowsOfSignal w.lifecycle g).map ExecutionRow.execFee).sum
  entries : ∀ g snapshot side, w.lifecycle.outcomes.get? g = none →
    signals.get? g = some snapshot → Side.ofText? snapshot.side = some side →
      ∀ row ∈ rowsOfSignal w.lifecycle g, Side.ofText? (Text.orEmpty row.side) = some side

/-- An exportable state is exported as the outcomes have it. -/
theorem Exportable.agrees {signals : SignalTable} {w : World}
    (h : Exportable signals w) : ExportAgrees signals w := by
  intro r hr
  obtain ⟨g, snapshot, hsnapshot, rfl⟩ := mem_exportDataset.mp hr
  unfold RowAgrees exportRow
  dsimp only
  cases hout : w.lifecycle.outcomes.get? g with
  | some out =>
    obtain ⟨hg, hfees⟩ := h.fees g out hout
    dsimp only
    rw [totalFeesQuote_fetchExecAgg w.lifecycle hg, hfees]
  | none =>
    intro side hside
    change (none : Option ℚ).or _ = _
    rw [Option.none_or]
    by_cases hg : g = ""
    · have hrows : rowsOfSignal w.lifecycle "" = [] :=
        List.eq_nil_iff_forall_not_mem.mpr fun row hrow => (h.counted "" row hrow).1 rfl
      rw [hg, get?_fetchExecAgg_empty, hrows]
      rfl
    · have hentries := h.entries g snapshot side hout hsnapshot hside
      have hall : (rowsOfSignal w.lifecycle g).filter (fun row =>
          Side.ofText? (Text.orEmpty row.side) = some side) = rowsOfSignal w.lifecycle g :=
        List.filter_eq_self.mpr fun row hrow => decide_eq_true (hentries row hrow)
      rw [entryVwapExec_fetchExecAgg w.lifecycle hg, sideVwap, hall]

/-! ### The two sums of fees -/

section Fees

variable {symbol g : String} {w : World} {row : ExecutionRow}

/-- A symbol that is put into its usual form has the same two currencies. -/
theorem splitSymbolBaseQuote_strip (symbol : String) :
    splitSymbolBaseQuote (Text.strip (Text.upper symbol)) = splitSymbolBaseQuote symbol := by
  unfold splitSymbolBaseQuote
  rw [Text.upper_strip, Text.upper_upper, Text.strip_strip]

theorem feeToQuote_strip (symbol : String) (fee : ℚ) (feeCurrency : String) (execPrice : ℚ) :
    feeToQuote (Text.strip (Text.upper symbol)) fee feeCurrency execPrice =
      feeToQuote symbol fee feeCurrency execPrice := by
  unfold feeToQuote
  rw [splitSymbolBaseQuote_strip]

/-- The synchronisation adds the converted fee of a row that counts. -/
theorem totalFeesQuote_add (r : Roundtrip) (h : CountedRow row) :
    (r.add row).totalFeesQuote = r.totalFeesQuote +
      feeToQuote row.symbol row.execFee (Text.orEmpty row.feeCurrency) row.execPrice := by
  have hskip : ¬ (row.execPrice ≤ 0 ∨ row.execQty ≤ 0) :=
    fun hle => hle.elim h.price_pos.not_ge h.qty_pos.not_ge
  unfold Roundtrip.add
  dsimp only
  rw [if_neg hskip, if_neg h.symbol_ne, feeToQuote_strip]

/-- The fees of rows in the quote currency. -/
theorem totalFeesQuote_ofRows {rows : List ExecutionRow}
    (h : ∀ row ∈ rows, CountedRow row ∧ InQuote row.symbol row) :
    (Roundtrip.ofRows symbol rows).totalFeesQuote = (rows.map ExecutionRow.execFee).sum := by
  have hfold : ∀ r : Roundtrip, (rows.foldl Roundtrip.add r).totalFeesQuote =
      r.totalFeesQuote + (rows.map ExecutionRow.execFee).sum := by
    induction rows with
    | nil => simp
    | cons row rows ih =>
      intro r
      obtain ⟨⟨hcounted, hquote⟩, hrest⟩ := List.forall_mem_cons.mp h
      rw [List.foldl_cons, ih hrest, totalFeesQuote_add r hcounted, hquote, List.map_cons,
        List.sum_cons, add_assoc]
  exact (hfold _).trans (zero_add _)

/-- The synchronisation reads the executions of a signal in the order of their times. -/
theorem perm_executionsOfSignal (db : LifecycleStore) (g : String) :
    (db.executionsOfSignal g).Perm (rowsOfSignal db g) := by
  have hperm := (List.perm_insertionSort (fun a b : String × ExecutionRow =>
    a.2.execTimeMs ≤ b.2.execTimeMs) (db.executionsRaw.entries.filter fun e =>
      e.2.signalId = some g)).map Prod.snd
  have hrows : (db.executionsRaw.entries.filter fun e => e.2.signalId = some g).map Prod.snd =
      rowsOfSignal db g := by
    rw [rowsOfSignal, List.filter_map]
    rfl
  exact hrows ▸ hperm

/-- The fees of the synchronisation are the exported ones. -/
theorem roundtripFees_of_inQuote (hne : rowsOfSignal w.lifecycle g ≠ [])
    (hcounted : ∀ row ∈ rowsOfSignal w.lifecycle g, CountedRow row)
    (hquote : ∀ row ∈ rowsOfSignal w.lifecycle g, InQuote row.symbol row) :
    roundtripFees symbol w.lifecycle g =
      ((rowsOfSignal w.lifecycle g).map ExecutionRow.execFee).sum := by
  have hperm := perm_executionsOfSignal w.lifecycle g
  have hrows : ∀ row ∈ w.lifecycle.executionsOfSignal g, CountedRow row ∧ InQuote row.symbol row :=
    fun row hrow => ⟨hcounted row (hperm.subset hrow), hquote row (hperm.subset hrow)⟩
  rw [← (hperm.map ExecutionRow.execFee).sum_eq]
  cases hexecutions : w.lifecycle.executionsOfSignal g with
  | nil => exact absurd (hexecutions ▸ hperm).nil_eq.symm hne
  | cons first rest =>
    rw [hexecutions] at hrows
    have hfirst := (hrows first List.mem_cons_self).1.symbol_ne
    have hsymbol : roundtripSymbol first symbol ≠ "" := by
      rw [roundtripSymbol, if_neg]
      · exact hfirst
      · rintro hempty
        rw [hempty] at hfirst
        exact hfirst rfl
    rw [roundtripFees, hexecutions, roundtripOf, if_neg hsymbol, Option.map_some, Option.getD_some,
      totalFeesQuote_ofRows hrows]

/-- So are those of a position that went flat. -/
theorem sumSignalFeesQuote_of_inQuote
    (h : ∀ row ∈ rowsOfSignal w.lifecycle g, InQuote symbol row) :
    sumSignalFeesQuote g symbol w =
      ((rowsOfSignal w.lifecycle g).map ExecutionRow.execFee).sum := by
  rw [← List.map_congr_left h, rowsOfSignal, List.filter_map, List.map_map]
  rfl

end Fees

/-! ### When the synchronisation records -/

section Sync

variable {symbol g : String} {side : Side} {w : World}

/-- A side with a row that counts has a quantity. -/
theorem qty_pos_of_hasTraded (hcounted : ∀ row ∈ rowsOfSignal w.lifecycle g, CountedRow row)
    (h : HasTraded w.lifecycle g side) : 0 < sumRows (qtyOf g side) w := by
  obtain ⟨row, hrow, hside⟩ := h
  obtain ⟨⟨execId, hmem⟩, hsignal⟩ := mem_rowsOfSignal.mp hrow
  have hrowCounted := hcounted row hrow
  have hweight : rowWeight (qtyOf g side) row = row.execQty := by
    rw [rowWeight, hside]
    simp [qtyOf, hsignal, hrowCounted.price_pos.not_ge, hrowCounted.qty_pos.not_ge]
  have hle := List.single_le_sum (l := w.lifecycle.executionsRaw.entries.map fun e =>
    rowWeight (qtyOf g side) e.2) (fun q hq => by
      obtain ⟨e, -, rfl⟩ := List.mem_map.mp hq
      exact rowWeight_qtyOf_nonneg g side e.2) _ (List.mem_map_of_mem hmem)
  rw [hweight] at hle
  exact hrowCounted.qty_pos.trans_le hle

/-- A side with a quantity has a row. -/
theorem hasTraded_of_qty_pos (h : 0 < sumRows (qtyOf g side) w) :
    HasTraded w.lifecycle g side := by
  obtain ⟨⟨execId, row⟩, hmem, hne⟩ := exists_row_of_qty_pos h
  unfold rowWeight qtyOf at hne
  cases hside : Side.ofText? (Text.orEmpty row.side) with
  | none => simp [hside] at hne
  | some s =>
    simp only [hside, ne_eq, ite_eq_left_iff, not_forall] at hne
    obtain ⟨-, hown⟩ := hne
    have hboth : row.signalId = some g ∧ s = side := by
      by_contra hnot
      exact hown (if_neg hnot)
    exact ⟨row, mem_rowsOfSignal.mpr ⟨⟨execId, hmem⟩, hboth.1⟩, hboth.2 ▸ hside⟩

/-- An outcome is recorded for a signal that bought and sold, -/
theorem syncOutcome?_of_hasTraded (hg : g ≠ "")
    (hcounted : ∀ row ∈ rowsOfSignal w.lifecycle g, CountedRow row)
    (hbuy : HasTraded w.lifecycle g .buy) (hsell : HasTraded w.lifecycle g .sell) :
    syncOutcome? symbol (some g) w.lifecycle = some (g, roundTripGross g w) := by
  refine syncOutcome?_of_roundTrip (fun row hrow => ?_) hg
    (qty_pos_of_hasTraded hcounted hbuy) (qty_pos_of_hasTraded hcounted hsell)
  have hsymbol := (hcounted row ((perm_executionsOfSignal _ _).subset hrow)).symbol_ne
  rw [roundtripSymbol, if_neg]
  · exact hsymbol
  · rintro hempty
    rw [hempty] at hsymbol
    exact hsymbol rfl

/-- and for no other. -/
theorem hasTraded_of_syncOutcome? {signalId : Option String} {outcome : String × ℚ}
    (h : syncOutcome? symbol signalId w.lifecycle = some outcome) :
    HasTraded w.lifecycle outcome.1 .buy ∧ HasTraded w.lifecycle outcome.1 .sell := by
  obtain ⟨g, -, h⟩ := Option.bind_eq_some_iff.mp h
  obtain ⟨gross, hgross, rfl⟩ := Option.map_eq_some_iff.mp h
  obtain ⟨r, hr, hgross⟩ := Option.bind_eq_some_iff.mp hgross
  have hround : ∃ symbol', r = .ofRows symbol' (w.lifecycle.executionsOfSignal g) := by
    cases hexecutions : w.lifecycle.executionsOfSignal g with
    | nil =>
      rw [hexecutions] at hr
      cases hr
    | cons first rest =>
      rw [hexecutions, roundtripOf] at hr
      split_ifs at hr
      exact ⟨_, (Option.some.inj hr).symm⟩
  obtain ⟨symbol', rfl⟩ := hround
  obtain ⟨hb, hs, -, -⟩ := ofRows_executionsOfSignal symbol' g w
  have hbuy : ¬ (_ ∨ _) := fun hle => by
    rw [gross?_of_no_buy hle] at hgross
    cases hgross
  rw [Roundtrip.gross?, if_neg hbuy] at hgross
  obtain ⟨exitVwap, hexit, -⟩ := Option.bind_eq_some_iff.mp hgross
  rw [Roundtrip.exitVwap] at hexit
  split_ifs at hexit with hsell
  refine ⟨hasTraded_of_qty_pos ?_, hasTraded_of_qty_pos ?_⟩
  · rw [← hb]
    exact not_le.mp fun hle => hbuy (Or.inl hle)
  · rw [← hs]
    exact hsell.1

end Sync

/-! ### One fill -/

/-- A fill that both aggregations count in the same way. -/
structure CountsAlike (signals : SignalTable) (x : Context) (symbol : String) (d : Delivery)
    (fill : Fill) (feeRate : Option ℚ) (w : World) : Prop where
  /-- It is processed completely. -/
  recorded : d.Recorded symbol fill feeRate
  returns : raised (work x (.item symbol d)) w = none
  /-- It has a price and a symbol. -/
  valid : ∀ g, signalOf d w = some g → 0 < fill.price ∧ Text.strip (Text.upper symbol) ≠ ""
  /-- If its signal has bought and sold, all fees of the signal are in the quote currency. -/
  fees : ∀ g, signalOf d w = some g →
    let db := (recordedWorld symbol d fill feeRate w).lifecycle
    HasTraded db g .buy → HasTraded db g .sell → ∀ row ∈ rowsOfSignal db g, InQuote row.symbol row
  /-- If its signal has an outcome already, it has bought and sold. -/
  again : ∀ g, signalOf d w = some g → g ∈ w.lifecycle.outcomes.keys →
    let db := (recordedWorld symbol d fill feeRate w).lifecycle
    HasTraded db g .buy ∧ HasTraded db g .sell
  /-- It is an entry, follows one, or closes the position of its signal. -/
  entry : ∀ g snapshot side, signalOf d w = some g → signals.get? g = some snapshot →
    Side.ofText? snapshot.side = some side → fill.side = side ∨ HasTraded w.lifecycle g side ∨
      ∃ gross, flatOutcomeOf x symbol d fill w = some (g, gross)
  /-- All fees of a signal whose position it closes are in the quote currency. -/
  closes : ∀ g gross, flatOutcomeOf x symbol d fill w = some (g, gross) →
    ∀ row ∈ rowsOfSignal (recordedWorld symbol d fill feeRate w).lifecycle g, InQuote symbol row

section Step

variable {signals : SignalTable} {x : Context} {symbol : String} {d : Delivery} {fill : Fill}
  {feeRate : Option ℚ} {w : World} {k : String}

/-- A payment in full rewrites the outcome of its signal and no other. -/
theorem outcome_of_charged {fees : String → ℚ} {outcome : Option (String × ℚ)} {l l' : Ledger}
    (h : ChargedInFullIf fees outcome l l') (k : String) :
    (∀ gross, outcome ≠ some (k, gross)) ∧ l'.outcomes.get? k = l.outcomes.get? k ∨
      (∃ gross, outcome = some (k, gross)) ∧ ∃ row, l'.outcomes.get? k = some row ∧
        row.grossPnlQuote - row.netPnlQuote = fees k := by
  cases outcome with
  | none =>
    rw [(h : l' = l)]
    exact Or.inl ⟨fun _ => nofun, rfl⟩
  | some o =>
    obtain ⟨row, rewardBps, hgross, hnet, rfl⟩ := h
    rw [Ledger.outcomes_reward]
    by_cases hk : k = o.1
    · refine Or.inr ⟨⟨o.2, by rw [hk]⟩, row, ?_, ?_⟩
      · rw [hk]
        exact Dict.get?_set_self _ _ _
      · rw [hgross, hnet, hk, sub_sub_cancel]
    · refine Or.inl ⟨fun gross heq => hk ?_, Dict.get?_set_of_ne hk _ _⟩
      rw [Option.some.inj heq]

/-- What recording the execution adds to the rows of a signal. -/
theorem rowsOfSignal_recorded (symbol : String) (d : Delivery) (fill : Fill) (feeRate : Option ℚ)
    (w : World) (k : String) :
    rowsOfSignal (recordedWorld symbol d fill feeRate w).lifecycle k =
        rowsOfSignal w.lifecycle k ∨
      signalOf d w = some k ∧ rowsOfSignal (recordedWorld symbol d fill feeRate w).lifecycle k =
        rowsOfSignal w.lifecycle k ++ [executionRow symbol d (some k) fill feeRate] := by
  have hraw : (recordedWorld symbol d fill feeRate w).lifecycle.executionsRaw =
      w.lifecycle.executionsRaw.insertIfAbsent d.execId
        (executionRow symbol d (signalOf d w) fill feeRate) := rfl
  unfold rowsOfSignal
  rw [hraw]
  cases hget : w.lifecycle.executionsRaw.get? d.execId with
  | some old =>
    rw [Dict.insertIfAbsent_of_isSome (by rw [hget]; rfl)]
    exact Or.inl rfl
  | none =>
    rw [Dict.insertIfAbsent_of_none hget, Dict.entries_set_of_get?_eq_none hget, List.map_append,
      List.filter_append]
    by_cases hk : signalOf d w = some k
    · right
      refine ⟨hk, ?_⟩
      simp [hk, executionRow]
    · left
      simp [hk, executionRow]

/-- Other signals keep their rows. -/
theorem rowsOfSignal_recorded_of_ne (hk : signalOf d w ≠ some k) :
    rowsOfSignal (recordedWorld symbol d fill feeRate w).lifecycle k =
      rowsOfSignal w.lifecycle k :=
  (rowsOfSignal_recorded symbol d fill feeRate w k).resolve_right fun h => hk h.1

/-- The row of a fill that counts. -/
theorem countedRow_executionRow (h : CountsAlike signals x symbol d fill feeRate w)
    (hk : signalOf d w = some k) : CountedRow (executionRow symbol d (some k) fill feeRate) ∧
      Side.ofText? (Text.orEmpty (executionRow symbol d (some k) fill feeRate).side) =
        some fill.side := by
  obtain ⟨head, hhead, hfill⟩ := exists_head_of_read h.recorded.read_eq
  have hside : Side.ofText? (Text.orEmpty d.item.side) = some fill.side := by
    rw [ofText?_of_readHead hhead, ← (fill_of_readFill hfill).1]
  obtain ⟨hprice, hsymbol⟩ := h.valid k hk
  exact ⟨⟨hprice, fill.qty_pos, ⟨fill.side, hside⟩, hsymbol⟩, hside⟩

/-- The rows after recording all count. -/
theorem counted_recorded (hinv : Exportable signals w)
    (h : CountsAlike signals x symbol d fill feeRate w) (k : String) :
    ∀ row ∈ rowsOfSignal (recordedWorld symbol d fill feeRate w).lifecycle k,
      k ≠ "" ∧ CountedRow row := by
  intro row hrow
  rcases rowsOfSignal_recorded symbol d fill feeRate w k with hsame | ⟨hk, hadded⟩
  · rw [hsame] at hrow
    exact hinv.counted k row hrow
  · rw [hadded] at hrow
    rcases List.mem_append.mp hrow with hold | hnew
    · exact hinv.counted k row hold
    · obtain rfl := List.mem_singleton.mp hnew
      exact ⟨signalOf_ne_empty hk, (countedRow_executionRow h hk).1⟩

/-- What was traded before is traded still. -/
theorem HasTraded.recorded {side : Side} (h : HasTraded w.lifecycle k side) :
    HasTraded (recordedWorld symbol d fill feeRate w).lifecycle k side := by
  obtain ⟨row, hrow, hside⟩ := h
  refine ⟨row, ?_, hside⟩
  rcases rowsOfSignal_recorded symbol d fill feeRate w k with hsame | ⟨-, hadded⟩
  · rwa [hsame]
  · rw [hadded]
    exact List.mem_append_left _ hrow

/-- The two sides are all there are. -/
theorem hasTraded_both {db : LifecycleStore} {side side' : Side} (hne : side ≠ side')
    (h : HasTraded db k side) (h' : HasTraded db k side') :
    HasTraded db k .buy ∧ HasTraded db k .sell := by
  cases side <;> cases side'
  · exact absurd rfl hne
  · exact ⟨h, h'⟩
  · exact ⟨h', h⟩
  · exact absurd rfl hne

/-- A fill that counts alike keeps the state exportable. -/
theorem Exportable.step (hinv : Exportable signals w)
    (hfresh : d.execId ∉ w.rt.seenExecIds)
    (h : CountsAlike signals x symbol d fill feeRate w) :
    Exportable signals (Botik.step x (.item symbol d) w) := by
  let w₁ := recordedWorld symbol d fill feeRate w
  let w' := Botik.step x (.item symbol d) w
  have hrows : ∀ k, rowsOfSignal w'.lifecycle k = rowsOfSignal w₁.lifecycle k := by
    intro k
    unfold rowsOfSignal
    rw [show w'.lifecycle.executionsRaw = w₁.lifecycle.executionsRaw from
      executionsRaw_step_of_recorded hfresh h.recorded]
  have hcounted := counted_recorded hinv h
  obtain ⟨l, hflat, hsync⟩ :=
    charged_step_of_ok hfresh h.recorded (run_of_raised_none h.returns)
  -- the synchronisation writes the outcome of a signal exactly if that has bought and sold
  have hsyncs : ∀ k, signalOf d w = some k → HasTraded w₁.lifecycle k .buy →
      HasTraded w₁.lifecycle k .sell →
      ∃ gross, syncOutcomeOf symbol d fill feeRate w = some (k, gross) := by
    intro k hk hbuy hsell
    unfold syncOutcomeOf
    rw [hk]
    exact ⟨_, syncOutcome?_of_hasTraded (signalOf_ne_empty hk)
      (fun row hrow => (hcounted k row hrow).2) hbuy hsell⟩
  refine ⟨fun k row hrow => hcounted k row (hrows k ▸ hrow), fun k out hout => ?_,
    fun k snapshot side hout hsnapshot hside row hrow => ?_⟩
  · rw [hrows]
    rcases outcome_of_charged hsync k with ⟨hnone, hkeep⟩ | ⟨⟨gross, hsome⟩, row, hget, hfees⟩
    · rcases outcome_of_charged hflat k with
        ⟨-, hkeep'⟩ | ⟨⟨gross, hsome⟩, row, hget, hfees⟩
      · -- the outcome is an old one, so the fill belongs to another signal
        have hold : w.lifecycle.outcomes.get? k = some out :=
          (hkeep.trans hkeep').symm.trans hout
        have hk : signalOf d w ≠ some k := by
          intro hk
          obtain ⟨hbuy, hsell⟩ := h.again k hk (Dict.mem_keys_iff.mpr ⟨out, hold⟩)
          obtain ⟨gross, hsome⟩ := hsyncs k hk hbuy hsell
          exact hnone gross hsome
        rw [rowsOfSignal_recorded_of_ne hk]
        exact hinv.fees k out hold
      · obtain rfl : row = out := Option.some.inj (hget.symm.trans (hkeep.symm.trans hout))
        refine ⟨?_, hfees.trans (sumSignalFeesQuote_of_inQuote (h.closes k gross hsome))⟩
        -- an outcome has a signal
        unfold flatOutcomeOf flatOutcome? at hsome
        dsimp only at hsome
        split_ifs at hsome
        obtain ⟨k', hk', hpair⟩ := Option.map_eq_some_iff.mp hsome
        obtain ⟨rfl, -⟩ := Prod.mk.inj hpair
        rcases Option.or_eq_some_iff.mp hk' with hfirst | ⟨-, hfirst⟩
        · exact of_decide_eq_true (Option.filter_eq_some_iff.mp hfirst).2
        · exact of_decide_eq_true (Option.filter_eq_some_iff.mp hfirst).2
    · obtain rfl : row = out := Option.some.inj (hget.symm.trans hout)
      have hk := syncOutcome?_signal hsome
      obtain ⟨hbuy, hsell⟩ := hasTraded_of_syncOutcome? hsome
      refine ⟨signalOf_ne_empty hk, hfees.trans ?_⟩
      exact roundtripFees_of_inQuote (List.ne_nil_of_mem hbuy.choose_spec.1)
        (fun row hrow => (hcounted k row hrow).2) (h.fees k hk hbuy hsell)
  · rw [hrows] at hrow
    rcases outcome_of_charged hsync k with ⟨hnone, hkeep⟩ | ⟨-, out, hget, -⟩
    · rcases outcome_of_charged hflat k with ⟨hnoneFlat, hkeep'⟩ | ⟨-, out, hget, -⟩
      · have hold : w.lifecycle.outcomes.get? k = none := (hkeep.trans hkeep').symm.trans hout
        have hentries := hinv.entries k snapshot side hold hsnapshot hside
        rcases rowsOfSignal_recorded symbol d fill feeRate w k with hsame | ⟨hk, hadded⟩
        · exact hentries row (hsame ▸ hrow)
        · rw [hadded] at hrow
          rcases List.mem_append.mp hrow with hrow | hrow
          · exact hentries row hrow
          · obtain rfl := List.mem_singleton.mp hrow
            have hfill := (countedRow_executionRow h hk).2
            rcases h.entry k snapshot side hk hsnapshot hside with
              hentry | htraded | ⟨gross, hsome⟩
            · rw [hfill, hentry]
            · by_contra hne
              rw [hfill] at hne
              have hnew : HasTraded w₁.lifecycle k fill.side := by
                refine ⟨_, ?_, hfill⟩
                rw [hadded]
                exact List.mem_append_right _ List.mem_cons_self
              obtain ⟨hbuy, hsell⟩ := hasTraded_both (fun heq => hne (congrArg some heq)) hnew
                htraded.recorded
              obtain ⟨gross, hsome⟩ := hsyncs k hk hbuy hsell
              exact hnone gross hsome
            · exact absurd hsome (hnoneFlat gross)
      · exact absurd (hget.symm.trans (hkeep.symm.trans hout)) nofun
    · exact absurd (hget.symm.trans hout) nofun

end Step

/-! ### Runs -/

/-- What the runtime does: a refresh, or anything else, since nothing else writes executions or
outcomes. -/
inductive Doing
  | refresh (fetches : List Fetch)
  | other (next : World)

def Doing.run (x : Context) : Doing → World → World
  | .refresh fetches, w => after (refreshPositionsFromExecutions x fetches) w
  | .other next, w =>
    { next with
      lifecycle := { next.lifecycle with
        executionsRaw := w.lifecycle.executionsRaw
        outcomes := w.lifecycle.outcomes } }

/-- A unit of work that delivers no new fill, or one that counts alike. -/
def WorkCountsAlike (signals : SignalTable) (x : Context) (w : World) : Work → Prop
  | .floors _ => True
  | .item symbol d => d.execId ∉ w.rt.seenExecIds → ∀ fill, d.read symbol = .ok (some fill) →
      ∃ feeRate, CountsAlike signals x symbol d fill feeRate w

/-- Every new fill of a refresh counts alike. -/
def RefreshCountsAlike (signals : SignalTable) (x : Context) (fetches : List Fetch) (w : World) :
    Prop :=
  ∀ t ∈ transitions (step x) (taken (work x) (works x fetches) w) w,
    WorkCountsAlike signals x t.before t.input

section Run

variable {signals : SignalTable} {x : Context} {w : World}

theorem Exportable.of_eq {w' : World} (h : Exportable signals w)
    (hraw : w'.lifecycle.executionsRaw = w.lifecycle.executionsRaw)
    (houtcomes : w'.lifecycle.outcomes = w.lifecycle.outcomes) : Exportable signals w' := by
  have hrows : ∀ g, rowsOfSignal w'.lifecycle g = rowsOfSignal w.lifecycle g := fun g => by
    rw [rowsOfSignal, hraw, rowsOfSignal]
  refine ⟨fun g => ?_, fun g => ?_, fun g => ?_⟩
  · rw [hrows]
    exact h.counted g
  · rw [hrows, houtcomes]
    exact h.fees g
  · rw [hrows, houtcomes]
    exact h.entries g

theorem Exportable.work {u : Work} (hinv : Exportable signals w)
    (h : WorkCountsAlike signals x w u) : Exportable signals (Botik.step x u w) := by
  cases u with
  | floors symbol =>
    have htables := (tables_step_floors x symbol w).1
    exact hinv.of_eq (by rw [htables]) (by rw [htables])
  | item symbol d =>
    by_cases hseen : d.execId ∈ w.rt.seenExecIds
    · rw [step_of_seen hseen]
      exact hinv
    by_cases hread : ∃ fill, d.read symbol = .ok (some fill)
    · obtain ⟨fill, hread⟩ := hread
      obtain ⟨feeRate, hcounts⟩ := h hseen fill hread
      exact hinv.step hseen hcounts
    · obtain ⟨hraw, houtcomes⟩ := same_of_unread (x := x) (w := w)
        fun fill hfill => hread ⟨fill, hfill⟩
      exact hinv.of_eq hraw houtcomes

/-- A refresh is a run over its units of work. -/
theorem Exportable.refresh {fetches : List Fetch} (hinv : Exportable signals w)
    (h : RefreshCountsAlike signals x fetches w) :
    Exportable signals (after (refreshPositionsFromExecutions x fetches) w) := by
  have hstep : ∀ (w : World) (u : Work), Exportable signals w →
      WorkCountsAlike signals x w u → Exportable signals (Botik.step x u w) :=
    fun _ _ hinv h => hinv.work h
  rw [refresh_eq_each_work, after_each_eq_run]
  exact run_of_inv hstep hinv h

theorem exportable_of_empty (hraw : w.lifecycle.executionsRaw.entries = [])
    (houtcomes : w.lifecycle.outcomes.entries = []) : Exportable signals w := by
  have hrows : ∀ g, rowsOfSignal w.lifecycle g = [] := fun g => by
    rw [rowsOfSignal, hraw]
    rfl
  refine ⟨fun g row hrow => ?_, fun g out hout => ?_, fun g snapshot side _ _ _ row hrow => ?_⟩
  · rw [hrows] at hrow
    exact absurd hrow List.not_mem_nil
  · have hmem := Dict.mem_entries_iff.mpr hout
    rw [houtcomes] at hmem
    exact absurd hmem List.not_mem_nil
  · rw [hrows] at hrow
    exact absurd hrow List.not_mem_nil

/-- If every new fill counts alike, the export agrees with the outcomes in every state. -/
theorem exportAgrees_of_run (signals : SignalTable) (x : Context) (doings : List Doing)
    (w₀ : World) (hraw : w₀.lifecycle.executionsRaw.entries = [])
    (houtcomes : w₀.lifecycle.outcomes.entries = [])
    (hcounts : ∀ t ∈ transitions (Doing.run x) doings w₀, ∀ fetches, t.input = .refresh fetches →
      RefreshCountsAlike signals x fetches t.before) :
    ∀ t ∈ transitions (Doing.run x) doings w₀,
      ExportAgrees signals t.before ∧ ExportAgrees signals t.after := by
  have hstep : ∀ (w : World) (doing : Doing), Exportable signals w →
      (∀ fetches, doing = .refresh fetches → RefreshCountsAlike signals x fetches w) →
        Exportable signals (doing.run x w) := by
    intro w doing hinv h
    cases doing with
    | refresh fetches => exact hinv.refresh (h fetches rfl)
    | other next => exact hinv.of_eq rfl rfl
  intro t ht
  obtain ⟨hbefore, hafter⟩ :=
    forall_transitions_of_inv hstep (exportable_of_empty hraw houtcomes) hcounts t ht
  exact ⟨hbefore.agrees, hafter.agrees⟩

end Run

/-! ### Concrete runs -/

instance (symbol : String) (row : ExecutionRow) : Decidable (InQuote symbol row) :=
  inferInstanceAs (Decidable (_ = _))

instance (db : LifecycleStore) (g : String) (side : Side) : Decidable (HasTraded db g side) :=
  inferInstanceAs (Decidable (∃ row ∈ rowsOfSignal db g, _))

/-- A linked item with a fee. -/
def chargedDelivery (execId link side qty price fee feeCurrency : String) : Delivery :=
  ⟨{ plainItem execId side qty price with
    orderLinkId := some link
    execFee := some fee
    feeCurrency := some feeCurrency }, calmEnv⟩

/-- A signal to buy one coin at a hundred, as it is stored. -/
def buySnapshot : SignalSnapshot where
  tsSignalMs := 1700000000000
  symbol := "AAAUSDT"
  side := "Buy"
  bestBid := 100
  bestAsk := 101
  mid := 201 / 2
  spreadBps := 10000 / 201 * 2
  depthBidQuote := 0
  depthAskQuote := 0
  slippageBuyBpsEst := 0
  slippageSellBpsEst := 0
  tradesPerMin := 0
  p95TradeGapMs := 0
  vol1sBps := 0
  impulseBps := 0
  spikeDirection := 0
  spikeStrengthBps := 0
  minRequiredSpreadBps := 0
  scannerStatus := "PASS"
  modelVersion := "rules-v1"
  profileId := some "default"
  actionEntryTickOffset := some 1
  actionOrderQtyBase := some 1
  actionTargetProfit := none
  actionSafetyBuffer := none
  actionMinTopBookQty := none
  actionStopLossPct := none
  actionTakeProfitPct := none
  actionHoldTimeoutSec := none
  actionMakerOnly := some 1
  policyUsed := "Bandit"
  predOpenProb := none
  predExpEdgeBps := none
  activeModelId := ""
  modelId := ""
  orderSizeQuote := 100
  orderSizeBase := 1
  entryPrice := 100

def buySignals : SignalTable := Dict.empty.set "sig-1" buySnapshot

/-- A round trip whose first fee is charged in the coin that is bought. -/
def baseFeeRun : List Doing :=
  [.refresh [Fetch.single "AAAUSDT"
      (chargedDelivery "e1" "mm-1" "Buy" "1" "100" "0.001" "AAA")],
    .refresh [Fetch.single "AAAUSDT"
      (chargedDelivery "e2" "px-1" "Sell" "0.999" "110" "0.11" "USDT")]]

/-- The outcome charges the worth of the fee, the export a thousandth. -/
theorem baseFee_not_exported :
    ¬ ExportAgrees buySignals (run (Doing.run spotMarket) baseFeeRun signalWorld) := by
  intro h
  let w := run (Doing.run spotMarket) baseFeeRun signalWorld
  have hfees : ((exportDataset buySignals w).map ExportRow.totalFeesQuote) = [111 / 1000] := by
    decide +kernel
  have hout : (w.lifecycle.outcomes.get? "sig-1").map
      (fun out => out.grossPnlQuote - out.netPnlQuote) = some (21 / 100) := by decide +kernel
  obtain ⟨r, hr, hfee⟩ := List.mem_map.mp (hfees ▸ List.mem_cons_self :
    (111 / 1000 : ℚ) ∈ (exportDataset buySignals w).map ExportRow.totalFeesQuote)
  have hid : r.signalId = "sig-1" := by
    obtain ⟨g, snapshot, hget, rfl⟩ := mem_exportDataset.mp hr
    rw [buySignals, Dict.get?_set] at hget
    split_ifs at hget with hg
    · exact hg
    · simp at hget
  have hagrees := h r hr
  unfold RowAgrees at hagrees
  obtain ⟨out, hget, hnet⟩ := Option.map_eq_some_iff.mp hout
  rw [hid, hget] at hagrees
  dsimp only at hagrees
  rw [hfee, hnet] at hagrees
  norm_num at hagrees

/-- The same round trip with fees in the quote currency. -/
def quoteFeeBuy : Delivery := chargedDelivery "e1" "mm-1" "Buy" "1" "100" "0.1" "USDT"

def quoteFeeSale : Delivery := chargedDelivery "e2" "px-1" "Sell" "1" "110" "0.11" "USDT"

def quoteFeeRun : List Doing :=
  [.refresh [Fetch.single "AAAUSDT" quoteFeeBuy], .refresh [Fetch.single "AAAUSDT" quoteFeeSale]]

/-- The two deliveries, as fills. -/
def quoteFeeFills : Fill × Fill :=
  ({ oneCoinFill with execFee := 1 / 10, feeCurrency := "USDT" },
    { oneCoinSale with execFee := 11 / 100, feeCurrency := "USDT" })

/-- Before the buy is processed, after the first refresh, and before the sale is processed. -/
def quoteFeeWorlds : World × World × World :=
  let w₁ := step spotMarket (.floors "AAAUSDT") signalWorld
  let w₂ := step spotMarket (.item "AAAUSDT" quoteFeeBuy) w₁
  (w₁, w₂, step spotMarket (.floors "AAAUSDT") w₂)

theorem countsAlike_quoteFeeBuy : CountsAlike buySignals spotMarket "AAAUSDT" quoteFeeBuy
    quoteFeeFills.1 none quoteFeeWorlds.1 := by
  have hsignal : signalOf quoteFeeBuy quoteFeeWorlds.1 = some "sig-1" := by decide +kernel
  have hflat : flatOutcomeOf spotMarket "AAAUSDT" quoteFeeBuy quoteFeeFills.1 quoteFeeWorlds.1 =
      none := by decide +kernel
  refine ⟨⟨by decide +kernel, by decide +kernel, fun _ => rfl, rfl⟩, by decide +kernel,
    fun _ _ => by decide +kernel, fun g hg => ?_, fun g _ hkey => ?_, fun g snapshot side hg => ?_,
    fun g gross h => ?_⟩
  · obtain rfl := Option.some.inj (hsignal.symm.trans hg)
    intro db _ hsell
    exact absurd hsell (by decide +kernel)
  · exact absurd hkey List.not_mem_nil
  · obtain rfl := Option.some.inj (hsignal.symm.trans hg)
    rintro hget hside
    obtain rfl : buySnapshot = snapshot := Option.some.inj hget
    exact Or.inl (Option.some.inj hside)
  · rw [hflat] at h
    cases h

theorem countsAlike_quoteFeeSale : CountsAlike buySignals spotMarket "AAAUSDT" quoteFeeSale
    quoteFeeFills.2 none quoteFeeWorlds.2.2 := by
  have hsignal : signalOf quoteFeeSale quoteFeeWorlds.2.2 = some "sig-1" := by decide +kernel
  have hflat : flatOutcomeOf spotMarket "AAAUSDT" quoteFeeSale quoteFeeFills.2
      quoteFeeWorlds.2.2 = some ("sig-1", 10) := by decide +kernel
  refine ⟨⟨by decide +kernel, by decide +kernel, fun _ => rfl, rfl⟩, by decide +kernel,
    fun _ _ => by decide +kernel, fun g hg => ?_, fun g hg _ => ?_, fun g snapshot side hg => ?_,
    fun g gross h => ?_⟩
  · obtain rfl := Option.some.inj (hsignal.symm.trans hg)
    intro db _ _
    decide +kernel
  · obtain rfl := Option.some.inj (hsignal.symm.trans hg)
    decide +kernel
  · obtain rfl := Option.some.inj (hsignal.symm.trans hg)
    exact fun _ _ => Or.inr (Or.inr ⟨10, hflat⟩)
  · rw [hflat] at h
    obtain ⟨rfl, -⟩ := Prod.mk.inj (Option.some.inj h)
    decide +kernel

/-- A refresh that delivers one item is two units of work. -/
theorem works_single (d : Delivery) : works spotMarket [Fetch.single "AAAUSDT" d] =
    [.floors "AAAUSDT", .item "AAAUSDT" d] := rfl

theorem run_refresh_single (d : Delivery) (w : World) :
    Doing.run spotMarket (.refresh [Fetch.single "AAAUSDT" d]) w =
      step spotMarket (.item "AAAUSDT" d) (step spotMarket (.floors "AAAUSDT") w) := by
  rw [Doing.run, refresh_eq_each_work, after_each_eq_run, works_single, taken_floors_item]
  rfl

theorem quoteFees_exported :
    ExportAgrees buySignals (run (Doing.run spotMarket) quoteFeeRun signalWorld) := by
  -- a refresh of one delivery has two units of work
  have hunits : ∀ d w, ∀ t ∈ transitions (step spotMarket)
      (taken (work spotMarket) (works spotMarket [Fetch.single "AAAUSDT" d]) w) w,
      t = ⟨w, .floors "AAAUSDT", step spotMarket (.floors "AAAUSDT") w⟩ ∨
        t.before = step spotMarket (.floors "AAAUSDT") w ∧ t.input = .item "AAAUSDT" d := by
    intro d w t ht
    rw [works_single, taken_floors_item] at ht
    rcases List.mem_cons.mp ht with rfl | ht
    · exact Or.inl rfl
    -- the sale
    · obtain rfl := List.mem_singleton.mp ht
      exact Or.inr ⟨rfl, rfl⟩
  have hreads : quoteFeeBuy.read "AAAUSDT" = .ok (some quoteFeeFills.1) ∧
      quoteFeeSale.read "AAAUSDT" = .ok (some quoteFeeFills.2) := by decide +kernel
  refine (exportAgrees_of_run buySignals spotMarket quoteFeeRun signalWorld rfl rfl ?_ _
    (List.mem_cons_of_mem _ List.mem_cons_self)).2
  intro t ht fetches hinput u hu
  rcases List.mem_cons.mp ht with rfl | ht
  -- the buy
  · cases hinput
    rcases hunits _ _ u hu with rfl | ⟨hbefore, hitem⟩
    · trivial
    · rw [hbefore, hitem]
      intro _ fill hfill
      obtain rfl := Option.some.inj (Except.ok.inj (hreads.1.symm.trans hfill))
      exact ⟨none, countsAlike_quoteFeeBuy⟩
  · obtain rfl := List.mem_singleton.mp ht
    cases hinput
    have hfirst : Doing.run spotMarket (.refresh [Fetch.single "AAAUSDT" quoteFeeBuy])
        signalWorld = quoteFeeWorlds.2.1 := run_refresh_single _ _
    rcases hunits _ _ u hu with rfl | ⟨hbefore, hitem⟩
    · trivial
    · rw [hbefore, hitem, hfirst]
      intro _ fill hfill
      obtain rfl := Option.some.inj (Except.ok.inj (hreads.2.symm.trans hfill))
      exact ⟨none, countsAlike_quoteFeeSale⟩

end Botik
