import Botik.Execution.ReconciliationRuns
import Botik.Library.Runs
import Botik.Main.EntryGate

/-!
# Holdings recovered from the wallet

A coin of the wallet without a local row gets one, protected by the hold policy. Two things are
not seen: a row of the coin that holds nothing is taken for its holding, and a coin that vanished
and came back keeps the row that was marked as stale, which the hold policy does not protect.

## Main definitions

* `HasRow`, `HasHolding` — the rows of a coin in the account of the runtime
* `ReconRun.HoldsCoin` — a run whose wallet holds a coin
* `CoinPhase`, `InPhase` — what became of a coin whose rows only the reconciliation wrote

## Main results

* `hasHolding_iff_step`, `inPhase_step` — one run
* `recovered_holdings` — after every run of a sequence
-/

namespace Botik

open Runs Upserts

/-! ### Runs of the runtime's service -/

/-- A run of the service of the runtime that gets an answer of the wallet. -/
structure ReconRun.ReadsWallet (r : ReconRun) (coins : List WalletCoin) : Prop where
  account : r.svc.accountType = unified
  answer : r.answers.wallet = .ok ⟨some 0, coins⟩

/-- The wallet the run gets holds the coin. -/
def ReconRun.HoldsCoin (r : ReconRun) (asset : String) : Prop :=
  ∃ coins, r.answers.wallet = .ok ⟨some 0, coins⟩ ∧ asset ∈ seenAssets coins

section Written

variable {r : ReconRun} {coins : List WalletCoin} {w : World}

theorem ReconRun.ReadsWallet.holdsCoin_iff (h : r.ReadsWallet coins) {asset : String} :
    r.HoldsCoin asset ↔ asset ∈ seenAssets coins := by
  constructor
  · rintro ⟨coins', hanswer, hmem⟩
    obtain rfl : coins' = coins := by
      have heq := Except.ok.inj (hanswer.symm.trans h.answer)
      exact congrArg ListReply.list heq
    exact hmem
  · exact fun hmem => ⟨coins, h.answer, hmem⟩

/-- The holdings after such a run. -/
theorem ReconRun.ReadsWallet.holdings_eq (h : r.ReadsWallet coins) :
    (reconStep r w).spot.holdings = Dict.upsertAll HoldingRow.merge
      (r.svc.holdingRows (r.info w) coins w) w.spot.holdings :=
  congrArg Prod.snd (walletPart_of_coins h.answer)

/-- The holdings a run lists as local. -/
theorem mem_listSpotHoldings {db : SpotStore} {key : HoldingKey} {row : HoldingRow} :
    (key, row) ∈ db.listSpotHoldings unified ↔
      db.holdings.get? key = some row ∧ key.accountType = unified := by
  have hunified : unified ≠ "" := by decide +kernel
  unfold SpotStore.listSpotHoldings
  rw [List.mem_insertionSort, List.mem_filter, Dict.mem_entries_iff, decide_eq_true_eq,
    or_iff_right hunified]

end Written

/-! ### What a run writes -/

/-- Some row of the account is about the coin. -/
def HasRow (asset : String) (w : World) : Prop :=
  ∃ key row, w.spot.holdings.get? key = some row ∧ key.accountType = unified ∧ key.asset = asset

/-- Some row of the account holds the coin. -/
def HasHolding (asset : String) (w : World) : Prop :=
  ∃ key row, w.spot.holdings.get? key = some row ∧ key.accountType = unified ∧
    key.asset = asset ∧ 0 < row.qty

/-- The rows a run writes: those of held coins without a row, and those of rows without a coin,
marked as stale. -/
inductive WrittenFrom (info : RunInfo) (coins : List WalletCoin) (w : World) :
    HoldingKey → HoldingRow → Prop
  | recovered (coin : WalletCoin) (hcoin : coin ∈ coins) (hheld : coin.isHeld = true)
      (hquote : coin.asset ∉ quoteCoins) (hnone : ¬ HasRow coin.asset w) :
      WrittenFrom info coins w ⟨unified, coin.asset ++ "USDT", coin.asset⟩
        (recoveredRow info coin).clamp
  | stale (key : HoldingKey) (row : HoldingRow) (hget : w.spot.holdings.get? key = some row)
      (haccount : key.accountType = unified) (hqty : 0 < row.qty)
      (hgone : key.asset ∉ seenAssets coins) (hasset : key.asset ≠ "") :
      WrittenFrom info coins w (⟨unified, key.symbolOrDefault, key.asset⟩ : HoldingKey).stored
        (staleRow info row).clamp

section Step

variable {r : ReconRun} {coins : List WalletCoin} {w : World} {info : RunInfo} {key : HoldingKey}
  {row : HoldingRow} {asset : String}

theorem mem_map_listSpotHoldings :
    asset ∈ (w.spot.listSpotHoldings unified).map (fun e => e.1.asset) ↔ HasRow asset w := by
  rw [List.mem_map]
  constructor
  · rintro ⟨⟨key, row⟩, hmem, rfl⟩
    obtain ⟨hget, haccount⟩ := mem_listSpotHoldings.mp hmem
    exact ⟨key, row, hget, haccount, rfl⟩
  · rintro ⟨key, row, hget, haccount, rfl⟩
    exact ⟨(key, row), mem_listSpotHoldings.mpr ⟨hget, haccount⟩, rfl⟩

theorem mem_holdingRows (h : r.ReadsWallet coins) :
    (key, row) ∈ r.svc.holdingRows (r.info w) coins w ↔
      WrittenFrom (r.info w) coins w key row := by
  unfold ReconciliationService.holdingRows
  rw [List.mem_append, mem_recoveredRows, mem_staleRows]
  unfold ReconciliationService.coinKey
  rw [h.account]
  constructor
  · rintro (⟨coin, hcoin, hrecovered, heq⟩ | ⟨⟨key', row'⟩, hlocal, hstale, heq⟩)
    · obtain ⟨rfl, rfl⟩ := Prod.mk.inj heq
      obtain ⟨hheld, hnot⟩ := of_decide_eq_true hrecovered
      rw [not_or, mem_map_listSpotHoldings] at hnot
      exact .recovered coin hcoin hheld hnot.1 hnot.2
    · obtain ⟨rfl, rfl⟩ := Prod.mk.inj heq
      obtain ⟨hget, haccount⟩ := mem_listSpotHoldings.mp hlocal
      obtain ⟨hasset, hqty, hgone⟩ := of_decide_eq_true hstale
      exact .stale key' row' hget haccount hqty hgone hasset
  · rintro (⟨coin, hcoin, hheld, hquote, hnone⟩ | ⟨key, row, hget, haccount, hqty, hgone, hasset⟩)
    · refine Or.inl ⟨coin, hcoin, decide_eq_true ⟨hheld, ?_⟩, rfl⟩
      rw [not_or, mem_map_listSpotHoldings]
      exact ⟨hquote, hnone⟩
    · exact Or.inr ⟨(key, row), mem_listSpotHoldings.mpr ⟨hget, haccount⟩,
        decide_eq_true ⟨hasset, hqty, hgone⟩, rfl⟩

/-- A written row holds something. -/
theorem WrittenFrom.qty_pos (h : WrittenFrom info coins w key row) : 0 < row.qty := by
  cases h with
  | recovered coin hcoin hheld hquote hnone => exact clamp_recoveredRow_qty hheld
  | stale key row hget haccount hqty hgone hasset => exact clamp_staleRow_qty hqty

theorem WrittenFrom.account (h : WrittenFrom info coins w key row) :
    key.accountType = unified := by
  cases h <;> rfl

/-- A written row is about a coin that is seen for the first time, or a holding that is not
seen. -/
theorem WrittenFrom.asset_cases (h : WrittenFrom info coins w key row) :
    key.asset ∈ seenAssets coins ∧ ¬ HasRow key.asset w ∨ HasHolding key.asset w := by
  cases h with
  | recovered coin hcoin hheld hquote hnone =>
    have hasset : HoldingKey.asset ⟨unified, coin.asset ++ "USDT", coin.asset⟩ = coin.asset :=
      upper_asset coin
    rw [hasset]
    exact Or.inl ⟨mem_seenAssets.mpr ⟨coin, hcoin, hheld, rfl⟩, hnone⟩
  | stale key row hget haccount hqty hgone hasset =>
    have hstored : (⟨unified, key.symbolOrDefault, key.asset⟩ : HoldingKey).stored.asset =
        key.asset := by
      unfold HoldingKey.asset HoldingKey.stored
      rw [Text.upper_upper, Text.upper_upper]
    rw [hstored]
    exact Or.inr ⟨key, row, hget, haccount, rfl, hqty⟩

theorem qty_merge {new old : HoldingRow} (h : 0 < new.qty) : 0 < (new.merge old).qty := h

/-- A written key holds something after the run. -/
theorem holds_of_written (h : r.ReadsWallet coins) (hwritten : WrittenFrom (r.info w) coins w key row) :
    ∃ row', (reconStep r w).spot.holdings.get? key = some row' ∧ 0 < row'.qty := by
  rw [h.holdings_eq]
  apply Dict.exists_get?_upsertAll_of_forall
  · exact fun new old hnew => qty_merge hnew
  · exact fun v hv => ((mem_holdingRows h).mp hv).qty_pos
  · exact ⟨row, (mem_holdingRows h).mpr hwritten⟩

/-- A row after the run was written or was there. -/
theorem written_or_get? (h : r.ReadsWallet coins) (key : HoldingKey) :
    (∃ row, WrittenFrom (r.info w) coins w key row) ∨
      (reconStep r w).spot.holdings.get? key = w.spot.holdings.get? key := by
  rw [h.holdings_eq]
  refine (Dict.get?_upsertAll_cases _ _ key).imp_left ?_
  rintro ⟨row, hmem⟩
  exact ⟨row, (mem_holdingRows h).mp hmem⟩

/-- A coin that is seen for the first time is written. -/
theorem exists_written_of_seen (hseen : asset ∈ seenAssets coins) (hquote : asset ∉ quoteCoins)
    (hnone : ¬ HasRow asset w) :
    ∃ row, WrittenFrom info coins w ⟨unified, asset ++ "USDT", asset⟩ row ∧
      Text.upper asset = asset := by
  obtain ⟨coin, hcoin, hheld, rfl⟩ := mem_seenAssets.mp hseen
  exact ⟨_, .recovered coin hcoin hheld hquote hnone, upper_asset coin⟩

theorem hasRow_step (h : r.ReadsWallet coins) (hquote : asset ∉ quoteCoins) :
    HasRow asset (reconStep r w) ↔ HasRow asset w ∨ asset ∈ seenAssets coins := by
  constructor
  · rintro ⟨key, row, hget, haccount, rfl⟩
    rcases written_or_get? (w := w) h key with ⟨row', hwritten⟩ | hsame
    · rcases hwritten.asset_cases with ⟨hseen, -⟩ | ⟨key', row'', hget', haccount', hasset, -⟩
      · exact Or.inr hseen
      · exact Or.inl ⟨key', row'', hget', haccount', hasset⟩
    · exact Or.inl ⟨key, row, hsame.symm.trans hget, haccount, rfl⟩
  · have hkept : HasRow asset w → HasRow asset (reconStep r w) := by
      rintro ⟨key, row, hget, haccount, rfl⟩
      rcases written_or_get? (w := w) h key with ⟨row', hwritten⟩ | hsame
      · obtain ⟨row'', hget', -⟩ := holds_of_written h hwritten
        exact ⟨key, row'', hget', haccount, rfl⟩
      · exact ⟨key, row, hsame.trans hget, haccount, rfl⟩
    rintro (hrow | hseen)
    · exact hkept hrow
    by_cases hrow : HasRow asset w
    · exact hkept hrow
    · obtain ⟨row, hwritten, hupper⟩ := exists_written_of_seen hseen hquote hrow
      obtain ⟨row', hget, -⟩ := holds_of_written h hwritten
      exact ⟨_, row', hget, rfl, hupper⟩

theorem hasHolding_step (h : r.ReadsWallet coins) (hquote : asset ∉ quoteCoins) :
    HasHolding asset (reconStep r w) ↔
      HasHolding asset w ∨ asset ∈ seenAssets coins ∧ ¬ HasRow asset w := by
  constructor
  · rintro ⟨key, row, hget, haccount, rfl, hqty⟩
    rcases written_or_get? (w := w) h key with ⟨row', hwritten⟩ | hsame
    · exact hwritten.asset_cases.symm
    · exact Or.inl ⟨key, row, hsame.symm.trans hget, haccount, rfl, hqty⟩
  · rintro (⟨key, row, hget, haccount, rfl, hqty⟩ | ⟨hseen, hnone⟩)
    · rcases written_or_get? (w := w) h key with ⟨row', hwritten⟩ | hsame
      · obtain ⟨row'', hget', hqty'⟩ := holds_of_written h hwritten
        exact ⟨key, row'', hget', haccount, rfl, hqty'⟩
      · exact ⟨key, row, hsame.trans hget, haccount, rfl, hqty⟩
    · obtain ⟨row, hwritten, hupper⟩ := exists_written_of_seen hseen hquote hnone
      obtain ⟨row', hget, hqty⟩ := holds_of_written h hwritten
      exact ⟨_, row', hget, rfl, hupper, hqty⟩

end Step

/-! ### A coin that only the reconciliation wrote -/

/-- What became of a coin whose rows only the reconciliation wrote. -/
inductive CoinPhase
  | absent
  | recovered
  | stale
  deriving DecidableEq

namespace CoinPhase

/-- The next phase, by whether the wallet holds the coin. -/
def next : CoinPhase → Bool → CoinPhase
  | .absent, true => .recovered
  | .absent, false => .absent
  | .recovered, true => .recovered
  | .recovered, false => .stale
  | .stale, _ => .stale

/-- The hold reason of the row in a phase with one. -/
def holdReason : CoinPhase → Option String
  | .absent => none
  | .recovered => some "unknown_recovered_from_exchange"
  | .stale => some "stale_hold"

/-- In every phase but the first the coin has a row. -/
theorem exists_holdReason {phase : CoinPhase} (hne : phase ≠ .absent) :
    ∃ reason, phase.holdReason = some reason := by
  cases phase with
  | absent => exact absurd rfl hne
  | recovered => exact ⟨_, rfl⟩
  | stale => exact ⟨_, rfl⟩

/-- The phase after some wallets. -/
def after (held : List Bool) : CoinPhase := held.foldl next .absent

theorem after_append (held : List Bool) (b : Bool) : after (held ++ [b]) = (after held).next b :=
  List.foldl_append

theorem after_eq_absent_iff (held : List Bool) : after held = .absent ↔ true ∉ held := by
  induction held using List.reverseRecOn with
  | nil => exact iff_of_true rfl List.not_mem_nil
  | append_singleton held b ih =>
    rw [after_append, List.mem_append, List.mem_singleton, not_or, ← ih]
    cases after held <;> cases b <;> simp [next]

/-- The coin is still recovered if it was held at some time, and ever since. -/
theorem after_eq_recovered_iff (held : List Bool) :
    after held = .recovered ↔ true ∈ held ∧ held.Pairwise fun a b => a = true → b = true := by
  induction held using List.reverseRecOn with
  | nil => simp [after]
  | append_singleton held b ih =>
    rw [after_append, List.pairwise_append]
    cases b with
    | false =>
      -- a coin that is not held is not recovered, and must not have been held before
      have hnext : (after held).next false ≠ .recovered := by
        cases after held <;> simp [next]
      refine iff_of_false hnext ?_
      rintro ⟨hmem, -, -, hlast⟩
      have hbefore : true ∈ held := by simpa using hmem
      exact absurd (hlast true hbefore false (List.mem_singleton_self false) rfl) (by simp)
    | true =>
      have hnext : (after held).next true = .recovered ↔
          after held = .absent ∨ after held = .recovered := by
        cases after held <;> simp [next]
      rw [hnext, ih, after_eq_absent_iff]
      have hnever : true ∉ held → held.Pairwise fun a b => a = true → b = true := by
        intro hnot
        apply List.pairwise_of_forall_mem_list
        intro a ha b _ htrue
        exact absurd (htrue ▸ ha) hnot
      have hlast : ∀ a ∈ held, ∀ b ∈ [true], a = true → b = true := by simp
      have hmem : true ∈ held ++ [true] := by simp
      constructor
      · rintro (hnot | ⟨-, hpairwise⟩)
        · exact ⟨hmem, hnever hnot, List.pairwise_singleton _ _, hlast⟩
        · exact ⟨hmem, hpairwise, List.pairwise_singleton _ _, hlast⟩
      · rintro ⟨-, hpairwise, -, -⟩
        by_cases hbefore : true ∈ held
        · exact Or.inr ⟨hbefore, hpairwise⟩
        · exact Or.inl hbefore

end CoinPhase

/-- The key of the holding of a coin. -/
def coinHolding (asset : String) : HoldingKey := ⟨unified, asset ++ "USDT", asset⟩

/-- A key that is about the coin, or is found under its symbol. -/
def HoldingKey.Touches (key : HoldingKey) (asset : String) : Prop :=
  key.accountType = unified ∧ (key.asset = asset ∨ Text.upper key.symbol = asset ++ "USDT")

/-- The only row about the coin or under its symbol is that of the phase. -/
structure InPhase (asset : String) (phase : CoinPhase) (w : World) : Prop where
  only : ∀ key row, w.spot.holdings.get? key = some row → key.Touches asset →
    phase ≠ .absent ∧ key = coinHolding asset
  row : ∀ reason ∈ phase.holdReason, ∃ row, w.spot.holdings.get? (coinHolding asset) = some row ∧
    row.holdReason = reason ∧ row.autoSellAllowed = false ∧ 0 < row.qty

section Phase

variable {r : ReconRun} {coins : List WalletCoin} {w : World} {info : RunInfo} {key : HoldingKey}
  {row : HoldingRow} {asset : String} {phase : CoinPhase}

theorem append_right_cancel {s t u : String} (h : s ++ u = t ++ u) : s = t := by
  have hlist : s.toList ++ u.toList = t.toList ++ u.toList := by
    rw [← String.toList_append, ← String.toList_append, h]
  exact String.toList_inj.mp (List.append_cancel_right hlist)

/-- The holding of a coin is written back under its own key. -/
theorem stored_coinHolding (hupper : Text.upper asset = asset) :
    (⟨unified, (coinHolding asset).symbolOrDefault, (coinHolding asset).asset⟩ :
      HoldingKey).stored = coinHolding asset := by
  have hself : (coinHolding asset).asset = asset := hupper
  have hsymbol : (coinHolding asset).symbolOrDefault = asset ++ "USDT" := symbolOrDefault_coin hupper
  rw [hsymbol, hself]
  unfold HoldingKey.stored coinHolding
  rw [upper_coinSymbol hupper, hupper]

theorem touches_coinHolding (hupper : Text.upper asset = asset) :
    (coinHolding asset).Touches asset := ⟨rfl, Or.inl hupper⟩

/-- Rows written about the coin or under its symbol are those of the coin. -/
theorem WrittenFrom.of_touches (h : WrittenFrom info coins w key row)
    (hupper : Text.upper asset = asset) (hphase : InPhase asset phase w)
    (htouches : key.Touches asset) :
    key = coinHolding asset ∧
      (phase = .absent ∧ asset ∈ seenAssets coins ∧
          row.holdReason = "unknown_recovered_from_exchange" ∧ row.autoSellAllowed = false ∨
        phase ≠ .absent ∧ asset ∉ seenAssets coins ∧ row.holdReason = "stale_hold" ∧
          ∃ row', w.spot.holdings.get? (coinHolding asset) = some row' ∧
            row.autoSellAllowed = row'.autoSellAllowed) := by
  cases h with
  | recovered coin hcoin hheld hquote hnone =>
    have hasset : coin.asset = asset := by
      rcases htouches.2 with hasset | hsymbol
      · exact (upper_asset coin).symm.trans hasset
      · rw [upper_coinSymbol (upper_asset coin)] at hsymbol
        exact append_right_cancel hsymbol
    subst hasset
    refine ⟨rfl, Or.inl ⟨?_, mem_seenAssets.mpr ⟨coin, hcoin, hheld, rfl⟩, rfl, rfl⟩⟩
    -- in the other phases the coin has a row
    by_contra hne
    obtain ⟨reason, hreason⟩ := CoinPhase.exists_holdReason hne
    obtain ⟨row', hget, -⟩ := hphase.row reason hreason
    exact hnone ⟨coinHolding coin.asset, row', hget, rfl, hupper⟩
  | stale key row hget haccount hqty hgone hasset =>
    have hbefore : key.Touches asset := by
      refine ⟨haccount, ?_⟩
      have hstored : (⟨unified, key.symbolOrDefault, key.asset⟩ : HoldingKey).stored.asset =
          key.asset := by
        unfold HoldingKey.asset HoldingKey.stored
        rw [Text.upper_upper, Text.upper_upper]
      rcases htouches.2 with hsame | hsymbol
      · exact Or.inl (hstored.symm.trans hsame)
      · have hread : Text.upper key.symbolOrDefault = asset ++ "USDT" :=
          (Text.upper_upper _).symm.trans hsymbol
        unfold HoldingKey.symbolOrDefault at hread
        split_ifs at hread with hempty
        · have hself : Text.upper key.asset = key.asset := Text.upper_upper _
          rw [upper_coinSymbol hself] at hread
          exact Or.inl (append_right_cancel hread)
        · exact Or.inr hread
    obtain ⟨hne, rfl⟩ := hphase.only key row hget hbefore
    have hself : (coinHolding asset).asset = asset := hupper
    exact ⟨stored_coinHolding hupper, Or.inr ⟨hne, hself ▸ hgone, rfl, row, hget, rfl⟩⟩

/-- The row of the phase that holds the coin, in a phase with one. -/
theorem InPhase.exists_row (h : InPhase asset phase w) (hne : phase ≠ .absent) :
    ∃ reason row, phase.holdReason = some reason ∧
      w.spot.holdings.get? (coinHolding asset) = some row ∧ row.holdReason = reason ∧
      row.autoSellAllowed = false ∧ 0 < row.qty := by
  obtain ⟨reason, hreason⟩ := CoinPhase.exists_holdReason hne
  obtain ⟨row, hget, hrow⟩ := h.row reason hreason
  exact ⟨reason, row, hreason, hget, hrow⟩

/-- The row of the coin after a run that writes it has what all written rows have. -/
theorem exists_row_of_written (h : r.ReadsWallet coins) {reason : String}
    (hwritten : ∃ row, WrittenFrom (r.info w) coins w (coinHolding asset) row)
    (hall : ∀ row, WrittenFrom (r.info w) coins w (coinHolding asset) row →
      row.holdReason = reason ∧ row.autoSellAllowed = false) :
    ∃ row, (reconStep r w).spot.holdings.get? (coinHolding asset) = some row ∧
      row.holdReason = reason ∧ row.autoSellAllowed = false ∧ 0 < row.qty := by
  rw [h.holdings_eq]
  have hmerge : ∀ new old : HoldingRow,
      new.holdReason = reason ∧ new.autoSellAllowed = false ∧ 0 < new.qty →
        (new.merge old).holdReason = reason ∧ (new.merge old).autoSellAllowed = false ∧
          0 < (new.merge old).qty := fun _ _ hnew => hnew
  apply Dict.exists_get?_upsertAll_of_forall hmerge
  · intro row hmem
    have hrow := (mem_holdingRows h).mp hmem
    exact ⟨(hall row hrow).1, (hall row hrow).2, hrow.qty_pos⟩
  · obtain ⟨row, hrow⟩ := hwritten
    exact ⟨row, (mem_holdingRows h).mpr hrow⟩

/-- One run. -/
theorem inPhase_step (h : r.ReadsWallet coins) (hupper : Text.upper asset = asset)
    (hne : asset ≠ "") (hquote : asset ∉ quoteCoins) (hphase : InPhase asset phase w) :
    InPhase asset (phase.next (asset ∈ seenAssets coins)) (reconStep r w) := by
  have hnext : ∀ b, phase ≠ .absent → phase.next b ≠ .absent := by
    intro b
    cases phase <;> cases b <;> simp [CoinPhase.next]
  have htouches := touches_coinHolding hupper
  constructor
  -- whatever names the coin is the row of its phase
  · intro key row hget hkey
    rcases written_or_get? (w := w) h key with ⟨row', hwritten⟩ | hsame
    · obtain ⟨rfl, ⟨rfl, hseen, -⟩ | ⟨hrow, -⟩⟩ := hwritten.of_touches hupper hphase hkey
      · rw [decide_eq_true hseen]
        exact ⟨by simp [CoinPhase.next], rfl⟩
      · exact ⟨hnext _ hrow, rfl⟩
    · obtain ⟨hrow, rfl⟩ := hphase.only key row (hsame.symm.trans hget) hkey
      exact ⟨hnext _ hrow, rfl⟩
  -- the row of the phase is there
  · intro reason hreason
    by_cases hseen : asset ∈ seenAssets coins
    · rw [decide_eq_true hseen] at hreason
      by_cases habsent : phase = .absent
      · -- the coin is seen for the first time
        subst habsent
        obtain rfl := Option.mem_some_iff.mp hreason
        have hnone : ¬ HasRow asset w := by
          rintro ⟨key, row, hget, haccount, hasset⟩
          exact (hphase.only key row hget ⟨haccount, Or.inl hasset⟩).1 rfl
        apply exists_row_of_written h
        · obtain ⟨row, hwritten, -⟩ := exists_written_of_seen hseen hquote hnone
          exact ⟨row, hwritten⟩
        · intro row hwritten
          rcases (hwritten.of_touches hupper hphase htouches).2 with ⟨-, -, hrow⟩ | ⟨hrow, -⟩
          · exact hrow
          · exact absurd rfl hrow
      · -- a row that is there is left alone
        have hsame : phase.next true = phase := by
          cases phase
          · exact absurd rfl habsent
          · rfl
          · rfl
        rw [hsame] at hreason
        rcases written_or_get? (w := w) h (coinHolding asset) with ⟨row, hwritten⟩ | hget
        · rcases (hwritten.of_touches hupper hphase htouches).2 with ⟨hrow, -⟩ | ⟨-, hgone, -⟩
          · exact absurd hrow habsent
          · exact absurd hseen hgone
        · rw [hget]
          exact hphase.row reason hreason
    · rw [decide_eq_false hseen] at hreason
      by_cases habsent : phase = .absent
      · subst habsent
        cases hreason
      · -- the row of a coin that vanished is marked as stale
        have hstale : phase.next false = .stale := by
          cases phase
          · exact absurd rfl habsent
          · rfl
          · rfl
        rw [hstale] at hreason
        obtain rfl := Option.mem_some_iff.mp hreason
        obtain ⟨reason', row, -, hget, -, hauto, hqty⟩ := hphase.exists_row habsent
        have hself : (coinHolding asset).asset = asset := hupper
        apply exists_row_of_written h
        · have hwritten : WrittenFrom (r.info w) coins w _ _ :=
            .stale (coinHolding asset) row hget rfl hqty (hself.symm ▸ hseen) (hself.symm ▸ hne)
          rw [stored_coinHolding hupper] at hwritten
          exact ⟨_, hwritten⟩
        · intro row' hwritten
          rcases (hwritten.of_touches hupper hphase htouches).2 with
            ⟨hrow, -⟩ | ⟨-, -, hrow, row'', hget', hauto'⟩
          · exact absurd hrow habsent
          · obtain rfl := Option.some.inj (hget.symm.trans hget')
            exact ⟨hrow, hauto'.trans hauto⟩

/-- In a phase with a row, the sales of the coin are blocked exactly if it is recovered. -/
theorem blocked_iff_recovered (hupper : Text.upper asset = asset) (hphase : InPhase asset phase w)
    (hne : phase ≠ .absent) {side : String} (hside : Text.lower (Text.strip side) = "sell") :
    (spotSellBlockedByHoldPolicy .spot w.spot (asset ++ "USDT") side).1 = true ↔
      phase = .recovered := by
  obtain ⟨reason, row, hreason, hget, hrow, hauto, hqty⟩ := hphase.exists_row hne
  have hsymbol := upper_coinSymbol hupper
  rw [spotSellBlocked_iff_of_only hside hget rfl hsymbol.symm]
  · have hprotected : row.isProtected = true ↔ Text.strip reason ∈ protectedHoldReasons := by
      unfold HoldingRow.isProtected canAutoSellHold
      rw [hrow, hauto]
      simp [hqty]
    rw [hprotected]
    cases phase with
    | absent => exact absurd rfl hne
    | recovered =>
      obtain rfl := Option.some.inj hreason
      exact iff_of_true (by decide +kernel) rfl
    | stale =>
      obtain rfl := Option.some.inj hreason
      exact iff_of_false (by decide +kernel) (by simp)
  · intro key' row' hget' haccount hfound
    have htouches : key'.Touches asset := by
      refine ⟨haccount, Or.inr ?_⟩
      rw [hfound, Text.upper_upper, hsymbol]
    exact (hphase.only key' row' hget' htouches).2

end Phase

/-! ### A sequence of runs -/

/-- The account has no row about the coin and none under its symbol, so all that are there later
were written by the reconciliation. -/
def Untouched (asset : String) (w : World) : Prop :=
  ∀ key row, w.spot.holdings.get? key = some row → ¬ key.Touches asset

/-- The coin has rows, but none that holds it. -/
def OnlyEmptyRows (asset : String) (w : World) : Prop := HasRow asset w ∧ ¬ HasHolding asset w

section Runs

variable {runs : List ReconRun} {r : ReconRun} {w₀ : World} {asset : String}

theorem onlyEmptyRows_step {coins : List WalletCoin} {w : World} (h : r.ReadsWallet coins)
    (hquote : asset ∉ quoteCoins) :
    OnlyEmptyRows asset (reconStep r w) ↔ OnlyEmptyRows asset w := by
  unfold OnlyEmptyRows
  rw [hasRow_step h hquote, hasHolding_step h hquote]
  tauto

/-- A coin whose rows hold nothing stays so. -/
theorem onlyEmptyRows_run (hruns : ∀ r ∈ runs, ∃ coins, r.ReadsWallet coins)
    (hquote : asset ∉ quoteCoins) :
    OnlyEmptyRows asset (run reconStep runs w₀) ↔ OnlyEmptyRows asset w₀ := by
  induction runs generalizing w₀ with
  | nil => exact Iff.rfl
  | cons r runs ih =>
    obtain ⟨⟨coins, hr⟩, hruns⟩ := List.forall_mem_cons.mp hruns
    rw [run_cons, ih hruns, onlyEmptyRows_step hr hquote]

open Classical in
/-- The phase of a coin follows the wallets. -/
theorem inPhase_run (hruns : ∀ r ∈ runs, ∃ coins, r.ReadsWallet coins)
    (hupper : Text.upper asset = asset) (hne : asset ≠ "") (hquote : asset ∉ quoteCoins)
    (h₀ : Untouched asset w₀) :
    InPhase asset (.after (runs.map fun r => decide (r.HoldsCoin asset)))
      (run reconStep runs w₀) := by
  induction runs using List.reverseRecOn with
  | nil =>
    refine ⟨fun key row hget htouches => absurd htouches (h₀ key row hget), ?_⟩
    rintro reason ⟨⟩
  | append_singleton runs r ih =>
    rw [List.forall_mem_append, List.forall_mem_singleton] at hruns
    obtain ⟨hruns, coins, hr⟩ := hruns
    rw [List.map_append, List.map_singleton, CoinPhase.after_append, run_append, run_cons, run_nil,
      decide_eq_decide.mpr hr.holdsCoin_iff]
    exact inPhase_step hr hupper hne hquote (ih hruns)

/-- After a run that sees a coin: it has a holding unless all it had at first were empty rows;
and if no row was there at first, its sales are blocked if and only if every wallet held it since
the first that did. -/
theorem recovered_holdings (runs : List ReconRun) (r : ReconRun) (w₀ : World)
    (hruns : ∀ r' ∈ runs ++ [r], ∃ coins, r'.ReadsWallet coins) (asset : String)
    (hquote : asset ∉ quoteCoins) (hheld : r.HoldsCoin asset) :
    (HasHolding asset (run reconStep (runs ++ [r]) w₀) ↔ ¬ OnlyEmptyRows asset w₀) ∧
    (Untouched asset w₀ → ∀ side, Text.lower (Text.strip side) = "sell" →
      ((spotSellBlockedByHoldPolicy .spot (run reconStep (runs ++ [r]) w₀).spot
          (asset ++ "USDT") side).1 = true ↔
        (runs ++ [r]).Pairwise fun a b => a.HoldsCoin asset → b.HoldsCoin asset)) := by
  classical
  have hall := hruns
  rw [List.forall_mem_append, List.forall_mem_singleton] at hruns
  obtain ⟨hbefore, coins, hr⟩ := hruns
  have hseen := hr.holdsCoin_iff.mp hheld
  constructor
  · rw [run_append, run_cons, run_nil, hasHolding_step hr hquote,
      ← onlyEmptyRows_run hbefore hquote]
    unfold OnlyEmptyRows
    tauto
  · intro h₀ side hside
    obtain ⟨coin, -, hcoin, hasset⟩ := mem_seenAssets.mp hseen
    have hupper : Text.upper asset = asset := hasset ▸ upper_asset coin
    have hne : asset ≠ "" := hasset ▸ (of_decide_eq_true hcoin).1
    have hphase := inPhase_run hall hupper hne hquote h₀
    have hlast : true ∈ (runs ++ [r]).map fun r => decide (r.HoldsCoin asset) :=
      List.mem_map.mpr ⟨r, List.mem_append_right _ (List.mem_singleton_self r),
        decide_eq_true hheld⟩
    have hpresent : CoinPhase.after ((runs ++ [r]).map fun r => decide (r.HoldsCoin asset)) ≠
        .absent := fun habsent => (CoinPhase.after_eq_absent_iff _).mp habsent hlast
    rw [blocked_iff_recovered hupper hphase hpresent hside, CoinPhase.after_eq_recovered_iff,
      and_iff_right hlast, List.pairwise_map]
    simp only [decide_eq_true_eq]

end Runs

/-! ### A coin that vanishes and comes back -/

/-- A spot service without managed symbols. -/
def spotService : ReconciliationService where
  marketCategory := .spot
  accountType := unified
  managedSymbols := []
  symbolsLimit := 120
  serviceName := "runtime"

/-- A run with this wallet. -/
def walletRun (coins : List WalletCoin) : ReconRun where
  svc := spotService
  triggerSource := "scheduled"
  answers :=
    { wallet := .ok ⟨some 0, coins⟩
      openOrders := .ok ⟨some 0, []⟩
      executions := fun _ => .ok ⟨some 0, []⟩
      positions := .ok ⟨some 0, []⟩
      utc := 100 }

theorem walletRun_readsWallet (coins : List WalletCoin) : (walletRun coins).ReadsWallet coins :=
  ⟨rfl, rfl⟩

/-- One bitcoin. -/
def oneBitcoin : WalletCoin where
  coin := some "BTC"
  walletBalance := some "1"
  equity := none
  free := none
  availableToWithdraw := none

/-- An empty database. -/
def emptyTables : World := .initial (.default ["BTCUSDT"] .spot)

/-- A row of the coin that holds nothing. -/
def soldBitcoin : World :=
  { emptyTables with
    spot := emptyTables.spot.upsertSpotHolding (coinHolding "BTC")
      { freeQty := 0
        lockedQty := 0
        avgEntryPrice := none
        holdReason := "strategy_entry"
        sourceOfTruth := "runtime"
        recoveredFromExchange := false
        strategyOwner := none
        autoSellAllowed := true
        updatedAtUtc := 0 } }

/-- A coin that stays in the wallet stays protected. -/
theorem bitcoin_stays_protected :
    HasHolding "BTC" (run reconStep [walletRun [oneBitcoin], walletRun [oneBitcoin]] emptyTables) ∧
      (spotSellBlockedByHoldPolicy .spot
        (run reconStep [walletRun [oneBitcoin], walletRun [oneBitcoin]] emptyTables).spot
        "BTCUSDT" "Sell").1 = true := by
  have hruns : ∀ r ∈ [walletRun [oneBitcoin]] ++ [walletRun [oneBitcoin]],
      ∃ coins, r.ReadsWallet coins := by
    intro r hr
    obtain rfl : r = walletRun [oneBitcoin] := by simpa using hr
    exact ⟨_, walletRun_readsWallet _⟩
  have hheld : (walletRun [oneBitcoin]).HoldsCoin "BTC" :=
    (walletRun_readsWallet _).holdsCoin_iff.mpr (by decide +kernel)
  have hnone : ∀ key, emptyTables.spot.holdings.get? key = none := fun _ => rfl
  obtain ⟨hholding, hblocked⟩ := recovered_holdings [walletRun [oneBitcoin]]
    (walletRun [oneBitcoin]) emptyTables hruns "BTC" (by decide +kernel) hheld
  constructor
  · refine hholding.mpr ?_
    rintro ⟨⟨key, row, hget, -⟩, -⟩
    rw [hnone] at hget
    cases hget
  · have hfresh : Untouched "BTC" emptyTables := by
      intro key row hget
      rw [hnone] at hget
      cases hget
    refine (hblocked hfresh "Sell" (by decide +kernel)).mpr ?_
    simp [hheld]

/-- A coin that vanished and came back is not protected any more, although only the
reconciliation wrote its row; and a row that holds nothing is taken for the holding of a coin. -/
theorem returned_bitcoin_unprotected :
    (spotSellBlockedByHoldPolicy .spot
        (run reconStep [walletRun [oneBitcoin], walletRun [], walletRun [oneBitcoin]]
          emptyTables).spot "BTCUSDT" "Sell").1 = false ∧
      (reconStep (walletRun [oneBitcoin]) soldBitcoin).spot.listSpotHoldings unified =
        soldBitcoin.spot.listSpotHoldings unified ∧
      (soldBitcoin.spot.listSpotHoldings unified).map (fun e => e.2.qty) = [0] := by
  decide +kernel

end Botik
