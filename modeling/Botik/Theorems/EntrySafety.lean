import Botik.Main.EntryGate

/-!
# What the futures entry gates miss

Both gates look at one row of a symbol, the one updated last. A position on the
other side or under another index, whose row is older, is overlooked however it
is protected.

## Main definitions

* `LetsThrough` — both gates let an intent through
* `RefusedBy` — the row the gates look at makes one of them refuse

## Main results

* `letsThrough_safe_iff` — exactly when the gates let nothing unprotected through
* `hedged_overlooked` — a pending long position behind a protected short one
-/

namespace Botik

open FuturesStore

/-- Both gates of the linear entry path let an intent for this symbol through. -/
def LetsThrough (db : FuturesStore) (symbol : String) (gateMarkPrice : Option ℚ) : Prop :=
  (futuresEntryRiskGate db symbol unified gateMarkPrice).1 = true ∧
    getFuturesBlockingProtectionStatus db (Text.upper symbol) unified = none

/-- The row updated last makes one of the gates refuse. The two gates spell the
symbol differently where it has blanks around it. -/
def RefusedBy (db : FuturesStore) (symbol : String) (gateMarkPrice : Option ℚ) : Prop :=
  (∃ e ∈ latestRow (db.liveRows unified (Text.upper symbol)),
    e.2.protectionStatus.isBlocking = true) ∨
    ∃ e ∈ latestRow (db.liveRows unified (Text.strip (Text.upper symbol))),
      RowAtRisk gateMarkPrice e

theorem letsThrough_iff_not_refusedBy {db : FuturesStore} {symbol : String}
    {gateMarkPrice : Option ℚ} :
    LetsThrough db symbol gateMarkPrice ↔ ¬ RefusedBy db symbol gateMarkPrice := by
  rw [LetsThrough, futuresEntryRiskGate_allows_iff, getFuturesBlockingProtectionStatus_eq_none_iff,
    Text.upper_upper, RefusedBy, not_or]
  constructor
  · rintro ⟨hrisk, hstatus⟩
    refine ⟨?_, ?_⟩
    · rintro ⟨e, he, hblocking⟩
      rw [hstatus e he] at hblocking
      exact Bool.false_ne_true hblocking
    · rintro ⟨e, he, hat⟩
      exact hrisk e he hat
  · rintro ⟨hstatus, hrisk⟩
    refine ⟨fun e he hat => hrisk ⟨e, he, hat⟩, fun e he => ?_⟩
    by_contra hblocking
    exact hstatus ⟨e, he, by simpa using hblocking⟩

/-- The gates let no intent through past a blocking row exactly if no row besides
the one updated last blocks, or that one makes a gate refuse. -/
theorem letsThrough_safe_iff (db : FuturesStore) (symbol : String) (gateMarkPrice : Option ℚ) :
    (LetsThrough db symbol gateMarkPrice →
      ∀ e ∈ db.liveRows unified (Text.upper symbol), e.2.protectionStatus.isBlocking = false) ↔
    (∀ e ∈ db.liveRows unified (Text.upper symbol),
        latestRow (db.liveRows unified (Text.upper symbol)) ≠ some e →
        e.2.protectionStatus.isBlocking = false) ∨
      RefusedBy db symbol gateMarkPrice := by
  rw [letsThrough_iff_not_refusedBy]
  by_cases hrefused : RefusedBy db symbol gateMarkPrice
  · simp [hrefused]
  simp only [hrefused, not_false_eq_true, true_implies, or_false]
  constructor
  · exact fun h e he _ => h e he
  · intro h e he
    by_cases hlatest : latestRow (db.liveRows unified (Text.upper symbol)) = some e
    · -- the latest row itself would have made the status query refuse
      by_contra hblocking
      exact hrefused (Or.inl ⟨e, hlatest, by simpa using hblocking⟩)
    · exact h e he hlatest

/-! ### A hedged symbol -/

/-- A row with a quantity, a status and a time. -/
def plainRow (qty : ℚ) (status : ProtectionStatus) (updatedAtUtc : ℕ) : PositionRow where
  marginMode := ""
  leverage := none
  qty := qty
  entryPrice := some 100
  markPrice := some 100
  liqPrice := none
  unrealizedPnl := none
  realizedPnl := none
  takeProfit := none
  stopLoss := none
  trailingStop := none
  protectionStatus := status
  sourceOfTruth := "exchange_rest"
  recoveredFromExchange := true
  strategyOwner := none
  updatedAtUtc := updatedAtUtc

/-- A pending long position, and a protected short one that was updated later. -/
def hedged : FuturesStore :=
  (FuturesStore.empty.upsertFuturesPosition ⟨unified, "BTCUSDT", "Buy", 1⟩
    (plainRow 1 .pending 1700000000)).upsertFuturesPosition ⟨unified, "BTCUSDT", "Sell", 2⟩
    (plainRow 1 .«protected» 1700000001)

/-- The gates let an intent through although the long position is pending. -/
theorem hedged_overlooked :
    ¬ (LetsThrough hedged "BTCUSDT" (some 100) →
      ∀ e ∈ hedged.liveRows unified (Text.upper "BTCUSDT"),
        e.2.protectionStatus.isBlocking = false) := by
  intro h
  have hthrough : LetsThrough hedged "BTCUSDT" (some 100) :=
    ⟨by decide +kernel, by decide +kernel⟩
  have hpending := h hthrough
    (⟨unified, "BTCUSDT", "Buy", 1⟩, plainRow 1 .pending 1700000000) (by decide +kernel)
  exact absurd hpending (by decide)

end Botik
