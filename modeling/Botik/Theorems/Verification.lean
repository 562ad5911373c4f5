import Botik.Main.Protection

/-!
# What a verification has seen

`verify_futures_protection_from_exchange` looks at one item of the exchange's
answer: the first held item of the symbol on the wanted side and index, and where
there is none, the first held item of the symbol.

## Main definitions

* `PositionItem.held`, `PositionItem.exact` — the items the scan takes note of
* `chosenItem` — the item the answer depends on

## Main results

* `scanPositions_eq` — the scan finds the chosen item
* `verification_sound` — what the statuses protected and closed mean
* `otherSide_verified` — stops of a short position protect a long one
-/

namespace Botik

namespace PositionItem

/-- The item is one of the symbol. -/
def ofSymbol (symbolU : String) (item : PositionItem) : Bool :=
  Text.strip (Text.upper (Text.orEmpty item.symbol)) = symbolU

/-- `float(item.get("size") or item.get("qty") or 0.0)`. -/
def readSize (item : PositionItem) : Except Exn ℚ :=
  floatField "size" (Text.firstTruthy item.size item.qty)

/-- An item of the symbol with a size. -/
def held (symbolU : String) (item : PositionItem) : Bool :=
  item.ofSymbol symbolU &&
    match item.readSize with
    | .ok size => size ≠ 0
    | .error _ => false

/-- A held item of the symbol on this side and index. -/
def exact (symbolU sideU : String) (positionIdx : ℤ) (item : PositionItem) : Bool :=
  item.held symbolU && Text.strip (Text.orEmpty item.side) = sideU &&
    match intField "positionIdx" item.positionIdx with
    | .ok idx => idx = positionIdx
    | .error _ => false

/-- Both stops are set. -/
def HasStops (item : PositionItem) : Prop :=
  ∃ stopLoss takeProfit, floatField "stopLoss" item.stopLoss = .ok stopLoss ∧
    floatField "takeProfit" item.takeProfit = .ok takeProfit ∧ 0 < stopLoss ∧ 0 < takeProfit

theorem held_of_exact {symbolU sideU : String} {positionIdx : ℤ} {item : PositionItem}
    (h : item.exact symbolU sideU positionIdx = true) : item.held symbolU = true := by
  rw [exact, Bool.and_eq_true, Bool.and_eq_true] at h
  exact h.1.1

theorem held_eq_false_of_readSize {symbolU : String} {item : PositionItem}
    (h : item.readSize = .ok 0) : item.held symbolU = false := by
  simp [held, h]

end PositionItem

/-- The item a verification depends on. -/
def chosenItem (symbolU sideU : String) (positionIdx : ℤ) (items : List PositionItem) :
    Option PositionItem :=
  (items.find? (·.exact symbolU sideU positionIdx)).or (items.find? (·.held symbolU))

/-! ### The scan -/

section Scan

variable {symbolU sideU : String} {positionIdx : ℤ}

/-- One item of the scan: passed over, or read and then taken, noted or passed
over. -/
theorem scanPositions_cons_cases {candidate r : Option PositionItem} {item : PositionItem}
    {items : List PositionItem}
    (h : scanPositions symbolU sideU positionIdx candidate (item :: items) = .ok r) :
    (item.held symbolU = false ∧ (item.ofSymbol symbolU = true → item.readSize = .ok 0) ∧
      scanPositions symbolU sideU positionIdx candidate items = .ok r) ∨
    (item.exact symbolU sideU positionIdx = true ∧ r = some item) ∨
    (item.held symbolU = true ∧ item.exact symbolU sideU positionIdx = false ∧
      scanPositions symbolU sideU positionIdx (candidate.or (some item)) items = .ok r) := by
  rw [scanPositions] at h
  by_cases hsymbol : Text.strip (Text.upper (Text.orEmpty item.symbol)) = symbolU
  swap
  · rw [if_pos hsymbol] at h
    have hof : item.ofSymbol symbolU = false := by simpa [PositionItem.ofSymbol] using hsymbol
    exact Or.inl ⟨by simp [PositionItem.held, hof], by simp [hof], h⟩
  rw [if_neg (not_not_intro hsymbol)] at h
  have hof : item.ofSymbol symbolU = true := by simpa [PositionItem.ofSymbol] using hsymbol
  cases hsize : item.readSize with
  | error e =>
    rw [PositionItem.readSize] at hsize
    simp [hsize, bind, Except.bind] at h
  | ok size =>
    have hread := hsize
    rw [PositionItem.readSize] at hread
    simp only [hread, bind, Except.bind] at h
    -- an empty position is passed over, whatever its side
    by_cases hzero : size = 0
    · rw [if_pos (by simp [hzero])] at h
      subst hzero
      exact Or.inl ⟨PositionItem.held_eq_false_of_readSize hsize, fun _ => rfl, h⟩
    rw [if_neg (by simpa using hzero)] at h
    have hheld : item.held symbolU = true := by simp [PositionItem.held, hof, hsize, hzero]
    cases hidx : intField "positionIdx" item.positionIdx with
    | error e => simp [hidx] at h
    | ok idx =>
      simp only [hidx] at h
      -- an exact position ends the scan; the first other one is noted
      by_cases hexact : Text.strip (Text.orEmpty item.side) = sideU ∧ idx = positionIdx
      · rw [if_pos hexact] at h
        refine Or.inr (Or.inl ⟨?_, (Except.ok.inj h).symm⟩)
        simp [PositionItem.exact, hheld, hidx, hexact]
      · rw [if_neg hexact] at h
        refine Or.inr (Or.inr ⟨hheld, ?_, h⟩)
        simpa [PositionItem.exact, hheld, hidx] using hexact

/-- A scan that gets through finds the first exact item, else what it had noted,
else the first held item. -/
theorem scanPositions_eq {candidate r : Option PositionItem} {items : List PositionItem}
    (h : scanPositions symbolU sideU positionIdx candidate items = .ok r) :
    r = (items.find? (·.exact symbolU sideU positionIdx)).or
      (candidate.or (items.find? (·.held symbolU))) := by
  induction items generalizing candidate with
  | nil =>
    rw [scanPositions] at h
    simpa using (Except.ok.inj h).symm
  | cons item items ih =>
    rcases scanPositions_cons_cases h with ⟨hheld, _, hrest⟩ | ⟨hexact, rfl⟩ | ⟨hheld, hexact, hrest⟩
    · have hexact : item.exact symbolU sideU positionIdx = false := by
        simp [PositionItem.exact, hheld]
      rw [ih hrest, List.find?_cons_of_neg (by simp [hexact]), List.find?_cons_of_neg (by simp [hheld])]
    · rw [List.find?_cons_of_pos hexact]
      rfl
    · rw [ih hrest, List.find?_cons_of_neg (by simp [hexact]), List.find?_cons_of_pos hheld,
        Option.or_assoc]
      rfl

/-- A scan finds nothing exactly if every item of the symbol has size zero. -/
theorem scanPositions_eq_none_iff {items : List PositionItem} :
    scanPositions symbolU sideU positionIdx none items = .ok none ↔
      ∀ item ∈ items, item.ofSymbol symbolU = true → item.readSize = .ok 0 := by
  induction items with
  | nil => simp [scanPositions]
  | cons item items ih =>
    rw [List.forall_mem_cons, ← ih]
    constructor
    · intro h
      rcases scanPositions_cons_cases h with ⟨_, hsize, hrest⟩ | ⟨_, hr⟩ | ⟨_, _, hrest⟩
      · exact ⟨hsize, hrest⟩
      · exact absurd hr (by simp)
      · -- a noted item is never given up again
        have := scanPositions_eq hrest
        cases hfind : items.find? (·.exact symbolU sideU positionIdx) <;> simp [hfind] at this
    · rintro ⟨hsize, hrest⟩
      rw [scanPositions]
      by_cases hsymbol : Text.strip (Text.upper (Text.orEmpty item.symbol)) = symbolU
      · rw [if_neg (not_not_intro hsymbol)]
        have hread := hsize (by simpa [PositionItem.ofSymbol] using hsymbol)
        rw [PositionItem.readSize] at hread
        simpa [hread, bind, Except.bind] using hrest
      · rwa [if_pos hsymbol]

end Scan

/-! ### The answer -/

/-- The answer of `get_positions` was usable, and this is its list. -/
def Listed (executor : Executor) (answer : Except String PositionsReply)
    (items : List PositionItem) : Prop :=
  "get_positions" ∈ executor.callables ∧
    ∃ positions, answer = .ok positions ∧ positions.reply.retCode = some 0 ∧
      positions.list = items

section Answer

variable {executor : Executor} {answer : Except String PositionsReply} {symbol side : String}
  {positionIdx : ℤ} {items : List PositionItem}

theorem verify_of_listed (h : Listed executor answer items) :
    verifyFuturesProtectionFromExchange executor answer symbol side positionIdx =
      (do
        let candidate ← scanPositions (Text.strip (Text.upper symbol)) (Text.strip side)
          positionIdx none items
        judgeCandidate candidate) := by
  obtain ⟨hcallable, positions, rfl, hcode, rfl⟩ := h
  unfold verifyFuturesProtectionFromExchange
  rw [if_neg (not_not_intro hcallable)]
  exact if_neg (not_not_intro hcode)

/-- Without a usable answer the verification has failed. -/
theorem verify_of_not_listed (symbol side : String) (positionIdx : ℤ)
    (h : ∀ items, ¬ Listed executor answer items) :
    ∃ reason, verifyFuturesProtectionFromExchange executor answer symbol side positionIdx =
      .ok (.failed, reason) := by
  unfold verifyFuturesProtectionFromExchange
  by_cases hcallable : "get_positions" ∈ executor.callables
  · rw [if_neg (not_not_intro hcallable)]
    cases answer with
    | error e => exact ⟨_, rfl⟩
    | ok positions =>
      have hcode : positions.reply.retCode ≠ some 0 := fun hcode =>
        h positions.list ⟨hcallable, positions, rfl, hcode, rfl⟩
      exact ⟨_, if_pos hcode⟩
  · exact ⟨_, if_pos hcallable⟩

/-- Any status but failed comes from a usable answer. -/
theorem listed_of_verify {status : ProtectionStatus} {reason : VerifyReason}
    (h : verifyFuturesProtectionFromExchange executor answer symbol side positionIdx =
      .ok (status, reason)) (hstatus : status ≠ .failed) : ∃ items, Listed executor answer items := by
  by_contra hnot
  obtain ⟨reason', hfailed⟩ := verify_of_not_listed symbol side positionIdx (not_exists.mp hnot)
  rw [hfailed] at h
  exact hstatus (congrArg Prod.fst (Except.ok.inj h)).symm

/-- An item that could be judged is protected, with both stops, or unprotected. -/
theorem judgeCandidate_cases {item : PositionItem} {status : ProtectionStatus}
    {reason : VerifyReason} (h : judgeCandidate (some item) = .ok (status, reason)) :
    (status = .«protected» ∧ item.HasStops) ∨ status = .unprotected := by
  rw [judgeCandidate] at h
  cases hstop : floatField "stopLoss" item.stopLoss with
  | error e => simp [hstop, bind, Except.bind] at h
  | ok stopLoss =>
    cases htake : floatField "takeProfit" item.takeProfit with
    | error e => simp [hstop, htake, bind, Except.bind] at h
    | ok takeProfit =>
      cases htrailing : floatField "trailingStop" item.trailingStop with
      | error e => simp [hstop, htake, htrailing, bind, Except.bind] at h
      | ok trailing =>
        simp only [hstop, htake, htrailing, bind, Except.bind] at h
        by_cases hpos : 0 < stopLoss ∧ 0 < takeProfit
        · rw [if_pos hpos] at h
          exact Or.inl ⟨(congrArg Prod.fst (Except.ok.inj h)).symm,
            stopLoss, takeProfit, hstop, htake, hpos.1, hpos.2⟩
        · rw [if_neg hpos] at h
          exact Or.inr (congrArg Prod.fst (Except.ok.inj h)).symm

/-- A verification over a list scanned it and judged what the scan found. -/
theorem scan_of_verify {status : ProtectionStatus} {reason : VerifyReason}
    (hlisted : Listed executor answer items)
    (h : verifyFuturesProtectionFromExchange executor answer symbol side positionIdx =
      .ok (status, reason)) :
    ∃ candidate, scanPositions (Text.strip (Text.upper symbol)) (Text.strip side) positionIdx none
      items = .ok candidate ∧ judgeCandidate candidate = .ok (status, reason) := by
  rw [verify_of_listed hlisted] at h
  cases hscan : scanPositions (Text.strip (Text.upper symbol)) (Text.strip side) positionIdx none
      items with
  | error e => simp [hscan, bind, Except.bind] at h
  | ok candidate => exact ⟨candidate, rfl, by simpa [hscan, bind, Except.bind] using h⟩

/-- A protected verification saw both stops on the chosen item. -/
theorem chosenItem_of_verify_protected {reason : VerifyReason}
    (h : verifyFuturesProtectionFromExchange executor answer symbol side positionIdx =
      .ok (.«protected», reason)) :
    ∃ items item, Listed executor answer items ∧
      chosenItem (Text.strip (Text.upper symbol)) (Text.strip side) positionIdx items =
        some item ∧ item.HasStops := by
  obtain ⟨items, hlisted⟩ := listed_of_verify h (by decide)
  obtain ⟨candidate, hscan, hjudge⟩ := scan_of_verify hlisted h
  have hchosen : candidate = chosenItem (Text.strip (Text.upper symbol)) (Text.strip side)
      positionIdx items := scanPositions_eq hscan
  cases candidate with
  | none => exact absurd hjudge (by simp [judgeCandidate])
  | some item =>
    rcases judgeCandidate_cases hjudge with ⟨_, hstops⟩ | hun
    · exact ⟨items, item, hlisted, hchosen.symm, hstops⟩
    · exact absurd hun (by decide)

/-- A verification is closed exactly over a list in which every item of the symbol
has size zero. -/
theorem verify_closed_iff :
    (∃ reason, verifyFuturesProtectionFromExchange executor answer symbol side positionIdx =
      .ok (.closed, reason)) ↔
    ∃ items, Listed executor answer items ∧ ∀ item ∈ items,
      item.ofSymbol (Text.strip (Text.upper symbol)) = true → item.readSize = .ok 0 := by
  constructor
  · rintro ⟨reason, h⟩
    obtain ⟨items, hlisted⟩ := listed_of_verify h (by decide)
    obtain ⟨candidate, hscan, hjudge⟩ := scan_of_verify hlisted h
    cases candidate with
    | none => exact ⟨items, hlisted, scanPositions_eq_none_iff.mp hscan⟩
    | some item =>
      rcases judgeCandidate_cases hjudge with ⟨hprot, _⟩ | hun
      · exact absurd hprot (by decide)
      · exact absurd hun (by decide)
  · rintro ⟨items, hlisted, hzero⟩
    refine ⟨.positionNotFound, ?_⟩
    rw [verify_of_listed hlisted, scanPositions_eq_none_iff.mpr hzero]
    rfl

theorem exact_of_chosenItem {symbolU sideU : String} {item other : PositionItem}
    (h : chosenItem symbolU sideU positionIdx items = some item) (hother : other ∈ items)
    (hexact : other.exact symbolU sideU positionIdx = true) :
    item.exact symbolU sideU positionIdx = true := by
  cases hfind : items.find? (·.exact symbolU sideU positionIdx) with
  | none => exact absurd hexact (List.find?_eq_none.mp hfind other hother)
  | some first =>
    rw [chosenItem, hfind, Option.some_or, Option.some.injEq] at h
    exact h ▸ List.find?_some hfind

theorem mem_of_chosenItem {symbolU sideU : String} {item : PositionItem}
    (h : chosenItem symbolU sideU positionIdx items = some item) :
    item ∈ items ∧ item.held symbolU = true := by
  rcases Option.or_eq_some_iff.mp h with hfind | ⟨_, hfind⟩
  · exact ⟨List.mem_of_find?_eq_some hfind, PositionItem.held_of_exact (List.find?_some hfind)⟩
  · exact ⟨List.mem_of_find?_eq_some hfind, List.find?_some hfind⟩

end Answer

/-- A protected answer rests on a held item of the symbol with both stops, which is
one of the wanted side and index if there is such an item at all; an answer is
closed exactly if no item of the symbol, whatever its side and index, has a size. -/
theorem verification_sound (executor : Executor) (answer : Except String PositionsReply)
    (symbol side : String) (positionIdx : ℤ) :
    let symbolU := Text.strip (Text.upper symbol)
    let sideU := Text.strip side
    let status := verifyFuturesProtectionFromExchange executor answer symbol side positionIdx
    ((∃ reason, status = .ok (.«protected», reason)) →
      ∃ items, Listed executor answer items ∧ ∃ item ∈ items,
        item.held symbolU = true ∧ item.HasStops ∧
          ((∃ other ∈ items, other.exact symbolU sideU positionIdx = true) →
            item.exact symbolU sideU positionIdx = true)) ∧
    ((∃ reason, status = .ok (.closed, reason)) ↔
      ∃ items, Listed executor answer items ∧
        ∀ item ∈ items, item.ofSymbol symbolU = true → item.readSize = .ok 0) := by
  intro symbolU sideU status
  refine ⟨?_, verify_closed_iff⟩
  rintro ⟨reason, h⟩
  obtain ⟨items, item, hlisted, hchosen, hstops⟩ := chosenItem_of_verify_protected h
  obtain ⟨hmem, hheld⟩ := mem_of_chosenItem hchosen
  refine ⟨items, hlisted, item, hmem, hheld, hstops, ?_⟩
  rintro ⟨other, hother, hexact⟩
  exact exact_of_chosenItem hchosen hother hexact

/-- An answer that lists a short position with both stops. -/
def shortOnly : PositionsReply where
  reply := ⟨some 0, some "OK"⟩
  list := [
    { symbol := some "BTCUSDT"
      side := some "Sell"
      positionIdx := some "0"
      size := some "1"
      qty := none
      stopLoss := some "110"
      takeProfit := some "90"
      trailingStop := none }]

/-- The stops of the short position verify a long one, of which there is none. -/
theorem otherSide_verified :
    verifyFuturesProtectionFromExchange (bybitRestClient (fun _ => none) fun _ => none)
        (.ok shortOnly) "BTCUSDT" "Buy" 0 = .ok (.«protected», .confirmedOnExchange) ∧
      ∀ item ∈ shortOnly.list, item.exact "BTCUSDT" "Buy" 0 = false := by
  decide +kernel

end Botik
