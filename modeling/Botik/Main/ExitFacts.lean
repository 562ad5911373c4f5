import Botik.Main.RefreshFacts
import Botik.Main.Traces

/-!
# What the exits of a symbol depend on

The two exit routines of a symbol read the position of this symbol, its variables and floors, and
the rows of futures positions. The routines of the other symbols leave all this alone. A live
position is decided on, unless it is suppressed as dust; an order is sent only where one is due.

## Main definitions

* `ExitView`, `exitView` — what the routines of a symbol depend on
* `Live` — a position at its floors, with a book to price it
* `ForceExitDue`, `RejectedAsDust`, `ExitQuoteDue`

## Main results

* `exitSteps_other` — the exits of the other symbols keep the view
* `maybeForceExit_live` — what the routine does with a live position
* `emits_maybeForceExit_of_not_due`, `emits_maybePlacePositionExitQuote_of_not_due`
-/

namespace Botik

open Program

/-- What the exit routines of a symbol read. -/
structure ExitView where
  position : Position
  details : SymbolState
  positionFloor : ℚ
  notionalFloor : ℚ
  dustExitSuppressedUntil : ℚ
  lastForceExitTs : ℚ
  positions : Dict PositionKey PositionRow

/-- The view of a symbol, with its floors resolved. -/
def exitView (x : Context) (symbol : String) (w : World) : ExitView where
  position := w.rt.position symbol
  details := w.rt.details symbol
  positionFloor := resolvedPositionFloor x w.rt symbol
  notionalFloor := resolvedNotionalFloor x w.rt symbol
  dustExitSuppressedUntil := w.rt.dustExitSuppressedUntil symbol
  lastForceExitTs := w.rt.lastForceExitTs symbol
  positions := w.futures.positions

section Floors

variable (x : Context) (symbol other : String) (w : World)

/-- Caching a floor changes the cache. -/
theorem cachePositionFloor_eq (q : ℚ) : ∃ floors, cachePositionFloor other q w =
    { w with rt := { w.rt with positionFloor := floors } } := by
  unfold cachePositionFloor
  split_ifs
  · exact ⟨w.rt.positionFloor, rfl⟩
  · exact ⟨_, rfl⟩

theorem cacheNotionalFloor_eq (q : ℚ) : ∃ floors, cacheNotionalFloor other q w =
    { w with rt := { w.rt with notionalFloor := floors } } := by
  unfold cacheNotionalFloor
  split_ifs
  · exact ⟨w.rt.notionalFloor, rfl⟩
  · exact ⟨_, rfl⟩

/-- Resolving a floor once more answers the same. -/
theorem resolvedPositionFloor_cachePositionFloor :
    resolvedPositionFloor x (cachePositionFloor other (resolvedPositionFloor x w.rt other) w).rt
      symbol = resolvedPositionFloor x w.rt symbol := by
  unfold cachePositionFloor
  split_ifs with hother
  · rfl
  · by_cases hkey : floorKey symbol = floorKey other
    · simp [resolvedPositionFloor, hkey, hother]
    · simp [resolvedPositionFloor, Function.update_of_ne hkey]

theorem resolvedNotionalFloor_cacheNotionalFloor :
    resolvedNotionalFloor x (cacheNotionalFloor other (resolvedNotionalFloor x w.rt other) w).rt
      symbol = resolvedNotionalFloor x w.rt symbol := by
  unfold cacheNotionalFloor
  split_ifs with hother
  · rfl
  · by_cases hkey : floorKey symbol = floorKey other
    · simp [resolvedNotionalFloor, hkey, hother]
    · simp [resolvedNotionalFloor, Function.update_of_ne hkey]

/-- Caching a floor leaves the view alone. -/
theorem exitView_cachePositionFloor :
    exitView x symbol (cachePositionFloor other (resolvedPositionFloor x w.rt other) w) =
      exitView x symbol w := by
  have hfloor := resolvedPositionFloor_cachePositionFloor x symbol other w
  obtain ⟨floors, hcached⟩ := cachePositionFloor_eq other w (resolvedPositionFloor x w.rt other)
  rw [hcached] at hfloor ⊢
  unfold exitView
  rw [hfloor]
  rfl

theorem exitView_cacheNotionalFloor :
    exitView x symbol (cacheNotionalFloor other (resolvedNotionalFloor x w.rt other) w) =
      exitView x symbol w := by
  have hfloor := resolvedNotionalFloor_cacheNotionalFloor x symbol other w
  obtain ⟨floors, hcached⟩ := cacheNotionalFloor_eq other w (resolvedNotionalFloor x w.rt other)
  rw [hcached] at hfloor ⊢
  unfold exitView
  rw [hfloor]
  rfl

end Floors

section Frames

variable {x : Context} {symbol other : String}

/-- An exit quote of another symbol leaves the view of a symbol alone. -/
theorem quoteSteps_other (hne : symbol ≠ other) :
    QuoteSteps x other (SameAs (exitView x symbol)) where
  tables := AllowsTables.allowsRecords fun w w' h => by
    change exitView x symbol w' = exitView x symbol w
    unfold exitView
    rw [h.rt, h.positions]
  timestamps _ _ := rfl
  positionFloor w := exitView_cachePositionFloor x symbol other w
  notionalFloor w := exitView_cacheNotionalFloor x symbol other w
  dust clock w := by
    change exitView x symbol (suppressDust x.config clock other w) = exitView x symbol w
    simp [exitView, suppressDust, resetSymbolRuntimeState, setDetails, setPosition, hne,
      resolvedPositionFloor, resolvedNotionalFloor]

/-- A forced exit of another symbol leaves the view of a symbol alone. -/
theorem exitSteps_other (hne : symbol ≠ other) :
    ExitSteps x other (SameAs (exitView x symbol)) where
  toQuoteSteps := quoteSteps_other hne
  details f w := by
    change exitView x symbol (setDetails other f w) = exitView x symbol w
    simp [exitView, setDetails, hne, resolvedPositionFloor, resolvedNotionalFloor]
  forced clock w := by
    change exitView x symbol (noteForceExit clock other w) = exitView x symbol w
    simp [exitView, noteForceExit, hne, resolvedPositionFloor, resolvedNotionalFloor]
  decided _ := rfl

end Frames

/-! ### Live positions -/

/-- What a symbol holds is at its floors, at its entry price and at the mark. -/
structure AtFloors (c : Config) (env : ExitEnv) (v : ExitView) : Prop where
  quantity : v.positionFloor ≤ |v.position.qty|
  entry : ¬ IsEntryDust c v.notionalFloor v.position
  mark : ∃ book, env.book = some book ∧
    ¬ IsDust c v.notionalFloor v.position.qty (markPrice book v.position.qty)

/-- A tracked position at its floors. -/
structure Live (x : Context) (env : ExitEnv) (w : World) (symbol : String) : Prop where
  tracked : symbol ∈ w.rt.tracked
  quantity : positionFloor x.config w.rt symbol ≤ |(w.rt.position symbol).qty|
  atFloors : AtFloors x.config env (exitView x symbol w)

instance (c : Config) (env : ExitEnv) (v : ExitView) : Decidable (AtFloors c env v) :=
  decidable_of_iff (v.positionFloor ≤ |v.position.qty| ∧
    ¬ IsEntryDust c v.notionalFloor v.position ∧ ∃ book ∈ env.book,
      ¬ IsDust c v.notionalFloor v.position.qty (markPrice book v.position.qty))
    ⟨fun h => ⟨h.1, h.2.1, h.2.2⟩, fun h => ⟨h.quantity, h.entry, h.mark⟩⟩

instance (x : Context) (env : ExitEnv) (w : World) (symbol : String) :
    Decidable (Live x env w symbol) :=
  decidable_of_iff (symbol ∈ w.rt.tracked ∧
    positionFloor x.config w.rt symbol ≤ |(w.rt.position symbol).qty| ∧
      AtFloors x.config env (exitView x symbol w))
    ⟨fun h => ⟨h.1, h.2.1, h.2.2⟩, fun h => ⟨h.tracked, h.quantity, h.atFloors⟩⟩

/-- The symbol was given up as dust a moment ago. -/
def Suppressed (env : ExitEnv) (w : World) (symbol : String) : Prop :=
  env.clock < w.rt.dustExitSuppressedUntil symbol

/-- The reason to close, at the book of the call. -/
def ReasonAt (x : Context) (env : ExitEnv) (w : World) (symbol : String)
    (reason : ExitReason) : Prop :=
  ∃ book, env.book = some book ∧ exitReason x.config env.clock
    (markPrice book (w.rt.position symbol).qty) w symbol = some reason

/-- A forced exit sends an order. -/
structure ForceExitDue (x : Context) (env : ExitEnv) (w : World) (symbol : String) : Prop where
  unsuppressed : ¬ Suppressed env w symbol
  atFloors : AtFloors x.config env (exitView x symbol w)
  reason : ∃ reason, ReasonAt x env w symbol reason
  enabled : x.config.forceExitEnabled = true
  cooledDown : x.config.forceExitCooldownSec ≤ env.clock - w.rt.lastForceExitTs symbol

/-- The order of a forced exit is refused because its quantity cannot be normalized. -/
def RejectedAsDust (x : Context) (env : ExitEnv) (w : World) (symbol : String) : Prop :=
  ForceExitDue x env w symbol ∧ ∃ reply, env.answer = .ok reply ∧ reply.isInvalidQty = true

section Reasons

variable {x : Context} {env : ExitEnv} {symbol : String} {w w' : World} {mark clock : ℚ}
  {c : Config}

/-- The decision is made from the view of the symbol. -/
theorem exitReason_congr (h : exitView x symbol w' = exitView x symbol w) :
    exitReason c clock mark w' symbol = exitReason c clock mark w symbol := by
  obtain ⟨hposition, hdetails, -, -, -, -, hpositions⟩ := ExitView.mk.inj h
  have hrisk : evaluateFuturesSymbolRisk w'.futures symbol unified (some mark) =
      evaluateFuturesSymbolRisk w.futures symbol unified (some mark) := by
    unfold evaluateFuturesSymbolRisk FuturesStore.liveRows
    rw [hpositions]
  unfold exitReason overrideReason exitDecision openedAtOr
  rw [hposition, hdetails, hrisk]

theorem openedAtOr_noteOpenedAt :
    openedAtOr c clock (noteOpenedAt c clock symbol w).rt symbol =
      openedAtOr c clock w.rt symbol := by
  simp [openedAtOr, noteOpenedAt, setDetails]

/-- Noting when the position was opened does not change the decision. -/
theorem exitReason_noteOpenedAt :
    exitReason c clock mark (noteOpenedAt c clock symbol w) symbol =
      exitReason c clock mark w symbol := by
  have hopened : openedAtOr c clock (noteOpenedAt c clock symbol w).rt symbol =
      openedAtOr c clock w.rt symbol := openedAtOr_noteOpenedAt
  unfold exitReason overrideReason exitDecision
  dsimp only
  rw [hopened]
  simp [noteOpenedAt, setDetails, exitRules]

theorem suppressed_congr (h : exitView x symbol w' = exitView x symbol w) :
    Suppressed env w' symbol ↔ Suppressed env w symbol := by
  have hdust : w'.rt.dustExitSuppressedUntil symbol = w.rt.dustExitSuppressedUntil symbol :=
    congrArg ExitView.dustExitSuppressedUntil h
  unfold Suppressed
  rw [hdust]

/-- Whether an exit is due is seen in the view. -/
theorem ForceExitDue.congr (h : exitView x symbol w' = exitView x symbol w)
    (hdue : ForceExitDue x env w symbol) : ForceExitDue x env w' symbol := by
  obtain ⟨hclock, hat, ⟨reason, book, hbook, hreason⟩, henabled, hcooled⟩ := hdue
  have hposition : w'.rt.position symbol = w.rt.position symbol := congrArg ExitView.position h
  have hlast : w'.rt.lastForceExitTs symbol = w.rt.lastForceExitTs symbol :=
    congrArg ExitView.lastForceExitTs h
  refine ⟨?_, ?_, ⟨reason, book, hbook, ?_⟩, henabled, ?_⟩
  · rwa [suppressed_congr h]
  · rwa [h]
  · rw [hposition, exitReason_congr h]
    exact hreason
  · rwa [hlast]

theorem rejectedAsDust_congr (h : exitView x symbol w' = exitView x symbol w) :
    RejectedAsDust x env w' symbol ↔ RejectedAsDust x env w symbol := by
  unfold RejectedAsDust
  constructor
  · rintro ⟨hdue, hrejected⟩
    exact ⟨hdue.congr h.symm, hrejected⟩
  · rintro ⟨hdue, hrejected⟩
    exact ⟨hdue.congr h, hrejected⟩

end Reasons

/-! ### The forced exit of a symbol -/

section ForceExit

-- a floor is compared by name and never evaluated
attribute [local irreducible] resolvedPositionFloor resolvedNotionalFloor

variable {x : Context} {env : ExitEnv} {symbol : String} {w w' : World} {b : Bool}

/-- Nothing is looked at while the symbol is suppressed. -/
theorem maybeForceExit_of_suppressed (hx : x.executor.isSome = true)
    (h : Suppressed env w symbol) : maybeForceExit x env symbol w = .ok false w := by
  have hexecutor : ¬ x.executor.isNone = true := by
    intro hnone
    rw [Option.isNone_iff_eq_none.mp hnone] at hx
    cases hx
  have hclock : env.clock < w.rt.dustExitSuppressedUntil symbol := h
  unfold maybeForceExit
  rw [bind_of_ok (get_run w), if_neg hexecutor, if_pos hclock, pure_run]

theorem placeOrder_eq_ok {order : OrderRequest} {answer : OrderAnswer} {reply : OrderReply}
    (h : placeOrder order answer w = .ok reply w') : answer = .ok reply := by
  unfold placeOrder at h
  obtain ⟨⟨⟩, w₁, hsent, h⟩ := bind_eq_ok h
  cases hsent
  cases answer with
  | ok answered =>
    cases h
    rfl
  | error text => cases h

/-- The order is given up as dust exactly if its quantity cannot be normalized. -/
theorem sendForceExit_ok {order : OrderRequest} (h : sendForceExit x env order w = .ok b w') :
    b = false ↔ ∃ reply, env.answer = .ok reply ∧ reply.isInvalidQty = true := by
  unfold sendForceExit at h
  obtain ⟨reply, w₁, hplace, h⟩ := bind_eq_ok h
  have hanswer := placeOrder_eq_ok hplace
  obtain ⟨⟨⟩, w₂, -, h⟩ := bind_eq_ok h
  -- the reply of the call is the answer of the exchange
  have hreply : (∃ reply', env.answer = .ok reply' ∧ reply'.isInvalidQty = true) ↔
      reply.isInvalidQty = true := by
    rw [hanswer]
    constructor
    · rintro ⟨reply', hsame, hinvalid⟩
      obtain rfl := Except.ok.inj hsame
      exact hinvalid
    · exact fun hinvalid => ⟨reply, rfl, hinvalid⟩
  rw [hreply]
  split_ifs at h with haccepted hinvalid
  · -- an accepted order has another code
    have hcode : ¬ reply.isInvalidQty = true := by
      intro hinvalid
      have := (of_decide_eq_true hinvalid).1
      rw [haccepted] at this
      cases this
    unfold recordForceExit at h
    obtain ⟨⟨⟩, w₃, -, h⟩ := bind_eq_ok h
    obtain ⟨w₄, w₅, -, h⟩ := bind_eq_ok h
    obtain ⟨⟨⟩, w₆, -, h⟩ := bind_eq_ok h
    obtain ⟨⟨⟩, w₇, -, h⟩ := bind_eq_ok h
    cases h
    simp [hcode]
  · obtain ⟨⟨⟩, w₃, -, h⟩ := bind_eq_ok h
    cases h
    simp [hinvalid]
  · obtain ⟨⟨⟩, w₃, -, h⟩ := bind_eq_ok h
    cases h
    simp [hinvalid]

theorem forceExit_ok {book : OrderBookAggregate} {reason : ExitReason}
    (h : forceExit x env symbol book reason w = .ok b w') :
    b = false ↔ x.config.forceExitEnabled = true ∧
      x.config.forceExitCooldownSec ≤ env.clock - w.rt.lastForceExitTs symbol ∧
      ∃ reply, env.answer = .ok reply ∧ reply.isInvalidQty = true := by
  unfold forceExit at h
  obtain ⟨w₁, w₂, hget, h⟩ := bind_eq_ok h
  cases hget
  obtain ⟨⟨⟩, w₃, -, h⟩ := bind_eq_ok h
  split_ifs at h with henabled hcooling
  · cases h
    simp [not_le.mpr hcooling]
  · rw [sendForceExit_ok h]
    simp [henabled, not_lt.mp hcooling]
  · cases h
    simp [henabled]

theorem decideExit_ok {mark : ℚ} {reason : Option ExitReason}
    (h : decideExit x env symbol mark w = .ok reason w') :
    reason = exitReason x.config env.clock mark w symbol ∧
      w'.trace = w.trace ++ [.decideExit symbol] ∧
      w'.rt.lastForceExitTs = w.rt.lastForceExitTs ∧ w'.rt.position = w.rt.position := by
  unfold decideExit at h
  obtain ⟨w₁, w₂, hget, h⟩ := bind_eq_ok h
  cases hget
  obtain ⟨⟨⟩, w₃, hnoted, h⟩ := bind_eq_ok h
  cases hnoted
  obtain ⟨⟨⟩, w₄, hpeak, h⟩ := bind_eq_ok h
  cases hpeak
  unfold exitReason overrideReason
  cases hmarket : x.config.marketCategory with
  | spot =>
    rw [hmarket] at h
    cases h
    exact ⟨rfl, rfl, rfl, rfl⟩
  | linear =>
    simp only [hmarket] at h
    rcases read_run_cases env.faults (.forceExit .riskView)
      (fun w' => overrideReason x.config mark w'.futures symbol
        (exitDecision x.config env.clock mark w.rt symbol).1) _ with hread | hread
    · rw [hread] at h
      cases h
      refine ⟨?_, rfl, rfl, rfl⟩
      unfold overrideReason
      rw [hmarket]
      rfl
    · rw [hread] at h
      cases h

variable (x symbol w) in
theorem exitView_floorsResolved : exitView x symbol (floorsResolved x symbol w) =
    exitView x symbol w := by
  unfold floorsResolved
  exact (exitView_cacheNotionalFloor x symbol symbol _).trans
    (exitView_cachePositionFloor x symbol symbol w)

/-- Decide whether to close, and act on the reason. -/
def decideAndAct (x : Context) (env : ExitEnv) (symbol : String) (book : OrderBookAggregate)
    (mark : ℚ) : RunM Bool := do
  let reason ← decideExit x env symbol mark
  match reason with
  | none => return true
  | some reason => forceExit x env symbol book reason

theorem exitAtBook_of_not_dust {notionalFloor : ℚ} {book : OrderBookAggregate}
    (h : ¬ IsDust x.config notionalFloor (w.rt.position symbol).qty
      (markPrice book (w.rt.position symbol).qty)) :
    exitAtBook x env symbol notionalFloor book w =
      decideAndAct x env symbol book (markPrice book (w.rt.position symbol).qty) w := by
  unfold exitAtBook
  rw [bind_of_ok (get_run w), if_neg h]
  rfl

/-- The position is looked at once its notional floor is resolved. -/
theorem exitPosition_of_not_dust {book : OrderBookAggregate} {w₁ : World}
    (hresolved : resolvePositionNotionalFloor x symbol w =
      .ok (resolvedNotionalFloor x w.rt symbol) w₁) (hview : exitView x symbol w₁ = exitView x symbol w)
    (hat : AtFloors x.config env (exitView x symbol w)) (hbook : env.book = some book) :
    exitPosition x env symbol w =
      decideAndAct x env symbol book (markPrice book (w.rt.position symbol).qty)
        (noteOpenedAt x.config env.clock symbol w₁) := by
  obtain ⟨-, hentry, book', hbook', hmark⟩ := hat
  obtain rfl : book = book' := Option.some.inj (hbook.symm.trans hbook')
  simp only [exitView] at hentry hmark
  have hsame : w₁.rt.position symbol = w.rt.position symbol := congrArg ExitView.position hview
  rw [← hsame] at hentry
  unfold exitPosition
  rw [bind_of_ok hresolved, bind_of_ok (get_run w₁), if_neg hentry,
    bind_of_ok (modify_run _ w₁), hbook]
  change exitAtBook x env symbol _ book _ = _
  have hposition : (noteOpenedAt x.config env.clock symbol w₁).rt.position symbol =
      w.rt.position symbol := hsame
  rw [exitAtBook_of_not_dust (by rw [hposition]; exact hmark), hposition]

/-- With a position at its floors, the routine decides and acts on the reason. -/
theorem maybeForceExit_eq {book : OrderBookAggregate} (hx : x.executor.isSome = true)
    (hclock : ¬ Suppressed env w symbol) (hat : AtFloors x.config env (exitView x symbol w))
    (hbook : env.book = some book) :
    maybeForceExit x env symbol w =
      decideAndAct x env symbol book (markPrice book (w.rt.position symbol).qty)
        (noteOpenedAt x.config env.clock symbol (floorsResolved x symbol w)) := by
  have hexecutor : ¬ x.executor.isNone = true := by
    intro hnone
    rw [Option.isNone_iff_eq_none.mp hnone] at hx
    cases hx
  have hfloor : ¬ |(w.rt.position symbol).qty| < resolvedPositionFloor x w.rt symbol := by
    have hquantity := hat.quantity
    simp only [exitView] at hquantity
    exact not_lt.mpr hquantity
  have hcached := exitView_cachePositionFloor x symbol symbol w
  unfold maybeForceExit floorsResolved
  unfold Suppressed at hclock
  rw [bind_of_ok (get_run w), if_neg hexecutor, if_neg hclock,
    bind_of_ok (resolvePositionFloor_run x symbol w), if_neg hfloor]
  -- from here on only the view of the state with the cached floor matters
  generalize cachePositionFloor symbol (resolvedPositionFloor x w.rt symbol) w = w₁ at hcached ⊢
  have hsame : w₁.rt.position symbol = w.rt.position symbol :=
    congrArg ExitView.position hcached
  rw [exitPosition_of_not_dust (resolvePositionNotionalFloor_run x symbol w₁)
    (exitView_cacheNotionalFloor x symbol symbol w₁) (by rw [hcached]; exact hat) hbook, hsame]

variable (symbol w) in
theorem trace_cachePositionFloor (q : ℚ) : (cachePositionFloor symbol q w).trace = w.trace := by
  obtain ⟨floors, hcached⟩ := cachePositionFloor_eq symbol w q
  rw [hcached]

variable (symbol w) in
theorem trace_cacheNotionalFloor (q : ℚ) : (cacheNotionalFloor symbol q w).trace = w.trace := by
  obtain ⟨floors, hcached⟩ := cacheNotionalFloor_eq symbol w q
  rw [hcached]

variable (x symbol w) in
theorem trace_floorsResolved : (floorsResolved x symbol w).trace = w.trace := by
  unfold floorsResolved
  dsimp only
  rw [trace_cacheNotionalFloor, trace_cachePositionFloor]

/-- The decision is in the trace; the answer is no only for an order refused for its quantity. -/
theorem decideAndAct_ok {book : OrderBookAggregate} {mark : ℚ}
    (h : decideAndAct x env symbol book mark w = .ok b w') :
    (∃ events, w'.trace = w.trace ++ .decideExit symbol :: events) ∧
      (b = false ↔ (∃ reason, exitReason x.config env.clock mark w symbol = some reason) ∧
        x.config.forceExitEnabled = true ∧
        x.config.forceExitCooldownSec ≤ env.clock - w.rt.lastForceExitTs symbol ∧
        ∃ reply, env.answer = .ok reply ∧ reply.isInvalidQty = true) := by
  unfold decideAndAct at h
  obtain ⟨reason, w₁, hdecide, h⟩ := bind_eq_ok h
  obtain ⟨hreason, htrace, hlast, -⟩ := decideExit_ok hdecide
  cases reason with
  | none =>
    cases h
    refine ⟨⟨[], htrace⟩, ?_⟩
    simp [← hreason]
  | some reason =>
    have hgrows : Moves (Emits fun _ => True) (forceExit x env symbol book reason) :=
      moves_forceExit (exitSteps_emits trivial) fun _ _ _ => emits_note trivial
    obtain ⟨events, hevents, -⟩ := hgrows.of_ok h
    refine ⟨⟨events, ?_⟩, ?_⟩
    · rw [hevents, htrace, List.append_assoc, List.singleton_append]
    · rw [forceExit_ok h, hlast, ← hreason]
      simp

/-- A live position is decided on; the answer is no only for an order refused for its quantity. -/
theorem maybeForceExit_live (hx : x.executor.isSome = true) (hclock : ¬ Suppressed env w symbol)
    (hat : AtFloors x.config env (exitView x symbol w))
    (h : maybeForceExit x env symbol w = .ok b w') :
    (∃ events, w'.trace = w.trace ++ .decideExit symbol :: events) ∧
      (b = false ↔ RejectedAsDust x env w symbol) := by
  obtain ⟨book, hbook, -⟩ := hat.mark
  rw [maybeForceExit_eq hx hclock hat hbook] at h
  obtain ⟨htrace, hanswer⟩ := decideAndAct_ok h
  have hview := exitView_floorsResolved x symbol w
  have hsilent := trace_floorsResolved x symbol w
  generalize floorsResolved x symbol w = w₁ at htrace hanswer hview hsilent
  have hlast : w₁.rt.lastForceExitTs symbol = w.rt.lastForceExitTs symbol :=
    congrArg ExitView.lastForceExitTs hview
  have hnoted : (noteOpenedAt x.config env.clock symbol w₁).rt.lastForceExitTs symbol =
      w.rt.lastForceExitTs symbol := hlast
  refine ⟨?_, ?_⟩
  · have hsame : (noteOpenedAt x.config env.clock symbol w₁).trace = w.trace := hsilent
    rwa [hsame] at htrace
  · rw [exitReason_noteOpenedAt, exitReason_congr hview, hnoted] at hanswer
    rw [hanswer]
    constructor
    · rintro ⟨⟨reason, hreason⟩, henabled, hcooled, hrejected⟩
      exact ⟨⟨hclock, hat, ⟨reason, book, hbook, hreason⟩, henabled, hcooled⟩, hrejected⟩
    · rintro ⟨⟨-, -, ⟨reason, book', hbook', hreason⟩, henabled, hcooled⟩, hrejected⟩
      obtain rfl : book = book' := Option.some.inj (hbook.symm.trans hbook')
      exact ⟨⟨reason, hreason⟩, henabled, hcooled, hrejected⟩

/-- A position that is suppressed or below a floor is neither decided on nor closed. -/
theorem trace_maybeForceExit_of_idle
    (h : Suppressed env w symbol ∨ ¬ AtFloors x.config env (exitView x symbol w)) :
    (after (maybeForceExit x env symbol) w).trace = w.trace := by
  unfold maybeForceExit
  rw [after_get_bind]
  split_ifs with hexecutor hclock
  · rfl
  · rfl
  rw [after_bind_of_ok (resolvePositionFloor_run x symbol w)]
  have hview := exitView_cachePositionFloor x symbol symbol w
  have hsilent := trace_cachePositionFloor symbol w (resolvedPositionFloor x w.rt symbol)
  have hquantity := h.resolve_left hclock
  generalize cachePositionFloor symbol (resolvedPositionFloor x w.rt symbol) w = w₁ at hview hsilent ⊢
  rw [← hview] at hquantity
  have hposition : w₁.rt.position symbol = w.rt.position symbol :=
    congrArg ExitView.position hview
  have hfloor : resolvedPositionFloor x w₁.rt symbol = resolvedPositionFloor x w.rt symbol :=
    congrArg ExitView.positionFloor hview
  split_ifs with hbelow
  · exact hsilent
  unfold exitPosition
  rw [after_bind_of_ok (resolvePositionNotionalFloor_run x symbol w₁), after_get_bind]
  have hview₂ := exitView_cacheNotionalFloor x symbol symbol w₁
  have hsilent₂ := trace_cacheNotionalFloor symbol w₁ (resolvedNotionalFloor x w₁.rt symbol)
  generalize cacheNotionalFloor symbol (resolvedNotionalFloor x w₁.rt symbol) w₁ = w₂
    at hview₂ hsilent₂ ⊢
  have hposition₂ : w₂.rt.position symbol = w₁.rt.position symbol :=
    congrArg ExitView.position hview₂
  split_ifs with hentry
  · exact hsilent₂.trans hsilent
  rw [after_modify_bind]
  cases hbook : env.book with
  | none => exact hsilent₂.trans hsilent
  | some book =>
    change (after (exitAtBook x env symbol (resolvedNotionalFloor x w₁.rt symbol) book)
      (noteOpenedAt x.config env.clock symbol w₂)).trace = w.trace
    unfold exitAtBook
    rw [after_get_bind]
    dsimp only
    split_ifs with hmark
    · exact hsilent₂.trans hsilent
    -- the position is at its floors after all
    refine absurd ⟨?_, ?_, book, hbook, ?_⟩ hquantity
    · change resolvedPositionFloor x w₁.rt symbol ≤ |(w₁.rt.position symbol).qty|
      rw [hposition, hfloor]
      exact not_lt.mp hbelow
    · change ¬ IsEntryDust x.config (resolvedNotionalFloor x w₁.rt symbol) (w₁.rt.position symbol)
      rwa [← hposition₂]
    · change ¬ IsDust x.config (resolvedNotionalFloor x w₁.rt symbol) (w₁.rt.position symbol).qty
        (markPrice book (w₁.rt.position symbol).qty)
      rwa [← hposition₂]

/-- An order is only sent where exits are enabled and the last one is some time ago. -/
theorem emits_forceExit (w : World) (book : OrderBookAggregate) (reason : ExitReason) :
    Emits (fun event => ∀ order accepted, event = .placeOrder order accepted →
      x.config.forceExitEnabled = true ∧
        x.config.forceExitCooldownSec ≤ env.clock - w.rt.lastForceExitTs symbol ∧
        order = forceExitOrder x.config env symbol (w.rt.position symbol).qty book reason)
      w (after (forceExit x env symbol book reason) w) := by
  unfold forceExit
  rw [after_get_bind]
  refine moves_bind (moves_auditExit allowsRecords_emits env _ _ _) (fun _ => ?_) w
  refine moves_ite (fun _ => moves_pure _) fun henabled => ?_
  refine moves_ite (fun _ => moves_pure _) fun hcooling => ?_
  refine moves_sendForceExit (exitSteps_emits ?_) rfl fun accepted w' => emits_note ?_
  · intro order accepted hsame
    cases hsame
  · intro order accepted' hsame
    cases hsame
    exact ⟨not_not.mp henabled, not_lt.mp hcooling, rfl⟩

/-- Every order is a forced exit that is due, and closes what the symbol holds. -/
def OnlyForcedExit (x : Context) (env : ExitEnv) (symbol : String) (w : World)
    (event : Event) : Prop :=
  ∀ order accepted, event = .placeOrder order accepted → ForceExitDue x env w symbol ∧
    ∃ book reason, order = forceExitOrder x.config env symbol (w.rt.position symbol).qty book reason

theorem emits_decideAndAct {book : OrderBookAggregate} (hclock : ¬ Suppressed env w symbol)
    (hat : AtFloors x.config env (exitView x symbol w)) (hbook : env.book = some book)
    (hview : exitView x symbol w' = exitView x symbol w) :
    Emits (OnlyForcedExit x env symbol w) (noteOpenedAt x.config env.clock symbol w')
      (after (decideAndAct x env symbol book (markPrice book (w.rt.position symbol).qty))
        (noteOpenedAt x.config env.clock symbol w')) := by
  -- deciding sends nothing
  have hdecides : Moves (Emits (OnlyForcedExit x env symbol w))
      (decideExit x env symbol (markPrice book (w.rt.position symbol).qty)) := by
    refine moves_decideExit (exitSteps_emits ?_) _
    intro order accepted hsame
    cases hsame
  have hposition : w'.rt.position symbol = w.rt.position symbol :=
    congrArg ExitView.position hview
  have hlast : w'.rt.lastForceExitTs symbol = w.rt.lastForceExitTs symbol :=
    congrArg ExitView.lastForceExitTs hview
  unfold decideAndAct
  cases hdecide : decideExit x env symbol (markPrice book (w.rt.position symbol).qty)
      (noteOpenedAt x.config env.clock symbol w') with
  | error e w₃ =>
    rw [after_bind_of_error hdecide]
    exact hdecides.of_error hdecide
  | ok reason w₃ =>
    rw [after_bind_of_ok hdecide]
    obtain ⟨hreason, -, hlast₃, hposition₃⟩ := decideExit_ok hdecide
    rw [exitReason_noteOpenedAt, exitReason_congr hview] at hreason
    refine trans_of (Emits _) (hdecides.of_ok hdecide) ?_
    cases reason with
    | none => exact refl_of (Emits _) w₃
    | some reason =>
      refine (emits_forceExit w₃ book reason).mono fun event hevent order accepted hsame => ?_
      obtain ⟨henabled, hcooled, horder⟩ := hevent order accepted hsame
      -- the cooldown and the position are those of before the decision
      rw [hlast₃] at hcooled
      rw [hposition₃] at horder
      change x.config.forceExitCooldownSec ≤ env.clock - w'.rt.lastForceExitTs symbol at hcooled
      change order = forceExitOrder x.config env symbol (w'.rt.position symbol).qty book reason
        at horder
      rw [hlast] at hcooled
      rw [hposition] at horder
      exact ⟨⟨hclock, hat, ⟨reason, book, hbook, hreason.symm⟩, henabled, hcooled⟩,
        book, reason, horder⟩

/-- The order of a forced exit closes what the symbol holds, and is only sent where it is due. -/
theorem emits_maybeForceExit (x : Context) (env : ExitEnv) (symbol : String) (w : World) :
    Emits (OnlyForcedExit x env symbol w) w (after (maybeForceExit x env symbol) w) := by
  by_cases hidle : Suppressed env w symbol ∨ ¬ AtFloors x.config env (exitView x symbol w)
  · exact emits_of_eq (trace_maybeForceExit_of_idle hidle)
  obtain ⟨hclock, hat⟩ := not_or.mp hidle
  rw [not_not] at hat
  obtain ⟨book, hbook, -⟩ := hat.mark
  cases hx : x.executor with
  | none =>
    unfold maybeForceExit
    rw [after_get_bind, if_pos (by rw [hx]; rfl)]
    exact refl_of (Emits _) w
  | some executor =>
    have hsome : x.executor.isSome = true := by
      rw [hx]
      rfl
    have heq := maybeForceExit_eq hsome hclock hat hbook
    have hview := exitView_floorsResolved x symbol w
    have hsilent := trace_floorsResolved x symbol w
    generalize floorsResolved x symbol w = w₁ at heq hview hsilent
    have hbegin : Emits (OnlyForcedExit x env symbol w) w
        (noteOpenedAt x.config env.clock symbol w₁) := emits_of_eq hsilent
    have hacts := emits_decideAndAct hclock hat hbook hview
    unfold after at hacts ⊢
    rw [heq]
    exact trans_of (Emits _) hbegin hacts

end ForceExit

/-! ### The exit quote of a symbol -/

/-- A new exit quote is sent at this price: the position is planned for, no quote of it rests, and
the quotes it replaces can be cancelled. -/
structure ExitQuoteDue (x : Context) (env : QuoteEnv) (w : World) (symbol : String)
    (openQuotes : List OpenOrder) (price : ℚ) : Prop where
  cooledDown : x.config.forceExitCooldownSec ≤ env.clock - w.rt.lastForceExitTs symbol
  quantity : resolvedPositionFloor x w.rt symbol ≤ |(w.rt.position symbol).qty|
  planned : plannedExitQuote x.config env w.rt symbol = some price
  notional : ¬ IsDust x.config (resolvedNotionalFloor x w.rt symbol)
    (w.rt.position symbol).qty price
  fresh : anySameQuote (closingSide (w.rt.position symbol).qty) (tickSizeOr x.config env.tickSize)
    (resolvedPositionFloor x w.rt symbol) price |(w.rt.position symbol).qty| openQuotes = .ok false
  cancelled : ∀ order ∈ openQuotes, Text.strip (Text.orEmpty order.orderLinkId) ≠ "" →
    ∃ reply, env.cancelAnswer (Text.strip (Text.orEmpty order.orderLinkId)) = .ok reply

/-- Every order is an exit quote that is due, for what the symbol holds. -/
def OnlyExitQuote (x : Context) (env : QuoteEnv) (symbol : String) (openQuotes : List OpenOrder)
    (w : World) (event : Event) : Prop :=
  ∀ order accepted, event = .placeOrder order accepted → ∃ price,
    ExitQuoteDue x env w symbol openQuotes price ∧
      order = exitQuoteOrder env symbol (w.rt.position symbol).qty price

section ExitQuote

attribute [local irreducible] resolvedPositionFloor resolvedNotionalFloor

variable {x : Context} {env : QuoteEnv} {symbol : String} {w w' : World}
  {openQuotes : List OpenOrder}

/-- A cancellation that returned was answered. -/
theorem cancelAnswer_of_cancelQuote {order : OpenOrder}
    (h : cancelQuote env symbol order w = .ok () w')
    (hlink : Text.strip (Text.orEmpty order.orderLinkId) ≠ "") :
    ∃ reply, env.cancelAnswer (Text.strip (Text.orEmpty order.orderLinkId)) = .ok reply := by
  unfold cancelQuote at h
  rw [if_neg hlink] at h
  unfold cancelOrder at h
  obtain ⟨⟨⟩, w₁, -, h⟩ := bind_eq_ok h
  cases hanswer : env.cancelAnswer (Text.strip (Text.orEmpty order.orderLinkId)) with
  | ok reply => exact ⟨reply, rfl⟩
  | error text =>
    rw [hanswer] at h
    cases h

/-- The quote is planned from the view of the symbol. -/
theorem plannedExitQuote_congr (h : exitView x symbol w' = exitView x symbol w) (c : Config) :
    plannedExitQuote c env w'.rt symbol = plannedExitQuote c env w.rt symbol := by
  obtain ⟨hposition, hdetails, -⟩ := ExitView.mk.inj h
  unfold plannedExitQuote plannedExitPrice
  rw [hposition, hdetails]

/-- Whether a quote is due is seen in the view. -/
theorem ExitQuoteDue.congr {price : ℚ} {openQuotes' : List OpenOrder}
    (h : exitView x symbol w' = exitView x symbol w) (hquotes : openQuotes' = openQuotes)
    (hdue : ExitQuoteDue x env w symbol openQuotes price) :
    ExitQuoteDue x env w' symbol openQuotes' price := by
  subst hquotes
  have hposition : w'.rt.position symbol = w.rt.position symbol := congrArg ExitView.position h
  have hlast : w'.rt.lastForceExitTs symbol = w.rt.lastForceExitTs symbol :=
    congrArg ExitView.lastForceExitTs h
  have hfloor : resolvedPositionFloor x w'.rt symbol = resolvedPositionFloor x w.rt symbol :=
    congrArg ExitView.positionFloor h
  have hnotional : resolvedNotionalFloor x w'.rt symbol = resolvedNotionalFloor x w.rt symbol :=
    congrArg ExitView.notionalFloor h
  obtain ⟨hcooled, hquantity, hplanned, hdust, hfresh, hcancelled⟩ := hdue
  refine ⟨?_, ?_, ?_, ?_, ?_, hcancelled⟩
  · rwa [hlast]
  · rwa [hfloor, hposition]
  · rwa [plannedExitQuote_congr h]
  · rwa [hnotional, hposition]
  · rwa [hfloor, hposition]

theorem emits_replaceQuotes {w₀ : World} {price : ℚ}
    (hview : exitView x symbol w = exitView x symbol w₀)
    (hdue : anySameQuote (closingSide (w₀.rt.position symbol).qty)
        (tickSizeOr x.config env.tickSize) (resolvedPositionFloor x w₀.rt symbol) price
        |(w₀.rt.position symbol).qty| openQuotes = .ok false →
      (∀ order ∈ openQuotes, Text.strip (Text.orEmpty order.orderLinkId) ≠ "" →
        ∃ reply, env.cancelAnswer (Text.strip (Text.orEmpty order.orderLinkId)) = .ok reply) →
      ExitQuoteDue x env w₀ symbol openQuotes price) :
    Emits (OnlyExitQuote x env symbol openQuotes w₀) w
      (after (replaceQuotes x env symbol (resolvedPositionFloor x w₀.rt symbol) price openQuotes)
        w) := by
  have hposition : w.rt.position symbol = w₀.rt.position symbol :=
    congrArg ExitView.position hview
  unfold replaceQuotes
  rw [after_get_bind]
  dsimp only
  rw [hposition]
  -- an unreadable quote ends the call, an equal one is left alone
  cases hsame : anySameQuote (closingSide (w₀.rt.position symbol).qty)
      (tickSizeOr x.config env.tickSize) (resolvedPositionFloor x w₀.rt symbol) price
      |(w₀.rt.position symbol).qty| openQuotes with
  | error e => exact refl_of (Emits _) w
  | ok same =>
    rw [fromExcept_ok, pure_bind]
    cases same with
    | true => exact refl_of (Emits _) w
    | false =>
      rw [if_neg (by simp)]
      have hcancels : Moves (Emits (OnlyExitQuote x env symbol openQuotes w₀))
          (each (cancelQuote env symbol) openQuotes) := by
        refine moves_each (fun quote => moves_cancelQuote ?_) _
        intro orderSymbol accepted w'
        refine emits_note fun order accepted hevent => ?_
        cases hevent
      rcases after_bind_cases (each (cancelQuote env symbol) openQuotes) _ w with hraised |
        ⟨⟨⟩, hreturned, hafter⟩
      · rw [hraised]
        exact hcancels w
      · rw [hafter]
        refine trans_of (Emits _) (hcancels w) ?_
        -- the new quote goes out only after every cancellation was answered
        have hanswers := each_eq_ok hreturned
        have hprice := hdue hsame fun order horder hlink => by
          obtain ⟨w₁, w₂, hcancel⟩ := hanswers order horder
          exact cancelAnswer_of_cancelQuote hcancel hlink
        refine moves_sendExitQuote (quoteSteps_emits x symbol) rfl (fun accepted _ => ?_) _
        refine emits_note fun order accepted' hevent => ?_
        cases hevent
        exact ⟨price, hprice, rfl⟩

/-- An exit quote is for what the symbol holds, and is only sent where it is due. -/
theorem emits_maybePlacePositionExitQuote (x : Context) (env : QuoteEnv) (symbol : String)
    (openQuotes : List OpenOrder) (w : World) :
    Emits (OnlyExitQuote x env symbol openQuotes w) w
      (after (maybePlacePositionExitQuote x env symbol openQuotes) w) := by
  unfold maybePlacePositionExitQuote
  rw [after_get_bind]
  split_ifs with hexecutor hcooling
  · exact refl_of (Emits _) w
  · exact refl_of (Emits _) w
  rw [after_bind_of_ok (resolvePositionFloor_run x symbol w)]
  -- the floors are cached on the way, which the exit does not look at
  have hview := exitView_cachePositionFloor x symbol symbol w
  have hsilent := trace_cachePositionFloor symbol w (resolvedPositionFloor x w.rt symbol)
  generalize cachePositionFloor symbol (resolvedPositionFloor x w.rt symbol) w = w₁
    at hview hsilent ⊢
  split_ifs with hbelow
  · exact emits_of_eq hsilent
  unfold quotePosition
  rw [after_bind_of_ok (resolvePositionNotionalFloor_run x symbol w₁), after_get_bind]
  have hview₂ := (exitView_cacheNotionalFloor x symbol symbol w₁).trans hview
  have hsilent₂ := (trace_cacheNotionalFloor symbol w₁
    (resolvedNotionalFloor x w₁.rt symbol)).trans hsilent
  generalize cacheNotionalFloor symbol (resolvedNotionalFloor x w₁.rt symbol) w₁ = w₂
    at hview₂ hsilent₂ ⊢
  have hnotional : resolvedNotionalFloor x w₁.rt symbol = resolvedNotionalFloor x w.rt symbol :=
    congrArg ExitView.notionalFloor hview
  have hposition : w₂.rt.position symbol = w.rt.position symbol :=
    congrArg ExitView.position hview₂
  rw [plannedExitQuote_congr hview₂, hnotional, hposition]
  cases hplanned : plannedExitQuote x.config env w.rt symbol with
  | none => exact emits_of_eq hsilent₂
  | some price =>
    dsimp only
    split_ifs with hdust
    · exact emits_of_eq hsilent₂
    -- all guards are passed
    · have hbegin : Emits (OnlyExitQuote x env symbol openQuotes w) w w₂ := emits_of_eq hsilent₂
      refine trans_of (Emits _) hbegin (emits_replaceQuotes hview₂ ?_)
      intro hfresh hcancelled
      exact ⟨not_lt.mp hcooling, not_lt.mp hbelow, hplanned, hdust, hfresh, hcancelled⟩

end ExitQuote

end Botik
