import Botik.Main.UniverseLoop
import Botik.Theorems.PairExecutable

/-!
# The selection of the scanner

The gates of the symbols are machines, each fed by the evaluations of its symbol: those of the
passes and those before an order. So what a gate remembers is known after every run, and a pass
selects the best of the symbols that have met all conditions for long enough.

The strategy quotes the active symbols. The trading loop keeps the selection of a pass, unless it is
empty: then the second iteration after the pass puts the whole universe in its place.

## Main definitions

* `Candidates.history` — the evaluations of a run
* `PairAdmission.IsHeld` — a pair that passes, among its evaluations
* `Candidates.Selection` — what a pass selects

## Main results

* `Candidates.pairs_run` — every gate after a run
* `scanner_selects_best_held` — a pass after any run
* `selection_respected_iff` — what the strategy quotes until the next pass
-/

namespace Botik

open Machines PairAdmission Runs

/-! ### A pair that passes -/

namespace PairAdmission

/-- A pair that meets all conditions: it met them at every evaluation within the hold, before a
positive hold there is one that met them, and no critical failure is within the cooldown. -/
structure IsHeld (c : PairConfig) (earlier : List PairEvaluation) (e : PairEvaluation) : Prop where
  allOk : e.AllOk c
  unbroken : ∀ e' ∈ earlier, e.now - c.holdMs < e'.now → e'.AllOk c
  started : 0 < c.holdMs → ∃ e' ∈ earlier, e'.now ≤ e.now - c.holdMs ∧ e'.AllOk c
  cooled : ∀ e' ∈ earlier, ¬ e'.AllOk c → e'.IsCritical c → e'.now ≤ e.now - c.cooldownMs

section Held

variable {c : PairConfig} {calls calls' earlier : List PairEvaluation} {e : PairEvaluation}

theorem Ordered.sublist (h : Ordered calls) (hsub : calls'.Sublist calls) : Ordered calls' where
  positive := fun e he => h.positive e (hsub.mem he)
  sorted := h.sorted.sublist hsub

theorem isHeld_of_pass (h : Ordered (earlier ++ [e]))
    (hpass : (decisionAfter c earlier e).status = .pass) : IsHeld c earlier e where
  allOk := (gateStatus_eq_pass_iff.mp hpass).1
  unbroken := fun _ he' hlate => allOk_of_pass h hpass he' hlate
  started := started_of_pass h hpass
  cooled := fun _ he' hfail hcritical => cooled_of_pass h hpass he' hfail hcritical

end Held

end PairAdmission

namespace Candidates

/-! ### The evaluations of a run -/

section Evaluations

variable (x : ScannerSettings)

/-- The gates, after some evaluations. -/
abbrev fed (pairs : String → PairState) (evaluated : List (String × PairEvaluation)) :
    String → PairState :=
  evaluated.foldl (feed (evaluatePairAdmission x.pair.toPairConfig)) pairs

/-- The evaluations of a pass, up to the first one that raises. -/
def reached : List (String × PairReading) → List (String × PairEvaluation)
  | [] => []
  | (symbol, r) :: rest =>
    match r.evaluation x.pstdev x.pair with
    | none => []
    | some e => (symbol, e) :: reached rest

/-- The evaluations of an event. -/
def evaluations (event : CandidateEvent) (u : Candidates) : List (String × PairEvaluation) :=
  match event with
  | .scan p =>
    if x.scannerEnabled then reached x (ScannerSettings.readingsOf p u.symbols) else []
  | .check symbol r => ((r.evaluation x.pstdev x.pair).map fun e => (symbol, e)).toList
  | .take | .refresh _ _ | .activate | .message _ _ | .trade _ | .restart => []

/-- The evaluations of a run. -/
def history (events : List CandidateEvent) (u : Candidates) : List (String × PairEvaluation) :=
  (transitions (step x) events u).flatMap fun t => evaluations x t.input t.before

/-- The evaluations of one symbol. -/
def ofSymbol (symbol : String) (evaluated : List (String × PairEvaluation)) :
    List PairEvaluation :=
  (evaluated.filter fun e => e.1 = symbol).map Prod.snd

variable {x} {event : CandidateEvent} {events : List CandidateEvent} {u : Candidates}
  {p : ScannerPass} {state : MarketState} {readings : List (String × PairReading)}
  {pairs : String → PairState} {scanned : List ScannedSymbol}

theorem evaluateSymbols_snd :
    (evaluateSymbols x.pstdev x.pair readings pairs).2 = fed x pairs (reached x readings) := by
  induction readings generalizing pairs with
  | nil => rfl
  | cons head rest ih =>
    obtain ⟨symbol, r⟩ := head
    unfold evaluateSymbols reached
    cases r.evaluation x.pstdev x.pair with
    | none => rfl
    | some e => exact ih

theorem map_symbol_scanned
    (h : (evaluateSymbols x.pstdev x.pair readings pairs).1 = some scanned) :
    scanned.map ScannedSymbol.symbol = readings.map Prod.fst := by
  induction readings generalizing pairs scanned with
  | nil =>
    obtain rfl : [] = scanned := Option.some.inj h
    rfl
  | cons head rest ih =>
    obtain ⟨symbol, r⟩ := head
    unfold evaluateSymbols at h
    cases hr : r.evaluation x.pstdev x.pair with
    | none =>
      rw [hr] at h
      cases h
    | some e =>
      rw [hr] at h
      obtain ⟨others, hothers, rfl⟩ := Option.map_eq_some_iff.mp h
      rw [List.map_cons, List.map_cons, ih hothers]

/-- What a pass decides of a symbol, it decides after the evaluations before. -/
theorem decision_of_mem_scanned
    (h : (evaluateSymbols x.pstdev x.pair readings pairs).1 = some scanned) :
    ∀ s ∈ scanned, ∃ before later,
      reached x readings = before ++ (s.symbol, s.evaluation) :: later ∧
      s.decision = (evaluatePairAdmission x.pair.toPairConfig s.evaluation
        (fed x pairs before s.symbol)).1 := by
  induction readings generalizing pairs scanned with
  | nil =>
    obtain rfl : [] = scanned := Option.some.inj h
    exact fun s hs => absurd hs List.not_mem_nil
  | cons head rest ih =>
    obtain ⟨symbol, r⟩ := head
    unfold evaluateSymbols at h
    unfold reached
    cases hr : r.evaluation x.pstdev x.pair with
    | none =>
      rw [hr] at h
      cases h
    | some e =>
      rw [hr] at h
      obtain ⟨others, hothers, rfl⟩ := Option.map_eq_some_iff.mp h
      intro s hs
      rcases List.mem_cons.mp hs with rfl | hs
      · exact ⟨[], reached x rest, rfl, rfl⟩
      · obtain ⟨before, later, hreached, hdecision⟩ := ih hothers s hs
        refine ⟨(symbol, e) :: before, later, ?_, hdecision⟩
        dsimp only
        rw [hreached, List.cons_append]

theorem pairs_step : (step x event u).pairs = fed x u.pairs (evaluations x event u) := by
  cases event with
  | scan p =>
    unfold step evaluations
    dsimp only
    split_ifs
    -- the pass feeds the gates whatever it selects
    · rw [← evaluateSymbols_snd]
      unfold scan evaluated
      dsimp only
      cases (evaluateSymbols x.pstdev x.pair (ScannerSettings.readingsOf p u.symbols)
        u.pairs).1 with
      | none => rfl
      | some scanned =>
        dsimp only
        split_ifs
        · rfl
        · rfl
    · rfl
  | take =>
    unfold step take
    dsimp only
    by_cases henabled : x.scannerEnabled = true
    · rw [if_pos henabled]
      rfl
    · rw [if_neg henabled]
      rfl
  -- an order is checked through the same gate as a pass of the scanner
  | check symbol r =>
    unfold step check evaluations
    dsimp only
    cases r.evaluation x.pstdev x.pair with
    | none => rfl
    | some e => rfl
  | refresh instruments tickers => rfl
  | activate => rfl
  | message nowMs m => rfl
  | trade rt => rfl
  | restart => rfl

/-- The gate of a symbol after a run: that of its evaluations. -/
theorem pairs_run (symbol : String) :
    (run (step x) events (start x state)).pairs symbol =
      PairAdmission.stateAfter x.pair.toPairConfig
        (ofSymbol symbol (history x events (start x state))) := by
  rw [val_run_eq_foldl_flatMap Candidates.pairs (fun _ _ => pairs_step), foldl_feed]
  rfl

theorem history_append (later : List CandidateEvent) :
    history x (events ++ later) u =
      history x events u ++ history x later (run (step x) events u) := by
  unfold history
  rw [transitions_append, List.flatMap_append]

end Evaluations

/-! ### A pass -/

section Pass

variable (x : ScannerSettings)

/-- What a pass selects, among the evaluations of the run: the best of what passes, or else none or
the first of the universe. -/
structure Selection (evaluations : List (String × PairEvaluation)) (symbols : List String)
    (scanned : List ScannedSymbol) (selected : List String) : Prop where
  /-- All symbols are evaluated. -/
  complete : scanned.map ScannedSymbol.symbol = symbols
  best : passing scanned ≠ [] → ∃ best rest : List SymbolScore,
    selected = best.map SymbolScore.symbol ∧
      best.length = min (max x.scannerTopK 1).toNat (passing scanned).length ∧
      ((passing scanned).map ScannedSymbol.score).Perm (best ++ rest) ∧
      (best ++ rest).Pairwise fun a b => b.scoreBps ≤ a.scoreBps
  none_passes : passing scanned = [] → selected =
    if x.config.strictPairFilter then [] else symbols.take (max x.scannerTopK 1).toNat
  held : ∀ s ∈ passing scanned, ∃ earlier later,
    evaluations = earlier ++ (s.symbol, s.evaluation) :: later ∧
      IsHeld x.pair.toPairConfig (ofSymbol s.symbol earlier) s.evaluation

variable {x} {events : List CandidateEvent} {p : ScannerPass} {state : MarketState}
  {scanned : List ScannedSymbol}

/-- The scores that are selected. -/
theorem selectedScores_spec (scannerTopK : ℤ) (scanned : List ScannedSymbol) :
    ∃ best rest : List SymbolScore,
      (pickActiveSymbols scannerTopK scanned).1 = best.map SymbolScore.symbol ∧
        best.length = min (max scannerTopK 1).toNat (passing scanned).length ∧
        ((passing scanned).map ScannedSymbol.score).Perm (best ++ rest) ∧
        (best ++ rest).Pairwise fun a b => b.scoreBps ≤ a.scoreBps := by
  obtain ⟨rest, hperm, hsorted⟩ := Newest.take_sortedBy_spec
    (fun s : SymbolScore => OrderDual.toDual s.scoreBps)
    ((passing scanned).map ScannedSymbol.score) (max scannerTopK 1).toNat
  refine ⟨_, rest, rfl, ?_, hperm, hsorted⟩
  rw [List.length_take, length_rankedScores]

/-- Nothing is picked exactly where nothing passes. -/
theorem pickActiveSymbols_eq_nil_iff (scannerTopK : ℤ) :
    (pickActiveSymbols scannerTopK scanned).1 = [] ↔ passing scanned = [] := by
  obtain ⟨best, rest, hpicked, hlength, -, -⟩ := selectedScores_spec scannerTopK scanned
  rw [hpicked, List.map_eq_nil_iff, ← List.length_eq_zero_iff, ← List.length_eq_zero_iff, hlength]
  omega

/-- What a pass of a run selects. -/
theorem selection_of_scan (henabled : x.scannerEnabled = true)
    (hordered : Ordered ((history x (events ++ [.scan p]) (start x state)).map Prod.snd))
    (hscan : (evaluated x p (run (step x) events (start x state))).1 = some scanned) :
    Selection x (history x (events ++ [.scan p]) (start x state))
      (run (step x) events (start x state)).symbols scanned
      (x.selectSymbols (run (step x) events (start x state)).symbols scanned) where
  complete := by
    rw [map_symbol_scanned hscan]
    unfold ScannerSettings.readingsOf
    rw [List.map_map]
    exact List.zipIdx_map_fst _ _
  best := by
    intro hpasses
    unfold ScannerSettings.selectSymbols
    dsimp only
    rw [if_neg (mt (pickActiveSymbols_eq_nil_iff _).mp hpasses)]
    exact selectedScores_spec _ _
  none_passes := by
    intro hnone
    unfold ScannerSettings.selectSymbols
    dsimp only
    rw [if_pos ((pickActiveSymbols_eq_nil_iff _).mpr hnone)]
  held := by
    intro s hs
    obtain ⟨hscanned, hpass⟩ := List.mem_filter.mp hs
    -- the evaluation that decided, and those around it in the pass
    obtain ⟨before, later, hreached, hdecision⟩ := decision_of_mem_scanned hscan s hscanned
    have hwhole : history x (events ++ [.scan p]) (start x state) =
        history x events (start x state) ++ before ++ (s.symbol, s.evaluation) :: later := by
      rw [history_append, List.append_assoc, ← hreached]
      unfold history
      rw [transitions_cons, transitions_nil, List.flatMap_cons, List.flatMap_nil, List.append_nil]
      unfold evaluations
      dsimp only
      rw [if_pos henabled]
    refine ⟨history x events (start x state) ++ before, later, hwhole, isHeld_of_pass ?_ ?_⟩
    · -- the evaluations of the symbol, up to this one, are among all evaluations
      have hsplit : (history x (events ++ [.scan p]) (start x state)).map Prod.snd =
          (history x events (start x state) ++ before).map Prod.snd ++ [s.evaluation] ++
            later.map Prod.snd := by
        rw [hwhole]
        simp
      refine hordered.sublist (List.Sublist.trans ?_ (hsplit ▸ List.sublist_append_left _ _))
      exact (List.filter_sublist.map Prod.snd).append (List.Sublist.refl _)
    -- the gate of the symbol was fed its own evaluations only
    · have hgate : fed x (run (step x) events (start x state)).pairs before s.symbol =
          PairAdmission.stateAfter x.pair.toPairConfig
            (ofSymbol s.symbol (history x events (start x state) ++ before)) := by
        unfold fed
        rw [foldl_feed, pairs_run]
        unfold PairAdmission.stateAfter ofSymbol
        rw [List.filter_append, List.map_append, final_append]
      unfold decisionAfter
      rw [← hgate, ← hdecision]
      exact of_decide_eq_true hpass

end Pass

/-! ### After a pass -/

section Handed

variable {x : ScannerSettings} {event : CandidateEvent} {events later : List CandidateEvent}
  {u : Candidates} {selected : List String} {n : ℕ}

theorem symbols_refresh_ne_nil (x : UniverseSettings) {u : Universe} (h : u.symbols ≠ [])
    (discovered : Except PyError (List String)) : (u.refresh x discovered).symbols ≠ [] := by
  unfold Universe.refresh
  cases discovered with
  | error _ => exact h
  | ok discovered =>
    dsimp only
    split_ifs with hkept
    · exact h
    · exact fun hnone => hkept (.inr (.inl hnone))

/-- The universe is never empty. -/
theorem symbols_step_ne_nil (hconfig : x.config.symbols ≠ []) (h : u.symbols ≠ []) :
    (step x event u).symbols ≠ [] := by
  cases event with
  | scan p =>
    unfold step scan
    dsimp only
    split
    · split
      · exact h
      · split_ifs
        · exact h
        · exact h
    · exact h
  | take =>
    unfold step take
    dsimp only
    split
    · exact h
    · exact h
  | check symbol r =>
    unfold step check
    dsimp only
    split
    · exact h
    · exact h
  | refresh instruments tickers => exact symbols_refresh_ne_nil x.toUniverseSettings h _
  | activate => exact h
  | message nowMs m => exact h
  | trade rt => exact h
  | restart => exact hconfig

theorem symbols_run_ne_nil (hconfig : x.config.symbols ≠ []) (state : MarketState)
    (events : List CandidateEvent) : (run (step x) events (start x state)).symbols ≠ [] :=
  have hstep : ∀ u event, u.symbols ≠ [] → True → (step x event u).symbols ≠ [] :=
    fun _ _ h _ => symbols_step_ne_nil hconfig h
  run_of_inv hstep hconfig fun _ _ => trivial

/-- What the loops have of a selection when the trading loop has begun some iterations since. -/
structure Handed (selected : List String) (n : ℕ) (u : Candidates) : Prop where
  ready : u.scannerReady = true
  nonempty : u.symbols ≠ []
  queue : u.candidateQueue = if n = 0 then some selected else none
  kept : n ≤ 1 ∨ selected ≠ [] → u.activeSymbols = selected
  filled : 2 ≤ n → selected = [] → u.activeSymbols ≠ []

/-- The events that neither select symbols nor activate others. -/
def IsBetween : CandidateEvent → Prop
  | .scan _ | .activate | .restart => False
  | .take | .check _ _ | .refresh _ _ | .message _ _ | .trade _ => True

def isTake : CandidateEvent → Bool
  | .take => true
  | .scan _ | .check _ _ | .refresh _ _ | .activate | .message _ _ | .trade _ | .restart => false

/-- An iteration begins. -/
theorem Handed.take (h : Handed selected n u) (henabled : x.scannerEnabled = true) :
    Handed selected (n + 1) (u.take x) := by
  unfold Candidates.take
  rw [if_pos henabled]
  refine ⟨h.ready, h.nonempty, (if_neg n.succ_ne_zero).symm, fun hkept => ?_, fun htwo hnone => ?_⟩
  · dsimp only
    rw [h.queue]
    by_cases hfirst : n = 0
    · rw [if_pos hfirst, Option.getD_some]
    · have hsome : selected ≠ [] := hkept.resolve_left (by omega)
      rw [if_neg hfirst, Option.getD_none, h.kept (.inr hsome), if_neg hsome]
  · dsimp only
    rw [h.queue, if_neg (by omega), Option.getD_none]
    split_ifs with hactive
    · exact h.nonempty
    · exact hactive

/-- One event. -/
theorem Handed.step (hconfig : x.config.symbols ≠ []) (henabled : x.scannerEnabled = true)
    (hbetween : IsBetween event) (h : Handed selected n u) :
    Handed selected (n + if isTake event then 1 else 0) (Candidates.step x event u) := by
  have hnonempty : (Candidates.step x event u).symbols ≠ [] :=
    symbols_step_ne_nil hconfig h.nonempty
  cases event with
  | take => exact h.take henabled
  | check symbol r =>
    unfold Candidates.step check
    dsimp only
    cases r.evaluation x.pstdev x.pair with
    | none => exact h
    | some e => exact ⟨h.ready, h.nonempty, h.queue, h.kept, h.filled⟩
  | refresh instruments tickers =>
    have hactive : (Candidates.step x (.refresh instruments tickers) u).activeSymbols =
        u.activeSymbols := by
      unfold Candidates.step Universe.step Universe.refresh
      dsimp only
      split
      · rfl
      · split_ifs
        · rfl
        · rfl
    exact ⟨h.ready, hnonempty, h.queue, fun hkept => hactive.trans (h.kept hkept),
      fun htwo hnone => hactive ▸ h.filled htwo hnone⟩
  | message nowMs m => exact ⟨h.ready, h.nonempty, h.queue, h.kept, h.filled⟩
  | trade rt => exact ⟨h.ready, h.nonempty, h.queue, h.kept, h.filled⟩
  | scan p => exact hbetween.elim
  | activate => exact hbetween.elim
  | restart => exact hbetween.elim

/-- The events after a pass. -/
theorem Handed.run (hconfig : x.config.symbols ≠ []) (henabled : x.scannerEnabled = true)
    (hbetween : ∀ event ∈ later, IsBetween event) (h : Handed selected n u) :
    Handed selected (n + later.countP isTake) (Runs.run (Candidates.step x) later u) := by
  induction later generalizing u n with
  | nil => exact h
  | cons event later ih =>
    obtain ⟨hevent, hbetween⟩ := List.forall_mem_cons.mp hbetween
    rw [run_cons, List.countP_cons, add_comm (List.countP _ _), ← add_assoc]
    exact ih hbetween (h.step hconfig henabled hevent)

theorem scan_of_scanned {p : ScannerPass} {scanned : List ScannedSymbol}
    (hscan : (evaluated x p u).1 = some scanned) (hraises : p.raises = false) :
    (u.scan x p).activeSymbols = x.selectSymbols u.symbols scanned ∧
      (u.scan x p).candidateQueue = some (x.selectSymbols u.symbols scanned) ∧
      (u.scan x p).scannerReady = true ∧ (u.scan x p).symbols = u.symbols := by
  unfold scan
  dsimp only
  rw [hscan]
  dsimp only
  rw [if_neg (by simp [hraises])]
  exact ⟨rfl, rfl, rfl, rfl⟩

/-- A pass. -/
theorem handed_scan {p : ScannerPass} {scanned : List ScannedSymbol} (h : u.symbols ≠ [])
    (hscan : (evaluated x p u).1 = some scanned) (hraises : p.raises = false) :
    Handed (x.selectSymbols u.symbols scanned) 0 (u.scan x p) := by
  obtain ⟨hactive, hqueue, hready, hsymbols⟩ := scan_of_scanned hscan hraises
  exact ⟨hready, hsymbols ▸ h, hqueue, fun _ => hactive, fun htwo => absurd htwo (by omega)⟩

end Handed

end Candidates

/-! ### Main results -/

open Candidates

/-- After every run of passes, iterations of the trading loop, evaluations before orders, changes of
the universe and restarts, a pass hands over the best of the pairs that pass, and each of these has
met all conditions for the hold and outlasted its cooldown. -/
theorem scanner_selects_best_held (x : ScannerSettings) (state : MarketState)
    (events : List CandidateEvent) (p : ScannerPass) (scanned : List ScannedSymbol)
    (henabled : x.scannerEnabled = true) (hraises : p.raises = false)
    (hordered : Ordered ((history x (events ++ [.scan p]) (start x state)).map Prod.snd))
    (hscan : (evaluated x p (run (Candidates.step x) events (start x state))).1 = some scanned) :
    (run (Candidates.step x) (events ++ [.scan p]) (start x state)).candidateQueue =
        some (run (Candidates.step x) (events ++ [.scan p]) (start x state)).activeSymbols ∧
      Selection x (history x (events ++ [.scan p]) (start x state))
        (run (Candidates.step x) events (start x state)).symbols scanned
        (run (Candidates.step x) (events ++ [.scan p]) (start x state)).activeSymbols := by
  have hlast : run (Candidates.step x) (events ++ [.scan p]) (start x state) =
      (run (Candidates.step x) events (start x state)).scan x p := by
    rw [run_append, run_cons, run_nil]
    exact if_pos henabled
  obtain ⟨hactive, hqueue, -, -⟩ := scan_of_scanned hscan hraises
  rw [hlast, hactive, hqueue]
  exact ⟨rfl, selection_of_scan henabled hordered hscan⟩

/-- Two symbols, of which one is selected. -/
def scannedTwo : ScannerSettings where
  config := Config.default ["BTCUSDT", "ETHUSDT"] .spot
  stream := ⟨50, 1 / 100⟩
  category := .spot
  discovery := ⟨"USDT", 5, 0, 0, 0, 0, true⟩
  scannerTopK := 1
  policyModelId := none
  pstdev := fun _ => 0
  pair := fiftyDollars
  scannerEnabled := true
  policyMlEnabled := false
  banditEnabled := false
  bandit := ⟨["default"], 0, 3⟩
  policyProfiles := []

/-- A pass without a policy. -/
def passOver (markets : ℕ → PairMarket) : ScannerPass where
  readings := fun k => ⟨1000, .empty, markets k⟩
  policyModel := none
  pairCtx := fun _ => none
  arms := .empty
  banditDraws := fun _ => ⟨1, 0, fun _ _ _ => 0⟩
  policyDraws := fun _ => ⟨1, 0⟩
  lastMeta := .empty
  raises := false

/-- A market of which nothing is known yet. -/
def quietMarket : PairMarket := ⟨none, none, false, none, none, [], [], []⟩

/-- Only the first symbol passes. -/
def thinPass : ScannerPass := passOver fun k => if k = 0 then thinAsk else quietMarket

/-- A pair must meet the conditions for two seconds. -/
def heldTwo : ScannerSettings :=
  { scannedTwo with pair := { fiftyDollars with minHoldSeconds := 2 } }

/-- A pass, an iteration with an evaluation before an order, and a restart. -/
def beforeHold : List CandidateEvent :=
  [.scan thinPass, .take, .check "BTCUSDT" ⟨2000, .empty, thinAsk⟩, .restart]

/-- The pass two seconds after the first one, over the same markets. -/
def laterPass : ScannerPass :=
  { thinPass with readings := fun k => { thinPass.readings k with nowMs := 3000 } }

/-- The first pass selects nothing, the one after the hold the symbol that has passed it. -/
theorem thin_ask_held :
    (run (Candidates.step heldTwo) [.scan thinPass] (start heldTwo .empty)).activeSymbols = [] ∧
      (history heldTwo (beforeHold ++ [.scan laterPass]) (start heldTwo .empty)).length = 5 ∧
      ∃ scanned, Selection heldTwo
        (history heldTwo (beforeHold ++ [.scan laterPass]) (start heldTwo .empty))
        ["BTCUSDT", "ETHUSDT"] scanned ["BTCUSDT"] := by
  have hsome : (evaluated heldTwo laterPass
      (run (Candidates.step heldTwo) beforeHold (start heldTwo .empty))).1.isSome = true := by
    decide +kernel
  obtain ⟨scanned, hscan⟩ := Option.isSome_iff_exists.mp hsome
  have hactive : (run (Candidates.step heldTwo) (beforeHold ++ [.scan laterPass])
      (start heldTwo .empty)).activeSymbols = ["BTCUSDT"] := by decide +kernel
  have hselected := (scanner_selects_best_held heldTwo .empty beforeHold laterPass scanned rfl rfl
    ⟨by decide +kernel, by decide +kernel⟩ hscan).2
  rw [hactive] at hselected
  exact ⟨by decide +kernel, by decide +kernel, scanned, hselected⟩

/-- After a pass of any run, and until symbols are selected or activated again, the strategy quotes
the selection of the pass if and only if it is not empty or at most one iteration of the trading
loop has begun since. -/
theorem selection_respected_iff (x : ScannerSettings) (state : MarketState)
    (events later : List CandidateEvent) (p : ScannerPass) (scanned : List ScannedSymbol)
    (c : StrategyConfig) (v : TradingView) (hconfig : x.config.symbols ≠ [])
    (henabled : x.scannerEnabled = true) (hstrategy : c.scannerEnabled = true)
    (hraises : p.raises = false)
    (hscan : (evaluated x p (run (Candidates.step x) events (start x state))).1 = some scanned)
    (hbetween : ∀ event ∈ later, IsBetween event)
    (hactive : v.activeSymbols =
      (run (Candidates.step x) (events ++ .scan p :: later) (start x state)).activeSymbols)
    (hready : v.scannerReady =
      (run (Candidates.step x) (events ++ .scan p :: later) (start x state)).scannerReady) :
    c.symbolsOf v =
        x.selectSymbols (run (Candidates.step x) events (start x state)).symbols scanned ↔
      x.selectSymbols (run (Candidates.step x) events (start x state)).symbols scanned ≠ [] ∨
        later.countP isTake ≤ 1 := by
  have hhanded := (handed_scan (x := x) (symbols_run_ne_nil hconfig state events) hscan hraises).run
    hconfig henabled hbetween
  have hrun : run (Candidates.step x) (events ++ .scan p :: later) (start x state) =
      run (Candidates.step x) later
        ((run (Candidates.step x) events (start x state)).scan x p) := by
    rw [run_append, run_cons]
    exact congrArg (run (Candidates.step x) later) (if_pos henabled)
  rw [Nat.zero_add, ← hrun] at hhanded
  have hsymbols : c.symbolsOf v =
      (run (Candidates.step x) (events ++ .scan p :: later) (start x state)).activeSymbols := by
    unfold StrategyConfig.symbolsOf
    rw [if_pos (.inl ⟨hstrategy, hready.trans hhanded.ready⟩), hactive]
  rw [hsymbols]
  constructor
  · intro hquoted
    by_contra hboth
    obtain ⟨hempty, hmany⟩ := not_or.mp hboth
    have hnone := not_not.mp hempty
    exact hhanded.filled (by omega) hnone (hquoted.trans hnone)
  · exact fun hkept => hhanded.kept hkept.symm

/-- Nothing passes. -/
def quietPass : ScannerPass := passOver fun _ => quietMarket

/-- What a strategy reads of the candidates, with nothing else known. -/
def Candidates.view (u : Candidates) : TradingView where
  paused := false
  activeSymbols := u.activeSymbols
  scannerReady := u.scannerReady
  orderbook := u.client.state.orderbooks.get?
  pairFilter := fun _ => none
  activeProfileId := u.activeProfiles.get?
  tickSize := u.client.state.symbolTickSize.get?
  clock := 0
  hex := fun _ => ""

/-- An empty selection is quoted once. -/
theorem empty_selection_refilled :
    (run (Candidates.step scannedTwo) [.scan quietPass]
        (start scannedTwo .empty)).activeSymbols = [] ∧
      (StrategyConfig.default ["BTCUSDT", "ETHUSDT"]).symbolsOf
        (run (Candidates.step scannedTwo) [.scan quietPass, .take, .take]
          (start scannedTwo .empty)).view ≠ [] := by
  have hsome : (evaluated scannedTwo quietPass (start scannedTwo .empty)).1.isSome = true := by
    decide +kernel
  obtain ⟨scanned, hscan⟩ := Option.isSome_iff_exists.mp hsome
  have hactive : (run (Candidates.step scannedTwo) [.scan quietPass]
      (start scannedTwo .empty)).activeSymbols = [] := by decide +kernel
  have hnone : scannedTwo.selectSymbols (start scannedTwo .empty).symbols scanned = [] :=
    (scan_of_scanned hscan rfl).1.symm.trans hactive
  refine ⟨hactive, fun hquoted => ?_⟩
  have hrespected := (selection_respected_iff scannedTwo .empty [] [.take, .take] quietPass scanned
    (.default ["BTCUSDT", "ETHUSDT"]) _ (List.cons_ne_nil _ _) rfl rfl rfl hscan
    (by simp [IsBetween]) rfl rfl).mp (hquoted.trans hnone.symm)
  rcases hrespected with hsome | hfew
  · exact hsome hnone
  · exact absurd hfew (by decide)

end Botik
