import Botik.Execution.ReconciliationService

/-!
# What a reconciliation run does, phase by phase

Issues are only opened while a run looks at the exchange; the sweep at its end closes some of
them. `Raised` says which entry locks a phase opens and remembers, and leaves the other
tables open; what the phases do to these is said table by table.

## Main definitions

* `OpenIssue`, `Raised` — the open entry locks, and those a phase raises
* `orphanedOrders`, `orderConflicts`, `positionConflicts` — what a run detects

## Main results

* `raised_reconcileWallet`, `raised_reconcileListedOrders`, `raised_reconcileFills`,
  `raised_reconcileListedPositions`
* `body_cases` — a run stops before the positions, or passes all phases
-/

namespace Botik

open Program OpenItems

/-! ### Parts of the tables -/

/-- The tables the wallet is written to. -/
def walletPart (w : World) : Dict (String × String) BalanceRow × Dict HoldingKey HoldingRow :=
  (w.spot.balances, w.spot.holdings)

/-- The tables the open orders are compared with and written to. -/
def orderPart (w : World) :
    List OrderRow × Dict OrderLink FuturesOrderRow × Dict OrderLink SpotOrderRow :=
  (w.legacy.orders, w.futures.openOrders, w.spot.orders)

/-- The tables the positions are compared with and written to. -/
def positionPart (w : World) : Dict PositionKey PositionRow × Dict PositionKey ProtectionRow :=
  (w.futures.positions, w.futures.protections)

/-- What every round of a loop leaves alone, the loop leaves alone. -/
theorem foldl_keeps {ι τ : Type} {g : ReconState → ι → ReconState} {f : World → τ}
    (h : ∀ s i, f (g s i).world = f s.world) (is : List ι) (s : ReconState) :
    f (is.foldl g s).world = f s.world := by
  induction is generalizing s with
  | nil => rfl
  | cons i is ih => rw [List.foldl_cons, ih, h]

/-- What the summary says about the run as a whole: its status and the two checks. -/
def ReconSummary.flags (summary : ReconSummary) : String × Bool × Bool :=
  (summary.status, summary.openOrdersChecked, summary.futuresPositionsChecked)

theorem foldl_keeps_flags {ι : Type} {g : ReconState → ι → ReconState}
    (h : ∀ s i, (g s i).summary.flags = s.summary.flags) (is : List ι) (s : ReconState) :
    (is.foldl g s).summary.flags = s.summary.flags := by
  induction is generalizing s with
  | nil => rfl
  | cons i is ih => rw [List.foldl_cons, ih, h]

/-- What is collected from the selected elements. -/
theorem flatMap_ite_singleton {α β : Type} (p : α → Prop) [DecidablePred p] (f : α → β)
    (l : List α) : (l.flatMap fun a => if p a then [f a] else []) = (l.filter p).map f := by
  induction l with
  | nil => rfl
  | cons a l ih =>
    rw [List.flatMap_cons, ih]
    by_cases h : p a <;> simp [h]

/-! ### Open issues -/

/-- Some issue is open under the key. -/
def OpenIssue (key : IssueKey) (db : CoreStore) : Prop :=
  OpenUnder IssueRow.isOpen IssueRow.key db.issues key

/-- No key has two open issues. -/
def SingleIssues (db : CoreStore) : Prop := SingleOpen IssueRow.isOpen IssueRow.key db.issues

/-- The stored symbols of open issues are as `_issue_once` spells them. -/
def SpelledIssues (db : CoreStore) : Prop :=
  ∀ n row, db.issues.get? n = some row → row.isOpen = true →
    readSymbol row.symbol = row.symbol.getD ""

section Issue

variable {info : RunInfo} {key : IssueKey} {severity : String} {db : CoreStore}

@[simp] theorem isOpen_newIssue : (newIssue info key severity).isOpen = true := by
  have hopen : Text.lower "open" ∈ ["open", "active"] := by decide +kernel
  exact decide_eq_true hopen

@[simp] theorem key_newIssue : (newIssue info key severity).key = key := by
  obtain ⟨issueType, domain, symbol⟩ := key
  unfold newIssue IssueRow.key
  by_cases h : symbol = "" <;> simp [h]

/-- `_issue_once` raises the key. -/
theorem issues_openOnce : (openOnce info key severity db).2.issues =
    raise IssueRow.isOpen IssueRow.key (newIssue info key severity) db.issues := by
  unfold openOnce raise
  rw [key_newIssue]
  cases openNumber IssueRow.isOpen IssueRow.key db.issues key <;> rfl

/-- Issues keep their place when one is raised. -/
theorem get?_openOnce {n : ℕ} {row : IssueRow} (h : db.issues.get? n = some row) :
    (openOnce info key severity db).2.issues.get? n = some row := by
  rw [issues_openOnce]
  exact get?_raise_of_get? h

theorem SingleIssues.openOnce (h : SingleIssues db) :
    SingleIssues (openOnce info key severity db).2 := by
  unfold SingleIssues
  rw [issues_openOnce]
  exact SingleOpen.raise h _

theorem openIssue_openOnce {k : IssueKey} :
    OpenIssue k (openOnce info key severity db).2 ↔ k = key ∨ OpenIssue k db := by
  unfold OpenIssue
  rw [issues_openOnce, openUnder_raise isOpen_newIssue, key_newIssue]

theorem readSymbol_readSymbol (field : Option String) :
    readSymbol (some (readSymbol field)) = readSymbol field := by
  have hupper : Text.upper (readSymbol field) = readSymbol field := by
    unfold readSymbol
    rw [Text.upper_strip, Text.upper_upper]
  change Text.strip (Text.upper (readSymbol field)) = readSymbol field
  rw [hupper]
  exact Text.strip_strip _

theorem SpelledIssues.openOnce (h : SpelledIssues db)
    (hkey : readSymbol (some key.2.2) = key.2.2) :
    SpelledIssues (openOnce info key severity db).2 := by
  intro n row hget hopen
  rw [issues_openOnce] at hget
  by_cases hunder : OpenUnder IssueRow.isOpen IssueRow.key db.issues
      (newIssue info key severity).key
  · rw [raise_of_openUnder hunder] at hget
    exact h n row hget hopen
  rw [raise_of_not_openUnder hunder, Dict.get?_set] at hget
  split_ifs at hget with hn
  · obtain rfl := Option.some.inj hget
    unfold newIssue
    by_cases hempty : key.2.2 = ""
    · simp only [hempty, if_true, Option.getD_none]
      decide +kernel
    · simp only [hempty, if_false, Option.getD_some]
      exact hkey
  · exact h n row hget hopen

end Issue

/-! ### What a phase raises -/

/-- A phase that raises the entry locks `ks`, remembers those with a symbol, and closes no
issue. -/
structure Raised (ks : List IssueKey) (s s' : ReconState) : Prop where
  opens : ∀ k : IssueKey, k.1.isEntryLock = true →
    (OpenIssue k s'.world.core ↔ k ∈ ks ∨ OpenIssue k s.world.core)
  active : ∀ k : IssueKey, k ∈ s'.activeLockIssueKeys ↔
    k ∈ ks ∧ k.2.2 ≠ "" ∨ k ∈ s.activeLockIssueKeys
  single : SingleIssues s.world.core → SingleIssues s'.world.core
  spelled : SpelledIssues s.world.core → SpelledIssues s'.world.core
  stays : ∀ n row, s.world.core.issues.get? n = some row → s'.world.core.issues.get? n = some row

section Raised

variable {ks ls : List IssueKey} {s s' s'' : ReconState}

/-- Whatever leaves the issues and the remembered keys alone raises nothing. -/
theorem Raised.of_eq (hissues : s'.world.core.issues = s.world.core.issues)
    (hactive : s'.activeLockIssueKeys = s.activeLockIssueKeys) : Raised [] s s' where
  opens := fun k _ => by simp only [OpenIssue, hissues, List.not_mem_nil, false_or]
  active := fun k => by simp only [hactive, List.not_mem_nil, false_and, false_or]
  single := fun h => by rwa [SingleIssues, hissues]
  spelled := fun h => by rwa [SpelledIssues, hissues]
  stays := fun n row h => by rwa [hissues]

theorem Raised.refl (s : ReconState) : Raised [] s s := Raised.of_eq rfl rfl

theorem Raised.trans (h : Raised ks s s') (h' : Raised ls s' s'') : Raised (ks ++ ls) s s'' where
  opens := fun k hk => by
    rw [h'.opens k hk, h.opens k hk, List.mem_append]
    tauto
  active := fun k => by
    rw [h'.active k, h.active k, List.mem_append]
    tauto
  single := fun hs => h'.single (h.single hs)
  spelled := fun hs => h'.spelled (h.spelled hs)
  stays := fun n row hget => h'.stays n row (h.stays n row hget)

theorem Raised.trans_nil (h : Raised ks s s') (h' : Raised [] s' s'') : Raised ks s s'' := by
  have := h.trans h'
  rwa [List.append_nil] at this

theorem Raised.nil_trans (h : Raised [] s s') (h' : Raised ks s' s'') : Raised ks s s'' :=
  h.trans h'

/-- A loop raises what its rounds raise. -/
theorem raised_foldl {ι : Type} {g : ReconState → ι → ReconState} {ks : ι → List IssueKey}
    (h : ∀ s i, Raised (ks i) s (g s i)) (is : List ι) (s : ReconState) :
    Raised (is.flatMap ks) s (is.foldl g s) := by
  induction is generalizing s with
  | nil => exact Raised.refl s
  | cons i is ih => exact (h s i).trans (ih (g s i))

theorem raised_foldl_nil {ι : Type} {g : ReconState → ι → ReconState}
    (h : ∀ s i, Raised [] s (g s i)) (is : List ι) (s : ReconState) :
    Raised [] s (is.foldl g s) := by
  have hall : Raised (is.flatMap fun _ => []) s (is.foldl g s) := raised_foldl h is s
  have hnil : is.flatMap (fun _ => ([] : List IssueKey)) = [] :=
    List.flatMap_eq_nil_iff.mpr fun _ _ => rfl
  rwa [hnil] at hall

theorem raised_count (f : ReconSummary → ReconSummary) (s : ReconState) : Raised [] s (s.count f) :=
  Raised.of_eq rfl rfl

theorem raised_mapWorld {f : World → World} (h : ∀ w, (f w).core.issues = w.core.issues)
    (s : ReconState) : Raised [] s (s.mapWorld f) := Raised.of_eq (h s.world) rfl

end Raised

section Report

variable {info : RunInfo} {issueType : IssueType} {domain severity eventType : String}
  {symbol : Option String} {s : ReconState}

theorem mem_rememberLock {k key : IssueKey} {keys : List IssueKey} :
    k ∈ rememberLock key keys ↔
      k = key ∧ key.1.isEntryLock = true ∧ key.2.2 ≠ "" ∨ k ∈ keys := by
  unfold rememberLock
  split_ifs with hlock hmem
  · constructor
    · exact Or.inr
    · rintro (⟨rfl, -⟩ | h)
      · exact hmem
      · exact h
  · rw [List.mem_append, List.mem_singleton]
    tauto
  · tauto

theorem active_reportIssue :
    (reportIssue info issueType domain severity symbol eventType s).activeLockIssueKeys =
      rememberLock (issueType, domain, readSymbol symbol) s.activeLockIssueKeys := rfl

/-- An issue of an entry lock raises its key. -/
theorem raised_reportIssue (hlock : issueType.isEntryLock = true) :
    Raised [(issueType, domain, readSymbol symbol)] s
      (reportIssue info issueType domain severity symbol eventType s) where
  opens := fun k _ => by
    rw [List.mem_singleton]
    exact openIssue_openOnce
  active := fun k => by
    rw [active_reportIssue, mem_rememberLock, List.mem_singleton]
    constructor
    · rintro (⟨rfl, -, hne⟩ | h)
      · exact Or.inl ⟨rfl, hne⟩
      · exact Or.inr h
    · rintro (⟨rfl, hne⟩ | h)
      · exact Or.inl ⟨rfl, hlock, hne⟩
      · exact Or.inr h
  single := SingleIssues.openOnce
  spelled := fun h => h.openOnce (readSymbol_readSymbol symbol)
  stays := fun _ _ => get?_openOnce

/-- An issue of another type raises no lock. -/
theorem raised_reportIssue_other (hlock : issueType.isEntryLock = false) :
    Raised [] s (reportIssue info issueType domain severity symbol eventType s) where
  opens := fun k hk => by
    have hne : k ≠ (issueType, domain, readSymbol symbol) := fun h => by
      rw [h, hlock] at hk
      cases hk
    have hopens : OpenIssue k
        (reportIssue info issueType domain severity symbol eventType s).world.core ↔
          k = (issueType, domain, readSymbol symbol) ∨ OpenIssue k s.world.core :=
      openIssue_openOnce
    rw [hopens]
    simp only [hne, false_or, List.not_mem_nil]
  active := fun k => by
    rw [active_reportIssue, mem_rememberLock]
    simp only [hlock, Bool.false_eq_true, false_and, and_false, false_or, List.not_mem_nil]
  single := SingleIssues.openOnce
  spelled := fun h => h.openOnce (readSymbol_readSymbol symbol)
  stays := fun _ _ => get?_openOnce

theorem Raised.report_other {ks : List IssueKey} {s₀ : ReconState} (h : Raised ks s₀ s)
    (hlock : issueType.isEntryLock = false) :
    Raised ks s₀ (reportIssue info issueType domain severity symbol eventType s) :=
  h.trans_nil (raised_reportIssue_other hlock)

end Report

/-! ### The wallet -/

section Wallet

variable (svc : ReconciliationService) (info : RunInfo)

theorem raised_importBalance (locals : List (HoldingKey × HoldingRow)) (coin : WalletCoin)
    (s : ReconState) : Raised [] s (importBalance svc info locals coin s) := by
  unfold importBalance
  split_ifs
  · exact Raised.of_eq rfl rfl
  · refine Raised.trans_nil (Raised.report_other ?_ rfl) (raised_count _ _)
    exact Raised.of_eq rfl rfl
  · exact Raised.refl s

theorem raised_markStale (seen : List String) (s : ReconState) (e : HoldingKey × HoldingRow) :
    Raised [] s (markStale svc info seen s e) := by
  unfold markStale
  split_ifs
  · refine Raised.report_other ?_ rfl
    exact Raised.of_eq rfl rfl
  · exact Raised.refl s

/-- The wallet raises no entry lock. -/
theorem raised_reconcileWallet (answer : ListReply WalletCoin) (s : ReconState) :
    Raised [] s (reconcileWallet svc info answer s) := by
  unfold reconcileWallet
  split_ifs
  · exact (raised_foldl_nil (fun s coin => raised_importBalance svc info _ coin s) _ s).trans_nil
      (raised_foldl_nil (raised_markStale svc info _) _ _)
  · exact raised_reportIssue_other rfl

/-- The wallet is written to balances and holdings only. -/
theorem parts_reconcileWallet (answer : ListReply WalletCoin) (s : ReconState) :
    orderPart (reconcileWallet svc info answer s).world = orderPart s.world ∧
      positionPart (reconcileWallet svc info answer s).world = positionPart s.world := by
  have hcoin : ∀ locals s coin,
      orderPart (importBalance svc info locals coin s).world = orderPart s.world ∧
        positionPart (importBalance svc info locals coin s).world = positionPart s.world := by
    intro locals s coin
    unfold importBalance
    split_ifs <;> exact ⟨rfl, rfl⟩
  have hstale : ∀ seen s e,
      orderPart (markStale svc info seen s e).world = orderPart s.world ∧
        positionPart (markStale svc info seen s e).world = positionPart s.world := by
    intro seen s e
    unfold markStale
    split_ifs <;> exact ⟨rfl, rfl⟩
  unfold reconcileWallet
  split_ifs
  · unfold reconcileCoins
    dsimp only
    rw [foldl_keeps fun s e => (hstale _ s e).1, foldl_keeps fun s coin => (hcoin _ s coin).1,
      foldl_keeps fun s e => (hstale _ s e).2, foldl_keeps fun s coin => (hcoin _ s coin).2]
    exact ⟨rfl, rfl⟩
  · exact ⟨rfl, rfl⟩

theorem flags_reconcileWallet (answer : ListReply WalletCoin) (s : ReconState) :
    (reconcileWallet svc info answer s).summary.flags = s.summary.flags := by
  have hcoin : ∀ locals s coin,
      (importBalance svc info locals coin s).summary.flags = s.summary.flags := by
    intro locals s coin
    unfold importBalance
    split_ifs <;> rfl
  have hstale : ∀ seen s e, (markStale svc info seen s e).summary.flags = s.summary.flags := by
    intro seen s e
    unfold markStale
    split_ifs <;> rfl
  unfold reconcileWallet
  split_ifs
  · unfold reconcileCoins
    dsimp only
    rw [foldl_keeps_flags (hstale _), foldl_keeps_flags (hcoin _)]
  · rfl

end Wallet

/-! ### The open orders -/

namespace ReconciliationService

/-- The tables once the listed orders are written. -/
def importOrders (svc : ReconciliationService) (info : RunInfo) (orders : List OpenOrderItem)
    (w : World) : World :=
  orders.foldl (fun w order => svc.importOrder info order w) w

/-- The symbols of the listed orders that are unknown when they are reached; those before are
in the table by then. -/
def orphanedOrders (svc : ReconciliationService) (info : RunInfo) :
    List OpenOrderItem → World → List String
  | [], _ => []
  | order :: orders, w =>
    (if svc.isOrphanedOrder order w then [order.symbolU] else []) ++
      orphanedOrders svc info orders (svc.importOrder info order w)

/-- The conflicts between the listed orders and the stored ones. -/
def orderConflicts (svc : ReconciliationService) (info : RunInfo) (orders : List OpenOrderItem)
    (w : World) : List IssueKey :=
  ((svc.orphanedOrders info (namedOrders orders) w).map fun symbol =>
      (IssueType.orphanedExchangeOrder, svc.orderDomain, symbol)) ++
    (svc.missingOrders orders (svc.importOrders info (namedOrders orders) w)).map fun e =>
      (IssueType.localOrderMissingOnExchange, svc.orderDomain, readSymbol (some e.2.symbol))

end ReconciliationService

section Orders

variable (svc : ReconciliationService) (info : RunInfo) {w w' : World} {s : ReconState}

theorem domainOrders_congr (h : orderPart w' = orderPart w) :
    svc.domainOrders w' = svc.domainOrders w := by
  obtain ⟨-, hfutures, hspot⟩ := Prod.ext_iff.mp h |>.imp id Prod.ext_iff.mp
  unfold ReconciliationService.domainOrders
  have hf : w'.futures.openOrders = w.futures.openOrders := hfutures
  have hs : w'.spot.orders = w.spot.orders := hspot
  rw [hf, hs]

theorem isOrphanedOrder_congr (h : orderPart w' = orderPart w) (order : OpenOrderItem) :
    svc.isOrphanedOrder order w' = svc.isOrphanedOrder order w := by
  have hlegacy : w'.legacy.orders = w.legacy.orders := congrArg Prod.fst h
  unfold ReconciliationService.isOrphanedOrder
  rw [hlegacy, domainOrders_congr svc h]

theorem importOrder_congr (h : orderPart w' = orderPart w) (order : OpenOrderItem) :
    orderPart (svc.importOrder info order w') = orderPart (svc.importOrder info order w) := by
  have hlegacy : w'.legacy.orders = w.legacy.orders := congrArg Prod.fst h
  have hfutures : w'.futures.openOrders = w.futures.openOrders := congrArg (fun t => t.2.1) h
  have hspot : w'.spot.orders = w.spot.orders := congrArg (fun t => t.2.2) h
  unfold ReconciliationService.importOrder orderPart FuturesStore.upsertFuturesOpenOrder
    SpotStore.upsertSpotOrder
  cases svc.marketCategory <;> simp only [hlegacy, hfutures, hspot]

/-- Orders without a symbol are passed over. -/
theorem foldl_reconcileOrder_named (orders : List OpenOrderItem) (s : ReconState) :
    orders.foldl (svc.reconcileOrder info) s =
      (namedOrders orders).foldl (svc.reconcileOrder info) s := by
  induction orders generalizing s with
  | nil => rfl
  | cons order orders ih =>
    rw [List.foldl_cons, ih]
    by_cases hsymbol : order.symbolU = ""
    · have hskip : svc.reconcileOrder info s order = s := by
        unfold ReconciliationService.reconcileOrder
        rw [if_pos hsymbol]
      have hnamed : namedOrders (order :: orders) = namedOrders orders :=
        List.filter_cons_of_neg (by simpa using hsymbol)
      rw [hskip, hnamed]
    · have hnamed : namedOrders (order :: orders) = order :: namedOrders orders :=
        List.filter_cons_of_pos (by simpa using hsymbol)
      rw [hnamed, List.foldl_cons]

theorem issues_importOrder (order : OpenOrderItem) (w : World) :
    (svc.importOrder info order w).core.issues = w.core.issues := by
  unfold ReconciliationService.importOrder
  cases svc.marketCategory <;> rfl

/-- An unknown order raises its symbol. -/
theorem raised_reportOrphanedOrder (order : OpenOrderItem) (s : ReconState) :
    Raised (if svc.isOrphanedOrder order s.world then
        [(.orphanedExchangeOrder, svc.orderDomain, order.symbolU)] else [])
      s (svc.reportOrphanedOrder info order s) := by
  unfold ReconciliationService.reportOrphanedOrder
  split_ifs
  · have hraised : Raised [(.orphanedExchangeOrder, svc.orderDomain,
        readSymbol (some order.symbolU))] s
        (reportIssue info .orphanedExchangeOrder svc.orderDomain "warning"
          (some order.symbolU) "imported_orphaned_order" s) := raised_reportIssue rfl
    have hkey : readSymbol (some order.symbolU) = order.symbolU :=
      readSymbol_readSymbol order.symbol
    rw [hkey] at hraised
    exact hraised.trans_nil (raised_count _ _)
  · exact Raised.refl s

theorem orderPart_reportOrphanedOrder (order : OpenOrderItem) (s : ReconState) :
    orderPart (svc.reportOrphanedOrder info order s).world = orderPart s.world := by
  unfold ReconciliationService.reportOrphanedOrder
  split_ifs <;> rfl

/-- One listed order is written, and raises its symbol if it is unknown. -/
theorem reconcileOrder_named {order : OpenOrderItem} (hsymbol : order.symbolU ≠ "")
    (h : orderPart s.world = orderPart w) :
    Raised (if svc.isOrphanedOrder order w then
        [(.orphanedExchangeOrder, svc.orderDomain, order.symbolU)] else [])
        s (svc.reconcileOrder info s order) ∧
      orderPart (svc.reconcileOrder info s order).world =
        orderPart (svc.importOrder info order w) := by
  unfold ReconciliationService.reconcileOrder
  rw [if_neg hsymbol]
  generalize hs' : (s.count fun summary =>
    { summary with ordersSeen := summary.ordersSeen + 1 }) = s'
  have hcounted : Raised [] s s' := hs' ▸ raised_count _ s
  have hpart : orderPart s'.world = orderPart w := by
    rw [← hs']
    exact h
  have hraised := raised_reportOrphanedOrder svc info order s'
  rw [isOrphanedOrder_congr svc hpart] at hraised
  constructor
  · exact (hcounted.nil_trans hraised).trans_nil
      (raised_mapWorld (issues_importOrder svc info order) _)
  · exact importOrder_congr svc info
      ((orderPart_reportOrphanedOrder svc info order s').trans hpart) order

theorem importOrders_cons (order : OpenOrderItem) (orders : List OpenOrderItem) (w : World) :
    svc.importOrders info (order :: orders) w =
      svc.importOrders info orders (svc.importOrder info order w) := rfl

/-- The listed orders are written one after the other, and raise the unknown symbols. -/
theorem raised_importOrders (orders : List OpenOrderItem)
    (hnamed : ∀ order ∈ orders, order.symbolU ≠ "") (h : orderPart s.world = orderPart w) :
    Raised ((svc.orphanedOrders info orders w).map fun symbol =>
        (.orphanedExchangeOrder, svc.orderDomain, symbol))
        s (orders.foldl (svc.reconcileOrder info) s) ∧
      orderPart (orders.foldl (svc.reconcileOrder info) s).world =
        orderPart (svc.importOrders info orders w) := by
  induction orders generalizing s w with
  | nil => exact ⟨Raised.refl s, h⟩
  | cons order orders ih =>
    obtain ⟨hsymbol, hnamed⟩ := List.forall_mem_cons.mp hnamed
    obtain ⟨hraised, hpart⟩ := reconcileOrder_named svc info hsymbol h
    obtain ⟨hrest, hend⟩ := ih hnamed hpart
    rw [List.foldl_cons, importOrders_cons, ReconciliationService.orphanedOrders, List.map_append]
    refine ⟨Raised.trans ?_ hrest, hend⟩
    split_ifs at hraised ⊢
    · exact hraised
    · exact hraised

/-- A stored order that is open but not listed raises its symbol. -/
theorem raised_reportMissingOrder (s : ReconState) (e : OrderLink × DomainOrderRow) :
    Raised [(.localOrderMissingOnExchange, svc.orderDomain, readSymbol (some e.2.symbol))] s
      (svc.reportMissingOrder info s e) := by
  have hissues : ∀ w, (svc.markMissing e.1 w).core.issues = w.core.issues := by
    intro w
    unfold ReconciliationService.markMissing
    cases svc.marketCategory <;> rfl
  exact (raised_mapWorld hissues s).nil_trans (raised_reportIssue rfl)

/-- The open orders are written to the order tables only. -/
theorem parts_reconcileListedOrders (orders : List OpenOrderItem) (s : ReconState) :
    walletPart (svc.reconcileListedOrders info orders s).world = walletPart s.world ∧
      positionPart (svc.reconcileListedOrders info orders s).world = positionPart s.world := by
  have himport : ∀ order w, walletPart (svc.importOrder info order w) = walletPart w ∧
      positionPart (svc.importOrder info order w) = positionPart w := by
    intro order w
    unfold ReconciliationService.importOrder
    cases svc.marketCategory <;> exact ⟨rfl, rfl⟩
  have horphan : ∀ order s,
      walletPart (svc.reportOrphanedOrder info order s).world = walletPart s.world ∧
        positionPart (svc.reportOrphanedOrder info order s).world = positionPart s.world := by
    intro order s
    unfold ReconciliationService.reportOrphanedOrder
    split_ifs <;> exact ⟨rfl, rfl⟩
  have horder : ∀ s order,
      walletPart (svc.reconcileOrder info s order).world = walletPart s.world ∧
        positionPart (svc.reconcileOrder info s order).world = positionPart s.world := by
    intro s order
    unfold ReconciliationService.reconcileOrder
    split_ifs
    · exact ⟨rfl, rfl⟩
    · exact ⟨(himport order _).1.trans (horphan order _).1,
        (himport order _).2.trans (horphan order _).2⟩
  have hmissing : ∀ s e,
      walletPart (svc.reportMissingOrder info s e).world = walletPart s.world ∧
        positionPart (svc.reportMissingOrder info s e).world = positionPart s.world := by
    intro s e
    unfold ReconciliationService.reportMissingOrder ReconciliationService.markMissing
    cases svc.marketCategory <;> exact ⟨rfl, rfl⟩
  unfold ReconciliationService.reconcileListedOrders
  dsimp only
  rw [foldl_keeps fun s e => (hmissing s e).1, foldl_keeps fun s order => (horder s order).1,
    foldl_keeps fun s e => (hmissing s e).2, foldl_keeps fun s order => (horder s order).2]
  exact ⟨rfl, rfl⟩

/-- The open orders are checked. -/
theorem flags_reconcileListedOrders (orders : List OpenOrderItem) (s : ReconState) :
    (svc.reconcileListedOrders info orders s).summary.flags =
      (s.summary.status, true, s.summary.futuresPositionsChecked) := by
  have horder : ∀ s order, (svc.reconcileOrder info s order).summary.flags = s.summary.flags := by
    intro s order
    unfold ReconciliationService.reconcileOrder ReconciliationService.reportOrphanedOrder
    split_ifs <;> rfl
  have hmissing : ∀ s e, (svc.reportMissingOrder info s e).summary.flags = s.summary.flags :=
    fun _ _ => rfl
  unfold ReconciliationService.reconcileListedOrders
  dsimp only
  rw [foldl_keeps_flags hmissing, foldl_keeps_flags horder]
  rfl

/-- The open orders raise their conflicts with the stored ones. -/
theorem raised_reconcileListedOrders (orders : List OpenOrderItem)
    (h : orderPart s.world = orderPart w) :
    Raised (svc.orderConflicts info orders w) s (svc.reconcileListedOrders info orders s) := by
  unfold ReconciliationService.reconcileListedOrders
  dsimp only
  generalize hs' : (s.count fun summary => { summary with openOrdersChecked := true }) = s'
  have hcounted : Raised [] s s' := hs' ▸ raised_count _ s
  have hpart : orderPart s'.world = orderPart w := by
    rw [← hs']
    exact h
  rw [foldl_reconcileOrder_named]
  obtain ⟨hraised, hend⟩ := raised_importOrders svc info (namedOrders orders)
    (fun order horder => by simpa using (List.mem_filter.mp horder).2) hpart
  have hmissing : svc.missingOrders orders
      ((namedOrders orders).foldl (svc.reconcileOrder info) s').world =
        svc.missingOrders orders (svc.importOrders info (namedOrders orders) w) := by
    unfold ReconciliationService.missingOrders
    rw [domainOrders_congr svc hend]
  rw [hmissing]
  have hloop := raised_foldl (raised_reportMissingOrder svc info)
    (svc.missingOrders orders (svc.importOrders info (namedOrders orders) w))
    ((namedOrders orders).foldl (svc.reconcileOrder info) s')
  rw [← List.map_eq_flatMap] at hloop
  exact (hcounted.nil_trans hraised).trans hloop

end Orders

/-! ### The executions -/

section Fills

variable (svc : ReconciliationService)

theorem tables_mirrorFunding (symbol : String) (item : FundingItem) (db : FuturesStore) :
    (svc.mirrorFunding symbol item db).2.positions = db.positions ∧
      (svc.mirrorFunding symbol item db).2.protections = db.protections ∧
      (svc.mirrorFunding symbol item db).2.openOrders = db.openOrders := by
  unfold ReconciliationService.mirrorFunding FuturesStore.insertFuturesFundingEvent
  dsimp only
  split_ifs <;> exact ⟨rfl, rfl, rfl⟩

/-- A mirrored execution goes to the fills and the funding events only. -/
theorem parts_mirrorFill (symbol execId : String) (item : FundingItem) (s : ReconState) :
    walletPart (svc.mirrorFill symbol execId item s).world = walletPart s.world ∧
      orderPart (svc.mirrorFill symbol execId item s).world = orderPart s.world ∧
      positionPart (svc.mirrorFill symbol execId item s).world = positionPart s.world := by
  unfold ReconciliationService.mirrorFill
  cases svc.marketCategory with
  | spot => exact ⟨rfl, rfl, rfl⟩
  | linear =>
    dsimp only
    obtain ⟨hpositions, hprotections, hopen⟩ := tables_mirrorFunding svc symbol item
      (s.world.futures.insertFuturesFill execId (ReconciliationService.fillRow symbol item))
    generalize svc.mirrorFunding symbol item _ = funding at *
    exact ⟨rfl, congrArg (fun orders => (s.world.legacy.orders, orders, s.world.spot.orders))
      hopen, Prod.ext hpositions hprotections⟩

theorem raised_mirrorFill (symbol execId : String) (item : FundingItem) (s : ReconState) :
    Raised [] s (svc.mirrorFill symbol execId item s) := by
  unfold ReconciliationService.mirrorFill
  cases svc.marketCategory with
  | spot => exact Raised.of_eq rfl rfl
  | linear =>
    dsimp only
    generalize svc.mirrorFunding symbol item _ = funding
    exact Raised.of_eq rfl rfl

theorem raised_reconcileFill (symbol : String) (s : ReconState) (item : FundingItem) :
    Raised [] s (svc.reconcileFill symbol s item) := by
  unfold ReconciliationService.reconcileFill
  dsimp only
  split_ifs
  · exact Raised.refl s
  · exact (raised_mirrorFill svc symbol _ item s).trans_nil (raised_count _ _)

theorem raised_reconcileSymbolFills (symbol : String) (answer : ListReply FundingItem)
    (s : ReconState) : Raised [] s (svc.reconcileSymbolFills symbol answer s) := by
  unfold ReconciliationService.reconcileSymbolFills
  split_ifs
  · exact raised_foldl_nil (raised_reconcileFill svc symbol) _ s
  · exact Raised.refl s

/-- Executions are written to the fills and the funding events only. -/
theorem parts_reconcileSymbolFills (symbol : String) (answer : ListReply FundingItem)
    (s : ReconState) :
    walletPart (svc.reconcileSymbolFills symbol answer s).world = walletPart s.world ∧
      orderPart (svc.reconcileSymbolFills symbol answer s).world = orderPart s.world ∧
      positionPart (svc.reconcileSymbolFills symbol answer s).world = positionPart s.world := by
  have hfill : ∀ s item,
      walletPart (svc.reconcileFill symbol s item).world = walletPart s.world ∧
        orderPart (svc.reconcileFill symbol s item).world = orderPart s.world ∧
        positionPart (svc.reconcileFill symbol s item).world = positionPart s.world := by
    intro s item
    unfold ReconciliationService.reconcileFill
    dsimp only
    split_ifs
    · exact ⟨rfl, rfl, rfl⟩
    · exact parts_mirrorFill svc symbol _ item s
  unfold ReconciliationService.reconcileSymbolFills
  split_ifs
  · rw [foldl_keeps fun s item => (hfill s item).1, foldl_keeps fun s item => (hfill s item).2.1,
      foldl_keeps fun s item => (hfill s item).2.2]
    exact ⟨rfl, rfl, rfl⟩
  · exact ⟨rfl, rfl, rfl⟩

theorem flags_reconcileSymbolFills (symbol : String) (answer : ListReply FundingItem)
    (s : ReconState) :
    (svc.reconcileSymbolFills symbol answer s).summary.flags = s.summary.flags := by
  have hmirror : ∀ execId s item,
      (svc.mirrorFill symbol execId item s).summary.flags = s.summary.flags := by
    intro execId s item
    unfold ReconciliationService.mirrorFill
    cases svc.marketCategory with
    | spot => rfl
    | linear =>
      dsimp only
      generalize svc.mirrorFunding symbol item _ = funding
      rfl
  have hfill : ∀ s item, (svc.reconcileFill symbol s item).summary.flags = s.summary.flags := by
    intro s item
    unfold ReconciliationService.reconcileFill
    dsimp only
    split_ifs
    · rfl
    · exact hmirror _ s item
  unfold ReconciliationService.reconcileSymbolFills
  split_ifs
  · rw [foldl_keeps_flags hfill]
  · rfl

end Fills

/-! ### The positions -/

namespace ReconciliationService

/-- The listed positions that are not among the local ones. -/
def orphanedPositions (svc : ReconciliationService) (items : List ExchangePosition) (w : World) :
    List ExchangePosition :=
  items.filter fun item => item.isHeld ∧ item.localKey ∉ svc.localKeys w

/-- The local positions that are not listed. -/
def missingPositions (svc : ReconciliationService) (items : List ExchangePosition) (w : World) :
    List LocalKey :=
  (svc.localKeys w).filter fun key => key ∉ exchangeKeys items

/-- The conflicts between the listed positions and the stored ones. -/
def positionConflicts (svc : ReconciliationService) (items : List ExchangePosition) (w : World) :
    List IssueKey :=
  ((svc.orphanedPositions items w).map fun item =>
      (IssueType.orphanedExchangePosition, "futures", item.symbolU)) ++
    (svc.missingPositions items w).map fun key =>
      (IssueType.localPositionMissingOnExchange, "futures", readSymbol (some key.1))

end ReconciliationService

section Positions

variable (svc : ReconciliationService) (info : RunInfo) {w w' : World} {s : ReconState}

theorem localKeys_congr (h : positionPart w' = positionPart w) :
    svc.localKeys w' = svc.localKeys w := by
  have hpositions : w'.futures.positions = w.futures.positions := congrArg Prod.fst h
  unfold ReconciliationService.localKeys FuturesStore.listFuturesPositions
  rw [hpositions]

theorem raised_reportOrphanedPosition (orphaned : Bool) (item : ExchangePosition)
    (s : ReconState) :
    Raised (if orphaned then [(.orphanedExchangePosition, "futures", item.symbolU)] else []) s
      (ReconciliationService.reportOrphanedPosition info orphaned item s) := by
  unfold ReconciliationService.reportOrphanedPosition
  split_ifs
  · have hraised : Raised [(.orphanedExchangePosition, "futures", readSymbol (some item.symbolU))]
        s (reportIssue info .orphanedExchangePosition "futures" "error" (some item.symbolU)
          "imported_orphaned_position" s) := raised_reportIssue rfl
    have hkey : readSymbol (some item.symbolU) = item.symbolU := readSymbol_readSymbol item.symbol
    rw [hkey] at hraised
    exact hraised.trans_nil (raised_count _ _)
  · exact Raised.refl s

theorem raised_reportUnprotected (item : ExchangePosition) (s : ReconState) :
    Raised [] s (ReconciliationService.reportUnprotected info item s) := by
  unfold ReconciliationService.reportUnprotected
  split_ifs
  · exact raised_reportIssue_other rfl
  · exact Raised.refl s

/-- One listed position raises its symbol if it is not among the local ones. -/
theorem raised_reconcilePosition (locals : List LocalKey) (s : ReconState)
    (item : ExchangePosition) :
    Raised (if item.isHeld ∧ item.localKey ∉ locals then
        [(.orphanedExchangePosition, "futures", item.symbolU)] else [])
      s (svc.reconcilePosition info locals s item) := by
  unfold ReconciliationService.reconcilePosition
  by_cases hheld : item.isHeld = true
  · rw [if_pos hheld]
    dsimp only
    generalize hs' : ReconState.count _ (s.mapWorld _) = s'
    have hwritten : Raised [] s s' := by
      rw [← hs']
      exact Raised.of_eq rfl rfl
    have horphan := raised_reportOrphanedPosition info (decide (item.localKey ∉ locals)) item s'
    have hall := (hwritten.nil_trans horphan).trans_nil (raised_reportUnprotected info item _)
    simpa only [decide_eq_true_eq, hheld, true_and] using hall
  · rw [if_neg hheld, if_neg fun h => hheld h.1]
    exact Raised.refl s

/-- The positions raise their conflicts with the stored ones. -/
theorem raised_reconcileListedPositions (items : List ExchangePosition)
    (h : positionPart s.world = positionPart w) :
    Raised (svc.positionConflicts items w) s (svc.reconcileListedPositions info items s) := by
  unfold ReconciliationService.reconcileListedPositions
  dsimp only
  generalize hs' : (s.count fun summary => { summary with futuresPositionsChecked := true }) = s'
  have hcounted : Raised [] s s' := hs' ▸ raised_count _ s
  have hlocals : svc.localKeys s'.world = svc.localKeys w := by
    rw [← hs']
    exact localKeys_congr svc h
  rw [hlocals]
  have hlisted := raised_foldl (raised_reconcilePosition svc info (svc.localKeys w)) items s'
  have hmissing : ∀ s key, Raised [(.localPositionMissingOnExchange, "futures",
      readSymbol (some key.1))] s (ReconciliationService.reportMissingPosition info s key) :=
    fun s key => raised_reportIssue rfl
  have hloop := raised_foldl hmissing (svc.missingPositions items w)
    (items.foldl (svc.reconcilePosition info (svc.localKeys w)) s')
  have hfilter : (items.flatMap fun item => if item.isHeld ∧ item.localKey ∉ svc.localKeys w then
      [(IssueType.orphanedExchangePosition, "futures", item.symbolU)] else []) =
        (svc.orphanedPositions items w).map fun item =>
          (IssueType.orphanedExchangePosition, "futures", item.symbolU) :=
    flatMap_ite_singleton _ _ items
  rw [hfilter] at hlisted
  rw [← List.map_eq_flatMap] at hloop
  exact (hcounted.nil_trans hlisted).trans hloop

/-- The positions are written to the position tables only. -/
theorem parts_reconcileListedPositions (items : List ExchangePosition) (s : ReconState) :
    walletPart (svc.reconcileListedPositions info items s).world = walletPart s.world ∧
      orderPart (svc.reconcileListedPositions info items s).world = orderPart s.world := by
  have hitem : ∀ locals s item,
      walletPart (svc.reconcilePosition info locals s item).world = walletPart s.world ∧
        orderPart (svc.reconcilePosition info locals s item).world = orderPart s.world := by
    intro locals s item
    unfold ReconciliationService.reconcilePosition ReconciliationService.reportUnprotected
      ReconciliationService.reportOrphanedPosition
    dsimp only
    split_ifs <;> exact ⟨rfl, rfl⟩
  have hmissing : ∀ s key,
      walletPart (ReconciliationService.reportMissingPosition info s key).world =
          walletPart s.world ∧
        orderPart (ReconciliationService.reportMissingPosition info s key).world =
          orderPart s.world := fun s key => ⟨rfl, rfl⟩
  unfold ReconciliationService.reconcileListedPositions
  dsimp only
  rw [foldl_keeps fun s key => (hmissing s key).1, foldl_keeps fun s item => (hitem _ s item).1,
    foldl_keeps fun s key => (hmissing s key).2, foldl_keeps fun s item => (hitem _ s item).2]
  exact ⟨rfl, rfl⟩

/-- The positions are checked. -/
theorem flags_reconcileListedPositions (items : List ExchangePosition) (s : ReconState) :
    (svc.reconcileListedPositions info items s).summary.flags =
      (s.summary.status, s.summary.openOrdersChecked, true) := by
  have hitem : ∀ locals s item,
      (svc.reconcilePosition info locals s item).summary.flags = s.summary.flags := by
    intro locals s item
    unfold ReconciliationService.reconcilePosition ReconciliationService.reportUnprotected
      ReconciliationService.reportOrphanedPosition
    dsimp only
    split_ifs <;> rfl
  have hmissing : ∀ s key, (ReconciliationService.reportMissingPosition info s key).summary.flags =
      s.summary.flags := fun _ _ => rfl
  unfold ReconciliationService.reconcileListedPositions
  dsimp only
  rw [foldl_keeps_flags hmissing, foldl_keeps_flags (hitem _)]
  rfl

end Positions

/-! ### The sweep -/

/-- The issues the sweep resolves: those selected and not remembered. -/
def sweptIssues (rows : List (ℕ × IssueRow)) (active : List IssueKey) : List ℕ :=
  (rows.filter fun e => ReconciliationService.sweepKey e.2 ∉ active).map Prod.fst

theorem mem_sweptIssues {rows : List (ℕ × IssueRow)} {active : List IssueKey} {n : ℕ} :
    n ∈ sweptIssues rows active ↔
      ∃ row, (n, row) ∈ rows ∧ ReconciliationService.sweepKey row ∉ active := by
  unfold sweptIssues
  simp [List.mem_map, List.mem_filter]

/-- A sweep over some rows: it resolves the issues not remembered and changes nothing
else. -/
structure Swept (utc : ℕ) (rows : List (ℕ × IssueRow)) (s s' : ReconState) : Prop where
  issues : ∀ n, s'.world.core.issues.get? n =
    if n ∈ sweptIssues rows s.activeLockIssueKeys then
      (s.world.core.issues.get? n).map (IssueRow.resolve utc)
    else s.world.core.issues.get? n
  active : s'.activeLockIssueKeys = s.activeLockIssueKeys
  wallet : walletPart s'.world = walletPart s.world
  order : orderPart s'.world = orderPart s.world
  position : positionPart s'.world = positionPart s.world
  flags : s'.summary.flags = s.summary.flags

section Sweep

variable (svc : ReconciliationService) (info : RunInfo) {utc : ℕ} {s s' s'' : ReconState}
  {rows : List (ℕ × IssueRow)} {e : ℕ × IssueRow}

/-- Resolving twice is resolving once. -/
theorem resolve_comp_resolve :
    IssueRow.resolve utc ∘ IssueRow.resolve utc = IssueRow.resolve utc := by
  funext row
  rw [Function.comp_apply]
  exact IssueRow.resolve_of_closed (row.isOpen_resolve utc)

theorem mem_sweptIssues_cons {active : List IssueKey} {n : ℕ} :
    n ∈ sweptIssues (e :: rows) active ↔
      n ∈ sweptIssues [e] active ∨ n ∈ sweptIssues rows active := by
  simp only [mem_sweptIssues, List.mem_cons, List.not_mem_nil, or_false, or_and_right, exists_or]

/-- A sweep over one row, and then over the others. -/
theorem Swept.cons (h : Swept utc [e] s s') (h' : Swept utc rows s' s'') :
    Swept utc (e :: rows) s s'' where
  issues := fun n => by
    rw [h'.issues, h.issues, h.active]
    by_cases hfirst : n ∈ sweptIssues [e] s.activeLockIssueKeys
    · have hmem : n ∈ sweptIssues (e :: rows) s.activeLockIssueKeys :=
        mem_sweptIssues_cons.mpr (Or.inl hfirst)
      rw [if_pos hfirst, if_pos hmem, Option.map_map, resolve_comp_resolve, ite_self]
    · rw [if_neg hfirst]
      have hmem : n ∈ sweptIssues (e :: rows) s.activeLockIssueKeys ↔
          n ∈ sweptIssues rows s.activeLockIssueKeys :=
        mem_sweptIssues_cons.trans (or_iff_right hfirst)
      simp only [hmem]
  active := h'.active.trans h.active
  wallet := h'.wallet.trans h.wallet
  order := h'.order.trans h.order
  position := h'.position.trans h.position
  flags := h'.flags.trans h.flags

/-- One round of the sweep. -/
theorem swept_resolveIfStale (e : ℕ × IssueRow) (s : ReconState) :
    Swept info.utc [e] s (ReconciliationService.resolveIfStale info e s) := by
  -- the one issue of the round is swept unless its lock is active
  have hmem : ∀ n, n ∈ sweptIssues [e] s.activeLockIssueKeys ↔
      n = e.1 ∧ ReconciliationService.sweepKey e.2 ∉ s.activeLockIssueKeys := by
    intro n
    simp only [mem_sweptIssues, List.mem_singleton]
    constructor
    · rintro ⟨row, rfl, h⟩
      exact ⟨rfl, h⟩
    · rintro ⟨rfl, h⟩
      exact ⟨e.2, rfl, h⟩
  unfold ReconciliationService.resolveIfStale
  dsimp only
  by_cases hactive : ReconciliationService.sweepKey e.2 ∈ s.activeLockIssueKeys
  · rw [if_pos hactive]
    refine ⟨fun n => ?_, rfl, rfl, rfl, rfl, rfl⟩
    rw [if_neg fun h => ((hmem n).mp h).2 hactive]
  rw [if_neg hactive]
  by_cases hopen : (s.world.core.resolveReconciliationIssue e.1 info.utc).1 = true
  · rw [if_pos hopen]
    refine ⟨fun n => ?_, rfl, rfl, rfl, rfl, rfl⟩
    have hupdate : (s.world.core.issues.update e.1 (IssueRow.resolve info.utc)).get? n =
        if n = e.1 then (s.world.core.issues.get? n).map (IssueRow.resolve info.utc)
        else s.world.core.issues.get? n := Dict.get?_update _ _ _ _
    simp only [hmem, hactive, not_false_iff, and_true]
    exact hupdate
  · rw [if_neg hopen]
    refine ⟨fun n => ?_, rfl, rfl, rfl, rfl, rfl⟩
    split_ifs with hn
    · -- a closed issue would not be changed by a resolution
      cases hget : s.world.core.issues.get? n with
      | none => rfl
      | some row =>
        have hrow : (s.world.core.resolveReconciliationIssue e.1 info.utc).1 = row.isOpen := by
          unfold CoreStore.resolveReconciliationIssue
          rw [← ((hmem n).mp hn).1, hget]
          rfl
        rw [hrow, Bool.not_eq_true] at hopen
        rw [Option.map_some, IssueRow.resolve_of_closed hopen]
    · rfl

/-- The sweep resolves the selected issues that are not remembered. -/
theorem swept_foldl (rows : List (ℕ × IssueRow)) (s : ReconState) :
    Swept info.utc rows s
      (rows.foldl (fun s e => ReconciliationService.resolveIfStale info e s) s) := by
  induction rows generalizing s with
  | nil => exact ⟨fun n => rfl, rfl, rfl, rfl, rfl, rfl⟩
  | cons e rows ih => exact (swept_resolveIfStale info e s).cons (ih _)

theorem swept_resolveStaleEntryLockIssues (s : ReconState) :
    Swept info.utc (ReconciliationService.openIssuesOf (svc.eligiblePairs s.summary) s.world) s
      (svc.resolveStaleEntryLockIssues info s) := by
  have h := swept_foldl info
    (ReconciliationService.openIssuesOf (svc.eligiblePairs s.summary) s.world) s
  exact ⟨h.issues, h.active, h.wallet, h.order, h.position, h.flags⟩

end Sweep

/-! ### A run -/

/-- The fills change none of the tables compared here, and no issue. -/
structure Filled (s s' : ReconState) : Prop where
  raised : Raised [] s s'
  wallet : walletPart s'.world = walletPart s.world
  order : orderPart s'.world = orderPart s.world
  position : positionPart s'.world = positionPart s.world
  flags : s'.summary.flags = s.summary.flags

/-- The positions are fetched and compared in the futures category only. -/
def Positioned (svc : ReconciliationService) (info : RunInfo) (answers : Answers)
    (s s' : ReconState) : Prop :=
  match svc.marketCategory with
  | .linear => ∃ positions, answers.positions = .ok positions ∧
      s' = svc.reconcileFuturesPositions info positions s
  | .spot => s' = s

/-- All phases before the sweep: the wallet, the orders, the fills, the positions. -/
structure Passed (svc : ReconciliationService) (info : RunInfo) (answers : Answers)
    (wallet : ListReply WalletCoin) (orders : ListReply OpenOrderItem) (s s₃ s₄ : ReconState) :
    Prop where
  wallet_eq : answers.wallet = .ok wallet
  orders_eq : answers.openOrders = .ok orders
  filled : Filled (svc.reconcileOpenOrders info orders (reconcileWallet svc info wallet s)) s₃
  positioned : Positioned svc info answers s₃ s₄

/-- A run that stopped at an exception, before the positions were looked at. -/
structure Stopped (svc : ReconciliationService) (info : RunInfo) (answers : Answers)
    (s s' : ReconState) : Prop where
  raised : ∃ ks, Raised ks s s'
  position : positionPart s'.world = positionPart s.world
  wallet : ∀ wallet, answers.wallet = .ok wallet →
    walletPart s'.world = walletPart (reconcileWallet svc info wallet s).world

section Run

variable (svc : ReconciliationService) (info : RunInfo) (answers : Answers) {s : ReconState}

theorem onAnswer_ok {α : Type} {answer : Except String α} {a : α} (h : answer = .ok a)
    (work : α → ReconState → ReconState) (s : ReconState) :
    ReconciliationService.onAnswer answer work s = .ok ⟨⟩ (work a s) := by
  subst h
  rfl

theorem onAnswer_error {α : Type} {answer : Except String α} {e : String} (h : answer = .error e)
    (work : α → ReconState → ReconState) (s : ReconState) :
    ReconciliationService.onAnswer answer work s = .error e s := by
  subst h
  rfl

theorem Filled.refl (s : ReconState) : Filled s s := ⟨Raised.refl s, rfl, rfl, rfl, rfl⟩

theorem Filled.trans {s s' s'' : ReconState} (h : Filled s s') (h' : Filled s' s'') :
    Filled s s'' :=
  ⟨h.raised.trans h'.raised, h'.wallet.trans h.wallet, h'.order.trans h.order,
    h'.position.trans h.position, h'.flags.trans h.flags⟩

theorem filled_reconcileSymbolFills (symbol : String) (answer : ListReply FundingItem)
    (s : ReconState) : Filled s (svc.reconcileSymbolFills symbol answer s) := by
  obtain ⟨hwallet, horder, hposition⟩ := parts_reconcileSymbolFills svc symbol answer s
  exact ⟨raised_reconcileSymbolFills svc symbol answer s, hwallet, horder, hposition,
    flags_reconcileSymbolFills svc symbol answer s⟩

/-- The fills of all symbols, raising or not. -/
theorem filled_reconcileFills (s : ReconState) : Filled s (after (svc.reconcileFills answers) s) := by
  unfold ReconciliationService.reconcileFills
  generalize svc.symbols = symbols
  induction symbols generalizing s with
  | nil => exact Filled.refl s
  | cons symbol symbols ih =>
    rw [each_cons]
    cases answers.executions symbol with
    | error e =>
      rw [after_bind_of_error (onAnswer_error rfl _ s)]
      exact Filled.refl s
    | ok answer =>
      rw [after_bind_of_ok (onAnswer_ok rfl _ s)]
      exact (filled_reconcileSymbolFills svc symbol answer s).trans (ih _)

/-- The open orders raise some locks, if any, and are written to the order tables only. -/
theorem raised_reconcileOpenOrders (orders : ListReply OpenOrderItem) (s : ReconState) :
    (∃ ks, Raised ks s (svc.reconcileOpenOrders info orders s)) ∧
      walletPart (svc.reconcileOpenOrders info orders s).world = walletPart s.world ∧
      positionPart (svc.reconcileOpenOrders info orders s).world = positionPart s.world := by
  unfold ReconciliationService.reconcileOpenOrders
  split_ifs
  · exact ⟨⟨_, raised_reconcileListedOrders svc info orders.list rfl⟩,
      parts_reconcileListedOrders svc info orders.list s⟩
  · exact ⟨⟨[], Raised.refl s⟩, rfl, rfl⟩

/-- A run raises an exception before the positions, or passes all phases and sweeps. -/
theorem body_cases (s : ReconState) :
    (∃ e s', svc.body info answers s = .error e s' ∧ Stopped svc info answers s s') ∨
      ∃ wallet orders s₃ s₄, Passed svc info answers wallet orders s s₃ s₄ ∧
        svc.body info answers s = .ok ⟨⟩ (svc.resolveStaleEntryLockIssues info s₄) := by
  unfold ReconciliationService.body
  cases hwallet : answers.wallet with
  | error e =>
    refine Or.inl ⟨e, s, bind_of_error (onAnswer_error rfl _ s), ⟨[], Raised.refl s⟩, rfl, ?_⟩
    intro wallet hok
    rw [hwallet] at hok
    cases hok
  | ok wallet =>
    rw [bind_of_ok (onAnswer_ok rfl (reconcileWallet svc info) s)]
    have hraised₁ := raised_reconcileWallet svc info wallet s
    have hposition₁ := (parts_reconcileWallet svc info wallet s).2
    -- an exception after the wallet was written
    have hstopped : ∀ s', (∃ ks, Raised ks s s') → positionPart s'.world = positionPart s.world →
        walletPart s'.world = walletPart (reconcileWallet svc info wallet s).world →
          Stopped svc info answers s s' := by
      intro s' hraised hposition hpart
      refine ⟨hraised, hposition, ?_⟩
      intro wallet' hok
      rw [hwallet] at hok
      cases hok
      exact hpart
    cases horders : answers.openOrders with
    | error e =>
      exact Or.inl ⟨e, _, bind_of_error (onAnswer_error rfl _ _),
        hstopped _ ⟨[], hraised₁⟩ hposition₁ rfl⟩
    | ok orders =>
      rw [bind_of_ok (onAnswer_ok rfl (svc.reconcileOpenOrders info) _)]
      obtain ⟨⟨ks, hraised₂⟩, hwallet₂, hposition₂⟩ := raised_reconcileOpenOrders svc info orders
        (reconcileWallet svc info wallet s)
      have hfilled := filled_reconcileFills svc answers
        (svc.reconcileOpenOrders info orders (reconcileWallet svc info wallet s))
      cases hfills : svc.reconcileFills answers
          (svc.reconcileOpenOrders info orders (reconcileWallet svc info wallet s)) with
      | error e s₃ =>
        rw [after_of_error hfills] at hfilled
        refine Or.inl ⟨e, s₃, bind_of_error hfills, hstopped s₃ ?_ ?_ ?_⟩
        · exact ⟨ks, (hraised₁.nil_trans hraised₂).trans_nil hfilled.raised⟩
        · exact hfilled.position.trans (hposition₂.trans hposition₁)
        · exact hfilled.wallet.trans hwallet₂
      | ok a s₃ =>
        rw [after_of_ok hfills] at hfilled
        rw [bind_of_ok hfills]
        have hraised₃ := (hraised₁.nil_trans hraised₂).trans_nil hfilled.raised
        unfold ReconciliationService.reconcilePositions
        cases hcategory : svc.marketCategory with
        | spot =>
          refine Or.inr ⟨wallet, orders, s₃, s₃, ⟨hwallet, horders, hfilled, ?_⟩, rfl⟩
          rw [Positioned, hcategory]
        | linear =>
          cases hpositions : answers.positions with
          | error e =>
            exact Or.inl ⟨e, s₃, bind_of_error (onAnswer_error rfl _ s₃),
              hstopped s₃ ⟨ks, hraised₃⟩ (hfilled.position.trans (hposition₂.trans hposition₁))
                (hfilled.wallet.trans hwallet₂)⟩
          | ok positions =>
            refine Or.inr ⟨wallet, orders, s₃, _, ⟨hwallet, horders, hfilled, ?_⟩,
              bind_of_ok (onAnswer_ok rfl (svc.reconcileFuturesPositions info) s₃)⟩
            rw [Positioned, hcategory]
            exact ⟨positions, hpositions, rfl⟩

end Run

end Botik
