import Mathlib.Algebra.Order.BigOperators.Group.List
import Mathlib.Algebra.Order.Group.Abs
import Mathlib.Tactic.Abel

/-!
# Claims on a stock

A signed stock, and claims that will change it when they are met. A claim is met in parts, each of
them between zero and what is left of it, and may be given up; claims are added, and the stock
changes without them. The claims are covered while what is left of them all is at most the size of
the stock. Meeting a claim never breaks this, whichever way it goes.

## Main definitions

* `StockClaims.Book` — a stock and the claims on it
* `StockClaims.Book.Covered`, `StockClaims.Book.MetWhere`
* `StockClaims.Move`, `StockClaims.Move.Sound` — what happens to a book, and when it keeps the cover

## Main results

* `StockClaims.Book.Covered.apply` — a sound move keeps the cover
-/

namespace StockClaims

/-- A claim, and the signed quantity that is left of it. -/
structure Claim (κ G : Type*) where
  key : κ
  left : G
  deriving DecidableEq, Repr

/-- A stock and the claims on it. -/
structure Book (κ G : Type*) where
  stock : G
  claims : List (Claim κ G)
  deriving DecidableEq, Repr

/-- What happens to a book. Claims are chosen by their keys. -/
inductive Move (κ G : Type*)
  | meet (chosen : κ → Bool) (part : G)
  | giveUp (chosen : κ → Bool)
  | add (key : κ) (left : G)
  | change (amount : G)

variable {κ G : Type*} [AddCommGroup G] [LinearOrder G]

/-- The part lies between zero and the whole. -/
def IsPart (part whole : G) : Prop := |part| + |whole - part| = |whole|

instance (part whole : G) : Decidable (IsPart part whole) := inferInstanceAs (Decidable (_ = _))

/-- What is left of the claims. -/
def owed (claims : List (Claim κ G)) : G := (claims.map fun claim => |claim.left|).sum

/-- Meet a part of the first chosen claim it is a part of. -/
def meetFirst (chosen : κ → Bool) (part : G) : List (Claim κ G) → Option (List (Claim κ G))
  | [] => none
  | claim :: claims =>
    if chosen claim.key ∧ IsPart part claim.left then
      some (⟨claim.key, claim.left - part⟩ :: claims)
    else (meetFirst chosen part claims).map (claim :: ·)

namespace Book

/-- Everything that is left of the claims is at most the stock. -/
def Covered (b : Book κ G) : Prop := owed b.claims ≤ |b.stock|

instance (b : Book κ G) : Decidable b.Covered := inferInstanceAs (Decidable (_ ≤ _))

/-- Meet a part of a chosen claim; a part of none of them is no part. -/
def meet (b : Book κ G) (chosen : κ → Bool) (part : G) : Book κ G :=
  match meetFirst chosen part b.claims with
  | some claims => ⟨b.stock + part, claims⟩
  | none => b

/-- Give up the chosen claims. -/
def giveUp (b : Book κ G) (chosen : κ → Bool) : Book κ G :=
  { b with claims := b.claims.filter fun claim => ¬ chosen claim.key }

/-- Add a claim. -/
def add (b : Book κ G) (key : κ) (left : G) : Book κ G :=
  { b with claims := b.claims ++ [⟨key, left⟩] }

/-- Change the stock. -/
def change (b : Book κ G) (amount : G) : Book κ G := { b with stock := b.stock + amount }

end Book

namespace Move

/-- The book after a move. -/
def apply : Move κ G → Book κ G → Book κ G
  | .meet chosen part, b => b.meet chosen part
  | .giveUp chosen, b => b.giveUp chosen
  | .add key left, b => b.add key left
  | .change amount, b => b.change amount

/-- A claim is added to a book without any, and not above the stock; while claims are left, the
stock does not shrink on its own. -/
def Sound (b : Book κ G) : Move κ G → Prop
  | .meet _ _ | .giveUp _ => True
  | .add _ left => owed b.claims = 0 ∧ |left| ≤ |b.stock|
  | .change amount => owed b.claims = 0 ∨ |b.stock| ≤ |b.stock + amount|

end Move

section Owed

variable {chosen : κ → Bool} {part : G} {claims met : List (Claim κ G)} {claim : Claim κ G}

@[simp] theorem owed_nil : owed ([] : List (Claim κ G)) = 0 := rfl

@[simp] theorem owed_cons : owed (claim :: claims) = |claim.left| + owed claims := by
  simp [owed]

@[simp] theorem owed_append {others : List (Claim κ G)} :
    owed (claims ++ others) = owed claims + owed others := by
  simp [owed]

/-- What is met is no longer owed. -/
theorem owed_meetFirst (h : meetFirst chosen part claims = some met) :
    |part| + owed met = owed claims := by
  induction claims generalizing met with
  | nil => cases h
  | cons claim claims ih =>
    rw [meetFirst] at h
    split_ifs at h with hpart
    · obtain rfl := Option.some.inj h
      have hsplit : |part| + |claim.left - part| = |claim.left| := hpart.2
      rw [owed_cons, owed_cons, ← add_assoc, hsplit]
    · obtain ⟨rest, hrest, rfl⟩ := Option.map_eq_some_iff.mp h
      rw [owed_cons, owed_cons, ← ih hrest]
      abel

variable [IsOrderedAddMonoid G]

theorem owed_nonneg (claims : List (Claim κ G)) : 0 ≤ owed claims := by
  unfold owed
  refine List.sum_nonneg ?_
  intro size hsize
  obtain ⟨claim, -, rfl⟩ := List.mem_map.mp hsize
  exact abs_nonneg _

/-- Nothing is owed exactly if every claim is met. -/
theorem owed_eq_zero_iff : owed claims = 0 ↔ ∀ claim ∈ claims, claim.left = 0 := by
  induction claims with
  | nil => simp
  | cons claim claims ih =>
    rw [owed_cons, add_eq_zero_iff_of_nonneg (abs_nonneg _) (owed_nonneg claims), abs_eq_zero, ih,
      List.forall_mem_cons]

/-- Fewer claims owe no more. -/
theorem owed_le_of_sublist {others : List (Claim κ G)} (h : claims.Sublist others) :
    owed claims ≤ owed others := by
  induction h with
  | slnil => exact le_refl _
  | cons claim _ ih =>
    rw [owed_cons]
    exact ih.trans (le_add_of_nonneg_left (abs_nonneg _))
  | cons_cons claim _ ih =>
    rw [owed_cons, owed_cons]
    exact add_le_add_right ih _

end Owed

/-! ### Claims that are met -/

/-- The claims with these keys are met. -/
def Book.MetWhere (b : Book κ G) (p : κ → Prop) : Prop :=
  ∀ claim ∈ b.claims, p claim.key → claim.left = 0

/-- The move adds no claim. -/
def Move.AddsNothing (m : Move κ G) : Prop := ∀ key left, m ≠ .add key left

section Met

variable {b : Book κ G} {p : κ → Prop} {m : Move κ G} {chosen : κ → Bool} {part : G}
  {claims met : List (Claim κ G)}

omit [LinearOrder G] in
/-- Nothing given up is left. -/
theorem Book.metWhere_giveUp : (b.giveUp chosen).MetWhere fun key => chosen key = true := by
  intro claim hclaim hchosen
  obtain ⟨-, hkept⟩ := List.mem_filter.mp hclaim
  simp [hchosen] at hkept

variable [IsOrderedAddMonoid G]

/-- No other part of nothing can be met. -/
theorem isPart_zero_iff : IsPart part (0 : G) ↔ part = 0 := by
  unfold IsPart
  rw [zero_sub, abs_neg, abs_zero]
  constructor
  · intro h
    exact abs_eq_zero.mp ((add_eq_zero_iff_of_nonneg (abs_nonneg _) (abs_nonneg _)).mp h).1
  · rintro rfl
    rw [abs_zero, add_zero]

theorem metWhere_meetFirst (h : meetFirst chosen part claims = some met)
    (hp : ∀ claim ∈ claims, p claim.key → claim.left = 0) :
    ∀ claim ∈ met, p claim.key → claim.left = 0 := by
  induction claims generalizing met with
  | nil => cases h
  | cons first claims ih =>
    obtain ⟨hfirst, hrest⟩ := List.forall_mem_cons.mp hp
    rw [meetFirst] at h
    split_ifs at h with hpart
    · obtain rfl := Option.some.inj h
      refine List.forall_mem_cons.mpr ⟨fun hkey => ?_, hrest⟩
      have hleft := hfirst hkey
      have hzero : part = 0 := isPart_zero_iff.mp (hleft ▸ hpart.2)
      change first.left - part = 0
      rw [hleft, hzero, sub_zero]
    · obtain ⟨rest, hmet, rfl⟩ := Option.map_eq_some_iff.mp h
      exact List.forall_mem_cons.mpr ⟨hfirst, ih hmet hrest⟩

/-- Claims that are met stay met, unless one is added. -/
theorem Book.MetWhere.apply (h : b.MetWhere p) (hm : m.AddsNothing) : (m.apply b).MetWhere p := by
  cases m with
  | meet chosen part =>
    change (b.meet chosen part).MetWhere p
    unfold Book.meet
    cases hmet : meetFirst chosen part b.claims with
    | none => exact h
    | some met => exact metWhere_meetFirst hmet h
  | giveUp chosen => exact fun claim hclaim => h claim (List.mem_filter.mp hclaim).1
  | add key left => exact absurd rfl (hm key left)
  | change amount => exact h

end Met

section Covered

variable {b : Book κ G} {chosen : κ → Bool} {part left amount : G} {key : κ}

/-- A claim may be added as long as the stock is enough for it and for all others. -/
theorem Book.covered_add_iff : (b.add key left).Covered ↔ owed b.claims + |left| ≤ |b.stock| := by
  change owed (b.claims ++ [⟨key, left⟩]) ≤ |b.stock| ↔ _
  rw [owed_append, owed_cons, owed_nil, add_zero]

variable [IsOrderedAddMonoid G]

/-- The stock cannot shrink by more than what is met. -/
theorem Book.Covered.meet (h : b.Covered) : (b.meet chosen part).Covered := by
  unfold Book.meet
  cases hmet : meetFirst chosen part b.claims with
  | none => exact h
  | some met =>
    have howed := owed_meetFirst hmet
    have hstock : |b.stock| - |part| ≤ |b.stock + part| := by
      have := abs_sub_abs_le_abs_sub b.stock (-part)
      rwa [abs_neg, sub_neg_eq_add] at this
    have hcovered : owed b.claims ≤ |b.stock| := h
    change owed met ≤ |b.stock + part|
    calc owed met = owed b.claims - |part| := by rw [← howed, add_sub_cancel_left]
      _ ≤ |b.stock| - |part| := sub_le_sub_right hcovered _
      _ ≤ |b.stock + part| := hstock

theorem Book.Covered.giveUp (h : b.Covered) : (b.giveUp chosen).Covered :=
  (owed_le_of_sublist List.filter_sublist).trans h

theorem Book.Covered.change (h : b.Covered)
    (hstock : owed b.claims = 0 ∨ |b.stock| ≤ |b.stock + amount|) : (b.change amount).Covered := by
  rcases hstock with hnone | hgrown
  · change owed b.claims ≤ |b.stock + amount|
    rw [hnone]
    exact abs_nonneg _
  · exact le_trans h hgrown

/-- A sound move keeps the cover. -/
theorem Book.Covered.apply {m : Move κ G} (h : b.Covered) (hsound : m.Sound b) :
    (m.apply b).Covered := by
  cases m with
  | meet chosen part => exact h.meet
  | giveUp chosen => exact h.giveUp
  | add key left =>
    refine Book.covered_add_iff.mpr ?_
    rw [hsound.1, zero_add]
    exact hsound.2
  | change amount => exact h.change hsound

end Covered

end StockClaims
