import Mathlib.Data.Finset.Card
import Mathlib.Data.List.Sort
import Mathlib.Order.Lattice
import Botik.Library.Upserts

/-!
# Sorted listings

A query lists the rows whose keys are selected, sorted by key; rows of equivalent keys stay in the
order of the table. So selecting before or after the sort is the same, and a table with more keys
lists the old ones in the old order.

A query sorts by a key and keeps the first elements up to a limit. Sorted upwards it keeps the least
ones, which are the greatest ones only where nothing is left out or all keys are equal.

Elements may also be kept in the order in which they are first seen. Up to a limit, an element is
kept exactly where fewer others come before it.

## Main definitions

* `Dict.listing`, `Dict.keyListing`
* `Newest.sortedBy`
* `Newest.AreGreatest` — as many as the limit allows, none below one that is left out
* `FirstSeen.push` — one more element, unless it is there

## Main results

* `filter_insertionSort` — a stable sort commutes with a selection
* `Dict.filterMap_listing` — what is collected from the rows, key by key
* `Dict.filter_keyListing_of_append` — the old keys of a table with more keys
* `succ_le_countP_le`, `sub_le_countP_ge` — the rank of an element
* `areGreatest_take_iff`
* `mem_take_concat_iff` — one more element, greater than all others
* `FirstSeen.mem_take_iff`, `FirstSeen.subset_take_iff` — what is first seen, up to a limit
-/

/-! ### Sorted listings of a table -/

section Sorting

variable {α : Type*} (r : α → α → Prop) [DecidableRel r] [Std.Total r] [IsTrans α r]

omit [Std.Total r] in
/-- Selecting after an insertion into a sorted list. -/
theorem filter_orderedInsert (p : α → Bool) (a : α) {l : List α} (hl : l.Pairwise r) :
    (l.orderedInsert r a).filter p =
      if p a then (l.filter p).orderedInsert r a else l.filter p := by
  induction l with
  | nil => cases h : p a <;> simp [h]
  | cons b l ih =>
    obtain ⟨hb, hl⟩ := List.pairwise_cons.mp hl
    by_cases hab : r a b
    · -- `a` comes first, also before the selected elements
      rw [List.orderedInsert_cons_of_le r l hab]
      have hfirst : ∀ x ∈ (b :: l).filter p, r a x := by
        intro x hx
        rcases List.mem_cons.mp (List.mem_filter.mp hx).1 with rfl | hx
        · exact hab
        · exact IsTrans.trans a b x hab (hb x hx)
      by_cases hpa : p a = true
      · rw [List.filter_cons_of_pos hpa, if_pos hpa]
        cases hfilter : (b :: l).filter p with
        | nil => rfl
        | cons c cs =>
          rw [hfilter] at hfirst
          exact (List.orderedInsert_cons_of_le r cs (hfirst c List.mem_cons_self)).symm
      · rw [List.filter_cons_of_neg hpa, if_neg hpa]
    · rw [List.orderedInsert_of_not_le r l hab]
      by_cases hpb : p b = true
      · rw [List.filter_cons_of_pos hpb, List.filter_cons_of_pos hpb, ih hl]
        split_ifs
        · exact (List.orderedInsert_of_not_le r _ hab).symm
        · rfl
      · rw [List.filter_cons_of_neg hpb, List.filter_cons_of_neg hpb, ih hl]

/-- A stable sort commutes with a selection. -/
theorem filter_insertionSort (p : α → Bool) (l : List α) :
    (l.insertionSort r).filter p = (l.filter p).insertionSort r := by
  induction l with
  | nil => rfl
  | cons a l ih =>
    rw [List.insertionSort_cons, filter_orderedInsert r p a (List.pairwise_insertionSort r l), ih]
    split_ifs with hpa
    · rw [List.filter_cons_of_pos hpa, List.insertionSort_cons]
    · rw [List.filter_cons_of_neg hpa]

end Sorting

/-- The values that selected elements give to one key. -/
theorem map_snd_filter_key {α κ ν : Type*} [DecidableEq κ] (p : α → Bool) (key : α → κ)
    (value : α → ν) (k : κ) (l : List α) :
    (((l.filter p).map fun a => (key a, value a)).filter fun w => w.1 = k).map Prod.snd =
      l.filterMap fun a => if p a = true ∧ key a = k then some (value a) else none := by
  induction l with
  | nil => rfl
  | cons a l ih =>
    rw [List.filterMap_cons, ← ih]
    by_cases hp : p a = true
    · rw [List.filter_cons_of_pos hp, List.map_cons]
      by_cases hk : key a = k
      · rw [List.filter_cons_of_pos (by simpa using hk), List.map_cons, if_pos ⟨hp, hk⟩]
      · rw [List.filter_cons_of_neg (by simpa using hk), if_neg fun h => hk h.2]
    · rw [List.filter_cons_of_neg hp, if_neg fun h => hp h.1]

namespace Dict

variable {κ ν : Type*} {d d' : Dict κ ν} (r : κ → κ → Prop) [DecidableRel r] (p : κ → Bool)

/-- The rows of the selected keys, sorted by key. -/
def listing (d : Dict κ ν) : List (κ × ν) :=
  (d.entries.filter fun e => p e.1).insertionSort fun a b => r a.1 b.1

/-- The selected keys, sorted. -/
def keyListing (d : Dict κ ν) : List κ := (d.keys.filter p).insertionSort r

theorem map_fst_listing (d : Dict κ ν) : (d.listing r p).map Prod.fst = d.keyListing r p := by
  unfold listing keyListing keys
  rw [List.filter_map]
  exact List.map_insertionSort _ r Prod.fst _ fun _ _ _ _ => Iff.rfl

theorem nodup_keyListing (d : Dict κ ν) : (d.keyListing r p).Nodup :=
  (List.perm_insertionSort r _).nodup_iff.mpr (d.nodupKeys.filter p)

section Lookup

variable [DecidableEq κ]

theorem mem_listing {k : κ} {v : ν} : (k, v) ∈ d.listing r p ↔ d.get? k = some v ∧ p k = true := by
  unfold listing
  rw [List.mem_insertionSort, List.mem_filter, mem_entries_iff]

omit [DecidableEq κ] in
theorem mem_keyListing {k : κ} : k ∈ d.keyListing r p ↔ k ∈ d.keys ∧ p k = true := by
  unfold keyListing
  rw [List.mem_insertionSort, List.mem_filter]

/-- What is collected from the listed rows is collected from the listed keys. -/
theorem filterMap_listing {β : Type*} (g : κ → ν → Option β) (d : Dict κ ν) :
    (d.listing r p).filterMap (fun e => g e.1 e.2) =
      (d.keyListing r p).filterMap fun k => (d.get? k).bind (g k) := by
  rw [← map_fst_listing, List.filterMap_map]
  apply List.filterMap_congr
  intro e he
  have hget : d.get? e.1 = some e.2 := ((mem_listing r p).mp he).1
  rw [Function.comp_apply, hget, Option.bind_some]

/-- In a table with more keys, the old ones are listed as before. -/
theorem filter_keyListing_of_append [Std.Total r] [IsTrans κ r] {new : List κ}
    (hkeys : d'.keys = d.keys ++ new) (hnew : ∀ k ∈ new, k ∉ d.keys) :
    (d'.keyListing r p).filter (· ∈ d.keys) = d.keyListing r p := by
  have hold : d'.keys.filter (· ∈ d.keys) = d.keys := by
    have hself : d.keys.filter (· ∈ d.keys) = d.keys :=
      List.filter_eq_self.mpr fun k hk => decide_eq_true hk
    have hnone : new.filter (· ∈ d.keys) = [] :=
      List.filter_eq_nil_iff.mpr fun k hk => by simpa using hnew k hk
    rw [hkeys, List.filter_append, hself, hnone, List.append_nil]
  unfold keyListing
  rw [filter_insertionSort, List.filter_comm, hold]

end Lookup

end Dict

/-! ### Ranks in a sorted list -/

section Ranks

variable {α : Type*} [LinearOrder α] {l : List α} {i : ℕ}

/-- The elements up to a place are at most the one that stands there. -/
theorem succ_le_countP_le (h : l.Pairwise (· ≤ ·)) (hi : i < l.length) :
    i + 1 ≤ l.countP (· ≤ l[i]) := by
  have hall : ∀ a ∈ l.take (i + 1), decide (a ≤ l[i]) = true := by
    intro a ha
    obtain ⟨j, hj, rfl⟩ := List.getElem_of_mem ha
    rw [List.length_take] at hj
    rw [List.getElem_take, decide_eq_true_eq]
    rcases Nat.lt_or_ge j i with hlt | hge
    · exact List.pairwise_iff_getElem.mp h j i _ hi hlt
    · obtain rfl : j = i := by omega
      exact le_rfl
  have hcount := List.countP_eq_length.mpr hall
  rw [List.length_take, Nat.min_eq_left (by omega)] at hcount
  rw [← hcount]
  exact (List.take_sublist _ _).countP_le

/-- The elements from a place on are at least the one that stands there. -/
theorem sub_le_countP_ge (h : l.Pairwise (· ≤ ·)) (hi : i < l.length) :
    l.length - i ≤ l.countP (l[i] ≤ ·) := by
  have hall : ∀ a ∈ l.drop i, decide (l[i] ≤ a) = true := by
    intro a ha
    obtain ⟨j, hj, rfl⟩ := List.getElem_of_mem ha
    rw [List.length_drop] at hj
    rw [List.getElem_drop, decide_eq_true_eq]
    rcases Nat.eq_zero_or_pos j with rfl | hpos
    · exact le_rfl
    · exact List.pairwise_iff_getElem.mp h i (i + j) hi (by omega) (by omega)
  have hcount := List.countP_eq_length.mpr hall
  rw [List.length_drop] at hcount
  rw [← hcount]
  exact (List.drop_sublist _ _).countP_le

end Ranks

/-! ### The first elements of a sorted list -/

namespace Newest

variable {α β : Type*} [LinearOrder β] (key : α → β) {l chosen : List α} {a b : α} {limit : ℕ}

/-- Sorted upwards by a key. -/
def sortedBy (l : List α) : List α := l.insertionSort fun a b => key a ≤ key b

/-- Some of the elements, as many as the limit allows, none of them below one that is left out. -/
structure AreGreatest (limit : ℕ) (l chosen : List α) : Prop where
  nodup : chosen.Nodup
  subset : ∀ a ∈ chosen, a ∈ l
  length : chosen.length = min limit l.length
  greatest : ∀ a ∈ chosen, ∀ b ∈ l, b ∉ chosen → key b ≤ key a

variable {key}

@[simp] theorem mem_sortedBy : a ∈ sortedBy key l ↔ a ∈ l := List.mem_insertionSort _

@[simp] theorem length_sortedBy : (sortedBy key l).length = l.length :=
  List.length_insertionSort _ _

theorem nodup_sortedBy (h : l.Nodup) : (sortedBy key l).Nodup :=
  (List.perm_insertionSort _ l).nodup_iff.mpr h

instance total_le : Std.Total fun a b : α => key a ≤ key b := ⟨fun a b => le_total (key a) (key b)⟩

instance isTrans_le : IsTrans α fun a b => key a ≤ key b := ⟨fun _ _ _ => le_trans⟩

/-- What is kept is not above what is left out. -/
theorem le_of_mem_take_of_mem_drop (ha : a ∈ (sortedBy key l).take limit)
    (hb : b ∈ (sortedBy key l).drop limit) : key a ≤ key b := by
  have hsorted : (sortedBy key l).Pairwise fun a b => key a ≤ key b :=
    List.pairwise_insertionSort _ l
  rw [← List.take_append_drop limit (sortedBy key l)] at hsorted
  exact (List.pairwise_append.mp hsorted).2.2 a ha b hb

/-- What is kept and what is left out, in order. -/
theorem take_sortedBy_spec (key : α → β) (l : List α) (limit : ℕ) :
    ∃ rest, l.Perm ((sortedBy key l).take limit ++ rest) ∧
      ((sortedBy key l).take limit ++ rest).Pairwise fun a b => key a ≤ key b := by
  refine ⟨(sortedBy key l).drop limit, ?_, ?_⟩
  · rw [List.take_append_drop]
    exact (List.perm_insertionSort _ l).symm
  · rw [List.take_append_drop]
    exact List.pairwise_insertionSort _ l

theorem take_of_length_le (h : l.length ≤ limit) : (sortedBy key l).take limit = sortedBy key l :=
  List.take_of_length_le (by rwa [length_sortedBy])

theorem mem_drop_of_not_mem_take (ha : a ∈ l) (hnot : a ∉ (sortedBy key l).take limit) :
    a ∈ (sortedBy key l).drop limit := by
  have hmem : a ∈ (sortedBy key l).take limit ++ (sortedBy key l).drop limit := by
    rwa [List.take_append_drop, mem_sortedBy]
  exact (List.mem_append.mp hmem).resolve_left hnot

theorem not_mem_take_of_mem_drop (h : l.Nodup) (ha : a ∈ (sortedBy key l).drop limit) :
    a ∉ (sortedBy key l).take limit := by
  have hnodup : (sortedBy key l).Nodup := nodup_sortedBy h
  rw [← List.take_append_drop limit (sortedBy key l), List.nodup_append] at hnodup
  exact fun hkept => hnodup.2.2 a hkept a ha rfl

/-- The first elements are the greatest ones exactly where none is left out or all are equal. -/
theorem areGreatest_take_iff (hnodup : l.Nodup) (hlimit : 0 < limit) :
    AreGreatest key limit l ((sortedBy key l).take limit) ↔
      l.length ≤ limit ∨ ∀ a ∈ l, ∀ b ∈ l, key a = key b := by
  constructor
  · intro h
    rcases le_or_gt l.length limit with hfew | hmany
    · exact Or.inl hfew
    · right
      -- whatever is kept has the key of whatever is left out
      have hkept : ∀ a ∈ (sortedBy key l).take limit, ∀ b ∈ (sortedBy key l).drop limit,
          key a = key b := by
        intro a ha b hb
        have hb' : b ∈ l := mem_sortedBy.mp (List.mem_of_mem_drop hb)
        exact (le_of_mem_take_of_mem_drop ha hb).antisymm
          (h.greatest a ha b hb' (not_mem_take_of_mem_drop hnodup hb))
      obtain ⟨first, hfirst⟩ : ∃ a, a ∈ (sortedBy key l).take limit :=
        List.exists_mem_of_length_pos (by simp; omega)
      obtain ⟨last, hlast⟩ : ∃ b, b ∈ (sortedBy key l).drop limit :=
        List.exists_mem_of_length_pos (by simp; omega)
      have hall : ∀ a ∈ l, key a = key last := by
        intro a ha
        by_cases hin : a ∈ (sortedBy key l).take limit
        · exact hkept a hin last hlast
        · exact (hkept first hfirst a (mem_drop_of_not_mem_take ha hin)).symm.trans
            (hkept first hfirst last hlast)
      intro a ha b hb
      rw [hall a ha, hall b hb]
  · intro h
    refine ⟨(nodup_sortedBy hnodup).sublist (List.take_sublist _ _), fun a ha => ?_, by simp,
      fun a ha b hb hnot => ?_⟩
    · exact mem_sortedBy.mp (List.mem_of_mem_take ha)
    · rcases h with hfew | hequal
      · rw [take_of_length_le hfew, mem_sortedBy] at hnot
        exact absurd hb hnot
      · exact (hequal b hb a (mem_sortedBy.mp (List.mem_of_mem_take ha))).le

/-- One more element, greater than all others, is kept exactly where all are. -/
theorem mem_take_concat_iff (hnodup : (l ++ [a]).Nodup) (hgreater : ∀ b ∈ l, key b < key a) :
    a ∈ (sortedBy key (l ++ [a])).take limit ↔ l.length + 1 ≤ limit := by
  constructor
  · intro hkept
    by_contra hmany
    obtain ⟨b, hb⟩ : ∃ b, b ∈ (sortedBy key (l ++ [a])).drop limit :=
      List.exists_mem_of_length_pos (by simp; omega)
    have hle := le_of_mem_take_of_mem_drop hkept hb
    rcases List.mem_append.mp (mem_sortedBy.mp (List.mem_of_mem_drop hb)) with hold | hnew
    · exact absurd hle (not_le.mpr (hgreater b hold))
    · rw [List.mem_singleton.mp hnew] at hb
      exact not_mem_take_of_mem_drop hnodup hb hkept
  · intro hfew
    rw [take_of_length_le (by simpa using hfew)]
    simp

end Newest

/-! ### First occurrences -/

namespace FirstSeen

variable {α : Type*} [DecidableEq α] {l kept : List α} {a b : α} {limit : ℕ}

/-- One more element, unless it is there. -/
def push (kept : List α) (a : α) : List α := if a ∈ kept then kept else kept ++ [a]

/-- The elements seen before the first occurrence of one. -/
def before (l : List α) (a : α) : Finset α := (l.takeWhile (· ≠ a)).toFinset

theorem foldl_push (l kept : List α) :
    l.foldl push kept = kept ++ (l.filter (· ∉ kept)).eraseDups := by
  induction l generalizing kept with
  | nil => simp
  | cons b l ih =>
    rw [List.foldl_cons, ih, push]
    by_cases hb : b ∈ kept
    · rw [if_pos hb, List.filter_cons_of_neg (by simpa using hb)]
    · have hfilter : l.filter (· ∉ kept ++ [b]) =
          (l.filter (· ∉ kept)).filter fun a => !a == b := by
        rw [List.filter_filter]
        exact List.filter_congr fun a _ => by simp [and_comm, beq_eq_decide]
      rw [if_neg hb, List.filter_cons_of_pos (by simpa using hb), List.eraseDups_cons, hfilter,
        List.append_assoc, List.singleton_append]

/-- What is kept stays in front. -/
theorem prefix_foldl_push (l kept : List α) : kept <+: l.foldl push kept := by
  rw [foldl_push]
  exact List.prefix_append _ _

theorem takeWhile_filter_ne (hab : a ≠ b) (l : List α) :
    (l.filter fun c => !c == b).takeWhile (· ≠ a) =
      (l.takeWhile (· ≠ a)).filter fun c => !c == b := by
  induction l with
  | nil => rfl
  | cons c l ih =>
    by_cases hcb : c = b
    · subst hcb
      rw [List.filter_cons_of_neg (by simp), List.takeWhile_cons_of_pos (by simpa using hab.symm),
        List.filter_cons_of_neg (by simp), ih]
    · rw [List.filter_cons_of_pos (by simpa using hcb)]
      by_cases hca : c = a
      · rw [List.takeWhile_cons_of_neg (by simpa using hca),
          List.takeWhile_cons_of_neg (by simpa using hca), List.filter_nil]
      · rw [List.takeWhile_cons_of_pos (by simpa using hca),
          List.takeWhile_cons_of_pos (by simpa using hca),
          List.filter_cons_of_pos (by simpa using hcb), ih]

/-- The first element is before all others. -/
theorem card_before_cons (hab : a ≠ b) (l : List α) :
    (before (b :: l) a).card = (before (l.filter fun c => !c == b) a).card + 1 := by
  have herase : before (l.filter fun c => !c == b) a = (before l a).erase b := by
    unfold before
    rw [takeWhile_filter_ne hab]
    ext c
    simp [and_comm]
  have hinsert : before (b :: l) a = insert b (before l a) := by
    unfold before
    rw [List.takeWhile_cons_of_pos (by simpa using hab.symm), List.toFinset_cons]
  rw [hinsert, herase, ← Finset.erase_insert_eq_erase,
    Finset.card_erase_add_one (Finset.mem_insert_self b _)]

/-- Up to a limit, an element is kept exactly where fewer others are seen before it. -/
theorem mem_take_iff (l : List α) (limit : ℕ) (a : α) :
    a ∈ l.eraseDups.take limit ↔ a ∈ l ∧ (before l a).card < limit := by
  -- the first element takes one place, and its repetitions are struck from the rest
  induction hn : l.length using Nat.strong_induction_on generalizing l limit with
  | _ n ih =>
    cases l with
    | nil => simp
    | cons b l =>
      cases limit with
      | zero => simp
      | succ limit =>
        rw [List.eraseDups_cons, List.take_succ_cons, List.mem_cons]
        by_cases hab : a = b
        · subst hab
          simp [before]
        · have hshort : (l.filter fun c => !c == b).length < n :=
            (List.length_filter_le _ l).trans_lt (hn ▸ Nat.lt_succ_self _)
          rw [ih _ hshort _ limit rfl, card_before_cons hab, Nat.succ_lt_succ_iff]
          simp [hab]

/-- Nothing is left out exactly where the limit allows as many. -/
theorem subset_take_iff (l : List α) (limit : ℕ) :
    (∀ a ∈ l, a ∈ l.eraseDups.take limit) ↔ l.toFinset.card ≤ limit := by
  constructor
  · intro hall
    calc l.toFinset.card ≤ (l.eraseDups.take limit).toFinset.card :=
          Finset.card_le_card fun a ha => List.mem_toFinset.mpr (hall a (List.mem_toFinset.mp ha))
      _ ≤ (l.eraseDups.take limit).length := List.toFinset_card_le _
      _ ≤ limit := List.length_take_le _ _
  · intro hfew a ha
    refine (mem_take_iff l limit a).mpr ⟨ha, lt_of_lt_of_le (Finset.card_lt_card ?_) hfew⟩
    refine Finset.ssubset_iff_of_subset ?_ |>.mpr ⟨a, List.mem_toFinset.mpr ha, ?_⟩
    · intro b hb
      exact List.mem_toFinset.mpr ((List.takeWhile_sublist _).subset (List.mem_toFinset.mp hb))
    · intro hbefore
      have hne := List.all_eq_true.mp List.all_takeWhile a (List.mem_toFinset.mp hbefore)
      exact of_decide_eq_true hne rfl

end FirstSeen
