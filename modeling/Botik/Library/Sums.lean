import Mathlib.Algebra.BigOperators.Group.List.Basic
import Mathlib.Algebra.Group.Basic
import Mathlib.Algebra.Order.BigOperators.Group.List
import Mathlib.Tactic.Abel
import Botik.Library.Dict

/-!
# Sums over the rows of a key

A table is summed up row by row, or key by key; both give the same.

## Main definitions

* `Sums.total` — a table summed up row by row

## Main results

* `Sums.total_set_of_none`, `Sums.total_set_of_some`, `Sums.total_erase` — the sum after a row is
  added, rewritten or removed
* `Sums.sum_map_filter` — selected rows, as a sum over all of them
* `Sums.sum_map_eq_zero_iff` — when a sum of what is not negative is zero
* `Sums.sum_map_by_key` — the sum over all rows, key by key
-/

namespace Sums

variable {α κ M : Type*} [AddCommMonoid M]

/-- Rows that are not selected count for nothing. -/
theorem sum_map_filter (p : α → Bool) (f : α → M) (l : List α) :
    ((l.filter p).map f).sum = (l.map fun a => if p a then f a else 0).sum := by
  induction l with
  | nil => rfl
  | cons a l ih =>
    by_cases h : p a
    · simp [h, ih]
    · simp [h, ih]

/-- A sum of what is not negative is zero only if everything in it is. -/
theorem sum_map_eq_zero_iff [PartialOrder M] [IsOrderedAddMonoid M] {f : α → M} {l : List α}
    (h : ∀ a ∈ l, 0 ≤ f a) : (l.map f).sum = 0 ↔ ∀ a ∈ l, f a = 0 := by
  constructor
  · intro hsum a ha
    apply List.all_zero_of_le_zero_le_of_sum_eq_zero _ hsum (List.mem_map_of_mem ha)
    intro m hm
    obtain ⟨b, hb, rfl⟩ := List.mem_map.mp hm
    exact h b hb
  · intro hzero
    rw [List.map_congr_left hzero]
    simp

/-- One row counts under one key. -/
theorem sum_map_indicator [DecidableEq κ] {keys : List κ} (hnodup : keys.Nodup) {k : κ}
    (hk : k ∈ keys) (m : M) : (keys.map fun k' => if k = k' then m else 0).sum = m := by
  induction keys with
  | nil => exact absurd hk List.not_mem_nil
  | cons k₀ keys ih =>
    obtain ⟨hnot, hnodup⟩ := List.nodup_cons.mp hnodup
    rw [List.map_cons, List.sum_cons]
    by_cases h : k = k₀
    · have hrest : keys.map (fun k' => if k = k' then m else 0) = keys.map fun _ => 0 := by
        refine List.map_congr_left fun k' hk' => if_neg fun heq => hnot ?_
        rwa [← h, heq]
      rw [if_pos h, hrest, List.sum_map_zero, add_zero]
    · rw [if_neg h, zero_add]
      exact ih hnodup ((List.mem_cons.mp hk).resolve_left h)

/-- The sum over all rows, key by key. -/
theorem sum_map_by_key [DecidableEq κ] {keys : List κ} (hnodup : keys.Nodup) (key : α → κ)
    (f : α → M) {l : List α} (h : ∀ a ∈ l, key a ∈ keys) :
    (keys.map fun k => (l.map fun a => if key a = k then f a else 0).sum).sum =
      (l.map f).sum := by
  induction l with
  | nil => simp
  | cons a l ih =>
    obtain ⟨ha, hl⟩ := List.forall_mem_cons.mp h
    simp only [List.map_cons, List.sum_cons]
    rw [List.sum_map_add, ih hl, sum_map_indicator hnodup ha]

/-! ### Tables -/

section Tables

variable {ν : Type*}

/-- The sum over the rows of a table. -/
def total (f : κ → ν → M) (d : Dict κ ν) : M := (d.entries.map fun e => f e.1 e.2).sum

@[simp] theorem total_empty (f : κ → ν → M) : total f Dict.empty = 0 := rfl

variable [DecidableEq κ] {d : Dict κ ν} {k : κ} {v : ν}

/-- A new row is added to the sum. -/
theorem total_set_of_none (f : κ → ν → M) (h : d.get? k = none) (v : ν) :
    total f (d.set k v) = total f d + f k v := by
  unfold total
  rw [Dict.entries_set_of_get?_eq_none h, List.map_append, List.sum_append]
  simp

/-- A rewritten row is exchanged in the sum. -/
theorem total_set_of_some (f : κ → ν → M) (h : d.get? k = some v) (v' : ν) :
    total f (d.set k v') + f k v = total f d + f k v' := by
  have hentries : ∀ es : List (κ × ν), (es.map Prod.fst).Nodup → (k, v) ∈ es →
      ((Dict.setEntries k v' es).map fun e => f e.1 e.2).sum + f k v =
        (es.map fun e => f e.1 e.2).sum + f k v' := by
    intro es hnodup hmem
    induction es with
    | nil => exact absurd hmem List.not_mem_nil
    | cons e es ih =>
      obtain ⟨hnot, hrest⟩ := List.nodup_cons.mp hnodup
      rcases List.mem_cons.mp hmem with heq | hmem
      · subst heq
        rw [Dict.setEntries, if_pos rfl]
        simp only [List.map_cons, List.sum_cons]
        rw [add_right_comm, add_comm (f k v'), add_right_comm]
      · have hne : e.1 ≠ k := fun hkey => hnot (List.mem_map.mpr ⟨_, hmem, hkey.symm⟩)
        rw [Dict.setEntries, if_neg hne, List.map_cons, List.sum_cons, List.map_cons, List.sum_cons,
          add_assoc, ih hrest hmem, ← add_assoc]
  exact hentries d.entries d.nodupKeys (Dict.mem_entries_iff.mpr h)

/-- A removed row is missing from the sum. -/
theorem total_erase (f : κ → ν → M) (h : d.get? k = some v) :
    total f d = total f (d.erase k) + f k v := by
  have hentries : ∀ es : List (κ × ν), (es.map Prod.fst).Nodup → (k, v) ∈ es →
      (es.map fun e => f e.1 e.2).sum =
        ((es.filter fun e => e.1 ≠ k).map fun e => f e.1 e.2).sum + f k v := by
    intro es hnodup hmem
    induction es with
    | nil => exact absurd hmem List.not_mem_nil
    | cons e es ih =>
      obtain ⟨hnot, hrest⟩ := List.nodup_cons.mp hnodup
      rcases List.mem_cons.mp hmem with heq | hmem
      · subst heq
        -- no later row has this key
        have hkept : es.filter (fun e => e.1 ≠ k) = es := by
          apply List.filter_eq_self.mpr
          intro e he
          have hne : e.1 ≠ k := fun hkey => hnot (List.mem_map.mpr ⟨e, he, hkey⟩)
          exact decide_eq_true hne
        simp only [List.map_cons, List.sum_cons, ne_eq, not_true_eq_false, decide_false,
          Bool.false_eq_true, not_false_eq_true, List.filter_cons_of_neg]
        rw [hkept, add_comm]
      · have hne : e.1 ≠ k := fun hkey => hnot (List.mem_map.mpr ⟨_, hmem, hkey.symm⟩)
        have hkept : (e :: es).filter (fun e => e.1 ≠ k) = e :: es.filter fun e => e.1 ≠ k :=
          List.filter_cons_of_pos (decide_eq_true hne)
        rw [hkept, List.map_cons, List.sum_cons, ih hrest hmem, List.map_cons, List.sum_cons,
          add_assoc]
  exact hentries d.entries d.nodupKeys (Dict.mem_entries_iff.mpr h)

end Tables

section Group

variable {G ν : Type*} [AddCommGroup G]

/-- Differences are summed up row by row. -/
theorem total_sub (f g : κ → ν → G) (d : Dict κ ν) :
    total (fun k v => f k v - g k v) d = total f d - total g d := by
  unfold total
  induction d.entries with
  | nil => simp
  | cons e es ih =>
    simp only [List.map_cons, List.sum_cons] at ih ⊢
    rw [ih]
    abel

end Group

end Sums
