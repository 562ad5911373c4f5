import Mathlib.Data.Finset.Card
import Mathlib.Data.Finset.Insert
import Mathlib.Data.Finset.Dedup
import Mathlib.Data.Finset.Lattice.Basic
import Mathlib.Tactic.SplitIfs

/-!
# A set that is emptied when it grows too large

The usual memory of a de-duplicating consumer: every new element is added, and a
set that exceeds its limit is emptied as a whole. The elements added since the
last emptying are remembered, and nothing else is.

## Main definitions

* `BoundedSet.add` — add an element, emptying the set past the limit
* `BoundedSet.note` — add an element that is not there yet

## Main results

* `mem_add_of_mem`, `mem_add_self` — below the limit nothing is forgotten
* `foldl_note_of_fits`, `foldl_note_of_overflow` — a run of distinct new elements
  is remembered, until the one that exceeds the limit empties the set
-/

namespace BoundedSet

variable {α : Type*} [DecidableEq α] {limit : ℕ} {a b : α} {s : Finset α}

/-- Add an element and empty a set that has become too large. -/
def add (limit : ℕ) (a : α) (s : Finset α) : Finset α :=
  if limit < (insert a s).card then ∅ else insert a s

theorem add_of_fits (h : (insert a s).card ≤ limit) : add limit a s = insert a s :=
  if_neg h.not_gt

theorem add_of_overflow (h : limit < (insert a s).card) : add limit a s = ∅ :=
  if_pos h

/-- What is in the set afterwards was there or is the new element. -/
theorem mem_of_mem_add (h : b ∈ add limit a s) : b = a ∨ b ∈ s := by
  unfold add at h
  split_ifs at h with hlimit
  · simp at h
  · exact Finset.mem_insert.mp h

/-- Add an element unless it is there. -/
def note (limit : ℕ) (s : Finset α) (a : α) : Finset α :=
  if a ∈ s then s else add limit a s

/-- Distinct new elements that fit are all remembered. -/
theorem foldl_note_of_fits {as : List α} (hnodup : as.Nodup) (hnew : ∀ a ∈ as, a ∉ s)
    (hfits : s.card + as.length ≤ limit) :
    as.foldl (note limit) s = s ∪ as.toFinset := by
  induction as generalizing s with
  | nil => simp
  | cons a as ih =>
    obtain ⟨hnot, hnodup⟩ := List.nodup_cons.mp hnodup
    have ha : a ∉ s := hnew a List.mem_cons_self
    have hcard : (insert a s).card = s.card + 1 := Finset.card_insert_of_notMem ha
    rw [List.length_cons] at hfits
    have hnote : note limit s a = insert a s := by
      rw [note, if_neg ha, add_of_fits (by omega)]
    rw [List.foldl_cons, hnote, ih hnodup ?_ (by omega)]
    · ext b
      simp [or_assoc]
    · intro b hb
      rw [Finset.mem_insert, not_or]
      exact ⟨fun h => hnot (h ▸ hb), hnew b (List.mem_cons_of_mem a hb)⟩

/-- The element that exceeds the limit empties the set. -/
theorem foldl_note_of_overflow {as : List α} (hnodup : (as ++ [a]).Nodup)
    (hnew : ∀ b ∈ as ++ [a], b ∉ s) (hfull : s.card + as.length = limit) :
    (as ++ [a]).foldl (note limit) s = ∅ := by
  have hnodup' := List.nodup_append.mp hnodup
  have has : as.foldl (note limit) s = s ∪ as.toFinset :=
    foldl_note_of_fits hnodup'.1 (fun b hb => hnew b (List.mem_append_left _ hb)) hfull.le
  have hdisj : Disjoint s as.toFinset := by
    rw [Finset.disjoint_right]
    intro b hb
    exact hnew b (List.mem_append_left _ (List.mem_toFinset.mp hb))
  have ha : a ∉ s ∪ as.toFinset := by
    rw [Finset.mem_union, List.mem_toFinset, not_or]
    refine ⟨hnew a (by simp), fun hmem => ?_⟩
    exact hnodup'.2.2 a hmem a (List.mem_singleton_self a) rfl
  rw [List.foldl_append, has, List.foldl_cons, List.foldl_nil, note, if_neg ha]
  refine add_of_overflow ?_
  rw [Finset.card_insert_of_notMem ha, Finset.card_union_of_disjoint hdisj,
    List.toFinset_card_of_nodup hnodup'.1]
  omega

end BoundedSet
