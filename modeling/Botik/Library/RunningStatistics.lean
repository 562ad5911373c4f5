import Mathlib.Algebra.BigOperators.Group.List.Basic
import Mathlib.Algebra.BigOperators.Ring.List
import Mathlib.Algebra.Order.BigOperators.Group.List
import Mathlib.Algebra.Order.Field.Basic
import Mathlib.Algebra.Order.Group.Defs
import Mathlib.Algebra.Order.Sub.Basic
import Mathlib.Data.List.Induction
import Mathlib.Order.Bounds.Basic
import Mathlib.Tactic.Abel
import Mathlib.Tactic.FieldSimp
import Mathlib.Tactic.Ring
import Botik.Library.Dict

/-!
# Statistics in one pass

The mean of a list and the sum of the squared deviations from it, and how one more number changes
them. Only the number of elements, the mean and the squared deviations of the list before are needed
for that.

The drawdown of a curve is the greatest fall from a value to the same or to a later one. One pass
that keeps the highest value so far finds it.

A loop over rows that adds the amount of each to the entry of its key, and the rows of each key
taken together.

## Main definitions

* `Moments.mean`, `Moments.squaredDev`
* `Drawdown.drops` — the falls of a curve
* `Drawdown.scan` — the highest value and the greatest fall of a curve, in one pass
* `Dict.add` — `d[k] = d.get(k, 0) + x`
* `Dict.tally` — the loop
* `Dict.groupBy` — an aggregate of the rows of each key

## Main results

* `mean_concat`, `squaredDev_concat` — one more number
* `squaredDev_nonneg`
* `isGreatest_scan`
* `getD_get?_tally` — the entry of a key is the sum of its amounts
* `mem_keys_tally` — the keys are those of the rows
* `get?_groupBy` — the group of a key, if it has rows
-/

/-! ### Running mean and squared deviations -/

namespace Moments

variable {α : Type*} [Field α]

/-- The mean of a list; that of the empty list is zero. -/
def mean (l : List α) : α := l.sum / l.length

/-- The sum of the squared deviations from the mean. -/
def squaredDev (l : List α) : α := (l.map fun x => (x - mean l) ^ 2).sum

@[simp] theorem mean_nil : mean ([] : List α) = 0 := by simp [mean]

@[simp] theorem squaredDev_nil : squaredDev ([] : List α) = 0 := by simp [squaredDev]

theorem sum_map_sub (l : List α) (c : α) : (l.map fun x => x - c).sum = l.sum - l.length * c := by
  induction l with
  | nil => simp
  | cons x l ih =>
    simp only [List.map_cons, List.sum_cons, ih, List.length_cons, Nat.cast_add, Nat.cast_one]
    ring

/-- The squared deviations from one number and from another. -/
theorem sum_map_sub_sq_eq (l : List α) (m c : α) :
    (l.map fun x => (x - c) ^ 2).sum = (l.map fun x => (x - m) ^ 2).sum +
      2 * (m - c) * (l.map fun x => x - m).sum + l.length * (m - c) ^ 2 := by
  induction l with
  | nil => simp
  | cons x l ih =>
    simp only [List.map_cons, List.sum_cons, ih, List.length_cons, Nat.cast_add, Nat.cast_one]
    ring

theorem squaredDev_nonneg [LinearOrder α] [IsStrictOrderedRing α] (l : List α) :
    0 ≤ squaredDev l := by
  apply List.sum_nonneg
  intro y hy
  obtain ⟨x, -, rfl⟩ := List.mem_map.mp hy
  exact sq_nonneg _

variable [CharZero α]

theorem length_mul_mean (l : List α) : l.length * mean l = l.sum := by
  unfold mean
  cases l with
  | nil => simp
  | cons x l =>
    have hne : ((x :: l).length : α) ≠ 0 := Nat.cast_ne_zero.mpr (by simp)
    field_simp

/-- The mean moves towards one more number. -/
theorem mean_concat (l : List α) (x : α) :
    mean (l ++ [x]) = mean l + (x - mean l) / (l.length + 1) := by
  have hne : (l.length + 1 : α) ≠ 0 := Nat.cast_add_one_ne_zero _
  have hsum := length_mul_mean l
  have hmean : mean (l ++ [x]) = (l.sum + x) / (l.length + 1) := by simp [mean]
  rw [hmean, ← hsum]
  field_simp
  ring

/-- The squared deviations from the mean, and from any number. -/
theorem sum_map_sub_sq (l : List α) (c : α) :
    (l.map fun x => (x - c) ^ 2).sum = squaredDev l + l.length * (mean l - c) ^ 2 := by
  have hlinear : (l.map fun x => x - mean l).sum = 0 := by
    rw [sum_map_sub, length_mul_mean, sub_self]
  rw [sum_map_sub_sq_eq l (mean l) c, hlinear, mul_zero, add_zero, squaredDev]

/-- One more number adds its deviations from the mean before and from the mean after. -/
theorem squaredDev_concat (l : List α) (x : α) :
    squaredDev (l ++ [x]) = squaredDev l + (x - mean l) * (x - mean (l ++ [x])) := by
  have hne : (l.length + 1 : α) ≠ 0 := Nat.cast_add_one_ne_zero _
  have hsplit : squaredDev (l ++ [x]) =
      (l.map fun y => (y - mean (l ++ [x])) ^ 2).sum + (x - mean (l ++ [x])) ^ 2 := by
    rw [squaredDev, List.map_append, List.sum_append, List.map_singleton, List.sum_singleton]
  rw [hsplit, sum_map_sub_sq, mean_concat]
  field_simp
  ring

end Moments

/-! ### Drawdown -/

namespace Drawdown

variable {α : Type*} [AddCommGroup α] [LinearOrder α]

/-- The falls from a value to the same or to a later one. -/
def drops (curve : List α) : Set α :=
  {d | ∃ i j, ∃ _ : i < curve.length, ∃ _ : j < curve.length, i ≤ j ∧ d = curve[i] - curve[j]}

/-- One value more. -/
def step (s : α × α) (val : α) : α × α :=
  let peak := if s.1 < val then val else s.1
  let dd := peak - val
  (peak, if s.2 < dd then dd else s.2)

/-- The highest value and the greatest fall, from a first value on. -/
def scan (first : α) (curve : List α) : α × α := curve.foldl step (first, 0)

variable {first x d : α} {curve : List α}

theorem scan_concat : scan first (curve ++ [x]) = step (scan first curve) x := by
  simp [scan]

theorem step_eq (s : α × α) (val : α) :
    step s val = (max s.1 val, max s.2 (max s.1 val - val)) := by
  have hpeak : (if s.1 < val then val else s.1) = max s.1 val := by
    split_ifs with h
    · exact (max_eq_right h.le).symm
    · exact (max_eq_left (not_lt.mp h)).symm
  unfold step
  dsimp only
  rw [hpeak]
  split_ifs with h
  · rw [max_eq_right h.le]
  · rw [max_eq_left (not_lt.mp h)]

omit [LinearOrder α] in
/-- The falls with one value more: the old ones, and those to the new value. -/
theorem mem_drops_concat :
    d ∈ drops (curve ++ [x]) ↔ d ∈ drops curve ∨ ∃ a ∈ curve ++ [x], d = a - x := by
  constructor
  · rintro ⟨i, j, hi, hj, hij, rfl⟩
    have hbound : j < curve.length + 1 := by simpa using hj
    rcases Nat.lt_succ_iff_lt_or_eq.mp hbound with hlt | rfl
    · left
      refine ⟨i, j, hij.trans_lt hlt, hlt, hij, ?_⟩
      rw [List.getElem_append_left (hij.trans_lt hlt), List.getElem_append_left hlt]
    · right
      refine ⟨_, List.getElem_mem hi, ?_⟩
      rw [List.getElem_concat_length rfl]
  · rintro (⟨i, j, hi, hj, hij, rfl⟩ | ⟨a, ha, rfl⟩)
    · refine ⟨i, j, by simp; omega, by simp; omega, hij, ?_⟩
      rw [List.getElem_append_left hi, List.getElem_append_left hj]
    · obtain ⟨i, hi, rfl⟩ := List.getElem_of_mem ha
      have hle : i ≤ curve.length := Nat.lt_succ_iff.mp (by simpa using hi)
      refine ⟨i, curve.length, hi, by simp, hle, ?_⟩
      rw [List.getElem_concat_length rfl]

variable [IsOrderedAddMonoid α]

/-- One pass finds the highest value and the greatest fall. -/
theorem isGreatest_scan (first : α) (rest : List α) :
    IsGreatest {a | a ∈ first :: rest} (scan first (first :: rest)).1 ∧
      IsGreatest (drops (first :: rest)) (scan first (first :: rest)).2 := by
  induction rest using List.reverseRecOn with
  | nil =>
    have hscan : scan first [first] = (first, 0) := by
      change step (first, 0) first = _
      rw [step_eq, max_self, sub_self, max_self]
    rw [hscan]
    refine ⟨⟨by simp, ?_⟩, ⟨0, 0, by simp, by simp, le_rfl, by simp⟩, ?_⟩
    · intro a ha
      exact (List.mem_singleton.mp ha).le
    · rintro d ⟨i, j, hi, hj, hij, rfl⟩
      have hzero : j = 0 := by simpa using hj
      subst hzero
      obtain rfl := Nat.le_zero.mp hij
      simp
  -- one value more: the peak and the falls from it are compared with the old ones
  | append_singleton rest x ih =>
    obtain ⟨⟨hpeak, hhighest⟩, hdrop, hgreatest⟩ := ih
    rw [← List.cons_append, scan_concat, step_eq]
    -- the new peak is above all, and one of them
    have hmem : ∀ a ∈ first :: rest ++ [x], a ≤ max (scan first (first :: rest)).1 x := by
      intro a ha
      rcases List.mem_append.mp ha with hold | hnew
      · exact le_max_of_le_left (hhighest hold)
      · rw [List.mem_singleton.mp hnew]
        exact le_max_right _ _
    have htop : max (scan first (first :: rest)).1 x ∈ first :: rest ++ [x] := by
      rcases max_choice (scan first (first :: rest)).1 x with hmax | hmax
      · rw [hmax]
        exact List.mem_append_left _ hpeak
      · rw [hmax]
        simp
    refine ⟨⟨htop, hmem⟩, ?_, ?_⟩
    -- the greatest fall is an old one, or from the peak to the new value
    · rcases max_choice (scan first (first :: rest)).2
        (max (scan first (first :: rest)).1 x - x) with hmax | hmax
      · rw [hmax]
        exact mem_drops_concat.mpr (Or.inl hdrop)
      · rw [hmax]
        exact mem_drops_concat.mpr (Or.inr ⟨_, htop, rfl⟩)
    · intro d hd
      rcases mem_drops_concat.mp hd with hold | ⟨a, ha, rfl⟩
      · exact le_max_of_le_left (hgreatest hold)
      · exact le_max_of_le_right (sub_le_sub_right (hmem a ha) x)

end Drawdown

/-! ### Tallies -/

namespace Dict

variable {κ M : Type*} [DecidableEq κ] [AddMonoid M]

/-- `d[k] = d.get(k, 0) + x`. -/
def add (d : Dict κ M) (k : κ) (x : M) : Dict κ M := d.set k ((d.get? k).getD 0 + x)

/-- Add every row to the entry of its key. -/
def tally (rows : List (κ × M)) : Dict κ M := rows.foldl (fun d r => d.add r.1 r.2) empty

theorem getD_get?_add (d : Dict κ M) (k k' : κ) (x : M) :
    ((d.add k x).get? k').getD 0 = (d.get? k').getD 0 + if k = k' then x else 0 := by
  rw [add, get?_set]
  by_cases h : k' = k
  · rw [if_pos h, if_pos h.symm, h]
    rfl
  · rw [if_neg h, if_neg (Ne.symm h), add_zero]

theorem getD_get?_foldl_add (rows : List (κ × M)) (d : Dict κ M) (k : κ) :
    ((rows.foldl (fun d r => d.add r.1 r.2) d).get? k).getD 0 =
      (d.get? k).getD 0 + (valuesOf rows k).sum := by
  induction rows generalizing d with
  | nil => simp
  | cons r rows ih =>
    obtain ⟨k', x⟩ := r
    rw [List.foldl_cons, ih, getD_get?_add, add_assoc]
    by_cases h : k' = k
    · rw [if_pos h, h, valuesOf_cons_self, List.sum_cons]
    · rw [if_neg h, zero_add, valuesOf_cons_of_ne h]

/-- The entry of a key is the sum of the amounts of its rows. -/
theorem getD_get?_tally (rows : List (κ × M)) (k : κ) :
    ((tally rows).get? k).getD 0 = (valuesOf rows k).sum := by
  rw [tally, getD_get?_foldl_add]
  exact zero_add _

theorem mem_keys_foldl_add (rows : List (κ × M)) (d : Dict κ M) (k : κ) :
    k ∈ (rows.foldl (fun d r => d.add r.1 r.2) d).keys ↔ k ∈ d.keys ∨ k ∈ rows.map Prod.fst := by
  induction rows generalizing d with
  | nil => simp
  | cons r rows ih =>
    rw [List.foldl_cons, ih, add, keys_set, List.map_cons, List.mem_cons]
    split_ifs with hmem
    · constructor
      · tauto
      · rintro (h | rfl | h)
        · exact Or.inl h
        · exact Or.inl hmem
        · exact Or.inr h
    · rw [List.mem_append, List.mem_singleton]
      tauto

/-- The keys are those of the rows. -/
theorem mem_keys_tally {rows : List (κ × M)} {k : κ} :
    k ∈ (tally rows).keys ↔ k ∈ rows.map Prod.fst := by
  rw [tally, mem_keys_foldl_add]
  simp [empty, keys]

/-- Rows of amount one are counted. -/
theorem getD_get?_tally_one (ks : List κ) (k : κ) :
    ((tally (ks.map fun k => (k, 1))).get? k).getD 0 = ks.count k := by
  rw [getD_get?_tally]
  induction ks with
  | nil => rfl
  | cons k' ks ih =>
    rw [List.map_cons, List.count_cons]
    by_cases h : k' = k
    · rw [h, valuesOf_cons_self, List.sum_cons, ih]
      simp [Nat.add_comm]
    · rw [valuesOf_cons_of_ne h, ih]
      simp [h]

/-! ### Groups -/

section Groups

variable {κ ν μ : Type*} [DecidableEq κ]

/-- An aggregate of the rows of each key: `GROUP BY`. -/
def groupBy (f : List ν → μ) (rows : List (κ × ν)) : Dict κ μ :=
  rows.foldl (fun d r => d.insertIfAbsent r.1 (f (valuesOf rows r.1))) empty

/-- A key without rows has no values. -/
theorem valuesOf_eq_nil_iff {rows : List (κ × ν)} {k : κ} :
    valuesOf rows k = [] ↔ k ∉ rows.map Prod.fst := by
  induction rows with
  | nil => simp
  | cons r rows ih =>
    obtain ⟨k', v⟩ := r
    by_cases h : k' = k
    · rw [h, valuesOf_cons_self]
      simp
    · rw [valuesOf_cons_of_ne h, ih]
      simp [Ne.symm h]

/-- The group of a key, if it has rows. -/
theorem get?_groupBy (f : List ν → μ) (rows : List (κ × ν)) (k : κ) :
    (groupBy f rows).get? k =
      if k ∈ rows.map Prod.fst then some (f (valuesOf rows k)) else none := by
  have hrows : groupBy f rows =
      (rows.map fun r => (r.1, f (valuesOf rows r.1))).foldl
        (fun d r => d.insertIfAbsent r.1 r.2) empty := by
    rw [List.foldl_map]
    rfl
  -- all candidates for a key are the same aggregate
  have hvalues : ∀ rows' : List (κ × ν),
      (valuesOf (rows'.map fun r => (r.1, f (valuesOf rows r.1))) k).head? =
        if k ∈ rows'.map Prod.fst then some (f (valuesOf rows k)) else none := by
    intro rows'
    induction rows' with
    | nil => simp
    | cons r rows' ih =>
      obtain ⟨k', v⟩ := r
      rw [List.map_cons, List.map_cons]
      by_cases h : k' = k
      · rw [h, valuesOf_cons_self]
        simp
      · have hmem : k ∈ (k', v).1 :: rows'.map Prod.fst ↔ k ∈ rows'.map Prod.fst := by
          simp [Ne.symm h]
        rw [valuesOf_cons_of_ne h, ih]
        exact (if_congr hmem rfl rfl).symm
  rw [hrows, get?_foldl_insertIfAbsent, get?_empty, Option.none_or, hvalues]

end Groups

end Dict
