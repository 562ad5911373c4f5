import Mathlib.Algebra.Order.Group.Nat
import Mathlib.Tactic.Tauto
import Botik.Library.Dict

/-!
# Upserts and writes that are ignored

An upsert inserts a row, or merges it into the stored row of its key: some columns are
overwritten, some are filled in only where the new row has a value, some stay as they were
inserted. Each of these rules is associative and idempotent, so a list of upserts to one key is one
upsert.

Generated keys are numbers that no stored key uses.

A write that respects a stored key changes nothing where there is one. So stored rows stay, and of
some writes each adds its row exactly where their keys are distinct and new.

## Main definitions

* `Upserts.Merging` — an associative and idempotent rule
* `Dict.upsert`, `Dict.upsertAll`
* `Dict.freshNumber` — a number above those of all keys
* `Dict.insertAll` — writes that respect stored keys, one after the other

## Main results

* `Dict.get?_upsertAll` — the row of a key is folded from the upserts of that key
* `get?_insertAll_of_some` — stored rows stay
* `length_insertAll_eq_iff` — every write adds a row
-/

/-! ### Upserts -/

namespace Upserts

variable {κ ν : Type*} {merge : ν → ν → ν}

/-- A rule to merge a new row, written first, into an old one. -/
structure Merging (merge : ν → ν → ν) : Prop where
  assoc : ∀ a b c, merge (merge a b) c = merge a (merge b c)
  idem : ∀ a, merge a a = a

/-- The row stored after an upsert, from the row stored before. -/
def stored (merge : ν → ν → ν) (v : ν) (old : Option ν) : ν := old.elim v (merge v)

/-- The row stored after some upserts of one key. -/
def storedAll (merge : ν → ν → ν) (vs : List ν) (old : Option ν) : Option ν :=
  vs.foldl (fun o v => some (stored merge v o)) old

@[simp] theorem storedAll_nil (old : Option ν) : storedAll merge [] old = old := rfl

@[simp] theorem storedAll_cons (v : ν) (vs : List ν) (old : Option ν) :
    storedAll merge (v :: vs) old = storedAll merge vs (some (stored merge v old)) := rfl

theorem storedAll_append (vs ws : List ν) (old : Option ν) :
    storedAll merge (vs ++ ws) old = storedAll merge ws (storedAll merge vs old) :=
  List.foldl_append

/-- Some upserts of one key are one upsert. -/
theorem exists_storedAll_eq (h : Merging merge) {vs : List ν} (hne : vs ≠ []) :
    ∃ v, ∀ old, storedAll merge vs old = some (stored merge v old) := by
  induction vs with
  | nil => exact absurd rfl hne
  | cons v vs ih =>
    by_cases hvs : vs = []
    · subst hvs
      exact ⟨v, fun old => rfl⟩
    obtain ⟨w, hw⟩ := ih hvs
    refine ⟨merge w v, fun old => ?_⟩
    rw [storedAll_cons, hw]
    cases old with
    | none => rfl
    | some o => exact congrArg some (h.assoc w v o).symm

/-- Upserts of one key done twice. -/
theorem storedAll_storedAll (h : Merging merge) (vs : List ν) (old : Option ν) :
    storedAll merge vs (storedAll merge vs old) = storedAll merge vs old := by
  by_cases hvs : vs = []
  · subst hvs
    rfl
  obtain ⟨v, hv⟩ := exists_storedAll_eq h hvs
  rw [hv, hv]
  cases old with
  | none => exact congrArg some (h.idem v)
  | some o =>
    have hassoc : merge v (merge v o) = merge v o := by rw [← h.assoc, h.idem]
    exact congrArg some hassoc

/-- What a map that respects merging makes of the row stored after some upserts. -/
theorem map_storedAll {f : ν → ν} (hf : ∀ a b, f (merge a b) = merge (f a) (f b)) (vs : List ν)
    (old : Option ν) : (storedAll merge vs old).map f = storedAll merge (vs.map f) (old.map f) := by
  induction vs generalizing old with
  | nil => rfl
  | cons v vs ih =>
    rw [storedAll_cons, ih, List.map_cons, storedAll_cons]
    congr 1
    cases old with
    | none => rfl
    | some o => exact congrArg some (hf v o)

/-- A property of new rows that merging keeps holds after some upserts of one key. -/
theorem exists_storedAll_of_forall {P : ν → Prop} (hmerge : ∀ new old, P new → P (merge new old))
    {vs : List ν} (hvs : ∀ v ∈ vs, P v) (hne : vs ≠ []) (old : Option ν) :
    ∃ v, storedAll merge vs old = some v ∧ P v := by
  induction vs generalizing old with
  | nil => exact absurd rfl hne
  | cons v vs ih =>
    obtain ⟨hv, hrest⟩ := List.forall_mem_cons.mp hvs
    rw [storedAll_cons]
    by_cases hvs : vs = []
    · subst hvs
      cases old with
      | none => exact ⟨v, rfl, hv⟩
      | some o => exact ⟨merge v o, rfl, hmerge v o hv⟩
    · exact ih hrest hvs _

end Upserts

namespace Dict

open Upserts

variable {κ ν : Type*} [DecidableEq κ] {merge : ν → ν → ν} {d : Dict κ ν}

/-- Insert a row, or merge it into the row of its key. -/
def upsert (merge : ν → ν → ν) (d : Dict κ ν) (k : κ) (v : ν) : Dict κ ν :=
  d.set k (stored merge v (d.get? k))

/-- A list of upserts, one after the other. -/
def upsertAll (merge : ν → ν → ν) (ws : List (κ × ν)) (d : Dict κ ν) : Dict κ ν :=
  ws.foldl (fun d w => d.upsert merge w.1 w.2) d

theorem upsertAll_append (ws vs : List (κ × ν)) (d : Dict κ ν) :
    upsertAll merge (ws ++ vs) d = upsertAll merge vs (upsertAll merge ws d) :=
  List.foldl_append

theorem get?_upsert (d : Dict κ ν) (k k' : κ) (v : ν) :
    (d.upsert merge k v).get? k' =
      if k' = k then some (stored merge v (d.get? k)) else d.get? k' :=
  get?_set _ _ _ _

@[simp] theorem get?_upsert_self (d : Dict κ ν) (k : κ) (v : ν) :
    (d.upsert merge k v).get? k = some (stored merge v (d.get? k)) :=
  get?_set_self _ _ _

/-- The row of a key after some upserts. -/
theorem get?_upsertAll (ws : List (κ × ν)) (d : Dict κ ν) (k : κ) :
    (upsertAll merge ws d).get? k =
      storedAll merge ((ws.filter fun w => w.1 = k).map Prod.snd) (d.get? k) := by
  induction ws generalizing d with
  | nil => rfl
  | cons w ws ih =>
    have hstep : (upsertAll merge (w :: ws) d).get? k =
        (upsertAll merge ws (d.upsert merge w.1 w.2)).get? k := rfl
    rw [hstep, ih, get?_upsert]
    by_cases hw : w.1 = k
    · rw [if_pos hw.symm, List.filter_cons_of_pos (by simpa using hw), List.map_cons,
        storedAll_cons, hw]
    · rw [if_neg fun h => hw h.symm, List.filter_cons_of_neg (by simpa using hw)]

/-- A key none of the upserts writes keeps its row. -/
theorem get?_upsertAll_of_not_mem {ws : List (κ × ν)} {k : κ} (h : ∀ w ∈ ws, w.1 ≠ k)
    (d : Dict κ ν) : (upsertAll merge ws d).get? k = d.get? k := by
  have hnil : (ws.filter fun w => w.1 = k) = [] := by
    rw [List.filter_eq_nil_iff]
    intro w hw
    simpa using h w hw
  rw [get?_upsertAll, hnil]
  rfl

/-- A property of the new rows of a key that merging keeps holds of its row afterwards. -/
theorem exists_get?_upsertAll_of_forall {P : ν → Prop}
    (hmerge : ∀ new old, P new → P (merge new old)) {ws : List (κ × ν)} {k : κ}
    (hws : ∀ v, (k, v) ∈ ws → P v) (hwritten : ∃ v, (k, v) ∈ ws) (d : Dict κ ν) :
    ∃ v, (upsertAll merge ws d).get? k = some v ∧ P v := by
  rw [get?_upsertAll]
  apply exists_storedAll_of_forall hmerge
  · intro v hv
    obtain ⟨w, hw, rfl⟩ := List.mem_map.mp hv
    obtain ⟨hmem, hkey⟩ := List.mem_filter.mp hw
    obtain rfl : w.1 = k := of_decide_eq_true hkey
    exact hws w.2 hmem
  · obtain ⟨v, hv⟩ := hwritten
    have hmem : v ∈ (ws.filter fun w => w.1 = k).map Prod.snd :=
      List.mem_map.mpr ⟨(k, v), List.mem_filter.mpr ⟨hv, decide_eq_true rfl⟩, rfl⟩
    exact List.ne_nil_of_mem hmem

/-- A row after some upserts is an old one, or its key was written. -/
theorem get?_upsertAll_cases (ws : List (κ × ν)) (d : Dict κ ν) (k : κ) :
    (∃ v, (k, v) ∈ ws) ∨ (upsertAll merge ws d).get? k = d.get? k := by
  by_cases hwritten : ∃ v, (k, v) ∈ ws
  · exact Or.inl hwritten
  · refine Or.inr (get?_upsertAll_of_not_mem ?_ d)
    rintro w hw rfl
    exact hwritten ⟨w.2, hw⟩

/-- A key one of the upserts writes, and no other. -/
theorem get?_upsertAll_of_mem {ws : List (κ × ν)} (hnodup : (ws.map Prod.fst).Nodup) {k : κ} {v : ν}
    (hmem : (k, v) ∈ ws) (d : Dict κ ν) :
    (upsertAll merge ws d).get? k = some (stored merge v (d.get? k)) := by
  induction ws generalizing d with
  | nil => exact absurd hmem List.not_mem_nil
  | cons w ws ih =>
    obtain ⟨hnot, hrest⟩ := List.nodup_cons.mp hnodup
    have hstep : (upsertAll merge (w :: ws) d).get? k =
        (upsertAll merge ws (d.upsert merge w.1 w.2)).get? k := rfl
    rw [hstep]
    rcases List.mem_cons.mp hmem with rfl | hmem
    · rw [get?_upsertAll_of_not_mem, get?_upsert_self]
      rintro w hw rfl
      exact hnot (List.mem_map.mpr ⟨w, hw, rfl⟩)
    · have hne : k ≠ w.1 := by
        rintro rfl
        exact hnot (List.mem_map.mpr ⟨_, hmem, rfl⟩)
      rw [ih hrest hmem, get?_upsert, if_neg hne]

/-- Upserts append new keys, which are among the written ones. -/
theorem keys_upsertAll (ws : List (κ × ν)) (d : Dict κ ν) :
    ∃ new, (upsertAll merge ws d).keys = d.keys ++ new ∧
      ∀ k ∈ new, k ∉ d.keys ∧ k ∈ ws.map Prod.fst := by
  induction ws generalizing d with
  | nil => exact ⟨[], (List.append_nil _).symm, fun k hk => absurd hk List.not_mem_nil⟩
  | cons w ws ih =>
    obtain ⟨new, hkeys, hnew⟩ := ih (d.upsert merge w.1 w.2)
    have hset := keys_set d w.1 (stored merge w.2 (d.get? w.1))
    have hstep : (upsertAll merge (w :: ws) d).keys =
        (d.set w.1 (stored merge w.2 (d.get? w.1))).keys ++ new := hkeys
    by_cases hmem : w.1 ∈ d.keys
    · rw [if_pos hmem] at hset
      refine ⟨new, by rw [hstep, hset], ?_⟩
      intro k hk
      obtain ⟨hnot, hwritten⟩ := hnew k hk
      exact ⟨hset ▸ hnot, List.mem_cons_of_mem _ hwritten⟩
    · rw [if_neg hmem] at hset
      refine ⟨w.1 :: new, by rw [hstep, hset, List.append_assoc, List.singleton_append], ?_⟩
      intro k hk
      rcases List.mem_cons.mp hk with rfl | hk
      · exact ⟨hmem, List.mem_cons_self⟩
      · obtain ⟨hnot, hwritten⟩ := hnew k hk
        have hold : (d.upsert merge w.1 w.2).keys = d.keys ++ [w.1] := hset
        rw [hold, List.mem_append, not_or] at hnot
        exact ⟨hnot.1, List.mem_cons_of_mem _ hwritten⟩

/-- Keys stay in the table. -/
theorem mem_keys_upsertAll {k : κ} (h : k ∈ d.keys) (ws : List (κ × ν)) :
    k ∈ (upsertAll merge ws d).keys := by
  obtain ⟨new, hkeys, -⟩ := keys_upsertAll ws d
  rw [hkeys]
  exact List.mem_append_left new h

/-! ### Equal rows -/

/-- Both tables have the same rows as far as `f` shows. -/
def SameRows (f : ν → ν) (d d' : Dict κ ν) : Prop :=
  ∀ k, (d'.get? k).map f = (d.get? k).map f

theorem SameRows.refl (f : ν → ν) (d : Dict κ ν) : SameRows f d d := fun _ => rfl

/-- What is written to one key, as far as `f` shows. -/
theorem map_filter_key {f : ν → ν} {ws ws' : List (κ × ν)}
    (h : ws'.map (Prod.map id f) = ws.map (Prod.map id f)) (k : κ) :
    ((ws'.filter fun w => w.1 = k).map Prod.snd).map f =
      ((ws.filter fun w => w.1 = k).map Prod.snd).map f := by
  have hshown : ∀ us : List (κ × ν), ((us.filter fun w => w.1 = k).map Prod.snd).map f =
      ((us.map (Prod.map id f)).filter fun w => w.1 = k).map Prod.snd := by
    intro us
    rw [List.filter_map, List.map_map, List.map_map]
    rfl
  rw [hshown, hshown, h]

/-- A list of upserts done again, with rows that show the same. -/
theorem sameRows_upsertAll {f : ν → ν} (h : Merging merge)
    (hf : ∀ a b, f (merge a b) = merge (f a) (f b)) {ws ws' : List (κ × ν)}
    (hws : ws'.map (Prod.map id f) = ws.map (Prod.map id f)) (d : Dict κ ν) :
    SameRows f (upsertAll merge ws d) (upsertAll merge ws' (upsertAll merge ws d)) := by
  intro k
  rw [get?_upsertAll, get?_upsertAll, map_storedAll hf, map_storedAll hf, map_filter_key hws,
    storedAll_storedAll h]

/-! ### Generated keys -/

/-- A number above those of all keys. -/
def freshNumber (number : κ → ℕ) (d : Dict κ ν) : ℕ :=
  (d.keys.map number).foldr max 0 + 1

omit [DecidableEq κ] in
theorem number_lt_freshNumber {number : κ → ℕ} {k : κ} (h : k ∈ d.keys) :
    number k < d.freshNumber number := by
  have hle : ∀ ns : List ℕ, ∀ n ∈ ns, n ≤ ns.foldr max 0 := by
    intro ns
    induction ns with
    | nil => intro n hn; exact absurd hn List.not_mem_nil
    | cons m ns ih =>
      intro n hn
      rw [List.foldr_cons]
      rcases List.mem_cons.mp hn with rfl | hn
      · exact Nat.le_max_left _ _
      · exact Nat.le_trans (ih n hn) (Nat.le_max_right _ _)
  have := hle (d.keys.map number) (number k) (List.mem_map_of_mem h)
  unfold freshNumber
  omega

/-- A key with the fresh number is no stored key. -/
theorem get?_eq_none_of_freshNumber {number : κ → ℕ} {k : κ} (h : number k = d.freshNumber number) :
    d.get? k = none := by
  refine get?_eq_none_iff.mpr fun hmem => ?_
  have hlt : number k < d.freshNumber number := number_lt_freshNumber hmem
  omega

end Dict

/-! ### Writes that are ignored -/

namespace Dict

variable {κ ν : Type*} [DecidableEq κ] {d : Dict κ ν} {rows : List (κ × ν)} {k k' : κ} {v w : ν}

/-- Writes that respect stored keys, one after the other. -/
def insertAll (rows : List (κ × ν)) (d : Dict κ ν) : Dict κ ν :=
  rows.foldl (fun d r => d.insertIfAbsent r.1 r.2) d

@[simp] theorem insertAll_nil : insertAll [] d = d := rfl

@[simp] theorem insertAll_cons (r : κ × ν) :
    insertAll (r :: rows) d = insertAll rows (d.insertIfAbsent r.1 r.2) := rfl

theorem get?_insertAll (rows : List (κ × ν)) (d : Dict κ ν) (k : κ) :
    (insertAll rows d).get? k = (d.get? k).or (valuesOf rows k).head? :=
  get?_foldl_insertIfAbsent rows d k

theorem get?_insertAll_of_some (h : d.get? k = some v) (rows : List (κ × ν)) :
    (insertAll rows d).get? k = some v := by
  rw [get?_insertAll, h, Option.some_or]

/-- Every stored row was there before, or is one of the writes. -/
theorem mem_of_get?_insertAll (h : (insertAll rows d).get? k = some v) :
    d.get? k = some v ∨ (k, v) ∈ rows := by
  rw [get?_insertAll] at h
  rcases Option.or_eq_some_iff.mp h with hold | ⟨-, hnew⟩
  · exact Or.inl hold
  · obtain ⟨⟨k', v'⟩, hrow, rfl⟩ := List.mem_map.mp (List.mem_of_head? hnew)
    obtain ⟨hmem, hkey⟩ := List.mem_filter.mp hrow
    obtain rfl : k' = k := of_decide_eq_true hkey
    exact Or.inr hmem

theorem length_insertIfAbsent_of_none (h : d.get? k = none) (v : ν) :
    (d.insertIfAbsent k v).entries.length = d.entries.length + 1 := by
  rw [insertIfAbsent_of_none h, entries_set_of_get?_eq_none h, List.length_append,
    List.length_singleton]

theorem length_insertIfAbsent_le (d : Dict κ ν) (k : κ) (v : ν) :
    (d.insertIfAbsent k v).entries.length ≤ d.entries.length + 1 := by
  cases h : d.get? k with
  | none => exact (length_insertIfAbsent_of_none h v).le
  | some w =>
    rw [insertIfAbsent_of_isSome (by simp [h])]
    omega

theorem length_insertAll_le (rows : List (κ × ν)) (d : Dict κ ν) :
    (insertAll rows d).entries.length ≤ d.entries.length + rows.length := by
  induction rows generalizing d with
  | nil => exact le_rfl
  | cons r rows ih =>
    have hrest := ih (d.insertIfAbsent r.1 r.2)
    have hfirst := length_insertIfAbsent_le d r.1 r.2
    rw [insertAll_cons, List.length_cons]
    omega

/-- Every write adds a row exactly where the keys are distinct and none of them is stored. -/
theorem length_insertAll_eq_iff (rows : List (κ × ν)) (d : Dict κ ν) :
    (insertAll rows d).entries.length = d.entries.length + rows.length ↔
      (rows.map Prod.fst).Nodup ∧ ∀ r ∈ rows, d.get? r.1 = none := by
  induction rows generalizing d with
  | nil => simp
  | cons r rows ih =>
    rw [insertAll_cons, List.map_cons, List.nodup_cons, List.length_cons, List.forall_mem_cons]
    cases h : d.get? r.1 with
    | none =>
      have hlength := length_insertIfAbsent_of_none h r.2
      have hiff := ih (d.insertIfAbsent r.1 r.2)
      rw [hlength, add_assoc, add_comm 1] at hiff
      rw [hiff]
      -- after the first write its key is stored too
      have hnew : (∀ s ∈ rows, (d.insertIfAbsent r.1 r.2).get? s.1 = none) ↔
          r.1 ∉ rows.map Prod.fst ∧ ∀ s ∈ rows, d.get? s.1 = none := by
        rw [insertIfAbsent_of_none h]
        constructor
        · intro hall
          constructor
          · rintro hmem
            obtain ⟨s, hs, hkey⟩ := List.mem_map.mp hmem
            have hstored := hall s hs
            rw [hkey, get?_set_self] at hstored
            cases hstored
          · intro s hs
            have hstored := hall s hs
            rw [get?_set] at hstored
            split_ifs at hstored
            exact hstored
        · rintro ⟨hnot, hall⟩ s hs
          rw [get?_set_of_ne, hall s hs]
          exact fun hkey => hnot (List.mem_map.mpr ⟨s, hs, hkey⟩)
      rw [hnew]
      tauto
    | some v =>
      rw [insertIfAbsent_of_isSome (by simp [h])]
      have hle := length_insertAll_le rows d
      constructor
      · intro heq
        omega
      · rintro ⟨-, hnone, -⟩
        cases hnone

end Dict
