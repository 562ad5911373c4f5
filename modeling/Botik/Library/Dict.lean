import Mathlib.Data.List.Basic
import Mathlib.Data.List.Nodup
import Mathlib.Tactic.Basic

/-!
# Finite maps in insertion order

A `Dict` is a list of key-value pairs without repeated keys. Writing an existing
key changes its value in place; writing a new key appends it. This is the
iteration order of a scripting-language dictionary, and the row order of a
database table with a uniqueness constraint on its key columns, written by
upserts. The uniqueness is a field of the structure, so a table holding two rows
of one key cannot be built.

## Main definitions

* `Dict.get?`, `Dict.set` — lookup, and write in place or at the end
* `Dict.insertIfAbsent` — write that ignores a key already present
* `Dict.valuesOf` — what a list of writes has for one key
* `Dict.update` — rewrite the value of one key, if it is there
* `Dict.mapValues` — rewrite every value
* `Dict.erase` — remove a key

## Main results

* `get?_set_self`, `get?_set_of_ne` — lookup after a write
* `mem_entries_iff` — the entries are the graph of the lookup
* `get?_foldl_insertIfAbsent` — of writes that ignore present keys the first one counts
* `isSome_get?_foldl_set` — what is found after entries were written
* `foldl_set_entries` — a map is written entry by entry
* `filter_entries_eq_nil`, `filter_entries_eq_singleton` — a selection of rows
  from what the lookup says about the selected keys
-/

/-- A finite map from `κ` to `ν` that remembers the order of first insertion. -/
structure Dict (κ ν : Type*) where
  /-- The pairs, oldest key first. -/
  entries : List (κ × ν)
  /-- No key occurs twice. -/
  nodupKeys : (entries.map Prod.fst).Nodup

namespace Dict

variable {κ ν : Type*} {d d' : Dict κ ν} {k k' : κ} {v v' : ν}

/-- The map without entries. -/
def empty : Dict κ ν := ⟨[], List.nodup_nil⟩

/-- The keys, in insertion order. -/
def keys (d : Dict κ ν) : List κ := d.entries.map Prod.fst

@[simp] theorem entries_empty : (empty : Dict κ ν).entries = [] := rfl

variable [DecidableEq κ]

/-- The value under a key. -/
def get? (d : Dict κ ν) (k : κ) : Option ν :=
  (d.entries.find? fun e => e.1 = k).map Prod.snd

@[simp] theorem get?_empty (k : κ) : (empty : Dict κ ν).get? k = none := rfl

/-- The entries are the graph of the lookup. -/
theorem mem_entries_iff : (k, v) ∈ d.entries ↔ d.get? k = some v := by
  unfold get?
  constructor
  · intro hmem
    cases hfind : d.entries.find? (fun e => e.1 = k) with
    | none =>
      have := List.find?_eq_none.mp hfind _ hmem
      simp at this
    | some e =>
      have hkey : e.1 = k := by simpa using List.find?_some hfind
      have heq : e = (k, v) :=
        List.inj_on_of_nodup_map d.nodupKeys (List.mem_of_find?_eq_some hfind) hmem hkey
      rw [heq]; rfl
  · intro hget
    obtain ⟨e, hfind, rfl⟩ := Option.map_eq_some_iff.mp hget
    have hkey : e.1 = k := by simpa using List.find?_some hfind
    rw [← hkey]
    exact List.mem_of_find?_eq_some hfind

theorem get?_eq_none_iff : d.get? k = none ↔ k ∉ d.keys := by
  rw [Option.eq_none_iff_forall_ne_some]
  constructor
  · intro h hmem
    obtain ⟨⟨k₀, v⟩, hentry, rfl⟩ := List.mem_map.mp hmem
    exact h v (mem_entries_iff.mp hentry)
  · intro h v hget
    exact h (List.mem_map.mpr ⟨(k, v), mem_entries_iff.mpr hget, rfl⟩)

theorem mem_keys_iff : k ∈ d.keys ↔ ∃ v, d.get? k = some v := by
  rw [← not_iff_not, ← get?_eq_none_iff, Option.eq_none_iff_forall_ne_some, not_exists]

/-! ### Writing -/

/-- Replace the pair of `k` in place, or append it. -/
def setEntries (k : κ) (v : ν) : List (κ × ν) → List (κ × ν)
  | [] => [(k, v)]
  | e :: es => if e.1 = k then (k, v) :: es else e :: setEntries k v es

theorem map_fst_setEntries (k : κ) (v : ν) (es : List (κ × ν)) :
    (setEntries k v es).map Prod.fst =
      if k ∈ es.map Prod.fst then es.map Prod.fst else es.map Prod.fst ++ [k] := by
  induction es with
  | nil => simp [setEntries]
  | cons e es ih =>
    by_cases hkey : e.1 = k
    · simp [setEntries, hkey]
    · have hne : k ≠ e.1 := fun h => hkey h.symm
      simp only [setEntries, hkey, if_false, List.map_cons, ih, List.mem_cons, hne, false_or]
      split_ifs <;> simp

/-- Write `v` under `k`. -/
def set (d : Dict κ ν) (k : κ) (v : ν) : Dict κ ν where
  entries := setEntries k v d.entries
  nodupKeys := by
    rw [map_fst_setEntries]
    split_ifs with hmem
    · exact d.nodupKeys
    · exact List.nodup_append.mpr ⟨d.nodupKeys, List.nodup_singleton k, by
        simpa using fun a ha (h : a = k) => hmem (h ▸ ha)⟩

theorem keys_set (d : Dict κ ν) (k : κ) (v : ν) :
    (d.set k v).keys = if k ∈ d.keys then d.keys else d.keys ++ [k] :=
  map_fst_setEntries k v d.entries

@[simp] theorem get?_set_self (d : Dict κ ν) (k : κ) (v : ν) : (d.set k v).get? k = some v := by
  have hentries : ∀ es : List (κ × ν), (k, v) ∈ setEntries k v es := by
    intro es
    induction es with
    | nil => simp [setEntries]
    | cons e es ih =>
      unfold setEntries
      split_ifs
      · exact List.mem_cons_self
      · exact List.mem_cons_of_mem _ ih
  exact mem_entries_iff.mp (hentries d.entries)

theorem get?_set_of_ne (h : k' ≠ k) (d : Dict κ ν) (v : ν) : (d.set k v).get? k' = d.get? k' := by
  have hfind : ∀ es : List (κ × ν),
      (setEntries k v es).find? (fun e => e.1 = k') = es.find? (fun e => e.1 = k') := by
    intro es
    induction es with
    | nil => simp [setEntries, h.symm]
    | cons e es ih =>
      unfold setEntries
      split_ifs with hkey
      · simp [h.symm, hkey]
      · simp only [List.find?_cons, ih]
  simp only [get?, set, hfind]

theorem get?_set (d : Dict κ ν) (k k' : κ) (v : ν) :
    (d.set k v).get? k' = if k' = k then some v else d.get? k' := by
  split_ifs with h
  · rw [h, get?_set_self]
  · exact get?_set_of_ne h d v

/-- Writing a key that is not there appends its pair. -/
theorem entries_set_of_get?_eq_none (h : d.get? k = none) :
    (d.set k v).entries = d.entries ++ [(k, v)] := by
  have hnot : k ∉ d.entries.map Prod.fst := get?_eq_none_iff.mp h
  have hset : ∀ es : List (κ × ν), k ∉ es.map Prod.fst →
      setEntries k v es = es ++ [(k, v)] := by
    intro es
    induction es with
    | nil => intro _; rfl
    | cons e es ih =>
      intro hne
      rw [List.map_cons, List.mem_cons, not_or] at hne
      rw [setEntries, if_neg fun h => hne.1 h.symm, ih hne.2, List.cons_append]
  exact hset d.entries hnot

omit [DecidableEq κ] in
theorem ext_entries (h : d.entries = d'.entries) : d = d' := by
  cases d
  cases d'
  simpa only [mk.injEq] using h

/-- Writing keys that are not there appends their pairs. -/
theorem entries_foldl_set {es : List (κ × ν)} (h : (d.keys ++ es.map Prod.fst).Nodup) :
    (es.foldl (fun d e => d.set e.1 e.2) d).entries = d.entries ++ es := by
  induction es generalizing d with
  | nil => exact (List.append_nil _).symm
  | cons e es ih =>
    have hnot : d.get? e.1 = none := by
      refine get?_eq_none_iff.mpr fun hmem => ?_
      exact List.disjoint_of_nodup_append h hmem List.mem_cons_self
    have hset := entries_set_of_get?_eq_none (v := e.2) hnot
    have hkeys : (d.set e.1 e.2).keys = d.keys ++ [e.1] := by
      rw [keys, hset, List.map_append]
      rfl
    rw [List.foldl_cons, ih, hset, List.append_assoc]
    · rfl
    · rw [hkeys, List.append_assoc]
      exact h

/-- What is found after entries were written is one of them, or it was there before. -/
theorem mem_or_of_get?_foldl_set {es : List (κ × ν)} {d : Dict κ ν} {k : κ} {v : ν}
    (h : (es.foldl (fun d e => d.set e.1 e.2) d).get? k = some v) :
    (k, v) ∈ es ∨ d.get? k = some v := by
  induction es generalizing d with
  | nil => exact .inr h
  | cons e es ih =>
    rcases ih h with hmem | hset
    · exact .inl (List.mem_cons_of_mem _ hmem)
    · by_cases hk : k = e.1
      · rw [hk, get?_set_self] at hset
        rw [hk, ← Option.some.inj hset]
        exact .inl List.mem_cons_self
      · rw [get?_set_of_ne hk] at hset
        exact .inr hset

/-- A key is found after entries were written if it is one of theirs, or was found before. -/
theorem isSome_get?_foldl_set {es : List (κ × ν)} {d : Dict κ ν} {k : κ} :
    ((es.foldl (fun d e => d.set e.1 e.2) d).get? k).isSome ↔
      k ∈ es.map Prod.fst ∨ (d.get? k).isSome := by
  induction es generalizing d with
  | nil => simp
  | cons e es ih =>
    rw [List.foldl_cons, ih, List.map_cons, List.mem_cons]
    by_cases hk : k = e.1
    · simp [hk]
    · simp [hk, get?_set_of_ne hk]

/-- A map is written entry by entry. -/
theorem foldl_set_entries (d : Dict κ ν) :
    d.entries.foldl (fun d e => d.set e.1 e.2) .empty = d :=
  ext_entries (entries_foldl_set d.nodupKeys)

/-- Writing what is there changes nothing. -/
theorem set_of_get?_eq_some (h : d.get? k = some v) : d.set k v = d := by
  have hset : ∀ es : List (κ × ν), (es.map Prod.fst).Nodup → (k, v) ∈ es →
      setEntries k v es = es := by
    intro es hnodup hmem
    induction es with
    | nil => exact absurd hmem List.not_mem_nil
    | cons e es ih =>
      obtain ⟨hnot, hrest⟩ := List.nodup_cons.mp hnodup
      rcases List.mem_cons.mp hmem with rfl | hmem
      · simp [setEntries]
      · have hne : e.1 ≠ k := fun heq => hnot (heq ▸ List.mem_map_of_mem hmem)
        rw [setEntries, if_neg hne, ih hrest hmem]
  have hentries := hset d.entries d.nodupKeys (mem_entries_iff.mpr h)
  cases d
  simpa only [set, mk.injEq] using hentries

/-- Rewrite every value. -/
def mapValues (f : ν → ν) (d : Dict κ ν) : Dict κ ν where
  entries := d.entries.map fun e => (e.1, f e.2)
  nodupKeys := by simpa [Function.comp_def] using d.nodupKeys

@[simp] theorem get?_mapValues (f : ν → ν) (d : Dict κ ν) (k : κ) :
    (d.mapValues f).get? k = (d.get? k).map f := by
  simp [get?, mapValues, List.find?_map, Function.comp_def]

omit [DecidableEq κ] in
theorem mapValues_mapValues (f g : ν → ν) (d : Dict κ ν) :
    (d.mapValues f).mapValues g = d.mapValues (g ∘ f) := by
  simp [mapValues, Function.comp_def]

/-- Write `v` under `k` unless `k` has a value already. -/
def insertIfAbsent (d : Dict κ ν) (k : κ) (v : ν) : Dict κ ν :=
  if (d.get? k).isSome then d else d.set k v

theorem insertIfAbsent_of_none (h : d.get? k = none) : d.insertIfAbsent k v = d.set k v := by
  simp [insertIfAbsent, h]

theorem insertIfAbsent_of_isSome (h : (d.get? k).isSome) : d.insertIfAbsent k v = d := by
  simp [insertIfAbsent, h]

theorem get?_insertIfAbsent_self (d : Dict κ ν) (k : κ) (v : ν) :
    (d.insertIfAbsent k v).get? k = some ((d.get? k).getD v) := by
  cases h : d.get? k with
  | none => simp [insertIfAbsent, h]
  | some w => simp [insertIfAbsent, h]

theorem get?_insertIfAbsent_of_ne (h : k' ≠ k) (d : Dict κ ν) (v : ν) :
    (d.insertIfAbsent k v).get? k' = d.get? k' := by
  unfold insertIfAbsent
  split_ifs
  · rfl
  · exact get?_set_of_ne h d v

/-- The values a list of writes has for a key, in order. -/
def valuesOf (rows : List (κ × ν)) (k : κ) : List ν := (rows.filter fun r => r.1 = k).map Prod.snd

@[simp] theorem valuesOf_nil (k : κ) : valuesOf ([] : List (κ × ν)) k = [] := rfl

theorem valuesOf_append (rows rows' : List (κ × ν)) (k : κ) :
    valuesOf (rows ++ rows') k = valuesOf rows k ++ valuesOf rows' k := by
  rw [valuesOf, List.filter_append, List.map_append]
  rfl

theorem valuesOf_cons_self (k : κ) (v : ν) (rows : List (κ × ν)) :
    valuesOf ((k, v) :: rows) k = v :: valuesOf rows k := by
  simp [valuesOf]

theorem valuesOf_cons_of_ne (h : k' ≠ k) (v : ν) (rows : List (κ × ν)) :
    valuesOf ((k', v) :: rows) k = valuesOf rows k := by
  simp [valuesOf, h]

/-- Of the writes that respect a key already present, the first one counts. -/
theorem get?_foldl_insertIfAbsent (rows : List (κ × ν)) (d : Dict κ ν) (k : κ) :
    (rows.foldl (fun d r => d.insertIfAbsent r.1 r.2) d).get? k =
      (d.get? k).or (valuesOf rows k).head? := by
  induction rows generalizing d with
  | nil => simp
  | cons r rows ih =>
    obtain ⟨k', v⟩ := r
    rw [List.foldl_cons, ih]
    by_cases hkey : k' = k
    · subst hkey
      rw [get?_insertIfAbsent_self, valuesOf_cons_self]
      cases d.get? k' <;> rfl
    · have hne : k ≠ k' := fun h => hkey h.symm
      rw [get?_insertIfAbsent_of_ne hne, valuesOf_cons_of_ne hkey]

/-- Rewrite the value of `k`, if there is one. -/
def update (d : Dict κ ν) (k : κ) (f : ν → ν) : Dict κ ν :=
  match d.get? k with
  | none => d
  | some v => d.set k (f v)

theorem get?_update (d : Dict κ ν) (k k' : κ) (f : ν → ν) :
    (d.update k f).get? k' = if k' = k then (d.get? k').map f else d.get? k' := by
  cases h : d.get? k with
  | none =>
    simp only [update, h]
    split_ifs with hk
    · rw [hk, h]; rfl
    · rfl
  | some v =>
    simp only [update, h, get?_set]
    split_ifs with hk
    · rw [hk, h]; rfl
    · rfl

/-- An update goes over the pairs in place. -/
theorem entries_update (d : Dict κ ν) (k : κ) (f : ν → ν) :
    (d.update k f).entries = d.entries.map fun e => if e.1 = k then (e.1, f e.2) else e := by
  have hset : ∀ (v : ν) (es : List (κ × ν)), (es.map Prod.fst).Nodup → (k, v) ∈ es →
      setEntries k (f v) es = es.map fun e => if e.1 = k then (e.1, f e.2) else e := by
    intro v es hnodup hmem
    induction es with
    | nil => exact absurd hmem List.not_mem_nil
    | cons e es ih =>
      obtain ⟨hnot, hrest⟩ := List.nodup_cons.mp hnodup
      rcases List.mem_cons.mp hmem with heq | hmem
      · subst heq
        -- no later pair has this key
        have hkept : es.map (fun e => if e.1 = k then (e.1, f e.2) else e) = es := by
          have hid : ∀ e ∈ es, (if e.1 = k then (e.1, f e.2) else e) = id e := by
            intro e he
            exact if_neg fun hkey => hnot (List.mem_map.mpr ⟨e, he, hkey⟩)
          rw [List.map_congr_left hid, List.map_id]
        rw [setEntries, if_pos rfl, List.map_cons, if_pos rfl, hkept]
      · have hne : e.1 ≠ k := fun hkey => hnot (List.mem_map.mpr ⟨_, hmem, hkey.symm⟩)
        rw [setEntries, if_neg hne, List.map_cons, if_neg hne, ih hrest hmem]
  cases h : d.get? k with
  | none =>
    have hid : ∀ e ∈ d.entries, (if e.1 = k then (e.1, f e.2) else e) = id e := by
      intro e he
      exact if_neg fun hkey => get?_eq_none_iff.mp h (List.mem_map.mpr ⟨e, he, hkey⟩)
    simp only [update, h]
    rw [List.map_congr_left hid, List.map_id]
  | some v =>
    simp only [update, h]
    exact hset v d.entries d.nodupKeys (mem_entries_iff.mpr h)

/-- Remove the pair of `k`. -/
def erase (d : Dict κ ν) (k : κ) : Dict κ ν where
  entries := d.entries.filter fun e => e.1 ≠ k
  nodupKeys := d.nodupKeys.sublist (List.filter_sublist.map _)

theorem mem_entries_erase {e : κ × ν} : e ∈ (d.erase k).entries ↔ e ∈ d.entries ∧ e.1 ≠ k := by
  simp [erase]

theorem get?_erase_self (d : Dict κ ν) (k : κ) : (d.erase k).get? k = none := by
  rw [get?_eq_none_iff]
  intro hmem
  obtain ⟨e, he, hkey⟩ := List.mem_map.mp hmem
  exact (mem_entries_erase.mp he).2 hkey

theorem get?_erase_of_ne (h : k' ≠ k) (d : Dict κ ν) : (d.erase k).get? k' = d.get? k' := by
  apply Option.ext
  intro v
  rw [← mem_entries_iff, ← mem_entries_iff, mem_entries_erase]
  exact and_iff_left h

theorem get?_erase (d : Dict κ ν) (k k' : κ) :
    (d.erase k).get? k' = if k' = k then none else d.get? k' := by
  split_ifs with h
  · rw [h, get?_erase_self]
  · exact get?_erase_of_ne h d

/-! ### Many keys at once -/

theorem get?_foldl_set (keys : List κ) (v : ν) (d : Dict κ ν) (k : κ) :
    (keys.foldl (fun d k => d.set k v) d).get? k = if k ∈ keys then some v else d.get? k := by
  induction keys generalizing d with
  | nil => simp
  | cons k₀ keys ih =>
    rw [List.foldl_cons, ih, get?_set]
    by_cases hk : k = k₀
    · simp [hk]
    · simp [hk]

theorem get?_foldl_erase (keys : List κ) (d : Dict κ ν) (k : κ) :
    (keys.foldl (fun d k => d.erase k) d).get? k = if k ∈ keys then none else d.get? k := by
  induction keys generalizing d with
  | nil => simp
  | cons k₀ keys ih =>
    rw [List.foldl_cons, ih, get?_erase]
    by_cases hk : k = k₀
    · simp [hk]
    · simp [hk]

/-! ### Selecting rows -/

theorem filter_entries_eq_nil {p : κ × ν → Bool}
    (h : ∀ k v, d.get? k = some v → p (k, v) = false) : d.entries.filter p = [] := by
  rw [List.filter_eq_nil_iff]
  rintro ⟨k, v⟩ hmem
  rw [h k v (mem_entries_iff.mp hmem)]
  exact Bool.false_ne_true

/-- If exactly the row of `k` is selected, the selection is that row. -/
theorem filter_entries_eq_singleton {p : κ × ν → Bool} (hget : d.get? k = some v)
    (hsel : p (k, v) = true)
    (honly : ∀ k' v', d.get? k' = some v' → p (k', v') = true → k' = k) :
    d.entries.filter p = [(k, v)] := by
  have hkeys : ((d.entries.filter p).map Prod.fst).Nodup :=
    d.nodupKeys.sublist (List.filter_sublist.map _)
  have hmem : (k, v) ∈ d.entries.filter p :=
    List.mem_filter.mpr ⟨mem_entries_iff.mpr hget, hsel⟩
  have hall : ∀ e ∈ d.entries.filter p, e = (k, v) := by
    rintro ⟨k', v'⟩ he
    obtain ⟨hentry, hp⟩ := List.mem_filter.mp he
    have hget' := mem_entries_iff.mp hentry
    obtain rfl := honly k' v' hget' hp
    rw [hget] at hget'
    rw [Option.some.inj hget']
  match hfilter : d.entries.filter p, hkeys, hmem, hall with
  | [], _, hmem, _ => simp at hmem
  | [e], _, _, hall => rw [hall e (by simp)]
  | e₁ :: e₂ :: es, hkeys, _, hall =>
    rw [hall e₁ (by simp), hall e₂ (by simp)] at hkeys
    simp at hkeys

/-- A key has at most one row. -/
theorem length_filter_key_le_one (k : κ) :
    (d.entries.filter fun e => decide (e.1 = k)).length ≤ 1 := by
  cases hget : d.get? k with
  | none =>
    rw [filter_entries_eq_nil]
    · simp
    · intro k' v hk'
      have hne : k' ≠ k := fun h => by simp [h, hget] at hk'
      simp [hne]
  | some v =>
    rw [filter_entries_eq_singleton hget (by simp) fun k' v' _ hsel => by simpa using hsel]
    simp

end Dict
