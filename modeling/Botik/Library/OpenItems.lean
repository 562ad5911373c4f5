import Botik.Library.Upserts

/-!
# Items that are open under a key

A table of numbered items, each open or closed and about a key. An item is opened only if none
is open under its key, so a key never has two open items.

## Main definitions

* `OpenItems.OpenUnder`, `OpenItems.SingleOpen`
* `OpenItems.raise` — open an item, unless one is open under its key

## Main results

* `openUnder_raise`, `SingleOpen.raise`
-/

namespace OpenItems

variable {α κ : Type*} [DecidableEq κ] (isOpen : α → Bool) (key : α → κ)

/-- Some item is open under the key. -/
def OpenUnder (d : Dict ℕ α) (k : κ) : Prop :=
  ∃ number a, d.get? number = some a ∧ isOpen a = true ∧ key a = k

/-- No key has two open items. -/
def SingleOpen (d : Dict ℕ α) : Prop :=
  ∀ n m a b, d.get? n = some a → d.get? m = some b → isOpen a = true → isOpen b = true →
    key a = key b → n = m

/-- The number of the open item of a key that is found first. -/
def openNumber (d : Dict ℕ α) (k : κ) : Option ℕ :=
  (d.entries.find? fun e => isOpen e.2 ∧ key e.2 = k).map Prod.fst

/-- Open an item, unless one is open under its key. -/
def raise (a : α) (d : Dict ℕ α) : Dict ℕ α :=
  match openNumber isOpen key d (key a) with
  | some _ => d
  | none => d.set (d.freshNumber id) a

variable {isOpen key} {d : Dict ℕ α} {a : α} {k : κ} {n : ℕ}

theorem openNumber_eq_none_iff : openNumber isOpen key d k = none ↔ ¬ OpenUnder isOpen key d k := by
  unfold openNumber OpenUnder
  rw [Option.map_eq_none_iff, List.find?_eq_none]
  constructor
  · rintro hnone ⟨n, a, hget, hopen, hkey⟩
    exact hnone (n, a) (Dict.mem_entries_iff.mpr hget) (decide_eq_true ⟨hopen, hkey⟩)
  · rintro hnone ⟨n, a⟩ hmem hsel
    obtain ⟨hopen, hkey⟩ := of_decide_eq_true hsel
    exact hnone ⟨n, a, Dict.mem_entries_iff.mp hmem, hopen, hkey⟩

/-- Raising a key that is open changes nothing. -/
theorem raise_of_openUnder (h : OpenUnder isOpen key d (key a)) : raise isOpen key a d = d := by
  unfold raise
  split
  · rfl
  · rename_i hnone
    exact absurd h (openNumber_eq_none_iff.mp hnone)

/-- Raising a key that is not open adds an item. -/
theorem raise_of_not_openUnder (h : ¬ OpenUnder isOpen key d (key a)) :
    raise isOpen key a d = d.set (d.freshNumber id) a := by
  unfold raise
  rw [openNumber_eq_none_iff.mpr h]

theorem get?_freshNumber (d : Dict ℕ α) : d.get? (d.freshNumber id) = none := by
  have hfresh : id (d.freshNumber id) = d.freshNumber id := rfl
  exact Dict.get?_eq_none_of_freshNumber hfresh

/-- Raising leaves every item as it is. -/
theorem get?_raise_of_get? {b : α} (h : d.get? n = some b) :
    (raise isOpen key a d).get? n = some b := by
  by_cases hopen : OpenUnder isOpen key d (key a)
  · rwa [raise_of_openUnder hopen]
  · rw [raise_of_not_openUnder hopen, Dict.get?_set_of_ne, h]
    rintro rfl
    rw [get?_freshNumber] at h
    cases h

/-- After raising, the raised key is open too. -/
theorem openUnder_raise (ha : isOpen a = true) :
    OpenUnder isOpen key (raise isOpen key a d) k ↔ k = key a ∨ OpenUnder isOpen key d k := by
  by_cases hopen : OpenUnder isOpen key d (key a)
  · rw [raise_of_openUnder hopen]
    constructor
    · exact Or.inr
    · rintro (rfl | h)
      · exact hopen
      · exact h
  constructor
  · rintro ⟨n, b, hget, hb, rfl⟩
    rw [raise_of_not_openUnder hopen, Dict.get?_set] at hget
    split_ifs at hget with hn
    · obtain rfl := Option.some.inj hget
      exact Or.inl rfl
    · exact Or.inr ⟨n, b, hget, hb, rfl⟩
  · rintro (rfl | ⟨n, b, hget, hb, rfl⟩)
    · refine ⟨d.freshNumber id, a, ?_, ha, rfl⟩
      rw [raise_of_not_openUnder hopen, Dict.get?_set_self]
    · exact ⟨n, b, get?_raise_of_get? hget, hb, rfl⟩

theorem SingleOpen.raise (h : SingleOpen isOpen key d) (a : α) :
    SingleOpen isOpen key (raise isOpen key a d) := by
  by_cases hopen : OpenUnder isOpen key d (key a)
  · rwa [raise_of_openUnder hopen]
  rw [raise_of_not_openUnder hopen]
  intro n m b c hb hc hbOpen hcOpen hkey
  rw [Dict.get?_set] at hb hc
  -- the new item shares its key with no old one
  split_ifs at hb hc with hn hm hm
  · rw [hn, hm]
  · obtain rfl := Option.some.inj hb
    exact absurd ⟨m, c, hc, hcOpen, hkey.symm⟩ hopen
  · obtain rfl := Option.some.inj hc
    exact absurd ⟨n, b, hb, hbOpen, hkey⟩ hopen
  · exact h n m b c hb hc hbOpen hcOpen hkey

end OpenItems
