import Mathlib.Algebra.Order.Group.Int
import Mathlib.Data.List.Basic
import Mathlib.Order.Basic
import Mathlib.Tactic.Basic

/-!
# Loops and pages

A pass of a loop goes on from another state or ends it with a result. A loop that may run forever is
run with fuel. An invariant and a measure that drops with every pass make it end: with enough fuel
there is a result, and more fuel changes nothing.

A list is in the order of a key, with neighbours a space apart. A reader asks for the first elements
from a cursor on and moves the cursor a space behind the last one it got. Nothing is between the
page and what the next one is taken from.

## Main definitions

* `Loops.runWith` — the result of a loop, if it ends within so many passes
* `Pages.Spaced` — a space apart
* `Pages.fromKey` — from a cursor on

## Main results

* `runWith_mono` — more fuel
* `exists_runWith` — the rule for total correctness
* `fromKey_after` — what comes after a page
-/

/-! ### Loops with a bound on their passes -/

namespace Loops

variable {σ ρ : Type*} {pass : σ → σ ⊕ ρ} {s : σ} {r : ρ} {fuel more : ℕ}

/-- The result of a loop, if it ends within so many passes. -/
def runWith (pass : σ → σ ⊕ ρ) : ℕ → σ → Option ρ
  | 0, _ => none
  | fuel + 1, s =>
    match pass s with
    | .inl s' => runWith pass fuel s'
    | .inr r => some r

theorem runWith_of_goes {s' : σ} (h : pass s = .inl s') (fuel : ℕ) :
    runWith pass (fuel + 1) s = runWith pass fuel s' := by
  rw [runWith, h]

theorem runWith_of_ends (h : pass s = .inr r) (fuel : ℕ) : runWith pass (fuel + 1) s = some r := by
  rw [runWith, h]

/-- More fuel does not change the result. -/
theorem runWith_mono (hle : fuel ≤ more) (h : runWith pass fuel s = some r) :
    runWith pass more s = some r := by
  induction fuel generalizing s more with
  | zero => cases h
  | succ fuel ih =>
    obtain ⟨more, rfl⟩ : ∃ m, more = m + 1 := ⟨more - 1, by omega⟩
    cases hpass : pass s with
    | inl s' =>
      rw [runWith_of_goes hpass] at h ⊢
      exact ih (by omega) h
    | inr r' =>
      rw [runWith_of_ends hpass] at h ⊢
      exact h

/-- A loop whose passes keep an invariant and lower a measure ends as its last pass may end. -/
theorem exists_runWith {Inv : σ → Prop} {Post : ρ → Prop} (measure : σ → ℕ)
    (hgoes : ∀ s s', Inv s → pass s = .inl s' → Inv s' ∧ measure s' < measure s)
    (hends : ∀ s r, Inv s → pass s = .inr r → Post r) (hs : Inv s) (hfuel : measure s < fuel) :
    ∃ r, runWith pass fuel s = some r ∧ Post r := by
  induction fuel generalizing s with
  | zero => omega
  | succ fuel ih =>
    cases hpass : pass s with
    | inl s' =>
      obtain ⟨hs', hlower⟩ := hgoes s s' hs hpass
      rw [runWith_of_goes hpass]
      exact ih hs' (by omega)
    | inr r =>
      exact ⟨r, runWith_of_ends hpass fuel, hends s r hs hpass⟩

end Loops

/-! ### Reading a list page by page -/

namespace Pages

variable {α : Type*} {key : α → ℤ} {space start : ℤ} {l : List α} {a last : α} {n : ℕ}

/-- In the order of the key, neighbours a space apart. -/
def Spaced (key : α → ℤ) (space : ℤ) (l : List α) : Prop :=
  l.Pairwise fun a b => key a + space ≤ key b

/-- The elements from a cursor on. -/
def fromKey (key : α → ℤ) (start : ℤ) (l : List α) : List α := l.filter fun a => start ≤ key a

@[simp] theorem mem_fromKey : a ∈ fromKey key start l ↔ a ∈ l ∧ start ≤ key a := by
  simp [fromKey]

theorem Spaced.fromKey (h : Spaced key space l) (start : ℤ) :
    Spaced key space (fromKey key start l) :=
  h.sublist List.filter_sublist

/-- The last element of a page has the greatest key. -/
theorem le_of_mem_page (h : Spaced key space l) (hspace : 0 < space)
    (hlast : l.getLast? = some last) (ha : a ∈ l) : key a ≤ key last := by
  obtain ⟨before, rfl⟩ := List.getLast?_eq_some_iff.mp hlast
  rcases List.mem_append.mp ha with hbefore | hsame
  · have hspaced := (List.pairwise_append.mp h).2.2 a hbefore last List.mem_cons_self
    omega
  · rw [List.mem_singleton.mp hsame]

/-- What comes after a page begins a space behind its last element. -/
theorem fromKey_after (h : Spaced key space l) (hspace : 0 < space)
    (hlast : ((fromKey key start l).take n).getLast? = some last) :
    fromKey key (key last + space) l = (fromKey key start l).drop n := by
  have hspaced := h.fromKey start
  have hin : last ∈ (fromKey key start l).take n := List.mem_of_getLast? hlast
  have hstart : start ≤ key last := (mem_fromKey.mp (List.mem_of_mem_take hin)).2
  -- nothing before the cursor counts, so look only behind it
  have hinner : fromKey key (key last + space) l =
      (fromKey key start l).filter fun a => key last + space ≤ key a := by
    unfold fromKey
    rw [List.filter_filter]
    apply List.filter_congr
    intro a ha
    by_cases hafter : key last + space ≤ key a
    · simp [hafter, show start ≤ key a by omega]
    · simp [hafter]
  rw [← List.take_append_drop n (fromKey key start l)] at hspaced
  obtain ⟨hpage, -, hbetween⟩ := List.pairwise_append.mp hspaced
  rw [hinner]
  nth_rewrite 1 [← List.take_append_drop n (fromKey key start l)]
  rw [List.filter_append, List.filter_eq_nil_iff.mpr, List.nil_append, List.filter_eq_self]
  · intro a ha
    exact decide_eq_true (hbetween last hin a ha)
  · intro a ha
    have hle := le_of_mem_page hpage hspace hlast ha
    simp only [decide_eq_true_eq]
    omega

end Pages
