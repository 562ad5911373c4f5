import Mathlib.Order.Defs.Unbundled
import Mathlib.Tactic.Basic
import Mathlib.Tactic.SplitIfs

/-!
# Programs whose state survives an exception

A scripting-language routine changes its state as it goes and may raise in the
middle; what it changed before stays changed. `EStateM` has exactly this
behaviour. This file collects what is needed to reason about such programs
without unfolding them.

## Main definitions

* `Program.after`, `Program.raised` — the state a program leaves, returned or raised,
  and its exception
* `Program.Returns x s` — the program raises nothing
* `Program.Moves R x` — whatever `x` does to the state is an instance of `R`
* `Program.Keeps f x` — `x` never changes the part `f` of the state
* `Program.Preserves P x` — `x` never destroys the property `P` of the state
* `Program.RaisesOnly P x` — every exception of `x` satisfies `P`
* `Program.attempt` — run a program and swallow its exception
* `Program.zoom` — run a program on a part of the state
* `Program.each` — run a program for every element of a list, stopping at the
  first exception

## Main results

The rules `moves_*` and `raisesOnly_*` follow the constructors of a program, so
that what a program can do and raise is read off its parts; `eq_ok_of_raisesOnly`
turns "nothing can raise" into the state afterwards. `returns_each_iff` says when a loop gets
through a list.
-/

namespace Program

variable {ε σ τ ρ α β : Type} {ι : Type*}

/-- The state a program leaves behind, whether it returned or raised. -/
def after (x : EStateM ε σ α) (s : σ) : σ :=
  match x s with
  | .ok _ s' => s'
  | .error _ s' => s'

theorem after_of_ok {x : EStateM ε σ α} {s s' : σ} {a : α} (h : x s = .ok a s') :
    after x s = s' := by
  rw [after, h]

theorem after_of_error {x : EStateM ε σ α} {s s' : σ} {e : ε} (h : x s = .error e s') :
    after x s = s' := by
  rw [after, h]

theorem bind_of_ok {x : EStateM ε σ α} {g : α → EStateM ε σ β} {s s' : σ} {a : α}
    (h : x s = .ok a s') : (x >>= g) s = g a s' := by
  change EStateM.bind x g s = _
  rw [EStateM.bind, h]

theorem bind_of_error {x : EStateM ε σ α} {g : α → EStateM ε σ β} {s s' : σ} {e : ε}
    (h : x s = .error e s') : (x >>= g) s = .error e s' := by
  change EStateM.bind x g s = _
  rw [EStateM.bind, h]

/-- A raising sequence raised in its first part or, after it, in its second. -/
theorem bind_eq_error {x : EStateM ε σ α} {g : α → EStateM ε σ β} {s s' : σ} {e : ε}
    (h : (x >>= g) s = .error e s') :
    x s = .error e s' ∨ ∃ a s₁, x s = .ok a s₁ ∧ g a s₁ = .error e s' := by
  cases hx : x s with
  | ok a s₁ => exact Or.inr ⟨a, s₁, rfl, by rwa [bind_of_ok hx] at h⟩
  | error e₁ s₁ =>
    rw [bind_of_error hx] at h
    cases h
    exact Or.inl rfl

/-- A returning sequence returned in both parts. -/
theorem bind_eq_ok {x : EStateM ε σ α} {g : α → EStateM ε σ β} {s s' : σ} {b : β}
    (h : (x >>= g) s = .ok b s') : ∃ a s₁, x s = .ok a s₁ ∧ g a s₁ = .ok b s' := by
  cases hx : x s with
  | ok a s₁ => exact ⟨a, s₁, rfl, by rwa [bind_of_ok hx] at h⟩
  | error e₁ s₁ => simp [bind_of_error hx] at h

@[simp] theorem pure_run (a : α) (s : σ) : (pure a : EStateM ε σ α) s = .ok a s := rfl

@[simp] theorem get_run (s : σ) : (get : EStateM ε σ σ) s = .ok s s := rfl

@[simp] theorem modify_run (u : σ → σ) (s : σ) :
    (modify u : EStateM ε σ PUnit) s = .ok ⟨⟩ (u s) := rfl

@[simp] theorem throw_run (e : ε) (s : σ) : (throw e : EStateM ε σ α) s = .error e s := rfl

@[simp] theorem after_get_bind (g : σ → EStateM ε σ α) (s : σ) :
    after (get >>= g) s = after (g s) s := rfl

@[simp] theorem after_modify_bind (u : σ → σ) (g : PUnit → EStateM ε σ α) (s : σ) :
    after (modify u >>= g) s = after (g ⟨⟩) (u s) := rfl

@[simp] theorem after_pure (a : α) (s : σ) : after (pure a : EStateM ε σ α) s = s := rfl

@[simp] theorem after_modify (u : σ → σ) (s : σ) :
    after (modify u : EStateM ε σ PUnit) s = u s := rfl

@[simp] theorem after_throw (e : ε) (s : σ) : after (throw e : EStateM ε σ α) s = s := rfl

@[simp] theorem after_throw_bind (e : ε) (g : α → EStateM ε σ β) (s : σ) :
    after (throw e >>= g) s = s := rfl

theorem after_bind_of_ok {x : EStateM ε σ α} {g : α → EStateM ε σ β} {s s' : σ} {a : α}
    (h : x s = .ok a s') : after (x >>= g) s = after (g a) s' := by
  rw [after, bind_of_ok h]
  rfl

theorem after_bind_of_error {x : EStateM ε σ α} {g : α → EStateM ε σ β} {s s' : σ} {e : ε}
    (h : x s = .error e s') : after (x >>= g) s = s' := by
  rw [after, bind_of_error h]

/-- A sequence ends where its first part raised, or goes on from there. -/
theorem after_bind_cases (x : EStateM ε σ α) (g : α → EStateM ε σ β) (s : σ) :
    after (x >>= g) s = after x s ∨
      ∃ a, x s = .ok a (after x s) ∧ after (x >>= g) s = after (g a) (after x s) := by
  cases h : x s with
  | ok a s' =>
    rw [after_of_ok h, after_bind_of_ok h]
    exact Or.inr ⟨a, rfl, rfl⟩
  | error e s' =>
    rw [after_of_error h, after_bind_of_error h]
    exact Or.inl rfl

/-- What follows a program may be replaced by what leaves the same states. -/
theorem after_bind_congr {γ : Type} {x : EStateM ε σ α} {g : α → EStateM ε σ β}
    {g' : α → EStateM ε σ γ} {s : σ} (h : ∀ a s', after (g a) s' = after (g' a) s') :
    after (x >>= g) s = after (x >>= g') s := by
  cases hx : x s with
  | ok a s' => rw [after_bind_of_ok hx, after_bind_of_ok hx, h]
  | error e s' => rw [after_bind_of_error hx, after_bind_of_error hx]

/-- Embed a computation that may fail but touches no state. -/
def fromExcept : Except ε α → EStateM ε σ α
  | .ok a => pure a
  | .error e => throw e

@[simp] theorem fromExcept_ok (a : α) : (fromExcept (.ok a) : EStateM ε σ α) = pure a := rfl

@[simp] theorem fromExcept_error (e : ε) : (fromExcept (.error e) : EStateM ε σ α) = throw e := rfl

theorem fromExcept_eq_ok {r : Except ε α} {s s' : σ} {a : α}
    (h : (fromExcept r : EStateM ε σ α) s = .ok a s') : r = .ok a ∧ s' = s := by
  cases r with
  | ok b =>
    cases h
    exact ⟨rfl, rfl⟩
  | error e => cases h

/-- Run a program and swallow its exception. -/
def attempt (x : EStateM ε σ α) : EStateM ε σ Unit := fun s => .ok () (after x s)

@[simp] theorem attempt_run (x : EStateM ε σ α) (s : σ) : attempt x s = .ok () (after x s) := rfl

/-- Run a program on a part of the state. -/
def zoom (part : σ → τ) (update : τ → σ → σ) (x : EStateM ε τ α) : EStateM ε σ α := fun s =>
  match x (part s) with
  | .ok a t => .ok a (update t s)
  | .error e t => .error e (update t s)

section Zoom

variable {part : σ → τ} {update : τ → σ → σ} {x : EStateM ε τ α}

theorem after_zoom (s : σ) : after (zoom part update x) s = update (after x (part s)) s := by
  unfold after zoom
  cases x (part s) <;> rfl

theorem zoom_of_ok {s : σ} {t : τ} {a : α} (h : x (part s) = .ok a t) :
    zoom part update x s = .ok a (update t s) := by
  unfold zoom
  rw [h]

theorem zoom_of_error {s : σ} {t : τ} {e : ε} (h : x (part s) = .error e t) :
    zoom part update x s = .error e (update t s) := by
  unfold zoom
  rw [h]

theorem zoom_eq_ok {s s' : σ} {a : α} (h : zoom part update x s = .ok a s') :
    ∃ t, x (part s) = .ok a t ∧ s' = update t s := by
  unfold zoom at h
  cases hx : x (part s) with
  | ok b t =>
    rw [hx] at h
    cases h
    exact ⟨t, rfl, rfl⟩
  | error e t =>
    rw [hx] at h
    cases h

end Zoom

/-- Run `x` for every element in turn, stopping at the first exception. -/
def each (x : ι → EStateM ε σ Unit) : List ι → EStateM ε σ Unit
  | [] => pure ()
  | i :: is => do
    x i
    each x is

@[simp] theorem each_nil (x : ι → EStateM ε σ Unit) : each x [] = pure () := rfl

theorem each_cons (x : ι → EStateM ε σ Unit) (i : ι) (is : List ι) :
    each x (i :: is) = (x i >>= fun _ => each x is) := rfl

/-- A loop whose body does nothing does nothing. -/
theorem each_of_forall_run {x : ι → EStateM ε σ Unit} {is : List ι} {s : σ}
    (h : ∀ i ∈ is, x i s = .ok () s) : each x is s = .ok () s := by
  induction is with
  | nil => rfl
  | cons i is ih =>
    rw [each_cons, bind_of_ok (h i List.mem_cons_self)]
    exact ih fun j hj => h j (List.mem_cons_of_mem i hj)

/-- A loop that returned ran its body for every element, and returned each time. -/
theorem each_eq_ok {x : ι → EStateM ε σ Unit} {is : List ι} {s s' : σ}
    (h : each x is s = .ok () s') : ∀ i ∈ is, ∃ s₁ s₂, x i s₁ = .ok () s₂ := by
  induction is generalizing s with
  | nil => simp
  | cons i is ih =>
    rw [each_cons] at h
    obtain ⟨⟨⟩, s₁, hfirst, hrest⟩ := bind_eq_ok h
    intro j hj
    rcases List.mem_cons.mp hj with rfl | hj
    · exact ⟨s, s₁, hfirst⟩
    · exact ih hrest j hj

/-- The exception a program raises, if it raises one. -/
def raised (x : EStateM ε σ α) (s : σ) : Option ε :=
  match x s with
  | .ok _ _ => none
  | .error e _ => some e

theorem eq_error_of_raised {x : EStateM ε σ α} {s : σ} {e : ε} (h : raised x s = some e) :
    x s = .error e (after x s) := by
  unfold raised at h
  cases hx : x s with
  | ok a s' =>
    rw [hx] at h
    cases h
  | error e' s' =>
    rw [hx, Option.some.injEq] at h
    rw [h, after_of_error hx]

theorem eq_ok_of_raised {x : EStateM ε σ α} {s : σ} (h : raised x s = none) :
    ∃ a s', x s = .ok a s' := by
  unfold raised at h
  cases hx : x s with
  | ok a s' => exact ⟨a, s', rfl⟩
  | error e s' =>
    rw [hx] at h
    cases h

/-! ### Programs that return -/

/-- The program returns, whatever it returns. -/
def Returns (x : EStateM ε σ α) (s : σ) : Prop := ∃ a s', x s = .ok a s'

section Returns

variable {s : σ}

@[simp] theorem returns_pure (a : α) : Returns (pure a : EStateM ε σ α) s := ⟨a, s, rfl⟩

@[simp] theorem returns_modify (u : σ → σ) : Returns (modify u : EStateM ε σ PUnit) s :=
  ⟨⟨⟩, u s, rfl⟩

@[simp] theorem not_returns_throw (e : ε) : ¬ Returns (throw e : EStateM ε σ α) s := by
  rintro ⟨a, s', h⟩
  cases h

theorem returns_bind_iff {x : EStateM ε σ α} {g : α → EStateM ε σ β} :
    Returns (x >>= g) s ↔ ∃ a s', x s = .ok a s' ∧ Returns (g a) s' := by
  constructor
  · rintro ⟨b, s', h⟩
    obtain ⟨a, s₁, hx, hg⟩ := bind_eq_ok h
    exact ⟨a, s₁, hx, b, s', hg⟩
  · rintro ⟨a, s₁, hx, b, s', hg⟩
    exact ⟨b, s', by rw [bind_of_ok hx, hg]⟩

@[simp] theorem returns_get_bind {g : σ → EStateM ε σ α} : Returns (get >>= g) s ↔ Returns (g s) s :=
  Iff.rfl

@[simp] theorem returns_modify_bind {u : σ → σ} {g : PUnit → EStateM ε σ α} :
    Returns (modify u >>= g) s ↔ Returns (g ⟨⟩) (u s) :=
  Iff.rfl

@[simp] theorem returns_fromExcept_bind {r : Except ε α} {g : α → EStateM ε σ β} :
    Returns (fromExcept r >>= g) s ↔ ∃ a, r = .ok a ∧ Returns (g a) s := by
  cases r with
  | ok a => simp
  | error e =>
    rw [fromExcept_error]
    constructor
    · rintro ⟨b, s', h⟩
      cases h
    · rintro ⟨a, h, -⟩
      cases h

/-- A program that raises does not return. -/
theorem not_returns_of_raised {x : EStateM ε σ α} {e : ε} (h : raised x s = some e) :
    ¬ Returns x s := by
  rintro ⟨a, s', hx⟩
  rw [eq_error_of_raised h] at hx
  cases hx

/-- A loop whose body returns or raises by the element alone returns exactly if it can handle every
element. -/
theorem returns_each_iff {x : ι → EStateM ε σ Unit} {P : ι → Prop}
    (hx : ∀ i s, Returns (x i) s ↔ P i) (is : List ι) : Returns (each x is) s ↔ ∀ i ∈ is, P i := by
  induction is generalizing s with
  | nil => simp
  | cons i is ih =>
    rw [each_cons, returns_bind_iff, List.forall_mem_cons]
    constructor
    · rintro ⟨⟨⟩, s', hi, hrest⟩
      exact ⟨(hx i s).mp ⟨(), s', hi⟩, ih.mp hrest⟩
    · rintro ⟨hi, hrest⟩
      obtain ⟨⟨⟩, s', hrun⟩ := (hx i s).mpr hi
      exact ⟨(), s', hrun, ih.mpr hrest⟩

end Returns

/-! ### What a program can do to the state -/

/-- Whatever `x` does to a state, raising or not, is an instance of `R`. -/
def Moves (R : σ → σ → Prop) (x : EStateM ε σ α) : Prop := ∀ s, R s (after x s)

section Moves

variable {R : σ → σ → Prop}

theorem Moves.of_ok {x : EStateM ε σ α} (hx : Moves R x) {s s' : σ} {a : α}
    (h : x s = .ok a s') : R s s' := by
  have := hx s
  rwa [after_of_ok h] at this

theorem Moves.of_error {x : EStateM ε σ α} (hx : Moves R x) {s s' : σ} {e : ε}
    (h : x s = .error e s') : R s s' := by
  have := hx s
  rwa [after_of_error h] at this

theorem Moves.mono {Q : σ → σ → Prop} {x : EStateM ε σ α} (hx : Moves R x)
    (h : ∀ s s', R s s' → Q s s') : Moves Q x := fun s => h s _ (hx s)

theorem moves_modify {u : σ → σ} (h : ∀ s, R s (u s)) :
    Moves R (modify u : EStateM ε σ PUnit) := h

theorem moves_ite {c : Prop} [Decidable c] {x y : EStateM ε σ α}
    (hx : c → Moves R x) (hy : ¬ c → Moves R y) : Moves R (if c then x else y) := by
  split_ifs with hc
  · exact hx hc
  · exact hy hc

theorem moves_zoom {part : σ → τ} {update : τ → σ → σ} {x : EStateM ε τ α}
    (h : ∀ s, R s (update (after x (part s)) s)) : Moves R (zoom part update x) := by
  intro s
  rw [after_zoom]
  exact h s

theorem moves_attempt {x : EStateM ε σ α} (hx : Moves R x) : Moves R (attempt x) := hx

variable [IsPreorder σ R]

theorem moves_pure (a : α) : Moves R (pure a : EStateM ε σ α) := fun s => refl_of R s

theorem moves_throw (e : ε) : Moves R (throw e : EStateM ε σ α) := fun s => refl_of R s

theorem moves_get : Moves R (get : EStateM ε σ σ) := fun s => refl_of R s

theorem moves_fromExcept (r : Except ε α) : Moves R (fromExcept r : EStateM ε σ α) := by
  cases r with
  | ok a => exact moves_pure a
  | error e => exact moves_throw e

theorem moves_bind {x : EStateM ε σ α} {g : α → EStateM ε σ β} (hx : Moves R x)
    (hg : ∀ a, Moves R (g a)) : Moves R (x >>= g) := by
  intro s
  cases h : x s with
  | ok a s' =>
    rw [after, bind_of_ok h]
    exact trans_of R (hx.of_ok h) (hg a s')
  | error e s' =>
    rw [after, bind_of_error h]
    exact hx.of_error h

/-- What follows a computation without effects may use that it succeeded. -/
theorem moves_fromExcept_bind {r : Except ε α} {g : α → EStateM ε σ β}
    (hg : ∀ a, r = .ok a → Moves R (g a)) : Moves R (fromExcept r >>= g) := by
  cases r with
  | ok a => exact hg a rfl
  | error e => exact moves_throw e

theorem moves_each_of_mem {x : ι → EStateM ε σ Unit} {is : List ι}
    (hx : ∀ i ∈ is, Moves R (x i)) : Moves R (each x is) := by
  induction is with
  | nil => exact moves_pure ()
  | cons i is ih =>
    refine moves_bind (hx i List.mem_cons_self) fun _ => ?_
    exact ih fun j hj => hx j (List.mem_cons_of_mem i hj)

theorem moves_each {x : ι → EStateM ε σ Unit} (hx : ∀ i, Moves R (x i)) (is : List ι) :
    Moves R (each x is) :=
  moves_each_of_mem fun i _ => hx i

end Moves

/-- One element of a loop has its turn at most once, in a state the others have led to. -/
theorem after_each_of_turn {R Q : σ → σ → Prop} [IsPreorder σ R] [IsPreorder σ Q]
    {x : ι → EStateM ε σ Unit} {a : ι} {is : List ι} {s : σ} (hnodup : is.Nodup)
    (hRQ : ∀ s s', R s s' → Q s s') (hother : ∀ i, i ≠ a → Moves R (x i))
    (hturn : a ∈ is → ∀ s', R s s' → Q s' (after (x a) s')) : Q s (after (each x is) s) := by
  induction is generalizing s with
  | nil => exact refl_of Q s
  | cons i is ih =>
    obtain ⟨hnotin, hrest⟩ := List.nodup_cons.mp hnodup
    rw [each_cons]
    by_cases hi : i = a
    · subst hi
      have hothers : Moves Q (each x is) := by
        refine moves_each_of_mem fun j hj => (hother j ?_).mono hRQ
        intro hsame
        exact hnotin (hsame ▸ hj)
      rcases after_bind_cases (x i) (fun _ => each x is) s with h | ⟨u, -, h⟩
      · rw [h]
        exact hturn List.mem_cons_self s (refl_of R s)
      · rw [h]
        exact trans_of Q (hturn List.mem_cons_self s (refl_of R s)) (hothers _)
    · rcases after_bind_cases (x i) (fun _ => each x is) s with h | ⟨u, -, h⟩
      · rw [h]
        exact hRQ _ _ (hother i hi s)
      · rw [h]
        refine trans_of Q (hRQ _ _ (hother i hi s)) (ih hrest fun hmem s' hs' => ?_)
        exact hturn (List.mem_cons_of_mem i hmem) s' (trans_of R (hother i hi s) hs')

/-- The part `f` of the state is the same. -/
def SameAs (f : σ → τ) (s s' : σ) : Prop := f s' = f s

instance (f : σ → τ) : IsPreorder σ (SameAs f) where
  refl _ := rfl
  trans _ _ _ h h' := Eq.trans h' h

/-- `x` never changes the part `f` of the state, not even when it raises. -/
abbrev Keeps (f : σ → τ) (x : EStateM ε σ α) : Prop := Moves (SameAs f) x

/-- What is computed from a kept part is kept. -/
theorem Keeps.comp {f : σ → τ} {x : EStateM ε σ α} (hx : Keeps f x) (g : τ → ρ) :
    Keeps (fun s => g (f s)) x := fun s => congrArg g (hx s)

/-- If what follows keeps `f`, it is as the first part left it, whether or not that
raised. -/
theorem Keeps.after_bind {f : σ → τ} {x : EStateM ε σ α} {g : α → EStateM ε σ β}
    (hg : ∀ a, Keeps f (g a)) (s : σ) : f (after (x >>= g) s) = f (after x s) := by
  rcases after_bind_cases x g s with h | ⟨a, _, h⟩
  · rw [h]
  · rw [h]
    exact hg a _

/-- A property carries over from the first state to the second. -/
def Carries (P : σ → Prop) (s s' : σ) : Prop := P s → P s'

instance (P : σ → Prop) : IsPreorder σ (Carries P) where
  refl _ h := h
  trans _ _ _ h h' hs := h' (h hs)

/-- `x` never destroys the property `P`, not even when it raises. -/
abbrev Preserves (P : σ → Prop) (x : EStateM ε σ α) : Prop := Moves (Carries P) x

/-! ### Exceptions -/

/-- Every exception `x` can raise satisfies `P`. -/
def RaisesOnly (P : ε → Prop) (x : EStateM ε σ α) : Prop := ∀ s e s', x s = .error e s' → P e

/-- A program that cannot raise returns, and leaves the state `after` names. -/
theorem eq_ok_of_raisesOnly {P : ε → Prop} {x : EStateM ε σ α} (hx : RaisesOnly P x)
    (hP : ∀ e, ¬ P e) (s : σ) : ∃ a, x s = .ok a (after x s) := by
  cases h : x s with
  | ok a s' => exact ⟨a, by rw [after_of_ok h]⟩
  | error e s' => exact absurd (hx s e s' h) (hP e)

@[simp] theorem raisesOnly_pure (P : ε → Prop) (a : α) :
    RaisesOnly P (pure a : EStateM ε σ α) := by
  intro s e s' h
  simp at h

@[simp] theorem raisesOnly_get (P : ε → Prop) : RaisesOnly P (get : EStateM ε σ σ) := by
  intro s e s' h
  simp at h

@[simp] theorem raisesOnly_modify (P : ε → Prop) (u : σ → σ) :
    RaisesOnly P (modify u : EStateM ε σ PUnit) := by
  intro s e s' h
  simp at h

@[simp] theorem raisesOnly_throw {P : ε → Prop} {e : ε} (h : P e) :
    RaisesOnly P (throw e : EStateM ε σ α) := by
  intro s e' s' h'
  rw [throw_run, EStateM.Result.error.injEq] at h'
  exact h'.1 ▸ h

@[simp] theorem raisesOnly_fromExcept {P : ε → Prop} {r : Except ε α}
    (h : ∀ e, r = .error e → P e) : RaisesOnly P (fromExcept r : EStateM ε σ α) := by
  cases r with
  | ok a => exact raisesOnly_pure P a
  | error e => exact raisesOnly_throw (h e rfl)

@[simp] theorem raisesOnly_bind {P : ε → Prop} {x : EStateM ε σ α} {g : α → EStateM ε σ β}
    (hx : RaisesOnly P x) (hg : ∀ a, RaisesOnly P (g a)) : RaisesOnly P (x >>= g) := by
  intro s e s' h
  rcases bind_eq_error h with h | ⟨a, s₁, _, h⟩
  · exact hx s e s' h
  · exact hg a s₁ e s' h

@[simp] theorem raisesOnly_ite {P : ε → Prop} {c : Prop} [Decidable c] {x y : EStateM ε σ α}
    (hx : c → RaisesOnly P x) (hy : ¬ c → RaisesOnly P y) :
    RaisesOnly P (if c then x else y) := by
  split_ifs with hc
  · exact hx hc
  · exact hy hc

@[simp] theorem raisesOnly_attempt (P : ε → Prop) (x : EStateM ε σ α) :
    RaisesOnly P (attempt x) := by
  intro s e s' h
  simp at h

end Program
