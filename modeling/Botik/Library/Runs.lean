import Mathlib.Algebra.BigOperators.Group.List.Basic
import Mathlib.Algebra.Group.Basic
import Mathlib.Tactic.Abel
import Botik.Library.Program

/-!
# Runs of a step function

A run feeds a list of inputs to a step function. Properties of whole runs are
stated over its *transitions*: the state before, the input, the state after.

A program that works through several batches of elements, where an exception
ends its batch and is caught outside, is a run too: over the elements that were
reached.

A step function that answers every input. Two machines are compared by their answers to the same
inputs, and a quantity that every step changes by what it answers is known after a whole run.

## Main definitions

* `Runs.run`, `Runs.transitions`
* `Runs.AtMostOnce` — a property of at most one place of a list
* `Runs.taken` — the elements of one batch up to the first exception
* `Runs.takenOfBatches` — the elements reached over all batches
* `Machines.outputs`, `Machines.final` — the answers to a list of inputs, and the state afterwards
* `Machines.feed` — machines under keys

## Main results

* `run_of_inv`, `forall_transitions_of_inv` — the invariant rule, for steps that
  meet a condition
* `val_run_eq_foldl` — a value that a step changes only by what it makes of its input
* `part_run_eq_run` — a part of the state that runs by itself
* `runBatches_eq_run` — a program over batches is the run over what it reached
* `val_run_add_sum_dropped` — in a group, what a run forgets is the difference
  between what came in and what is there
* `foldl_feed` — every machine gets the inputs of its key
* `forall₂_outputs_of_simulation` — states related by a simulation answer alike
* `val_final_eq_add_sum` — a quantity after a run, from the answers
-/

/-! ### Runs of a step function -/

namespace Runs

variable {σ ι : Type*}

/-- One step of a run. -/
structure Transition (σ ι : Type*) where
  before : σ
  input : ι
  after : σ

/-- Feed the inputs one after the other. -/
def run (step : ι → σ → σ) : List ι → σ → σ
  | [], s => s
  | i :: is, s => run step is (step i s)

/-- The steps of a run, in order. -/
def transitions (step : ι → σ → σ) : List ι → σ → List (Transition σ ι)
  | [], _ => []
  | i :: is, s => ⟨s, i, step i s⟩ :: transitions step is (step i s)

variable {step : ι → σ → σ} {is js : List ι} {s : σ}

@[simp] theorem run_nil : run step [] s = s := rfl

@[simp] theorem run_cons (i : ι) : run step (i :: is) s = run step is (step i s) := rfl

@[simp] theorem transitions_nil : transitions step [] s = [] := rfl

@[simp] theorem transitions_cons (i : ι) :
    transitions step (i :: is) s = ⟨s, i, step i s⟩ :: transitions step is (step i s) := rfl

theorem run_append : run step (is ++ js) s = run step js (run step is s) := by
  induction is generalizing s with
  | nil => rfl
  | cons i is ih => exact ih

theorem transitions_append :
    transitions step (is ++ js) s =
      transitions step is s ++ transitions step js (run step is s) := by
  induction is generalizing s with
  | nil => rfl
  | cons i is ih => simp [ih]

/-- The transition at a place of the inputs. -/
theorem mem_transitions (is : List ι) (i : ι) (js : List ι) (s : σ) :
    ⟨run step is s, i, step i (run step is s)⟩ ∈ transitions step (is ++ i :: js) s := by
  rw [transitions_append, transitions_cons]
  exact List.mem_append_right _ List.mem_cons_self

/-- The inputs of the transitions are the inputs of the run. -/
theorem map_input_transitions : (transitions step is s).map Transition.input = is := by
  induction is generalizing s with
  | nil => rfl
  | cons i is ih => simp [ih]

theorem input_mem {t : Transition σ ι} (ht : t ∈ transitions step is s) : t.input ∈ is := by
  have hmem := List.mem_map_of_mem (f := Transition.input) ht
  rwa [map_input_transitions] at hmem

theorem after_eq_step {t : Transition σ ι} (ht : t ∈ transitions step is s) :
    t.after = step t.input t.before := by
  induction is generalizing s with
  | nil => simp at ht
  | cons i is ih =>
    rcases List.mem_cons.mp ht with rfl | ht
    · rfl
    · exact ih ht

/-- A transition divides the inputs of its run. -/
theorem exists_split_of_mem_transitions {t : Transition σ ι} (ht : t ∈ transitions step is s) :
    ∃ before later, is = before ++ t.input :: later ∧ t.before = run step before s := by
  induction is generalizing s with
  | nil => cases ht
  | cons i is ih =>
    rcases List.mem_cons.mp ht with rfl | ht
    · exact ⟨[], is, rfl, rfl⟩
    · obtain ⟨before, later, rfl, hbefore⟩ := ih ht
      exact ⟨i :: before, later, rfl, hbefore⟩

/-- The invariant rule: what every admissible step preserves holds at the end. -/
theorem run_of_inv {Inv : σ → Prop} {P : σ → ι → Prop}
    (hstep : ∀ s i, Inv s → P s i → Inv (step i s)) (hs : Inv s)
    (hP : ∀ t ∈ transitions step is s, P t.before t.input) : Inv (run step is s) := by
  induction is generalizing s with
  | nil => exact hs
  | cons i is ih =>
    rw [transitions_cons, List.forall_mem_cons] at hP
    exact ih (hstep s i hs hP.1) hP.2

/-- The invariant rule for all states on the way. -/
theorem forall_transitions_of_inv {Inv : σ → Prop} {P : σ → ι → Prop}
    (hstep : ∀ s i, Inv s → P s i → Inv (step i s)) (hs : Inv s)
    (hP : ∀ t ∈ transitions step is s, P t.before t.input) :
    ∀ t ∈ transitions step is s, Inv t.before ∧ Inv t.after := by
  induction is generalizing s with
  | nil => simp
  | cons i is ih =>
    rw [transitions_cons, List.forall_mem_cons] at hP ⊢
    have hnext := hstep s i hs hP.1
    exact ⟨⟨hs, hnext⟩, ih hnext hP.2⟩

/-- The exact invariant rule: where a step keeps the invariant exactly under `P`, every state of a
run meets the invariant if and only if every step meets `P`. A second invariant `Q`, which every
step keeps, may be used on the way. -/
theorem forall_after_iff {Inv Q : σ → Prop} {A : ι → Prop} {P : σ → ι → Prop}
    (hkeep : ∀ s i, Q s → A i → Q (step i s))
    (hstep : ∀ s i, Q s → A i → Inv s → (Inv (step i s) ↔ P s i)) (hQ : Q s) (hs : Inv s)
    (hA : ∀ i ∈ is, A i) :
    (∀ t ∈ transitions step is s, Inv t.after) ↔
      ∀ t ∈ transitions step is s, P t.before t.input := by
  induction is generalizing s with
  | nil => simp
  | cons i is ih =>
    obtain ⟨hi, hrest⟩ := List.forall_mem_cons.mp hA
    rw [transitions_cons, List.forall_mem_cons, List.forall_mem_cons]
    constructor
    · rintro ⟨hafter, hlater⟩
      exact ⟨(hstep s i hQ hi hs).mp hafter, (ih (hkeep s i hQ hi) hafter hrest).mp hlater⟩
    · rintro ⟨hP, hlater⟩
      have hafter := (hstep s i hQ hi hs).mpr hP
      exact ⟨hafter, (ih (hkeep s i hQ hi) hafter hrest).mpr hlater⟩

/-- A value that a step changes only by what it makes of its input, after a run. -/
theorem val_run_eq_foldl {τ κ : Type*} (val : σ → τ) {entry : ι → Option κ} {record : τ → κ → τ}
    (h : ∀ i s, val (step i s) = (entry i).elim (val s) (record (val s))) :
    val (run step is s) = (is.filterMap entry).foldl record (val s) := by
  induction is generalizing s with
  | nil => rfl
  | cons i is ih =>
    rw [run_cons, ih, h]
    cases hentry : entry i with
    | none => rw [List.filterMap_cons_none hentry, Option.elim_none]
    | some e => rw [List.filterMap_cons_some hentry, Option.elim_some, List.foldl_cons]

/-- A value that a step changes only by the entries it makes of its input in the state before. -/
theorem val_run_eq_foldl_flatMap {τ κ : Type*} (val : σ → τ) {entries : ι → σ → List κ}
    {record : τ → κ → τ} (h : ∀ i s, val (step i s) = (entries i s).foldl record (val s)) :
    val (run step is s) =
      ((transitions step is s).flatMap fun t => entries t.input t.before).foldl record (val s) := by
  induction is generalizing s with
  | nil => rfl
  | cons i is ih => rw [run_cons, ih, h, transitions_cons, List.flatMap_cons, List.foldl_append]

/-- A part of the state that steps on some inputs only, whatever the rest of the state is: it runs
by itself over these inputs. -/
theorem part_run_eq_run {τ κ : Type*} (part : σ → τ) {entry : ι → Option κ} {step' : κ → τ → τ}
    (h : ∀ i s, part (step i s) = (entry i).elim (part s) fun k => step' k (part s)) :
    part (run step is s) = run step' (is.filterMap entry) (part s) := by
  induction is generalizing s with
  | nil => rfl
  | cons i is ih =>
    rw [run_cons, ih, h]
    cases hentry : entry i with
    | none => rw [List.filterMap_cons_none hentry, Option.elim_none]
    | some k => rw [List.filterMap_cons_some hentry, Option.elim_some, run_cons]

/-! ### Accumulators that forget -/

section Accumulator

variable {G : Type*} [AddCommGroup G]

/-- What a transition did not add to the value although it came in. -/
def dropped (amount : ι → G) (val : σ → G) (t : Transition σ ι) : G :=
  val t.before + amount t.input - val t.after

/-- The value, plus everything forgotten on the way, is everything that came
in. -/
theorem val_run_add_sum_dropped (amount : ι → G) (val : σ → G) :
    val (run step is s) + ((transitions step is s).map (dropped amount val)).sum =
      val s + (is.map amount).sum := by
  induction is generalizing s with
  | nil => simp
  | cons i is ih =>
    have hrest := ih (s := step i s)
    simp only [run_cons, transitions_cons, List.map_cons, List.sum_cons, dropped] at hrest ⊢
    calc val (run step is (step i s)) +
          (val s + amount i - val (step i s) +
            ((transitions step is (step i s)).map (dropped amount val)).sum)
        = (val (run step is (step i s)) +
            ((transitions step is (step i s)).map (dropped amount val)).sum) +
            (val s + amount i - val (step i s)) := by abel
      _ = val s + (amount i + (is.map amount).sum) := by rw [hrest]; abel

/-- A value to which every step adds an amount is the sum of the amounts. -/
theorem val_run_of_adds {amount : Transition σ ι → G} {val : σ → G}
    (h : ∀ t ∈ transitions step is s, val t.after = val t.before + amount t) :
    val (run step is s) = val s + ((transitions step is s).map amount).sum := by
  induction is generalizing s with
  | nil => simp
  | cons i is ih =>
    rw [transitions_cons, List.forall_mem_cons] at h
    have hstep : val (step i s) = val s + amount ⟨s, i, step i s⟩ := h.1
    rw [run_cons, ih h.2, hstep, transitions_cons, List.map_cons, List.sum_cons, add_assoc]

end Accumulator

/-! ### Events that happen at most once -/

/-- `P` holds at no two places of the list. -/
def AtMostOnce {α : Type*} (P : α → Prop) (l : List α) : Prop :=
  l.Pairwise fun a b => ¬ (P a ∧ P b)

theorem AtMostOnce.of_pairwise {α : Type*} {P : α → Prop} {l : List α}
    (h : l.Pairwise fun a b => P a → ¬ P b) : AtMostOnce P l :=
  h.imp fun hab hP => hab hP.1 hP.2

/-! ### Programs over batches -/

section Batches

open Program

variable {ε σ : Type} {ι κ : Type*} {x : ι → EStateM ε σ Unit} {is js : List ι} {s : σ}

/-- The elements a program over a list gets to: up to the first one that raises,
and that one. -/
def taken (x : ι → EStateM ε σ Unit) : List ι → σ → List ι
  | [], _ => []
  | i :: is, s =>
    match x i s with
    | .ok _ s' => i :: taken x is s'
    | .error _ _ => [i]

theorem after_each_eq_run :
    after (each x is) s = run (fun i => after (x i)) (taken x is s) s := by
  induction is generalizing s with
  | nil => rfl
  | cons i is ih =>
    rw [each_cons]
    cases h : x i s with
    | ok _ s' =>
      rw [after, bind_of_ok h, taken, h, run_cons, after_of_ok h]
      exact ih
    | error e s' =>
      rw [after, bind_of_error h, taken, h, run_cons, after_of_error h]
      rfl

theorem taken_prefix : taken x is s <+: is := by
  induction is generalizing s with
  | nil => exact List.nil_prefix
  | cons i is ih =>
    rw [taken]
    cases x i s with
    | ok _ s' => exact List.prefix_cons_inj i |>.mpr ih
    | error _ _ => exact ⟨is, rfl⟩

/-- Work through batches one after the other; an exception ends its batch. -/
def runBatches (x : ι → EStateM ε σ Unit) (bs : List (List ι)) (s : σ) : σ :=
  run (fun b => after (each x b)) bs s

/-- The elements reached over all batches. -/
def takenOfBatches (x : ι → EStateM ε σ Unit) : List (List ι) → σ → List ι
  | [], _ => []
  | b :: bs, s => taken x b s ++ takenOfBatches x bs (after (each x b) s)

theorem runBatches_eq_run {bs : List (List ι)} :
    runBatches x bs s = run (fun i => after (x i)) (takenOfBatches x bs s) s := by
  induction bs generalizing s with
  | nil => rfl
  | cons b bs ih =>
    rw [takenOfBatches, run_append, ← after_each_eq_run]
    exact ih

theorem takenOfBatches_sublist {bs : List (List ι)} :
    (takenOfBatches x bs s).Sublist bs.flatten := by
  induction bs generalizing s with
  | nil => exact List.Sublist.refl []
  | cons b bs ih => exact taken_prefix.sublist.append ih

theorem each_append : each x (is ++ js) = (each x is >>= fun _ => each x js) := by
  induction is with
  | nil => rfl
  | cons i is ih =>
    rw [List.cons_append, each_cons, each_cons, ih, bind_assoc]

theorem each_map (g : κ → ι) (ks : List κ) : each x (ks.map g) = each (fun k => x (g k)) ks := by
  induction ks with
  | nil => rfl
  | cons k ks ih => rw [List.map_cons, each_cons, each_cons, ih]

/-- Nested loops are one loop over the concatenation. -/
theorem each_flatMap (g : κ → List ι) (ks : List κ) :
    each (fun k => each x (g k)) ks = each x (ks.flatMap g) := by
  induction ks with
  | nil => rfl
  | cons k ks ih => rw [each_cons, List.flatMap_cons, each_append, ih]

end Batches

end Runs

/-! ### Machines that answer -/

namespace Machines

variable {ι σ τ ω υ : Type*} {step : ι → σ → ω × σ} {i : ι} {is js : List ι} {s : σ}

/-- The answers to the inputs, one after the other. -/
def outputs (step : ι → σ → ω × σ) : List ι → σ → List ω
  | [], _ => []
  | i :: is, s => (step i s).1 :: outputs step is (step i s).2

/-- The state after the inputs. -/
def final (step : ι → σ → ω × σ) : List ι → σ → σ := Runs.run fun i s => (step i s).2

@[simp] theorem outputs_nil : outputs step [] s = [] := rfl

@[simp] theorem outputs_cons :
    outputs step (i :: is) s = (step i s).1 :: outputs step is (step i s).2 := rfl

@[simp] theorem final_nil : final step [] s = s := rfl

@[simp] theorem final_cons : final step (i :: is) s = final step is (step i s).2 := rfl

theorem final_append : final step (is ++ js) s = final step js (final step is s) :=
  Runs.run_append

theorem outputs_append :
    outputs step (is ++ js) s = outputs step is s ++ outputs step js (final step is s) := by
  induction is generalizing s with
  | nil => rfl
  | cons i is ih => simp [ih]

@[simp] theorem length_outputs : (outputs step is s).length = is.length := by
  induction is generalizing s with
  | nil => rfl
  | cons i is ih => simp [ih]

/-- What every step preserves holds at the end. -/
theorem final_of_inv {Inv : σ → Prop} {P : ι → Prop}
    (hstep : ∀ s i, Inv s → P i → Inv (step i s).2) (hs : Inv s) (hP : ∀ i ∈ is, P i) :
    Inv (final step is s) := by
  induction is generalizing s with
  | nil => exact hs
  | cons i is ih =>
    obtain ⟨hi, hrest⟩ := List.forall_mem_cons.mp hP
    exact ih (hstep s i hs hi) hrest

/-- Machines under keys: an input goes to the machine of its key. -/
def feed {κ : Type*} [DecidableEq κ] (step : ι → σ → ω × σ) (states : κ → σ) (input : κ × ι) :
    κ → σ :=
  Function.update states input.1 (step input.2 (states input.1)).2

/-- Every machine gets the inputs of its key, in their order. -/
theorem foldl_feed {κ : Type*} [DecidableEq κ] (inputs : List (κ × ι)) (states : κ → σ) (k : κ) :
    inputs.foldl (feed step) states k =
      final step ((inputs.filter fun input => input.1 = k).map Prod.snd) (states k) := by
  induction inputs generalizing states with
  | nil => rfl
  | cons input inputs ih =>
    rw [List.foldl_cons, ih]
    by_cases hk : input.1 = k
    · rw [List.filter_cons_of_pos (by simpa using hk), List.map_cons, final_cons, feed, ← hk,
        Function.update_self]
    · rw [List.filter_cons_of_neg (by simpa using hk), feed, Function.update_of_ne (Ne.symm hk)]

/-- States related by a simulation answer alike. -/
theorem forall₂_outputs_of_simulation {step' : ι → τ → υ × τ} {R : ω → υ → Prop}
    {Sim : σ → τ → Prop} (h : ∀ i s t, Sim s t →
      R (step i s).1 (step' i t).1 ∧ Sim (step i s).2 (step' i t).2)
    {t : τ} (hst : Sim s t) (is : List ι) :
    List.Forall₂ R (outputs step is s) (outputs step' is t) := by
  induction is generalizing s t with
  | nil => exact List.Forall₂.nil
  | cons i is ih =>
    obtain ⟨hanswer, hnext⟩ := h i s t hst
    exact List.Forall₂.cons hanswer (ih hnext)

/-- A simulation lasts to the end of a run. -/
theorem final_of_simulation {step' : ι → τ → υ × τ} {Sim : σ → τ → Prop}
    (h : ∀ i s t, Sim s t → Sim (step i s).2 (step' i t).2) {t : τ} (hst : Sim s t) (is : List ι) :
    Sim (final step is s) (final step' is t) := by
  induction is generalizing s t with
  | nil => exact hst
  | cons i is ih => exact ih (h i s t hst)

/-- A quantity that every step changes by what it answers. -/
theorem val_final_eq_add_sum {M : Type*} [AddCommMonoid M] (val : σ → M) (gain : ω → M)
    (hval : ∀ s i, val (step i s).2 = val s + gain (step i s).1) (is : List ι) (s : σ) :
    val (final step is s) = val s + ((outputs step is s).map gain).sum := by
  induction is generalizing s with
  | nil => simp
  | cons i is ih =>
    rw [final_cons, ih, hval s i, outputs_cons, List.map_cons, List.sum_cons, add_assoc]

end Machines
