import Mathlib.Data.List.Basic
import Botik.Library.Program

/-!
# Connections and scripts

A connection reads what it wrote itself. What others read, and whoever opens the database after the
process has stopped, is what was committed last.

A write is tried several times: an attempt that fails because the database is locked is followed
by another one. Whether the transaction is still open after a failed attempt is not known, so the
next attempt may find its own statement executed; a statement that may be executed twice is what
makes the write safe to retry.

A script executes statements one after the other, each of which may fail. Where a statement that
was executed has nothing left to do, and is not undone by the other ones, a script that was
interrupted may be run again from its beginning: what was executed is passed over.

## Main definitions

* `Connection` — what is stored, and what the connection reads
* `WriteAttempt` — what becomes of one attempt of a write
* `Connection.tryWrite` — the attempts of a write
* `WriteAttempt.commits` — one of the attempts is committed
* `Scripts.run` — execute statements in turn
* `Scripts.Settled` — a statement has nothing to do
* `Scripts.Repeatable` — what was executed is settled and stays so

## Main results

* `tryWrite_of_commits`, `tryWrite_of_not_commits` — a write is stored, or leaves what is stored
* `Repeatable.run_of_interrupted` — running again from the beginning goes on where it was
* `Repeatable.run_run` — a script that was executed has nothing to do
-/

/-! ### Connections to a database -/

/-- What is stored, and what the connection reads. -/
@[ext] structure Connection (σ : Type) where
  stored : σ
  current : σ

/-- What becomes of one attempt of a write. -/
inductive WriteAttempt
  | committed
  /-- The statement or its commit raises. The message may say that the database is locked, and the
  transaction may still be open afterwards. -/
  | failed (executed locked stillOpen : Bool)
  /-- The process stops before the commit. -/
  | stopped
  deriving DecidableEq, Repr

namespace Connection

variable {σ ε : Type}

/-- A new connection. -/
def opened (s : σ) : Connection σ := ⟨s, s⟩

@[simp] theorem opened_stored (s : σ) : (opened s).stored = s := rfl

@[simp] theorem opened_current (s : σ) : (opened s).current = s := rfl

def write (sql : σ → σ) (c : Connection σ) : Connection σ := { c with current := sql c.current }

def commit (c : Connection σ) : Connection σ := opened c.current

def rollback (c : Connection σ) : Connection σ := opened c.stored

@[simp] theorem write_stored (sql : σ → σ) (c : Connection σ) : (c.write sql).stored = c.stored :=
  rfl

@[simp] theorem write_current (sql : σ → σ) (c : Connection σ) :
    (c.write sql).current = sql c.current := rfl

@[simp] theorem commit_stored (c : Connection σ) : c.commit.stored = c.current := rfl

@[simp] theorem commit_current (c : Connection σ) : c.commit.current = c.current := rfl

@[simp] theorem rollback_stored (c : Connection σ) : c.rollback.stored = c.stored := rfl

@[simp] theorem rollback_current (c : Connection σ) : c.rollback.current = c.stored := rfl

/-- The connection after a failed attempt. -/
def afterFailure (sql : σ → σ) (executed stillOpen : Bool) (c : Connection σ) : Connection σ :=
  if stillOpen then if executed then c.write sql else c else c.rollback

@[simp] theorem afterFailure_stored (sql : σ → σ) (executed stillOpen : Bool) (c : Connection σ) :
    (c.afterFailure sql executed stillOpen).stored = c.stored := by
  unfold afterFailure
  split_ifs <;> rfl

/-- The attempts of a write. It ends with the exception `raised` or, where the process stops, with
`stop`. -/
def tryWrite (raised stop : ε) (sql : σ → σ) : List WriteAttempt → EStateM ε (Connection σ) Unit
  | [] => throw raised
  | .committed :: _ => modify fun c => (c.write sql).commit
  | .stopped :: _ => throw stop
  | .failed executed locked stillOpen :: attempts => do
    modify (afterFailure sql executed stillOpen)
    if locked ∧ attempts ≠ [] then tryWrite raised stop sql attempts else throw raised

end Connection

/-- One of the attempts is committed. -/
def WriteAttempt.commits : List WriteAttempt → Bool
  | .committed :: _ => true
  | .failed _ true _ :: attempts => commits attempts
  | _ => false

namespace Connection

open Program

variable {σ ε : Type} {raised stop : ε} {sql : σ → σ}

/-- A statement that may be executed twice is stored when an attempt is committed. -/
theorem tryWrite_of_commits (hsql : ∀ s, sql (sql s) = sql s) {attempts : List WriteAttempt}
    (h : WriteAttempt.commits attempts) {c : Connection σ}
    (hc : c.current = c.stored ∨ c.current = sql c.stored) :
    tryWrite raised stop sql attempts c = .ok () (opened (sql c.stored)) := by
  induction attempts generalizing c with
  | nil => cases h
  | cons attempt attempts ih =>
    cases attempt with
    | committed =>
      rcases hc with hc | hc
      · simp [tryWrite, write, commit, hc]
      · simp [tryWrite, write, commit, hc, hsql]
    | failed executed locked stillOpen =>
      cases locked with
      | false => cases h
      | true =>
        have hmore : attempts ≠ [] := by
          rintro rfl
          cases h
        -- what was executed may be read by the next attempt
        have hnext : (c.afterFailure sql executed stillOpen).current =
              (c.afterFailure sql executed stillOpen).stored ∨
            (c.afterFailure sql executed stillOpen).current =
              sql (c.afterFailure sql executed stillOpen).stored := by
          unfold afterFailure
          split_ifs
          · right
            rcases hc with hc | hc
            · simp [hc]
            · simp [hc, hsql]
          · exact hc
          · exact Or.inl rfl
        rw [tryWrite, bind_of_ok (modify_run _ _), if_pos ⟨rfl, hmore⟩, ih h hnext,
          afterFailure_stored]
    | stopped => cases h

/-- A write of which no attempt is committed raises and leaves what is stored. -/
theorem tryWrite_of_not_commits {attempts : List WriteAttempt} (h : ¬ WriteAttempt.commits attempts)
    (c : Connection σ) :
    ∃ e c', tryWrite raised stop sql attempts c = .error e c' ∧ c'.stored = c.stored := by
  induction attempts generalizing c with
  | nil => exact ⟨raised, c, rfl, rfl⟩
  | cons attempt attempts ih =>
    cases attempt with
    | committed => exact absurd rfl h
    | failed executed locked stillOpen =>
      rw [tryWrite, bind_of_ok (modify_run _ _)]
      split_ifs with hretry
      · obtain ⟨rfl, -⟩ := hretry
        obtain ⟨e, c', herror, hstored⟩ := ih h (c.afterFailure sql executed stillOpen)
        exact ⟨e, c', herror, hstored.trans (afterFailure_stored ..)⟩
      · exact ⟨raised, _, rfl, afterFailure_stored ..⟩
    | stopped => exact ⟨stop, c, rfl, rfl⟩

end Connection

/-! ### Scripts that may be run again -/

namespace Scripts

variable {ι σ ε : Type*} {exec : ι → σ → Except ε σ}

/-- Execute statements in turn, up to the first error. -/
def run (exec : ι → σ → Except ε σ) : List ι → σ → Except ε σ
  | [], s => .ok s
  | i :: is, s => exec i s >>= run exec is

@[simp] theorem run_nil (s : σ) : run exec [] s = .ok s := rfl

theorem run_cons_of_ok {i : ι} {s s' : σ} (h : exec i s = .ok s') (is : List ι) :
    run exec (i :: is) s = run exec is s' := by
  rw [run, h]
  rfl

theorem run_cons_of_error {i : ι} {s : σ} {e : ε} (h : exec i s = .error e) (is : List ι) :
    run exec (i :: is) s = .error e := by
  rw [run, h]
  rfl

/-- A script that was executed was executed statement by statement. -/
theorem run_cons_eq_ok_iff {i : ι} {is : List ι} {s s' : σ} :
    run exec (i :: is) s = .ok s' ↔ ∃ t, exec i s = .ok t ∧ run exec is t = .ok s' := by
  cases h : exec i s with
  | ok t => simp [run_cons_of_ok h]
  | error e => simp [run_cons_of_error h]

theorem run_append_of_ok {is js : List ι} {s s' : σ} (h : run exec is s = .ok s') :
    run exec (is ++ js) s = run exec js s' := by
  induction is generalizing s with
  | nil =>
    cases h
    rfl
  | cons i is ih =>
    obtain ⟨t, hi, his⟩ := run_cons_eq_ok_iff.mp h
    rw [List.cons_append, run_cons_of_ok hi, ih his]

/-- The statement has nothing to do. -/
def Settled (exec : ι → σ → Except ε σ) (i : ι) (s : σ) : Prop := exec i s = .ok s

theorem run_of_settled {is : List ι} {s : σ} (h : ∀ i ∈ is, Settled exec i s) :
    run exec is s = .ok s := by
  induction is with
  | nil => rfl
  | cons i is ih =>
    obtain ⟨hi, his⟩ := List.forall_mem_cons.mp h
    rw [run_cons_of_ok hi, ih his]

/-- What was executed is settled, and stays so whatever else is executed. -/
structure Repeatable (exec : ι → σ → Except ε σ) (is : List ι) : Prop where
  settles : ∀ i ∈ is, ∀ s s', exec i s = .ok s' → Settled exec i s'
  stays : ∀ i ∈ is, ∀ j ∈ is, ∀ s s', Settled exec i s → exec j s = .ok s' → Settled exec i s'

namespace Repeatable

variable {is : List ι} {s s' : σ}

/-- Statements that were executed in turn are settled at the end. -/
theorem settled_of_run (h : Repeatable exec is) {done : List ι} (hdone : ∀ i ∈ done, i ∈ is)
    (hrun : run exec done s = .ok s') :
    (∀ i ∈ done, Settled exec i s') ∧
      ∀ i ∈ is, Settled exec i s → Settled exec i s' := by
  induction done generalizing s with
  | nil =>
    cases hrun
    exact ⟨by simp, fun _ _ hi => hi⟩
  | cons j done ih =>
    obtain ⟨hj, hrest⟩ := List.forall_mem_cons.mp hdone
    obtain ⟨t, hexec, hrun⟩ := run_cons_eq_ok_iff.mp hrun
    obtain ⟨hdone, hkept⟩ := ih hrest hrun
    refine ⟨List.forall_mem_cons.mpr ⟨hkept j hj (h.settles j hj s t hexec), hdone⟩, ?_⟩
    intro i hi hsettled
    exact hkept i hi (h.stays i hi j hj s t hsettled hexec)

/-- After some statements of a script were executed, the script goes on after them. -/
theorem run_of_interrupted (h : Repeatable exec is) {done rest : List ι} (his : is = done ++ rest)
    (hrun : run exec done s = .ok s') : run exec is s' = run exec is s := by
  subst his
  have hsettled := (h.settled_of_run (fun i hi => List.mem_append_left rest hi) hrun).1
  rw [run_append_of_ok (run_of_settled hsettled), run_append_of_ok hrun]

/-- A script that was executed has nothing to do. -/
theorem run_run (h : Repeatable exec is) (hrun : run exec is s = .ok s') :
    run exec is s' = .ok s' := by
  rw [h.run_of_interrupted (List.append_nil is).symm hrun, hrun]

end Repeatable

end Scripts
