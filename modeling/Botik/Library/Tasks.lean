import Mathlib.Data.List.Basic
import Mathlib.Tactic.Basic
import Botik.Library.Runs

/-!
# Tasks and mailboxes

A coroutine waits for a task for some time. When the time is over the task is asked to cancel
itself, and the coroutine goes on when the task has ended. The task stays cancelled: whoever waits
for it afterwards is handed its cancellation at once, which is no timeout.

A queue into which letters are put, and from which one owner takes them. In whatever order that
happens, the owner gets what was in the queue and then what was put, in order, and a take answers
nothing only where the owner has got everything.

## Main definitions

* `TaskState` — what has become of a task
* `TaskState.requestCancel`
* `TaskState.waitResult` — how waiting for it ends
* `Mailbox.Move`, `Mailbox.step`
* `Mailbox.taken`, `Mailbox.arrived`, `Mailbox.takes` — what comes out, what goes in, and how often
  the owner takes

## Main results

* `taken_append_final` — nothing is lost or repeated
* `take_takes_prefix` — as many letters as takes have come out, if there were as many
-/

/-! ### Tasks awaited with a timeout -/

/-- What has become of a task. -/
inductive TaskState
  | pending (cancelRequested : Bool)
  /-- In the last await of its `finally` block. -/
  | finalizing (cancelled : Bool)
  | finished (cancelled : Bool)
  deriving DecidableEq, Repr

/-- How waiting for a task ends. -/
inductive WaitResult
  | returned
  | timeoutError
  | cancelledError
  deriving DecidableEq, Repr

namespace TaskState

/-- `cancel`. -/
def requestCancel : TaskState → TaskState
  | .pending _ => .pending true
  | .finalizing _ => .finalizing true
  | .finished cancelled => .finished cancelled

/-- The task has not come to its `finally` block. -/
def IsPending (t : TaskState) : Prop := ∃ cancelRequested, t = .pending cancelRequested

/-- The result of `wait_for`, once there is one; `timedOut` tells whether its time was over. -/
def waitResult (timedOut : Bool) : TaskState → Option WaitResult
  | .finished false => some .returned
  | .finished true => some (if timedOut then .timeoutError else .cancelledError)
  | .pending _ | .finalizing _ => none

@[simp] theorem isPending_pending (cancelRequested : Bool) : (pending cancelRequested).IsPending :=
  ⟨cancelRequested, rfl⟩

@[simp] theorem not_isPending_finalizing (cancelled : Bool) : ¬ (finalizing cancelled).IsPending := by
  rintro ⟨b, h⟩
  cases h

@[simp] theorem not_isPending_finished (cancelled : Bool) : ¬ (finished cancelled).IsPending := by
  rintro ⟨b, h⟩
  cases h

/-- A task that is asked to cancel itself is as pending as before. -/
@[simp] theorem isPending_requestCancel {t : TaskState} : t.requestCancel.IsPending ↔ t.IsPending := by
  cases t <;> simp [requestCancel]

end TaskState

/-! ### Mailboxes -/

namespace Mailbox

variable {α : Type*}

/-- What happens to a mailbox. -/
inductive Move (α : Type*)
  | put (letter : α)
  | take
  | idle

/-- The letter of a move that puts one. -/
def Move.letter? : Move α → Option α
  | .put letter => some letter
  | .take | .idle => none

/-- A move that takes. -/
def Move.isTake : Move α → Bool
  | .take => true
  | .put _ | .idle => false

/-- A move, with the letter that comes out. -/
def step : Move α → List α → Option α × List α
  | .put letter, queue => (none, queue ++ [letter])
  | .take, queue => (queue.head?, queue.tail)
  | .idle, queue => (none, queue)

/-- The letters that come out. -/
def taken (moves : List (Move α)) (queue : List α) : List α :=
  (Machines.outputs step moves queue).reduceOption

/-- The letters that go in. -/
def arrived (moves : List (Move α)) : List α := moves.filterMap Move.letter?

/-- The number of takes. -/
def takes (moves : List (Move α)) : ℕ := moves.countP Move.isTake

variable {letter : α} {move : Move α} {moves : List (Move α)} {queue : List α}

@[simp] theorem arrived_nil : arrived ([] : List (Move α)) = [] := rfl

@[simp] theorem arrived_put : arrived (.put letter :: moves) = letter :: arrived moves := rfl

@[simp] theorem arrived_take : arrived (.take :: moves) = arrived moves := rfl

@[simp] theorem arrived_idle : arrived (.idle :: moves) = arrived moves := rfl

@[simp] theorem takes_nil : takes ([] : List (Move α)) = 0 := rfl

@[simp] theorem takes_put : takes (.put letter :: moves) = takes moves :=
  List.countP_cons_of_neg (by simp [Move.isTake])

@[simp] theorem takes_take : takes (.take :: moves) = takes moves + 1 := List.countP_cons_of_pos rfl

@[simp] theorem takes_idle : takes (.idle :: moves) = takes moves :=
  List.countP_cons_of_neg (by simp [Move.isTake])

@[simp] theorem taken_nil : taken [] queue = [] := rfl

theorem taken_cons :
    taken (move :: moves) queue =
      (step move queue).1.toList ++ taken moves (step move queue).2 := by
  unfold taken
  rw [Machines.outputs_cons]
  cases (step move queue).1 with
  | none => rfl
  | some letter => rfl

/-- What came out and what is left is what was there and what went in. -/
theorem taken_append_final :
    taken moves queue ++ Machines.final step moves queue = queue ++ arrived moves := by
  induction moves generalizing queue with
  | nil => simp
  | cons move moves ih =>
    rw [taken_cons, Machines.final_cons, List.append_assoc, ih]
    cases move with
    | put letter => simp [step]
    | take => cases queue <;> simp [step]
    | idle => simp [step]

theorem taken_prefix : taken moves queue <+: queue ++ arrived moves :=
  ⟨_, taken_append_final⟩

/-- Of the letters that are there, as many have come out as there were takes. -/
theorem take_takes_prefix (moves : List (Move α)) (queue : List α) :
    queue.take (takes moves) <+: taken moves queue := by
  induction moves generalizing queue with
  | nil => simp
  | cons move moves ih =>
    rw [taken_cons]
    cases move with
    | put letter =>
      -- the takes to come may be more than the letters there were
      have hmore : queue.take (takes moves) <+: (queue ++ [letter]).take (takes moves) :=
        List.prefix_take_iff.mpr
          ⟨(List.take_prefix _ _).trans (List.prefix_append _ _), List.length_take_le _ _⟩
      rw [takes_put]
      exact hmore.trans (ih _)
    | take =>
      cases queue with
      | nil => simp
      | cons letter queue =>
        rw [takes_take, List.take_succ_cons]
        exact (List.prefix_cons_inj letter).mpr (ih queue)
    | idle =>
      rw [takes_idle]
      exact ih queue

/-- After as many takes as there were letters all of them have come out. -/
theorem prefix_taken (h : queue.length ≤ takes moves) : queue <+: taken moves queue := by
  have htaken := take_takes_prefix moves queue
  rwa [List.take_of_length_le h] at htaken

end Mailbox
