import Botik.AppService.EventPublisher
import Botik.Library.Tasks

/-!
# What the subscribers of the event publisher receive

What a subscriber has not received yet, the rest of its copy of the last events and what is in its
queue, is a mailbox: an event that is published is put into it, and a turn of the subscriber takes
from it. So it receives the last events before its first pull and then every later one, in order,
whatever the others do.

## Main definitions

* `published`, `received` — the events of the publisher, and what a subscriber is answered
* `EventPublisher.takesTurn` — a step in which a subscriber goes on
* `EventPublisher.Sim` — what a subscriber has not received yet

## Main results

* `sim_step` — a step of the publisher is a move of the mailbox
* `received_eq_taken` — over a run a subscriber receives what is taken from the mailbox
* `subscribers_lose_and_repeat_nothing`
-/

namespace Botik.AppService

open RecentEntries Runs

variable {ι α : Type*}

/-- The generator is at a `yield`. -/
def Subscription.isYielded : Subscription α → Bool
  | .yielded _ => true
  | _ => false

/-- A pull of the generator waits. -/
def Subscription.isGetting : Subscription α → Bool
  | .getting => true
  | _ => false

theorem any_isYielded_iff {x : Option (Subscription α)} :
    x.any Subscription.isYielded = true ↔ ∃ rest, x = some (.yielded rest) := by
  cases x with
  | none => simp
  | some subscription => cases subscription <;> simp [Subscription.isYielded]

theorem any_isGetting_iff {x : Option (Subscription α)} :
    x.any Subscription.isGetting = true ↔ x = some .getting := by
  cases x with
  | none => simp
  | some subscription => cases subscription <;> simp [Subscription.isGetting]

namespace PublisherStep

/-- The event of a step that publishes. -/
def payload? : PublisherStep ι α → Option α
  | .publish payload => some payload
  | _ => none

/-- The subscriber whose generator a step is about. -/
def target? : PublisherStep ι α → Option ι
  | .publish _ | .stop => none
  | .subscribe i | .pull i | .resume i | .cancel i | .close i => some i

end PublisherStep

/-- The events that are published. -/
def published (steps : List (PublisherStep ι α)) : List α :=
  steps.filterMap PublisherStep.payload?

namespace EventPublisher

variable [DecidableEq ι] {i j : ι} {s : EventPublisher ι α} {a : PublisherStep ι α}
  {steps later : List (PublisherStep ι α)} {queue rest : List α}

/-- The event a subscriber is handed in a step. -/
def answer (i : ι) (a : PublisherStep ι α) (s : EventPublisher ι α) : Option α :=
  if a.target? = some i then (step a s).1 else none

/-- The events a subscriber is handed along a run. -/
def received (i : ι) : List (PublisherStep ι α) → EventPublisher ι α → List α
  | [], _ => []
  | a :: steps, s => (answer i a s).toList ++ received i steps (step a s).2

/-- A subscriber goes on: it pulls at a `yield`, or the loop gets to its waiting pull. -/
def takesTurn (i : ι) : PublisherStep ι α → EventPublisher ι α → Bool
  | .pull j, s => j = i ∧ (s.subscriptions.get? i).any Subscription.isYielded
  | .resume j, s => j = i ∧ (s.subscriptions.get? i).any Subscription.isGetting
  | _, _ => false

/-- How often a subscriber goes on in a run. -/
def turns (i : ι) : List (PublisherStep ι α) → EventPublisher ι α → ℕ
  | [], _ => 0
  | a :: steps, s => (if takesTurn i a s then 1 else 0) + turns i steps (step a s).2

/-- The state after a run. -/
def final (steps : List (PublisherStep ι α)) (s : EventPublisher ι α) : EventPublisher ι α :=
  Machines.final step steps s

/-! ### The generator of one subscriber -/

section Frame

variable {subscription : Subscription α} {payload : α}

@[simp] theorem subscriptions_suspend :
    (suspend j subscription s).subscriptions.get? i =
      if i = j then some subscription else s.subscriptions.get? i := Dict.get?_set _ _ _ _

@[simp] theorem subscribers_suspend :
    (suspend j subscription s).subscribers = s.subscribers := rfl

@[simp] theorem subscriptions_finish :
    (finish j s).subscriptions.get? i =
      if i = j then some .ended else s.subscriptions.get? i := Dict.get?_set _ _ _ _

@[simp] theorem subscribers_finish :
    (finish j s).subscribers.get? i = if i = j then none else s.subscribers.get? i :=
  Dict.get?_erase _ _ _

/-- What the publisher keeps of a subscriber. -/
def view (i : ι) (s : EventPublisher ι α) : Option (Subscription α) × Option (List α) :=
  (s.subscriptions.get? i, s.subscribers.get? i)

theorem view_finish (h : i ≠ j) : view i (finish j s) = view i s := by
  simp [view, h]

theorem view_suspend (h : i ≠ j) : view i (suspend j subscription s) = view i s := by
  simp [view, h]

theorem view_yieldNext (h : i ≠ j) : view i (yieldNext j payload queue s).2 = view i s := by
  simp [view, yieldNext, h, Dict.get?_set]

theorem view_follow (h : i ≠ j) : view i (follow j s).2 = view i s := by
  unfold follow
  split_ifs
  · exact view_finish h
  · split
    · exact view_yieldNext h
    · exact view_suspend h
    · exact view_suspend h

theorem view_replay (h : i ≠ j) (rest : List α) : view i (replay j rest s).2 = view i s := by
  cases rest with
  | nil => exact view_follow h
  | cons payload rest => exact view_suspend h

/-- A step about another subscriber. -/
theorem view_step_of_ne (htarget : a.target? = some j) (h : i ≠ j) :
    view i (step a s).2 = view i s := by
  cases a with
  | publish payload => cases htarget
  | stop => cases htarget
  | subscribe k =>
    obtain rfl := Option.some.inj htarget
    simp [view, step, subscribe, Dict.get?_insertIfAbsent_of_ne h]
  | pull k =>
    obtain rfl := Option.some.inj htarget
    change view i (pull k s).2 = view i s
    unfold pull
    split
    -- a first pull registers a queue of its own and replays into it
    · rw [view_replay h]
      simp [view, Dict.get?_set, h]
    · exact view_replay h _
    · rfl
    · rfl
    · rfl
  | resume k =>
    obtain rfl := Option.some.inj htarget
    change view i (resume k s).2 = view i s
    unfold resume
    split
    · exact view_yieldNext h
    · rfl
  | cancel k =>
    obtain rfl := Option.some.inj htarget
    change view i (cancel k s) = view i s
    unfold cancel
    split
    · exact view_finish h
    all_goals rfl
  | close k =>
    obtain rfl := Option.some.inj htarget
    change view i (close k s) = view i s
    unfold close
    split
    · exact view_suspend h
    · exact view_finish h
    all_goals rfl

/-- A step that is not about a generator. -/
theorem subscriptions_step_of_ne (htarget : a.target? ≠ some i) :
    (step a s).2.subscriptions.get? i = s.subscriptions.get? i := by
  cases hother : a.target? with
  | some j =>
    have hne : i ≠ j := fun heq => htarget (by rw [hother, heq])
    exact congrArg Prod.fst (view_step_of_ne hother hne)
  | none =>
    cases a with
    | publish payload => rfl
    | stop => rfl
    | _ => cases hother

end Frame

/-! ### The shared part -/

section Shared

variable {payload : α}

/-- What all subscribers share. -/
def shared (s : EventPublisher ι α) : BoundedDeque α × Bool := (s.recent, s.stopped)

theorem shared_follow : shared (follow j s).2 = shared s := by
  unfold follow
  split_ifs
  · rfl
  · split
    all_goals rfl

theorem shared_replay (rest : List α) : shared (replay j rest s).2 = shared s := by
  cases rest with
  | nil => exact shared_follow
  | cons payload rest => rfl

/-- Only an event and the stop change what is shared. -/
theorem shared_step (ha : a ≠ .stop) :
    shared (step a s).2 = ((a.payload?).elim s.recent s.recent.append, s.stopped) := by
  cases a with
  | publish payload => rfl
  | stop => exact absurd rfl ha
  | subscribe k => rfl
  | pull k =>
    change shared (pull k s).2 = shared s
    unfold pull
    split
    · rw [shared_replay]
      rfl
    · exact shared_replay _
    all_goals rfl
  | resume k =>
    change shared (resume k s).2 = shared s
    unfold resume
    split
    all_goals rfl
  | cancel k =>
    change shared (cancel k s) = shared s
    unfold cancel
    split
    all_goals rfl
  | close k =>
    change shared (close k s) = shared s
    unfold close
    split
    all_goals rfl

theorem stopped_step (ha : a ≠ .stop) : (step a s).2.stopped = s.stopped :=
  congrArg Prod.snd (shared_step ha)

end Shared

/-! ### The mailbox of a subscriber -/

/-- What a step means to the mailbox of a subscriber. -/
def moveOf (i : ι) (a : PublisherStep ι α) (s : EventPublisher ι α) : Mailbox.Move α :=
  match a.payload? with
  | some payload => .put payload
  | none => if takesTurn i a s then .take else .idle

/-- A list is what a subscriber has not received yet. One that has ended receives nothing more. -/
inductive Sim (i : ι) (s : EventPublisher ι α) : List α → Prop
  | yielded {rest queue : List α} (hsub : s.subscriptions.get? i = some (.yielded rest))
      (hqueue : s.subscribers.get? i = some queue) : Sim i s (rest ++ queue)
  | getting {queue : List α} (hsub : s.subscriptions.get? i = some .getting)
      (hqueue : s.subscribers.get? i = some queue) : Sim i s queue
  | ended {queue : List α} (hsub : s.subscriptions.get? i = some .ended) : Sim i s queue

section Simulation

variable {backlog : List α} {s' : EventPublisher ι α}

theorem Sim.of_view (h : Sim i s backlog) (hview : view i s' = view i s) : Sim i s' backlog := by
  obtain ⟨hsubscription, hsubscriber⟩ := Prod.mk.inj hview
  cases h with
  | yielded hsub hqueue => exact .yielded (hsubscription.trans hsub) (hsubscriber.trans hqueue)
  | getting hsub hqueue => exact .getting (hsubscription.trans hsub) (hsubscriber.trans hqueue)
  | ended hsub => exact .ended (hsubscription.trans hsub)

/-- An event is put into the mailbox. -/
theorem Sim.publish (h : Sim i s backlog) (payload : α) :
    Sim i (publish payload s) (backlog ++ [payload]) := by
  have hqueue' : ∀ queue, s.subscribers.get? i = some queue →
      (EventPublisher.publish payload s).subscribers.get? i = some (queue ++ [payload]) := by
    intro queue hqueue
    rw [EventPublisher.publish, Dict.get?_mapValues, hqueue, Option.map_some]
  cases h with
  | yielded hsub hqueue =>
    rw [List.append_assoc]
    exact .yielded hsub (hqueue' _ hqueue)
  | getting hsub hqueue => exact .getting hsub (hqueue' _ hqueue)
  | ended hsub => exact .ended hsub

/-- An event from the queue. -/
theorem sim_yieldNext {payload : α} : Sim i (yieldNext i payload queue s).2 queue := by
  have hyielded : Sim i (yieldNext i payload queue s).2 ([] ++ queue) :=
    .yielded (by simp [yieldNext]) (by simp [yieldNext])
  exact hyielded

/-- The loop takes from the queue. -/
theorem sim_follow (hstop : s.stopped = false) (hqueue : s.subscribers.get? i = some queue) :
    (follow i s).1 = queue.head? ∧ Sim i (follow i s).2 queue.tail := by
  unfold follow
  rw [hstop, hqueue, if_neg Bool.false_ne_true]
  cases queue with
  | nil => exact ⟨rfl, .getting (by simp) (by simp [hqueue])⟩
  | cons payload queue => exact ⟨rfl, sim_yieldNext⟩

/-- The two loops take from the copy and then from the queue. -/
theorem sim_replay (rest : List α) (hstop : s.stopped = false)
    (hqueue : s.subscribers.get? i = some queue) :
    (replay i rest s).1 = (rest ++ queue).head? ∧
      Sim i (replay i rest s).2 (rest ++ queue).tail := by
  cases rest with
  | nil => exact sim_follow hstop hqueue
  | cons payload rest =>
    exact ⟨rfl, .yielded (subscriptions_suspend.trans (if_pos rfl)) hqueue⟩

/-- What a subscriber is handed in a step and has still to receive then are those of a move of its
mailbox. -/
def Follows (i : ι) (a : PublisherStep ι α) (s : EventPublisher ι α) (backlog : List α) : Prop :=
  answer i a s = (Mailbox.step (moveOf i a s) backlog).1 ∧
    Sim i (step a s).2 (Mailbox.step (moveOf i a s) backlog).2

theorem answer_of_none (h : (step a s).1 = none) : answer i a s = none := by
  unfold answer
  rw [h, ite_self]

theorem moveOf_of_turn (h : takesTurn i a s = true) : moveOf i a s = .take := by
  cases a with
  | publish payload => cases h
  | _ => exact if_pos h

theorem moveOf_of_not_turn (hpayload : a.payload? = none) (h : takesTurn i a s = false) :
    moveOf i a s = .idle := by
  rw [moveOf, hpayload, h]
  rfl

/-- A step that is nothing to a subscriber. -/
theorem follows_of_idle (hpayload : a.payload? = none) (hturn : takesTurn i a s = false)
    (hanswer : answer i a s = none) (h : Sim i (step a s).2 backlog) : Follows i a s backlog := by
  unfold Follows
  rw [hanswer, moveOf_of_not_turn hpayload hturn]
  exact ⟨rfl, h⟩

/-- A step that does nothing. -/
theorem follows_of_eq (hpayload : a.payload? = none) (hturn : takesTurn i a s = false)
    (hstep : step a s = (none, s)) (h : Sim i s backlog) : Follows i a s backlog := by
  refine follows_of_idle hpayload hturn (answer_of_none (by rw [hstep])) ?_
  rw [hstep]
  exact h

/-- A turn of the subscriber. -/
theorem follows_of_turn (htarget : a.target? = some i) (hturn : takesTurn i a s = true)
    (h : (step a s).1 = backlog.head? ∧ Sim i (step a s).2 backlog.tail) :
    Follows i a s backlog := by
  unfold Follows answer
  rw [if_pos htarget, moveOf_of_turn hturn]
  exact h

theorem follows_publish (payload : α) (h : Sim i s backlog) :
    Follows i (.publish payload) s backlog :=
  ⟨rfl, h.publish payload⟩

theorem takesTurn_of_ne (htarget : a.target? = some j) (hne : i ≠ j) :
    takesTurn i a s = false := by
  cases a with
  | pull k =>
    obtain rfl := Option.some.inj htarget
    simp [takesTurn, hne.symm]
  | resume k =>
    obtain rfl := Option.some.inj htarget
    simp [takesTurn, hne.symm]
  | _ => rfl

/-- Another subscriber. -/
theorem follows_of_ne (htarget : a.target? = some j) (hne : i ≠ j) (h : Sim i s backlog) :
    Follows i a s backlog := by
  have hpayload : a.payload? = none := by
    cases a with
    | publish payload => cases htarget
    | _ => rfl
  have hanswer : answer i a s = none := by
    unfold answer
    rw [htarget, if_neg fun heq => hne (Option.some.inj heq).symm]
  exact follows_of_idle hpayload (takesTurn_of_ne htarget hne) hanswer
    (h.of_view (view_step_of_ne htarget hne))

theorem follows_subscribe (h : Sim i s backlog) : Follows i (.subscribe i) s backlog := by
  have hthere : (s.subscriptions.get? i).isSome := by
    cases h with
    | yielded hsub hqueue => rw [hsub]; rfl
    | getting hsub hqueue => rw [hsub]; rfl
    | ended hsub => rw [hsub]; rfl
  refine follows_of_idle rfl rfl (answer_of_none rfl) ?_
  change Sim i (subscribe i s) backlog
  rw [subscribe, Dict.insertIfAbsent_of_isSome hthere]
  exact h

theorem follows_pull (hstop : s.stopped = false) (h : Sim i s backlog) :
    Follows i (.pull i) s backlog := by
  cases h with
  | yielded hsub hqueue =>
    refine follows_of_turn rfl (by simp [takesTurn, hsub, Subscription.isYielded]) ?_
    simp only [step, pull, hsub]
    exact sim_replay _ hstop hqueue
  | getting hsub hqueue =>
    exact follows_of_eq rfl (by simp [takesTurn, hsub, Subscription.isYielded])
      (by simp only [step, pull, hsub]) (.getting hsub hqueue)
  | ended hsub =>
    exact follows_of_eq rfl (by simp [takesTurn, hsub, Subscription.isYielded])
      (by simp only [step, pull, hsub]) (.ended hsub)

theorem follows_resume (h : Sim i s backlog) : Follows i (.resume i) s backlog := by
  cases h with
  | yielded hsub hqueue =>
    exact follows_of_eq rfl (by simp [takesTurn, hsub, Subscription.isGetting])
      (by simp only [step, resume, hsub]) (.yielded hsub hqueue)
  | getting hsub hqueue =>
    refine follows_of_turn rfl (by simp [takesTurn, hsub, Subscription.isGetting]) ?_
    cases backlog with
    | nil =>
      have hstep : step (.resume i) s = (none, s) := by simp only [step, resume, hsub, hqueue]
      rw [hstep]
      exact ⟨rfl, .getting hsub hqueue⟩
    | cons payload queue =>
      simp only [step, resume, hsub, hqueue]
      exact ⟨rfl, sim_yieldNext⟩
  | ended hsub =>
    exact follows_of_eq rfl (by simp [takesTurn, hsub, Subscription.isGetting])
      (by simp only [step, resume, hsub]) (.ended hsub)

theorem sim_finish : Sim i (finish i s) backlog :=
  .ended (subscriptions_finish.trans (if_pos rfl))

theorem follows_cancel (h : Sim i s backlog) : Follows i (.cancel i) s backlog := by
  refine follows_of_idle rfl rfl (answer_of_none rfl) ?_
  change Sim i (cancel i s) backlog
  cases h with
  | yielded hsub hqueue =>
    simp only [cancel, hsub]
    exact .yielded hsub hqueue
  | getting hsub hqueue =>
    simp only [cancel, hsub]
    exact sim_finish
  | ended hsub =>
    simp only [cancel, hsub]
    exact .ended hsub

theorem follows_close (h : Sim i s backlog) : Follows i (.close i) s backlog := by
  refine follows_of_idle rfl rfl (answer_of_none rfl) ?_
  change Sim i (close i s) backlog
  cases h with
  | yielded hsub hqueue =>
    simp only [close, hsub]
    exact sim_finish
  | getting hsub hqueue =>
    simp only [close, hsub]
    exact .getting hsub hqueue
  | ended hsub =>
    simp only [close, hsub]
    exact .ended hsub

/-- Until the publisher is stopped, a step is a move of the mailbox of each subscriber. -/
theorem sim_step (hstop : s.stopped = false) (ha : a ≠ .stop) (h : Sim i s backlog) :
    Follows i a s backlog := by
  cases htarget : a.target? with
  | none =>
    cases a with
    | publish payload => exact follows_publish payload h
    | stop => exact absurd rfl ha
    | _ => cases htarget
  | some j =>
    by_cases hne : i = j
    swap
    · exact follows_of_ne htarget hne h
    subst hne
    cases a with
    | publish payload => cases htarget
    | stop => cases htarget
    | subscribe k => obtain rfl := Option.some.inj htarget; exact follows_subscribe h
    | pull k => obtain rfl := Option.some.inj htarget; exact follows_pull hstop h
    | resume k => obtain rfl := Option.some.inj htarget; exact follows_resume h
    | cancel k => obtain rfl := Option.some.inj htarget; exact follows_cancel h
    | close k => obtain rfl := Option.some.inj htarget; exact follows_close h

end Simulation

/-! ### Runs -/

/-- The moves of the mailbox of a subscriber along a run. -/
def moves (i : ι) : List (PublisherStep ι α) → EventPublisher ι α → List (Mailbox.Move α)
  | [], _ => []
  | a :: steps, s => moveOf i a s :: moves i steps (step a s).2

section Run

variable {backlog : List α}

theorem received_append :
    received i (steps ++ later) s = received i steps s ++ received i later (final steps s) := by
  induction steps generalizing s with
  | nil => rfl
  | cons a steps ih => exact (congrArg _ ih).trans (List.append_assoc _ _ _).symm

theorem final_append : final (steps ++ later) s = final later (final steps s) :=
  Machines.final_append

/-- What goes into the mailbox is what is published. -/
theorem arrived_moves : Mailbox.arrived (moves i steps s) = published steps := by
  induction steps generalizing s with
  | nil => rfl
  | cons a steps ih =>
    have hrest := ih (s := (step a s).2)
    rw [moves, published]
    cases hpayload : a.payload? with
    | some payload =>
      rw [moveOf, hpayload, List.filterMap_cons_some hpayload]
      exact congrArg (payload :: ·) hrest
    | none =>
      rw [moveOf, hpayload, List.filterMap_cons_none hpayload]
      split_ifs
      · exact hrest
      · exact hrest

/-- The takes of the mailbox are the turns of the subscriber. -/
theorem takes_moves : Mailbox.takes (moves i steps s) = turns i steps s := by
  induction steps generalizing s with
  | nil => rfl
  | cons a steps ih =>
    have hrest := ih (s := (step a s).2)
    rw [moves, turns]
    cases hturn : takesTurn i a s with
    | true => rw [moveOf_of_turn hturn, Mailbox.takes_take, hrest, if_pos rfl, Nat.add_comm]
    | false =>
      rw [if_neg Bool.false_ne_true, Nat.zero_add, ← hrest]
      cases hpayload : a.payload? with
      | some payload => rw [moveOf, hpayload, Mailbox.takes_put]
      | none => rw [moveOf_of_not_turn hpayload hturn, Mailbox.takes_idle]

theorem stopped_final (hstop : .stop ∉ steps) : (final steps s).stopped = s.stopped := by
  induction steps generalizing s with
  | nil => rfl
  | cons a steps ih =>
    obtain ⟨ha, hrest⟩ := not_or.mp (mt List.mem_cons.mpr hstop)
    exact (ih hrest).trans (stopped_step fun heq => ha heq.symm)

/-- Over a run a subscriber receives what is taken from its mailbox, and has still to receive what
is left there. -/
theorem received_eq_taken (hopen : s.stopped = false) (hstop : .stop ∉ steps)
    (h : Sim i s backlog) :
    received i steps s = Mailbox.taken (moves i steps s) backlog ∧
      Sim i (final steps s) (Machines.final Mailbox.step (moves i steps s) backlog) := by
  induction steps generalizing s backlog with
  | nil => exact ⟨rfl, h⟩
  | cons a steps ih =>
    obtain ⟨ha, hrest⟩ := not_or.mp (mt List.mem_cons.mpr hstop)
    have hne : a ≠ .stop := fun heq => ha heq.symm
    obtain ⟨hanswer, hsim⟩ := sim_step hopen hne h
    obtain ⟨hreceived, hfinal⟩ := ih ((stopped_step hne).trans hopen) hrest hsim
    refine ⟨?_, hfinal⟩
    rw [received, moves, Mailbox.taken_cons, hanswer, hreceived]

end Run

/-! ### Before the first pull -/

/-- A generator that is not made yet, or was not pulled yet. -/
def Fresh (i : ι) (s : EventPublisher ι α) : Prop :=
  s.subscriptions.get? i = none ∨ s.subscriptions.get? i = some .created

/-- What a step before the first pull may do: make the generator, and nothing else to it. -/
structure KeepsFresh (i : ι) (a : PublisherStep ι α) (s : EventPublisher ι α) : Prop where
  fresh : Fresh i (step a s).2
  unanswered : answer i a s = none
  created : a = .subscribe i ∨ s.subscriptions.get? i = some .created →
    (step a s).2.subscriptions.get? i = some .created

section Before

theorem keepsFresh_of_eq (h : Fresh i s) (ha : a ≠ .subscribe i) (hanswer : answer i a s = none)
    (hsame : (step a s).2.subscriptions.get? i = s.subscriptions.get? i) : KeepsFresh i a s where
  fresh := by
    unfold Fresh
    rwa [hsame]
  unanswered := hanswer
  created := by
    rintro (heq | hcreated)
    · exact absurd heq ha
    · exact hsame.trans hcreated

theorem keepsFresh_subscribe (h : Fresh i s) : KeepsFresh i (.subscribe i) s := by
  have hmade : (step (.subscribe i) s).2.subscriptions.get? i = some .created := by
    refine (Dict.get?_insertIfAbsent_self _ _ _).trans ?_
    rcases h with hnone | hcreated
    · rw [hnone, Option.getD_none]
    · rw [hcreated, Option.getD_some]
  exact ⟨Or.inr hmade, answer_of_none rfl, fun _ => hmade⟩

/-- Nothing but a pull and `aclose` touches a generator that was not pulled. -/
theorem keepsFresh_step (h : Fresh i s) (hpull : a ≠ .pull i) (hclose : a ≠ .close i) :
    KeepsFresh i a s := by
  by_cases htarget : a.target? = some i
  · cases a with
    | publish payload => cases htarget
    | stop => cases htarget
    | subscribe k => obtain rfl := Option.some.inj htarget; exact keepsFresh_subscribe h
    | pull k => obtain rfl := Option.some.inj htarget; exact absurd rfl hpull
    | close k => obtain rfl := Option.some.inj htarget; exact absurd rfl hclose
    | resume k =>
      obtain rfl := Option.some.inj htarget
      have hstep : step (.resume k) s = (none, s) := by
        rcases h with h | h <;> simp only [step, resume, h]
      exact keepsFresh_of_eq h (by simp) (answer_of_none (by rw [hstep])) (by rw [hstep])
    | cancel k =>
      obtain rfl := Option.some.inj htarget
      have hstep : step (.cancel k) s = (none, s) := by
        rcases h with h | h <;> simp only [step, cancel, h]
      exact keepsFresh_of_eq h (by simp) (answer_of_none (by rw [hstep])) (by rw [hstep])
  · have hother : a ≠ .subscribe i := by
      rintro rfl
      exact htarget rfl
    exact keepsFresh_of_eq h hother (if_neg htarget) (subscriptions_step_of_ne htarget)

/-- Until its first pull a subscriber receives nothing, and its generator waits for the pull. -/
theorem fresh_final (h : Fresh i s) (hpull : .pull i ∉ steps) (hclose : .close i ∉ steps) :
    received i steps s = [] ∧
      (.subscribe i ∈ steps ∨ s.subscriptions.get? i = some .created →
        (final steps s).subscriptions.get? i = some .created) := by
  induction steps generalizing s with
  | nil =>
    refine ⟨rfl, ?_⟩
    rintro (hmem | hcreated)
    · cases hmem
    · exact hcreated
  | cons a steps ih =>
    obtain ⟨hpull₀, hpull⟩ := not_or.mp (mt List.mem_cons.mpr hpull)
    obtain ⟨hclose₀, hclose⟩ := not_or.mp (mt List.mem_cons.mpr hclose)
    have hkeeps := keepsFresh_step h (fun heq => hpull₀ heq.symm) fun heq => hclose₀ heq.symm
    obtain ⟨hnothing, hmade⟩ := ih hkeeps.fresh hpull hclose
    refine ⟨?_, ?_⟩
    · rw [received, hkeeps.unanswered, hnothing]
      rfl
    · rintro (hmem | hcreated)
      · rcases List.mem_cons.mp hmem with heq | hmem
        · exact hmade (Or.inr (hkeeps.created (Or.inl heq.symm)))
        · exact hmade (Or.inl hmem)
      · exact hmade (Or.inr (hkeeps.created (Or.inr hcreated)))

/-- The ring holds the last events. -/
theorem items_recent_final (bufferSize : ℕ) (steps : List (PublisherStep ι α)) :
    (final steps (start bufferSize)).recent.items = (published steps).rtake bufferSize := by
  have hstep : ∀ (a : PublisherStep ι α) (s : EventPublisher ι α),
      (step a s).2.recent = (a.payload?).elim s.recent s.recent.append := by
    intro a s
    by_cases ha : a = .stop
    · rw [ha]
      rfl
    · exact congrArg Prod.fst (shared_step ha)
  have hrun : (final steps (start bufferSize)).recent =
      (published steps).foldl BoundedDeque.append (.empty bufferSize) :=
    val_run_eq_foldl (fun s : EventPublisher ι α => s.recent) hstep
  rw [hrun, BoundedDeque.items_foldl_append]
  rfl

/-- The first pull joins the subscribers and takes the first of the last events. -/
theorem sim_first_pull (hstop : s.stopped = false)
    (hcreated : s.subscriptions.get? i = some .created) :
    answer i (.pull i) s = s.recent.items.head? ∧
      Sim i (step (.pull i) s).2 s.recent.items.tail := by
  have hqueue : Dict.get? { s with subscribers := s.subscribers.set i [] }.subscribers i =
      some [] := Dict.get?_set_self _ _ _
  have hreplay := sim_replay (s := { s with subscribers := s.subscribers.set i [] })
    s.recent.items hstop hqueue
  rw [List.append_nil] at hreplay
  have hstep : step (.pull i) s =
      replay i s.recent.items { s with subscribers := s.subscribers.set i [] } := by
    simp only [step, pull, hcreated]
  have htarget : (PublisherStep.pull i : PublisherStep ι α).target? = some i := rfl
  unfold answer
  rw [if_pos htarget, hstep]
  exact hreplay

end Before

/-! ### Going on -/

/-- A pull that waits is cancelled, or a generator is closed at a `yield`. -/
def Interrupts (i : ι) (a : PublisherStep ι α) (s : EventPublisher ι α) : Prop :=
  a = .cancel i ∧ (s.subscriptions.get? i).any Subscription.isGetting ∨
    a = .close i ∧ (s.subscriptions.get? i).any Subscription.isYielded

/-- In no step of a run the subscriber is interrupted. -/
def Uninterrupted (i : ι) (steps : List (PublisherStep ι α)) (s : EventPublisher ι α) : Prop :=
  ∀ t ∈ transitions (fun a s => (step a s).2) steps s, ¬ Interrupts i t.input t.before

/-- There is a step in which the subscriber goes on. -/
def CanGoOn (i : ι) (s : EventPublisher ι α) : Prop := ∃ a, takesTurn i a s = true

section GoingOn

theorem canGoOn_of_yielded (h : s.subscriptions.get? i = some (.yielded rest)) : CanGoOn i s :=
  ⟨.pull i, by simp [takesTurn, h, Subscription.isYielded]⟩

theorem canGoOn_of_getting (h : s.subscriptions.get? i = some .getting) : CanGoOn i s :=
  ⟨.resume i, by simp [takesTurn, h, Subscription.isGetting]⟩

theorem canGoOn_iff :
    CanGoOn i s ↔ (∃ rest, s.subscriptions.get? i = some (.yielded rest)) ∨
      s.subscriptions.get? i = some .getting := by
  constructor
  · rintro ⟨a, hturn⟩
    cases a with
    | pull j => exact Or.inl (any_isYielded_iff.mp (of_decide_eq_true hturn).2)
    | resume j => exact Or.inr (any_isGetting_iff.mp (of_decide_eq_true hturn).2)
    | _ => cases hturn
  · rintro (⟨rest, h⟩ | h)
    · exact canGoOn_of_yielded h
    · exact canGoOn_of_getting h

theorem CanGoOn.of_eq {s' : EventPublisher ι α} (h : CanGoOn i s)
    (hsame : s'.subscriptions.get? i = s.subscriptions.get? i) : CanGoOn i s' := by
  rw [canGoOn_iff] at h ⊢
  rwa [hsame]

theorem canGoOn_yieldNext {payload : α} : CanGoOn i (yieldNext i payload queue s).2 :=
  canGoOn_of_yielded (subscriptions_suspend.trans (if_pos rfl))

theorem canGoOn_follow (hstop : s.stopped = false) : CanGoOn i (follow i s).2 := by
  unfold follow
  rw [hstop, if_neg Bool.false_ne_true]
  split
  · exact canGoOn_yieldNext
  · exact canGoOn_of_getting (subscriptions_suspend.trans (if_pos rfl))
  · exact canGoOn_of_getting (subscriptions_suspend.trans (if_pos rfl))

theorem canGoOn_replay (rest : List α) (hstop : s.stopped = false) :
    CanGoOn i (replay i rest s).2 := by
  cases rest with
  | nil => exact canGoOn_follow hstop
  | cons payload rest => exact canGoOn_of_yielded (subscriptions_suspend.trans (if_pos rfl))

/-- A subscriber that is not interrupted can go on again, until the publisher is stopped. -/
theorem canGoOn_step (hstop : s.stopped = false) (h : CanGoOn i s)
    (hinterrupt : ¬ Interrupts i a s) : CanGoOn i (step a s).2 := by
  by_cases htarget : a.target? = some i
  swap
  · exact h.of_eq (subscriptions_step_of_ne htarget)
  -- it waits at a yield or in a `get`
  have hsub := canGoOn_iff.mp h
  cases a with
  | publish payload => cases htarget
  | stop => cases htarget
  | subscribe k =>
    obtain rfl := Option.some.inj htarget
    -- a second subscription is none
    have hthere : (s.subscriptions.get? k).isSome := by
      rcases hsub with ⟨rest, hsub⟩ | hsub <;> rw [hsub] <;> rfl
    refine h.of_eq ?_
    change (s.subscriptions.insertIfAbsent k .created).get? k = _
    rw [Dict.insertIfAbsent_of_isSome hthere]
  | pull k =>
    obtain rfl := Option.some.inj htarget
    rcases hsub with ⟨rest, hsub⟩ | hsub
    · simp only [step, pull, hsub]
      exact canGoOn_replay rest hstop
    · simp only [step, pull, hsub]
      exact h
  | resume k =>
    obtain rfl := Option.some.inj htarget
    change CanGoOn k (resume k s).2
    unfold resume
    split
    · exact canGoOn_yieldNext
    · exact h
  | cancel k =>
    obtain rfl := Option.some.inj htarget
    rcases hsub with ⟨rest, hsub⟩ | hsub
    · simp only [step, cancel, hsub]
      exact h
    · exact absurd (Or.inl ⟨rfl, any_isGetting_iff.mpr hsub⟩) hinterrupt
  | close k =>
    obtain rfl := Option.some.inj htarget
    rcases hsub with ⟨rest, hsub⟩ | hsub
    · exact absurd (Or.inr ⟨rfl, any_isYielded_iff.mpr ⟨rest, hsub⟩⟩) hinterrupt
    · simp only [step, close, hsub]
      exact h

theorem canGoOn_final (hopen : s.stopped = false) (hstop : .stop ∉ steps) (h : CanGoOn i s)
    (huninterrupted : Uninterrupted i steps s) : CanGoOn i (final steps s) := by
  induction steps generalizing s with
  | nil => exact h
  | cons a steps ih =>
    obtain ⟨ha, hstop⟩ := not_or.mp (mt List.mem_cons.mpr hstop)
    have hne : a ≠ .stop := fun heq => ha heq.symm
    obtain ⟨hnow, hlater⟩ := List.forall_mem_cons.mp huninterrupted
    exact ih ((stopped_step hne).trans hopen) hstop (canGoOn_step hopen h hnow) hlater

end GoingOn

/-- A generator that is made in some steps and neither pulled nor closed. -/
structure NotYetPulled (i : ι) (steps : List (PublisherStep ι α)) : Prop where
  made : .subscribe i ∈ steps
  unpulled : .pull i ∉ steps
  unclosed : .close i ∉ steps

section First

variable {before after : List (PublisherStep ι α)}

/-- A subscriber after its first pull. -/
structure Joined (bufferSize : ℕ) (before : List (PublisherStep ι α)) (i : ι)
    (s : EventPublisher ι α) : Prop where
  running : s.stopped = false
  canGoOn : CanGoOn i s
  first : received i (before ++ [.pull i]) (start bufferSize) =
    ((published before).rtake bufferSize).head?.toList
  rest : Sim i s ((published before).rtake bufferSize).tail

theorem joined_first_pull (bufferSize : ℕ) (hfirst : NotYetPulled i before)
    (hstop : .stop ∉ before) :
    Joined bufferSize before i (final (before ++ [.pull i]) (start bufferSize)) := by
  obtain ⟨hnothing, hmade⟩ := fresh_final (i := i) (s := start bufferSize) (Or.inl rfl)
    hfirst.unpulled hfirst.unclosed
  have hcreated := hmade (Or.inl hfirst.made)
  have hopen : (final before (start bufferSize : EventPublisher ι α)).stopped = false :=
    stopped_final hstop
  obtain ⟨hanswer, hsim⟩ := sim_first_pull hopen hcreated
  rw [items_recent_final] at hanswer hsim
  rw [final_append]
  constructor
  · exact (stopped_step (by simp)).trans hopen
  · change CanGoOn i (step (.pull i) (final before (start bufferSize))).2
    simp only [step, pull, hcreated]
    exact canGoOn_replay _ hopen
  · rw [received_append, hnothing, List.nil_append, received, hanswer, received, List.append_nil]
  · exact hsim

/-- What a subscriber has received and what it has still to receive are its stream. -/
theorem exists_backlog (bufferSize : ℕ) (hfirst : NotYetPulled i before)
    (hstop : .stop ∉ before ++ .pull i :: after) :
    ∃ backlog, Sim i (final (before ++ .pull i :: after) (start bufferSize)) backlog ∧
      received i (before ++ .pull i :: after) (start bufferSize) ++ backlog =
        (published before).rtake bufferSize ++ published after := by
  have hbefore : PublisherStep.stop ∉ before := fun hmem => hstop (List.mem_append_left _ hmem)
  have hafter : PublisherStep.stop ∉ after := fun hmem =>
    hstop (List.mem_append_right _ (List.mem_cons_of_mem _ hmem))
  have hjoined := joined_first_pull bufferSize hfirst hbefore
  obtain ⟨hreceived, hsim⟩ := received_eq_taken hjoined.running hafter hjoined.rest
  let joined : EventPublisher ι α := final (before ++ [.pull i]) (start bufferSize)
  let last := (published before).rtake bufferSize
  have hlast : last.head?.toList ++ last.tail = last := by
    cases last <;> rfl
  refine ⟨Machines.final Mailbox.step (moves i after joined) last.tail, ?_, ?_⟩
  · rw [List.append_cons, final_append]
    exact hsim
  · calc received i (before ++ .pull i :: after) (start bufferSize) ++
          Machines.final Mailbox.step (moves i after joined) last.tail
        = last.head?.toList ++ (Mailbox.taken (moves i after joined) last.tail ++
            Machines.final Mailbox.step (moves i after joined) last.tail) := by
          rw [List.append_cons, received_append, hjoined.first, hreceived, List.append_assoc]
      _ = last.head?.toList ++ last.tail ++ published after := by
          rw [Mailbox.taken_append_final, arrived_moves, List.append_assoc]
      _ = last ++ published after := by rw [hlast]

end First

end EventPublisher

open EventPublisher

variable [DecidableEq ι]

/-- A subscriber that pulls for the first time after some steps receives the last events published
before and then the later ones: what it has received is at any time the first part of these. Where
it is not interrupted it can go on, and when it went on as often as events were still to come it has
received them all. -/
theorem subscribers_lose_and_repeat_nothing (bufferSize : ℕ)
    (before after : List (PublisherStep ι α)) (i : ι) (hfirst : NotYetPulled i before)
    (hstop : .stop ∉ before ++ .pull i :: after) :
    let whole := before ++ .pull i :: after
    let stream := (published before).rtake bufferSize ++ published after
    received i whole (start bufferSize) <+: stream ∧
      (Uninterrupted i after (final (before ++ [.pull i]) (start bufferSize)) →
        CanGoOn i (final whole (start bufferSize))) ∧
      ∀ later, .stop ∉ later →
        stream.length ≤ (received i whole (start bufferSize)).length +
          turns i later (final whole (start bufferSize)) →
        stream <+: received i (whole ++ later) (start bufferSize) := by
  intro whole stream
  obtain ⟨backlog, hsim, hall⟩ := exists_backlog bufferSize hfirst hstop
  have hopen : (final whole (start bufferSize : EventPublisher ι α)).stopped = false :=
    stopped_final hstop
  refine ⟨⟨backlog, hall⟩, fun huninterrupted => ?_, fun later hlater hturns => ?_⟩
  · have hjoined := joined_first_pull bufferSize hfirst
      fun hmem => hstop (List.mem_append_left _ hmem)
    have hafter : PublisherStep.stop ∉ after := fun hmem =>
      hstop (List.mem_append_right _ (List.mem_cons_of_mem _ hmem))
    have hfinal := canGoOn_final hjoined.running hafter hjoined.canGoOn huninterrupted
    rwa [← final_append, ← List.append_cons] at hfinal
  · obtain ⟨hreceived, -⟩ := received_eq_taken hopen hlater hsim
    have hstream : received i whole (start bufferSize) ++ backlog = stream := hall
    -- as many turns are left as there are events in the backlog
    have hlength := congrArg List.length hstream
    rw [List.length_append] at hlength
    have hcome : backlog <+: received i later (final whole (start bufferSize)) := by
      rw [hreceived]
      refine Mailbox.prefix_taken ?_
      rw [takes_moves]
      omega
    rw [received_append, ← hstream]
    exact (List.prefix_append_right_inj _).mpr hcome

/-! ### A late subscriber -/

/-- Three events, of which the buffer holds two, before the first pull; another subscriber is
cancelled while it waits. -/
def lateBefore : List (PublisherStep ℕ String) :=
  [.publish "a", .subscribe 0, .subscribe 1, .publish "b", .pull 1, .pull 1, .pull 1, .cancel 1,
    .publish "c"]

/-- Events come while the subscriber is still reading its copy. -/
def lateAfter : List (PublisherStep ℕ String) := [.publish "d", .pull 0, .pull 1, .publish "e"]

/-- The subscriber reads on, and waits for the last event. -/
def lateTurns : List (PublisherStep ℕ String) :=
  [.pull 0, .pull 0, .pull 0, .publish "f", .resume 0]

theorem late_subscriber_receives :
    received 0 (lateBefore ++ .pull 0 :: lateAfter) (start 2) = ["b", "c"] ∧
      ["b", "c", "d", "e"] <+:
        received 0 ((lateBefore ++ .pull 0 :: lateAfter) ++ lateTurns) (start 2) := by
  obtain ⟨-, -, hall⟩ := subscribers_lose_and_repeat_nothing 2 lateBefore lateAfter 0
    ⟨by decide, by decide, by decide⟩ (by decide)
  exact ⟨by decide, hall lateTurns (by decide) (by decide)⟩

end Botik.AppService
