import Botik.AppService.RuntimeControl
import Botik.Library.Runs

/-!
# One live process for each runtime

The entry of a run is taken out by the task that waits for it, and by the id of its runtime. So it
is lost while the process lives if the task is cancelled before the process has exited, and it is
the entry of another process that is lost if that one was started in the meantime.

## Main definitions

* `RuntimeControl.LiveRegistered` — a live process is registered
* `RuntimeControl.Orderly` — a step launches nothing beside a live process, and reports what lives
* `RuntimeControl.Allowed` — the steps that lose no entry
* `RuntimeControl.Inv` — the invariant of the allowed steps

## Main results

* `inv_step` — an allowed step keeps the invariant
* `one_live_process` — along allowed steps every live process is the registered one of its runtime
-/

namespace Botik.AppService

namespace RuntimeControl

open Runs

/-- Every live process is registered under its runtime. -/
def LiveRegistered (s : RuntimeState) : Prop :=
  ∀ (n : ℕ) run, s.launched[n]? = some run → run.alive = true → s.runs.get? run.runtimeId = some n

/-- No process of a runtime is alive. -/
def NoneAlive (s : RuntimeState) (runtimeId : RuntimeId) : Prop :=
  ∀ (n : ℕ) run, s.launched[n]? = some run → run.runtimeId = runtimeId → run.alive = false

/-- What the step launches is launched when all earlier processes of the runtime have exited, and
afterwards every live process is reported. -/
structure Orderly (t : Transition RuntimeState Event) : Prop where
  launches : ∀ new, t.after.launched[t.before.launched.length]? = some new →
    NoneAlive t.before new.runtimeId
  reported : ∀ (n : ℕ) run, t.after.launched[n]? = some run → run.alive = true →
    (run.runtimeId, n) ∈ observations t.after

/-- The run a call of `shutdown` finalizes when it goes on, in its last loop. -/
def nextFinalized (s : RuntimeState) (k : ℕ) : Option ℕ :=
  match s.coroutines[k]? with
  | some (.stopping _ _ _ (some rest)) =>
    if ∀ runtimeId ∈ rest, s.runs.get? runtimeId = none then (s.runs.entries.map Prod.snd).head?
    else none
  | some (.finalizing ns) => ns.head?
  | _ => none

/-- The last loop of `shutdown` comes to no runtime with a live process. -/
def FinalizesDead (s : RuntimeState) (k : ℕ) : Prop :=
  ∀ (n : ℕ) run, nextFinalized s k = some n → s.launched[n]? = some run → NoneAlive s run.runtimeId

/-- No wait times out on a live process, nothing is started between the exit of a process and the
end of its task, and the last loop of `shutdown` comes to no live process. -/
def Allowed (s : RuntimeState) : Event → Prop
  | .start runtimeId => (∃ n, s.runs.get? runtimeId = some n ∧ alive s n = true) ∨
      ∀ (n : ℕ) run, s.launched[n]? = some run → run.runtimeId = runtimeId →
        ¬ run.waitTask.IsPending
  | .resume k => FinalizesDead s k
  | .timeout k => FinalizesDead s k ∧ ∀ n attempt rest,
      s.coroutines[k]? = some (.stopping n attempt false rest) → alive s n = false
  | _ => True

/-- Between steps that lose no entry: what is alive is waited for and registered, what is registered
is waited for, and no task of a run that has exited waits beside a live process. -/
structure Inv (s : RuntimeState) : Prop where
  awaited : ∀ (n : ℕ) run, s.launched[n]? = some run → run.alive = true →
    run.waitTask = .pending false
  live : LiveRegistered s
  registered : ∀ runtimeId n, s.runs.get? runtimeId = some n →
    ∃ run, s.launched[n]? = some run ∧ run.runtimeId = runtimeId ∧ run.waitTask.IsPending
  single : ∀ (n m : ℕ) run run', s.launched[n]? = some run → s.launched[m]? = some run' →
    run.runtimeId = run'.runtimeId → run.waitTask.IsPending → run'.alive = true → n = m
  starting : ∀ c ∈ s.coroutines, ∀ runtimeId, c ≠ .starting runtimeId

theorem inv_init : Inv init where
  awaited := by simp [init]
  live := by simp [LiveRegistered, init]
  registered := by simp [init]
  single := by simp [init]
  starting := by simp [init]

section Parts

variable {s : RuntimeState}

theorem alive_iff {n : ℕ} : alive s n = true ↔ ∃ run, s.launched[n]? = some run ∧ run.alive = true := by
  unfold alive
  cases s.launched[n]? <;> simp

theorem waitTask_eq_some_iff {n : ℕ} {t : TaskState} :
    waitTask s n = some t ↔ ∃ run, s.launched[n]? = some run ∧ run.waitTask = t := by
  unfold waitTask
  exact Option.map_eq_some_iff

theorem getElem?_modifyRun (n m : ℕ) (f : ManagedRuntime → ManagedRuntime) :
    (modifyRun n f s).launched[m]? = (s.launched[m]?).map fun run => if n = m then f run else run :=
  List.getElem?_modify f n s.launched m

/-- The coroutines that are under way do not matter, as long as no `start` is among them. -/
theorem inv_continueAs (h : Inv s) {c : Coroutine} (hc : ∀ runtimeId, c ≠ .starting runtimeId)
    (k : ℕ) : Inv (continueAs k (c, s)) where
  awaited := h.awaited
  live := h.live
  registered := h.registered
  single := h.single
  starting := by
    intro c' hc'
    rcases List.mem_or_eq_of_mem_set hc' with hold | rfl
    · exact h.starting c' hold
    · exact hc

theorem inv_suspend (h : Inv s) {c : Coroutine} (hc : ∀ runtimeId, c ≠ .starting runtimeId) :
    Inv (suspend c s) where
  awaited := h.awaited
  live := h.live
  registered := h.registered
  single := h.single
  starting := by
    intro c' hc'
    rcases List.mem_append.mp hc' with hold | hnew
    · exact h.starting c' hold
    · rw [List.mem_singleton.mp hnew]
      exact hc

/-- A change of one run that makes nothing alive, and ends no task that is registered. -/
theorem inv_modifyRun (h : Inv s) {n : ℕ} {f : ManagedRuntime → ManagedRuntime}
    (hid : ∀ run, (f run).runtimeId = run.runtimeId)
    (halive : ∀ run, s.launched[n]? = some run → (f run).alive = true →
      run.alive = true ∧ (f run).waitTask = run.waitTask)
    (hpending : ∀ run, (f run).waitTask.IsPending → run.waitTask.IsPending)
    (hkept : ∀ run, s.launched[n]? = some run → s.runs.get? run.runtimeId = some n →
      run.waitTask.IsPending → (f run).waitTask.IsPending) : Inv (modifyRun n f s) := by
  -- every run afterwards is one from before, with its number and its runtime
  have hold : ∀ (m : ℕ) run, (modifyRun n f s).launched[m]? = some run →
      ∃ run₀, s.launched[m]? = some run₀ ∧ run.runtimeId = run₀.runtimeId ∧
        (run.alive = true → run₀.alive = true ∧ run.waitTask = run₀.waitTask) ∧
        (run.waitTask.IsPending → run₀.waitTask.IsPending) := by
    intro m run hrun
    rw [getElem?_modifyRun] at hrun
    obtain ⟨run₀, hrun₀, rfl⟩ := Option.map_eq_some_iff.mp hrun
    refine ⟨run₀, hrun₀, ?_⟩
    split_ifs with hm
    · subst hm
      exact ⟨hid run₀, halive run₀ hrun₀, hpending run₀⟩
    · exact ⟨rfl, fun hlive => ⟨hlive, rfl⟩, fun hp => hp⟩
  constructor
  · intro m run hrun hlive
    obtain ⟨run₀, hrun₀, -, hlive₀, -⟩ := hold m run hrun
    rw [(hlive₀ hlive).2]
    exact h.awaited m run₀ hrun₀ (hlive₀ hlive).1
  · intro m run hrun hlive
    obtain ⟨run₀, hrun₀, hid₀, hlive₀, -⟩ := hold m run hrun
    rw [hid₀]
    exact h.live m run₀ hrun₀ (hlive₀ hlive).1
  · intro runtimeId m hget
    obtain ⟨run₀, hrun₀, hid₀, hp₀⟩ := h.registered runtimeId m hget
    refine ⟨if n = m then f run₀ else run₀, by rw [getElem?_modifyRun, hrun₀]; rfl, ?_⟩
    split_ifs with hm
    · subst hm
      exact ⟨(hid run₀).trans hid₀, hkept run₀ hrun₀ (by rw [hid₀]; exact hget) hp₀⟩
    · exact ⟨hid₀, hp₀⟩
  · intro m m' run run' hrun hrun' hsame hp hlive
    obtain ⟨run₀, hrun₀, hid₀, -, hp₀⟩ := hold m run hrun
    obtain ⟨run₀', hrun₀', hid₀', hlive₀, -⟩ := hold m' run' hrun'
    exact h.single m m' run₀ run₀' hrun₀ hrun₀' (by rw [← hid₀, ← hid₀', hsame]) (hp₀ hp)
      (hlive₀ hlive).1
  · exact h.starting

/-- Taking out the entry of a runtime none of whose processes is alive. -/
theorem inv_erase (h : Inv s) {runtimeId : RuntimeId} (hdead : NoneAlive s runtimeId) :
    Inv { s with runs := s.runs.erase runtimeId } where
  awaited := h.awaited
  live := by
    intro n run hrun hlive
    have hne : run.runtimeId ≠ runtimeId := by
      intro heq
      rw [hdead n run hrun heq] at hlive
      cases hlive
    change (s.runs.erase runtimeId).get? run.runtimeId = some n
    rw [Dict.get?_erase_of_ne hne]
    exact h.live n run hrun hlive
  registered := by
    intro runtimeId' n hget
    rw [Dict.get?_erase] at hget
    split_ifs at hget with heq
    exact h.registered runtimeId' n hget
  single := h.single
  starting := h.starting

theorem inv_finalizeRun (h : Inv s) {n : ℕ}
    (hdead : ∀ run, s.launched[n]? = some run → NoneAlive s run.runtimeId) :
    Inv (finalizeRun n s) := by
  unfold finalizeRun
  cases hrun : s.launched[n]? with
  | none => exact h
  | some run => exact inv_erase h (hdead run hrun)

/-- A task that waits for a process that has exited is the only one of its runtime that matters. -/
theorem noneAlive_of_exited (h : Inv s) {n : ℕ} {run : ManagedRuntime} (hrun : s.launched[n]? = some run)
    (hdead : run.alive = false) (hpending : run.waitTask.IsPending) :
    NoneAlive s run.runtimeId := by
  intro m run' hrun' hsame
  by_contra hlive
  rw [Bool.not_eq_false] at hlive
  obtain rfl := h.single n m run run' hrun hrun' hsame.symm hpending hlive
  rw [hrun, Option.some.injEq] at hrun'
  rw [← hrun', hdead] at hlive
  cases hlive

/-- A process may be launched where no earlier one of the runtime is waited for. -/
theorem inv_launch (h : Inv s) {runtimeId : RuntimeId}
    (hfree : ∀ (n : ℕ) run, s.launched[n]? = some run → run.runtimeId = runtimeId →
      ¬ run.waitTask.IsPending) : Inv (launch runtimeId s) := by
  have hpast : ∀ (n : ℕ) run, (launch runtimeId s).launched[n]? = some run →
      s.launched[n]? = some run ∨
        n = s.launched.length ∧ run = ⟨runtimeId, true, .pending false⟩ := by
    intro n run hrun
    change (s.launched ++ [_])[n]? = some run at hrun
    rcases lt_or_ge n s.launched.length with hlt | hge
    · rw [List.getElem?_append_left hlt] at hrun
      exact Or.inl hrun
    · rw [List.getElem?_append_right hge, List.getElem?_singleton] at hrun
      split_ifs at hrun with hzero
      exact Or.inr ⟨by omega, (Option.some.inj hrun).symm⟩
  -- nothing old of this runtime is alive, since it would be waited for
  have hother : ∀ (n : ℕ) run, s.launched[n]? = some run → run.alive = true →
      run.runtimeId ≠ runtimeId := by
    intro n run hrun hlive hsame
    refine hfree n run hrun hsame ?_
    rw [h.awaited n run hrun hlive]
    exact TaskState.isPending_pending false
  constructor
  · intro n run hrun hlive
    rcases hpast n run hrun with hold | ⟨rfl, rfl⟩
    · exact h.awaited n run hold hlive
    · rfl
  · intro n run hrun hlive
    change (s.runs.set runtimeId s.launched.length).get? run.runtimeId = some n
    rcases hpast n run hrun with hold | ⟨rfl, rfl⟩
    · rw [Dict.get?_set_of_ne (hother n run hold hlive)]
      exact h.live n run hold hlive
    · exact Dict.get?_set_self _ _ _
  · intro runtimeId' n hget
    change (s.runs.set runtimeId s.launched.length).get? runtimeId' = some n at hget
    rw [Dict.get?_set] at hget
    split_ifs at hget with hsame
    · obtain rfl := Option.some.inj hget
      exact ⟨_, List.getElem?_concat_length, hsame.symm, TaskState.isPending_pending false⟩
    · obtain ⟨run, hrun, hid, hpending⟩ := h.registered runtimeId' n hget
      refine ⟨run, ?_, hid, hpending⟩
      change (s.launched ++ [_])[n]? = some run
      rw [List.getElem?_append_left (List.getElem?_eq_some_iff.mp hrun).1, hrun]
  · intro n m run run' hrun hrun' hsame hpending hlive
    rcases hpast n run hrun with hold | ⟨rfl, rfl⟩
    · rcases hpast m run' hrun' with hold' | ⟨rfl, rfl⟩
      · exact h.single n m run run' hold hold' hsame hpending hlive
      · exact absurd hpending (hfree n run hold hsame)
    · rcases hpast m run' hrun' with hold' | ⟨rfl, rfl⟩
      · exact absurd hsame.symm (hother m run' hold' hlive)
      · rfl
  · exact h.starting

/-! ### The coroutines -/

/-- A coroutine goes on to a state with the invariant. -/
structure GoesOn (next : Coroutine × RuntimeState) : Prop where
  inv : Inv next.2
  starting : ∀ runtimeId, next.1 ≠ .starting runtimeId

theorem goesOn_finalizeFrom (h : Inv s) {ns : List ℕ}
    (hdead : ∀ (n : ℕ) run, ns.head? = some n → s.launched[n]? = some run →
      NoneAlive s run.runtimeId) : GoesOn (finalizeFrom ns s) := by
  cases ns with
  | nil => exact ⟨h, fun _ heq => nomatch heq⟩
  | cons n ns =>
    exact ⟨inv_finalizeRun h fun run hrun => hdead n run rfl hrun, fun _ heq => nomatch heq⟩

/-- The loops of `shutdown` go on to a wait, or come to the last loop when nothing else is left. -/
theorem goesOn_shutdownFrom (h : Inv s) {ids : List RuntimeId}
    (hdead : (∀ runtimeId ∈ ids, s.runs.get? runtimeId = none) → ∀ (n : ℕ) run,
      (s.runs.entries.map Prod.snd).head? = some n → s.launched[n]? = some run →
        NoneAlive s run.runtimeId) : GoesOn (shutdownFrom ids s) := by
  induction ids with
  | nil => exact goesOn_finalizeFrom h (hdead (by simp))
  | cons runtimeId rest ih =>
    rw [shutdownFrom]
    cases hget : s.runs.get? runtimeId with
    | none =>
      apply ih
      intro hnone
      apply hdead
      intro runtimeId' hmem
      rcases List.mem_cons.mp hmem with rfl | hmem
      · exact hget
      · exact hnone runtimeId' hmem
    | some n => exact ⟨h, by simp⟩

theorem finalizesDead_shutdown {k n : ℕ} {attempt : Attempt} {timedOut : Bool}
    {ids : List RuntimeId} (hdead : FinalizesDead s k)
    (hk : s.coroutines[k]? = some (.stopping n attempt timedOut (some ids)))
    (hnone : ∀ runtimeId ∈ ids, s.runs.get? runtimeId = none) (m : ℕ) (run : ManagedRuntime)
    (hhead : (s.runs.entries.map Prod.snd).head? = some m) (hrun : s.launched[m]? = some run) :
    NoneAlive s run.runtimeId := by
  refine hdead m run ?_ hrun
  rw [nextFinalized, hk]
  dsimp only
  rw [if_pos hnone, hhead]

theorem goesOn_afterStop (h : Inv s) {k n : ℕ} {attempt : Attempt} {timedOut : Bool}
    {rest : Option (List RuntimeId)} (hdead : FinalizesDead s k)
    (hk : s.coroutines[k]? = some (.stopping n attempt timedOut rest)) :
    GoesOn (afterStop rest s) := by
  cases rest with
  | none => exact ⟨h, by simp [afterStop]⟩
  | some ids => exact goesOn_shutdownFrom h (finalizesDead_shutdown hdead hk)

theorem goesOn_afterTimeout (h : Inv s) {k n : ℕ} {attempt : Attempt} {timedOut : Bool}
    {rest : Option (List RuntimeId)} (hdead : FinalizesDead s k)
    (hk : s.coroutines[k]? = some (.stopping n attempt timedOut rest)) :
    GoesOn (afterTimeout n attempt rest s) := by
  cases attempt with
  | first => exact ⟨h, fun _ heq => nomatch heq⟩
  | second => exact ⟨h, fun _ heq => nomatch heq⟩
  | third => exact goesOn_afterStop h hdead hk

theorem inv_of_goesOn {next : Coroutine × RuntimeState} (h : GoesOn next) (k : ℕ) :
    Inv (continueAs k next) :=
  inv_continueAs h.inv h.starting k

theorem inv_resume (h : Inv s) {k : ℕ} (hdead : FinalizesDead s k) : Inv (resume k s) := by
  unfold resume
  match hk : s.coroutines[k]? with
  | none => exact h
  | some .ended => exact h
  | some (.starting runtimeId) =>
    exact absurd rfl (h.starting _ (List.mem_of_getElem? hk) runtimeId)
  | some (.finalizing ns) =>
    apply inv_of_goesOn
    apply goesOn_finalizeFrom h
    intro n run hhead hrun
    refine hdead n run ?_ hrun
    rw [nextFinalized, hk]
    exact hhead
  | some (.stopping n attempt timedOut rest) =>
    dsimp only
    match (waitTask s n).bind (TaskState.waitResult timedOut) with
    | none => exact h
    | some .returned => exact inv_of_goesOn (goesOn_afterStop h hdead hk) k
    | some .cancelledError =>
      have hended : ∀ runtimeId, Coroutine.ended ≠ .starting runtimeId := fun _ heq => nomatch heq
      exact inv_continueAs h hended k
    | some .timeoutError => exact inv_of_goesOn (goesOn_afterTimeout h hdead hk) k

/-- A timeout cancels the task of a process that has exited. -/
theorem inv_timeout (h : Inv s) {k : ℕ} (hdead : FinalizesDead s k)
    (hexited : ∀ n attempt rest, s.coroutines[k]? = some (.stopping n attempt false rest) →
      alive s n = false) : Inv (timeout k s) := by
  unfold timeout
  split
  next n attempt rest hk =>
    have hcancel : Inv (modifyRun n
        (fun run => { run with waitTask := run.waitTask.requestCancel }) s) := by
      apply inv_modifyRun h
      · exact fun _ => rfl
      · intro run hrun hlive
        have hnot := hexited n attempt rest hk
        rw [alive, hrun] at hnot
        exact absurd hlive (by simpa using hnot)
      · exact fun run hp => TaskState.isPending_requestCancel.mp hp
      · exact fun run _ _ hp => TaskState.isPending_requestCancel.mpr hp
    split
    · exact inv_of_goesOn (goesOn_afterTimeout h hdead hk) k
    · have hwaits : ∀ runtimeId, Coroutine.stopping n attempt true rest ≠ .starting runtimeId :=
        fun _ heq => nomatch heq
      exact inv_continueAs hcancel hwaits k
  next => exact h

/-- The `finally` block of the task of a process that has exited. -/
theorem inv_enterFinally (h : Inv s) {n : ℕ} {run : ManagedRuntime} {cancelled : Bool}
    (hrun : s.launched[n]? = some run) (hdead : run.alive = false)
    (hpending : run.waitTask.IsPending) : Inv (enterFinally n cancelled s) := by
  have hnone := noneAlive_of_exited h hrun hdead hpending
  have hentry : finalizeRun n s = { s with runs := s.runs.erase run.runtimeId } := by
    rw [finalizeRun, hrun]
  unfold enterFinally
  rw [hentry]
  apply inv_modifyRun (inv_erase h hnone)
  · exact fun _ => rfl
  · intro run' hrun' hlive
    change s.launched[n]? = some run' at hrun'
    rw [hrun, Option.some.injEq] at hrun'
    rw [← hrun', hdead] at hlive
    cases hlive
  · exact fun run' hp => absurd hp (TaskState.not_isPending_finalizing cancelled)
  · intro run' hrun' hget
    change s.launched[n]? = some run' at hrun'
    rw [hrun, Option.some.injEq] at hrun'
    rw [← hrun', Dict.get?_erase_self] at hget
    cases hget

theorem inv_start (h : Inv s) {runtimeId : RuntimeId} (hallowed : Allowed s (.start runtimeId)) :
    Inv (start runtimeId s) := by
  unfold start
  rcases hallowed with ⟨n, hget, hlive⟩ | hfree
  · rw [hget]
    dsimp only
    rw [if_pos hlive]
    exact h
  · have hnone : s.runs.get? runtimeId = none := by
      rw [Option.eq_none_iff_forall_ne_some]
      intro n hget
      obtain ⟨run, hrun, hid, hpending⟩ := h.registered runtimeId n hget
      exact hfree n run hrun hid hpending
    rw [hnone]
    exact inv_launch h hfree

/-- An allowed step keeps the invariant. -/
theorem inv_step (event : Event) (h : Inv s) (hallowed : Allowed s event) :
    Inv (step event s) := by
  cases event with
  | start runtimeId => exact inv_start h hallowed
  | stop runtimeId =>
    simp only [step, stop]
    split
    · exact h
    · apply inv_suspend h
      simp
  | shutdown =>
    have hgoes : GoesOn (shutdownFrom s.runs.keys s) := by
      apply goesOn_shutdownFrom h
      intro hnone n run hhead
      -- a registered run has a registered runtime, so there is no first one left
      obtain ⟨⟨runtimeId, n'⟩, hmem, -⟩ := List.mem_map.mp (List.mem_of_mem_head? hhead)
      have hget := Dict.mem_entries_iff.mp hmem
      rw [hnone runtimeId (Dict.mem_keys_iff.mpr ⟨n', hget⟩)] at hget
      cases hget
    exact inv_suspend hgoes.inv hgoes.starting
  | resume k => exact inv_resume h hallowed
  | timeout k => exact inv_timeout h hallowed.1 hallowed.2
  | exit n =>
    apply inv_modifyRun h
    · exact fun _ => rfl
    · intro run _ hlive
      cases hlive
    · exact fun run hp => hp
    · exact fun run _ _ hp => hp
  | complete n =>
    simp only [step]
    split_ifs with hready
    · obtain ⟨run, hrun, htask⟩ := waitTask_eq_some_iff.mp hready.1
      have hdead : run.alive = false := by
        have hnot := hready.2
        rw [alive, hrun] at hnot
        simpa using hnot
      exact inv_enterFinally h hrun hdead ⟨false, htask⟩
    · exact h
  | deliverCancel n =>
    simp only [step]
    split_ifs with hready
    · obtain ⟨run, hrun, htask⟩ := waitTask_eq_some_iff.mp hready
      have hdead : run.alive = false := by
        by_contra hlive
        rw [Bool.not_eq_false] at hlive
        rw [h.awaited n run hrun hlive] at htask
        cases htask
      exact inv_enterFinally h hrun hdead ⟨true, htask⟩
    · exact h
  | finish n =>
    simp only [step]
    split
    next cancelled htask =>
      obtain ⟨run, hrun, htask⟩ := waitTask_eq_some_iff.mp htask
      apply inv_modifyRun h
      · exact fun _ => rfl
      · intro run' hrun' hlive
        rw [hrun, Option.some.injEq] at hrun'
        subst hrun'
        rw [h.awaited n run hrun hlive] at htask
        cases htask
      · exact fun run' hp => absurd hp (TaskState.not_isPending_finished cancelled)
      · intro run' hrun' _ hp
        rw [hrun, Option.some.injEq] at hrun'
        rw [← hrun', htask] at hp
        exact absurd hp (TaskState.not_isPending_finalizing cancelled)
    next => exact h

end Parts

/-! ### What is launched -/

section Launched

variable {s : RuntimeState}

@[simp] theorem launched_finalizeRun (n : ℕ) : (finalizeRun n s).launched = s.launched := by
  unfold finalizeRun
  split <;> rfl

@[simp] theorem launched_finalizeFrom (ns : List ℕ) :
    (finalizeFrom ns s).2.launched = s.launched := by
  cases ns with
  | nil => rfl
  | cons n ns => exact launched_finalizeRun n

@[simp] theorem launched_shutdownFrom (ids : List RuntimeId) :
    (shutdownFrom ids s).2.launched = s.launched := by
  induction ids with
  | nil => exact launched_finalizeFrom _
  | cons runtimeId rest ih =>
    rw [shutdownFrom]
    split
    · exact ih
    · rfl

@[simp] theorem launched_afterStop (rest : Option (List RuntimeId)) :
    (afterStop rest s).2.launched = s.launched := by
  cases rest with
  | none => rfl
  | some ids => exact launched_shutdownFrom ids

@[simp] theorem launched_afterTimeout (n : ℕ) (attempt : Attempt)
    (rest : Option (List RuntimeId)) : (afterTimeout n attempt rest s).2.launched = s.launched := by
  cases attempt with
  | first => rfl
  | second => rfl
  | third => exact launched_afterStop rest

theorem length_modifyRun (n : ℕ) (f : ManagedRuntime → ManagedRuntime) :
    (modifyRun n f s).launched.length = s.launched.length :=
  List.length_modify f s.launched n

theorem length_enterFinally (n : ℕ) (cancelled : Bool) :
    (enterFinally n cancelled s).launched.length = s.launched.length := by
  rw [enterFinally, length_modifyRun, launched_finalizeRun]

theorem length_resume (h : Inv s) (k : ℕ) :
    (resume k s).launched.length = s.launched.length := by
  unfold resume
  match hk : s.coroutines[k]? with
  | none => rfl
  | some .ended => rfl
  | some (.starting runtimeId) =>
    exact absurd rfl (h.starting _ (List.mem_of_getElem? hk) runtimeId)
  | some (.finalizing ns) => exact congrArg List.length (launched_finalizeFrom ns)
  | some (.stopping n attempt timedOut rest) =>
    dsimp only
    match (waitTask s n).bind (TaskState.waitResult timedOut) with
    | none => rfl
    | some .returned => exact congrArg List.length (launched_afterStop rest)
    | some .cancelledError => rfl
    | some .timeoutError => exact congrArg List.length (launched_afterTimeout n attempt rest)

theorem length_timeout (k : ℕ) : (timeout k s).launched.length = s.launched.length := by
  unfold timeout
  split
  next n attempt rest hk =>
    split
    · exact congrArg List.length (launched_afterTimeout n attempt rest)
    · exact length_modifyRun n _
  next => rfl

/-- Only a `start` that finds nothing registered launches a process. -/
theorem length_step (h : Inv s) (event : Event) :
    (step event s).launched.length = s.launched.length ∨
      ∃ runtimeId, event = .start runtimeId ∧ s.runs.get? runtimeId = none := by
  cases event with
  | start runtimeId =>
    cases hget : s.runs.get? runtimeId with
    | none => exact Or.inr ⟨runtimeId, rfl, hget⟩
    -- what is registered is at most finalized
    | some n =>
      left
      simp only [step, start, hget]
      split
      · rfl
      · exact congrArg List.length (launched_finalizeRun n)
  | stop runtimeId =>
    left
    simp only [step, stop]
    split <;> rfl
  | shutdown => exact Or.inl (congrArg List.length (launched_shutdownFrom s.runs.keys))
  | resume k => exact Or.inl (length_resume h k)
  | timeout k => exact Or.inl (length_timeout k)
  | exit n => exact Or.inl (length_modifyRun n _)
  | complete n =>
    left
    simp only [step]
    split
    · exact length_enterFinally n false
    · rfl
  | deliverCancel n =>
    left
    simp only [step]
    split
    · exact length_enterFinally n true
    · rfl
  | finish n =>
    left
    simp only [step]
    split
    · exact length_modifyRun n _
    · rfl

end Launched

/-- An allowed step launches a process beside none that is alive, and every live one is reported
afterwards. -/
theorem orderly_of_inv {s : RuntimeState} {event : Event} (h : Inv s)
    (hallowed : Allowed s event) : Orderly ⟨s, event, step event s⟩ where
  launches := by
    intro new hnew n run hrun hsame
    change (step event s).launched[s.launched.length]? = some new at hnew
    rcases length_step h event with hlength | ⟨runtimeId, rfl, hnone⟩
    · rw [← hlength, List.getElem?_eq_none le_rfl] at hnew
      cases hnew
    -- the process is launched by `start`, which found no task waiting for an earlier one
    have hlaunched : new = ⟨runtimeId, true, .pending false⟩ := by
      simp only [step, start, hnone, launch, List.getElem?_concat_length, Option.some.injEq] at hnew
      exact hnew.symm
    rw [hlaunched] at hsame
    rcases hallowed with ⟨m, hget, -⟩ | hfree
    · rw [hnone] at hget
      cases hget
    · by_contra hlive
      rw [Bool.not_eq_false] at hlive
      refine hfree n run hrun hsame ?_
      rw [h.awaited n run hrun hlive]
      exact TaskState.isPending_pending false
  reported := by
    intro n run hrun hlive
    have hget := (inv_step event h hallowed).live n run hrun hlive
    exact List.mem_filter.mpr ⟨Dict.mem_entries_iff.mpr hget, alive_iff.mpr ⟨run, hrun, hlive⟩⟩

/-- Along steps that lose no entry there is at most one live process of a runtime: each launch
comes when all earlier ones have exited, and what lives is registered and reported. -/
theorem one_live_process {events : List Event}
    (hallowed : ∀ t ∈ transitions step events init, Allowed t.before t.input) :
    ∀ t ∈ transitions step events init, Orderly t ∧ LiveRegistered t.after := by
  have hinv := forall_transitions_of_inv (fun s event h ha => inv_step event h ha) inv_init hallowed
  intro t ht
  obtain ⟨hbefore, hafter⟩ := hinv t ht
  have hstep : t = ⟨t.before, t.input, step t.input t.before⟩ := by
    rw [← after_eq_step ht]
  refine ⟨?_, hafter.live⟩
  rw [hstep]
  exact orderly_of_inv hbefore (hallowed t ht)

/-- The process exits when it is asked to, and another one is started after that. -/
def startedTwice : List Event :=
  [.start .spot, .stop .spot, .exit 0, .complete 0, .finish 0, .resume 0, .start .spot]

theorem started_twice_orderly :
    Orderly ⟨run step (startedTwice.take 6) init, .start .spot, run step startedTwice init⟩ ∧
      LiveRegistered (run step startedTwice init) := by
  have hnothing : ∀ (n : ℕ) run, init.launched[n]? = some run → run.runtimeId = .spot →
      ¬ run.waitTask.IsPending := by simp [init]
  have hexited : (run step (startedTwice.take 6) init).launched =
      [⟨.spot, false, .finished false⟩] := by decide +kernel
  have hresumed : nextFinalized (run step (startedTwice.take 5) init) 0 = none := by decide +kernel
  have hallowed : ∀ t ∈ transitions step startedTwice init, Allowed t.before t.input := by
    simp only [startedTwice, transitions_cons, transitions_nil, List.forall_mem_cons,
      List.not_mem_nil, false_implies, implies_true, and_true]
    refine ⟨Or.inr hnothing, trivial, trivial, trivial, trivial, ?_, Or.inr ?_⟩
    · intro n run hnext
      exact absurd (hresumed.symm.trans hnext) (by simp)
    · intro n old hold _ hpending
      change (run step (startedTwice.take 6) init).launched[n]? = some old at hold
      -- the task of the only earlier run is over
      rw [hexited] at hold
      rw [List.mem_singleton.mp (List.mem_of_getElem? hold)] at hpending
      exact TaskState.not_isPending_finished false hpending
  exact one_live_process hallowed _ (mem_transitions (startedTwice.take 6) _ [] init)

/-- The wait of `stop` times out on a process that lives on, and another one is started. -/
def stopTimesOut : List Event :=
  [.start .spot, .stop .spot, .timeout 0, .deliverCancel 0, .finish 0, .resume 0, .start .spot]

theorem second_process_beside_first :
    ¬ ∀ events, ∀ t ∈ transitions step events init, Orderly t ∧ LiveRegistered t.after := by
  intro hclaim
  obtain ⟨-, hlive⟩ := hclaim stopTimesOut _ (mem_transitions (stopTimesOut.take 6) _ [] init)
  have hget := hlive 0 ⟨.spot, true, .finished true⟩ (by decide +kernel) rfl
  revert hget
  decide +kernel

end RuntimeControl

end Botik.AppService
