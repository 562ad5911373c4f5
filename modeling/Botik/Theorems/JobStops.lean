import Botik.Theorems.JobStates

/-!
# What a stop comes to

`terminate` waits for the task that records how the worker ended, and a timeout of that wait cancels
the task. Then nothing is left that would record anything: the job stays in `stopping`, its run is
registered no more, and the next wait raises the cancellation before the kill.

## Main definitions

* `JobSupervisor.StopEnds` — a stopped job has ended, or its worker is still waited for
* `JobSupervisor.InTime` — a stop timeout fires only when the completion is recorded
* `JobSupervisor.Timely` — the invariant of the steps in time

## Main results

* `timely_step` — steps in time keep the invariant
* `stop_ends` — along steps in time every job that was stopped ends
-/

namespace Botik.AppService

namespace JobSupervisor

open Runs

/-- When a call of `terminate` that found the run has returned or raised and the process has exited,
the state is terminal, or the task that will make it so is under way; a process that outlived both
stop timeouts was killed; and no job is in `stopping` without a registered run. -/
structure StopEnds (s : SupervisorState) : Prop where
  recorded : ∀ call ∈ s.calls, call.phase = .ended → alive s = false →
    s.jobState.IsTerminal ∨ s.registered = true ∧ waitTask s = some (.pending false)
  killed : ∀ call ∈ s.calls, call.phase = .ended → 2 ≤ call.outlived →
    s.run.any ManagedRun.killed = true
  registered : s.jobState = .stopping → s.registered = true

/-- A stop timeout fires only when the task has recorded how the worker ended. -/
def InTime (s : SupervisorState) : Event → Prop
  | .timeout k => ∀ wait, s.calls[k]?.map TerminateCall.phase = some (.waiting wait false) →
      ∃ cancelled, waitTask s = some (.finished cancelled)
  | _ => True

/-- The run is waited for, or how it ended is recorded; no call has ended before that, and none has
seen a timeout pass with the process alive. -/
structure Timely (s : SupervisorState) : Prop where
  run : ∀ run ∈ s.run, run.waitTask = .pending false ∧ s.registered = true ∨
    run.waitTask = .finished false ∧ run.exitCode.isSome = true ∧ s.jobState.IsTerminal
  idle : s.run = none → s.jobState ≠ .stopping
  calls : ∀ call ∈ s.calls, call.outlived = 0 ∧
    (call.phase = .ended → ∃ run ∈ s.run, run.waitTask = .finished false)

theorem timely_init (jobId jobType : String) : Timely (init jobId jobType) where
  run _ h := nomatch h
  idle _ h := nomatch h
  calls _ h := absurd h List.not_mem_nil

theorem terminal_ne_stopping {state : JobState} (h : state.IsTerminal) : state ≠ .stopping := by
  rintro rfl
  revert h
  decide

/-- What the invariant says of stops. -/
theorem stopEnds_of_timely {s : SupervisorState} (h : Timely s) : StopEnds s where
  recorded := by
    intro call hcall hended _
    obtain ⟨run, hrun, hfinished⟩ := (h.calls call hcall).2 hended
    rcases h.run run hrun with ⟨hpending, -⟩ | ⟨-, -, hterminal⟩
    · rw [hfinished] at hpending
      cases hpending
    · exact Or.inl hterminal
  killed := by
    intro call hcall _ houtlived
    have hzero := (h.calls call hcall).1
    omega
  registered := by
    intro hstopping
    cases hrun : s.run with
    | none => exact absurd hstopping (h.idle hrun)
    | some run =>
      rcases h.run run hrun with ⟨-, hregistered⟩ | ⟨-, -, hterminal⟩
      · exact hregistered
      · exact absurd hstopping (terminal_ne_stopping hterminal)

section Steps

variable {s : SupervisorState}

/-- A change of the run that leaves its task, and what has exited. -/
theorem timely_modifyRun (h : Timely s) {f : ManagedRun → ManagedRun}
    (htask : ∀ run, (f run).waitTask = run.waitTask)
    (hexit : ∀ run, run.exitCode.isSome = true → (f run).exitCode.isSome = true) :
    Timely (modifyRun f s) where
  run := by
    intro run hrun
    obtain ⟨run₀, hrun₀, rfl⟩ := Option.map_eq_some_iff.mp hrun
    rcases h.run run₀ hrun₀ with ⟨hpending, hregistered⟩ | ⟨hfinished, hexited, hterminal⟩
    · exact Or.inl ⟨(htask run₀).trans hpending, hregistered⟩
    · exact Or.inr ⟨(htask run₀).trans hfinished, hexit run₀ hexited, hterminal⟩
  idle hnone := h.idle (Option.map_eq_none_iff.mp hnone)
  calls := by
    intro call hcall
    obtain ⟨hzero, hfinished⟩ := h.calls call hcall
    refine ⟨hzero, fun hended => ?_⟩
    obtain ⟨run, hrun, htask₀⟩ := hfinished hended
    exact ⟨f run, Option.map_eq_some_iff.mpr ⟨run, hrun, rfl⟩, (htask run).trans htask₀⟩

/-- A call may go on, and may end once the completion is recorded. -/
theorem timely_continueAs (h : Timely s) {k : ℕ} {phase : TerminatePhase}
    (hphase : phase = .ended → ∃ run ∈ s.run, run.waitTask = .finished false) :
    Timely (continueAs k phase s) where
  run := h.run
  idle := h.idle
  calls := by
    intro call hcall
    obtain ⟨j, hj⟩ := List.getElem?_of_mem hcall
    have hmodify := List.getElem?_modify (fun call => { call with phase }) k s.calls j
    rw [continueAs] at hj
    rw [hmodify] at hj
    obtain ⟨call₀, hcall₀, rfl⟩ := Option.map_eq_some_iff.mp hj
    obtain ⟨hzero, hfinished⟩ := h.calls call₀ (List.mem_of_getElem? hcall₀)
    split_ifs
    · exact ⟨hzero, hphase⟩
    · exact ⟨hzero, hfinished⟩

theorem timely_afterTimeout (h : Timely s) (k : ℕ) (wait : TerminateWait)
    (hfinished : ∃ run ∈ s.run, run.waitTask = .finished false) :
    Timely (afterTimeout k wait s) := by
  cases wait with
  | controlFile => exact timely_continueAs h fun _ => hfinished
  | stop =>
    have hkilled : Timely (modifyRun (fun run => { run with killed := true }) s) :=
      timely_modifyRun h (fun _ => rfl) fun _ hexited => hexited
    apply timely_continueAs hkilled
    intro hended
    cases hended
  | kill => exact timely_continueAs h fun _ => hfinished

/-- The task of the run has finished, and then without being cancelled. -/
theorem finished_of_waitTask (h : Timely s) {cancelled : Bool}
    (htask : waitTask s = some (.finished cancelled)) :
    ∃ run ∈ s.run, run.waitTask = .finished false := by
  obtain ⟨run, hrun, hfinished⟩ := Option.map_eq_some_iff.mp htask
  rcases h.run run hrun with ⟨hpending, -⟩ | ⟨hdone, -, -⟩
  · rw [hfinished] at hpending
    cases hpending
  · exact ⟨run, hrun, hdone⟩

/-- What has finished has exited. -/
theorem alive_eq_false (h : Timely s) (hfinished : ∃ run ∈ s.run, run.waitTask = .finished false) :
    alive s = false := by
  obtain ⟨run, hrun, hdone⟩ := hfinished
  rcases h.run run hrun with ⟨hpending, -⟩ | ⟨-, hexited, -⟩
  · rw [hdone] at hpending
    cases hpending
  · have hsome : s.run = some run := hrun
    rw [alive, hsome, Option.any_some]
    simpa using hexited

/-- A consumer that reads a line belongs to a run that is waited for. -/
theorem pending_of_open (h : Timely s) (hinv : Inv s) {run : ManagedRun} (hrun : s.run = some run)
    (hopen : run.stdoutOpen = true ∨ run.stderrOpen = true) :
    run.waitTask = .pending false ∧ s.registered = true := by
  rcases h.run run hrun with hpending | ⟨-, -, hterminal⟩
  · exact hpending
  · -- a terminal job is settled, and has no open consumer
    obtain ⟨hstdout, hstderr, -⟩ := (hinv.settled hterminal).ended run hrun
    simp [hstdout, hstderr] at hopen

/-- While the run is waited for, its output and consumers may change. -/
theorem timely_of_pending {output : JobOutput} {run run' : ManagedRun} (h : Timely s)
    (hrun : s.run = some run) (hpending : run.waitTask = .pending false)
    (hregistered : s.registered = true) (htask : run'.waitTask = .pending false) :
    Timely { s with output, run := some run' } where
  run := by
    intro run₁ hrun₁
    obtain rfl := Option.some.inj hrun₁
    exact Or.inl ⟨htask, hregistered⟩
  idle hnone := nomatch hnone
  calls := by
    intro call hcall
    obtain ⟨hzero, hfinished⟩ := h.calls call hcall
    refine ⟨hzero, fun hended => ?_⟩
    obtain ⟨run₁, hrun₁, hdone⟩ := hfinished hended
    rw [hrun] at hrun₁
    rw [← Option.some.inj hrun₁, hpending] at hdone
    cases hdone

theorem timely_stdoutLine (h : Timely s) (hinv : Inv s) (py : Python) (line : String) :
    Timely (stdoutLine py line s) := by
  rw [stdoutLine]
  cases hrun : s.run with
  | none => exact h
  | some run =>
    dsimp only
    split_ifs with hopen
    · obtain ⟨hpending, hregistered⟩ := pending_of_open h hinv hrun (Or.inl hopen)
      split
      · exact timely_of_pending h hrun hpending hregistered hpending
      · exact timely_of_pending h hrun hpending hregistered hpending
    · exact h

theorem timely_stderrLine (h : Timely s) (hinv : Inv s) (py : Python) (line : String) :
    Timely (stderrLine py line s) := by
  rw [stderrLine]
  cases hrun : s.run with
  | none => exact h
  | some run =>
    dsimp only
    split_ifs with hopen
    · obtain ⟨hpending, hregistered⟩ := pending_of_open h hinv hrun (Or.inr hopen)
      exact timely_of_pending h hrun hpending hregistered hpending
    · exact h

theorem timely_spawn (h : Timely s) (hinv : Inv s) (hspawned : s.spawned = false)
    (launch : Launch) : Timely (spawn launch s) := by
  obtain ⟨hrun, -⟩ := hinv.fresh hspawned
  have hnone : ∀ call ∈ s.calls, call.outlived = 0 ∧ call.phase ≠ .ended := by
    intro call hcall
    obtain ⟨hzero, hfinished⟩ := h.calls call hcall
    refine ⟨hzero, fun hended => ?_⟩
    obtain ⟨run, hmem, -⟩ := hfinished hended
    rw [hrun] at hmem
    cases hmem
  have hcalls : ∀ run' : Option ManagedRun, ∀ call ∈ s.calls, call.outlived = 0 ∧
      (call.phase = .ended → ∃ run ∈ run', run.waitTask = .finished false) :=
    fun run' call hcall =>
      ⟨(hnone call hcall).1, fun hended => absurd hended (hnone call hcall).2⟩
  cases launch with
  | undefined => exact ⟨h.run, h.idle, h.calls⟩
  | failed error =>
    refine ⟨fun run hmem => ?_, fun _ hstate => (nomatch hstate), hcalls s.run⟩
    have hmem : s.run = some run := hmem
    rw [hrun] at hmem
    cases hmem
  | launched controlFile =>
    refine ⟨fun run hmem => ?_, fun hnot => (nomatch hnot), hcalls _⟩
    obtain rfl := Option.some.inj hmem
    exact Or.inl ⟨rfl, rfl⟩

theorem isTerminal_exited (code : ℤ) (run : ManagedRun) (output : JobOutput) :
    (exited code run output).details.state.IsTerminal := by
  rw [exited]
  dsimp only
  split_ifs
  · exact Or.inr (Or.inr rfl)
  · exact Or.inl rfl
  · exact Or.inr (Or.inl rfl)

theorem timely_complete (h : Timely s) : Timely (complete s) := by
  rw [complete]
  cases hrun : s.run with
  | none => exact h
  | some run =>
    dsimp only
    cases hcode : run.exitCode with
    | none => exact h
    | some code =>
      dsimp only
      split_ifs with hready
      · constructor
        · intro run' hrun'
          obtain rfl := Option.some.inj hrun'
          refine Or.inr ⟨rfl, by simp, ?_⟩
          exact isTerminal_exited code run s.output
        · simp
        · intro call hcall
          exact ⟨(h.calls call hcall).1, fun _ => ⟨_, rfl, rfl⟩⟩
      · exact h

theorem timely_terminate (h : Timely s) (hinv : Inv s) (reason : Option String) :
    Timely (terminate reason s) := by
  have hcall : ∀ {output run phase}, Timely { s with output, run } → phase ≠ .ended →
      Timely { s with output, run, calls := s.calls ++ [⟨phase, 0⟩] } := by
    intro output run phase hbefore hphase
    refine ⟨hbefore.run, hbefore.idle, fun call hmem => ?_⟩
    rcases List.mem_append.mp hmem with hold | hnew
    · exact hbefore.calls call hold
    · rw [List.mem_singleton.mp hnew]
      exact ⟨rfl, fun hended => absurd hended hphase⟩
  rw [terminate]
  split
  next run hregistered hrun =>
    have hpending : run.waitTask = .pending false := by
      rcases h.run run hrun with ⟨hpending, -⟩ | ⟨-, -, hterminal⟩
      · exact hpending
      · rw [(hinv.settled hterminal).registered] at hregistered
        cases hregistered
    refine hcall (timely_of_pending h hrun hpending hregistered ?_) (by simp)
    exact hpending
  next => exact hcall h (by simp)

theorem timely_resume (h : Timely s) (k : ℕ) : Timely (resume k s) := by
  rw [resume]
  split
  next wait timedOut _ =>
    -- only a finished task gives a result, and it was not cancelled
    have hresult : ∀ result, (waitTask s).bind (TaskState.waitResult timedOut) = some result →
        ∃ run ∈ s.run, run.waitTask = .finished false := by
      intro result hbind
      obtain ⟨task, htask, hwait⟩ := Option.bind_eq_some_iff.mp hbind
      cases task with
      | pending b => cases hwait
      | finalizing b => cases hwait
      | finished b => exact finished_of_waitTask h htask
    split
    · exact h
    next hbind => exact timely_continueAs h fun _ => hresult _ hbind
    next hbind => exact timely_continueAs h fun _ => hresult _ hbind
    next hbind => exact timely_afterTimeout h k wait (hresult _ hbind)
  · exact h

theorem timely_timeout (h : Timely s) {k : ℕ} (hintime : InTime s (.timeout k)) :
    Timely (timeout k s) := by
  rw [timeout]
  split
  next wait hphase =>
    obtain ⟨cancelled, htask⟩ := hintime wait hphase
    rw [htask]
    exact timely_afterTimeout h k wait (finished_of_waitTask h htask)
  next hphase =>
    -- the call has ended, so the process has exited
    obtain ⟨call, hcall, hended⟩ := Option.map_eq_some_iff.mp hphase
    have hdead := alive_eq_false h ((h.calls call (List.mem_of_getElem? hcall)).2 hended)
    rw [outlive, hdead]
    exact h
  · exact h

/-- A step in time keeps the invariant. -/
theorem timely_step (py : Python) {event : Event} (h : Timely s) (hinv : Inv s)
    (hintime : InTime s event) : Timely (step py event s) := by
  cases event with
  | spawn launch =>
    rw [step]
    split_ifs with hspawned
    · exact h
    · exact timely_spawn h hinv (by simpa using hspawned) launch
  | stdoutLine line => exact timely_stdoutLine h hinv py line
  | stderrLine line => exact timely_stderrLine h hinv py line
  | stdoutEnd => exact timely_modifyRun h (fun _ => rfl) fun _ hexited => hexited
  | stderrEnd => exact timely_modifyRun h (fun _ => rfl) fun _ hexited => hexited
  | exit code =>
    apply timely_modifyRun h
    · exact fun _ => rfl
    · intro run _
      simp
  | waited =>
    apply timely_modifyRun h
    · intro run
      simp only [waited]
      split <;> rfl
    · intro run hexited
      simp only [waited]
      split <;> exact hexited
  | complete => exact timely_complete h
  -- nothing is pending in time, so a cancellation finds nothing to deliver
  | deliverCancel =>
    have hsame : deliverCancel s = s := by
      rw [deliverCancel]
      cases hrun : s.run with
      | none => rfl
      | some run =>
        rcases h.run run hrun with ⟨hpending, -⟩ | ⟨hfinished, -⟩
        · simp [hpending]
        · simp [hfinished]
    rw [step, hsame]
    exact h
  | terminate reason => exact timely_terminate h hinv reason
  | resume k => exact timely_resume h k
  | timeout k => exact timely_timeout h hintime

end Steps

/-- If no stop timeout fires before the completion of the worker is recorded, every state on the way
is as a stop should leave it. -/
theorem stop_ends (py : Python) (jobId jobType : String) {events : List Event}
    (hintime : ∀ t ∈ transitions (step py) events (init jobId jobType),
      InTime t.before t.input) :
    ∀ t ∈ transitions (step py) events (init jobId jobType), StopEnds t.after := by
  have hstep : ∀ s event, Timely s ∧ Inv s → InTime s event →
      Timely (step py event s) ∧ Inv (step py event s) :=
    fun s event h hevent => ⟨timely_step py h.1 h.2 hevent, inv_step py h.2 event⟩
  have hinit := And.intro (timely_init jobId jobType) (inv_init jobId jobType)
  intro t ht
  exact stopEnds_of_timely (forall_transitions_of_inv hstep hinit hintime t ht).2.1

/-- A worker that ends when it is asked to. -/
def politeStop : List Event :=
  [.spawn (.launched true), .terminate none, .exit 0, .stdoutEnd, .waited, .stderrEnd, .complete,
    .resume 0]

theorem polite_stop_ends :
    StopEnds (runFrom progressPython "job" "sample" politeStop) ∧
      (runFrom progressPython "job" "sample" politeStop).jobState = .cancelled := by
  have hintime : ∀ t ∈ transitions (step progressPython) politeStop (init "job" "sample"),
      InTime t.before t.input := by
    simp [politeStop, transitions_cons, InTime]
  have hends := stop_ends progressPython "job" "sample" hintime
  have hlast : Transition.mk (runFrom progressPython "job" "sample" (politeStop.take 7)) (.resume 0)
      (runFrom progressPython "job" "sample" politeStop) ∈
        transitions (step progressPython) politeStop (init "job" "sample") :=
    mem_transitions (politeStop.take 7) _ [] _
  exact ⟨hends _ hlast, by decide +kernel⟩

/-- The worker ends only after both stop timeouts: the first cancels the task that would have
recorded the end, and the second wait is handed that cancellation. -/
def lateStop : List Event :=
  [.spawn (.launched true), .terminate none, .timeout 0, .deliverCancel, .resume 0, .resume 0,
    .timeout 0, .exit 0]

theorem late_stop_stays :
    ¬ ∀ events, ∀ t ∈ transitions (step progressPython) events (init "job" "sample"),
      StopEnds t.after := by
  intro hclaim
  have hends := hclaim lateStop _ (mem_transitions (lateStop.take 7) _ [] _)
  have hregistered := hends.registered (by decide +kernel)
  revert hregistered
  decide +kernel

end JobSupervisor

end Botik.AppService
