import Botik.AppService.JobSupervisor

/-!
# Terminal job states are final

The terminal write comes after both consumers have ended, and the run is taken out of the registry
in the same step. So nothing is under way afterwards that could write the record.

## Main definitions

* `JobState.IsTerminal`
* `JobSupervisor.LineMoves` — what a line of output does to the state
* `JobSupervisor.Settled` — nothing is under way any more that could write the record

## Main results

* `settled_step` — a settled job stays as it is
* `inv_step` — a job in a terminal state is settled
* `terminal_states_final`
-/

namespace Botik.AppService

/-- Completed, failed or cancelled. -/
def JobState.IsTerminal (state : JobState) : Prop :=
  state = .completed ∨ state = .failed ∨ state = .cancelled

instance (state : JobState) : Decidable state.IsTerminal :=
  inferInstanceAs (Decidable (_ ∨ _))

namespace JobSupervisor

open Program Runs

/-! ### What output does to the state -/

/-- The state after a line: it stays, or becomes that of a progress line. -/
def LineMoves (output output' : JobOutput) : Prop :=
  output'.details.state = output.details.state ∨
    output'.details.state = nextState output.details.state

/-- A second progress line changes the state no more. -/
@[simp] theorem nextState_nextState (state : JobState) :
    nextState (nextState state) = nextState state := by
  cases state <;> rfl

instance : IsPreorder JobOutput LineMoves where
  refl _ := Or.inl rfl
  trans _ _ _ := by
    rintro (h | h) (h' | h')
    · exact Or.inl (h'.trans h)
    · exact Or.inr (h'.trans (congrArg nextState h))
    · exact Or.inr (h'.trans h)
    · right
      rw [h', h, nextState_nextState]

theorem not_isTerminal_nextState (state : JobState) : ¬ (nextState state).IsTerminal := by
  cases state <;> decide

theorem moves_publish (p : Published) : Moves LineMoves (publish p) :=
  moves_modify fun _ => Or.inl rfl

theorem moves_handleProgress (py : Python) (fields : List (String × Json)) :
    Moves LineMoves (handleProgress py fields) := by
  intro s
  rw [handleProgress]
  cases progressField py fields with
  | error e => exact Or.inl rfl
  | ok progress =>
    rw [fromExcept_ok, pure_bind, after_get_bind, after_modify_bind]
    right
    -- the record is written before the event is built, which may still raise
    cases progressEvent py fields _ <;> rfl

theorem moves_handleFields (py : Python) (level line : String) (fields : List (String × Json)) :
    Moves LineMoves (handleFields py level line fields) := by
  intro s
  rw [handleFields, after_get_bind]
  dsimp only
  split_ifs
  · exact moves_handleProgress py fields s
  · exact moves_publish _ s
  · exact moves_publish _ s

/-- A line of output leaves the state, or writes that of a progress line. -/
theorem moves_handleWorkerLine (py : Python) (level line : String) :
    Moves LineMoves (handleWorkerLine py level line) := by
  intro s
  rw [handleWorkerLine, after_get_bind]
  split_ifs
  · exact Or.inl rfl
  · exact moves_publish _ s
  · cases py.loads line with
    | malformed => exact moves_publish _ s
    | raised e => exact Or.inl rfl
    | value payload =>
      exact moves_fromExcept_bind (fun fields _ => moves_handleFields py level line fields) s

/-! ### The state of the job, step by step -/

section Frames

variable {s : SupervisorState}

@[simp] theorem jobState_modifyRun (f : ManagedRun → ManagedRun) :
    (modifyRun f s).jobState = s.jobState := rfl

@[simp] theorem jobState_continueAs (k : ℕ) (phase : TerminatePhase) :
    (continueAs k phase s).jobState = s.jobState := rfl

@[simp] theorem jobState_afterTimeout (k : ℕ) (wait : TerminateWait) :
    (afterTimeout k wait s).jobState = s.jobState := by
  cases wait <;> rfl

@[simp] theorem jobState_outlive (k : ℕ) : (outlive k s).jobState = s.jobState := by
  simp only [outlive]
  split <;> rfl

@[simp] theorem jobState_resume (k : ℕ) : (resume k s).jobState = s.jobState := by
  simp only [resume]
  split
  · split <;> simp
  · rfl

@[simp] theorem jobState_timeout (k : ℕ) : (timeout k s).jobState = s.jobState := by
  simp only [timeout]
  split
  · split <;> simp
  · simp
  · rfl

@[simp] theorem jobState_deliverCancel : (deliverCancel s).jobState = s.jobState := by
  simp only [deliverCancel]
  split
  · rfl
  · split <;> rfl

/-- Without a consumer that reads it a line is not handled. -/
theorem stdoutLine_of_closed {py : Python} {line : String}
    (h : ∀ run ∈ s.run, run.stdoutOpen = false) : stdoutLine py line s = s := by
  rw [stdoutLine]
  cases hrun : s.run with
  | none => rfl
  | some run => simp [h run hrun]

theorem stderrLine_of_closed {py : Python} {line : String}
    (h : ∀ run ∈ s.run, run.stderrOpen = false) : stderrLine py line s = s := by
  rw [stderrLine]
  cases hrun : s.run with
  | none => rfl
  | some run => simp [h run hrun]

theorem lineMoves_stdoutLine (py : Python) (line : String) :
    LineMoves s.output (stdoutLine py line s).output := by
  have hmoves := moves_handleWorkerLine py "INFO" (Text.strip line) s.output
  rw [stdoutLine]
  split
  · exact Or.inl rfl
  · split_ifs
    · split
      next output hok => rwa [after_of_ok hok] at hmoves
      next e output herror => rwa [after_of_error herror] at hmoves
    · exact Or.inl rfl

theorem lineMoves_stderrLine (py : Python) (line : String) :
    LineMoves s.output (stderrLine py line s).output := by
  rw [stderrLine]
  split
  · exact Or.inl rfl
  · split_ifs
    · exact moves_handleWorkerLine py "ERROR" (Text.strip line) s.output
    · exact Or.inl rfl

theorem not_isTerminal_of_lineMoves {output output' : JobOutput} (h : LineMoves output output')
    (hnot : ¬ output.details.state.IsTerminal) : ¬ output'.details.state.IsTerminal := by
  rcases h with h | h
  · rwa [h]
  · rw [h]
    exact not_isTerminal_nextState _

end Frames

/-! ### Final states -/

/-- Nothing is under way that could write the record: the job was spawned, its run is not
registered, both consumers and the task have ended. -/
structure Settled (s : SupervisorState) : Prop where
  spawned : s.spawned = true
  registered : s.registered = false
  ended : ∀ run ∈ s.run, run.stdoutOpen = false ∧ run.stderrOpen = false ∧
    run.waitTask = .finished false

/-- Before the job is spawned there is no run, and a terminal job is settled. -/
structure Inv (s : SupervisorState) : Prop where
  fresh : s.spawned = false → s.run = none ∧ s.registered = false
  settled : s.jobState.IsTerminal → Settled s

theorem inv_init (jobId jobType : String) : Inv (init jobId jobType) where
  fresh _ := ⟨rfl, rfl⟩
  settled h := by
    have hqueued : ¬ JobState.queued.IsTerminal := by decide
    exact absurd h hqueued

section Steps

variable {s : SupervisorState}

/-- A change of the run that leaves what has ended. -/
theorem settled_modifyRun (h : Settled s) {f : ManagedRun → ManagedRun}
    (hf : ∀ run, run.stdoutOpen = false ∧ run.stderrOpen = false ∧ run.waitTask = .finished false →
      (f run).stdoutOpen = false ∧ (f run).stderrOpen = false ∧
        (f run).waitTask = .finished false) : Settled (modifyRun f s) where
  spawned := h.spawned
  registered := h.registered
  ended := by
    intro run hrun
    obtain ⟨run₀, hrun₀, rfl⟩ := Option.map_eq_some_iff.mp hrun
    exact hf run₀ (h.ended run₀ hrun₀)

theorem settled_continueAs (h : Settled s) (k : ℕ) (phase : TerminatePhase) :
    Settled (continueAs k phase s) := ⟨h.spawned, h.registered, h.ended⟩

theorem settled_outlive (h : Settled s) (k : ℕ) : Settled (outlive k s) := by
  simp only [outlive]
  split
  · exact ⟨h.spawned, h.registered, h.ended⟩
  · exact h

theorem settled_afterTimeout (h : Settled s) (k : ℕ) (wait : TerminateWait) :
    Settled (afterTimeout k wait s) := by
  cases wait with
  | controlFile => exact settled_continueAs h k _
  | stop =>
    have hkilled : Settled (modifyRun (fun run => { run with killed := true }) s) :=
      settled_modifyRun h fun _ hended => hended
    exact settled_continueAs hkilled k _
  | kill => exact settled_continueAs h k _

theorem settled_timeout (h : Settled s) (k : ℕ) : Settled (timeout k s) := by
  simp only [timeout]
  split
  next wait _ =>
    split
    · exact settled_afterTimeout h k wait
    next hnot =>
      apply settled_outlive
      apply settled_continueAs
      apply settled_modifyRun h
      intro run hended
      simp [requestCancel, hended, TaskState.requestCancel]
  · exact settled_outlive h k
  · exact h

theorem settled_resume (h : Settled s) (k : ℕ) : Settled (resume k s) := by
  simp only [resume]
  split
  next wait timedOut _ =>
    split
    · exact h
    · exact settled_continueAs h k _
    · exact settled_continueAs h k _
    · exact settled_afterTimeout h k wait
  · exact h

/-- A settled job stays settled, and its state stays as it is, whatever happens. -/
theorem settled_step (py : Python) (event : Event) (h : Settled s) :
    Settled (step py event s) ∧ (step py event s).jobState = s.jobState := by
  cases event with
  | spawn launch =>
    rw [step, if_pos h.spawned]
    exact ⟨h, rfl⟩
  | stdoutLine line =>
    -- the streams of an ended run are closed
    have hsame : stdoutLine py line s = s := stdoutLine_of_closed fun run hrun => (h.ended run hrun).1
    rw [step, hsame]
    exact ⟨h, rfl⟩
  | stderrLine line =>
    have hsame : stderrLine py line s = s :=
      stderrLine_of_closed fun run hrun => (h.ended run hrun).2.1
    rw [step, hsame]
    exact ⟨h, rfl⟩
  | stdoutEnd => exact ⟨settled_modifyRun h fun run hended => ⟨rfl, hended.2⟩, rfl⟩
  | stderrEnd => exact ⟨settled_modifyRun h fun run hended => ⟨hended.1, rfl, hended.2.2⟩, rfl⟩
  | exit code => exact ⟨settled_modifyRun h fun run hended => hended, rfl⟩
  | waited =>
    refine ⟨settled_modifyRun h fun run hended => ?_, rfl⟩
    have hdone : waited run = run := by simp [waited, hended]
    rwa [hdone]
  -- the run has been through its `finally` before
  | complete =>
    have hsame : complete s = s := by
      rw [complete]
      cases hrun : s.run with
      | none => rfl
      | some run =>
        dsimp only
        cases run.exitCode <;> simp [(h.ended run hrun).2.2]
    rw [step, hsame]
    exact ⟨h, rfl⟩
  | deliverCancel =>
    have hsame : deliverCancel s = s := by
      rw [deliverCancel]
      cases hrun : s.run with
      | none => rfl
      | some run => simp [(h.ended run hrun).2.2]
    rw [step, hsame]
    exact ⟨h, rfl⟩
  | terminate reason =>
    -- nothing is registered to be stopped
    have hcall : terminate reason s = { s with calls := s.calls ++ [⟨.noRun, 0⟩] } := by
      rw [terminate, h.registered]
    rw [step, hcall]
    exact ⟨⟨h.spawned, h.registered, h.ended⟩, rfl⟩
  | resume k => exact ⟨settled_resume h k, jobState_resume k⟩
  | timeout k => exact ⟨settled_timeout h k, jobState_timeout k⟩

end Steps

section Reachable

variable {s : SupervisorState}

/-- Where there is no run, only `spawn` makes one. -/
theorem fresh_step (py : Python) {event : Event} (hevent : ∀ launch, event ≠ .spawn launch)
    (hrun : s.run = none) (hregistered : s.registered = false) :
    (step py event s).run = none ∧ (step py event s).registered = false ∧
      (step py event s).spawned = s.spawned ∧ (step py event s).jobState = s.jobState := by
  cases event with
  | spawn launch => exact absurd rfl (hevent launch)
  | stdoutLine line => simp [step, stdoutLine, hrun, hregistered]
  | stderrLine line => simp [step, stderrLine, hrun, hregistered]
  | stdoutEnd => simp [step, modifyRun, hrun, hregistered, SupervisorState.jobState]
  | stderrEnd => simp [step, modifyRun, hrun, hregistered, SupervisorState.jobState]
  | exit code => simp [step, modifyRun, hrun, hregistered, SupervisorState.jobState]
  | waited => simp [step, modifyRun, hrun, hregistered, SupervisorState.jobState]
  | complete => simp [step, complete, hrun, hregistered]
  | deliverCancel => simp [step, deliverCancel, hrun, hregistered]
  | terminate reason => simp [step, terminate, hrun, hregistered, SupervisorState.jobState]
  | resume k =>
    have hwait : waitTask s = none := by simp [waitTask, hrun]
    refine ⟨?_, ?_, ?_, jobState_resume k⟩ <;> simp only [step, resume, hwait] <;> split <;>
      simp [hrun, hregistered]
  | timeout k =>
    have hwait : waitTask s = none := by simp [waitTask, hrun]
    have halive : ∀ s' : SupervisorState, s'.run = none → outlive k s' = s' := by
      intro s' hnone
      simp [outlive, alive, hnone]
    refine ⟨?_, ?_, ?_, jobState_timeout k⟩ <;> simp only [step, timeout, hwait] <;> split <;>
      simp [halive, continueAs, modifyRun, hrun, hregistered]

/-- The terminal write settles the job. -/
theorem settled_complete (hspawned : s.run ≠ none → s.spawned = true)
    (hterminal : (complete s).jobState.IsTerminal) (hnot : ¬ s.jobState.IsTerminal) :
    Settled (complete s) := by
  rw [complete] at hterminal ⊢
  cases hrun : s.run with
  | none =>
    rw [hrun] at hterminal
    exact absurd hterminal hnot
  | some run =>
    rw [hrun] at hterminal hspawned
    dsimp only at hterminal ⊢
    cases hcode : run.exitCode with
    | none =>
      rw [hcode] at hterminal
      exact absurd hterminal hnot
    | some code =>
      rw [hcode] at hterminal
      dsimp only at hterminal ⊢
      split_ifs at hterminal ⊢ with hready
      · refine ⟨hspawned (by simp), rfl, ?_⟩
        intro run' hrun'
        obtain rfl := Option.some.inj hrun'
        exact ⟨hready.2.2.1, hready.2.2.2, rfl⟩
      · exact absurd hterminal hnot

/-- A step that writes no terminal state and is no `spawn` keeps the invariant. -/
theorem inv_of_not_isTerminal (h : Inv s) {py : Python} {event : Event}
    (hevent : ∀ launch, event ≠ .spawn launch) (hspawned : (step py event s).spawned = s.spawned)
    (hnot : ¬ (step py event s).jobState.IsTerminal) : Inv (step py event s) where
  fresh := by
    intro hfresh
    obtain ⟨hrun, hregistered⟩ := h.fresh (hspawned ▸ hfresh)
    obtain ⟨hrun', hregistered', -⟩ := fresh_step py hevent hrun hregistered
    exact ⟨hrun', hregistered'⟩
  settled hterminal := absurd hterminal hnot

theorem inv_spawn (h : Inv s) (hspawned : s.spawned = false) (launch : Launch)
    (hnot : ¬ s.jobState.IsTerminal) : Inv (spawn launch s) := by
  obtain ⟨hrun, hregistered⟩ := h.fresh hspawned
  cases launch with
  | undefined => exact ⟨fun hfresh => (nomatch hfresh), fun hterminal => absurd hterminal hnot⟩
  | failed error =>
    refine ⟨fun hfresh => (nomatch hfresh), fun _ => ⟨rfl, hregistered, ?_⟩⟩
    intro run hmem
    exact absurd (hrun ▸ hmem : run ∈ none) (by simp)
  | launched controlFile =>
    have hrunning : ¬ JobState.running.IsTerminal := by decide
    exact ⟨fun hfresh => (nomatch hfresh), fun hterminal => absurd hterminal hrunning⟩

/-- Every step keeps the invariant. -/
theorem inv_step (py : Python) (h : Inv s) (event : Event) : Inv (step py event s) := by
  by_cases hterminal : s.jobState.IsTerminal
  · -- a settled job stays settled
    obtain ⟨hsettled, -⟩ := settled_step py event (h.settled hterminal)
    refine ⟨fun hfresh => ?_, fun _ => hsettled⟩
    rw [hsettled.spawned] at hfresh
    cases hfresh
  -- an event that moves neither the flag nor the state keeps the invariant
  have hkeep : ∀ event, (∀ launch, event ≠ Event.spawn launch) →
      (step py event s).spawned = s.spawned → (step py event s).jobState = s.jobState →
        Inv (step py event s) := by
    intro event hevent hspawned hstate
    exact inv_of_not_isTerminal h hevent hspawned (by rwa [hstate])
  cases event with
  | spawn launch =>
    rw [step]
    split_ifs with hspawned
    · exact h
    · exact inv_spawn h (by simpa using hspawned) launch hterminal
  | stdoutLine line =>
    apply inv_of_not_isTerminal h (by simp)
    · simp only [step, stdoutLine]
      split
      · rfl
      · split_ifs
        · split <;> rfl
        · rfl
    · exact not_isTerminal_of_lineMoves (lineMoves_stdoutLine py line) hterminal
  | stderrLine line =>
    apply inv_of_not_isTerminal h (by simp)
    · simp only [step, stderrLine]
      split
      · rfl
      · split_ifs <;> rfl
    · exact not_isTerminal_of_lineMoves (lineMoves_stderrLine py line) hterminal
  | stdoutEnd => exact hkeep _ (by simp) rfl rfl
  | stderrEnd => exact hkeep _ (by simp) rfl rfl
  | exit code => exact hkeep _ (by simp) rfl rfl
  | waited => exact hkeep _ (by simp) rfl rfl
  -- a completion that ends the job settles it
  | complete =>
    have hspawned : s.run ≠ none → s.spawned = true := by
      intro hrun
      by_contra hfresh
      exact hrun (h.fresh (by simpa using hfresh)).1
    refine ⟨fun hfresh => ?_, fun hend => settled_complete hspawned hend hterminal⟩
    have hsame : (step py .complete s).spawned = s.spawned := by
      simp only [step, complete]
      split
      · rfl
      · split
        · rfl
        · split_ifs <;> rfl
    obtain ⟨hrun, hregistered⟩ := h.fresh (hsame ▸ hfresh)
    have hcomplete : ∀ launch, Event.complete ≠ .spawn launch := by simp
    obtain ⟨hrun', hregistered', -⟩ := fresh_step py hcomplete hrun hregistered
    exact ⟨hrun', hregistered'⟩
  | deliverCancel =>
    apply hkeep _ (by simp)
    · simp only [step, deliverCancel]
      split
      · rfl
      · split_ifs <;> rfl
    · exact jobState_deliverCancel
  -- a stop only asks: `stopping` is not terminal
  | terminate reason =>
    apply inv_of_not_isTerminal h (by simp)
    · simp only [step, terminate]
      split <;> rfl
    · have hstopping : ¬ JobState.stopping.IsTerminal := by decide
      simp only [step, terminate]
      split
      · exact hstopping
      · exact hterminal
  | resume k =>
    apply hkeep _ (by simp)
    · simp only [step, resume]
      split
      next wait timedOut _ =>
        split
        · rfl
        · rfl
        · rfl
        · cases wait <;> rfl
      · rfl
    · exact jobState_resume k
  | timeout k =>
    apply hkeep _ (by simp)
    · simp only [step, timeout]
      split
      next wait _ =>
        split
        · cases wait <;> rfl
        · simp only [outlive]
          split <;> rfl
      · simp only [outlive]
        split <;> rfl
      · rfl
    · exact jobState_timeout k

/-- What is settled stays so along a run. -/
theorem settled_run (py : Python) (h : Settled s) (events : List Event) :
    (run (step py) events s).jobState = s.jobState := by
  induction events generalizing s with
  | nil => rfl
  | cons event events ih =>
    obtain ⟨hsettled, hstate⟩ := settled_step py event h
    rw [run_cons, ih hsettled, hstate]

theorem inv_runFrom (py : Python) (jobId jobType : String) (events : List Event) :
    Inv (runFrom py jobId jobType events) :=
  run_of_inv (fun _ event h (_ : True) => inv_step py h event) (inv_init jobId jobType)
    fun _ _ => trivial

end Reachable

/-- Once the store holds a terminal state for the job, no later step of the supervisor changes it,
in any interleaving of spawning, output, stops, timeouts and completion. -/
theorem terminal_states_final (py : Python) (jobId jobType : String) (events later : List Event)
    (hterminal : (runFrom py jobId jobType events).jobState.IsTerminal) :
    (runFrom py jobId jobType (events ++ later)).jobState =
      (runFrom py jobId jobType events).jobState := by
  have hsettled := (inv_runFrom py jobId jobType events).settled hterminal
  have happend : runFrom py jobId jobType (events ++ later) =
      run (step py) later (runFrom py jobId jobType events) := run_append
  rw [happend]
  exact settled_run py hsettled later

/-- A line, a stop and a timeout that come too late. -/
def lateEvents : List Event :=
  [.stdoutLine "progress", .terminate none, .timeout 0, .resume 0]

/-- Python as far as progress lines are concerned. -/
def progressPython : Python := .decoding fun _ => .value (.obj [("type", .str "progress")])

/-- A worker that ends well. -/
def completedEvents : List Event :=
  [.spawn (.launched true), .stdoutLine "progress", .exit 0, .waited, .stdoutEnd, .stderrEnd,
    .complete]

theorem completed_stays :
    (runFrom progressPython "job" "sample" (completedEvents ++ lateEvents)).jobState =
      .completed := by
  have hcompleted :
      (runFrom progressPython "job" "sample" completedEvents).jobState = .completed := by
    decide +kernel
  have hfinal := terminal_states_final progressPython "job" "sample" completedEvents lateEvents
    (Or.inl hcompleted)
  rw [hfinal, hcompleted]

end JobSupervisor

end Botik.AppService
