import Botik.AppService.OutputLines
import Botik.Library.Runs
import Botik.Library.Tasks

/-!
# The job supervisor

`JobSupervisor` runs one worker for a job. Four coroutines write the record of the job: `spawn`,
the consumers of the output, `terminate`, and the task that waits for the worker and records how it
ended. `terminate` waits for that task with timeouts that cancel it.

A step here is what runs between two points at which a coroutine can be suspended. Putting an event
into the queues of the subscribers is none: they are unbounded. The control file can be written.

## Main definitions

* `ManagedRun`, `TerminateCall`, `SupervisorState`
* `JobSupervisor.spawn`, `JobSupervisor.terminate`, `JobSupervisor.complete`
* `JobSupervisor.step` — one step of the supervisor, the worker or the clock
-/

namespace Botik.AppService

/-- The run of a job: its process, the consumers of the output and the task that waits for it. -/
structure ManagedRun where
  controlFile : Bool
  stopRequested : Bool
  terminationReason : Option String
  /-- The exit code, once the process has exited. -/
  exitCode : Option ℤ
  /-- `kill_tree` was called. -/
  killed : Bool
  /-- The consumers that are still reading. -/
  stdoutOpen : Bool
  stderrOpen : Bool
  /-- `process.wait` has returned, and the task gathers the consumers. -/
  gathering : Bool
  waitTask : TaskState
  deriving DecidableEq, Repr

/-- The `wait_for` calls of `terminate`: for the control file, for the stop, for the kill. -/
inductive TerminateWait
  | controlFile
  | stop
  | kill
  deriving DecidableEq, Repr

/-- Where a call of `terminate` is. -/
inductive TerminatePhase
  /-- It found no run and returned. -/
  | noRun
  | waiting (wait : TerminateWait) (timedOut : Bool)
  /-- It returned or raised. -/
  | ended
  deriving DecidableEq, Repr

/-- A call of `terminate`, and how many stop timeouts the process has outlived since. -/
structure TerminateCall where
  phase : TerminatePhase
  outlived : ℕ
  deriving DecidableEq, Repr

/-- The supervisor, as far as one job is concerned. -/
structure SupervisorState where
  output : JobOutput
  spawned : Bool
  run : Option ManagedRun
  /-- The run is in `_runs`. -/
  registered : Bool
  calls : List TerminateCall
  deriving DecidableEq, Repr

/-- The state of the job in the store. -/
def SupervisorState.jobState (s : SupervisorState) : JobState := s.output.details.state

namespace JobSupervisor

/-! ### Writing the record -/

/-- `store.update` and the job event of the updated record. -/
def record (details : JobDetails) (message : String) (output : JobOutput) : JobOutput where
  details := details
  published := output.published ++ [.job {
    jobId := details.jobId
    jobType := details.jobType
    state := details.state
    progress := details.progress
    message := some message }]

/-- A log event of the job. -/
def log (level message : String) (output : JobOutput) : JobOutput :=
  { output with published := output.published ++ [.log output.details.jobId level message] }

/-! ### Spawning -/

/-- What comes of launching the worker. -/
inductive Launch
  /-- The job defines no launcher. -/
  | undefined
  | failed (error : String)
  | launched (controlFile : Bool)
  deriving DecidableEq, Repr

/-- The run of a worker that was launched. -/
def newRun (controlFile : Bool) : ManagedRun where
  controlFile := controlFile
  stopRequested := false
  terminationReason := none
  exitCode := none
  killed := false
  stdoutOpen := true
  stderrOpen := true
  gathering := false
  waitTask := .pending false

/-- The record before the worker is launched. -/
def starting (output : JobOutput) : JobOutput :=
  record { output.details with state := .starting, progress := 0, exitCode := none, lastError := none }
    "Starting worker process." output

/-- `spawn`, which nothing suspends. The manager calls it once for a job. -/
def spawn (launch : Launch) (s : SupervisorState) : SupervisorState :=
  match launch with
  | .undefined => { s with spawned := true }
  | .failed error =>
    let before := starting s.output
    let after := record { before.details with
      state := .failed, exitCode := some (-1), lastError := some error } "Worker failed to start." before
    { s with
      spawned := true
      output := log "ERROR" ("Failed to start worker: " ++ error) after }
  | .launched controlFile =>
    let before := starting s.output
    let after := record { before.details with state := .running, progress := 0 }
      "Worker is running." before
    { s with
      spawned := true
      run := some (newRun controlFile)
      registered := true
      output := log "INFO" ("Started job " ++ before.details.jobType ++ ".") after }

/-! ### Output -/

/-- The consumer of stdout handles a line; if the handling raises, the consumer ends. -/
def stdoutLine (py : Python) (line : String) (s : SupervisorState) : SupervisorState :=
  match s.run with
  | none => s
  | some run =>
    if run.stdoutOpen then
      match handleWorkerLine py "INFO" (Text.strip line) s.output with
      | .ok _ output => { s with output }
      | .error _ output => { s with output, run := some { run with stdoutOpen := false } }
    else s

/-- The consumer of stderr handles a line. -/
def stderrLine (py : Python) (line : String) (s : SupervisorState) : SupervisorState :=
  match s.run with
  | none => s
  | some run =>
    if run.stderrOpen then
      { s with output := Program.after (handleWorkerLine py "ERROR" (Text.strip line)) s.output }
    else s

def modifyRun (f : ManagedRun → ManagedRun) (s : SupervisorState) : SupervisorState :=
  { s with run := s.run.map f }

/-! ### Completion -/

/-- The end of a job as the exit code tells it. -/
def exited (code : ℤ) (run : ManagedRun) (output : JobOutput) : JobOutput :=
  let current := output.details
  if run.stopRequested then
    log "WARNING" ("Job stopped with exit code " ++ toString code ++ ".")
      (record { current with
        state := .cancelled, exitCode := some code, lastError := run.terminationReason }
        "Job stopped." output)
  else if code = 0 then
    log "INFO" "Job completed successfully."
      (record { current with
        state := .completed, progress := max current.progress 1, exitCode := some code,
        lastError := none } "Job completed." output)
  else
    let error := "Process exited with code " ++ toString code
    log "ERROR" error
      (record { current with state := .failed, exitCode := some code, lastError := some error }
        "Job failed." output)

/-- The process has exited and both consumers have ended. -/
def Gathered (run : ManagedRun) : Prop :=
  run.gathering = true ∧ run.stdoutOpen = false ∧ run.stderrOpen = false

instance (run : ManagedRun) : Decidable (Gathered run) := inferInstanceAs (Decidable (_ ∧ _))

/-- `_wait_for_completion` from the end of the `gather` on. -/
def complete (s : SupervisorState) : SupervisorState :=
  match s.run with
  | none => s
  | some run =>
    match run.exitCode with
    | none => s
    | some code =>
      if run.waitTask = .pending false ∧ Gathered run then
        { s with
          output := exited code run s.output
          run := some { run with waitTask := .finished false }
          registered := false }
      else s

/-- `process.wait` returns, if the process has exited. -/
def waited (run : ManagedRun) : ManagedRun :=
  if run.exitCode.isSome ∧ run.waitTask = .pending false then { run with gathering := true } else run

/-- The task is asked to cancel itself; while it gathers it hands that on to the consumers. -/
def requestCancel (run : ManagedRun) : ManagedRun :=
  { run with
    waitTask := run.waitTask.requestCancel
    stdoutOpen := run.stdoutOpen && !run.gathering
    stderrOpen := run.stderrOpen && !run.gathering }

/-- The task cancels itself: its `finally` block takes the run out of `_runs`. -/
def deliverCancel (s : SupervisorState) : SupervisorState :=
  match s.run with
  | none => s
  | some run =>
    if run.waitTask = .pending true then
      { s with run := some { run with waitTask := .finished true }, registered := false }
    else s

/-! ### Terminating -/

/-- `terminate`, as far as it runs at once. -/
def terminate (reason : Option String) (s : SupervisorState) : SupervisorState :=
  match s.registered, s.run with
  | true, some run =>
    let stopping := record { s.output.details with state := .stopping } "Stop requested." s.output
    let shown := (Text.truthy reason).getD "user-request"
    let wait := if run.controlFile then TerminateWait.controlFile else TerminateWait.stop
    { s with
      output := log "WARNING"
        ("Stop requested for " ++ stopping.details.jobType ++ ": " ++ shown) stopping
      run := some { run with stopRequested := true, terminationReason := reason }
      calls := s.calls ++ [⟨.waiting wait false, 0⟩] }
  | _, _ => { s with calls := s.calls ++ [⟨.noRun, 0⟩] }

/-- A call goes on. -/
def continueAs (k : ℕ) (phase : TerminatePhase) (s : SupervisorState) : SupervisorState :=
  { s with calls := s.calls.modify k fun call => { call with phase } }

/-- What comes after a timeout: the stop, then the kill, then the exception. -/
def afterTimeout (k : ℕ) (wait : TerminateWait) (s : SupervisorState) : SupervisorState :=
  match wait with
  | .controlFile => continueAs k (.waiting .stop false) s
  | .stop => continueAs k (.waiting .kill false) (modifyRun (fun run => { run with killed := true }) s)
  | .kill => continueAs k .ended s

/-- The task of the run. -/
def waitTask (s : SupervisorState) : Option TaskState := s.run.map ManagedRun.waitTask

/-- A call goes on, if the task it waits for has ended. -/
def resume (k : ℕ) (s : SupervisorState) : SupervisorState :=
  match s.calls[k]?.map TerminateCall.phase with
  | some (.waiting wait timedOut) =>
    match (waitTask s).bind (TaskState.waitResult timedOut) with
    | none => s
    | some .returned | some .cancelledError => continueAs k .ended s
    | some .timeoutError => afterTimeout k wait s
  | _ => s

/-- The process is alive. -/
def alive (s : SupervisorState) : Bool := s.run.any fun run => run.exitCode.isNone

/-- Another stop timeout passes for a call that found a run. -/
def outlive (k : ℕ) (s : SupervisorState) : SupervisorState :=
  if alive s then
    { s with calls := s.calls.modify k fun call => { call with outlived := call.outlived + 1 } }
  else s

/-- The time of a stop timeout passes. Where the call waits it cancels the task, unless the task has
ended. -/
def timeout (k : ℕ) (s : SupervisorState) : SupervisorState :=
  match s.calls[k]?.map TerminateCall.phase with
  | some (.waiting wait false) =>
    match waitTask s with
    | some (.finished _) => afterTimeout k wait s
    | _ => outlive k (continueAs k (.waiting wait true) (modifyRun requestCancel s))
  | some .ended => outlive k s
  | _ => s

/-! ### Steps -/

/-- What can happen next. -/
inductive Event
  | spawn (launch : Launch)
  | stdoutLine (line : String)
  | stderrLine (line : String)
  | stdoutEnd
  | stderrEnd
  /-- The process exits. -/
  | exit (code : ℤ)
  | waited
  | complete
  | deliverCancel
  | terminate (reason : Option String)
  | resume (k : ℕ)
  | timeout (k : ℕ)
  deriving DecidableEq, Repr

/-- One step; what cannot happen changes nothing. -/
def step (py : Python) : Event → SupervisorState → SupervisorState
  | .spawn launch, s => if s.spawned then s else spawn launch s
  | .stdoutLine line, s => stdoutLine py line s
  | .stderrLine line, s => stderrLine py line s
  | .stdoutEnd, s => modifyRun (fun run => { run with stdoutOpen := false }) s
  | .stderrEnd, s => modifyRun (fun run => { run with stderrOpen := false }) s
  | .exit code, s => modifyRun (fun run => { run with exitCode := run.exitCode.or (some code) }) s
  | .waited, s => modifyRun waited s
  | .complete, s => complete s
  | .deliverCancel, s => deliverCancel s
  | .terminate reason, s => terminate reason s
  | .resume k, s => resume k s
  | .timeout k, s => timeout k s

/-- The supervisor when the manager has just created the record of a job. -/
def init (jobId jobType : String) : SupervisorState where
  output := ⟨⟨jobId, jobType, .queued, 0, none, none⟩, []⟩
  spawned := false
  run := none
  registered := false
  calls := []

/-- The state after some steps. -/
def runFrom (py : Python) (jobId jobType : String) (events : List Event) : SupervisorState :=
  Runs.run (step py) events (init jobId jobType)

end JobSupervisor

end Botik.AppService
