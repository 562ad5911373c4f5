import Botik.Library.Dict
import Botik.Library.Tasks

/-!
# The runtime control

`RuntimeControlService` starts one process for each runtime and keeps it in `_runs`. A task waits
for the process and then takes the entry out, in a `finally` block. `stop` waits for that task, up
to three times, with a timeout that cancels it.

A step here is what runs between two points at which a coroutine can be suspended. A process starts
when it is asked to, and the control file can be written.

## Main definitions

* `RuntimeState` — the processes, the registry and the coroutines under way
* `RuntimeControl.start`, `RuntimeControl.stop`, `RuntimeControl.shutdown`
* `RuntimeControl.step` — one step of the service or of a process
* `RuntimeControl.observations`
-/

namespace Botik.AppService

/-- `RuntimeId`. -/
inductive RuntimeId
  | spot
  | futures
  deriving DecidableEq, Repr

/-- A process that was launched, and the task that waits for it. -/
structure ManagedRuntime where
  runtimeId : RuntimeId
  alive : Bool
  waitTask : TaskState
  deriving DecidableEq, Repr

/-- The `wait_for` calls of `stop`: after the control file, after `terminate`, after the kill. -/
inductive Attempt
  | first
  | second
  | third
  deriving DecidableEq, Repr

/-- A call that is suspended. -/
inductive Coroutine
  /-- `start`, in the `_finalize_run` of the process it found dead. -/
  | starting (runtimeId : RuntimeId)
  /-- `stop`, waiting; in `shutdown` with the runtimes still to stop. -/
  | stopping (run : ℕ) (attempt : Attempt) (timedOut : Bool) (rest : Option (List RuntimeId))
  /-- The last loop of `shutdown`, with the runs still to finalize. -/
  | finalizing (rest : List ℕ)
  | ended
  deriving DecidableEq, Repr

/-- The service. The runs are numbered as they are launched. -/
structure RuntimeState where
  launched : List ManagedRuntime
  /-- `_runs`. -/
  runs : Dict RuntimeId ℕ
  coroutines : List Coroutine

namespace RuntimeControl

/-- `poll(process) is None`. -/
def alive (s : RuntimeState) (n : ℕ) : Bool := s.launched[n]?.any ManagedRuntime.alive

/-- The task of a run. -/
def waitTask (s : RuntimeState) (n : ℕ) : Option TaskState :=
  s.launched[n]?.map ManagedRuntime.waitTask

def modifyRun (n : ℕ) (f : ManagedRuntime → ManagedRuntime) (s : RuntimeState) : RuntimeState :=
  { s with launched := s.launched.modify n f }

/-- A coroutine goes on as another one. -/
def continueAs (k : ℕ) (next : Coroutine × RuntimeState) : RuntimeState :=
  { next.2 with coroutines := next.2.coroutines.set k next.1 }

/-- A call is suspended for the first time. -/
def suspend (c : Coroutine) (s : RuntimeState) : RuntimeState :=
  { s with coroutines := s.coroutines ++ [c] }

/-- `_finalize_run` up to its `sleep`: whatever is registered for the runtime is taken out. -/
def finalizeRun (n : ℕ) (s : RuntimeState) : RuntimeState :=
  match s.launched[n]? with
  | some run => { s with runs := s.runs.erase run.runtimeId }
  | none => s

/-- Launch a process and register it. -/
def launch (runtimeId : RuntimeId) (s : RuntimeState) : RuntimeState :=
  { s with
    launched := s.launched ++ [⟨runtimeId, true, .pending false⟩]
    runs := s.runs.set runtimeId s.launched.length }

/-- `start`, as far as it runs at once. -/
def start (runtimeId : RuntimeId) (s : RuntimeState) : RuntimeState :=
  match s.runs.get? runtimeId with
  | none => launch runtimeId s
  | some n => if alive s n then s else suspend (.starting runtimeId) (finalizeRun n s)

/-- `stop`, as far as it runs at once. -/
def stop (runtimeId : RuntimeId) (s : RuntimeState) : RuntimeState :=
  match s.runs.get? runtimeId with
  | none => s
  | some n => suspend (.stopping n .first false none) s

/-- The last loop of `shutdown`. -/
def finalizeFrom : List ℕ → RuntimeState → Coroutine × RuntimeState
  | [], s => (.ended, s)
  | n :: ns, s => (.finalizing ns, finalizeRun n s)

/-- The first loop of `shutdown`, and then the last one over what is registered still. -/
def shutdownFrom : List RuntimeId → RuntimeState → Coroutine × RuntimeState
  | [], s => finalizeFrom (s.runs.entries.map Prod.snd) s
  | runtimeId :: rest, s =>
    match s.runs.get? runtimeId with
    | none => shutdownFrom rest s
    | some n => (.stopping n .first false (some rest), s)

/-- `shutdown`, as far as it runs at once. -/
def shutdown (s : RuntimeState) : RuntimeState :=
  let next := shutdownFrom s.runs.keys s
  suspend next.1 next.2

/-- What comes after a `stop` that returned, or raised what `shutdown` suppresses. -/
def afterStop (rest : Option (List RuntimeId)) (s : RuntimeState) : Coroutine × RuntimeState :=
  match rest with
  | none => (.ended, s)
  | some ids => shutdownFrom ids s

/-- What comes after a timeout: `terminate`, then the kill, then the exception. -/
def afterTimeout (n : ℕ) (attempt : Attempt) (rest : Option (List RuntimeId)) (s : RuntimeState) :
    Coroutine × RuntimeState :=
  match attempt with
  | .first => (.stopping n .second false rest, s)
  | .second => (.stopping n .third false rest, s)
  | .third => afterStop rest s

/-- A coroutine goes on, if what it waits for has come. A cancellation is no `Exception`, so that
`shutdown` does not suppress it. -/
def resume (k : ℕ) (s : RuntimeState) : RuntimeState :=
  match s.coroutines[k]? with
  | some (.starting runtimeId) => continueAs k (.ended, launch runtimeId s)
  | some (.finalizing ns) => continueAs k (finalizeFrom ns s)
  | some (.stopping n attempt timedOut rest) =>
    match (waitTask s n).bind (TaskState.waitResult timedOut) with
    | none => s
    | some .returned => continueAs k (afterStop rest s)
    | some .cancelledError => continueAs k (.ended, s)
    | some .timeoutError => continueAs k (afterTimeout n attempt rest s)
  | some .ended | none => s

/-- The time of a `wait_for` is over: it cancels the task, unless the task has ended. -/
def timeout (k : ℕ) (s : RuntimeState) : RuntimeState :=
  match s.coroutines[k]? with
  | some (.stopping n attempt false rest) =>
    match waitTask s n with
    | some (.finished _) => continueAs k (afterTimeout n attempt rest s)
    | _ => continueAs k (.stopping n attempt true rest,
        modifyRun n (fun run => { run with waitTask := run.waitTask.requestCancel }) s)
  | _ => s

/-- The task goes into its `finally` block, which finalizes the run. -/
def enterFinally (n : ℕ) (cancelled : Bool) (s : RuntimeState) : RuntimeState :=
  modifyRun n (fun run => { run with waitTask := .finalizing cancelled }) (finalizeRun n s)

/-- What can happen next. -/
inductive Event
  | start (runtimeId : RuntimeId)
  | stop (runtimeId : RuntimeId)
  | shutdown
  | resume (k : ℕ)
  | timeout (k : ℕ)
  /-- A process exits. -/
  | exit (n : ℕ)
  /-- The process has exited and its output has ended, so that the task comes to its end. -/
  | complete (n : ℕ)
  /-- A task that was asked to cancel itself does. -/
  | deliverCancel (n : ℕ)
  /-- The `sleep` of the `finally` block is over. -/
  | finish (n : ℕ)
  deriving DecidableEq, Repr

/-- One step; what cannot happen changes nothing. -/
def step : Event → RuntimeState → RuntimeState
  | .start runtimeId, s => start runtimeId s
  | .stop runtimeId, s => stop runtimeId s
  | .shutdown, s => shutdown s
  | .resume k, s => resume k s
  | .timeout k, s => timeout k s
  | .exit n, s => modifyRun n (fun run => { run with alive := false }) s
  | .complete n, s =>
    if waitTask s n = some (.pending false) ∧ alive s n = false then enterFinally n false s else s
  | .deliverCancel n, s =>
    if waitTask s n = some (.pending true) then enterFinally n true s else s
  | .finish n, s =>
    match waitTask s n with
    | some (.finalizing cancelled) =>
      modifyRun n (fun run => { run with waitTask := .finished cancelled }) s
    | _ => s

/-- `observations`: the registered runs whose processes are alive. -/
def observations (s : RuntimeState) : List (RuntimeId × ℕ) :=
  s.runs.entries.filter fun e => alive s e.2

/-- The service before its first call. -/
def init : RuntimeState where
  launched := []
  runs := .empty
  coroutines := []

end RuntimeControl

end Botik.AppService
