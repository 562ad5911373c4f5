import Botik.Library.Json
import Botik.Library.Program

/-!
# The consumers of child output

Three tasks of the app service read text that other processes write, line by line: the job
supervisor reads the output of a worker, the runtime control that of a runtime, and the tail of
the desktop events a file. Each decodes a line as JSON and takes text that is no JSON as it is;
after that it reads the fields of an object.

What Python's library and pydantic do with a text or a value is a parameter, `Python`. An escape of
a lone surrogate is no character here.

## Main definitions

* `Python` — `json.loads`, the conversions of texts, `datetime`, and what a validated field takes
* `JobDetails`, `JobEvent`, `JobOutput`
* `JobSupervisor.handleWorkerLine`, `RuntimeControl.handleLine`, `DesktopTail.parseLine`
* `JobSupervisor.consumeStream`, `RuntimeControl.consumeStream`, `DesktopTail.run`
-/

namespace Botik.AppService

open Program

/-- A date and time in microseconds since the year 1, with its offset from UTC. -/
structure PyDatetime where
  clock : ℤ
  offset : Option ℤ
  deriving DecidableEq, Repr

/-- The microseconds of the years 1 to 9999. -/
def PyDatetime.supported : ℤ := 3652059 * 86400 * 10 ^ 6

/-- `astimezone(UTC)`, for a time with an offset. -/
def PyDatetime.toUtc (clock offset : ℤ) : Except PyError PyDatetime :=
  if 0 ≤ clock - offset ∧ clock - offset < PyDatetime.supported then
    .ok ⟨clock - offset, some 0⟩
  else .error .overflowError

/-- The functions that the consumers call of the standard library and of pydantic. -/
structure Python where
  loads : String → Loaded Json
  /-- `str(value)`. -/
  str : Json → String
  /-- `text.upper()`. -/
  upper : String → String
  /-- `float(text)`, which raises `ValueError` or returns. -/
  float : String → Option PyFloat
  /-- `int(text)`, which raises `ValueError` or returns. -/
  int : String → Option ℤ
  /-- What a field `str | None` of a model takes a value for; else it raises `ValidationError`. -/
  optionalText : Json → Option (Option String)
  /-- `datetime.fromisoformat`, which raises `ValueError` or returns. -/
  fromisoformat : String → Option PyDatetime
  /-- `datetime.fromtimestamp(seconds, tz=timezone.utc)`. -/
  fromtimestamp : PyFloat → Except PyError PyDatetime

namespace Python

/-- `float(value)`. -/
def toFloat (py : Python) : Json → Except PyError PyFloat
  | .str s => (py.float s).elim (.error .valueError) .ok
  | value => value.toFloat

/-- `int(value)`. -/
def toInt (py : Python) : Json → Except PyError ℤ
  | .str s => (py.int s).elim (.error .valueError) .ok
  | value => value.toInt

/-- Python as far as the decoding of some texts is concerned: the digits and letters of a text are
ASCII, and no text is a time. -/
def decoding (loads : String → Loaded Json) : Python where
  loads := loads
  str := fun _ => ""
  upper := Text.upper
  float := Text.pyFloat?
  int := Text.pyInt?
  optionalText
    | .null => some none
    | .str s => some (some s)
    | _ => none
  fromisoformat := fun _ => none
  fromtimestamp := fun _ => .error .valueError

end Python

/-- `payload.get`: an object has the method, other values have not. -/
def fieldsOf : Json → Except PyError (List (String × Json))
  | .obj fields => .ok fields
  | _ => .error .attributeError

/-! ### The output of a worker -/

/-- `JobState`. -/
inductive JobState
  | queued
  | starting
  | running
  | stopping
  | completed
  | failed
  | cancelled
  | orphaned
  deriving DecidableEq, Repr

/-- A record of the job store. -/
structure JobDetails where
  jobId : String
  jobType : String
  state : JobState
  progress : ℚ
  exitCode : Option ℤ
  lastError : Option String
  deriving DecidableEq, Repr

/-- An event of a job. -/
structure JobEvent where
  jobId : String
  jobType : String
  state : JobState
  progress : ℚ
  message : Option String := none
  phase : Option String := none
  symbol : Option String := none
  category : Option String := none
  interval : Option String := none
  completedUnits : Option ℤ := none
  totalUnits : Option ℤ := none
  rowsWritten : Option ℤ := none
  deriving DecidableEq, Repr

/-- What the publisher is given. -/
inductive Published
  | job (event : JobEvent)
  | log (jobId level message : String)
  deriving DecidableEq, Repr

/-- The record of the job of a worker, and what was published. -/
structure JobOutput where
  details : JobDetails
  published : List Published
  deriving DecidableEq, Repr

namespace JobSupervisor

/-- `publish_job_event`, `publish_log_event`. -/
def publish (p : Published) : EStateM PyError JobOutput Unit :=
  modify fun s => { s with published := s.published ++ [p] }

/-- `max(0.0, min(x, 1.0))`; the comparisons are false of `nan`. -/
def clampProgress : PyFloat → ℚ
  | .finite q => max 0 (min q 1)
  | .infinity negative => if negative then 0 else 1
  | .nan => 0

/-- A field of the event that is validated as text or none; a missing one is none. A
`ValidationError` is a `ValueError`. -/
def textField (py : Python) (fields : List (String × Json)) (name : String) :
    Except PyError (Option String) :=
  (py.optionalText ((Json.field? fields name).getD .null)).elim (.error .valueError) .ok

/-- A field that `int` converts, if it is there. -/
def unitField (py : Python) (fields : List (String × Json)) (name : String) :
    Except PyError (Option ℤ) :=
  match Json.field? fields name with
  | none | some .null => .ok none
  | some value => (py.toInt value).map some

/-- `float(payload.get("progress", 0.0))`. -/
def progressField (py : Python) (fields : List (String × Json)) : Except PyError PyFloat :=
  match Json.field? fields "progress" with
  | none => .ok (.finite 0)
  | some value => py.toFloat value

/-- `next_state` of a progress line. -/
def nextState (current : JobState) : JobState :=
  if current = .stopping then .stopping else .running

/-- The event of a progress line: the conversions of the units come before the fields that are
validated. -/
def progressEvent (py : Python) (fields : List (String × Json)) (updated : JobDetails) :
    Except PyError JobEvent := do
  let completedUnits ← unitField py fields "completed_units"
  let totalUnits ← unitField py fields "total_units"
  let rowsWritten ← unitField py fields "rows_written"
  let message ← textField py fields "message"
  let phase ← textField py fields "phase"
  let symbol ← textField py fields "symbol"
  let category ← textField py fields "category"
  let interval ← textField py fields "interval"
  return {
    jobId := updated.jobId
    jobType := updated.jobType
    state := updated.state
    progress := updated.progress
    message, phase, symbol, category, interval, completedUnits, totalUnits, rowsWritten }

/-- A progress line: the record is updated before the event is built. -/
def handleProgress (py : Python) (fields : List (String × Json)) :
    EStateM PyError JobOutput Unit := do
  let progress ← fromExcept (progressField py fields)
  let s ← get
  let updated := { s.details with
    progress := clampProgress progress
    state := nextState s.details.state }
  modify fun s => { s with details := updated }
  let event ← fromExcept (progressEvent py fields updated)
  publish (.job event)

/-- The text of a field, or what stands in for it. -/
def strField (py : Python) (fields : List (String × Json)) (name default : String) : String :=
  ((Json.field? fields name).map py.str).getD default

/-- The field is this text. -/
def isText (value : Option Json) (text : String) : Bool :=
  match value with
  | some (.str s) => s = text
  | _ => false

/-- The branches over the `type` of an object. -/
def handleFields (py : Python) (level line : String) (fields : List (String × Json)) :
    EStateM PyError JobOutput Unit := do
  let s ← get
  let payloadType := Json.field? fields "type"
  if isText payloadType "progress" then handleProgress py fields
  else if isText payloadType "log" then
    publish (.log s.details.jobId (py.upper (strField py fields "level" level))
      (strField py fields "message" ""))
  else publish (.log s.details.jobId level line)

/-- `_handle_worker_line`. -/
def handleWorkerLine (py : Python) (level line : String) : EStateM PyError JobOutput Unit := do
  let s ← get
  if line = "" then return
  if level = "ERROR" then publish (.log s.details.jobId level line)
  else
    match py.loads line with
    | .malformed => publish (.log s.details.jobId level line)
    | .raised e => throw e
    | .value payload => do
      let fields ← fromExcept (fieldsOf payload)
      handleFields py level line fields

/-- `_consume_stream`, over the lines up to the end of the stream. -/
def consumeStream (py : Python) (level : String) (lines : List String) :
    EStateM PyError JobOutput Unit :=
  each (fun line => handleWorkerLine py level (Text.strip line)) lines

end JobSupervisor

/-! ### The output of a runtime -/

/-- What the runtime control remembers of the output of a runtime. -/
structure RuntimeActivity where
  lastHeartbeatAt : Option PyDatetime
  lastError : Option String
  lastErrorAt : Option PyDatetime
  deriving DecidableEq, Repr

namespace RuntimeControl

/-- `_parse_timestamp` of a value of the object. -/
def parseTimestamp (py : Python) : Option Json → Except PyError (Option PyDatetime)
  | none | some .null => .ok none
  | some raw =>
    let value := py.str raw
    if value.endsWith "Z" then .ok (py.fromisoformat (value.replace "Z" "+00:00"))
    else
      match py.fromisoformat value with
      | none => .ok none
      | some parsed =>
        match parsed.offset with
        | none => .ok (some ⟨parsed.clock, some 0⟩)
        | some offset => (PyDatetime.toUtc parsed.clock offset).map some

/-- The branches over the `type` of an object. -/
def handleFields (py : Python) (now : PyDatetime) (level : String)
    (fields : List (String × Json)) : EStateM PyError RuntimeActivity Unit := do
  let payloadType := Json.field? fields "type"
  if JobSupervisor.isText payloadType "heartbeat" then do
    let time ← fromExcept (parseTimestamp py (Json.field? fields "timestamp"))
    modify fun s => { s with lastHeartbeatAt := some (time.getD now) }
  else if JobSupervisor.isText payloadType "log" then do
    let message := JobSupervisor.strField py fields "message" ""
    let payloadLevel := py.upper (JobSupervisor.strField py fields "level" level)
    if payloadLevel = "ERROR" ∨ payloadLevel = "WARNING" then do
      modify fun s => { s with lastError := some message }
      let time ← fromExcept (parseTimestamp py (Json.field? fields "timestamp"))
      modify fun s => { s with lastErrorAt := some (time.getD now) }
    else return

/-- `_handle_line`, at a time. -/
def handleLine (py : Python) (level : String) (now : PyDatetime) (line : String) :
    EStateM PyError RuntimeActivity Unit := do
  if line = "" then return
  if level = "ERROR" then
    modify fun s => { s with lastError := some line, lastErrorAt := some now }
  else
    match py.loads line with
    | .malformed => return
    | .raised e => throw e
    | .value payload => do
      let fields ← fromExcept (fieldsOf payload)
      handleFields py now level fields

/-- `_consume_stream`, over the lines with the times at which they are read. -/
def consumeStream (py : Python) (level : String) (lines : List (PyDatetime × String)) :
    EStateM PyError RuntimeActivity Unit :=
  each (fun line => handleLine py level line.1 (Text.strip line.2)) lines

end RuntimeControl

/-! ### The desktop events -/

/-- An entry of the log of the app. -/
structure LogEntry where
  timestamp : PyDatetime
  channel : String
  level : String
  message : String
  source : String
  deriving DecidableEq, Repr

namespace DesktopTail

/-- `datetime.fromtimestamp(timestamp_raw / 1000, tz=timezone.utc)`, if the field is a number. A
boolean is an integer. -/
def timestampOf (py : Python) (now : PyDatetime) : Option Json → Except PyError PyDatetime
  | some (.bool b) => py.fromtimestamp (.finite (if b then 1 / 1000 else 0))
  | some (.int n) =>
    if |(n : ℚ) / 1000| < PyFloat.overflow then py.fromtimestamp (.finite (n / 1000))
    else .error .overflowError
  | some (.float (.finite q)) => py.fromtimestamp (.finite (q / 1000))
  | some (.float x) => py.fromtimestamp x
  | _ => .ok now

/-- `payload.get("payload") or {}`. -/
def eventPayload (fields : List (String × Json)) : Json :=
  match Json.field? fields "payload" with
  | some value => if value.truthy then value else .obj []
  | none => .obj []

/-- The level of an event. -/
def levelOf (kind : String) : String :=
  if kind ∈ ["kill_fallback_completed"] then "ERROR"
  else if kind ∈ ["shutdown_timeout", "shutdown_wait_error", "shutdown_request_failed"] then
    "WARNING"
  else "INFO"

/-- `target or default`, as text. -/
def targetText (py : Python) (target : Option Json) (default : String) : String :=
  match target with
  | some value => if value.truthy then py.str value else default
  | none => default

/-- The message of an event. -/
def messageOf (py : Python) (kind : String) (event : List (String × Json)) : String :=
  let target := Json.field? event "target"
  let field name := ((Json.field? event name).map py.str).getD "unknown"
  if kind = "spawn_requested" then
    "spawn requested for " ++ targetText py target "desktop component"
  else if kind = "spawned" then "spawned " ++ targetText py target "desktop component"
  else if kind = "ready" then "ready: " ++ targetText py target "desktop shell"
  else if kind = "shutdown_requested" then "shutdown requested"
  else if kind = "shutdown_completed" then "shutdown completed"
  else if kind = "shutdown_timeout" then "shutdown timed out"
  else if kind = "kill_fallback_completed" then "kill fallback completed"
  else if kind = "process_killed" then "process killed: " ++ field "pid"
  else if kind = "port_cleanup" then "port cleanup: " ++ field "port"
  else kind

/-- The entry of an object. -/
def entryOf (py : Python) (now : PyDatetime) (fields : List (String × Json)) :
    Except PyError LogEntry := do
  let kind := JobSupervisor.strField py fields "kind" "desktop-event"
  let timestamp ← timestampOf py now (Json.field? fields "timestamp")
  let event ← fieldsOf (eventPayload fields)
  return {
    timestamp
    channel := "desktop"
    level := levelOf kind
    message := messageOf py kind event
    source := "desktop-shell" }

/-- `_parse_desktop_event_line`, at a time. -/
def parseLine (py : Python) (now : PyDatetime) (line : String) :
    Except PyError (Option LogEntry) :=
  let stripped := Text.strip line
  if stripped = "" then .ok none
  else
    match py.loads stripped with
    | .malformed => .ok (some ⟨now, "desktop", "INFO", stripped, "desktop-shell"⟩)
    | .raised e => .error e
    | .value payload => do
      let fields ← fieldsOf payload
      return some (← entryOf py now fields)

/-- The loop of the tail over the lines it reads: an entry is published. -/
def run (py : Python) (lines : List (PyDatetime × String)) :
    EStateM PyError (List LogEntry) Unit :=
  each (fun line => do
    let parsed ← fromExcept (parseLine py line.1 line.2)
    modify fun entries => entries ++ parsed.toList) lines

end DesktopTail

end Botik.AppService
