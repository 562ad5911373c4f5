import Botik.AppService.OutputLines

/-!
# What output the consumers survive

A consumer that raises ends, and the lines after the one it raised at are never read. Each of the
three guards the decoding alone.

## Main definitions

* `JobSupervisor.Readable`, `RuntimeControl.Readable`, `DesktopTail.Readable` — the lines a
  consumer can handle

## Main results

* `returns_handleWorkerLine_iff`, `returns_handleLine_iff`, `isOk_parseLine_iff`
* `consumers_survive_iff` — a consumer reads a whole stream exactly if every line is readable
-/

namespace Botik.AppService

open Program

theorem isOk_bind_iff {α β : Type} {r : Except PyError α} {g : α → Except PyError β} :
    (r >>= g).isOk ↔ ∃ a, r = .ok a ∧ (g a).isOk := by
  cases r with
  | ok a => simp [bind, Except.bind]
  | error e => simp [bind, Except.bind, Except.isOk, Except.toBool]

theorem isOk_iff {α : Type} {r : Except PyError α} : r.isOk ↔ ∃ a, r = .ok a := by
  cases r <;> simp [Except.isOk, Except.toBool]

/-- An object, and not another value. -/
theorem fieldsOf_eq_ok_iff {payload : Json} {fields : List (String × Json)} :
    fieldsOf payload = .ok fields ↔ payload = .obj fields := by
  cases payload <;> simp [fieldsOf]

/-- What a line is decoded to meets a condition; what `json.loads` takes for no JSON is fine, and an
object has to meet it. -/
def DecodesTo (py : Python) (P : List (String × Json) → Prop) (line : String) : Prop :=
  py.loads line = .malformed ∨ ∃ fields, py.loads line = .value (.obj fields) ∧ P fields

/-! ### The supervisor -/

namespace JobSupervisor

/-- The fields of the event that are numbers of units. -/
def unitNames : List String := ["completed_units", "total_units", "rows_written"]

/-- The fields of the event that are text. -/
def textNames : List String := ["message", "phase", "symbol", "category", "interval"]

/-- A progress line whose fields convert. -/
structure ProgressReadable (py : Python) (fields : List (String × Json)) : Prop where
  progress : (progressField py fields).isOk
  units : ∀ name ∈ unitNames, (unitField py fields name).isOk
  texts : ∀ name ∈ textNames, (textField py fields name).isOk

/-- A line, stripped, that the supervisor can handle. -/
def Readable (py : Python) (level line : String) : Prop :=
  line = "" ∨ level = "ERROR" ∨
    DecodesTo py (fun fields =>
      isText (Json.field? fields "type") "progress" → ProgressReadable py fields) line

theorem isOk_progressEvent_iff {py : Python} {fields : List (String × Json)} {updated : JobDetails} :
    (progressEvent py fields updated).isOk ↔
      (∀ name ∈ unitNames, (unitField py fields name).isOk) ∧
        ∀ name ∈ textNames, (textField py fields name).isOk := by
  unfold progressEvent unitNames textNames
  simp only [isOk_bind_iff]
  simp only [isOk_iff, List.forall_mem_cons, List.not_mem_nil, false_implies, implies_true,
    and_true]
  constructor
  · rintro ⟨c, hc, t, ht, r, hr, m, hm, p, hp, s, hs, g, hg, i, hi, -⟩
    exact ⟨⟨⟨c, hc⟩, ⟨t, ht⟩, r, hr⟩, ⟨m, hm⟩, ⟨p, hp⟩, ⟨s, hs⟩, ⟨g, hg⟩, i, hi⟩
  · rintro ⟨⟨⟨c, hc⟩, ⟨t, ht⟩, r, hr⟩, ⟨m, hm⟩, ⟨p, hp⟩, ⟨s, hs⟩, ⟨g, hg⟩, i, hi⟩
    exact ⟨c, hc, t, ht, r, hr, m, hm, p, hp, s, hs, g, hg, i, hi, _, rfl⟩

theorem returns_handleProgress_iff {py : Python} {fields : List (String × Json)} {s : JobOutput} :
    Returns (handleProgress py fields) s ↔ ProgressReadable py fields := by
  unfold handleProgress publish
  simp only [returns_fromExcept_bind, returns_get_bind, returns_modify_bind, returns_modify,
    and_true]
  constructor
  · rintro ⟨progress, hprogress, event, hevent⟩
    obtain ⟨hunits, htexts⟩ := isOk_progressEvent_iff.mp (isOk_iff.mpr ⟨event, hevent⟩)
    exact ⟨isOk_iff.mpr ⟨progress, hprogress⟩, hunits, htexts⟩
  · intro h
    obtain ⟨progress, hprogress⟩ := isOk_iff.mp h.progress
    exact ⟨progress, hprogress, isOk_iff.mp (isOk_progressEvent_iff.mpr ⟨h.units, h.texts⟩)⟩

theorem returns_handleFields_iff {py : Python} {level line : String}
    {fields : List (String × Json)} {s : JobOutput} :
    Returns (handleFields py level line fields) s ↔
      (isText (Json.field? fields "type") "progress" → ProgressReadable py fields) := by
  unfold handleFields
  rw [returns_get_bind]
  dsimp only
  split_ifs with hprogress hlog
  · rw [returns_handleProgress_iff]
    exact ⟨fun h _ => h, fun h => h hprogress⟩
  · exact ⟨fun _ h => absurd h hprogress, fun _ => returns_modify _⟩
  · exact ⟨fun _ h => absurd h hprogress, fun _ => returns_modify _⟩

/-- The supervisor handles a line exactly if it is readable, whatever the store holds. -/
theorem returns_handleWorkerLine_iff {py : Python} {level line : String} {s : JobOutput} :
    Returns (handleWorkerLine py level line) s ↔ Readable py level line := by
  unfold handleWorkerLine Readable DecodesTo
  rw [returns_get_bind]
  by_cases hempty : line = ""
  · simp [hempty]
  by_cases herror : level = "ERROR"
  · simp [hempty, herror, publish]
  simp only [hempty, herror, if_false, false_or]
  cases hloads : py.loads line with
  | malformed => simp [publish]
  | raised e => simp
  | value payload =>
    simp only [returns_fromExcept_bind, fieldsOf_eq_ok_iff, returns_handleFields_iff, reduceCtorEq,
      Loaded.value.injEq, false_or]

end JobSupervisor

/-! ### The runtime control -/

namespace RuntimeControl

/-- The timestamp of an object, if it is read at all, is none that leaves the range of dates. -/
def TimestampReadable (py : Python) (level : String) (fields : List (String × Json)) : Prop :=
  let payloadLevel := py.upper (JobSupervisor.strField py fields "level" level)
  JobSupervisor.isText (Json.field? fields "type") "heartbeat" ∨
      JobSupervisor.isText (Json.field? fields "type") "log" ∧
        (payloadLevel = "ERROR" ∨ payloadLevel = "WARNING") →
    (parseTimestamp py (Json.field? fields "timestamp")).isOk

/-- A line, stripped, that the runtime control can handle. -/
def Readable (py : Python) (level line : String) : Prop :=
  line = "" ∨ level = "ERROR" ∨ DecodesTo py (TimestampReadable py level) line

theorem returns_handleFields_iff {py : Python} {now : PyDatetime} {level : String}
    {fields : List (String × Json)} {s : RuntimeActivity} :
    Returns (handleFields py now level fields) s ↔ TimestampReadable py level fields := by
  unfold handleFields TimestampReadable
  dsimp only
  split_ifs with hbeat hlog hlevel
  · simp only [returns_fromExcept_bind, returns_modify, and_true, isOk_iff, hbeat, true_or,
      true_implies]
  · simp only [returns_modify_bind, returns_fromExcept_bind, returns_modify, and_true, isOk_iff,
      hbeat, hlog, hlevel, or_true, true_implies]
  · simp [hbeat, hlevel]
  · simp [hbeat, hlog]

/-- The runtime control handles a line exactly if it is readable. -/
theorem returns_handleLine_iff {py : Python} {level line : String} {now : PyDatetime}
    {s : RuntimeActivity} :
    Returns (handleLine py level now line) s ↔ Readable py level line := by
  unfold handleLine Readable DecodesTo
  by_cases hempty : line = ""
  · simp [hempty]
  by_cases herror : level = "ERROR"
  · simp [hempty, herror]
  simp only [hempty, herror, if_false, false_or]
  cases hloads : py.loads line with
  | malformed => simp
  | raised e => simp
  | value payload =>
    simp only [returns_fromExcept_bind, fieldsOf_eq_ok_iff, returns_handleFields_iff, reduceCtorEq,
      Loaded.value.injEq, false_or]

end RuntimeControl

/-! ### The desktop events -/

namespace DesktopTail

/-- The timestamp, if it is a number, is that of a date, and the payload is an object or counts as
false. -/
def EventReadable (py : Python) (now : PyDatetime) (fields : List (String × Json)) : Prop :=
  (timestampOf py now (Json.field? fields "timestamp")).isOk ∧
    ∃ event, eventPayload fields = .obj event

/-- A line that the parser of the tail can handle. -/
def Readable (py : Python) (now : PyDatetime) (line : String) : Prop :=
  Text.strip line = "" ∨ DecodesTo py (EventReadable py now) (Text.strip line)

theorem isOk_entryOf_iff {py : Python} {now : PyDatetime} {fields : List (String × Json)} :
    (entryOf py now fields).isOk ↔ EventReadable py now fields := by
  unfold entryOf EventReadable
  simp only [isOk_bind_iff, fieldsOf_eq_ok_iff]
  simp only [isOk_iff]
  constructor
  · rintro ⟨t, ht, event, hevent, -⟩
    exact ⟨⟨t, ht⟩, event, hevent⟩
  · rintro ⟨⟨t, ht⟩, event, hevent⟩
    exact ⟨t, ht, event, hevent, _, rfl⟩

/-- The parser returns exactly if the line is readable. -/
theorem isOk_parseLine_iff {py : Python} {now : PyDatetime} {line : String} :
    (parseLine py now line).isOk ↔ Readable py now line := by
  unfold parseLine Readable DecodesTo
  dsimp only
  by_cases hempty : Text.strip line = ""
  · simp [hempty, Except.isOk, Except.toBool]
  simp only [hempty, if_false, false_or]
  cases hloads : py.loads (Text.strip line) with
  | malformed => simp [Except.isOk, Except.toBool]
  | raised e => simp [Except.isOk, Except.toBool]
  | value payload =>
    simp only [isOk_bind_iff, fieldsOf_eq_ok_iff, reduceCtorEq, Loaded.value.injEq, false_or]
    constructor
    · rintro ⟨fields, rfl, entry, hentry, -⟩
      exact ⟨fields, rfl, isOk_entryOf_iff.mp (isOk_iff.mpr ⟨entry, hentry⟩)⟩
    · rintro ⟨fields, rfl, hreadable⟩
      obtain ⟨entry, hentry⟩ := isOk_iff.mp (isOk_entryOf_iff.mpr hreadable)
      exact ⟨fields, rfl, entry, hentry, rfl⟩

theorem returns_line_iff {py : Python} {line : PyDatetime × String} {s : List LogEntry} :
    Returns (do
      let parsed ← fromExcept (parseLine py line.1 line.2)
      modify fun entries => entries ++ parsed.toList : EStateM PyError (List LogEntry) Unit) s ↔
      Readable py line.1 line.2 := by
  rw [← isOk_parseLine_iff, isOk_iff]
  simp only [returns_fromExcept_bind, returns_modify, and_true]

end DesktopTail

/-- Each of the three consumers reads a stream to its end, whatever it found before, exactly if
every line is readable. -/
theorem consumers_survive_iff (py : Python) (level : String) :
    (∀ lines s, Returns (JobSupervisor.consumeStream py level lines) s ↔
        ∀ line ∈ lines, JobSupervisor.Readable py level (Text.strip line)) ∧
      (∀ lines s, Returns (RuntimeControl.consumeStream py level lines) s ↔
        ∀ line ∈ lines, RuntimeControl.Readable py level (Text.strip line.2)) ∧
      ∀ lines s, Returns (DesktopTail.run py lines) s ↔
        ∀ line ∈ lines, DesktopTail.Readable py line.1 line.2 := by
  refine ⟨fun lines s => ?_, fun lines s => ?_, fun lines s => ?_⟩
  · exact returns_each_iff (fun line s => JobSupervisor.returns_handleWorkerLine_iff) lines
  · exact returns_each_iff (fun line s => RuntimeControl.returns_handleLine_iff) lines
  · exact returns_each_iff (fun line s => DesktopTail.returns_line_iff) lines

/-- Python as far as a line with a list is concerned. -/
def listPython : Python :=
  .decoding fun line => if line = "[1]" then .value (.arr [.int 1]) else .malformed

theorem list_ends_consumers :
    ¬ (∀ py lines s, Returns (JobSupervisor.consumeStream py "INFO" lines) s) ∧
      ¬ (∀ py lines s, Returns (RuntimeControl.consumeStream py "INFO" lines) s) ∧
      ¬ (∀ py lines s, Returns (DesktopTail.run py lines) s) := by
  refine ⟨fun hclaim => ?_, fun hclaim => ?_, fun hclaim => ?_⟩
  · have hraised : raised (JobSupervisor.consumeStream listPython "INFO" ["[1]"])
        ⟨⟨"job", "sample", .running, 0, none, none⟩, []⟩ = some .attributeError := by
      decide +kernel
    exact not_returns_of_raised hraised (hclaim _ _ _)
  · have hraised : raised (RuntimeControl.consumeStream listPython "INFO" [(⟨0, none⟩, "[1]")])
        ⟨none, none, none⟩ = some .attributeError := by
      decide +kernel
    exact not_returns_of_raised hraised (hclaim _ _ _)
  · have hraised : raised (DesktopTail.run listPython [(⟨0, none⟩, "[1]")]) [] =
        some .attributeError := by
      decide +kernel
    exact not_returns_of_raised hraised (hclaim _ _ _)

end Botik.AppService
