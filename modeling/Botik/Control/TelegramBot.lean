import Botik.Library.Json
import Botik.Library.Text

/-!
# The control over Telegram

`control/telegram_bot.py`: messages and buttons of the allowed chat pause and resume the trading,
request a panic, and start updates. Every update is a thread of its own; at its end it may request
a restart, which the main loop applies. They share the flags of `TradingState`.

A step is a write of the flags, or what happens between two of them: git, a message that is sent.
The check of the flag under the lock and the write after it are one step. A write between them that
takes the flag down may as well come before. The announcement of a restart may not, since it puts
the flag up: it may as well come after, and then leaves its message.

## Main definitions

* `ControlFlags` — the flags of `TradingState`
* `TelegramUpdate`, `ControlAction`
* `UpdateWorker`, `UpdateWorker.step` — the thread of an update
* `Control`, `ControlEvent`, `Control.step`
-/

namespace Botik.Telegram

/-! ### The flags -/

structure ControlFlags where
  paused : Bool
  panicRequested : Bool
  updateInProgress : Bool
  restartRequested : Bool
  currentVersion : String
  updateMessage : String
  deriving DecidableEq, Repr

namespace ControlFlags

/-- `set_update_in_progress`. -/
def setUpdateInProgress (value : Bool) (message : String) (f : ControlFlags) : ControlFlags :=
  { f with updateInProgress := value, updateMessage := message }

/-- `set_current_version`. -/
def setCurrentVersion (version : String) (f : ControlFlags) : ControlFlags :=
  { f with currentVersion := Text.strip version }

end ControlFlags

/-! ### What a chat asks for -/

/-- What a handler does to the flags. -/
inductive ControlAction
  | pause
  | resume
  | panic
  | update
  | show
  deriving DecidableEq, Repr

/-- A message, with the command it begins with, or a pressed button. -/
inductive TelegramUpdate
  | message (chatId : ℤ) (command : Option String) (text : String)
  | callback (chatId : Option ℤ) (data : String)
  deriving DecidableEq, Repr

namespace TelegramUpdate

/-- `message.chat.id`, or 0. -/
def chatId : TelegramUpdate → ℤ
  | message chatId _ _ => chatId
  | callback chatId _ => chatId.getD 0

/-- `button_router`. -/
def buttonAction (text : String) : ControlAction :=
  match Text.strip text with
  | "Пауза" => .pause
  | "Продолжить" => .resume
  | "Паника" => .panic
  | "Update" => .update
  | _ => .show

/-- The handlers of the commands; a message without one of them goes to the router. -/
def messageAction (command : Option String) (text : String) : ControlAction :=
  match command with
  | some "pause" => .pause
  | some "stoptrading" => .pause
  | some "resume" => .resume
  | some "starttrading" => .resume
  | some "panic" => .panic
  | some "update" => .update
  | some other =>
    if other ∈ ["start", "help", "status", "scanner", "pairs", "balance", "orders", "futures",
      "training"] then .show
    else buttonAction text
  | none => buttonAction text

/-- `callback_nav` and `callback_controls`. -/
def callbackAction (data : String) : ControlAction :=
  match data with
  | "trading:start" => .resume
  | "trading:stop" => .pause
  | "trading:panic" => .panic
  | "ctl:pause" => .pause
  | "ctl:resume" => .resume
  | "ctl:panic" => .panic
  | "ctl:update" => .update
  | _ => .show

def action : TelegramUpdate → ControlAction
  | message _ command text => messageAction command text
  | callback _ data => callbackAction data

/-- `is_allowed_chat`. -/
def IsAllowed (allowedChatId : Option String) (u : TelegramUpdate) : Prop :=
  ∀ allowed ∈ allowedChatId, toString u.chatId = allowed

instance (allowedChatId : Option String) (u : TelegramUpdate) :
    Decidable (u.IsAllowed allowedChatId) :=
  inferInstanceAs (Decidable (∀ allowed ∈ allowedChatId, _))

end TelegramUpdate

/-! ### The thread of an update -/

/-- The first component of `perform_update`. -/
inductive UpdateStatus
  | upToDate
  | updated
  | dirtyTree
  | repoUnavailable
  | remoteUnavailable
  | pullFailed
  deriving DecidableEq, Repr

def UpdateStatus.text : UpdateStatus → String
  | upToDate => "up_to_date"
  | updated => "updated"
  | dirtyTree => "dirty_tree"
  | repoUnavailable => "repo_unavailable"
  | remoteUnavailable => "remote_unavailable"
  | pullFailed => "pull_failed"

/-- Where `do_update` and `_update_worker` are. -/
inductive UpdateWorker
  /-- `do_update` has found the flag down and sends its message. -/
  | asking
  | started
  /-- The flag was up; that is sent. -/
  | refusing
  | resolving
  | performing (currentVersion : String)
  | answered (status : UpdateStatus) (payload : String)
  /-- The flag is taken down, and the answer is sent. -/
  | reporting
  | applying (newVersion : String)
  | announcing (newVersion : String)
  /-- The restart is requested, and the new version is sent. -/
  | announced
  /-- An exception before the flag was taken down or the restart requested. -/
  | failed
  /-- An exception after that. -/
  | failedLate
  | finished
  deriving DecidableEq, Repr

/-- What a step of a thread may find: whether a message is sent, and what git answers. -/
structure Reply where
  sent : Bool
  /-- `_resolve_local_version`. -/
  localVersion : Except PyError String
  /-- `perform_update`. -/
  update : Except PyError (UpdateStatus × String)

/-- One step of a thread. -/
def UpdateWorker.step (r : Reply) (f : ControlFlags) : UpdateWorker → UpdateWorker × ControlFlags
  | asking => (if r.sent then started else finished, f)
  | started =>
    if f.updateInProgress then (refusing, f)
    else (resolving, f.setUpdateInProgress true "checking")
  | refusing => (finished, f)
  | resolving =>
    match r.localVersion with
    | .error _ => (failed, f)
    | .ok version => (performing version, f.setCurrentVersion version)
  | performing _ =>
    match r.update with
    | .error _ => (failed, f)
    | .ok (status, payload) => (answered status payload, f)
  | answered status payload =>
    if status = .updated then
      (applying payload, if payload = "" then f else f.setCurrentVersion payload)
    else (reporting, f.setUpdateInProgress false status.text)
  | reporting => (if r.sent then finished else failedLate, f)
  | applying newVersion => (announcing newVersion, { f with restartRequested := true })
  | announcing newVersion =>
    (announced, f.setUpdateInProgress true
      ("restart_pending:" ++
        if newVersion = "" then "unknown" else String.ofList (newVersion.toList.take 12)))
  | announced => (if r.sent then finished else failedLate, f)
  | failed => (finished, f.setUpdateInProgress false "error")
  | failedLate => (finished, f.setUpdateInProgress false "error")
  | finished => (finished, f)

/-! ### The main loop -/

/-- Where `main` is with a restart. -/
inductive MainLoop
  | running
  /-- `RestartRequested` is caught. -/
  | reloading
  /-- The request is taken back. -/
  | cleared
  /-- The flag of the update is taken down. -/
  | resolving
  deriving DecidableEq, Repr

/-- What the main loop does to the flags. -/
inductive MainStep
  /-- The trading loop pauses the trading. -/
  | pause
  /-- The orders are cancelled after a panic. -/
  | panicHandled
  /-- A loop finds the request for a restart. -/
  | raiseRestart
  /-- The next step of the restart. -/
  | proceed (version : String)

def MainLoop.step (f : ControlFlags) : MainStep → MainLoop → MainLoop × ControlFlags
  | .pause, running => (running, { f with paused := true })
  | .panicHandled, running => (running, { f with panicRequested := false })
  | .raiseRestart, running => (if f.restartRequested then reloading else running, f)
  | .proceed _, reloading => (cleared, { f with restartRequested := false })
  | .proceed _, cleared => (resolving, f.setUpdateInProgress false "restart_applied")
  | .proceed version, resolving =>
    (running, if version = "" then f else f.setCurrentVersion version)
  | _, main => (main, f)

/-! ### All together -/

/-- The flags, the main loop, and the threads in the order they came. -/
structure Control where
  flags : ControlFlags
  main : MainLoop
  workers : List UpdateWorker

inductive ControlEvent
  | telegram (u : TelegramUpdate)
  | work (i : ℕ) (r : Reply)
  | main (step : MainStep)

namespace Control

/-- When the bot starts. -/
def start (startPaused : Bool) (version : String) : Control where
  flags := ⟨startPaused, false, false, false, Text.strip version, ""⟩
  main := .running
  workers := []

/-- What an action does. -/
def act (action : ControlAction) (c : Control) : Control :=
  match action with
  | .pause => { c with flags := { c.flags with paused := true } }
  | .resume => { c with flags := { c.flags with paused := false } }
  | .panic => { c with flags := { c.flags with panicRequested := true, paused := true } }
  | .update =>
    if c.flags.updateInProgress then c else { c with workers := c.workers ++ [.asking] }
  | .show => c

/-- A step of one of the threads. -/
def work (i : ℕ) (r : Reply) (c : Control) : Control :=
  match c.workers[i]? with
  | none => c
  | some w =>
    { c with
      flags := (w.step r c.flags).2
      workers := c.workers.set i (w.step r c.flags).1 }

/-- One event. -/
def step (allowedChatId : Option String) (event : ControlEvent) (c : Control) : Control :=
  match event with
  | .telegram u => if u.IsAllowed allowedChatId then c.act u.action else c
  | .work i r => c.work i r
  | .main s =>
    { c with flags := (c.main.step c.flags s).2, main := (c.main.step c.flags s).1 }

end Control

end Botik.Telegram
