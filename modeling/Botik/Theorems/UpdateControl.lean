import Botik.Control.TelegramBot
import Botik.Library.Runs

/-!
# Updates and the flag they share

An update works on the repository only after it found the flag down and put it up. Who relies on the
flag is alone, as long as nobody takes it down for another one. That is what a thread does whose
last message is not sent: it has given the flag up before, and the exception takes it down once
more.

## Main definitions

* `UpdateWorker.owns`, `Control.relying` — who relies on the flag
* `Control.Guarded`, `Control.Honest`
* `Control.DropsFlag`, `Control.AnnouncesLate`

## Main results

* `Control.step_cases` — what an event does to the flag
* `update_flag_guards_iff`, `update_flag_honest_iff` — every run of events
-/

namespace Botik.Telegram

open Runs

/-! ### Who relies on the flag -/

/-- The thread has put the flag up and neither taken it down nor left that to a restart. -/
def UpdateWorker.owns : UpdateWorker → Bool
  | resolving => true
  | performing _ => true
  | answered _ _ => true
  | applying _ => true
  | failed => true
  | _ => false

/-- The thread works on the repository. -/
def UpdateWorker.inRepository : UpdateWorker → Bool
  | resolving => true
  | performing _ => true
  | _ => false

theorem UpdateWorker.owns_of_inRepository (w : UpdateWorker) (h : w.inRepository = true) :
    w.owns = true := by
  cases w with
  | resolving => rfl
  | performing version => rfl
  | _ => exact absurd h Bool.false_ne_true

namespace Control

/-- The restarts that are requested or under way. -/
def pending (c : Control) : ℕ :=
  match c.main with
  | .running => c.flags.restartRequested.toNat
  | .reloading => 1
  | .cleared => 1 + c.flags.restartRequested.toNat
  | .resolving => c.flags.restartRequested.toNat

/-- The threads that own the flag, and the restarts that will take it down. -/
def relying (c : Control) : ℕ := c.workers.countP UpdateWorker.owns + c.pending

/-- Who relies on the flag is alone, and the flag is up. -/
def Guarded (c : Control) : Prop := c.relying ≤ c.flags.updateInProgress.toNat

/-- The flag is up exactly while one relies on it. -/
def Honest (c : Control) : Prop := c.relying = c.flags.updateInProgress.toNat

/-- A late exception takes the flag down, and somebody relies on it. -/
def DropsFlag (c : Control) : ControlEvent → Prop
  | .work i _ => c.workers[i]? = some .failedLate ∧ 0 < c.relying
  | _ => False

/-- A thread puts the flag up for a restart that is over. -/
def AnnouncesLate (c : Control) : ControlEvent → Prop
  | .work i _ => (∃ version, c.workers[i]? = some (.announcing version)) ∧ c.relying = 0
  | _ => False

end Control

/-! ### One thread -/

/-- What a step of a thread does to the flag and to the request for a restart. -/
inductive UpdateWorker.Effect (w w' : UpdateWorker) (f f' : ControlFlags) : Prop
  | quiet (owns : w'.owns = w.owns) (flag : f'.updateInProgress = f.updateInProgress)
      (restart : f'.restartRequested = f.restartRequested)
  | takes (before : w.owns = false) (after : w'.owns = true) (down : f.updateInProgress = false)
      (up : f'.updateInProgress = true) (restart : f'.restartRequested = f.restartRequested)
  | releases (before : w.owns = true) (after : w'.owns = false)
      (down : f'.updateInProgress = false) (restart : f'.restartRequested = f.restartRequested)
  /-- A restart will take the flag down. -/
  | leaves (before : w.owns = true) (after : w'.owns = false)
      (flag : f'.updateInProgress = f.updateInProgress) (restart : f'.restartRequested = true)
  | announces (version : String) (announcing : w = .announcing version) (owns : w'.owns = w.owns)
      (up : f'.updateInProgress = true) (restart : f'.restartRequested = f.restartRequested)
  | drops (failedLate : w = .failedLate) (owns : w'.owns = w.owns)
      (down : f'.updateInProgress = false) (restart : f'.restartRequested = f.restartRequested)

theorem UpdateWorker.step_effect (w : UpdateWorker) (r : Reply) (f : ControlFlags) :
    w.Effect (w.step r f).1 f (w.step r f).2 := by
  cases w with
  | asking =>
    refine .quiet ?_ rfl rfl
    unfold step
    dsimp only
    split_ifs <;> rfl
  -- the only state that looks at the flag before it sets it
  | started =>
    unfold step
    cases hflag : f.updateInProgress with
    | true => exact .quiet rfl rfl rfl
    | false => exact .takes rfl rfl hflag rfl rfl
  | refusing => exact .quiet rfl rfl rfl
  | resolving =>
    unfold step
    cases r.localVersion <;> exact .quiet rfl rfl rfl
  | performing version =>
    unfold step
    cases r.update <;> exact .quiet rfl rfl rfl
  | answered status payload =>
    unfold step
    dsimp only
    by_cases hupdated : status = .updated
    · rw [if_pos hupdated]
      by_cases hpayload : payload = ""
      · rw [if_pos hpayload]
        exact .quiet rfl rfl rfl
      · rw [if_neg hpayload]
        exact .quiet rfl rfl rfl
    · rw [if_neg hupdated]
      exact .releases rfl rfl rfl rfl
  | reporting =>
    refine .quiet ?_ rfl rfl
    unfold step
    dsimp only
    split_ifs <;> rfl
  | applying version => exact .leaves rfl rfl rfl rfl
  | announcing version => exact .announces version rfl rfl rfl rfl
  | announced =>
    refine .quiet ?_ rfl rfl
    unfold step
    dsimp only
    split_ifs <;> rfl
  | failed => exact .releases rfl rfl rfl rfl
  | failedLate => exact .drops rfl rfl rfl rfl
  | finished => exact .quiet rfl rfl rfl

/-- One element is replaced. -/
theorem countP_set_add {α : Type*} (p : α → Bool) {l : List α} {i : ℕ} {a : α} (b : α)
    (h : l[i]? = some a) :
    (l.set i b).countP p + (p a).toNat = l.countP p + (p b).toNat := by
  induction l generalizing i with
  | nil => simp at h
  | cons x l ih =>
    cases i with
    | zero =>
      rw [List.getElem?_cons_zero, Option.some.injEq] at h
      rw [List.set_cons_zero, List.countP_cons, List.countP_cons, h]
      cases p a <;> cases p b <;> simp
    | succ i =>
      rw [List.getElem?_cons_succ] at h
      have hset := ih h
      rw [List.set_cons_succ, List.countP_cons, List.countP_cons]
      omega

namespace Control

variable {c : Control} {allowedChatId : Option String} {event : ControlEvent}

/-! ### One event -/

/-- What an event does to the flag and to those who rely on it. -/
inductive Effect (event : ControlEvent) (c c' : Control) : Prop
  | quiet (relying : c'.relying = c.relying)
      (flag : c'.flags.updateInProgress = c.flags.updateInProgress)
  | takes (relying : c'.relying = c.relying + 1) (down : c.flags.updateInProgress = false)
      (up : c'.flags.updateInProgress = true)
  | releases (relying : c.relying = c'.relying + 1) (down : c'.flags.updateInProgress = false)
  | announces (i : ℕ) (r : Reply) (work : event = .work i r) (version : String)
      (announcing : c.workers[i]? = some (.announcing version)) (relying : c'.relying = c.relying)
      (up : c'.flags.updateInProgress = true)
  | drops (i : ℕ) (r : Reply) (work : event = .work i r)
      (failedLate : c.workers[i]? = some .failedLate) (relying : c'.relying = c.relying)
      (down : c'.flags.updateInProgress = false)

theorem pending_congr {c c' : Control} (hmain : c'.main = c.main)
    (h : c'.flags.restartRequested = c.flags.restartRequested) : c'.pending = c.pending := by
  unfold pending
  rw [hmain, h]

/-- A first request. -/
theorem pending_of_requested {c c' : Control} (hmain : c'.main = c.main) (h : c.pending = 0)
    (hrequest : c'.flags.restartRequested = true) : c'.pending = 1 := by
  unfold pending at h ⊢
  rw [hmain, hrequest]
  cases hc : c.main with
  | running => rfl
  | reloading => rfl
  | cleared =>
    rw [hc] at h
    change 1 + c.flags.restartRequested.toNat = 0 at h
    omega
  | resolving => rfl

theorem act_effect (action : ControlAction) (event : ControlEvent) :
    Effect event c (c.act action) := by
  cases action with
  | pause => exact .quiet rfl rfl
  | resume => exact .quiet rfl rfl
  | panic => exact .quiet rfl rfl
  | update =>
    unfold act
    dsimp only
    split_ifs with hflag
    · exact .quiet rfl rfl
    · refine .quiet ?_ rfl
      unfold relying
      rw [List.countP_append]
      rfl
  | «show» => exact .quiet rfl rfl

/-- A restart goes on, and takes the flag down at its end. -/
theorem main_effect (s : MainStep) (event : ControlEvent) :
    Effect event c
      { c with flags := (c.main.step c.flags s).2, main := (c.main.step c.flags s).1 } := by
  obtain ⟨flags, main, workers⟩ := c
  cases s with
  | pause => cases main <;> exact .quiet rfl rfl
  | panicHandled => cases main <;> exact .quiet rfl rfl
  | raiseRestart =>
    cases main with
    | running =>
      refine .quiet ?_ rfl
      change workers.countP UpdateWorker.owns + pending ⟨flags, if _ then _ else _, workers⟩ =
        workers.countP UpdateWorker.owns + pending ⟨flags, .running, workers⟩
      split_ifs with hrequested
      · unfold pending
        dsimp only
        rw [hrequested]
        rfl
      · rfl
    | reloading => exact .quiet rfl rfl
    | cleared => exact .quiet rfl rfl
    | resolving => exact .quiet rfl rfl
  | proceed version =>
    cases main with
    | running => exact .quiet rfl rfl
    | reloading => exact .quiet rfl rfl
    | cleared =>
      refine .releases ?_ rfl
      change workers.countP UpdateWorker.owns + (1 + flags.restartRequested.toNat) =
        workers.countP UpdateWorker.owns + flags.restartRequested.toNat + 1
      omega
    | resolving =>
      unfold MainLoop.step
      dsimp only
      split_ifs <;> exact .quiet rfl rfl

section Work

variable {i : ℕ} {r : Reply} {w : UpdateWorker}

theorem flags_work (hw : c.workers[i]? = some w) : (c.work i r).flags = (w.step r c.flags).2 := by
  unfold work
  rw [hw]

theorem main_work : (c.work i r).main = c.main := by
  unfold work
  cases c.workers[i]? <;> rfl

theorem countP_owns_work (hw : c.workers[i]? = some w) :
    (c.work i r).workers.countP UpdateWorker.owns + w.owns.toNat =
      c.workers.countP UpdateWorker.owns + (w.step r c.flags).1.owns.toNat := by
  unfold work
  rw [hw]
  exact countP_set_add UpdateWorker.owns _ hw

/-- A step that changes neither the owner nor the request. -/
theorem relying_work (hw : c.workers[i]? = some w)
    (howns : (w.step r c.flags).1.owns = w.owns)
    (hrestart : (w.step r c.flags).2.restartRequested = c.flags.restartRequested) :
    (c.work i r).relying = c.relying := by
  have hcount := countP_owns_work (r := r) hw
  rw [howns] at hcount
  unfold relying
  rw [pending_congr main_work (by rw [flags_work hw, hrestart])]
  omega

/-- A thread goes on. -/
theorem work_effect (i : ℕ) (r : Reply) (h : c.relying ≤ 1) :
    Effect (.work i r) c (c.work i r) := by
  cases hw : c.workers[i]? with
  | none =>
    have hsame : c.work i r = c := by
      unfold work
      rw [hw]
    rw [hsame]
    exact .quiet rfl rfl
  | some w =>
    have hcount := countP_owns_work (r := r) hw
    have hflags := flags_work (r := r) hw
    have hpending (hrestart : (w.step r c.flags).2.restartRequested = c.flags.restartRequested) :
        (c.work i r).pending = c.pending := pending_congr main_work (by rw [hflags, hrestart])
    cases w.step_effect r c.flags with
    | quiet howns hflag hrestart =>
      exact .quiet (relying_work hw howns hrestart) (by rw [hflags, hflag])
    | takes hbefore hafter hdown hup hrestart =>
      refine .takes ?_ hdown (by rw [hflags, hup])
      unfold relying
      rw [hbefore, hafter, Bool.toNat_false, Bool.toNat_true] at hcount
      rw [hpending hrestart]
      omega
    | releases hbefore hafter hdown hrestart =>
      refine .releases ?_ (by rw [hflags, hdown])
      unfold relying
      rw [hbefore, hafter, Bool.toNat_false, Bool.toNat_true] at hcount
      rw [hpending hrestart]
      omega
    | leaves hbefore hafter hflag hrestart =>
      refine .quiet ?_ (by rw [hflags, hflag])
      rw [hbefore, hafter, Bool.toNat_false, Bool.toNat_true] at hcount
      unfold relying at h ⊢
      -- no restart is pending while a thread owns the flag
      have hnone : c.pending = 0 := by omega
      rw [hnone, pending_of_requested main_work hnone (by rw [hflags, hrestart])]
      omega
    | announces version hannouncing howns hup hrestart =>
      exact .announces i r rfl version (hannouncing ▸ hw) (relying_work hw howns hrestart)
        (by rw [hflags, hup])
    | drops hlate howns hdown hrestart =>
      exact .drops i r rfl (hlate ▸ hw) (relying_work hw howns hrestart) (by rw [hflags, hdown])

end Work

theorem step_effect (allowedChatId : Option String) (event : ControlEvent) (h : c.relying ≤ 1) :
    Effect event c (step allowedChatId event c) := by
  cases event with
  | telegram u =>
    unfold step
    dsimp only
    split_ifs
    · exact act_effect u.action _
    · exact .quiet rfl rfl
  | work i r => exact work_effect i r h
  | main s => exact main_effect s _

theorem DropsFlag.step (allowedChatId : Option String) (h : c.DropsFlag event) :
    0 < c.relying ∧ (Control.step allowedChatId event c).relying = c.relying ∧
      (Control.step allowedChatId event c).flags.updateInProgress = false := by
  cases event with
  | telegram u => exact h.elim
  | work i r =>
    obtain ⟨hw, hpos⟩ := h
    refine ⟨hpos, relying_work hw rfl rfl, ?_⟩
    change (c.work i r).flags.updateInProgress = false
    rw [flags_work hw]
    rfl
  | main s => exact h.elim

theorem AnnouncesLate.step (allowedChatId : Option String) (h : c.AnnouncesLate event) :
    c.relying = 0 ∧ (Control.step allowedChatId event c).relying = c.relying ∧
      (Control.step allowedChatId event c).flags.updateInProgress = true := by
  cases event with
  | telegram u => exact h.elim
  | work i r =>
    obtain ⟨⟨version, hw⟩, hnone⟩ := h
    refine ⟨hnone, relying_work hw rfl rfl, ?_⟩
    change (c.work i r).flags.updateInProgress = true
    rw [flags_work hw]
    rfl
  | main s => exact h.elim

/-- Who relies on the flag stays guarded unless a late exception takes the flag down. -/
theorem Guarded.step_iff (h : c.Guarded) :
    (step allowedChatId event c).Guarded ↔ ¬ c.DropsFlag event := by
  unfold Guarded at h ⊢
  constructor
  · intro hafter hdrops
    obtain ⟨hpos, hsame, hdown⟩ := hdrops.step allowedChatId
    rw [hsame, hdown, Bool.toNat_false] at hafter
    omega
  · intro hkeep
    have hle : c.relying ≤ 1 := h.trans (Bool.toNat_le _)
    cases step_effect allowedChatId event hle with
    | quiet hrelying hflag => rwa [hrelying, hflag]
    | takes hrelying hdown hup =>
      rw [hdown, Bool.toNat_false] at h
      rw [hrelying, hup, Bool.toNat_true]
      omega
    | releases hrelying hdown =>
      rw [hdown, Bool.toNat_false]
      omega
    | announces i r hwork version hannouncing hrelying hup =>
      rwa [hrelying, hup, Bool.toNat_true]
    | drops i r hwork hlate hrelying hdown =>
      rw [hrelying, hdown, Bool.toNat_false]
      rw [hwork] at hkeep
      exact not_lt.mp fun hpos => hkeep ⟨hlate, hpos⟩

/-- The flag stays honest unless a late exception takes it down or a late restart puts it up. -/
theorem Honest.step_iff (h : c.Honest) :
    (step allowedChatId event c).Honest ↔ ¬ c.DropsFlag event ∧ ¬ c.AnnouncesLate event := by
  have hguarded : c.Guarded := le_of_eq h
  have hle : c.relying ≤ 1 := hguarded.trans (Bool.toNat_le _)
  constructor
  · intro hafter
    refine ⟨hguarded.step_iff.mp (le_of_eq hafter), fun hlate => ?_⟩
    obtain ⟨hnone, hsame, hup⟩ := hlate.step allowedChatId
    unfold Honest at hafter
    rw [hsame, hup, Bool.toNat_true] at hafter
    omega
  · rintro ⟨hkeep, hearly⟩
    unfold Honest at h ⊢
    cases step_effect allowedChatId event hle with
    | quiet hrelying hflag => rwa [hrelying, hflag]
    | takes hrelying hdown hup =>
      rw [hdown, Bool.toNat_false] at h
      rw [hrelying, hup, Bool.toNat_true, h]
    | releases hrelying hdown =>
      rw [hdown, Bool.toNat_false]
      omega
    | announces i r hwork version hannouncing hrelying hup =>
      rw [hrelying, hup, Bool.toNat_true]
      rw [hwork] at hearly
      exact le_antisymm hle (Nat.pos_of_ne_zero fun hnone => hearly ⟨⟨version, hannouncing⟩, hnone⟩)
    | drops i r hwork hlate hrelying hdown =>
      rw [hrelying, hdown, Bool.toNat_false]
      rw [hwork] at hkeep
      exact Nat.eq_zero_of_not_pos fun hpos => hkeep ⟨hlate, hpos⟩

/-! ### Runs of events -/

theorem start_honest (startPaused : Bool) (version : String) :
    (start startPaused version).Honest := rfl

/-- A guarded thread works on the repository alone. -/
theorem Guarded.countP_inRepository (h : c.Guarded) :
    c.workers.countP UpdateWorker.inRepository ≤ 1 := by
  have howns : c.workers.countP UpdateWorker.inRepository ≤ c.workers.countP UpdateWorker.owns :=
    List.countP_mono_left fun w _ hw => w.owns_of_inRepository hw
  have hrelying : c.relying ≤ 1 := h.trans (Bool.toNat_le _)
  unfold relying at hrelying
  omega

end Control

variable (allowedChatId : Option String) (startPaused : Bool) (version : String)
  (events : List ControlEvent)

/-- In a run the threads and restarts that rely on the flag are guarded, and the repository is the
matter of one thread, exactly if no late exception takes the flag away from one of them. -/
theorem update_flag_guards_iff :
    (∀ t ∈ transitions (Control.step allowedChatId) events (Control.start startPaused version),
        t.after.Guarded ∧ t.after.workers.countP UpdateWorker.inRepository ≤ 1) ↔
      ∀ t ∈ transitions (Control.step allowedChatId) events (Control.start startPaused version),
        ¬ t.before.DropsFlag t.input := by
  have hguarded : (∀ t ∈ transitions (Control.step allowedChatId) events
      (Control.start startPaused version), t.after.Guarded) ↔ _ :=
    forall_after_iff (Q := fun _ => True) (A := fun _ => True)
      (P := fun c event => ¬ c.DropsFlag event) (fun _ _ _ _ => trivial)
      (fun _ _ _ _ hguarded => hguarded.step_iff) trivial
      (le_of_eq (Control.start_honest startPaused version)) fun _ _ => trivial
  rw [← hguarded]
  exact forall₂_congr fun t _ => ⟨And.left, fun h => ⟨h, h.countP_inRepository⟩⟩

/-- The last message of the first thread is not sent while the second one works; a third one
follows. -/
def lateException : List ControlEvent :=
  let ask := ControlEvent.telegram (.message 7 (some "update") "/update")
  let go (i : ℕ) := ControlEvent.work i ⟨true, .ok "a", .ok (.upToDate, "a")⟩
  let fail := ControlEvent.work 0 ⟨false, .ok "a", .ok (.upToDate, "a")⟩
  [ask, ask, ask, go 0, go 1, go 2, go 0, go 0, go 0, go 0, fail, go 1, fail, go 2]

example : (run (Control.step (some "7")) lateException (Control.start true "a")).workers =
    [.finished, .resolving, .resolving] := by decide +kernel

/-- In a run the flag is up exactly while a thread owns it or a restart is to take it down, if and
only if no late exception takes it away and no thread puts it up for a restart that is over. -/
theorem update_flag_honest_iff :
    (∀ t ∈ transitions (Control.step allowedChatId) events (Control.start startPaused version),
        t.after.Honest) ↔
      ∀ t ∈ transitions (Control.step allowedChatId) events (Control.start startPaused version),
        ¬ t.before.DropsFlag t.input ∧ ¬ t.before.AnnouncesLate t.input :=
  forall_after_iff (Q := fun _ => True) (A := fun _ => True)
    (P := fun c event => ¬ c.DropsFlag event ∧ ¬ c.AnnouncesLate event) (fun _ _ _ _ => trivial)
    (fun _ _ _ _ hhonest => hhonest.step_iff) trivial (Control.start_honest startPaused version)
    fun _ _ => trivial

end Botik.Telegram
