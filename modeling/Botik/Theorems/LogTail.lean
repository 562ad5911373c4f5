import Botik.AppService.FileTail

/-!
# What the log tail delivers

The tail reads whatever bytes there are, also the beginning of a line that is still being written,
and it notices a rotation by the size of the file only. It delivers every line once and whole where
its polls come after whole lines and between a rotation and the growth of the new file.

## Main definitions

* `FileTail.Delivered` — the lines that were passed are those of the successive contents
* `FileTail.OnTime` — a poll comes after whole lines, and no rotation escapes the polls
* `FileTail.Abreast` — the invariant of the steps in time

## Main results

* `abreast_step` — steps in time keep the invariant
* `lines_delivered`
-/

namespace Botik.AppService

namespace FileTail

open Runs TextFile

variable {ε Entry : Type*}

/-- The lines that were passed to the parser are, from the first on, the newline-terminated lines of
the successive contents of the file; and after a poll they are all of them. -/
structure Delivered (t : Transition (TailWorld Entry) Event) : Prop where
  inOrder : t.after.tail.passed <+: terminatedLines t.after
  all : t.input = .poll → t.after.tail.passed = terminatedLines t.after

/-- The bytes of the file. -/
def content (w : TailWorld Entry) : List UInt8 := w.file.getD []

/-- What the polls have come past, and what is new. -/
def old (w : TailWorld Entry) : List UInt8 := (content w).take w.seen

def new (w : TailWorld Entry) : List UInt8 := (content w).drop w.seen

/-- The condition on a step. What is new at a poll ends at a line end, and does not begin within one;
a file that was put there since the last poll is shorter than the offset, if that is not 0; and the
parser takes the new lines. When a file is replaced or removed no line of it is new. -/
def OnTime (parser : List Char → Except ε (Option Entry)) (w : TailWorld Entry) : Event → Prop
  | .append _ => True
  | .rotate _ | .remove => fileLines (content w) = fileLines (old w)
  | .poll => Whole (new w) ∧ ¬ ((old w).getLast? = some 0x0D ∧ (new w).head? = some 0x0A) ∧
      (w.seen = 0 → w.tail.offset = 0 ∨ (content w).length < w.tail.offset) ∧
      ∀ line ∈ fileLines (new w), ∃ entry, parser line = .ok entry

/-- The tail runs, its offset is where the polls have come to, and it has passed the lines up to
there. -/
structure Abreast (w : TailWorld Entry) : Prop where
  running : w.tail.running = true
  seen_le : w.seen ≤ (content w).length
  offset : w.seen ≠ 0 → w.tail.offset = w.seen
  whole : Whole (old w)
  passed : w.tail.passed = w.earlier.flatMap fileLines ++ fileLines (old w)

theorem abreast_init (file : Option (List UInt8)) : Abreast (init file : TailWorld Entry) where
  running := rfl
  seen_le := Nat.zero_le _
  offset h := absurd rfl h
  whole _ h := nomatch h
  passed := rfl

section Steps

variable {w : TailWorld Entry}

theorem terminatedLines_eq (w : TailWorld Entry) :
    terminatedLines w = w.earlier.flatMap fileLines ++ fileLines (content w) := by
  rw [terminatedLines, contents, List.flatMap_append, content]
  cases w.file with
  | none => rfl
  | some bytes => simp

theorem old_append_new (w : TailWorld Entry) : old w ++ new w = content w :=
  List.take_append_drop _ _

theorem passed_inOrder (h : Abreast w) : w.tail.passed <+: terminatedLines w := by
  have hprefix := fileLines_prefix h.whole (new w)
  rw [old_append_new] at hprefix
  rw [terminatedLines_eq, h.passed]
  exact (List.prefix_append_right_inj _).mpr hprefix

theorem abreast_append (parser : List Char → Except ε (Option Entry)) (h : Abreast w)
    (chunk : List UInt8) : Abreast (step parser (.append chunk) w) := by
  have hold : old (step parser (.append chunk) w) = old w :=
    List.take_append_of_le_length h.seen_le
  refine ⟨h.running, ?_, h.offset, hold ▸ h.whole, ?_⟩
  · have hle := h.seen_le
    have hlength : (content (step parser (.append chunk) w)).length =
        (content w).length + chunk.length := List.length_append
    rw [hlength]
    exact hle.trans (Nat.le_add_right _ _)
  · rw [hold]
    exact h.passed

/-- The content goes after its lines were read. -/
theorem abreast_replaced (h : Abreast w) (hread : fileLines (content w) = fileLines (old w))
    (file : Option (List UInt8)) :
    Abreast { w with file := file, earlier := w.earlier ++ w.file.toList, seen := 0 } where
  running := h.running
  seen_le := Nat.zero_le _
  offset hne := absurd rfl hne
  whole _ hlast := nomatch hlast
  passed := by
    have hlines : (w.earlier ++ w.file.toList).flatMap fileLines =
        w.earlier.flatMap fileLines ++ fileLines (content w) := terminatedLines_eq w
    change w.tail.passed = _ ++ fileLines []
    rw [h.passed, hlines, hread]
    exact (List.append_nil _).symm

/-- A poll in time begins where the last one ended. -/
theorem start_eq_seen (h : Abreast w)
    (hnoticed : w.seen = 0 → w.tail.offset = 0 ∨ (content w).length < w.tail.offset) :
    start (content w).length w.tail.offset = w.seen := by
  have hle := h.seen_le
  by_cases hseen : w.seen = 0
  · rcases hnoticed hseen with hzero | hshort
    · rw [hseen, hzero]
      rfl
    · rw [hseen, start, if_pos hshort]
  · rw [h.offset hseen, start, if_neg (by omega)]

/-- A poll in time passes the lines that are new. -/
theorem poll_eq {parser : List Char → Except ε (Option Entry)} (h : Abreast w)
    (hontime : OnTime parser w .poll) :
    ∃ entries available, poll parser w.file w.tail = { w.tail with
      offset := (content w).length, passed := w.tail.passed ++ fileLines (new w),
      entries := entries, available := available } := by
  obtain ⟨hwhole, -, hnoticed, hparser⟩ := hontime
  have hstart := start_eq_seen h hnoticed
  cases hfile : w.file with
  | none =>
    have hnothing : content w = [] := by rw [content, hfile]; rfl
    have hlines : fileLines (new w) = [] := by rw [new, hnothing, List.drop_nil]; rfl
    exact ⟨w.tail.entries, some false, by simp [poll, hnothing, hlines]⟩
  | some bytes =>
    have hbytes : content w = bytes := by rw [content, hfile]; rfl
    have hlines : (readlines (text (bytes.drop (start bytes.length w.tail.offset)))).map rstrip =
        fileLines (new w) := by
      rw [hbytes] at hstart
      rw [hstart, ← hbytes]
      exact map_rstrip_readlines hwhole
    rw [poll, hlines, hbytes]
    obtain ⟨entries, hparse⟩ :=
      parse_ok hparser { w.tail with available := some true, offset := bytes.length }
    exact ⟨entries, some true, hparse⟩

/-- After a poll in time nothing is new. -/
theorem old_poll (parser : List Char → Except ε (Option Entry)) (h : Abreast w) :
    old (step parser .poll w) = content w ∧ content (step parser .poll w) = content w := by
  have hstep : step parser .poll w =
      { w with tail := poll parser w.file w.tail, seen := (content w).length } := if_pos h.running
  rw [hstep]
  exact ⟨List.take_length, rfl⟩

theorem abreast_poll {parser : List Char → Except ε (Option Entry)} (h : Abreast w)
    (hontime : OnTime parser w .poll) : Abreast (step parser .poll w) := by
  have hstep : step parser .poll w =
      { w with tail := poll parser w.file w.tail, seen := (content w).length } := if_pos h.running
  obtain ⟨hold, -⟩ := old_poll parser h
  obtain ⟨entries, available, hpoll⟩ := poll_eq h hontime
  obtain ⟨hwhole, hsplit, -⟩ := hontime
  have hlines : fileLines (content w) = fileLines (old w) ++ fileLines (new w) := by
    rw [← fileLines_append h.whole hsplit, old_append_new]
  have hall : Whole (content w) := by
    rw [← old_append_new]
    exact whole_append h.whole hwhole
  rw [hstep, hpoll] at hold ⊢
  refine ⟨h.running, le_refl _, fun _ => rfl, ?_, ?_⟩
  · rw [hold]
    exact hall
  · rw [hold, hlines, ← List.append_assoc, ← h.passed]

/-- A step in time keeps the invariant. -/
theorem abreast_step {parser : List Char → Except ε (Option Entry)} {event : Event} (h : Abreast w)
    (hontime : OnTime parser w event) : Abreast (step parser event w) := by
  cases event with
  | append chunk => exact abreast_append parser h chunk
  | rotate bytes => exact abreast_replaced h hontime (some bytes)
  | remove => exact abreast_replaced h hontime none
  | poll => exact abreast_poll h hontime

end Steps

/-- Along steps in time every newline-terminated line of the successive contents is passed to the
parser once, complete and in order, and nothing else is. -/
theorem lines_delivered (parser : List Char → Except ε (Option Entry)) (file : Option (List UInt8))
    {events : List Event}
    (hontime : ∀ t ∈ transitions (step parser) events (init file),
      OnTime parser t.before t.input) :
    ∀ t ∈ transitions (step parser) events (init file : TailWorld Entry), Delivered t := by
  intro t ht
  have habreast := forall_transitions_of_inv (fun _ _ => abreast_step) (abreast_init file) hontime
  obtain ⟨hbefore, hafter⟩ := habreast t ht
  refine ⟨passed_inOrder hafter, fun hpoll => ?_⟩
  have hstep := after_eq_step ht
  rw [hpoll] at hstep
  obtain ⟨hold, hcontent⟩ := old_poll parser hbefore
  rw [terminatedLines_eq, hafter.passed, hstep, hold, hcontent]

/-- A parser that makes an entry of every line. -/
def takeLine (line : List Char) : Except Unit (Option (List Char)) := .ok (some line)

/-- Two lines, and a new file that is shorter than they were. -/
def shortRotation : List Event :=
  [.append [0x61, 0x0A], .poll, .append [0x62, 0x0D, 0x0A], .poll, .rotate [0x63, 0x0A], .poll]

theorem short_rotation_delivered :
    (∀ t ∈ transitions (step takeLine) shortRotation (init none), Delivered t) ∧
      (run (step takeLine) shortRotation (init none)).tail.passed = [['a'], ['b'], ['c']] := by
  refine ⟨lines_delivered takeLine none ?_, by decide +kernel⟩
  have htakes : ∀ lines : List (List Char), ∀ line ∈ lines, ∃ entry, takeLine line = .ok entry :=
    fun _ line _ => ⟨some line, rfl⟩
  simp only [shortRotation, transitions_cons, transitions_nil, List.forall_mem_cons,
    List.not_mem_nil, false_implies, implies_true, and_true]
  refine ⟨trivial, ⟨?_, ?_, ?_, htakes _⟩, trivial, ⟨?_, ?_, ?_, htakes _⟩, ?_, ?_, ?_, ?_, htakes _⟩
  case refine_7 => exact show fileLines [0x61, 0x0A, 0x62, 0x0D, 0x0A] = _ by decide +kernel
  all_goals decide +kernel

/-- A line that is written in two pieces, with a poll between them. -/
def piecewise : List Event := [.append [0x61], .poll, .append [0x62, 0x0A], .poll]

theorem piece_delivered :
    ¬ ∀ events, ∀ t ∈ transitions (step takeLine) events (init none), Delivered t := by
  intro hclaim
  have hdelivered := hclaim piecewise _ (mem_transitions (piecewise.take 3) .poll [] (init none))
  have hall := hdelivered.all rfl
  revert hall
  decide +kernel

end FileTail

end Botik.AppService
