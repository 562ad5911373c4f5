import Botik.Library.Runs
import Botik.Library.TextFile

/-!
# The tail of a log file

`FileTail.run` polls a file that others write. It keeps one number, the offset up to which it has
read, and begins again when the file is missing or shorter than that. Every line that `readline`
gives goes to the parser, and what the parser makes of it to `on_entry`; an exception of the parser
ends the tail.

A poll is one step: nothing is awaited in it, and the writers are taken to write before or after.

## Main definitions

* `Tail`, `FileTail.poll`
* `TailWorld`, `FileTail.step` — the file, its writers and the tail
-/

namespace Botik.AppService

open TextFile

/-- The tail: whether it still runs, its offset, and what it has called. -/
structure Tail (Entry : Type*) where
  running : Bool
  offset : ℕ
  /-- The lines that were passed to the parser. -/
  passed : List (List Char)
  /-- The calls of `on_entry`. -/
  entries : List Entry
  /-- The last call of `on_available`. -/
  available : Option Bool
  deriving DecidableEq, Repr

namespace FileTail

variable {ε Entry : Type*}

/-- The lines go to the parser, until it raises. -/
def parse (parser : List Char → Except ε (Option Entry)) :
    List (List Char) → Tail Entry → Tail Entry
  | [], tail => tail
  | line :: lines, tail =>
    match parser line with
    | .error _ => { tail with running := false, passed := tail.passed ++ [line] }
    | .ok entry => parse parser lines
        { tail with passed := tail.passed ++ [line], entries := tail.entries ++ entry.toList }

/-- Where the tail begins to read. -/
def start (size offset : ℕ) : ℕ := if size < offset then 0 else offset

/-- One round of the loop. -/
def poll (parser : List Char → Except ε (Option Entry)) (file : Option (List UInt8))
    (tail : Tail Entry) : Tail Entry :=
  match file with
  | none => { tail with available := some false, offset := 0 }
  | some content =>
    parse parser ((readlines (text (content.drop (start content.length tail.offset)))).map rstrip)
      { tail with available := some true, offset := content.length }

end FileTail

/-- The file and the tail. The contents that were replaced or removed are kept, and how much of the
present content there was at the last poll since it was put there. -/
structure TailWorld (Entry : Type*) where
  file : Option (List UInt8)
  tail : Tail Entry
  earlier : List (List UInt8)
  seen : ℕ
  deriving DecidableEq, Repr

namespace FileTail

variable {ε Entry : Type*}

/-- What can happen next. -/
inductive Event
  /-- A writer appends a chunk of any bytes, to a new file if there is none. -/
  | append (chunk : List UInt8)
  /-- The file is replaced, or truncated and written again. -/
  | rotate (content : List UInt8)
  | remove
  | poll
  deriving DecidableEq, Repr

/-- One step of the writers or of the tail. -/
def step (parser : List Char → Except ε (Option Entry)) (event : Event) (w : TailWorld Entry) :
    TailWorld Entry :=
  match event with
  | .append chunk => { w with file := some (w.file.getD [] ++ chunk) }
  | .rotate content =>
    { w with file := some content, earlier := w.earlier ++ w.file.toList, seen := 0 }
  | .remove => { w with file := none, earlier := w.earlier ++ w.file.toList, seen := 0 }
  | .poll =>
    if w.tail.running then
      { w with tail := poll parser w.file w.tail, seen := (w.file.getD []).length }
    else w

/-- The world when the tail starts. -/
def init (file : Option (List UInt8)) : TailWorld Entry where
  file := file
  tail := ⟨true, 0, [], [], none⟩
  earlier := []
  seen := 0

/-- The successive contents of the file. -/
def contents (w : TailWorld Entry) : List (List UInt8) := w.earlier ++ w.file.toList

/-- The newline-terminated lines of the successive contents. -/
def terminatedLines (w : TailWorld Entry) : List (List Char) := (contents w).flatMap fileLines

/-- A parser that raises gets no more lines; otherwise it gets all of them. -/
theorem parse_ok {parser : List Char → Except ε (Option Entry)} {lines : List (List Char)}
    (hok : ∀ line ∈ lines, ∃ entry, parser line = .ok entry) (tail : Tail Entry) :
    ∃ entries, parse parser lines tail =
      { tail with passed := tail.passed ++ lines, entries := entries } := by
  induction lines generalizing tail with
  | nil => exact ⟨tail.entries, by simp [parse]⟩
  | cons line lines ih =>
    obtain ⟨entry, hentry⟩ := hok line List.mem_cons_self
    obtain ⟨entries, hrest⟩ := ih (fun line' h => hok line' (List.mem_cons_of_mem line h))
      { tail with passed := tail.passed ++ [line], entries := tail.entries ++ entry.toList }
    refine ⟨entries, ?_⟩
    rw [parse, hentry]
    exact hrest.trans (by simp)

end FileTail

end Botik.AppService
