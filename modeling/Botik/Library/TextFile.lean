import Mathlib.Data.List.DropRight
import Mathlib.Data.List.Infix
import Mathlib.Tactic.Basic

/-!
# Text files

A file opened as text is bytes, decoded as UTF-8 with malformed parts replaced, with its line ends
translated, and read line by line. Decoding, translating and splitting all start afresh after a
line end, so a file may be read in parts that end there.

A list of any kind is cut into lines at the elements that end a line, and the elements of a kind are
removed at both ends of it. Lines that were joined are found again.

## Main definitions

* `TextFile.decode` — UTF-8 with `errors="replace"`
* `TextFile.newlines` — universal newlines
* `TextFile.readlines` — the lines that `readline` gives, with their ends
* `TextFile.completeLines`, `TextFile.fileLines` — the lines that have an end, without it
* `TextFile.Whole` — the bytes end at a line end
* `Lines.split` — the lines of a list, without their ends
* `Lines.joined` — the lines with an end between them
* `Lines.trim` — without the elements of a kind at both ends

## Main results

* `map_rstrip_readlines` — reading to a line end gives complete lines
* `fileLines_append` — reading in parts
* `split_joined_concat` — lines that were written are read
* `trim_eq_self_iff` — nothing is lost
-/

namespace TextFile

/-! ### Decoding -/

/-- What stands for a malformed part. -/
def replacement : Char := Char.ofNat 0xFFFD

/-- A character of which bytes are missing: how many after the next one, and the bounds of that. It
will be no ASCII character. -/
structure PartialChar where
  missing : ℕ
  low : ℕ
  high : ℕ
  bits : ℕ
  low_ge : 0x80 ≤ low
  bits_ge : 2 ≤ bits ∨ 0 < missing ∧ 2 ≤ bits * 0x40 + (low - 0x80)
  deriving DecidableEq

/-- The first byte of a character. -/
def firstByte (b : ℕ) : List Char × Option PartialChar :=
  if b ≤ 0x7F then ([Char.ofNat b], none)
  else if h : 0xC2 ≤ b ∧ b ≤ 0xDF then
    ([], some ⟨0, 0x80, 0xBF, b - 0xC0, by decide, Or.inl (by omega)⟩)
  -- overlong forms and surrogates are excluded by the bounds of the second byte
  else if b = 0xE0 then ([], some ⟨1, 0xA0, 0xBF, 0, by decide, by decide⟩)
  else if b = 0xED then ([], some ⟨1, 0x80, 0x9F, 0xD, by decide, by decide⟩)
  else if h : 0xE1 ≤ b ∧ b ≤ 0xEF then
    ([], some ⟨1, 0x80, 0xBF, b - 0xE0, by decide, Or.inr (by omega)⟩)
  else if b = 0xF0 then ([], some ⟨2, 0x90, 0xBF, 0, by decide, by decide⟩)
  else if b = 0xF4 then ([], some ⟨2, 0x80, 0x8F, 4, by decide, by decide⟩)
  else if h : 0xF1 ≤ b ∧ b ≤ 0xF3 then
    ([], some ⟨2, 0x80, 0xBF, b - 0xF0, by decide, Or.inr (by omega)⟩)
  else ([replacement], none)

/-- A byte that goes on a character. -/
def laterByte (b : ℕ) (c : PartialChar) (h : c.low ≤ b) : List Char × Option PartialChar :=
  match c.missing with
  | 0 => ([Char.ofNat (c.bits * 0x40 + (b - 0x80))], none)
  | missing + 1 =>
    ([], some ⟨missing, 0x80, 0xBF, c.bits * 0x40 + (b - 0x80), by decide,
      Or.inl (by have := c.bits_ge; omega)⟩)

/-- A byte: the characters it completes, and the character it leaves unfinished. A byte that cannot
go on a character is the first one of the next. -/
def decodeByte (b : ℕ) : Option PartialChar → List Char × Option PartialChar
  | none => firstByte b
  | some c =>
    if h : c.low ≤ b ∧ b ≤ c.high then laterByte b c h.1
    else (replacement :: (firstByte b).1, (firstByte b).2)

/-- Decode on, after an unfinished character. -/
def decodeFrom : Option PartialChar → List UInt8 → List Char
  | none, [] => []
  | some _, [] => [replacement]
  | unfinished, b :: bs =>
    (decodeByte b.toNat unfinished).1 ++ decodeFrom (decodeByte b.toNat unfinished).2 bs

/-- UTF-8 with `errors="replace"`. -/
def decode : List UInt8 → List Char := decodeFrom none

/-! ### Lines -/

/-- Universal newlines: a carriage return becomes a newline, and a newline right after one goes. -/
def newlines : Bool → List Char → List Char
  | _, [] => []
  | afterReturn, c :: cs =>
    if c = '\r' then '\n' :: newlines true cs
    else if c = '\n' ∧ afterReturn then newlines false cs
    else c :: newlines false cs

/-- The text of a file. -/
def text (bytes : List UInt8) : List Char := newlines false (decode bytes)

/-- The lines that `readline` gives one after the other; the last one may have no end. -/
def readlines : List Char → List (List Char)
  | [] => []
  | c :: cs =>
    if c = '\n' then [c] :: readlines cs
    else match readlines cs with
      | [] => [[c]]
      | line :: lines => (c :: line) :: lines

/-- `line.rstrip("\r\n")`. -/
def rstrip (line : List Char) : List Char := line.rdropWhile fun c => c = '\r' || c = '\n'

/-- The line has an end. -/
def IsComplete (line : List Char) : Prop := line.getLast? = some '\n'

instance (line : List Char) : Decidable (IsComplete line) := inferInstanceAs (Decidable (_ = _))

/-- The lines that have an end, without it. -/
def completeLines (cs : List Char) : List (List Char) :=
  ((readlines cs).filter fun line => IsComplete line).map List.dropLast

/-- The bytes end at a line end, or there are none. -/
def Whole (bytes : List UInt8) : Prop := ∀ b ∈ bytes.getLast?, b = 0x0A ∨ b = 0x0D

instance (bytes : List UInt8) : Decidable (Whole bytes) :=
  inferInstanceAs (Decidable (∀ b ∈ bytes.getLast?, b = 0x0A ∨ b = 0x0D))

/-! ### Reading in parts -/

section Parts

variable {bs bs' : List UInt8} {cs cs' : List Char}

/-- An ASCII byte is read as itself, and leaves nothing unfinished. -/
theorem decodeByte_ascii {b : ℕ} (hb : b ≤ 0x7F) (unfinished : Option PartialChar) :
    ∃ before, decodeByte b unfinished = (before ++ [Char.ofNat b], none) := by
  cases unfinished with
  | none => exact ⟨[], by simp [decodeByte, firstByte, hb]⟩
  | some c =>
    have hlow : ¬ c.low ≤ b := by
      have := c.low_ge
      omega
    exact ⟨[replacement], by simp [decodeByte, firstByte, hb, hlow]⟩

/-- After an ASCII byte decoding starts afresh. -/
theorem decodeFrom_append (bs : List UInt8) {b : UInt8} (hb : b.toNat ≤ 0x7F)
    (unfinished : Option PartialChar) :
    ∃ before, ∀ bs', decodeFrom unfinished (bs ++ b :: bs') =
      before ++ Char.ofNat b.toNat :: decode bs' := by
  induction bs generalizing unfinished with
  | nil =>
    obtain ⟨before, hbyte⟩ := decodeByte_ascii hb unfinished
    refine ⟨before, fun bs' => ?_⟩
    rw [List.nil_append, decodeFrom, hbyte, decode]
    simp
  | cons a bs ih =>
    obtain ⟨before, hrest⟩ := ih (decodeByte a.toNat unfinished).2
    refine ⟨(decodeByte a.toNat unfinished).1 ++ before, fun bs' => ?_⟩
    rw [List.cons_append, decodeFrom, hrest, List.append_assoc]

theorem whole_append (h : Whole bs) (h' : Whole bs') : Whole (bs ++ bs') := by
  cases bs' using List.reverseRecOn with
  | nil => rwa [List.append_nil]
  | append_singleton init b =>
    rw [← List.append_assoc]
    simpa [Whole] using h'

/-- What ends at a line end is decoded by itself, and its last character is that end. -/
theorem decode_append {b : UInt8} (hwhole : Whole bs) (hlast : bs.getLast? = some b) :
    (∀ bs', decode (bs ++ bs') = decode bs ++ decode bs') ∧
      (decode bs).getLast? = some (Char.ofNat b.toNat) := by
  obtain ⟨init, rfl⟩ := List.getLast?_eq_some_iff.mp hlast
  have hascii : b.toNat ≤ 0x7F := by
    rcases hwhole b hlast with rfl | rfl <;> decide
  obtain ⟨before, hdecode⟩ := decodeFrom_append init hascii none
  have hself : decode (init ++ [b]) = before ++ [Char.ofNat b.toNat] := hdecode []
  refine ⟨fun bs' => ?_, ?_⟩
  · have hmore : decode (init ++ b :: bs') = before ++ Char.ofNat b.toNat :: decode bs' := hdecode bs'
    rw [List.append_assoc, List.singleton_append, hmore, hself, List.append_assoc,
      List.singleton_append]
  · rw [hself, List.getLast?_concat]

theorem ofNat_ne_newline {n : ℕ} (hn : n ≠ 10) : Char.ofNat n ≠ '\n' := by
  intro h
  by_cases hvalid : n.isValidChar
  · have hof : Char.ofNat n = Char.ofNatAux n hvalid := dif_pos hvalid
    exact hn (congrArg Char.toNat (hof.symm.trans h))
  · have hof : Char.ofNat n = Char.ofNat 0 := dif_neg hvalid
    exact absurd (hof.symm.trans h) (by decide)

/-- An unfinished character becomes no newline. -/
theorem head?_decodeFrom (c : PartialChar) : (decodeFrom (some c) bs).head? ≠ some '\n' := by
  induction bs generalizing c with
  | nil => simp [decodeFrom, replacement]
  | cons b bs ih =>
    rw [decodeFrom, decodeByte]
    split_ifs with hgoes
    · rw [laterByte]
      split
      next hmissing =>
        have hbits : 2 ≤ c.bits := by
          have := c.bits_ge
          omega
        simpa using ofNat_ne_newline (by omega)
      next => exact ih _
    · simp [replacement]

/-- Only the byte of a newline is read as one. -/
theorem head?_decode (h : bs.head? ≠ some 0x0A) : (decode bs).head? ≠ some '\n' := by
  cases bs with
  | nil => simp [decode, decodeFrom]
  | cons b bs =>
    have hb : b.toNat ≠ 10 := fun heq => h (congrArg some (UInt8.toNat_inj.mp heq))
    rw [decode, decodeFrom, decodeByte, firstByte]
    split_ifs
    · simpa using ofNat_ne_newline hb
    all_goals first | exact head?_decodeFrom _ | simp [replacement]

/-- Whether a carriage return has just been read. -/
def endsInReturn (afterReturn : Bool) (cs : List Char) : Bool :=
  cs.getLast?.elim afterReturn (· = '\r')

theorem newlines_append (afterReturn : Bool) :
    newlines afterReturn (cs ++ cs') =
      newlines afterReturn cs ++ newlines (endsInReturn afterReturn cs) cs' := by
  induction cs generalizing afterReturn with
  | nil => rfl
  | cons c cs ih =>
    have hends : ∀ flag, (c = '\r' ↔ flag = true) →
        endsInReturn afterReturn (c :: cs) = endsInReturn flag cs := by
      intro flag hflag
      cases hlast : cs.getLast? with
      | none => simp [endsInReturn, List.getLast?_cons, hlast, hflag]
      | some d => simp [endsInReturn, List.getLast?_cons, hlast]
    rw [List.cons_append, newlines, newlines]
    split_ifs with hreturn hskip
    · rw [ih, hends true (by simp [hreturn]), List.cons_append]
    · rw [ih, hends false (by simp [hreturn])]
    · rw [ih, hends false (by simp [hreturn]), List.cons_append]

/-- Only a newline is read differently after a carriage return. -/
theorem newlines_true (hhead : cs.head? ≠ some '\n') : newlines true cs = newlines false cs := by
  cases cs with
  | nil => rfl
  | cons c cs =>
    have hc : c ≠ '\n' := fun h => hhead (by rw [h]; rfl)
    simp [newlines, hc]

theorem not_mem_newlines (afterReturn : Bool) : '\r' ∉ newlines afterReturn cs := by
  induction cs generalizing afterReturn with
  | nil => simp [newlines]
  | cons c cs ih =>
    rw [newlines]
    split_ifs with hreturn hskip
    · simp [ih]
    · exact ih false
    · simp [ih, Ne.symm hreturn]

/-- Without a carriage return nothing is read differently. -/
theorem newlines_of_not_mem (h : '\r' ∉ cs) : newlines false cs = cs := by
  induction cs with
  | nil => rfl
  | cons c cs ih =>
    have hc : c ≠ '\r' := fun hc => h (by rw [hc]; exact List.mem_cons_self)
    have hcs : '\r' ∉ cs := fun hcs => h (List.mem_cons_of_mem _ hcs)
    simp [newlines, hc, ih hcs]

theorem getLast?_newlines_return (h : cs.getLast? = some '\r') :
    (newlines false cs).getLast? = some '\n' := by
  obtain ⟨init, rfl⟩ := List.getLast?_eq_some_iff.mp h
  rw [newlines_append]
  simp [newlines]

/-- A text with a line end at its end keeps one. -/
theorem getLast?_newlines (h : cs.getLast? = some '\n' ∨ cs.getLast? = some '\r') :
    (newlines false cs).getLast? = some '\n' := by
  rcases h with hnewline | hreturn
  · obtain ⟨init, rfl⟩ := List.getLast?_eq_some_iff.mp hnewline
    rw [newlines_append]
    cases hflag : endsInReturn false init with
    | false => simp [newlines]
    | true =>
      -- the newline goes, but the carriage return before it has become one
      have hinit : init.getLast? = some '\r' := by
        cases hlast : init.getLast? with
        | none => simp [endsInReturn, hlast] at hflag
        | some c =>
          rw [endsInReturn, hlast] at hflag
          exact congrArg some (by simpa using hflag)
      simpa [newlines] using getLast?_newlines_return hinit
  · exact getLast?_newlines_return hreturn

/-- After a line end the lines begin afresh. -/
theorem readlines_append (h : cs.getLast? = some '\n') :
    readlines (cs ++ cs') = readlines cs ++ readlines cs' := by
  induction cs with
  | nil => cases h
  | cons c cs ih =>
    rw [List.cons_append, readlines, readlines]
    split_ifs with hc
    · cases cs with
      | nil => rfl
      | cons d cs => rw [ih (by simpa using h), List.cons_append]
    · cases cs with
      | nil => exact absurd (Option.some.inj h) hc
      | cons d cs =>
        have hne : readlines (d :: cs) ≠ [] := by
          rw [readlines]
          split_ifs
          · simp
          · split <;> simp
        obtain ⟨line, lines, hlines⟩ := List.exists_cons_of_ne_nil hne
        rw [ih (by simpa using h), hlines]
        rfl

/-- Within a line no end stands before the last character. -/
theorem not_mem_dropLast {line : List Char} (h : line ∈ readlines cs) : '\n' ∉ line.dropLast := by
  induction cs generalizing line with
  | nil => cases h
  | cons c cs ih =>
    rw [readlines] at h
    split_ifs at h with hc
    · rcases List.mem_cons.mp h with rfl | hlater
      · simp
      · exact ih hlater
    · cases hlines : readlines cs with
      | nil =>
        rw [hlines] at h
        rw [List.mem_singleton.mp h]
        simp
      | cons first lines =>
        rw [hlines] at h ih
        rcases List.mem_cons.mp h with rfl | hlater
        · have hfirst := ih List.mem_cons_self
          cases first with
          | nil => simp
          | cons d first => simp [List.dropLast, Ne.symm hc, hfirst]
        · exact ih (List.mem_cons_of_mem first hlater)

/-- The lines are the text. -/
theorem flatten_readlines (cs : List Char) : (readlines cs).flatten = cs := by
  induction cs with
  | nil => rfl
  | cons c cs ih =>
    rw [readlines]
    split_ifs with hc
    · rw [List.flatten_cons, ih, List.singleton_append]
    · split
      next hnil =>
        rw [hnil] at ih
        rw [← ih]
        rfl
      next line lines hlines =>
        rw [hlines, List.flatten_cons] at ih
        rw [List.flatten_cons, List.cons_append, ih]

/-- A line that has an end loses nothing else when it is stripped. -/
theorem rstrip_eq_dropLast {line : List Char} (hline : line ∈ readlines (newlines false cs))
    (hcomplete : IsComplete line) : rstrip line = line.dropLast := by
  obtain ⟨body, rfl⟩ := List.getLast?_eq_some_iff.mp hcomplete
  have hnewline : '\n' ∉ body := by simpa using not_mem_dropLast hline
  have hreturn : '\r' ∉ body := by
    intro hmem
    have hflat : '\r' ∈ (readlines (newlines false cs)).flatten :=
      List.mem_flatten.mpr ⟨_, hline, List.mem_append_left _ hmem⟩
    rw [flatten_readlines] at hflat
    exact not_mem_newlines false hflat
  have hbody : body.rdropWhile (fun c => c = '\r' || c = '\n') = body := by
    rw [List.rdropWhile_eq_self_iff]
    intro hne hends
    have hlast := List.getLast_mem hne
    rcases (by simpa using hends) with h | h
    · exact hreturn (h ▸ hlast)
    · exact hnewline (h ▸ hlast)
  rw [rstrip, List.rdropWhile_concat_pos _ _ _ (by simp), hbody, List.dropLast_concat]

/-- Of a text that ends at a line end every line has an end. -/
theorem isComplete_of_mem (h : cs.getLast? = some '\n') {line : List Char}
    (hline : line ∈ readlines cs) : IsComplete line := by
  induction cs generalizing line with
  | nil => cases h
  | cons c cs ih =>
    have hlater : cs ≠ [] → cs.getLast? = some '\n' := by
      intro hne
      obtain ⟨d, cs, rfl⟩ := List.exists_cons_of_ne_nil hne
      simpa using h
    rw [readlines] at hline
    split_ifs at hline with hc
    · rcases List.mem_cons.mp hline with rfl | hmem
      · exact congrArg some hc
      · refine ih (hlater ?_) hmem
        rintro rfl
        cases hmem
    · have hne : cs ≠ [] := by
        rintro rfl
        exact hc (Option.some.inj h)
      split at hline
      next hnil =>
        have hflat := flatten_readlines cs
        rw [hnil] at hflat
        exact absurd hflat.symm hne
      next first lines hlines =>
        rcases List.mem_cons.mp hline with rfl | hmem
        · have hfirst := ih (hlater hne) (hlines ▸ List.mem_cons_self)
          simp only [IsComplete] at hfirst ⊢
          simp [List.getLast?_cons, hfirst]
        · exact ih (hlater hne) (hlines ▸ List.mem_cons_of_mem first hmem)

theorem completeLines_append (h : cs.getLast? = some '\n') :
    completeLines (cs ++ cs') = completeLines cs ++ completeLines cs' := by
  rw [completeLines, readlines_append h, List.filter_append, List.map_append]
  rfl

/-! ### The lines of a file -/

/-- The lines of a file that have an end. -/
def fileLines (bytes : List UInt8) : List (List Char) := completeLines (text bytes)

theorem getLast?_text (hwhole : Whole bs) (hne : bs ≠ []) : (text bs).getLast? = some '\n' := by
  obtain ⟨b, hb⟩ := Option.ne_none_iff_exists'.mp (mt List.getLast?_eq_none_iff.mp hne)
  have hlast := (decode_append hwhole hb).2
  apply getLast?_newlines
  rcases hwhole b hb with rfl | rfl
  · exact Or.inl hlast
  · exact Or.inr hlast

/-- Reading a file to a line end gives the lines that have an end. -/
theorem map_rstrip_readlines (hwhole : Whole bs) :
    (readlines (text bs)).map rstrip = fileLines bs := by
  by_cases hne : bs = []
  · rw [hne]
    rfl
  have hcomplete : ∀ line ∈ readlines (text bs), IsComplete line :=
    fun line hline => isComplete_of_mem (getLast?_text hwhole hne) hline
  rw [fileLines, completeLines, List.filter_eq_self.mpr (by simpa using hcomplete)]
  exact List.map_congr_left fun line hline => rstrip_eq_dropLast hline (hcomplete line hline)

/-- What is read before a line end does not depend on what comes after it. -/
theorem fileLines_prefix (hwhole : Whole bs) (bs' : List UInt8) :
    fileLines bs <+: fileLines (bs ++ bs') := by
  by_cases hne : bs = []
  · rw [hne]
    exact List.nil_prefix
  obtain ⟨b, hb⟩ := Option.ne_none_iff_exists'.mp (mt List.getLast?_eq_none_iff.mp hne)
  have hend : (newlines false (decode bs)).getLast? = some '\n' := getLast?_text hwhole hne
  rw [fileLines, fileLines, text, text, (decode_append hwhole hb).1, newlines_append,
    completeLines_append hend]
  exact List.prefix_append _ _

/-- A file may be read in parts that end at a line end, if none of them ends within one. -/
theorem fileLines_append (hwhole : Whole bs)
    (hsplit : ¬ (bs.getLast? = some 0x0D ∧ bs'.head? = some 0x0A)) :
    fileLines (bs ++ bs') = fileLines bs ++ fileLines bs' := by
  by_cases hne : bs = []
  · rw [hne]
    rfl
  obtain ⟨b, hb⟩ := Option.ne_none_iff_exists'.mp (mt List.getLast?_eq_none_iff.mp hne)
  obtain ⟨happend, hlast⟩ := decode_append hwhole hb
  have hend : (newlines false (decode bs)).getLast? = some '\n' := getLast?_text hwhole hne
  have hafresh : newlines (endsInReturn false (decode bs)) (decode bs') = text bs' := by
    rcases hwhole b hb with rfl | rfl
    · rw [endsInReturn, hlast]
      rfl
    · have hhead : bs'.head? ≠ some 0x0A := fun h => hsplit ⟨hb, h⟩
      rw [endsInReturn, hlast]
      exact newlines_true (head?_decode hhead)
  rw [fileLines, text, happend, newlines_append, hafresh, completeLines_append hend]
  rfl

end Parts

example : (readlines (text [0x61, 0x0D, 0x0A, 0xC3, 0xA9, 0x0D, 0xE2, 0x82, 0x0A, 0x62])).map rstrip =
    [['a'], ['é'], [replacement], ['b']] := by decide

end TextFile

/-! ### Lines and ends of any list -/

namespace Lines

variable {α : Type*} (p : α → Bool) {a : α} {l l' line : List α} {lines : List (List α)}

/-- Cut a list where a line ends; there is no line after the last end. -/
def split : List α → List (List α)
  | [] => []
  | a :: l =>
    if p a then [] :: split l
    else match split l with
      | [] => [[a]]
      | line :: lines => (a :: line) :: lines

/-- `sep.join(lines)`. -/
def joined (sep : α) : List (List α) → List α
  | [] => []
  | [line] => line
  | line :: line' :: lines => line ++ sep :: joined sep (line' :: lines)

/-- Remove the elements of a kind at both ends. -/
def trim (l : List α) : List α := (l.dropWhile p).rdropWhile p

variable {p}

/-! ### Lines -/

theorem split_append (hline : ∀ a ∈ line, p a = false) (ha : p a = true) (l : List α) :
    split p (line ++ a :: l) = line :: split p l := by
  induction line with
  | nil => simp [split, ha]
  | cons b line ih =>
    obtain ⟨hb, hline⟩ := List.forall_mem_cons.mp hline
    rw [List.cons_append, split, if_neg (by simp [hb]), ih hline]

/-- Lines that were joined, with an end after the last one. -/
theorem split_joined_concat {sep : α} (hsep : p sep = true) (hne : lines ≠ [])
    (hlines : ∀ line ∈ lines, ∀ a ∈ line, p a = false) :
    split p (joined sep lines ++ [sep]) = lines := by
  induction lines with
  | nil => contradiction
  | cons line lines ih =>
    obtain ⟨hline, hrest⟩ := List.forall_mem_cons.mp hlines
    cases lines with
    | nil => exact split_append hline hsep []
    | cons line' lines =>
      rw [joined, List.append_assoc, List.cons_append, split_append hline hsep,
        ih (List.cons_ne_nil _ _) hrest]

/-- No line has an end in it. -/
theorem forall_mem_split (l : List α) : ∀ line ∈ split p l, ∀ a ∈ line, p a = false := by
  induction l with
  | nil => simp [split]
  | cons a l ih =>
    rw [split]
    split_ifs with ha
    · exact List.forall_mem_cons.mpr ⟨by simp, ih⟩
    · have ha : p a = false := Bool.eq_false_iff.mpr ha
      cases hsplit : split p l with
      | nil => simpa using ha
      | cons line lines =>
        rw [hsplit] at ih
        obtain ⟨hline, hrest⟩ := List.forall_mem_cons.mp ih
        exact List.forall_mem_cons.mpr ⟨List.forall_mem_cons.mpr ⟨ha, hline⟩, hrest⟩

/-- What is in the joined lines is in one of them, or is the end between them. -/
theorem mem_joined {sep : α} (h : a ∈ joined sep lines) : a = sep ∨ ∃ line ∈ lines, a ∈ line := by
  induction lines with
  | nil => cases h
  | cons line lines ih =>
    cases lines with
    | nil => exact Or.inr ⟨line, List.mem_singleton_self line, h⟩
    | cons line' lines =>
      rw [joined] at h
      rcases List.mem_append.mp h with hline | htail
      · exact Or.inr ⟨line, List.mem_cons_self, hline⟩
      · rcases List.mem_cons.mp htail with hsep | hrest
        · exact Or.inl hsep
        · rcases ih hrest with hsep | ⟨line'', hmem, ha⟩
          · exact Or.inl hsep
          · exact Or.inr ⟨line'', List.mem_cons_of_mem _ hmem, ha⟩

/-! ### Ends -/

theorem trim_sublist (l : List α) : (trim p l).Sublist l :=
  (List.rdropWhile_prefix p _).sublist.trans (List.dropWhile_suffix p).sublist

theorem trim_cons_of_pos (ha : p a = true) (l : List α) : trim p (a :: l) = trim p l := by
  unfold trim
  rw [List.dropWhile_cons_of_pos ha]

/-- A last element of the kind goes. -/
theorem trim_concat_of_pos (ha : p a = true) (l : List α) : trim p (l ++ [a]) = trim p l := by
  unfold trim
  rw [List.dropWhile_append]
  split_ifs with hempty
  · rw [List.isEmpty_iff.mp hempty, List.dropWhile_cons_of_pos ha]
    rfl
  · exact List.rdropWhile_concat_pos _ _ _ ha

/-- The first element that stays is not of the kind. -/
theorem head?_trim (l : List α) : ∀ a ∈ (trim p l).head?, p a = false := by
  intro a ha
  have hprefix : trim p l <+: l.dropWhile p := List.rdropWhile_prefix p _
  have hne : l.dropWhile p ≠ [] := by
    rintro hnil
    rw [trim, hnil] at ha
    cases ha
  have hhead : a = (l.dropWhile p).head hne := by
    obtain ⟨rest, hrest⟩ := hprefix
    cases htrim : trim p l with
    | nil =>
      rw [htrim] at ha
      cases ha
    | cons b bs =>
      rw [htrim] at ha hrest
      obtain rfl := Option.some.inj ha
      simp [← hrest]
  rw [hhead]
  exact List.head_dropWhile_not p hne

/-- Neither is the last one. -/
theorem getLast?_trim (l : List α) : ∀ a ∈ (trim p l).getLast?, p a = false := by
  intro a ha
  have hne : trim p l ≠ [] := by
    rintro hnil
    rw [hnil] at ha
    cases ha
  have hlast : a = (trim p l).getLast hne := by
    rw [List.getLast?_eq_some_getLast hne] at ha
    exact (Option.some.inj ha).symm
  rw [hlast]
  exact Bool.eq_false_iff.mpr (List.rdropWhile_last_not p _ hne)

/-- Nothing is lost exactly where neither end is of the kind. -/
theorem trim_eq_self_iff :
    trim p l = l ↔ (∀ a ∈ l.head?, p a = false) ∧ ∀ a ∈ l.getLast?, p a = false := by
  constructor
  · intro h
    have hhead := head?_trim (p := p) l
    have hlast := getLast?_trim (p := p) l
    rw [h] at hhead hlast
    exact ⟨hhead, hlast⟩
  · rintro ⟨hhead, hlast⟩
    have hfront : l.dropWhile p = l := by
      cases l with
      | nil => rfl
      | cons a l => exact List.dropWhile_cons_of_neg (by simp [hhead a rfl])
    rw [trim, hfront]
    refine List.rdropWhile_eq_self_iff.mpr fun hne => ?_
    simp [hlast _ (List.getLast?_eq_some_getLast hne)]

theorem trim_trim (l : List α) : trim p (trim p l) = trim p l :=
  trim_eq_self_iff.mpr ⟨head?_trim l, getLast?_trim l⟩

/-- A first element that is not of the kind stays. -/
theorem head?_trim_of_head (h : ∀ a ∈ l.head?, p a = false) : (trim p l).head? = l.head? := by
  cases l with
  | nil => rfl
  | cons a l =>
    have ha : p a = false := h a rfl
    have hfront : trim p (a :: l) = (a :: l).rdropWhile p := by
      rw [trim, List.dropWhile_cons_of_neg (by simp [ha])]
    obtain ⟨rest, hrest⟩ := List.rdropWhile_prefix p (a :: l)
    rw [hfront]
    cases hkept : (a :: l).rdropWhile p with
    | nil =>
      have hall := List.rdropWhile_eq_nil_iff.mp hkept a List.mem_cons_self
      rw [ha] at hall
      cases hall
    | cons b bs =>
      rw [hkept, List.cons_append, List.cons.injEq] at hrest
      rw [hrest.1]
      rfl

/-- The end of a list goes before or with the rest. -/
theorem trim_rdropWhile (l : List α) : trim p (l.rdropWhile p) = trim p l := by
  induction l using List.reverseRecOn with
  | nil => rfl
  | append_singleton l a ih =>
    by_cases ha : p a = true
    · rw [List.rdropWhile_concat_pos _ _ _ ha, ih, trim_concat_of_pos ha]
    · rw [List.rdropWhile_concat_neg _ _ _ ha]

/-- An element in the middle that is not of the kind, with nothing to remove before it. -/
theorem trim_append_cons (hfront : ∀ b ∈ l.head?, p b = false) (ha : p a = false) (l' : List α) :
    trim p (l ++ a :: l') = l ++ a :: l'.rdropWhile p := by
  have hback : (l ++ a :: l').rdropWhile p = l ++ a :: l'.rdropWhile p := by
    induction l' using List.reverseRecOn with
    | nil => exact List.rdropWhile_concat_neg _ _ _ (by simp [ha])
    | append_singleton l' b ih =>
      rw [← List.cons_append, ← List.append_assoc]
      by_cases hb : p b = true
      · rw [List.rdropWhile_concat_pos _ _ _ hb, List.rdropWhile_concat_pos _ _ _ hb, ih]
      · rw [List.rdropWhile_concat_neg _ _ _ hb, List.rdropWhile_concat_neg _ _ _ hb,
          List.append_assoc, List.cons_append]
  have hwhole : (l ++ a :: l').dropWhile p = l ++ a :: l' := by
    cases l with
    | nil => exact List.dropWhile_cons_of_neg (by simp [ha])
    | cons b l => exact List.dropWhile_cons_of_neg (by simp [hfront b rfl])
  rw [trim, hwhole, hback]

end Lines
