import Mathlib.Algebra.Order.Field.Rat
import Mathlib.Data.List.DropRight
import Mathlib.Data.Rat.Floor

/-!
# Numbers and flags in text fields

Exchange answers carry every number as text, and the code reads such a field as
`float(item.get(key) or 0.0)`. A field is `none` when its key is missing or
null; the empty text counts as missing too, because it is falsy. Numbers are
read exactly, as rationals: the texts `inf`, `nan` and digits grouped by
underscores are treated as unreadable, and so are digits that are not ASCII. The case of
letters that are not ASCII stays.

## Main definitions

* `Text.truthy`, `Text.firstTruthy` — the `or` of text fields
* `Text.upper`, `Text.lower`, `Text.isSpace`, `Text.strip`, `Text.startsWith` — case, blanks and
  beginnings
* `Text.contains`, `Text.removeAll` — parts of a text
* `Text.float?`, `Text.int?` — the number a text denotes, if it denotes one
* `Text.roundHalfEven`, `Text.fixed8`, `Text.truncate` — rounding, as formatting
  and `int` do it
-/

namespace Text

/-- A field as `or` sees it: empty text is no text. -/
def truthy (field : Option String) : Option String := field.filter (· ≠ "")

/-- `a or b` for two text fields. -/
def firstTruthy (a b : Option String) : Option String := (truthy a).or (truthy b)

/-- `str(x or "")`. -/
def orEmpty (field : Option String) : String := field.getD ""

def upper (s : String) : String := String.ofList (s.toList.map Char.toUpper)

def lower (s : String) : String := String.ofList (s.toList.map Char.toLower)

theorem toUpper_toUpper (c : Char) : c.toUpper.toUpper = c.toUpper := by
  by_cases hlower : 97 ≤ c.val ∧ c.val ≤ 122
  · have hupper : ¬ (97 ≤ c.val + 4294967264 ∧ c.val + 4294967264 ≤ 122) := by
      simp only [UInt32.le_iff_toNat_le, UInt32.toNat_add] at hlower ⊢
      have h97 : (97 : UInt32).toNat = 97 := rfl
      have h122 : (122 : UInt32).toNat = 122 := rfl
      have hshift : (4294967264 : UInt32).toNat = 4294967264 := rfl
      omega
    have hval : c.toUpper.val = c.val + 4294967264 := by
      delta Char.toUpper
      simp [hlower]
    exact dif_neg (by rw [hval]; exact hupper)
  · have hsame : c.toUpper = c := dif_neg hlower
    rw [hsame, hsame]

@[simp] theorem upper_upper (s : String) : upper (upper s) = upper s := by
  unfold upper
  rw [String.toList_ofList, List.map_map]
  congr 1
  exact List.map_congr_left fun c _ => toUpper_toUpper c

theorem upper_ne_empty {s : String} (h : s ≠ "") : upper s ≠ "" := by
  intro hempty
  have hlist := congrArg String.toList hempty
  unfold upper at hlist
  rw [String.toList_ofList] at hlist
  exact h (String.toList_inj.mp (List.map_eq_nil_iff.mp hlist))

theorem upper_append (s t : String) : upper (s ++ t) = upper s ++ upper t := by
  unfold upper
  rw [String.toList_append, List.map_append, String.ofList_append]

/-- `c.isspace()`. -/
def isSpace (c : Char) : Bool :=
  c.toNat ∈ [9, 10, 11, 12, 13, 28, 29, 30, 31, 32, 133, 160, 5760, 8232, 8233, 8239, 8287,
    12288] || (8192 ≤ c.toNat && c.toNat ≤ 8202)

/-- Remove blanks at both ends. -/
def strip (s : String) : String :=
  String.ofList ((s.toList.dropWhile isSpace).reverse.dropWhile isSpace).reverse

/-- Letters are no blanks. -/
theorem isSpace_of_letter {c : Char} (h : 65 ≤ c.toNat) (h' : c.toNat ≤ 122) :
    isSpace c = false := by
  have hlisted : c.toNat ∉ [9, 10, 11, 12, 13, 28, 29, 30, 31, 32, 133, 160, 5760, 8232, 8233, 8239,
      8287, 12288] := by
    simp only [List.mem_cons, List.not_mem_nil, or_false]
    omega
  have hrange : ¬ 8192 ≤ c.toNat := by omega
  simp only [isSpace, hlisted, hrange, decide_false, Bool.false_or, Bool.false_and]

/-- A lower-case letter and its capital are no blanks. -/
theorem isSpace_toUpper (c : Char) : isSpace c.toUpper = isSpace c := by
  by_cases hlower : 97 ≤ c.val ∧ c.val ≤ 122
  · have hval : c.toUpper.val = c.val + 4294967264 := by
      delta Char.toUpper
      simp [hlower]
    have hcode : 97 ≤ c.toNat ∧ c.toNat ≤ 122 := by
      rw [UInt32.le_iff_toNat_le, UInt32.le_iff_toNat_le] at hlower
      exact hlower
    have hupper : 65 ≤ c.toUpper.toNat ∧ c.toUpper.toNat ≤ 90 := by
      have hnat : c.toUpper.toNat = c.toUpper.val.toNat := rfl
      have hshift : (4294967264 : UInt32).toNat = 4294967264 := rfl
      have hsame : c.val.toNat = c.toNat := rfl
      rw [hnat, hval, UInt32.toNat_add, hshift, hsame]
      omega
    rw [isSpace_of_letter hupper.1 (by omega), isSpace_of_letter (by omega) hcode.2]
  · have hsame : c.toUpper = c := dif_neg hlower
    rw [hsame]

/-- Capitals and blanks do not interfere. -/
theorem upper_strip (s : String) : upper (strip s) = strip (upper s) := by
  have hblank : isSpace ∘ Char.toUpper = isSpace :=
    funext isSpace_toUpper
  unfold upper strip
  simp only [String.toList_ofList, List.dropWhile_map, ← List.map_reverse, hblank]

/-- A list without blanks at its ends has none to remove. -/
theorem strip_strip (s : String) : strip (strip s) = strip s := by
  have hstrip : ∀ t : String, strip t =
      String.ofList ((t.toList.dropWhile isSpace).rdropWhile isSpace) :=
    fun _ => rfl
  rw [hstrip (strip s), hstrip s, String.toList_ofList]
  -- the first character that stays is no blank, and is still the first one
  have hfirst : ((s.toList.dropWhile isSpace).rdropWhile isSpace).dropWhile
      isSpace = (s.toList.dropWhile isSpace).rdropWhile isSpace := by
    rw [List.dropWhile_eq_self_iff]
    intro hpos
    have hprefix := List.rdropWhile_prefix isSpace (s.toList.dropWhile isSpace)
    have hdrop : 0 < (s.toList.dropWhile isSpace).length :=
      hpos.trans_le hprefix.length_le
    rw [List.IsPrefix.getElem hprefix hpos]
    have hself := List.dropWhile_eq_self_iff.mp
      (List.dropWhile_idempotent isSpace s.toList)
    exact hself hdrop
  rw [hfirst, List.rdropWhile_idempotent]

/-- `text.startswith(start)`. -/
def startsWith (start text : String) : Bool := start.toList.isPrefixOf text.toList

/-- A beginning without blanks at its ends stays. -/
theorem startsWith_strip {start text : String} (hne : start.toList ≠ [])
    (hhead : isSpace (start.toList.head hne) = false)
    (hlast : isSpace (start.toList.getLast hne) = false)
    (h : startsWith start text = true) : startsWith start (strip text) = true := by
  unfold startsWith at h ⊢
  obtain ⟨rest, hrest⟩ := List.isPrefixOf_iff_prefix.mp h
  have hfront : text.toList.dropWhile isSpace = text.toList := by
    rw [← hrest, List.dropWhile_append]
    have hself : start.toList.dropWhile isSpace = start.toList := by
      rw [List.dropWhile_eq_self_iff]
      intro hpos
      rw [← List.head_eq_getElem hne, hhead]
      exact Bool.false_ne_true
    rw [hself, if_neg (by simpa using hne)]
  have hback : start.toList.reverse.dropWhile isSpace = start.toList.reverse := by
    rw [List.dropWhile_eq_self_iff]
    intro hpos
    rw [← List.head_eq_getElem (by simpa using hne), List.head_reverse, hlast]
    exact Bool.false_ne_true
  rw [List.isPrefixOf_iff_prefix]
  unfold strip
  rw [String.toList_ofList, hfront, ← hrest, List.reverse_append, List.dropWhile_append]
  split_ifs with hblank
  · have hsame : (start.toList.reverse.dropWhile isSpace).reverse = start.toList := by
      rw [hback, List.reverse_reverse]
    exact hsame.symm ▸ List.prefix_rfl
  · rw [List.reverse_append, List.reverse_reverse]
    exact List.prefix_append _ _

/-- `part in text`. -/
def contains (part text : String) : Bool := text.toList.tails.any (part.toList.isPrefixOf ·)

/-- Drop the occurrences of `part`, from the left; `skip` characters of one are still to go. -/
def dropParts (part : List Char) : ℕ → List Char → List Char
  | _, [] => []
  | skip + 1, _ :: cs => dropParts part skip cs
  | 0, c :: cs =>
    if part.isPrefixOf (c :: cs) then dropParts part (part.length - 1) cs
    else c :: dropParts part 0 cs

/-- `text.replace(part, "")`, for a part that is not empty. -/
def removeAll (part text : String) : String := String.ofList (dropParts part.toList 0 text.toList)

/-- Split a leading sign off; `true` is minus. -/
def splitSign : List Char → Bool × List Char
  | '-' :: cs => (true, cs)
  | '+' :: cs => (false, cs)
  | cs => (false, cs)

/-- The value of a list of decimal digits. -/
def digits (cs : List Char) : ℕ := cs.foldl (fun n c => 10 * n + (c.toNat - '0'.toNat)) 0

/-- The value of a non-empty list of digits. -/
def digits? (cs : List Char) : Option ℕ :=
  if cs ≠ [] ∧ cs.all Char.isDigit then some (digits cs) else none

/-- Python's `int` on text. -/
def int? (s : String) : Option ℤ :=
  let (negative, body) := splitSign (strip s).toList
  (digits? body).map fun n => if negative then -(n : ℤ) else n

/-- The exponent part of a float literal, the marker included. -/
def exponent? : List Char → Option ℤ
  | [] => some 0
  | _ :: cs =>
    let (negative, body) := splitSign cs
    (digits? body).map fun n => if negative then -(n : ℤ) else n

/-- Python's `float` on text, exactly. -/
def float? (s : String) : Option ℚ :=
  let (negative, body) := splitSign (strip s).toList
  let (mantissa, tail) := body.span fun c => c ≠ 'e' ∧ c ≠ 'E'
  let (whole, rest) := mantissa.span (· ≠ '.')
  let fraction := rest.drop 1
  match digits? (whole ++ fraction), exponent? tail with
  | some n, some e =>
    let magnitude := (n : ℚ) * 10 ^ (e - fraction.length)
    some (if negative then -magnitude else magnitude)
  | _, _ => none

/-- The nearest integer, the even one of two. -/
def roundHalfEven (q : ℚ) : ℤ :=
  let floor := q.floor
  if q - floor < 1 / 2 then floor
  else if 1 / 2 < q - floor then floor + 1
  else if floor % 2 = 0 then floor
  else floor + 1

/-- The number printed by the format `.8f`. -/
def fixed8 (q : ℚ) : ℚ := roundHalfEven (q * 10 ^ 8) / 10 ^ 8

/-- Python's `int` on a number. -/
def truncate (q : ℚ) : ℤ := q.num.tdiv q.den

example : float? " -12.50e1 " = some (-125) := by decide +kernel

example : float? "1.2.3" = none := by decide +kernel

example : fixed8 (1 / 3) = 33333333 / 10 ^ 8 := by decide +kernel

end Text
