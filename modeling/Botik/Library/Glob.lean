import Mathlib.Data.List.Infix
import Mathlib.Tactic.Basic

/-!
# File name patterns

`fnmatch`: a star stands for any text, a question mark for a character, and a set in brackets for
one of its characters, or for one that is none of them.

## Main definitions

* `Glob.Item`, `Glob.parse` — a pattern
* `Glob.globMatches`

## Main results

* `globMatches_star` — one star between two plain texts
-/

namespace Glob

/-- A part of a pattern. -/
inductive Item
  | char (c : Char)
  | anyChar
  | anyText
  | oneOf (negated : Bool) (ranges : List (Char × Char))

/-- A character meets a part that stands for one character. -/
def Item.accepts (c : Char) : Item → Bool
  | .char c' => c = c'
  | .anyChar => true
  | .anyText => false
  | .oneOf negated ranges => (ranges.any fun r => r.1 ≤ c && c ≤ r.2) != negated

/-- A text meets a pattern. -/
def matchItems : List Item → List Char → Bool
  | [], cs => cs.isEmpty
  | .anyText :: items, cs => cs.tails.any (matchItems items)
  | _ :: _, [] => false
  | item :: items, c :: cs => item.accepts c && matchItems items cs

/-- The members of a set. -/
def ranges : List Char → List (Char × Char)
  | [] => []
  | a :: '-' :: b :: cs => (a, b) :: ranges cs
  | a :: cs => (a, a) :: ranges cs

/-- What follows an opening bracket: a set, and the rest of the pattern. -/
def bracket? (cs : List Char) : Option (Item × List Char) :=
  let (negated, body) := match cs with
    | '!' :: cs => (true, cs)
    | cs => (false, cs)
  -- a bracket right at the start is a member
  let (first, body) := match body with
    | ']' :: cs => ([']'], cs)
    | cs => ([], cs)
  match body.dropWhile (· ≠ ']') with
  | [] => none
  | _ :: later => some (.oneOf negated (ranges (first ++ body.takeWhile (· ≠ ']'))), later)

/-- The parts of a pattern of at most so many characters. -/
def parse : ℕ → List Char → List Item
  | 0, _ => []
  | _, [] => []
  | fuel + 1, c :: cs =>
    if c = '*' then .anyText :: parse fuel cs
    else if c = '?' then .anyChar :: parse fuel cs
    else if c = '[' then
      match bracket? cs with
      | some (item, later) => item :: parse fuel later
      | none => .char '[' :: parse fuel cs
    else .char c :: parse fuel cs

/-- `fnmatch.fnmatchcase`. -/
def globMatches (pattern text : String) : Bool :=
  matchItems (parse pattern.toList.length pattern.toList) text.toList

/-! ### Plain texts -/

variable {cs front back text : List Char} {fuel : ℕ}

/-- Without special characters. -/
def Plain (cs : List Char) : Prop := ∀ c ∈ cs, c ≠ '*' ∧ c ≠ '?' ∧ c ≠ '['

instance : DecidablePred Plain := fun cs => List.decidableBAll _ cs

theorem Plain.append (hfront : Plain front) (hback : Plain back) : Plain (front ++ back) := by
  intro c hc
  rcases List.mem_append.mp hc with hc | hc
  · exact hfront c hc
  · exact hback c hc

theorem parse_plain_append (h : Plain front) (hfuel : (front ++ cs).length ≤ fuel) :
    parse fuel (front ++ cs) = front.map Item.char ++ parse (fuel - front.length) cs := by
  induction front generalizing fuel with
  | nil => simp
  | cons c front ih =>
    obtain ⟨⟨hstar, hmark, hbracket⟩, hrest⟩ := List.forall_mem_cons.mp h
    obtain ⟨fuel, rfl⟩ : ∃ m, fuel = m + 1 :=
      ⟨fuel - 1, by simp only [List.cons_append, List.length_cons] at hfuel; omega⟩
    rw [List.cons_append, parse, if_neg hstar, if_neg hmark, if_neg hbracket, ih hrest,
      List.map_cons, List.cons_append, List.length_cons, Nat.add_sub_add_right]
    simpa using hfuel

theorem matchItems_plain_append (items : List Item) (text : List Char) :
    matchItems (front.map Item.char ++ items) text = true ↔
      ∃ later, text = front ++ later ∧ matchItems items later = true := by
  induction front generalizing text with
  | nil => simp
  | cons c front ih =>
    cases text with
    | nil => simp [matchItems]
    | cons c' text =>
      have hstep : matchItems ((c :: front).map Item.char ++ items) (c' :: text) =
          (decide (c' = c) && matchItems (front.map Item.char ++ items) text) := rfl
      rw [hstep, Bool.and_eq_true, decide_eq_true_eq, ih]
      constructor
      · rintro ⟨rfl, later, rfl, hlater⟩
        exact ⟨later, rfl, hlater⟩
      · rintro ⟨later, hsplit, hlater⟩
        obtain ⟨hc, hrest⟩ := List.cons.inj hsplit
        exact ⟨hc, later, hrest, hlater⟩

theorem matchItems_plain (text : List Char) :
    matchItems (back.map Item.char) text = true ↔ text = back := by
  have h : matchItems (back.map Item.char ++ []) text = true ↔ _ := matchItems_plain_append [] text
  rw [List.append_nil] at h
  rw [h]
  simp [matchItems]

/-- One star between two plain texts. -/
theorem globMatches_star {pattern text : String} (hpattern : pattern.toList = front ++ '*' :: back)
    (hfront : Plain front) (hback : Plain back) :
    globMatches pattern text = true ↔ ∃ middle, text.toList = front ++ (middle ++ back) := by
  have hparse : parse pattern.toList.length pattern.toList =
      front.map Item.char ++ .anyText :: back.map Item.char := by
    rw [hpattern, parse_plain_append hfront (Nat.le_refl _), List.length_append,
      Nat.add_sub_cancel_left, List.length_cons]
    have hrest : parse back.length (back ++ []) = _ := parse_plain_append hback (by simp)
    rw [List.append_nil, Nat.sub_self] at hrest
    rw [parse, if_pos rfl, hrest, parse, List.append_nil]
  rw [globMatches, hparse, matchItems_plain_append]
  constructor
  · rintro ⟨later, htext, hlater⟩
    obtain ⟨tail, htail, hback⟩ := List.any_eq_true.mp hlater
    obtain ⟨middle, rfl⟩ := (List.mem_tails _ _).mp htail
    rw [(matchItems_plain tail).mp hback] at htext
    exact ⟨middle, htext⟩
  · rintro ⟨middle, htext⟩
    refine ⟨_, htext, List.any_eq_true.mpr ⟨back, ?_, (matchItems_plain back).mpr rfl⟩⟩
    exact (List.mem_tails _ _).mpr (List.suffix_append _ _)

end Glob
