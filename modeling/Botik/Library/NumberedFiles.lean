import Mathlib.Data.List.Induction
import Mathlib.Data.String.Basic
import Mathlib.Tactic.Ring
import Botik.Library.Dict
import Botik.Library.Listing

/-!
# Numbered files

Files of several owners lie in one directory, each under a name that is made of its owner and a
number. An owner sees the files of a pattern, and takes the last one in the order of the names for
the one with the greatest number. That is right as long as a new file is seen by its owner alone and
its name comes after that of the greatest number, or before it, just as the number does.

## Main definitions

* `FileNumbering` — how files are named, and who sees which
* `FileNumbering.greatest?` — of all entries of an owner, the one with the greatest number
* `FileNumbering.latestFile` — of all files an owner sees, the one with the last name
* `FileNumbering.Fits` — what a new file has to meet
* `FileNumbering.Orderly` — a directory in which the last name has the greatest number

## Main results

* `Orderly.concat` — a file that fits
* `toDigits_lt_toDigits` — the texts of numbers of equally many digits
-/

/-- How the files of some entries are named, and which ones an owner sees. -/
structure FileNumbering (ε κ ν π : Type*) where
  owner : ε → κ
  number : ε → ν
  content : ε → π
  fileOf : κ → ν → String
  shows : κ → String → Bool

namespace FileNumbering

variable {ε κ ν π : Type*} {n : FileNumbering ε κ ν π} {entries : List ε} {e e' g : ε} {k : κ}
  {d : Dict String π} {file : String}

/-- The name of the file of an entry. -/
def name (n : FileNumbering ε κ ν π) (e : ε) : String := n.fileOf (n.owner e) (n.number e)

/-! ### The last file -/

/-- Of the files an owner sees the last one in the order of the names. -/
def latestFile (n : FileNumbering ε κ ν π) (k : κ) (d : Dict String π) : Option String :=
  (Newest.sortedBy id (d.keys.filter (n.shows k))).getLast?

theorem latestFile_eq_some (hmem : file ∈ d.keys) (hshows : n.shows k file = true)
    (hlast : ∀ file' ∈ d.keys, n.shows k file' = true → file' ≤ file) :
    n.latestFile k d = some file := by
  have hin : file ∈ Newest.sortedBy id (d.keys.filter (n.shows k)) :=
    Newest.mem_sortedBy.mpr (List.mem_filter.mpr ⟨hmem, hshows⟩)
  have hsorted : (Newest.sortedBy id (d.keys.filter (n.shows k))).Pairwise (· ≤ ·) :=
    List.pairwise_insertionSort _ _
  unfold latestFile
  cases hget : (Newest.sortedBy id (d.keys.filter (n.shows k))).getLast? with
  | none =>
    rw [List.getLast?_eq_none_iff.mp hget] at hin
    cases hin
  | some last =>
    obtain ⟨before, hsplit⟩ := List.getLast?_eq_some_iff.mp hget
    have hkept := Newest.mem_sortedBy.mp (List.mem_of_getLast? hget)
    obtain ⟨hkey, hshown⟩ := List.mem_filter.mp hkept
    have hle : file ≤ last := by
      rw [hsplit] at hin hsorted
      rcases List.mem_append.mp hin with hbefore | hsame
      · exact (List.pairwise_append.mp hsorted).2.2 file hbefore last List.mem_cons_self
      · exact (List.mem_singleton.mp hsame).le
    exact congrArg some ((hlast last hkey hshown).antisymm hle)

/-! ### The greatest number -/

variable [DecidableEq κ] [LinearOrder ν]

/-- Of some entries those of an owner: the one with the greatest number, the later one of equals. -/
def greatest? (n : FileNumbering ε κ ν π) (k : κ) (entries : List ε) : Option ε :=
  entries.foldl (fun best e =>
    if n.owner e = k ∧ best.all (fun g => n.number g ≤ n.number e) then some e else best) none

theorem greatest?_concat (entries : List ε) (e : ε) :
    n.greatest? k (entries ++ [e]) =
      if n.owner e = k ∧ (n.greatest? k entries).all (fun g => n.number g ≤ n.number e) then some e
      else n.greatest? k entries := by
  rw [greatest?, List.foldl_append]
  rfl

theorem mem_of_greatest? (h : n.greatest? k entries = some g) : g ∈ entries ∧ n.owner g = k := by
  induction entries using List.reverseRecOn with
  | nil => cases h
  | append_singleton entries e ih =>
    rw [greatest?_concat] at h
    split_ifs at h with hnew
    · cases h
      exact ⟨List.mem_concat_self, hnew.1⟩
    · exact ⟨List.mem_append_left _ (ih h).1, (ih h).2⟩

/-- No number of the owner is greater. -/
theorem exists_greatest? (h : e ∈ entries) :
    ∃ g, n.greatest? (n.owner e) entries = some g ∧ n.number e ≤ n.number g := by
  induction entries using List.reverseRecOn with
  | nil => cases h
  | append_singleton entries e' ih =>
    rw [greatest?_concat]
    split_ifs with hnew
    · refine ⟨e', rfl, ?_⟩
      rcases List.mem_append.mp h with hold | hlast
      · obtain ⟨g, hg, hle⟩ := ih hold
        rw [hg] at hnew
        exact hle.trans (by simpa using hnew.2)
      · rw [List.mem_singleton.mp hlast]
    · rcases List.mem_append.mp h with hold | hlast
      · exact ih hold
      · obtain rfl := List.mem_singleton.mp hlast
        -- the new entry is not the greatest one, so an older one is
        cases hg : n.greatest? (n.owner e) entries with
        | none => simp [hg] at hnew
        | some g =>
          refine ⟨g, rfl, ?_⟩
          have hless : ¬ n.number g ≤ n.number e := by simpa [hg] using hnew
          exact (lt_of_not_ge hless).le

/-! ### Files that fit -/

/-- A new entry fits: its owner sees its file and none of another owner, no other owner sees it, and
it comes after the file of the greatest number, or before it, just as its number does. -/
structure Fits (n : FileNumbering ε κ ν π) (entries : List ε) (e : ε) : Prop where
  own : n.shows (n.owner e) (n.name e) = true
  apart : ∀ e' ∈ entries, n.owner e' ≠ n.owner e →
    n.shows (n.owner e) (n.name e') = false ∧ n.shows (n.owner e') (n.name e) = false
  inOrder : ∀ g, n.greatest? (n.owner e) entries = some g →
    (n.number g < n.number e → n.name g < n.name e) ∧
      (n.number e < n.number g → n.name e < n.name g)

/-- A directory that holds the files of some entries: every owner sees its own ones, and the last of
them is that of the greatest number. -/
structure Orderly (n : FileNumbering ε κ ν π) (entries : List ε) (d : Dict String π) : Prop where
  keys : ∀ file, file ∈ d.keys ↔ ∃ e ∈ entries, file = n.name e
  seen : ∀ e ∈ entries, ∀ e' ∈ entries,
    n.shows (n.owner e) (n.name e') = true ↔ n.owner e' = n.owner e
  last : ∀ e ∈ entries, ∀ g, n.greatest? (n.owner e) entries = some g → n.name e ≤ n.name g
  stored : ∀ k g, n.greatest? k entries = some g → d.get? (n.name g) = some (n.content g)

theorem orderly_empty (n : FileNumbering ε κ ν π) : Orderly n [] .empty where
  keys := by simp [Dict.keys]
  seen := by simp
  last := by simp
  stored := by simp [greatest?]

/-- In an orderly directory the last file an owner sees has the greatest number. -/
theorem Orderly.latestFile_eq (h : Orderly n entries d) (hg : n.greatest? k entries = some g) :
    n.latestFile k d = some (n.name g) := by
  obtain ⟨hmem, rfl⟩ := mem_of_greatest? hg
  apply latestFile_eq_some
  · exact (h.keys _).mpr ⟨g, hmem, rfl⟩
  · exact (h.seen g hmem g hmem).mpr rfl
  · intro file' hkey hshows
    obtain ⟨e', he', rfl⟩ := (h.keys file').mp hkey
    have howner := (h.seen g hmem e' he').mp hshows
    exact h.last e' he' g (by rw [howner]; exact hg)

/-- An entry that is not the greatest one of its owner is below an older one. -/
theorem lt_of_greatest?_concat (hg : n.greatest? (n.owner e) entries = some g)
    (hold : ¬ (n.owner e = n.owner e ∧
      (n.greatest? (n.owner e) entries).all (fun g => n.number g ≤ n.number e) = true)) :
    n.number e < n.number g := by
  rw [hg] at hold
  exact lt_of_not_ge fun hle => hold ⟨rfl, by simpa using hle⟩

theorem Orderly.seen_concat (h : Orderly n entries d) (hfits : Fits n entries e) :
    ∀ a ∈ entries ++ [e], ∀ b ∈ entries ++ [e],
      n.shows (n.owner a) (n.name b) = true ↔ n.owner b = n.owner a := by
  intro a ha b hb
  rcases List.mem_append.mp ha with holdA | hlastA
  · rcases List.mem_append.mp hb with holdB | hlastB
    · exact h.seen a holdA b holdB
    · rw [List.mem_singleton.mp hlastB]
      by_cases hsame : n.owner a = n.owner e
      · rw [hsame]
        exact iff_of_true hfits.own rfl
      · rw [(hfits.apart a holdA hsame).2]
        exact iff_of_false Bool.false_ne_true fun heq => hsame heq.symm
  · rw [List.mem_singleton.mp hlastA]
    rcases List.mem_append.mp hb with holdB | hlastB
    · by_cases hsame : n.owner b = n.owner e
      · rw [← hsame]
        exact iff_of_true ((h.seen b holdB b holdB).mpr rfl) rfl
      · rw [(hfits.apart b holdB hsame).1]
        exact iff_of_false Bool.false_ne_true hsame
    · rw [List.mem_singleton.mp hlastB]
      exact iff_of_true hfits.own rfl

theorem Orderly.last_concat (h : Orderly n entries d) (hfits : Fits n entries e) :
    ∀ a ∈ entries ++ [e], ∀ g, n.greatest? (n.owner a) (entries ++ [e]) = some g →
      n.name a ≤ n.name g := by
  intro a ha g hg
  rw [greatest?_concat] at hg
  split_ifs at hg with hnew
  · obtain rfl := Option.some.inj hg
    rcases List.mem_append.mp ha with hold | hlast
    · obtain ⟨g, hbest, -⟩ := exists_greatest? (n := n) hold
      have hle : n.number g ≤ n.number e := by simpa [hbest] using hnew.2
      have howner : n.owner g = n.owner e := (mem_of_greatest? hbest).2.trans hnew.1.symm
      -- the file of the greatest number so far is not after the new one
      refine (h.last a hold g hbest).trans ?_
      rcases hle.lt_or_eq with hless | hsame
      · exact ((hfits.inOrder g (by rw [hnew.1]; exact hbest)).1 hless).le
      · rw [name, name, howner, hsame]
    · rw [List.mem_singleton.mp hlast]
  · rcases List.mem_append.mp ha with hold | hlast
    · exact h.last a hold g hg
    · obtain rfl := List.mem_singleton.mp hlast
      exact ((hfits.inOrder g hg).2 (lt_of_greatest?_concat hg hnew)).le

theorem Orderly.stored_concat (h : Orderly n entries d) (hfits : Fits n entries e) (k : κ) (g : ε)
    (hg : n.greatest? k (entries ++ [e]) = some g) :
    (d.set (n.name e) (n.content e)).get? (n.name g) = some (n.content g) := by
  rw [greatest?_concat] at hg
  split_ifs at hg with hnew
  · obtain rfl := Option.some.inj hg
    exact Dict.get?_set_self _ _ _
  · obtain ⟨hmem, rfl⟩ := mem_of_greatest? hg
    -- the new file has another name than that of the greatest number
    have hother : n.name g ≠ n.name e := by
      intro hsame
      by_cases howner : n.owner g = n.owner e
      · rw [howner] at hg hnew
        have hless := (hfits.inOrder g hg).2 (lt_of_greatest?_concat hg hnew)
        exact hless.ne hsame.symm
      · have hshown := (h.seen g hmem g hmem).mpr rfl
        rw [hsame, (hfits.apart g hmem howner).2] at hshown
        cases hshown
    rw [Dict.get?_set_of_ne hother, h.stored _ g hg]

/-- A file that fits keeps a directory orderly. -/
theorem Orderly.concat (h : Orderly n entries d) (hfits : Fits n entries e) :
    Orderly n (entries ++ [e]) (d.set (n.name e) (n.content e)) where
  keys := by
    intro file
    have hkeys : file ∈ (d.set (n.name e) (n.content e)).keys ↔
        file ∈ d.keys ∨ file = n.name e := by
      rw [Dict.keys_set]
      split_ifs with hold
      · exact ⟨Or.inl, fun hor => hor.elim id fun hsame => hsame ▸ hold⟩
      · rw [List.mem_append, List.mem_singleton]
    rw [hkeys, h.keys]
    simp only [List.mem_append, List.mem_singleton, or_and_right, exists_or, exists_eq_left]
  seen := h.seen_concat hfits
  last := h.last_concat hfits
  stored := h.stored_concat hfits

/-! ### Numbers in names -/

section Digits

variable {cs ds : List Char} {m n : ℕ}

theorem ofDigitChars_cons (c : Char) (cs : List Char) :
    Nat.ofDigitChars 10 (c :: cs) 0 =
      10 ^ cs.length * (c.toNat - '0'.toNat) + Nat.ofDigitChars 10 cs 0 := by
  rw [Nat.ofDigitChars_cons, Nat.ofDigitChars_eq_ofDigitChars_zero, Nat.mul_zero, Nat.zero_add]

theorem ofDigitChars_lt (h : ∀ c ∈ cs, c.isDigit = true) :
    Nat.ofDigitChars 10 cs 0 < 10 ^ cs.length := by
  induction cs with
  | nil => simp
  | cons c cs ih =>
    obtain ⟨hc, hcs⟩ := List.forall_mem_cons.mp h
    have hrest := ih hcs
    have hdigit : c.toNat - '0'.toNat ≤ 9 := by
      have hle := (Char.isDigit_iff_toNat.mp hc).2
      change c.toNat ≤ 57 at hle
      change c.toNat - 48 ≤ 9
      omega
    have hmul := Nat.mul_le_mul_left (10 ^ cs.length) hdigit
    rw [ofDigitChars_cons, List.length_cons, pow_succ]
    omega

/-- Texts of equally many digits are in the order of their numbers. -/
theorem lt_of_ofDigitChars_lt (hlength : cs.length = ds.length)
    (hcs : ∀ c ∈ cs, c.isDigit = true) (hds : ∀ d ∈ ds, d.isDigit = true)
    (h : Nat.ofDigitChars 10 cs 0 < Nat.ofDigitChars 10 ds 0) : cs < ds := by
  induction cs generalizing ds with
  | nil =>
    rw [List.eq_nil_of_length_eq_zero hlength.symm] at h
    exact absurd h (lt_irrefl _)
  | cons c cs ih =>
    cases ds with
    | nil => cases hlength
    | cons d ds =>
      obtain ⟨-, hrestC⟩ := List.forall_mem_cons.mp hcs
      obtain ⟨hd, hrestD⟩ := List.forall_mem_cons.mp hds
      have hlength' : cs.length = ds.length := by simpa using hlength
      rw [ofDigitChars_cons, ofDigitChars_cons, hlength'] at h
      rw [List.cons_lt_cons_iff]
      rcases lt_trichotomy c d with hless | rfl | hmore
      · exact Or.inl hless
      · exact Or.inr ⟨rfl, ih hlength' hrestC hrestD (by omega)⟩
      · -- a greater first digit outweighs all others
        have hbound := ofDigitChars_lt hrestD
        have hchar : d.toNat < c.toNat := by
          exact hmore
        have hdigit : d.toNat - '0'.toNat + 1 ≤ c.toNat - '0'.toNat := by
          have hle := (Char.isDigit_iff_toNat.mp hd).1
          change 48 ≤ d.toNat at hle
          change d.toNat - 48 + 1 ≤ c.toNat - 48
          omega
        have hmul := Nat.mul_le_mul_left (10 ^ ds.length) hdigit
        rw [Nat.mul_add, Nat.mul_one] at hmul
        omega

theorem append_lt_append (hlength : cs.length = ds.length) (h : cs < ds) (front back : List Char) :
    front ++ (cs ++ back) < front ++ (ds ++ back) := by
  apply List.append_left_lt
  induction cs generalizing ds with
  | nil =>
    rw [List.eq_nil_of_length_eq_zero hlength.symm] at h
    exact absurd h (lt_irrefl _)
  | cons c cs ih =>
    cases ds with
    | nil => cases hlength
    | cons d ds =>
      rw [List.cons_append, List.cons_append, List.cons_lt_cons_iff]
      rcases List.cons_lt_cons_iff.mp h with hless | ⟨rfl, hrest⟩
      · exact Or.inl hless
      · exact Or.inr ⟨rfl, ih (by simpa using hlength) hrest⟩

theorem toDigits_lt_toDigits
    (hlength : (Nat.toDigits 10 m).length = (Nat.toDigits 10 n).length) (h : m < n) :
    Nat.toDigits 10 m < Nat.toDigits 10 n := by
  apply lt_of_ofDigitChars_lt hlength
  · exact fun c hc => Nat.isDigit_of_mem_toDigits (by decide) (by decide) hc
  · exact fun c hc => Nat.isDigit_of_mem_toDigits (by decide) (by decide) hc
  · rwa [Nat.ofDigitChars_ten_toDigits, Nat.ofDigitChars_ten_toDigits]

end Digits
end FileNumbering
