import Botik.Library.Text
import Mathlib.Tactic.FieldSimp
import Mathlib.Tactic.IntervalCases
import Mathlib.Tactic.Linarith
import Mathlib.Tactic.Positivity

/-!
# Decimal numbers

A decimal number is a coefficient and an exponent, so that `1`, `1.0` and `1E+2` remember how they
are written. A product adds the exponents; a quotient has as few digits as it can, but no fewer than
the difference of the exponents asks for. Arithmetic is exact.

## Main definitions

* `Decimal`, `Decimal.value`
* `Decimal.ofText?` — read a text
* `Decimal.formatF` — write a number without an exponent
* `Decimal.trailingZeros`, `Decimal.quotientExponent` — the exponent of a quotient
* `Decimal.quantize` — round to a multiple of a step
-/

/-- A coefficient and an exponent of ten. -/
structure Decimal where
  coefficient : ℤ
  exponent : ℤ
  deriving DecidableEq, Repr

namespace Decimal

/-- The number. -/
def value (d : Decimal) : ℚ := d.coefficient * 10 ^ d.exponent

/-- `Decimal(text)`; the texts for infinity and for no number are treated as unreadable. -/
def ofText? (s : String) : Option Decimal :=
  let (negative, body) := Text.splitSign (Text.strip s).toList
  let (mantissa, tail) := body.span fun c => c ≠ 'e' ∧ c ≠ 'E'
  let (whole, rest) := mantissa.span (· ≠ '.')
  let fraction := rest.drop 1
  match Text.digits? (whole ++ fraction), Text.exponent? tail with
  | some n, some e => some ⟨if negative then -(n : ℤ) else n, e - fraction.length⟩
  | _, _ => none

/-- The digits of a number with a point before the last `k`. -/
def pointDigits : ℕ → ℕ → List Char
  | n, 0 => Nat.toDigits 10 n ++ ['.']
  | n, k + 1 => pointDigits (n / 10) k ++ [Nat.digitChar (n % 10)]

/-- `format(value, "f")`. -/
def formatF (d : Decimal) : List Char :=
  (if d.coefficient < 0 then ['-'] else []) ++
    match d.exponent with
    | .ofNat e => Nat.toDigits 10 (d.coefficient.natAbs * 10 ^ e)
    | .negSucc k => pointDigits d.coefficient.natAbs (k + 1)

/-! ### Quotients -/

/-- How many zeros, up to a bound, a number ends in. -/
def trailingZeros : ℕ → ℕ → ℕ
  | 0, _ => 0
  | k + 1, n => if n % 10 = 0 then trailingZeros k (n / 10) + 1 else 0

/-- How many digits behind the point a fraction of this denominator has; one that does not end has
some number of them. -/
def fractionDigits (den : ℕ) : ℕ :=
  ((List.range den).find? fun k => 10 ^ k % den = 0).getD den

/-- The exponent of a quotient: the ideal one, or the nearest below that is exact. -/
def quotientExponent (q : ℚ) (ideal : ℤ) : ℤ :=
  if q.den = 1 then
    if ideal ≤ 0 then ideal else trailingZeros ideal.toNat q.num.natAbs
  else min ideal (-fractionDigits q.den)

/-- `to_integral_value`: a number without digits behind the point stays as it is. -/
def toIntegral (round : ℚ → ℤ) (q : ℚ) (exponent : ℤ) : Decimal :=
  if 0 ≤ exponent then ⟨⌊q / 10 ^ exponent⌋, exponent⟩ else ⟨round q, 0⟩

/-- `ROUND_DOWN`. -/
def roundDown (q : ℚ) : ℤ := if 0 ≤ q then ⌊q⌋ else ⌈q⌉

/-- `ROUND_UP`. -/
def roundUp (q : ℚ) : ℤ := if 0 ≤ q then ⌈q⌉ else ⌊q⌋

def mul (d d' : Decimal) : Decimal := ⟨d.coefficient * d'.coefficient, d.exponent + d'.exponent⟩

/-- `(value / step).to_integral_value(...) * step`, for a value with this exponent. -/
def quantize (round : ℚ → ℤ) (value : ℚ) (exponent : ℤ) (step : Decimal) : Decimal :=
  (toIntegral round (value / step.value)
    (quotientExponent (value / step.value) (exponent - step.exponent))).mul step

/-! ### Trailing zeros -/

theorem trailingZeros_le (k n : ℕ) : trailingZeros k n ≤ k := by
  induction k generalizing n with
  | zero => simp [trailingZeros]
  | succ k ih =>
    unfold trailingZeros
    split_ifs
    · exact Nat.succ_le_succ (ih _)
    · exact Nat.zero_le _

theorem pow_trailingZeros_dvd (k n : ℕ) : 10 ^ trailingZeros k n ∣ n := by
  induction k generalizing n with
  | zero => simp [trailingZeros]
  | succ k ih =>
    unfold trailingZeros
    split_ifs with hzero
    · obtain ⟨m, hm⟩ := ih (n / 10)
      refine ⟨m, ?_⟩
      have hten : n = 10 * (n / 10) := by omega
      calc n = 10 * (10 ^ trailingZeros k (n / 10) * m) := by rw [← hm]; exact hten
        _ = 10 ^ (trailingZeros k (n / 10) + 1) * m := by ring
    · simp

/-- As many zeros as there are, up to the bound. -/
theorem le_trailingZeros {k n j : ℕ} (hj : j ≤ k) (h : 10 ^ j ∣ n) : j ≤ trailingZeros k n := by
  induction k generalizing n j with
  | zero => omega
  | succ k ih =>
    cases j with
    | zero => omega
    | succ j =>
      obtain ⟨m, rfl⟩ := h
      have hmod : 10 ^ (j + 1) * m % 10 = 0 := by
        rw [pow_succ', mul_assoc]
        exact Nat.mul_mod_right 10 _
      have hdiv : 10 ^ (j + 1) * m / 10 = 10 ^ j * m := by
        rw [pow_succ', mul_assoc]
        exact Nat.mul_div_cancel_left _ (by norm_num)
      unfold trailingZeros
      rw [if_pos hmod, hdiv]
      exact Nat.succ_le_succ (ih (by omega) ⟨m, rfl⟩)

/-- What is left ends in no zero, if the bound was not reached. -/
theorem not_dvd_of_trailingZeros_lt {k n : ℕ} (h : trailingZeros k n < k) :
    ¬ 10 ∣ n / 10 ^ trailingZeros k n := by
  intro hdvd
  have hpow : 10 ^ (trailingZeros k n + 1) ∣ n := by
    rw [pow_succ]
    exact Nat.mul_dvd_of_dvd_div (pow_trailingZeros_dvd k n) hdvd
  have := le_trailingZeros (Nat.succ_le_of_lt h) hpow
  omega

/-- A positive number does not end in as many zeros as it counts. -/
theorem trailingZeros_self_lt {n : ℕ} (hn : 0 < n) : trailingZeros n n < n := by
  have hle := Nat.le_of_dvd hn (pow_trailingZeros_dvd n n)
  exact (Nat.lt_pow_self (by norm_num)).trans_le hle

/-! ### Texts -/

/-- The digits of a number, with a point before the last `k` if there are any behind it. -/
def plainDigits (n k : ℕ) : List Char := if k = 0 then Nat.toDigits 10 n else pointDigits n k

theorem digitChar_ne_point (n : ℕ) (hn : n < 10) : Nat.digitChar n ≠ '.' := by
  interval_cases n <;> decide

theorem digitChar_eq_zero_iff (n : ℕ) (hn : n < 10) : Nat.digitChar n = '0' ↔ n = 0 := by
  interval_cases n <;> decide

theorem isDigit_digitChar (n : ℕ) (hn : n < 10) : (Nat.digitChar n).isDigit = true := by
  interval_cases n <;> decide

/-- Dropping the zeros behind the point. -/
theorem rdropWhile_pointDigits (n k : ℕ) :
    (pointDigits n k).rdropWhile (· = '0') =
      pointDigits (n / 10 ^ trailingZeros k n) (k - trailingZeros k n) := by
  induction k generalizing n with
  | zero =>
    simp only [trailingZeros, pow_zero, Nat.div_one, Nat.sub_zero, pointDigits]
    exact List.rdropWhile_concat_neg _ _ _ (by decide)
  | succ k ih =>
    by_cases hzero : n % 10 = 0
    · have hchar : Nat.digitChar (n % 10) = '0' := by rw [hzero]; rfl
      unfold trailingZeros
      rw [if_pos hzero]
      conv_lhs => unfold pointDigits
      rw [List.rdropWhile_concat_pos _ _ _ (by simp [hchar]), ih, Nat.div_div_eq_div_mul,
        ← pow_succ', Nat.add_sub_add_right]
    · have hchar : Nat.digitChar (n % 10) ≠ '0' := fun h =>
        hzero ((digitChar_eq_zero_iff _ (Nat.mod_lt _ (by norm_num))).mp h)
      unfold trailingZeros
      rw [if_neg hzero, pow_zero, Nat.div_one, Nat.sub_zero]
      unfold pointDigits
      exact List.rdropWhile_concat_neg _ _ _ (by simpa using hchar)

/-- Dropping a point with nothing behind it. -/
theorem rdropWhile_point (n k : ℕ) :
    (pointDigits n k).rdropWhile (· = '.') = plainDigits n k := by
  unfold plainDigits
  cases k with
  | zero =>
    rw [if_pos rfl]
    unfold pointDigits
    rw [List.rdropWhile_concat_pos _ _ _ (by decide), List.rdropWhile_eq_self_iff]
    intro hne
    have hdigit := Nat.isDigit_of_mem_toDigits (by norm_num) (by norm_num)
      (List.getLast_mem hne)
    intro hpoint
    rw [of_decide_eq_true hpoint] at hdigit
    exact absurd hdigit (by decide)
  | succ k =>
    rw [if_neg (by omega)]
    unfold pointDigits
    exact List.rdropWhile_concat_neg _ _ _ (by simp [digitChar_ne_point _ (Nat.mod_lt n _)])

/-- Dropping the zeros of a whole number. -/
theorem rdropWhile_toDigits {n : ℕ} (hn : 0 < n) (k : ℕ) (hk : trailingZeros k n < k) :
    (Nat.toDigits 10 n).rdropWhile (· = '0') = Nat.toDigits 10 (n / 10 ^ trailingZeros k n) := by
  induction k generalizing n with
  | zero => omega
  | succ k ih =>
    unfold trailingZeros at hk ⊢
    split_ifs at hk ⊢ with hzero
    · have hten : 10 ≤ n := by omega
      rw [Nat.toDigits_of_base_le (by norm_num) hten, hzero]
      rw [List.rdropWhile_concat_pos _ _ _ (by decide), ih (by omega) (by omega),
        Nat.div_div_eq_div_mul, ← pow_succ']
    · rw [pow_zero, Nat.div_one, Nat.toDigits_eq_if (by norm_num)]
      have hchar : ∀ m, m % 10 ≠ 0 → m < 10 → Nat.digitChar m ≠ '0' := fun m hm hlt h =>
        hm (by rw [(digitChar_eq_zero_iff m hlt).mp h])
      split_ifs with hlt
      · exact List.rdropWhile_concat_neg _ [] _ (by simpa using hchar n hzero hlt)
      · refine List.rdropWhile_concat_neg _ _ _ ?_
        simpa using hchar (n % 10) (by simpa using hzero) (Nat.mod_lt _ (by norm_num))

/-- A point between digits, with the number it belongs to. -/
theorem pointDigits_eq (n k : ℕ) : ∃ whole fraction : List Char,
    pointDigits n k = whole ++ '.' :: fraction ∧ fraction.length = k ∧
      Text.digits? (whole ++ fraction) = some n := by
  induction k generalizing n with
  | zero =>
    refine ⟨Nat.toDigits 10 n, [], rfl, rfl, ?_⟩
    rw [List.append_nil]
    unfold Text.digits?
    have hdigits : (Nat.toDigits 10 n).all Char.isDigit = true := List.all_eq_true.mpr fun c hc =>
      Nat.isDigit_of_mem_toDigits (by norm_num) (by norm_num) hc
    rw [if_pos ⟨Nat.toDigits_ne_nil, hdigits⟩]
    exact congrArg some Nat.ofDigitChars_ten_toDigits
  | succ k ih =>
    obtain ⟨whole, fraction, hsplit, hlength, hvalue⟩ := ih (n / 10)
    refine ⟨whole, fraction ++ [Nat.digitChar (n % 10)], ?_, by simp [hlength], ?_⟩
    · unfold pointDigits
      rw [hsplit, List.append_assoc, List.cons_append]
    · have hlast : n % 10 < 10 := Nat.mod_lt _ (by norm_num)
      unfold Text.digits? at hvalue ⊢
      split_ifs at hvalue with hdigits
      obtain hvalue := Option.some.inj hvalue
      have hall : (whole ++ (fraction ++ [Nat.digitChar (n % 10)])).all Char.isDigit = true := by
        rw [← List.append_assoc, List.all_append, hdigits.2]
        simp [isDigit_digitChar _ hlast]
      rw [if_pos ⟨by simp, hall⟩, ← List.append_assoc]
      have hdigits : Text.digits (whole ++ fraction ++ [Nat.digitChar (n % 10)]) =
          10 * Text.digits (whole ++ fraction) + (n % 10) := by
        unfold Text.digits
        rw [List.foldl_append]
        exact congrArg (_ + ·) (Nat.toNat_digitChar_sub_48_of_lt_ten hlast)
      rw [hdigits, hvalue]
      congr 1
      omega

/-- A character of a number without a sign or an exponent. -/
theorem plain_chars {cs : List Char} (h : ∀ c ∈ cs, c.isDigit = true ∨ c = '.') {c : Char}
    (hc : c ∈ cs) : Text.isSpace c = false ∧ c ≠ 'e' ∧ c ≠ 'E' ∧ c ≠ '-' ∧ c ≠ '+' := by
  rcases h c hc with hdigit | rfl
  · have hcode : 48 ≤ c.toNat ∧ c.toNat ≤ 57 := by
      simpa [Char.isDigit, UInt32.le_iff_toNat_le] using hdigit
    have hne : ∀ d : Char, ¬ (48 ≤ d.toNat ∧ d.toNat ≤ 57) → c ≠ d := fun d hd heq => hd (heq ▸ hcode)
    refine ⟨?_, hne _ (by decide), hne _ (by decide), hne _ (by decide), hne _ (by decide)⟩
    have hlisted : c.toNat ∉ [9, 10, 11, 12, 13, 28, 29, 30, 31, 32, 133, 160, 5760, 8232, 8233,
        8239, 8287, 12288] := by
      simp only [List.mem_cons, List.not_mem_nil, or_false]
      omega
    have hrange : ¬ 8192 ≤ c.toNat := by omega
    simp only [Text.isSpace, hlisted, hrange, decide_false, Bool.false_or, Bool.false_and]
  · decide

/-- Such a number is read by its digits and the place of its point. -/
theorem ofText?_of_plain {cs : List Char} (h : ∀ c ∈ cs, c.isDigit = true ∨ c = '.') :
    ofText? (String.ofList cs) =
      (Text.digits? (cs.takeWhile (· ≠ '.') ++ (cs.dropWhile (· ≠ '.')).drop 1)).map fun n =>
        ⟨n, -((cs.dropWhile (· ≠ '.')).drop 1).length⟩ := by
  have hstrip : Text.strip (String.ofList cs) = String.ofList cs := by
    unfold Text.strip
    have hfront : cs.dropWhile Text.isSpace = cs := by
      rw [List.dropWhile_eq_self_iff]
      intro hpos
      simp [(plain_chars h (List.getElem_mem hpos)).1]
    have hback : cs.reverse.dropWhile Text.isSpace = cs.reverse := by
      rw [List.dropWhile_eq_self_iff]
      intro hpos
      have hmem : cs.reverse[0] ∈ cs := List.mem_reverse.mp (List.getElem_mem hpos)
      rw [(plain_chars h hmem).1]
      exact Bool.false_ne_true
    rw [String.toList_ofList, hfront, hback, List.reverse_reverse]
  have hsign : Text.splitSign cs = (false, cs) := by
    unfold Text.splitSign
    split
    · next rest => exact absurd rfl (plain_chars h (List.mem_cons_self)).2.2.2.1
    · next rest => exact absurd rfl (plain_chars h (List.mem_cons_self)).2.2.2.2
    · rfl
  have hexponent : cs.span (fun c => c ≠ 'e' ∧ c ≠ 'E') = (cs, []) := by
    rw [List.span_eq_takeWhile_dropWhile]
    have hall : ∀ c ∈ cs, decide (c ≠ 'e' ∧ c ≠ 'E') = true := fun c hc =>
      decide_eq_true ⟨(plain_chars h hc).2.1, (plain_chars h hc).2.2.1⟩
    rw [List.takeWhile_eq_self_iff.mpr hall, List.dropWhile_eq_nil_iff.mpr hall]
  unfold ofText?
  rw [hstrip, String.toList_ofList, hsign]
  dsimp only
  rw [hexponent]
  dsimp only
  rw [List.span_eq_takeWhile_dropWhile]
  cases Text.digits? (cs.takeWhile (· ≠ '.') ++ (cs.dropWhile (· ≠ '.')).drop 1) with
  | none => rfl
  | some n => simp [Text.exponent?]

theorem isDigit_of_digits? {cs : List Char} {n : ℕ} (h : Text.digits? cs = some n) :
    ∀ c ∈ cs, c.isDigit = true := by
  unfold Text.digits? at h
  split_ifs at h with hdigits
  exact List.all_eq_true.mp hdigits.2

theorem isDigit_ne_point {c : Char} (h : c.isDigit = true) : c ≠ '.' := by
  rintro rfl
  exact absurd h (by decide)

/-- What is written without an exponent is read back, digit by digit. -/
theorem ofText?_plainDigits (n k : ℕ) :
    ofText? (String.ofList (plainDigits n k)) = some ⟨n, -k⟩ := by
  unfold plainDigits
  split_ifs with hk
  -- no point is written
  · subst hk
    have hread : Text.digits? (Nat.toDigits 10 n) = some n := by
      obtain ⟨whole, fraction, hsplit, hlength, hvalue⟩ := pointDigits_eq n 0
      rw [List.length_eq_zero_iff.mp hlength] at hsplit hvalue
      rw [List.append_nil] at hvalue
      rwa [List.append_cancel_right hsplit]
    have hdigits := isDigit_of_digits? hread
    have hplain : ∀ c ∈ Nat.toDigits 10 n, decide (c ≠ '.') = true := fun c hc =>
      decide_eq_true (isDigit_ne_point (hdigits c hc))
    rw [ofText?_of_plain fun c hc => Or.inl (hdigits c hc), List.takeWhile_eq_self_iff.mpr hplain,
      List.dropWhile_eq_nil_iff.mpr hplain, List.drop_nil, List.append_nil, hread]
    rfl
  · obtain ⟨whole, fraction, hsplit, hlength, hvalue⟩ := pointDigits_eq n k
    have hdigits := isDigit_of_digits? hvalue
    have hwhole : ∀ c ∈ whole, decide (c ≠ '.') = true := fun c hc =>
      decide_eq_true (isDigit_ne_point (hdigits c (List.mem_append_left _ hc)))
    have hplain : ∀ c ∈ pointDigits n k, c.isDigit = true ∨ c = '.' := by
      intro c hc
      rw [hsplit] at hc
      rcases List.mem_append.mp hc with hc | hc
      · exact Or.inl (hdigits c (List.mem_append_left _ hc))
      · rcases List.mem_cons.mp hc with rfl | hc
        · exact Or.inr rfl
        · exact Or.inl (hdigits c (List.mem_append_right _ hc))
    -- the point splits the text at the first character that is no digit
    have htake : (pointDigits n k).takeWhile (· ≠ '.') = whole := by
      rw [hsplit, List.takeWhile_append_of_pos hwhole]
      simp
    have hdrop : (pointDigits n k).dropWhile (· ≠ '.') = '.' :: fraction := by
      rw [hsplit, List.dropWhile_append_of_pos hwhole]
      simp
    rw [ofText?_of_plain hplain, htake, hdrop, List.drop_one, List.tail_cons, hvalue, hlength]
    rfl

/-- The digits that stay of a positive number, and how many of them are behind the point, when the
zeros at the end of its text are stripped, and then the point. -/
def shortened (d : Decimal) : ℕ × ℕ :=
  match d.exponent with
  | .ofNat e =>
    let n := d.coefficient.natAbs * 10 ^ e
    (n / 10 ^ trailingZeros n n, 0)
  | .negSucc k =>
    let n := d.coefficient.natAbs
    (n / 10 ^ trailingZeros (k + 1) n, k + 1 - trailingZeros (k + 1) n)

/-- Zeros and a point are stripped from the text of a positive number. -/
theorem rdropWhile_formatF {d : Decimal} (hpos : 0 < d.coefficient) :
    (d.formatF.rdropWhile (· = '0')).rdropWhile (· = '.') =
      plainDigits (shortened d).1 (shortened d).2 := by
  unfold formatF shortened
  rw [if_neg (not_lt.mpr hpos.le), List.nil_append]
  cases d.exponent with
  | ofNat e =>
    have hn : 0 < d.coefficient.natAbs * 10 ^ e :=
      Nat.mul_pos (Int.natAbs_pos.mpr hpos.ne') (by positivity)
    dsimp only
    rw [rdropWhile_toDigits hn _ (trailingZeros_self_lt hn)]
    unfold plainDigits
    rw [if_pos rfl, List.rdropWhile_eq_self_iff]
    intro hne hpoint
    have hdigit := Nat.isDigit_of_mem_toDigits (by norm_num) (by norm_num) (List.getLast_mem hne)
    exact isDigit_ne_point hdigit (of_decide_eq_true hpoint)
  | negSucc k =>
    dsimp only
    rw [rdropWhile_pointDigits, rdropWhile_point]

theorem plainDigits_ne_nil (n k : ℕ) : plainDigits n k ≠ [] := by
  unfold plainDigits
  split_ifs with hk
  · exact Nat.toDigits_ne_nil
  · obtain ⟨whole, fraction, hsplit, -, -⟩ := pointDigits_eq n k
    rw [hsplit]
    simp

/-! ### Values -/

theorem value_mul (d d' : Decimal) : (d.mul d').value = d.value * d'.value := by
  unfold value mul
  rw [zpow_add₀ (by norm_num)]
  push_cast
  ring

theorem value_pos_iff {d : Decimal} : 0 < d.value ↔ 0 < d.coefficient := by
  unfold value
  have hpow : (0 : ℚ) < 10 ^ d.exponent := zpow_pos (by norm_num) _
  rw [mul_pos_iff_of_pos_right hpow]
  exact Int.cast_pos

/-- A fraction has digits behind the point. -/
theorem fractionDigits_pos {den : ℕ} (hpos : 0 < den) (hne : den ≠ 1) : 0 < fractionDigits den := by
  unfold fractionDigits
  cases hfind : (List.range den).find? fun k => 10 ^ k % den = 0 with
  | none => simpa using hpos
  | some k =>
    have hk := List.find?_some hfind
    simp only [decide_eq_true_eq] at hk
    rw [Option.getD_some]
    refine Nat.pos_of_ne_zero fun hzero => ?_
    rw [hzero, pow_zero, Nat.mod_eq_of_lt (by omega)] at hk
    omega

/-- A quotient whose exponent is not negative is that many tens. -/
theorem eq_of_quotientExponent_nonneg {q : ℚ} {ideal : ℤ} (h : 0 ≤ quotientExponent q ideal) :
    ∃ m : ℤ, q = m * 10 ^ quotientExponent q ideal := by
  unfold quotientExponent at h ⊢
  split_ifs at h ⊢ with hden hideal
  · have hzero : ideal = 0 := le_antisymm hideal h
    exact ⟨q.num, by rw [hzero, zpow_zero, mul_one]; exact ((Rat.den_eq_one_iff q).mp hden).symm⟩
  · obtain ⟨m, hm⟩ := Int.natAbs_dvd_natAbs.mp
      (by simpa [Int.natAbs_pow] using pow_trailingZeros_dvd ideal.toNat q.num.natAbs :
        ((10 : ℤ) ^ trailingZeros ideal.toNat q.num.natAbs).natAbs ∣ q.num.natAbs)
    refine ⟨m, ?_⟩
    rw [zpow_natCast]
    calc q = (q.num : ℚ) := ((Rat.den_eq_one_iff q).mp hden).symm
      _ = ((10 ^ trailingZeros ideal.toNat q.num.natAbs * m : ℤ) : ℚ) := by rw [← hm]
      _ = m * 10 ^ trailingZeros ideal.toNat q.num.natAbs := by push_cast; ring
  · have hpos := fractionDigits_pos q.den_pos hden
    have := h.trans (min_le_right _ _)
    omega

theorem value_toIntegral {round : ℚ → ℤ} (hround : ∀ n : ℤ, round n = n) (q : ℚ) (ideal : ℤ) :
    (toIntegral round q (quotientExponent q ideal)).value = round q := by
  unfold toIntegral
  split_ifs with hnonneg
  · obtain ⟨m, hm⟩ := eq_of_quotientExponent_nonneg hnonneg
    obtain ⟨e, he⟩ := Int.eq_ofNat_of_zero_le hnonneg
    rw [he, zpow_natCast] at hm ⊢
    have hfloor : ⌊q / 10 ^ e⌋ = m := by
      rw [hm, mul_div_cancel_right₀ _ (by positivity), Int.floor_intCast]
    have hint : q = ((m * 10 ^ e : ℤ) : ℚ) := by
      rw [hm]
      push_cast
      rfl
    unfold value
    rw [hfloor, zpow_natCast, ← hm]
    calc q = ((m * 10 ^ e : ℤ) : ℚ) := hint
      _ = round q := by rw [hint, hround]
  · unfold value
    simp

/-- Rounding to a multiple of the step. -/
theorem value_quantize {round : ℚ → ℤ} (hround : ∀ n : ℤ, round n = n) (v : ℚ) (exponent : ℤ)
    (step : Decimal) :
    (quantize round v exponent step).value = round (v / step.value) * step.value := by
  unfold quantize
  rw [value_mul, value_toIntegral hround]

@[simp] theorem roundDown_intCast (n : ℤ) : roundDown n = n := by
  unfold roundDown
  split_ifs <;> simp

@[simp] theorem roundUp_intCast (n : ℤ) : roundUp n = n := by
  unfold roundUp
  split_ifs <;> simp

/-! ### Whole numbers that end in zeros -/

/-- A number written without digits behind the point that ends in a zero. -/
def EndsInZero (d : Decimal) : Prop := 0 ≤ d.exponent ∧ ∃ n : ℤ, d.value = 10 * n

theorem quotientExponent_le (q : ℚ) (ideal : ℤ) : quotientExponent q ideal ≤ ideal := by
  unfold quotientExponent
  split_ifs with hden hideal
  · exact le_rfl
  · have := trailingZeros_le ideal.toNat q.num.natAbs
    omega
  · exact min_le_left _ _

/-- A whole quotient has no digits behind the point if the ideal exponent asks for none. -/
theorem quotientExponent_nonneg_iff (n ideal : ℤ) :
    0 ≤ quotientExponent (n : ℚ) ideal ↔ 0 ≤ ideal := by
  unfold quotientExponent
  rw [if_pos (Rat.den_intCast _)]
  split_ifs with hideal
  · rfl
  · exact iff_of_true (Int.natCast_nonneg _) (by omega)

/-- A quotient that is some tens keeps them, as far as the ideal exponent allows. -/
theorem le_quotientExponent {ideal : ℤ} {k : ℕ} (n : ℤ) (hk : (k : ℤ) ≤ ideal) (hpos : 0 < k) :
    (k : ℤ) ≤ quotientExponent ((n * 10 ^ k : ℤ) : ℚ) ideal := by
  unfold quotientExponent
  rw [if_pos (Rat.den_intCast _), if_neg (by omega), Rat.num_intCast]
  have hdvd : 10 ^ k ∣ (n * 10 ^ k).natAbs := by
    rw [Int.natAbs_mul, Int.natAbs_pow]
    exact Dvd.intro_left _ rfl
  exact_mod_cast le_trailingZeros (by omega) hdvd

theorem exponent_quantize (round : ℚ → ℤ) (v : ℚ) (exponent : ℤ) (step : Decimal) :
    (quantize round v exponent step).exponent =
      max (quotientExponent (v / step.value) (exponent - step.exponent)) 0 + step.exponent := by
  unfold quantize mul toIntegral
  split_ifs with hnonneg
  · rw [max_eq_left hnonneg]
  · rw [max_eq_right (by omega)]

/-- A multiple of the step is written as a whole number that ends in a zero exactly when it is a
multiple of ten and either the step is written as a whole number, or the value was one already and
the digits of the step divide it. -/
theorem endsInZero_quantize_iff {round : ℚ → ℤ} (hround : ∀ n : ℤ, round n = n) {v : ℚ}
    {exponent : ℤ} {step : Decimal} (hstep : 0 < step.coefficient) :
    EndsInZero (quantize round v exponent step) ↔
      (∃ n : ℤ, (quantize round v exponent step).value = 10 * n) ∧
        (0 ≤ step.exponent ∨
          (∃ n : ℤ, (quantize round v exponent step).value = step.coefficient * n) ∧
            0 ≤ exponent ∧ v = (quantize round v exponent step).value) := by
  have hvalue := value_quantize hround v exponent step
  have hexponent := exponent_quantize round v exponent step
  have hpow : (10 : ℚ) ^ step.exponent ≠ 0 := zpow_ne_zero _ (by norm_num)
  have hcoefficient : (step.coefficient : ℚ) ≠ 0 := by exact_mod_cast hstep.ne'
  have hstepValue : step.value = step.coefficient * 10 ^ step.exponent := rfl
  have hne : step.value ≠ 0 := by
    rw [hstepValue]
    exact mul_ne_zero hcoefficient hpow
  constructor
  · rintro ⟨hnonneg, hten⟩
    refine ⟨hten, ?_⟩
    by_cases hwhole : 0 ≤ step.exponent
    · exact Or.inl hwhole
    · right
      -- the exponent of the quotient makes up for the one of the step
      have hq : -step.exponent ≤ quotientExponent (v / step.value) (exponent - step.exponent) := by
        omega
      obtain ⟨m, hm⟩ := eq_of_quotientExponent_nonneg (by omega : 0 ≤ quotientExponent
        (v / step.value) (exponent - step.exponent))
      have hideal := quotientExponent_le (v / step.value) (exponent - step.exponent)
      generalize quotientExponent (v / step.value) (exponent - step.exponent) = e at hq hm hideal
      obtain ⟨k, rfl⟩ := Int.eq_ofNat_of_zero_le (by omega : 0 ≤ e)
      have hint : v / step.value = ((m * 10 ^ k : ℤ) : ℚ) := by
        rw [hm, zpow_natCast]
        push_cast
        rfl
      have hself : v = (quantize round v exponent step).value := by
        rw [hvalue, hint, hround, ← hint, div_mul_cancel₀ _ hne]
      obtain ⟨j, hj⟩ := Int.eq_ofNat_of_zero_le (by omega : 0 ≤ (k : ℤ) + step.exponent)
      refine ⟨⟨m * 10 ^ j, ?_⟩, by omega, hself⟩
      calc (quantize round v exponent step).value = v / step.value * step.value := by
            rw [← hself, div_mul_cancel₀ _ hne]
        _ = step.coefficient * (m * (10 ^ (k : ℤ) * 10 ^ step.exponent)) := by
            rw [hm, hstepValue]
            ring
        _ = step.coefficient * ((m * 10 ^ j : ℤ) : ℚ) := by
            rw [← zpow_add₀ (by norm_num), hj, zpow_natCast]
            push_cast
            rfl
  · rintro ⟨hten, hwhole | ⟨⟨n, hn⟩, hexp, hself⟩⟩
    · refine ⟨?_, hten⟩
      rw [hexponent]
      have := le_max_right (quotientExponent (v / step.value) (exponent - step.exponent)) 0
      omega
    · refine ⟨?_, hten⟩
      rw [hexponent]
      by_cases hwhole : 0 ≤ step.exponent
      · have := le_max_right (quotientExponent (v / step.value) (exponent - step.exponent)) 0
        omega
      · obtain ⟨k, hk⟩ := Int.eq_ofNat_of_zero_le (by omega : 0 ≤ -step.exponent)
        have hq : v / step.value = ((n * 10 ^ k : ℤ) : ℚ) := by
          rw [hself, hn, hstepValue, ← neg_neg step.exponent, hk, zpow_neg, zpow_natCast]
          push_cast
          field_simp
        have hle := le_quotientExponent n (by omega : (k : ℤ) ≤ exponent - step.exponent)
          (by omega)
        rw [hq]
        have := le_max_left
          (quotientExponent ((n * 10 ^ k : ℤ) : ℚ) (exponent - step.exponent)) 0
        omega

/-- The number whose digits stay. -/
def ofDigits (digits : ℕ × ℕ) : Decimal := ⟨digits.1, -digits.2⟩

/-- The value of a positive number without digits behind the point. -/
theorem value_of_ofNat {d : Decimal} {e : ℕ} (hpos : 0 < d.coefficient)
    (he : d.exponent = Int.ofNat e) : d.value = ((d.coefficient.natAbs * 10 ^ e : ℕ) : ℚ) := by
  unfold value
  rw [he, Int.ofNat_eq_natCast, zpow_natCast]
  push_cast
  rw [Nat.cast_natAbs, abs_of_pos hpos]

/-- A number that does not end in a zero keeps its value. -/
theorem value_shortened {d : Decimal} (hpos : 0 < d.coefficient) (hend : ¬ EndsInZero d) :
    (ofDigits (shortened d)).value = d.value ∧
      ((shortened d).2 = 0 ∨ ¬ 10 ∣ (shortened d).1) := by
  cases he : d.exponent with
  | ofNat e =>
    have hvalue := value_of_ofNat hpos he
    -- a zero to strip would be one the number ends in
    have hzeros : trailingZeros (d.coefficient.natAbs * 10 ^ e) (d.coefficient.natAbs * 10 ^ e) = 0 := by
      by_contra hne
      refine hend ⟨by rw [he]; exact Int.natCast_nonneg e, ?_⟩
      obtain ⟨m, hm⟩ := (dvd_pow_self 10 hne).trans (pow_trailingZeros_dvd _ _)
      refine ⟨m, ?_⟩
      rw [hvalue, hm]
      push_cast
      rfl
    have hshort : shortened d = (d.coefficient.natAbs * 10 ^ e, 0) := by
      unfold shortened
      rw [he]
      dsimp only
      rw [hzeros, pow_zero, Nat.div_one]
    rw [hshort, hvalue]
    exact ⟨by simp [ofDigits, value], Or.inl rfl⟩
  | negSucc k =>
    have hshort : shortened d = (d.coefficient.natAbs /
        10 ^ trailingZeros (k + 1) d.coefficient.natAbs,
        k + 1 - trailingZeros (k + 1) d.coefficient.natAbs) := by
      unfold shortened
      rw [he]
    rw [hshort]
    have hle := trailingZeros_le (k + 1) d.coefficient.natAbs
    have hdvd := pow_trailingZeros_dvd (k + 1) d.coefficient.natAbs
    have hlt := not_dvd_of_trailingZeros_lt (k := k + 1) (n := d.coefficient.natAbs)
    -- of the number of zeros only these three facts are used
    generalize trailingZeros (k + 1) d.coefficient.natAbs = j at hle hdvd hlt
    constructor
    · obtain ⟨m, hm⟩ := hdvd
      have hcoefficient : (d.coefficient : ℚ) = 10 ^ j * m := by
        have : (d.coefficient.natAbs : ℚ) = 10 ^ j * m := by
          rw [hm]
          push_cast
          rfl
        rwa [Nat.cast_natAbs, abs_of_pos hpos] at this
      unfold ofDigits value
      rw [he, hcoefficient, hm, Nat.mul_div_cancel_left _ (by positivity)]
      have hexp : (Int.negSucc k) = -((k + 1 - j : ℕ) : ℤ) - (j : ℤ) := by
        rw [Int.negSucc_eq]
        omega
      rw [hexp, zpow_sub₀ (by norm_num), zpow_natCast]
      push_cast
      field_simp
    · rcases hle.lt_or_eq with hless | heq
      · exact Or.inr (hlt hless)
      · exact Or.inl (by omega)

/-- One that ends in a zero loses all of them. -/
theorem shortened_of_endsInZero {d : Decimal} (hpos : 0 < d.coefficient) (hend : EndsInZero d) :
    (shortened d).2 = 0 ∧ ¬ 10 ∣ (shortened d).1 ∧
      ∃ t, 0 < t ∧ d.value = (shortened d).1 * 10 ^ t := by
  obtain ⟨hnonneg, m, hm⟩ := hend
  obtain ⟨e, he⟩ := Int.eq_ofNat_of_zero_le hnonneg
  have hvalue := value_of_ofNat hpos he
  have hshort : shortened d = (d.coefficient.natAbs * 10 ^ e /
      10 ^ trailingZeros (d.coefficient.natAbs * 10 ^ e) (d.coefficient.natAbs * 10 ^ e), 0) := by
    unfold shortened
    rw [he]
  rw [hshort, hvalue]
  have hn : 0 < d.coefficient.natAbs * 10 ^ e :=
    Nat.mul_pos (Int.natAbs_pos.mpr hpos.ne') (by positivity)
  have hten : 10 ∣ d.coefficient.natAbs * 10 ^ e := by
    have hint : ((d.coefficient.natAbs * 10 ^ e : ℕ) : ℤ) = 10 * m := by
      have hcast : (((d.coefficient.natAbs * 10 ^ e : ℕ) : ℤ) : ℚ) = ((10 * m : ℤ) : ℚ) := by
        rw [Int.cast_natCast, ← hvalue, hm, Int.cast_mul]
        rfl
      exact Int.cast_injective hcast
    exact Int.natCast_dvd_natCast.mp ⟨m, hint⟩
  generalize d.coefficient.natAbs * 10 ^ e = n at hn hten
  have hpos' : 1 ≤ trailingZeros n n :=
    le_trailingZeros (Nat.succ_le_of_lt hn) (by simpa using hten)
  refine ⟨rfl, not_dvd_of_trailingZeros_lt (trailingZeros_self_lt hn), trailingZeros n n, hpos', ?_⟩
  have := Nat.div_mul_cancel (pow_trailingZeros_dvd n n)
  dsimp only
  exact_mod_cast this.symm

/-- The digits are known from the value, unless zeros behind the point stay. -/
theorem ofDigits_inj {x y : ℕ × ℕ} (hx : x.2 = 0 ∨ ¬ 10 ∣ x.1) (hy : y.2 = 0 ∨ ¬ 10 ∣ y.1)
    (h : (ofDigits x).value = (ofDigits y).value) : x = y := by
  wlog hle : x.2 ≤ y.2 generalizing x y
  · exact (this hy hx h.symm (by omega)).symm
  obtain ⟨n, k⟩ := x
  obtain ⟨n', k'⟩ := y
  obtain ⟨j, rfl⟩ := Nat.exists_eq_add_of_le hle
  have hnat : n * 10 ^ j = n' := by
    unfold ofDigits value at h
    simp only [zpow_neg, zpow_natCast, Int.cast_natCast] at h
    rw [pow_add, mul_inv, ← div_eq_mul_inv, ← div_eq_mul_inv] at h
    have : (n : ℚ) * 10 ^ j = n' := by
      field_simp at h
      linarith
    exact_mod_cast this
  cases j with
  | zero => simpa using hnat
  | succ j =>
    rcases hy with hzero | hnot
    · exact absurd hzero (by dsimp only; omega)
    · exact absurd ⟨n * 10 ^ j, by rw [← hnat]; ring⟩ hnot

end Decimal
