import Botik.Execution.BybitRest

/-!
# The quantity of an order

The quantity that fits the filters is a number of steps: the greatest of the steps in what is asked
for, in the minimum quantity and in the minimum amount. It meets all filters, and fitting it again
changes nothing. Its text need not: the zeros at its end are stripped also where there is no point
before them.

`place_order` fits a quantity to the lot filters before it sends it, which may raise it. What is
sent is at most what was asked for where the steps that fit are those of the quantity itself, or
where a sale on the spot market is not raised.

## Main definitions

* `fittedUnits`, `fittedQty` — the quantity in steps, and the quantity
* `Normalized` — what a normalized quantity has to be
* `SendsQty` — the quantity that is sent for an order
* `KeptByLot` — the filters do not raise a quantity

## Main results

* `fitLot_eq_none_iff`, `fitLot_spec` — the code finds that quantity
* `normalized_iff` — when its text is right
* `SendsQty.le`
-/

namespace Botik

/-! ### Order quantities that fit their filters -/

open Decimal

variable {f : LotFilters} {strict : Bool} {price qty : Decimal}

/-! ### Steps -/

/-- The steps of what is asked for, raised to the minimum quantity. -/
def stepUnits (f : LotFilters) (requested : ℚ) : ℤ :=
  max ⌊requested / f.qtyStep.value⌋ ⌈f.minQty.value / f.qtyStep.value⌉

/-- The steps of the quantity that fits. -/
def fittedUnits (f : LotFilters) (price requested : ℚ) : ℤ :=
  max (stepUnits f requested) ⌈f.minAmt.value / price / f.qtyStep.value⌉

/-- The quantity that fits. -/
def fittedQty (f : LotFilters) (price requested : ℚ) : ℚ :=
  fittedUnits f price requested * f.qtyStep.value

/-- Some steps are less than a quantity exactly when they are fewer than it takes. -/
theorem units_mul_lt_iff (f : LotFilters) (n : ℤ) (x : ℚ) :
    n * f.qtyStep.value < x ↔ n < ⌈x / f.qtyStep.value⌉ := by
  rw [Int.lt_ceil, lt_div_iff₀ f.step_pos]

theorem floor_mul_le (f : LotFilters) (x : ℚ) : ⌊x / f.qtyStep.value⌋ * f.qtyStep.value ≤ x := by
  rw [← le_div_iff₀ f.step_pos]
  exact Int.floor_le _

theorem le_ceil_mul (f : LotFilters) (x : ℚ) : x ≤ ⌈x / f.qtyStep.value⌉ * f.qtyStep.value := by
  rw [← div_le_iff₀ f.step_pos]
  exact Int.le_ceil _

/-- Rounding to a step never skips one. -/
theorem floor_le_ceil (f : LotFilters) {x y : ℚ} (h : x ≤ y) :
    ⌊x / f.qtyStep.value⌋ ≤ ⌈y / f.qtyStep.value⌉ :=
  (Int.floor_mono (div_le_div_of_nonneg_right h f.step_pos.le)).trans (Int.floor_le_ceil _)

theorem value_quantizeDown {x : ℚ} (hx : 0 ≤ x) (e : ℤ) :
    (quantizeDown f x e).value = ⌊x / f.qtyStep.value⌋ * f.qtyStep.value := by
  unfold quantizeDown
  rw [value_quantize roundDown_intCast]
  unfold roundDown
  rw [if_pos (div_nonneg hx f.step_pos.le)]

theorem value_quantizeUp {x : ℚ} (hx : 0 ≤ x) (e : ℤ) :
    (quantizeUp f x e).value = ⌈x / f.qtyStep.value⌉ * f.qtyStep.value := by
  unfold quantizeUp
  rw [value_quantize roundUp_intCast]
  unfold roundUp
  rw [if_pos (div_nonneg hx f.step_pos.le)]

/-- A quantity was rounded, either way, from this value and exponent. -/
def RoundedFrom (f : LotFilters) (value : ℚ) (exponent : ℤ) (d : Decimal) : Prop :=
  d = quantizeDown f value exponent ∨ d = quantizeUp f value exponent

/-- What the text of such a quantity ends in. -/
theorem RoundedFrom.endsInZero_iff {value : ℚ} {exponent : ℤ} {d : Decimal}
    (h : RoundedFrom f value exponent d) : EndsInZero d ↔
      (∃ n : ℤ, d.value = 10 * n) ∧
        (0 ≤ f.qtyStep.exponent ∨
          (∃ n : ℤ, d.value = f.qtyStep.coefficient * n) ∧ 0 ≤ exponent ∧ value = d.value) := by
  have hstep := value_pos_iff.mp f.step_pos
  rcases h with rfl | rfl
  · exact endsInZero_quantize_iff roundDown_intCast hstep
  · exact endsInZero_quantize_iff roundUp_intCast hstep

/-! ### The fitted quantity -/

/-- Raised to the minimum and rounded to a step. -/
def fitToStep (strict : Bool) (f : LotFilters) (qty : Decimal) : Option Decimal :=
  (raiseToMin strict f qty).bind (fitStep strict f)

/-- What is asked for lies below the minimum quantity in steps, too. -/
theorem floor_lt_of_lt_min (h : qty.value < f.minQty.value) :
    ⌊qty.value / f.qtyStep.value⌋ < ⌈f.minQty.value / f.qtyStep.value⌉ :=
  (units_mul_lt_iff f _ _).mp ((floor_mul_le f _).trans_lt h)

/-- The minimum quantity is raised to a whole number of steps. -/
theorem fitStep_minQty (f : LotFilters) : ∃ d, fitStep false f f.minQty = some d ∧
    d.value = ⌈f.minQty.value / f.qtyStep.value⌉ * f.qtyStep.value ∧
    RoundedFrom f f.minQty.value f.minQty.exponent d := by
  have hmin := f.min_pos.le
  have hdown := value_quantizeDown (f := f) hmin f.minQty.exponent
  unfold fitStep
  dsimp only
  by_cases hlow : (quantizeDown f f.minQty.value f.minQty.exponent).value < f.minQty.value
  · rw [if_pos hlow]
    exact ⟨_, rfl, value_quantizeUp hmin _, Or.inr rfl⟩
  · rw [if_neg hlow]
    refine ⟨_, rfl, ?_, Or.inl rfl⟩
    rw [hdown] at hlow ⊢
    have hceil := not_lt.mp ((units_mul_lt_iff f _ _).not.mp hlow)
    rw [le_antisymm (Int.floor_le_ceil _) hceil]

/-- A strict quantity is given up when it would be raised; any other is a number of steps, rounded
from what was asked for or from the minimum quantity. -/
theorem fitToStep_cases (strict : Bool) (f : LotFilters) (hqty : 0 < qty.value) :
    (fitToStep strict f qty = none ∧ strict = true ∧
        stepUnits f qty.value ≠ ⌊qty.value / f.qtyStep.value⌋) ∨
      ∃ d, fitToStep strict f qty = some d ∧
        d.value = stepUnits f qty.value * f.qtyStep.value ∧
        (strict = true → stepUnits f qty.value = ⌊qty.value / f.qtyStep.value⌋) ∧
        ((RoundedFrom f qty.value qty.exponent d ∧ f.minQty.value ≤ qty.value) ∨
          RoundedFrom f f.minQty.value f.minQty.exponent d ∧
            (f.minQty.value ≤ qty.value → qty.value ≠ d.value ∧ f.minQty.value ≠ d.value)) := by
  unfold fitToStep raiseToMin
  by_cases hlow : qty.value < f.minQty.value
  -- the quantity is below the minimum before any rounding
  · have hunits := floor_lt_of_lt_min hlow
    have hstep : stepUnits f qty.value = ⌈f.minQty.value / f.qtyStep.value⌉ :=
      max_eq_right hunits.le
    rw [if_pos hlow]
    cases strict with
    | true => exact Or.inl ⟨rfl, rfl, by rw [hstep]; exact hunits.ne'⟩
    | false =>
      obtain ⟨d, hd, hvalue, hfrom⟩ := fitStep_minQty f
      refine Or.inr ⟨d, hd, by rw [hvalue, hstep], fun h => absurd h Bool.false_ne_true, Or.inr
        ⟨hfrom, fun hge => absurd hlow (not_lt.mpr hge)⟩⟩
  · rw [if_neg hlow, Option.bind_some]
    have hdown := value_quantizeDown (f := f) hqty.le qty.exponent
    unfold fitStep
    dsimp only
    by_cases hbelow : (quantizeDown f qty.value qty.exponent).value < f.minQty.value
    · -- rounding down went below the minimum quantity
      rw [if_pos hbelow]
      rw [hdown] at hbelow
      have hunits := (units_mul_lt_iff f _ _).mp hbelow
      have hstep : stepUnits f qty.value = ⌈f.minQty.value / f.qtyStep.value⌉ :=
        max_eq_right hunits.le
      cases strict with
      | true => exact Or.inl ⟨rfl, rfl, by rw [hstep]; exact hunits.ne'⟩
      | false =>
        have hup := value_quantizeUp (f := f) f.min_pos.le f.minQty.exponent
        refine Or.inr ⟨_, rfl, by rw [hup, hstep], fun h => absurd h Bool.false_ne_true,
          Or.inr ⟨Or.inr rfl, fun _ => ⟨fun heq => ?_, fun heq => ?_⟩⟩⟩
        · rw [hup] at heq
          rw [heq, mul_div_cancel_right₀ _ f.step_pos.ne', Int.floor_intCast] at hunits
          exact hunits.false
        · rw [hup] at heq
          have hle := floor_le_ceil f (not_lt.mp hlow)
          have hfloor : ⌈f.minQty.value / f.qtyStep.value⌉ ≤ ⌊qty.value / f.qtyStep.value⌋ := by
            rw [Int.le_floor, le_div_iff₀ f.step_pos, ← heq]
            exact not_lt.mp hlow
          exact absurd hunits (not_lt.mpr hfloor)
    · rw [if_neg hbelow]
      rw [hdown] at hbelow
      have hunits := not_lt.mp ((units_mul_lt_iff f _ _).not.mp hbelow)
      have hstep : stepUnits f qty.value = ⌊qty.value / f.qtyStep.value⌋ := max_eq_left hunits
      exact Or.inr ⟨_, rfl, by rw [hdown, hstep], fun _ => hstep,
        Or.inl ⟨Or.inl rfl, not_lt.mp hlow⟩⟩

/-- The quantity is raised for the minimum amount. -/
def AmountLed (f : LotFilters) (price requested : ℚ) : Prop :=
  stepUnits f requested * f.qtyStep.value * price < f.minAmt.value

/-- What decides the quantity is written as a whole number and is the quantity already: the minimum
amount by the price, the minimum quantity, or what was asked for. -/
def StartsWhole (f : LotFilters) (price qty : Decimal) : Prop :=
  (AmountLed f price.value qty.value ∧ price.exponent ≤ f.minAmt.exponent ∧
      f.minAmt.value / price.value = fittedQty f price.value qty.value) ∨
    (¬ AmountLed f price.value qty.value ∧ qty.value < f.minQty.value ∧ 0 ≤ f.minQty.exponent ∧
      f.minQty.value = fittedQty f price.value qty.value) ∨
    ¬ AmountLed f price.value qty.value ∧ f.minQty.value ≤ qty.value ∧ 0 ≤ qty.exponent ∧
      qty.value = fittedQty f price.value qty.value

theorem amountLed_iff {x p : ℚ} (hp : 0 < p) : AmountLed f p x ↔
    stepUnits f x < ⌈f.minAmt.value / p / f.qtyStep.value⌉ := by
  unfold AmountLed
  rw [← lt_div_iff₀ hp, units_mul_lt_iff]

theorem stepUnits_pos (f : LotFilters) (x : ℚ) : 0 < stepUnits f x :=
  lt_max_of_lt_right (Int.ceil_pos.mpr (div_pos f.min_pos f.step_pos))

/-- The quantity is raised for the minimum amount where the code finds it too small. -/
theorem fitAmount_of_led (strict : Bool) {d : Decimal} (hprice : 0 < price.value)
    (hd : d.value = stepUnits f qty.value * f.qtyStep.value)
    (hled : AmountLed f price.value qty.value) :
    fitAmount strict f price d = if strict then none
      else some (quantizeUp f (f.minAmt.value / price.value)
        (quotientExponent (f.minAmt.value / price.value)
          (f.minAmt.exponent - price.exponent))) := by
  have hpos : 0 < stepUnits f qty.value * f.qtyStep.value * price.value :=
    mul_pos (mul_pos (by exact_mod_cast stepUnits_pos f _) f.step_pos) hprice
  have hlow : d.value * price.value < f.minAmt.value := hd ▸ hled
  unfold fitAmount
  rw [if_pos ⟨(hd ▸ hpos).trans hlow, hprice, hlow⟩]

theorem fitAmount_of_not_led (strict : Bool) {d : Decimal}
    (hd : d.value = stepUnits f qty.value * f.qtyStep.value)
    (hled : ¬ AmountLed f price.value qty.value) : fitAmount strict f price d = some d := by
  unfold fitAmount
  rw [hd, if_neg fun hlow => hled hlow.2.2]

/-- A strict quantity is given up when it would be raised; any other becomes the quantity that fits,
whose text ends in a zero if it is a multiple of ten and the step or what decides the quantity is
written as a whole number. -/
theorem fitLot_cases (strict : Bool) (f : LotFilters) (hprice : 0 < price.value)
    (hqty : 0 < qty.value) :
    (fitLot strict f price qty = none ∧ strict = true ∧
        fittedUnits f price.value qty.value ≠ ⌊qty.value / f.qtyStep.value⌋) ∨
      ∃ d, fitLot strict f price qty = some d ∧ d.value = fittedQty f price.value qty.value ∧
        (strict = true →
          fittedUnits f price.value qty.value = ⌊qty.value / f.qtyStep.value⌋) ∧
        (EndsInZero d ↔ (∃ n : ℤ, d.value = 10 * n) ∧ (0 ≤ f.qtyStep.exponent ∨
          (∃ n : ℤ, d.value = f.qtyStep.coefficient * n) ∧ StartsWhole f price qty)) := by
  -- first the step and the minimum quantity, then the amount
  have hbind : fitLot strict f price qty =
      (fitToStep strict f qty).bind (fitAmount strict f price) := by
    unfold fitToStep
    rw [Option.bind_assoc]
    rfl
  have hfloor : ⌊qty.value / f.qtyStep.value⌋ ≤ stepUnits f qty.value := le_max_left _ _
  have hunits : stepUnits f qty.value ≤ fittedUnits f price.value qty.value := le_max_left _ _
  rw [hbind]
  rcases fitToStep_cases strict f hqty with ⟨hnone, hstrict, hne⟩ | ⟨d, hsome, hd, hkeep, hfrom⟩
  · refine Or.inl ⟨by rw [hnone, Option.bind_none], hstrict, ?_⟩
    have := lt_of_le_of_ne hfloor (Ne.symm hne)
    exact (this.trans_le hunits).ne'
  · rw [hsome, Option.bind_some]
    by_cases hled : AmountLed f price.value qty.value
    · -- raised for the amount
      have hlt := (amountLed_iff hprice).mp hled
      have hfitted : fittedUnits f price.value qty.value =
          ⌈f.minAmt.value / price.value / f.qtyStep.value⌉ := max_eq_right hlt.le
      rw [fitAmount_of_led strict hprice hd hled]
      cases strict with
      | true => exact Or.inl ⟨rfl, rfl, (hfloor.trans_lt (hlt.trans_eq hfitted.symm)).ne'⟩
      | false =>
        have hup := value_quantizeUp (f := f) (div_nonneg f.amt_nonneg hprice.le)
          (quotientExponent (f.minAmt.value / price.value)
            (f.minAmt.exponent - price.exponent))
        rw [← hfitted] at hup
        refine Or.inr ⟨_, rfl, hup, fun h => absurd h Bool.false_ne_true, ?_⟩
        have hends := RoundedFrom.endsInZero_iff (f := f) (Or.inr rfl : RoundedFrom f
          (f.minAmt.value / price.value) (quotientExponent (f.minAmt.value / price.value)
            (f.minAmt.exponent - price.exponent)) _)
        rw [hends]
        refine and_congr_right fun hten => or_congr_right (and_congr_right fun _ => ?_)
        rw [hup] at hten ⊢
        unfold StartsWhole
        simp only [hled, not_true_eq_false, true_and, false_and, or_false]
        -- a quotient that is a whole number is written as one iff the exponents say so
        have hexact : f.minAmt.value / price.value = fittedQty f price.value qty.value →
            (0 ≤ quotientExponent (f.minAmt.value / price.value)
              (f.minAmt.exponent - price.exponent) ↔ price.exponent ≤ f.minAmt.exponent) := by
          intro heq
          obtain ⟨n, hn⟩ := hten
          have hint : f.minAmt.value / price.value = ((10 * n : ℤ) : ℚ) := by
            rw [heq]
            push_cast
            exact hn
          rw [hint, quotientExponent_nonneg_iff, sub_nonneg]
        constructor
        · rintro ⟨hexp, heq⟩
          exact ⟨(hexact heq).mp hexp, heq⟩
        · rintro ⟨hexp, heq⟩
          exact ⟨(hexact heq).mpr hexp, heq⟩
    -- the amount asks for no more than the step gave
    · have hle := not_lt.mp ((amountLed_iff hprice).not.mp hled)
      have hfitted : fittedUnits f price.value qty.value = stepUnits f qty.value := max_eq_left hle
      have hvalue : d.value = fittedQty f price.value qty.value := by
        unfold fittedQty
        rw [hd, hfitted]
      rw [fitAmount_of_not_led strict hd hled]
      refine Or.inr ⟨d, rfl, hvalue, fun h => hfitted.trans (hkeep h), ?_⟩
      rcases hfrom with ⟨hround, hmin⟩ | ⟨hround, hmin⟩
      · rw [hround.endsInZero_iff]
        unfold StartsWhole
        simp only [hled, not_false_eq_true, true_and, false_and, false_or, not_lt.mpr hmin, hmin,
          hvalue]
      · rw [hround.endsInZero_iff]
        refine and_congr_right fun _ => or_congr_right (and_congr_right fun _ => ?_)
        unfold StartsWhole
        rw [← hvalue]
        rcases lt_or_ge qty.value f.minQty.value with hlow | hge
        · simp only [hled, not_false_eq_true, true_and, false_and, false_or, hlow, not_le.mpr hlow,
            or_false]
        · obtain ⟨hne, hne'⟩ := hmin hge
          simp only [hled, hne, hne', and_false, false_and, or_false]

/-! ### What the fitted quantity meets -/

/-- A multiple of the step that meets the filters. -/
structure MeetsFilters (f : LotFilters) (price q : ℚ) : Prop where
  multiple : ∃ n : ℤ, q = n * f.qtyStep.value
  minQty : f.minQty.value ≤ q
  minAmt : f.minAmt.value ≤ q * price

theorem fittedQty_pos (f : LotFilters) (p x : ℚ) : 0 < fittedQty f p x := by
  have hunits : 0 < fittedUnits f p x := (stepUnits_pos f x).trans_le (le_max_left _ _)
  exact mul_pos (by exact_mod_cast hunits) f.step_pos

theorem meetsFilters_fittedQty (f : LotFilters) {p : ℚ} (hp : 0 < p) (x : ℚ) :
    MeetsFilters f p (fittedQty f p x) := by
  refine ⟨⟨_, rfl⟩, ?_, ?_⟩
  · refine (le_ceil_mul f f.minQty.value).trans (mul_le_mul_of_nonneg_right ?_ f.step_pos.le)
    exact_mod_cast (le_max_right _ _).trans (le_max_left _ _)
  · rw [← div_le_iff₀ hp]
    refine (le_ceil_mul f _).trans (mul_le_mul_of_nonneg_right ?_ f.step_pos.le)
    exact_mod_cast le_max_right _ _

/-- A quantity that meets the filters is fitted to itself. -/
theorem fittedUnits_of_meetsFilters {p q : ℚ} (hp : 0 < p) (h : MeetsFilters f p q) :
    fittedUnits f p q = ⌊q / f.qtyStep.value⌋ ∧ fittedQty f p q = q := by
  obtain ⟨n, hn⟩ := h.multiple
  have hfloor : ⌊q / f.qtyStep.value⌋ = n := by
    rw [hn, mul_div_cancel_right₀ _ f.step_pos.ne', Int.floor_intCast]
  have hmin : ⌈f.minQty.value / f.qtyStep.value⌉ ≤ n := by
    rw [Int.ceil_le, div_le_iff₀ f.step_pos, ← hn]
    exact h.minQty
  have hamt : ⌈f.minAmt.value / p / f.qtyStep.value⌉ ≤ n := by
    rw [Int.ceil_le, div_le_iff₀ f.step_pos, ← hn, div_le_iff₀ hp]
    exact h.minAmt
  have hunits : fittedUnits f p q = n := by
    unfold fittedUnits stepUnits
    rw [hfloor, max_eq_left hmin, max_eq_left hamt]
  refine ⟨hunits.trans hfloor.symm, ?_⟩
  unfold fittedQty
  rw [hunits, ← hn]

/-- Only what is asked for can decide it then. -/
theorem startsWhole_of_meetsFilters (hp : 0 < price.value)
    (h : MeetsFilters f price.value qty.value) : StartsWhole f price qty ↔ 0 ≤ qty.exponent := by
  obtain ⟨hunits, hself⟩ := fittedUnits_of_meetsFilters hp h
  have hstep : stepUnits f qty.value = ⌊qty.value / f.qtyStep.value⌋ :=
    le_antisymm ((le_max_left _ _).trans_eq hunits) (le_max_left _ _)
  have hled : ¬ AmountLed f price.value qty.value := by
    obtain ⟨n, hn⟩ := h.multiple
    unfold AmountLed
    rw [hstep, hn, mul_div_cancel_right₀ _ f.step_pos.ne', Int.floor_intCast, ← hn]
    exact not_lt.mpr h.minAmt
  unfold StartsWhole
  simp only [hled, not_false_eq_true, true_and, false_and, false_or, not_lt.mpr h.minQty, h.minQty,
    hself, and_true]

/-! ### Texts of quantities -/

theorem fmtDecimal_eq {d : Decimal} (hpos : 0 < d.coefficient) :
    fmtDecimal d = String.ofList (plainDigits (shortened d).1 (shortened d).2) := by
  unfold fmtDecimal
  dsimp only
  rw [rdropWhile_formatF hpos, if_neg (plainDigits_ne_nil _ _)]

theorem ofText?_fmtDecimal {d : Decimal} (hpos : 0 < d.coefficient) :
    ofText? (fmtDecimal d) = some (ofDigits (shortened d)) := by
  rw [fmtDecimal_eq hpos, ofText?_plainDigits]
  rfl

/-- Two quantities with the same text have the same digits. -/
theorem fmtDecimal_inj_iff {d d' : Decimal} (hpos : 0 < d.coefficient) (hpos' : 0 < d'.coefficient) :
    fmtDecimal d = fmtDecimal d' ↔ shortened d = shortened d' := by
  constructor
  · intro h
    have hread := ofText?_fmtDecimal hpos
    rw [h, ofText?_fmtDecimal hpos'] at hread
    have hdigits := Option.some.inj hread
    unfold ofDigits at hdigits
    rw [Decimal.mk.injEq] at hdigits
    refine Prod.ext ?_ ?_
    · exact_mod_cast hdigits.1.symm
    · have := hdigits.2
      omega
  · intro h
    rw [fmtDecimal_eq hpos, fmtDecimal_eq hpos', h]

/-! ### Normalized quantities -/

variable {category : MarketCategory} {side qtyText priceText : String}

theorem isInflated_iff {d : Decimal} (hprice : 0 < price.value) (hqty : 0 < qty.value) :
    IsInflated price qty d ↔ 3 * qty.value < d.value := by
  have hnotional := mul_pos hqty hprice
  unfold IsInflated
  rw [lt_div_iff₀ hnotional, ← mul_assoc, mul_lt_mul_iff_left₀ hprice]
  simp [hprice, hnotional]

/-- A quantity is answered when it fits and is not inflated. -/
theorem normalizeOrderQty_eq_some_iff (hqtyText : ofText? qtyText = some qty)
    (hpriceText : ofText? priceText = some price) (hqty : 0 < qty.value) (hprice : 0 < price.value)
    {out : String} :
    normalizeOrderQty category (some f) side qtyText priceText = some out ↔
      ∃ d, fitLot (spotSellFloorStrict category side) f price qty = some d ∧
        d.value ≤ 3 * qty.value ∧ fmtDecimal d = out := by
  unfold normalizeOrderQty
  rw [hqtyText, hpriceText]
  change (if qty.value ≤ 0 then none else
    (fitLot (spotSellFloorStrict category side) f price qty).bind fun d =>
      if d.value ≤ 0 then none else if IsInflated price qty d then none else some (fmtDecimal d)) =
    some out ↔ _
  rw [if_neg (not_le.mpr hqty)]
  rcases fitLot_cases (spotSellFloorStrict category side) f hprice hqty with
    ⟨hnone, -, -⟩ | ⟨d, hsome, hd, -, -⟩
  · simp [hnone]
  · have hpos : ¬ d.value ≤ 0 := not_le.mpr (hd ▸ fittedQty_pos f _ _)
    rw [hsome, Option.bind_some, if_neg hpos]
    constructor
    · intro h
      split_ifs at h with hinflated
      exact ⟨d, rfl, not_lt.mp ((isInflated_iff hprice hqty).not.mp hinflated),
        Option.some.inj h⟩
    · rintro ⟨d', hd', hle, hout⟩
      obtain rfl := Option.some.inj hd'
      rw [if_neg ((isInflated_iff hprice hqty).not.mpr (not_lt.mpr hle)), hout]

/-- What a normalized quantity has to be: it meets the filters, a sale on the spot market is not
raised, the notional is at most three times what was asked for, and normalizing it again changes
nothing. -/
structure Normalized (category : MarketCategory) (f : LotFilters) (side : String)
    (price qty : Decimal) (priceText out : String) (d : Decimal) : Prop where
  read : ofText? out = some d
  meets : MeetsFilters f price.value d.value
  not_raised : spotSellFloorStrict category side = true → d.value ≤ qty.value
  notional : d.value * price.value ≤ 3 * (qty.value * price.value)
  again : normalizeOrderQty category (some f) side out priceText = some out

/-- The quantity that fits is not raised where it must not be, nor more than threefold. -/
def FitsRequest (category : MarketCategory) (f : LotFilters) (side : String) (price qty : ℚ) : Prop :=
  (spotSellFloorStrict category side = true →
    fittedUnits f price qty = ⌊qty / f.qtyStep.value⌋) ∧ fittedQty f price qty ≤ 3 * qty

/-- A multiple of ten of which the step or its digits are a part: its text loses zeros, at the
latest when it is normalized again. -/
def LosesZeros (f : LotFilters) (q : ℚ) : Prop :=
  (∃ n : ℤ, q = 10 * n) ∧ (0 ≤ f.qtyStep.exponent ∨ ∃ n : ℤ, q = f.qtyStep.coefficient * n)

/-- The zeros are lost at once, and what is left of the quantity meets the filters, too. -/
def FitsWithoutZeros (f : LotFilters) (price qty : Decimal) : Prop :=
  (0 ≤ f.qtyStep.exponent ∨ StartsWhole f price qty) ∧
    ∃ n t : ℕ, fittedQty f price.value qty.value = n * 10 ^ t ∧ ¬ 10 ∣ n ∧
      MeetsFilters f price.value n

/-- The digits without the zeros at the end are known from the number. -/
theorem eq_of_mul_pow_eq {n n' t t' : ℕ} (hn : ¬ 10 ∣ n) (hn' : ¬ 10 ∣ n')
    (h : (n : ℚ) * 10 ^ t = n' * 10 ^ t') : n = n' := by
  have hnat : n * 10 ^ t = n' * 10 ^ t' := by exact_mod_cast h
  wlog hle : t ≤ t' generalizing n n' t t'
  · exact (this hn' hn h.symm hnat.symm (by omega)).symm
  obtain ⟨j, rfl⟩ := Nat.exists_eq_add_of_le hle
  rw [pow_add, mul_comm (10 ^ t), ← mul_assoc] at hnat
  have heq : n = n' * 10 ^ j := Nat.eq_of_mul_eq_mul_right (by positivity) hnat
  cases j with
  | zero => simpa using heq
  | succ j => exact absurd ⟨n' * 10 ^ j, by rw [heq]; ring⟩ hn

variable (category side) in
/-- A quantity that meets the filters is answered again, with some number of digits. -/
theorem normalize_again (hprice : 0 < price.value) (hpriceText : ofText? priceText = some price)
    {out : String} {d : Decimal} (hout : ofText? out = some d) (hd : 0 < d.value)
    (hmeets : MeetsFilters f price.value d.value) :
    ∃ e, e.value = d.value ∧
      (EndsInZero e ↔ (∃ n : ℤ, d.value = 10 * n) ∧ (0 ≤ f.qtyStep.exponent ∨
        (∃ n : ℤ, d.value = f.qtyStep.coefficient * n) ∧ 0 ≤ d.exponent)) ∧
      normalizeOrderQty category (some f) side out priceText = some (fmtDecimal e) := by
  obtain ⟨hunits, hself⟩ := fittedUnits_of_meetsFilters hprice hmeets
  rcases fitLot_cases (spotSellFloorStrict category side) f hprice hd with
    ⟨-, -, hne⟩ | ⟨e, hsome, he, -, hends⟩
  · exact absurd hunits hne
  · rw [he, hself, startsWhole_of_meetsFilters hprice hmeets] at hends
    refine ⟨e, he.trans hself, hends, ?_⟩
    refine (normalizeOrderQty_eq_some_iff hout hpriceText hd hprice).mpr ⟨e, hsome, ?_, rfl⟩
    rw [he, hself]
    linarith

/-- A quantity whose text keeps its zeros is normalized, unless the next text loses them. -/
theorem normalized_fmtDecimal_iff (hpriceText : ofText? priceText = some price)
    (hprice : 0 < price.value)
    (hfits : FitsRequest category f side price.value qty.value) {d : Decimal}
    (hd : d.value = fittedQty f price.value qty.value) (hends : ¬ EndsInZero d) :
    (∃ d', Normalized category f side price qty priceText (fmtDecimal d) d') ↔
      ¬ LosesZeros f (fittedQty f price.value qty.value) := by
  have hpos : 0 < d.value := hd ▸ fittedQty_pos f _ _
  have hcoefficient := value_pos_iff.mp hpos
  have hread := ofText?_fmtDecimal hcoefficient
  obtain ⟨hvalue, hdigits⟩ := value_shortened hcoefficient hends
  have hmeets : MeetsFilters f price.value (ofDigits (shortened d)).value := by
    rw [hvalue, hd]
    exact meetsFilters_fittedQty f hprice _
  obtain ⟨e, he, hendsAgain, hagain⟩ := normalize_again category side
    hprice hpriceText hread (hvalue ▸ hpos) hmeets
  have hePos : 0 < e.coefficient := value_pos_iff.mp (by rw [he, hvalue]; exact hpos)
  -- the text stays exactly when the next quantity keeps its zeros
  have hsame : fmtDecimal e = fmtDecimal d ↔ ¬ EndsInZero e := by
    rw [fmtDecimal_inj_iff hePos hcoefficient]
    constructor
    · intro hshort hendsE
      obtain ⟨hwhole, hnot, t, ht, hlost⟩ := shortened_of_endsInZero hePos hendsE
      have hkept : e.value = (shortened e).1 := by
        rw [he, hshort]
        unfold ofDigits value
        rw [← hshort, hwhole]
        simp
      rw [hkept] at hlost
      have hten : 10 ∣ (shortened e).1 := by
        have : (shortened e).1 = (shortened e).1 * 10 ^ t := by exact_mod_cast hlost
        rw [this]
        exact Dvd.dvd.mul_left (dvd_pow_self 10 ht.ne') _
      exact hnot hten
    · intro hkeeps
      obtain ⟨hvalueE, hdigitsE⟩ := value_shortened hePos hkeeps
      exact ofDigits_inj hdigitsE hdigits (hvalueE.trans he)
  have hloses : EndsInZero e ↔ LosesZeros f (fittedQty f price.value qty.value) := by
    rw [hendsAgain, hvalue, hd]
    refine and_congr_right fun hten => or_congr_right (and_iff_left ?_)
    -- a whole number has no digits behind the point
    rcases hdigits with hzero | hnot
    · unfold ofDigits
      rw [hzero]
      simp
    · exfalso
      obtain ⟨n, hn⟩ := hten
      have hint : ((shortened d).1 : ℚ) = 10 * n * 10 ^ (shortened d).2 := by
        rw [← hn, ← hd, ← hvalue]
        unfold ofDigits value
        simp
      have hint' : ((shortened d).1 : ℤ) = 10 * (n * 10 ^ (shortened d).2) := by
        have : ((shortened d).1 : ℚ) = ((10 * (n * 10 ^ (shortened d).2) : ℤ) : ℚ) := by
          push_cast
          rw [hint]
          ring
        exact_mod_cast this
      exact hnot (Int.natCast_dvd_natCast.mp ⟨_, hint'⟩)
  rw [← hloses, ← hsame]
  constructor
  · rintro ⟨d', hd'⟩
    have := hd'.again
    rw [hagain] at this
    exact Option.some.inj this
  · intro htext
    refine ⟨_, hread, hmeets, fun hstrict => ?_, ?_, by rw [hagain, htext]⟩
    · rw [hvalue, hd]
      unfold fittedQty
      rw [hfits.1 hstrict]
      exact floor_mul_le f _
    · rw [hvalue, hd, ← mul_assoc]
      exact mul_le_mul_of_nonneg_right hfits.2 hprice.le

/-- A quantity whose text loses its zeros is normalized if what is left meets the filters. -/
theorem normalized_shortened_iff (hpriceText : ofText? priceText = some price)
    (hprice : 0 < price.value)
    (hfits : FitsRequest category f side price.value qty.value) {d : Decimal}
    (hd : d.value = fittedQty f price.value qty.value) (hends : EndsInZero d) :
    (∃ d', Normalized category f side price qty priceText (fmtDecimal d) d') ↔
      ∃ n t : ℕ, fittedQty f price.value qty.value = n * 10 ^ t ∧ ¬ 10 ∣ n ∧
        MeetsFilters f price.value n := by
  have hpos : 0 < d.value := hd ▸ fittedQty_pos f _ _
  have hcoefficient := value_pos_iff.mp hpos
  have hread := ofText?_fmtDecimal hcoefficient
  obtain ⟨hwhole, hnot, t, -, hlost⟩ := shortened_of_endsInZero hcoefficient hends
  have hvalue : (ofDigits (shortened d)).value = (shortened d).1 := by
    unfold ofDigits value
    rw [hwhole]
    simp
  constructor
  · rintro ⟨d', hd'⟩
    have hmeets := hd'.meets
    rw [← Option.some.inj (hread.symm.trans hd'.read), hvalue] at hmeets
    exact ⟨(shortened d).1, t, hd ▸ hlost, hnot, hmeets⟩
  · rintro ⟨n, t', hn, hnotn, hmeets⟩
    have hsame : n = (shortened d).1 :=
      eq_of_mul_pow_eq hnotn hnot (by rw [← hn, ← hd, hlost])
    rw [hsame, ← hvalue] at hmeets
    have hpos' : 0 < (ofDigits (shortened d)).value := f.min_pos.trans_le hmeets.minQty
    obtain ⟨e, he, hendsAgain, hagain⟩ := normalize_again category side
      hprice hpriceText hread hpos' hmeets
    have hePos : 0 < e.coefficient := value_pos_iff.mp (by rw [he]; exact hpos')
    have hkeeps : ¬ EndsInZero e := by
      rintro ⟨-, m, hm⟩
      rw [he, hvalue] at hm
      exact hnot (Int.natCast_dvd_natCast.mp ⟨m, by exact_mod_cast hm⟩)
    obtain ⟨hvalueE, hdigitsE⟩ := value_shortened hePos hkeeps
    have htext : fmtDecimal e = fmtDecimal d := (fmtDecimal_inj_iff hePos hcoefficient).mpr
      (ofDigits_inj hdigitsE (Or.inl hwhole) (hvalueE.trans he))
    -- what is left is less than the quantity
    have hle : (ofDigits (shortened d)).value ≤ fittedQty f price.value qty.value := by
      rw [hvalue, ← hd, hlost]
      exact le_mul_of_one_le_right (Nat.cast_nonneg _) (one_le_pow₀ (by norm_num))
    refine ⟨_, hread, hmeets, fun hstrict => ?_, ?_, by rw [hagain, htext]⟩
    · refine hle.trans ?_
      unfold fittedQty
      rw [hfits.1 hstrict]
      exact floor_mul_le f _
    · rw [← mul_assoc]
      exact mul_le_mul_of_nonneg_right (hle.trans hfits.2) hprice.le

/-- What `_normalize_order_qty` answers is normalized exactly when the quantity that fits keeps its
zeros in the text, or loses them at once and still meets the filters. -/
theorem normalized_iff (hqtyText : ofText? qtyText = some qty)
    (hpriceText : ofText? priceText = some price) (hqty : 0 < qty.value)
    (hprice : 0 < price.value) :
    (∀ out, normalizeOrderQty category (some f) side qtyText priceText = some out →
        ∃ d, Normalized category f side price qty priceText out d) ↔
      (FitsRequest category f side price.value qty.value →
        LosesZeros f (fittedQty f price.value qty.value) → FitsWithoutZeros f price qty) := by
  have hanswered (out : String) :
      normalizeOrderQty category (some f) side qtyText priceText = some out ↔ _ :=
    normalizeOrderQty_eq_some_iff hqtyText hpriceText hqty hprice
  -- a quantity given up is answered by nothing
  rcases fitLot_cases (spotSellFloorStrict category side) f hprice hqty with
    ⟨hnone, hstrict, hne⟩ | ⟨d, hsome, hd, hkeep, hends⟩
  · refine iff_of_true (fun out hout => ?_) fun hfits => absurd (hfits.1 hstrict) hne
    obtain ⟨d, hsome, -⟩ := (hanswered out).mp hout
    rw [hnone] at hsome
    cases hsome
  -- more than three times what was asked for is refused
  · by_cases hinflated : fittedQty f price.value qty.value ≤ 3 * qty.value
    · have hfits : FitsRequest category f side price.value qty.value := ⟨hkeep, hinflated⟩
      have hout : (∀ out, normalizeOrderQty category (some f) side qtyText priceText = some out →
          ∃ d', Normalized category f side price qty priceText out d') ↔
            ∃ d', Normalized category f side price qty priceText (fmtDecimal d) d' := by
        constructor
        · intro h
          exact h _ ((hanswered _).mpr ⟨d, hsome, hd ▸ hinflated, rfl⟩)
        · intro h out hout
          obtain ⟨d', hsome', -, rfl⟩ := (hanswered out).mp hout
          rw [hsome] at hsome'
          obtain rfl := Option.some.inj hsome'
          exact h
      rw [hout]
      rw [hd] at hends
      -- `_fmt_decimal` strips the zeros of a whole number, too
      by_cases hzero : EndsInZero d
      · rw [normalized_shortened_iff hpriceText hprice hfits hd hzero]
        obtain ⟨hten, hwhole⟩ := hends.mp hzero
        constructor
        · intro h _ _
          exact ⟨hwhole.imp_right And.right, h⟩
        · intro h
          exact (h hfits ⟨hten, hwhole.imp_right And.left⟩).2
      · rw [normalized_fmtDecimal_iff hpriceText hprice hfits hd hzero]
        constructor
        · intro hkeeps _ hloses
          exact absurd hloses hkeeps
        · intro h hloses
          obtain ⟨hten, hdivides⟩ := hloses
          obtain ⟨hwhole, -⟩ := h hfits ⟨hten, hdivides⟩
          refine hzero (hends.mpr ⟨hten, ?_⟩)
          rcases hwhole with hstep | hstarts
          · exact Or.inl hstep
          · exact hdivides.imp_right fun hdiv => ⟨hdiv, hstarts⟩
    · refine iff_of_true (fun out hout => ?_) fun hfits => absurd hfits.2 hinflated
      obtain ⟨d', hsome', hle, -⟩ := (hanswered out).mp hout
      rw [hsome] at hsome'
      obtain rfl := Option.some.inj hsome'
      rw [hd] at hle
      exact absurd hle hinflated

/-- Filters of one step, one as the minimum quantity, and an amount of five. -/
def filtersOf (step : Decimal) (hstep : 0 < step.value) : LotFilters where
  qtyStep := step
  minQty := step
  minAmt := ⟨5, 0⟩
  step_pos := hstep
  min_pos := hstep
  amt_nonneg := by decide +kernel

/-- Steps of a thousandth. -/
def fineFilters : LotFilters := filtersOf ⟨1, -3⟩ (by decide +kernel)

/-- Whole steps. -/
def wholeFilters : LotFilters := filtersOf ⟨1, 0⟩ (by decide +kernel)

theorem fineFilters_normalized :
    normalizeOrderQty .linear (some fineFilters) "Buy" "0.12345678" "100" = some "0.123" ∧
      ∀ out, normalizeOrderQty .linear (some fineFilters) "Buy" "0.12345678" "100" = some out →
        ∃ d, Normalized .linear fineFilters "Buy" ⟨100, 0⟩ ⟨12345678, -8⟩ "100" out d := by
  refine ⟨by decide +kernel, (normalized_iff (by decide +kernel) (by decide +kernel)
    (by decide +kernel) (by decide +kernel)).mpr fun _ hloses => ?_⟩
  obtain ⟨⟨n, hn⟩, -⟩ := hloses
  have hfitted : fittedQty fineFilters (⟨100, 0⟩ : Decimal).value (⟨12345678, -8⟩ : Decimal).value =
      123 / 1000 := by decide +kernel
  rw [hfitted] at hn
  have hint : (123 : ℤ) = 10000 * n := by
    have : (123 : ℚ) = 10000 * n := by linarith
    exact_mod_cast this
  omega

/-- A hundred, as the trading loop writes it, is normalized to one, which is worth too little. -/
theorem wholeFilters_loses_zeros :
    (LotFilters.ofFields ⟨none, some "1", some "1", some "5", none⟩).map
        (fun f => (f.qtyStep, f.minQty, f.minAmt)) =
      some (wholeFilters.qtyStep, wholeFilters.minQty, wholeFilters.minAmt) ∧
      normalizeOrderQty .spot (some wholeFilters) "Buy" "100.00000000" "1.00000000" = some "1" ∧
      ofText? "1" = some ⟨1, 0⟩ ∧ ¬ MeetsFilters wholeFilters 1 1 ∧
      ¬ ∃ d, Normalized .spot wholeFilters "Buy" ⟨100000000, -8⟩ ⟨10000000000, -8⟩ "1.00000000"
        "1" d := by
  have hread : ofText? "1" = some ⟨1, 0⟩ := by decide +kernel
  have hsmall : ¬ (wholeFilters.minAmt.value ≤ 1 * 1) := by decide +kernel
  refine ⟨by decide +kernel, by decide +kernel, hread, fun h => hsmall h.minAmt, ?_⟩
  rintro ⟨d, hd⟩
  have hmeets := hd.meets
  rw [← Option.some.inj (hread.symm.trans hd.read)] at hmeets
  have hone : (⟨1, 0⟩ : Decimal).value = 1 := by decide +kernel
  have hprice : (⟨100000000, -8⟩ : Decimal).value = 1 := by decide +kernel
  rw [hone, hprice] at hmeets
  exact hsmall hmeets.minAmt

/-! ### The quantity that is sent -/

open Decimal

variable {category : MarketCategory} {filters : Option LotFilters} {f : LotFilters}

/-- What `place_order` sends for an order, whose texts spell its quantity and its price. -/
def SendsQty (category : MarketCategory) (filters : Option LotFilters) (order : OrderRequest)
    (sent : ℚ) : Prop :=
  ∃ qtyText priceText out qty price sentQty,
    ofText? qtyText = some qty ∧ qty.value = order.qty ∧
      ofText? priceText = some price ∧ price.value = order.price ∧
      normalizeOrderQty category filters order.side qtyText priceText = some out ∧
      ofText? out = some sentQty ∧ sentQty.value = sent

/-- The filters do not raise a quantity: it is for sale on the spot market, or fitting it takes no
more than the steps it has. -/
def KeptByLot (category : MarketCategory) (filters : Option LotFilters) (side : String)
    (price qty : ℚ) : Prop :=
  ∀ f ∈ filters, spotSellFloorStrict category side = true ∨
    fittedUnits f price qty = ⌊qty / f.qtyStep.value⌋

instance (side : String) (price qty : ℚ) :
    Decidable (KeptByLot category filters side price qty) :=
  inferInstanceAs (Decidable (∀ f ∈ filters, _ ∨ _))

/-- The text of a quantity never spells more. -/
theorem value_of_fmtDecimal {d out : Decimal} (hpos : 0 < d.value)
    (h : ofText? (fmtDecimal d) = some out) : 0 ≤ out.value ∧ out.value ≤ d.value := by
  have hcoefficient := value_pos_iff.mp hpos
  rw [ofText?_fmtDecimal hcoefficient] at h
  obtain rfl := Option.some.inj h
  have hnonneg : 0 ≤ (ofDigits (shortened d)).value := by
    change 0 ≤ (((shortened d).1 : ℤ) : ℚ) * 10 ^ (-((shortened d).2 : ℤ))
    rw [Int.cast_natCast]
    exact mul_nonneg (Nat.cast_nonneg _) (zpow_nonneg (by norm_num) _)
  refine ⟨hnonneg, ?_⟩
  by_cases hend : EndsInZero d
  · -- stripping the zeros of a whole number divides it
    obtain ⟨hwhole, -, t, -, hvalue⟩ := shortened_of_endsInZero hcoefficient hend
    have hshort : (ofDigits (shortened d)).value = (shortened d).1 := by
      unfold ofDigits value
      rw [hwhole]
      simp
    rw [hshort, hvalue]
    exact le_mul_of_one_le_right (Nat.cast_nonneg _) (one_le_pow₀ (by norm_num))
  · exact (value_shortened hcoefficient hend).1.le

/-- Whatever fits without being raised is at most what was asked for. -/
theorem fitLot_le {strict : Bool} {price qty d : Decimal} (hqty : 0 < qty.value)
    (h : fitLot strict f price qty = some d)
    (hkept : strict = true ∨
      fittedUnits f price.value qty.value = ⌊qty.value / f.qtyStep.value⌋) :
    d.value ≤ qty.value := by
  rcases lt_or_ge 0 price.value with hpos | hnone
  · rcases fitLot_cases strict f hpos hqty with ⟨hnone, -, -⟩ | ⟨d', hsome, hd, hstrict, -⟩
    · rw [hnone] at h
      cases h
    · obtain rfl := Option.some.inj (h.symm.trans hsome)
      have hunits : fittedUnits f price.value qty.value = ⌊qty.value / f.qtyStep.value⌋ :=
        hkept.elim hstrict id
      rw [hd]
      unfold fittedQty
      rw [hunits]
      exact floor_mul_le f _
  · -- without a price there is no minimum amount
    have hamount : ∀ q, fitAmount strict f price q = some q := by
      intro q
      unfold fitAmount
      rw [if_neg fun hlow => hnone.not_gt hlow.2.1]
    have hfit : fitToStep strict f qty = some d := by
      unfold fitLot at h
      simp only [hamount, Option.bind_eq_bind] at h
      unfold fitToStep
      simpa using h
    -- the amount in steps is not positive, so the maximum is the step's
    have hsteps : fittedUnits f price.value qty.value = stepUnits f qty.value := by
      have hamountUnits : ⌈f.minAmt.value / price.value / f.qtyStep.value⌉ ≤ 0 := by
        rw [Int.ceil_le, Int.cast_zero]
        exact div_nonpos_of_nonpos_of_nonneg (div_nonpos_of_nonneg_of_nonpos f.amt_nonneg hnone)
          f.step_pos.le
      exact max_eq_left (hamountUnits.trans (stepUnits_pos f _).le)
    rcases fitToStep_cases strict f hqty with ⟨hnone, -, -⟩ | ⟨d', hsome, hd, hstrict, -⟩
    · rw [hnone] at hfit
      cases hfit
    · obtain rfl := Option.some.inj (hfit.symm.trans hsome)
      have hunits : stepUnits f qty.value = ⌊qty.value / f.qtyStep.value⌋ :=
        hkept.elim hstrict fun hfloor => hsteps.symm.trans hfloor
      rw [hd, hunits]
      exact floor_mul_le f _

/-- A quantity that the filters do not raise is sent in full at most. -/
theorem SendsQty.le {order : OrderRequest} {sent : ℚ}
    (h : SendsQty category filters order sent)
    (hkept : KeptByLot category filters order.side order.price order.qty) :
    0 ≤ sent ∧ sent ≤ order.qty := by
  obtain ⟨qtyText, priceText, out, qty, price, sentQty, hqtyText, hqty, hpriceText, hpriceValue,
    hnormalized, hout, rfl⟩ := h
  rw [← hpriceValue, ← hqty] at hkept
  rw [← hqty]
  unfold normalizeOrderQty at hnormalized
  rw [hqtyText, hpriceText] at hnormalized
  simp only [Option.bind_eq_bind, Option.bind_some] at hnormalized
  split_ifs at hnormalized with hnone
  have hpos : 0 < qty.value := not_le.mp hnone
  cases filters with
  | none =>
    obtain rfl := Option.some.inj hnormalized
    exact value_of_fmtDecimal hpos hout
  | some f =>
    obtain ⟨fitted, hfitted, hnormalized⟩ := Option.bind_eq_some_iff.mp hnormalized
    split_ifs at hnormalized with hzero hinflated
    obtain rfl := Option.some.inj hnormalized
    obtain ⟨hnonneg, hle⟩ := value_of_fmtDecimal (not_le.mp hzero) hout
    exact ⟨hnonneg, hle.trans (fitLot_le hpos hfitted (hkept f rfl))⟩

end Botik
