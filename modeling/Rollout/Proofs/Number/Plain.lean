import Mathlib.Algebra.Field.Rat
import Mathlib.Algebra.Order.Ring.Rat
import Mathlib.Data.List.Basic
import Mathlib.Tactic.NormNum
import Rollout.Proofs.Number.Decimal
import Rollout.Proofs.Number.Numeral

/-!
# Decimals in fixed notation

A decimal in fixed notation is the numeral of the number that it is, without zeros at the end of the
fraction. So the places that are written are the places that the number needs.
-/

set_option autoImplicit false

namespace Rollout.Number

/-!
## Digits and zeros
-/

theorem ofDigitChars_digits (value : Nat) : Nat.ofDigitChars 10 (digits value) 0 = value :=
  Nat.ofDigitChars_toDigits (by decide) (by decide)

private theorem ofDigitChars_padded (width value : Nat) :
    Nat.ofDigitChars 10 (padded width value) 0 = value := by
  rw [padded, zeros, Nat.ofDigitChars_append, Nat.ofDigitChars_replicate_zero, Nat.mul_zero,
    ofDigitChars_digits]

theorem isDigit_of_mem_padded {width value : Nat} {char : Char}
    (member : char ∈ padded width value) : char.isDigit = true := by
  rcases List.mem_append.mp member with front | behind
  · rw [List.eq_of_mem_replicate front]
    rfl
  · exact Nat.isDigit_of_mem_toDigits (by decide) (by decide) behind

theorem le_length_padded (width value : Nat) : width ≤ (padded width value).length := by
  simp only [padded, zeros, List.length_append, List.length_replicate, digitCount]
  omega

private theorem digits_mul_pow {value : Nat} (nonzero : value ≠ 0) (count : Nat) :
    digits (value * 10 ^ count) = digits value ++ zeros count := by
  induction count with
  | zero => simp [zeros]
  | succ count ih =>
      have positive : 0 < value * 10 ^ count := by positivity
      have appended := Nat.toDigits_append_toDigits (by decide : 1 < 10) positive
        (by decide : 0 < 10)
      have shifted : value * 10 ^ (count + 1) = 10 * (value * 10 ^ count) + 0 := by
        rw [pow_succ]
        ring
      rw [digits, shifted, ← appended]
      unfold digits at ih
      rw [ih, List.append_assoc]
      congr 1
      exact (List.replicate_succ' ..).symm

theorem digitCount_mul_pow {value : Nat} (nonzero : value ≠ 0) (count : Nat) :
    digitCount (value * 10 ^ count) = digitCount value + count := by
  rw [digitCount, digits_mul_pow nonzero, List.length_append, zeros, List.length_replicate]
  rfl

/-- What is left of a number without the zeros at its end, as long as some may be dropped. -/
theorem stripZeros_spec (limit value : Nat) :
    (stripZeros limit value).1 * 10 ^ (stripZeros limit value).2 = value ∧
      (stripZeros limit value).2 ≤ limit ∧
      ((stripZeros limit value).2 < limit → (stripZeros limit value).1 % 10 ≠ 0) := by
  induction limit generalizing value with
  | zero => simp [stripZeros]
  | succ limit ih =>
      rw [stripZeros]
      split
      · next divisible =>
          obtain ⟨same, few, stripped⟩ := ih (value / 10)
          dsimp only
          refine ⟨?_, by omega, fun more => stripped (by omega)⟩
          rw [pow_succ, ← Nat.mul_assoc, same]
          omega
      · next indivisible => simpa using indivisible

/-!
## Rounding
-/

theorem divideNearest_mul {factor : Nat} (positive : 0 < factor) (numerator denominator : Nat) :
    divideNearest (numerator * factor) (denominator * factor) =
      divideNearest numerator denominator := by
  have twice : 2 * (numerator % denominator * factor) = 2 * (numerator % denominator) * factor :=
    (Nat.mul_assoc ..).symm
  have beyond : denominator * factor < 2 * (numerator % denominator) * factor ↔
      denominator < 2 * (numerator % denominator) := Nat.mul_lt_mul_right positive
  have tied : (2 * (numerator % denominator) * factor == denominator * factor) =
      (2 * (numerator % denominator) == denominator) := by
    rw [Bool.eq_iff_iff, beq_iff_eq, beq_iff_eq, Nat.mul_right_cancel_iff positive]
  simp only [divideNearest, Nat.mul_div_mul_right _ _ positive, Nat.mul_mod_mul_right, twice,
    gt_iff_lt, beyond, tied]

namespace Decimal

variable {coefficient : Nat}

theorem roundAt_mul_pow (nonzero : coefficient ≠ 0) (count dropped : Nat) :
    roundAt (coefficient * 10 ^ count) (dropped + count) = roundAt coefficient dropped := by
  have beyond : dropped + count > digitCount coefficient + count ↔
      dropped > digitCount coefficient := by omega
  have power : Nat.pow 10 (dropped + count) = 10 ^ dropped * 10 ^ count := Nat.pow_add ..
  rw [roundAt, roundAt, digitCount_mul_pow nonzero, power,
    divideNearest_mul (Nat.pow_pos (by decide))]
  simp only [beyond]
  rfl

end Decimal

/-!
## Numbers
-/

namespace Decimal

/-- The number that a coefficient and an exponent stand for. -/
def magnitude (coefficient : Nat) (exponent : Int) : ℚ :=
  coefficient * 10 ^ exponent

theorem magnitude_mul_pow (coefficient count : Nat) (exponent : Int) :
    magnitude (coefficient * 10 ^ count) exponent = magnitude coefficient (exponent + count) := by
  rw [magnitude, magnitude, zpow_add₀ (by norm_num), zpow_natCast]
  push_cast
  ring

theorem magnitude_natural (coefficient count : Nat) :
    magnitude coefficient count = ((coefficient * 10 ^ count : Nat) : ℚ) := by
  rw [magnitude, zpow_natCast]
  push_cast
  rfl

theorem magnitude_mul_ten_pow (coefficient count : Nat) (exponent : Int) :
    magnitude coefficient exponent * 10 ^ count = magnitude coefficient (exponent + count) := by
  rw [magnitude, magnitude, zpow_add₀ (by norm_num), zpow_natCast, mul_assoc]

theorem magnitude_injective {coefficient other : Nat} {exponent : Int}
    (same : magnitude coefficient exponent = magnitude other exponent) : coefficient = other := by
  have nonzero : (10 : ℚ) ^ exponent ≠ 0 := zpow_ne_zero exponent (by norm_num)
  have cancelled := mul_right_cancel₀ nonzero same
  exact_mod_cast cancelled

theorem magnitude_eq_zero_iff {coefficient : Nat} {exponent : Int} :
    magnitude coefficient exponent = 0 ↔ coefficient = 0 := by
  have nonzero : (10 : ℚ) ^ exponent ≠ 0 := zpow_ne_zero exponent (by norm_num)
  rw [magnitude, mul_eq_zero_iff_right nonzero, Nat.cast_eq_zero]

/-- The number that a decimal is, unless it is infinite or no number. -/
def number? : Decimal → Option ℚ
  | finite negative coefficient exponent =>
      some (if negative then -magnitude coefficient exponent else magnitude coefficient exponent)
  | infinite _ | nan _ _ _ => none

end Decimal

/-!
## Numerals
-/

/-- A number with a point before so many of its digits. -/
def pointed (value places : Nat) : Numeral where
  whole := (padded (places + 1) value).take ((padded (places + 1) value).length - places)
  fraction := (padded (places + 1) value).drop ((padded (places + 1) value).length - places)
  nonempty := by
    have wide := le_length_padded (places + 1) value
    apply List.ne_nil_of_length_pos
    rw [List.length_take]
    omega
  digits := by
    intro char member
    rw [List.take_append_drop] at member
    exact isDigit_of_mem_padded member

variable (value places : Nat)

theorem coefficient_pointed : (pointed value places).coefficient = value := by
  rw [Numeral.coefficient, pointed, List.take_append_drop]
  exact ofDigitChars_padded _ _

theorem length_fraction_pointed : (pointed value places).fraction.length = places := by
  have wide := le_length_padded (places + 1) value
  rw [pointed, List.length_drop]
  omega

private theorem chars_pointed :
    (pointed value places).chars =
      let text := padded (places + 1) value
      let point := text.length - places
      if places = 0 then text else text.take point ++ '.' :: text.drop point := by
  have count := length_fraction_pointed value places
  by_cases whole : places = 0
  · subst whole
    have none : (pointed value 0).fraction = [] := List.eq_nil_of_length_eq_zero count
    rw [Numeral.chars, if_pos none, List.append_nil, pointed]
    exact List.take_length
  · have some : (pointed value places).fraction ≠ [] := by
      intro none
      rw [none] at count
      exact whole count.symm
    rw [Numeral.chars, if_neg some]
    simp only [whole, if_false]
    rfl

variable {value places}

theorem magnitude_units {limit : Nat} (few : places ≤ limit) :
    Decimal.magnitude value (-(places : Int)) * 10 ^ limit =
      ((value * 10 ^ (limit - places) : Nat) : ℚ) := by
  have level : -(places : Int) + limit = ((limit - places : Nat) : Int) := by omega
  rw [Decimal.magnitude_mul_ten_pow, level, Decimal.magnitude_natural]

/-- A whole count of units of a place is spelt with its last digit at that place. -/
theorem magnitude_of_units {coefficient units limit : Nat} {exponent : Int}
    (whole : Decimal.magnitude coefficient exponent * 10 ^ limit = units) :
    Decimal.magnitude coefficient exponent = Decimal.magnitude units (-(limit : Int)) := by
  have nonzero : (10 : ℚ) ^ limit ≠ 0 := by positivity
  apply mul_right_cancel₀ nonzero
  rw [whole, magnitude_units (Nat.le_refl limit), Nat.sub_self, Nat.pow_zero, Nat.mul_one]

/-- Where no zero ends the fraction, a number is a whole count of units of a place just if no digit
stands behind that place. -/
theorem places_le_iff (stripped : places ≠ 0 → value % 10 ≠ 0) (limit : Nat) :
    places ≤ limit ↔
      ∃ units : Nat, Decimal.magnitude value (-(places : Int)) * 10 ^ limit = units := by
  constructor
  · intro few
    exact ⟨_, magnitude_units few⟩
  · rintro ⟨units, counted⟩
    -- else the units would be followed by a zero that stands at the end
    by_contra many
    obtain ⟨behind, count⟩ := Nat.exists_eq_add_of_lt (Nat.lt_of_not_le many)
    have level : -(places : Int) + limit + (behind + 1 : Nat) = ((0 : Nat) : Int) := by omega
    have same : Decimal.magnitude value (-(places : Int) + limit) =
        Decimal.magnitude (units * 10 ^ (behind + 1)) (-(places : Int) + limit) := by
      rw [← Decimal.magnitude_mul_ten_pow, counted, Decimal.magnitude_mul_pow, level,
        Decimal.magnitude_natural]
      simp
    have multiple := Decimal.magnitude_injective same
    apply stripped (by omega)
    rw [multiple, pow_succ, ← Nat.mul_assoc, Nat.mul_mod_left]

/-- No more places are written than the number was given with. -/
theorem places_le_of_magnitude_eq {coefficient limit : Nat} {exponent : Int}
    (stripped : places ≠ 0 → value % 10 ≠ 0)
    (same : Decimal.magnitude value (-(places : Int)) = Decimal.magnitude coefficient exponent)
    (given : -(limit : Int) ≤ exponent) : places ≤ limit := by
  obtain ⟨shift, level⟩ := Int.eq_ofNat_of_zero_le (by omega : 0 ≤ exponent + limit)
  rw [places_le_iff stripped, same, Decimal.magnitude_mul_ten_pow, level]
  exact ⟨_, Decimal.magnitude_natural coefficient shift⟩

namespace Decimal

/-- Fixed notation shows the number, and no zero at the end of a fraction. -/
theorem printPlain_eq (negative : Bool) (coefficient : Nat) (exponent : Int) :
    ∃ value places : Nat,
      printPlain negative coefficient exponent =
          String.ofList (withSign negative (pointed value places).chars) ∧
        magnitude value (-(places : Int)) = magnitude coefficient exponent ∧
        (places ≠ 0 → value % 10 ≠ 0) := by
  by_cases zero : coefficient = 0
  · subst zero
    refine ⟨0, 0, ?_, by simp [magnitude], by simp⟩
    rw [chars_pointed]
    rfl
  by_cases whole : 0 ≤ exponent
  · obtain ⟨count, rfl⟩ := Int.eq_ofNat_of_zero_le whole
    refine ⟨coefficient * 10 ^ count, 0, ?_, ?_, by simp⟩
    · have shown : padded 1 (coefficient * 10 ^ count) = digits coefficient ++ zeros count := by
        have enough : 1 - digitCount (coefficient * 10 ^ count) = 0 :=
          Nat.sub_eq_zero_of_le (digitCount_pos _)
        rw [padded, enough, digits_mul_pow zero]
        rfl
      rw [chars_pointed]
      simp [printPlain, zero, shown]
    · rw [magnitude_mul_pow]
      simp
  · obtain ⟨count, rfl⟩ : ∃ count : Nat, exponent = -(count : Int) :=
      ⟨(-exponent).toNat, by omega⟩
    obtain ⟨same, few, stripped⟩ := stripZeros_spec count coefficient
    refine ⟨(stripZeros count coefficient).1, count - (stripZeros count coefficient).2, ?_, ?_, ?_⟩
    · have below : ¬ -(count : Int) ≥ 0 := by omega
      have tens : (- -(count : Int)).toNat = count := by omega
      rw [chars_pointed]
      simp only [printPlain, zero, below, tens, if_false]
      rfl
    · rw [← same, magnitude_mul_pow, same]
      congr 1
      omega
    · intro some
      exact stripped (by omega)

end Decimal

/-!
## Ends of texts
-/

namespace Numeral

variable (numeral : Numeral)

private theorem fraction_ne_nil_of_point (point : '.' ∈ numeral.chars) : numeral.fraction ≠ [] := by
  intro integral
  rw [chars, if_pos integral, List.append_nil] at point
  cases numeral.digits '.' (List.mem_append_left _ point)

private theorem getLast?_chars (fractional : numeral.fraction ≠ []) :
    numeral.chars.getLast? = numeral.fraction.getLast? := by
  rw [chars, if_neg fractional, List.getLast?_append_cons, List.getLast?_cons_of_ne_nil fractional]

private theorem coefficient_of_last_zero (ended : numeral.fraction.getLast? = some '0') :
    numeral.coefficient % 10 = 0 := by
  obtain ⟨front, split⟩ := List.getLast?_eq_some_iff.mp ended
  have multiple : numeral.coefficient = 10 * Nat.ofDigitChars 10 (numeral.whole ++ front) 0 := by
    rw [coefficient, split, ← List.append_assoc, Nat.ofDigitChars_append, Nat.ofDigitChars_cons]
    simp
  rw [multiple, Nat.mul_mod_right]

end Numeral

/-- A numeral without a zero behind its fraction does not end in a zero or a point, if it has a
point. -/
theorem getLast?_pointed {value places : Nat} (stripped : places ≠ 0 → value % 10 ≠ 0)
    (point : '.' ∈ (pointed value places).chars) :
    (pointed value places).chars.getLast? ≠ some '0' ∧
      (pointed value places).chars.getLast? ≠ some '.' := by
  have fractional := (pointed value places).fraction_ne_nil_of_point point
  rw [(pointed value places).getLast?_chars fractional]
  constructor
  · intro zero
    have last := (pointed value places).coefficient_of_last_zero zero
    rw [coefficient_pointed] at last
    refine stripped ?_ last
    rintro rfl
    exact fractional (List.eq_nil_of_length_eq_zero (length_fraction_pointed value 0))
  · intro ended
    have member := List.mem_append_right (pointed value places).whole (List.mem_of_getLast? ended)
    cases (pointed value places).digits '.' member

/-- A text in fixed notation: no exponent, and no zero or point at the end of a fraction. -/
structure FixedNotation (text : String) : Prop where
  drawn : ∀ char ∈ text.toList, char.isDigit = true ∨ char = '.' ∨ char = '-'
  ended : '.' ∈ text.toList →
    text.toList.getLast? ≠ some '0' ∧ text.toList.getLast? ≠ some '.'

theorem Decimal.fixedNotation_printPlain (negative : Bool) (coefficient : Nat) (exponent : Int) :
    FixedNotation (printPlain negative coefficient exponent) := by
  obtain ⟨value, count, shown, _, stripped⟩ := printPlain_eq negative coefficient exponent
  have drawn : ∀ char ∈ (pointed value count).chars,
      char.isDigit = true ∨ char = '.' ∨ char = '-' := by
    intro char member
    rcases (pointed value count).isDigit_or_point char member with digit | point
    · exact .inl digit
    · exact .inr (.inl point)
  have ended := getLast?_pointed stripped
  rw [shown]
  cases negative with
  | false =>
      have plain : (String.ofList (withSign false (pointed value count).chars)).toList =
          (pointed value count).chars := String.toList_ofList
      constructor
      · rw [plain]
        exact drawn
      · rw [plain]
        exact ended
  | true =>
      have signed : (String.ofList (withSign true (pointed value count).chars)).toList =
          '-' :: (pointed value count).chars := String.toList_ofList
      constructor
      · rw [signed]
        intro char member
        rcases List.mem_cons.mp member with sign | behind
        · exact .inr (.inr sign)
        · exact drawn char behind
      · rw [signed]
        intro point
        have behind := List.mem_of_ne_of_mem (by decide) point
        rw [List.getLast?_cons_of_ne_nil (List.ne_nil_of_mem behind)]
        exact ended behind

end Rollout.Number
