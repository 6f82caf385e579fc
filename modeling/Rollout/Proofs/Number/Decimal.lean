import Mathlib.Algebra.Ring.Nat
import Mathlib.Tactic.Ring
import Rollout.Number.Decimal.Context

/-!
# Rounded decimals

What decimal arithmetic of limited precision makes of a whole number: a short one is kept, a long
one is rounded to its first digits, and one that is too large for any exponent is refused.
-/

set_option autoImplicit false

namespace Rollout.Number

theorem digitCount_le_iff {value count : Nat} (positive : 0 < count) :
    digitCount value ≤ count ↔ value < 10 ^ count :=
  Nat.length_toDigits_le_iff (by decide) positive

theorem digitCount_pos (value : Nat) : 0 < digitCount value :=
  List.length_pos_iff.mpr Nat.toDigits_ne_nil

theorem lt_pow_digitCount (value : Nat) : value < 10 ^ digitCount value :=
  (digitCount_le_iff (digitCount_pos value)).mp (Nat.le_refl _)

theorem pow_le_of_lt_digitCount {value count : Nat} (nonzero : value ≠ 0)
    (few : count < digitCount value) : 10 ^ count ≤ value := by
  cases count with
  | zero => exact Nat.one_le_iff_ne_zero.mpr nonzero
  | succ count =>
      rw [← Nat.not_lt, ← digitCount_le_iff (Nat.succ_pos count)]
      exact Nat.not_le.mpr few

theorem pow_pred_digitCount_le {value : Nat} (nonzero : value ≠ 0) :
    10 ^ (digitCount value - 1) ≤ value :=
  pow_le_of_lt_digitCount nonzero (Nat.sub_lt (digitCount_pos value) Nat.one_pos)

/-- A quotient rounded to nearest is beyond a number if it is by more than a half, or by just a half
where the number is odd. -/
theorem lt_divideNearest {numerator denominator : Nat} (positive : 0 < denominator) (bound : Nat) :
    bound < divideNearest numerator denominator ↔
      (2 * bound + 1) * denominator < 2 * numerator ∨
        bound % 2 = 1 ∧ (2 * bound + 1) * denominator = 2 * numerator := by
  have whole := Nat.div_add_mod numerator denominator
  have small := Nat.mod_lt numerator positive
  have middle : (2 * bound + 1) * denominator = 2 * (denominator * bound) + denominator := by ring
  rw [middle]
  unfold divideNearest
  dsimp only
  generalize numerator / denominator = quotient at *
  generalize numerator % denominator = rest at *
  subst whole
  rcases Nat.lt_trichotomy quotient bound with below | rfl | above
  · have product : denominator * (quotient + 1) ≤ denominator * bound :=
      Nat.mul_le_mul_left denominator below
    rw [Nat.mul_add_one] at product
    constructor
    · intro beyond
      split at beyond <;> omega
    · omega
  · -- in the middle between two quotients the even one is taken
    simp only [gt_iff_lt, Bool.or_eq_true, decide_eq_true_eq, Bool.and_eq_true, beq_iff_eq]
    constructor
    · intro beyond
      split at beyond <;> omega
    · intro beyond
      split <;> omega
  · have product : denominator * (bound + 1) ≤ denominator * quotient :=
      Nat.mul_le_mul_left denominator above
    rw [Nat.mul_add_one] at product
    constructor
    · omega
    · intro
      split <;> omega

theorem lt_divideNearest_iff {numerator denominator bound : Nat} (positive : 0 < denominator)
    (even : bound % 2 = 0) :
    bound < divideNearest numerator denominator ↔
      (2 * bound + 1) * denominator < 2 * numerator := by
  rw [lt_divideNearest positive]
  omega

private theorem div_le_divideNearest (numerator denominator : Nat) :
    numerator / denominator ≤ divideNearest numerator denominator := by
  unfold divideNearest
  dsimp only
  split <;> omega

theorem divideNearest_le (numerator denominator : Nat) :
    divideNearest numerator denominator ≤ numerator / denominator + 1 := by
  unfold divideNearest
  dsimp only
  split <;> omega

namespace Decimal

/-- The number `coefficient * 10 ^ shift`, rounded to the first digits if it has too many. -/
def nearest (coefficient shift : Nat) : Nat :=
  if digitCount coefficient ≤ precision then coefficient * 10 ^ shift
  else
    divideNearest coefficient (10 ^ (digitCount coefficient - precision)) *
      10 ^ (digitCount coefficient - precision + shift)

theorem ne_zero_of_long {coefficient : Nat} (long : precision < digitCount coefficient) :
    coefficient ≠ 0 := by
  rintro rfl
  revert long
  decide

/-- The first digits of a long number, rounded, make a number of as many digits, or the power of
ten behind the largest. -/
theorem firstDigits_bounds {coefficient : Nat} (long : precision < digitCount coefficient) :
    10 ^ (precision - 1) ≤
        divideNearest coefficient (10 ^ (digitCount coefficient - precision)) ∧
      divideNearest coefficient (10 ^ (digitCount coefficient - precision)) ≤ 10 ^ precision := by
  obtain ⟨places, count⟩ := Nat.exists_eq_add_of_lt long
  have nonzero := ne_zero_of_long long
  have least : 10 ^ (precision - 1 + (places + 1)) ≤ coefficient := by
    refine pow_le_of_lt_digitCount nonzero ?_
    unfold precision at *
    omega
  have most : coefficient < 10 ^ (precision + places + 1) := by
    rw [← count]
    exact lt_pow_digitCount coefficient
  have dropped : digitCount coefficient - precision = places + 1 := by omega
  rw [dropped]
  constructor
  · refine Nat.le_trans ?_ (div_le_divideNearest coefficient (10 ^ (places + 1)))
    rw [Nat.le_div_iff_mul_le (Nat.pow_pos (by decide)), ← Nat.pow_add]
    exact least
  · refine Nat.le_trans (divideNearest_le coefficient (10 ^ (places + 1))) ?_
    rw [Nat.add_one_le_iff, Nat.div_lt_iff_lt_mul (Nat.pow_pos (by decide)), ← Nat.pow_add]
    exact most

private theorem carry_spec {coefficient : Nat} (unit : Nat) (fits : coefficient ≤ 10 ^ precision) :
    ∃ rounded place : Nat, carry coefficient unit = (rounded, (place : Int)) ∧
      rounded * 10 ^ place = coefficient * 10 ^ unit ∧ digitCount rounded ≤ precision ∧
      place ≤ unit + 1 := by
  unfold carry
  split
  · next long =>
      have full : coefficient = 10 ^ precision := by
        exact Nat.le_antisymm fits (pow_le_of_lt_digitCount (ne_zero_of_long long) long)
      refine ⟨10 ^ 27, unit + 1, ?_, ?_, ?_, Nat.le_refl _⟩
      · rw [full]
        rfl
      · rw [full, precision, ← Nat.pow_add, ← Nat.pow_add]
        congr 1
        omega
      · rw [digitCount_le_iff (by decide)]
        decide
  · next short => exact ⟨coefficient, unit, rfl, rfl, Nat.le_of_not_lt short, Nat.le_succ _⟩

private theorem fit?_of_short {coefficient shift : Nat} (nonzero : coefficient ≠ 0)
    (short : digitCount coefficient ≤ precision) :
    fit? coefficient (shift : Int) =
      if (digitCount coefficient : Int) + shift - 1 > maxExponent then none
      else some (coefficient, (shift : Int)) := by
  have exact : (shift : Int) ≥ max ((digitCount coefficient : Int) + shift - precision)
      tinyExponent := by
    unfold precision tinyExponent at *
    omega
  simp only [fit?, nonzero, exact, if_true, if_false]

private theorem fit?_of_long {coefficient shift : Nat} (long : precision < digitCount coefficient) :
    fit? coefficient (shift : Int) =
      if (digitCount coefficient : Int) + shift - 1 > maxExponent then none
      else
        let fitted :=
          carry (divideNearest coefficient (10 ^ (digitCount coefficient - precision)))
            ((digitCount coefficient - precision + shift : Nat) : Int)
        if (digitCount fitted.1 : Int) + fitted.2 - 1 > maxExponent then none
        else some fitted := by
  have nonzero := ne_zero_of_long long
  have unit : max ((digitCount coefficient : Int) + shift - precision) tinyExponent =
      ((digitCount coefficient - precision + shift : Nat) : Int) := by
    unfold tinyExponent
    omega
  have inexact : ¬ (shift : Int) ≥ ((digitCount coefficient - precision + shift : Nat) : Int) := by
    omega
  have places : (((digitCount coefficient - precision + shift : Nat) : Int) - shift).toNat =
      digitCount coefficient - precision := by
    omega
  have kept : ¬ digitCount coefficient - precision > digitCount coefficient := by omega
  simp only [fit?, nonzero, unit, inexact, places, roundAt, kept, if_false]
  rfl

private theorem fit?_cases (coefficient shift : Nat) :
    (fit? coefficient (shift : Int) = none ∧
        ∀ count : Nat, (count : Int) < maxExponent → 10 ^ count ≤ coefficient * 10 ^ shift) ∨
      ∃ rounded unit : Nat, fit? coefficient (shift : Int) = some (rounded, (unit : Int)) ∧
        rounded * 10 ^ unit = nearest coefficient shift := by
  by_cases zero : coefficient = 0
  · subst zero
    refine .inr ⟨0, (min (max (shift : Int) tinyExponent) maxExponent).toNat, ?_, ?_⟩
    · have natural : 0 ≤ min (max (shift : Int) tinyExponent) maxExponent := by
        unfold maxExponent
        omega
      rw [fit?, if_pos rfl, Int.toNat_of_nonneg natural]
    · rw [nearest, if_pos (by decide), Nat.zero_mul, Nat.zero_mul]
  -- a number that is refused has a digit before so many places
  have large : ∀ count : Nat, (count : Int) < (digitCount coefficient : Int) + shift →
      10 ^ count ≤ coefficient * 10 ^ shift := by
    intro count within
    have least := pow_pred_digitCount_le zero
    calc 10 ^ count ≤ 10 ^ (digitCount coefficient - 1 + shift) :=
          Nat.pow_le_pow_right (by decide) (by omega)
      _ = 10 ^ (digitCount coefficient - 1) * 10 ^ shift := Nat.pow_add ..
      _ ≤ coefficient * 10 ^ shift := Nat.mul_le_mul_right _ least
  by_cases short : digitCount coefficient ≤ precision
  · rw [fit?_of_short zero short, nearest, if_pos short]
    split
    · exact .inl ⟨rfl, fun count within => large count (by omega)⟩
    · exact .inr ⟨coefficient, shift, rfl, rfl⟩
  · have long := Nat.lt_of_not_le short
    obtain ⟨rounded, place, carried, same, fits, next⟩ :=
      carry_spec (digitCount coefficient - precision + shift) (firstDigits_bounds long).2
    rw [fit?_of_long long, carried, nearest, if_neg short]
    split
    · exact .inl ⟨rfl, fun count within => large count (by omega)⟩
    · dsimp only
      split
      · refine .inl ⟨rfl, fun count within => large count ?_⟩
        unfold precision at *
        omega
      · exact .inr ⟨rounded, place, rfl, same⟩

/-- Scaling a decimal to a whole number and comparing it judges the rounded number. -/
theorem scaledExceeds?_cases (coefficient : Nat) {shift places : Nat} {exponent : Int}
    (scaled : exponent + places = shift) (bound : Nat) :
    (scaledExceeds? coefficient exponent places bound = none ∧
        ∀ count : Nat, (count : Int) < maxExponent → 10 ^ count ≤ coefficient * 10 ^ shift) ∨
      scaledExceeds? coefficient exponent places bound =
        some (decide (bound < nearest coefficient shift)) := by
  unfold scaledExceeds?
  rw [scaled]
  obtain ⟨refused, large⟩ | ⟨rounded, unit, fitted, same⟩ := fit?_cases coefficient shift
  · refine .inl ⟨?_, large⟩
    rw [refused]
    rfl
  · refine .inr ?_
    rw [fitted, ← same]
    simp [exceeds]

theorem carry_of_short {rounded : Nat} (unit : Int) (short : digitCount rounded ≤ precision) :
    carry rounded unit = (rounded, unit) :=
  if_neg (Nat.not_lt.mpr short)

theorem carry_bounds (coefficient : Nat) (unit : Int) :
    (carry coefficient unit).1 ≤ coefficient ∧ unit ≤ (carry coefficient unit).2 ∧
      (carry coefficient unit).2 ≤ unit + 1 := by
  unfold carry
  split
  · exact ⟨Nat.div_le_self _ _, by omega, Int.le_refl _⟩
  · exact ⟨Nat.le_refl _, Int.le_refl _, by omega⟩

private theorem roundAt_le (coefficient places : Nat) :
    roundAt coefficient places ≤ coefficient + 1 := by
  unfold roundAt
  split
  · exact Nat.zero_le _
  · have nearest := divideNearest_le coefficient (Nat.pow 10 places)
    have quotient := Nat.div_le_self coefficient (Nat.pow 10 places)
    omega

private theorem le_of_fit? {coefficient rounded : Nat} {exponent unit : Int}
    (fitted : fit? coefficient exponent = some (rounded, unit)) :
    rounded = 0 ∨ exponent ≤ unit := by
  unfold fit? at fitted
  split at fitted
  · cases fitted
    exact .inl rfl
  · dsimp only at fitted
    split at fitted
    · cases fitted
    · split at fitted
      · cases fitted
        exact .inr (Int.le_refl _)
      · next inexact =>
          obtain ⟨_, least, _⟩ := carry_bounds
            (roundAt coefficient (max ((digitCount coefficient : Int) + exponent - precision)
              tinyExponent - exponent).toNat)
            (max ((digitCount coefficient : Int) + exponent - precision) tinyExponent)
          split at fitted
          · cases fitted
          · cases fitted
            exact .inr (by omega)

theorem le_of_normalExponent? {coefficient : Nat} {exponent last : Int} (fractional : exponent ≤ 0)
    (normal : normalExponent? coefficient exponent = some last) : exponent ≤ last := by
  obtain ⟨⟨rounded, unit⟩, fitted, shown⟩ := Option.map_eq_some_iff.mp normal
  dsimp only at shown
  split at shown
  · omega
  · next nonzero =>
      rcases le_of_fit? fitted with zero | least
      · exact absurd zero nonzero
      · omega

/-- Numbers of few digits are far from overflow. -/
theorem fit?_isSome {coefficient : Nat} {exponent : Int} (few : coefficient < 10 ^ 40)
    (fractional : exponent ≤ 0) : (fit? coefficient exponent).isSome = true := by
  have count : digitCount coefficient ≤ 40 := (digitCount_le_iff (by decide)).mpr few
  unfold fit?
  split
  · rfl
  · dsimp only
    rw [if_neg (by unfold maxExponent; omega)]
    split
    · rfl
    · generalize places : (max ((digitCount coefficient : Int) + exponent - precision)
        tinyExponent - exponent).toNat = dropped
      obtain ⟨smaller, _, next⟩ := carry_bounds (roundAt coefficient dropped)
        (max ((digitCount coefficient : Int) + exponent - precision) tinyExponent)
      have rounded := roundAt_le coefficient dropped
      have digits : digitCount (carry (roundAt coefficient dropped)
          (max ((digitCount coefficient : Int) + exponent - precision) tinyExponent)).1 ≤ 41 :=
        (digitCount_le_iff (by decide)).mpr (by omega)
      rw [if_neg]
      · rfl
      · unfold maxExponent tinyExponent precision at *
        omega

end Decimal

end Rollout.Number
