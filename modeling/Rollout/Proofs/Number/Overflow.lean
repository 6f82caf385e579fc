import Rollout.Proofs.Number.Spelling

/-!
# Overflow of decimals

Which numbers are too large to be rounded to 28 digits: those from half a unit of the last digit
below `10 ^ 1000000` on, since these are rounded up to it.
-/

set_option autoImplicit false

namespace Rollout.Number

/-- A quotient rounded to nearest reaches an even number if it is at most a half short of it. -/
theorem le_divideNearest_iff {numerator denominator bound : Nat} (positive : 0 < denominator)
    (even : bound % 2 = 0) (nonzero : 0 < bound) :
    bound ≤ divideNearest numerator denominator ↔
      (2 * bound - 1) * denominator ≤ 2 * numerator := by
  obtain ⟨below, rfl⟩ : ∃ below, bound = below + 1 := ⟨bound - 1, by omega⟩
  have odd : 2 * (below + 1) - 1 = 2 * below + 1 := by omega
  rw [odd, Nat.add_one_le_iff, lt_divideNearest positive]
  omega

namespace Decimal

/-- The tens behind the digits of the limit. -/
def overflowTens : Nat := 999971

/-- The smallest number that is rounded up to `10 ^ 1000000`. -/
def overflowLimit : Nat := 99999999999999999999999999995 * 10 ^ overflowTens

private theorem two_mul_overflowLimit :
    2 * overflowLimit = (2 * 10 ^ 28 - 1) * 10 ^ (overflowTens + 1) := by
  rw [overflowLimit, pow_succ]
  omega

theorem overflowLimit_le : overflowLimit ≤ 10 ^ (29 + overflowTens) := by
  rw [overflowLimit, pow_add]
  omega

theorem le_overflowLimit : 10 ^ (28 + overflowTens) ≤ overflowLimit := by
  rw [overflowLimit, pow_add]
  omega

private theorem carry_full (unit : Int) : carry (10 ^ precision) unit = (10 ^ 27, unit + 1) := rfl

variable {coefficient : Nat} {exponent : Int}

/-- The digits of a number tell the power of ten above it. -/
theorem magnitude_lt (coefficient : Nat) (exponent : Int) :
    magnitude coefficient exponent < 10 ^ ((digitCount coefficient : Int) + exponent) := by
  have few : (coefficient : ℚ) < 10 ^ digitCount coefficient := by
    exact_mod_cast lt_pow_digitCount coefficient
  rw [magnitude, zpow_add₀ (by norm_num), zpow_natCast]
  exact mul_lt_mul_of_pos_right few (zpow_pos (by norm_num) exponent)

theorem le_magnitude (nonzero : coefficient ≠ 0) (exponent : Int) :
    10 ^ ((digitCount coefficient : Int) + exponent - 1) ≤ magnitude coefficient exponent := by
  have many : (10 : ℚ) ^ (digitCount coefficient - 1) ≤ coefficient := by
    exact_mod_cast pow_pred_digitCount_le nonzero
  have level : (digitCount coefficient : Int) + exponent - 1 =
      ((digitCount coefficient - 1 : Nat) : Int) + exponent := by
    have positive := digitCount_pos coefficient
    omega
  rw [magnitude, level, zpow_add₀ (by norm_num), zpow_natCast]
  exact mul_le_mul_of_nonneg_right many (zpow_pos (by norm_num) exponent).le

/-- A number overflows if its digits reach too far, or if they reach just as far as they may and are
nines that are carried when they are rounded. -/
theorem fit?_eq_none_iff_digits (nonzero : coefficient ≠ 0) :
    fit? coefficient exponent = none ↔
      maxExponent + 1 < digitCount coefficient + exponent ∨
        digitCount coefficient + exponent = maxExponent + 1 ∧ precision < digitCount coefficient ∧
          10 ^ precision ≤
            divideNearest coefficient (10 ^ (digitCount coefficient - precision)) := by
  unfold fit?
  rw [if_neg nonzero]
  dsimp only
  split
  · next far => exact iff_of_true rfl (.inl (by omega))
  next near =>
  split
  · next short => exact iff_of_false (by simp) (by omega)
  next long =>
  by_cases full : digitCount coefficient + exponent = maxExponent + 1
  · -- the first digits are rounded, and may be carried beyond the last exponent
    have unit : max ((digitCount coefficient : Int) + exponent - precision) tinyExponent =
        maxExponent + 1 - precision := by
      rw [full]
      rfl
    rw [unit] at long
    have dropped : (maxExponent + 1 - precision - exponent).toNat =
        digitCount coefficient - precision := by omega
    have many : precision < digitCount coefficient := by omega
    have kept : ¬ digitCount coefficient - precision > digitCount coefficient := by omega
    obtain ⟨low, high⟩ := firstDigits_bounds many
    rw [unit, dropped, roundAt, if_neg kept]
    change (if (digitCount (carry (divideNearest coefficient
      (10 ^ (digitCount coefficient - precision))) _).1 : Int) + _ - 1 > _ then _ else _) = _ ↔ _
    generalize divideNearest coefficient (10 ^ (digitCount coefficient - precision)) = rounded at *
    by_cases nines : rounded = 10 ^ precision
    · have count : digitCount (10 ^ 27) = 28 := by decide
      rw [nines, carry_full, count, if_pos (by unfold maxExponent precision; omega)]
      exact iff_of_true rfl (.inr ⟨full, many, Nat.le_refl _⟩)
    · have below : rounded < 10 ^ precision := Nat.lt_of_le_of_ne high nines
      have count : digitCount rounded ≤ precision := (digitCount_le_iff (by decide)).mpr below
      rw [carry_of_short _ count]
      dsimp only
      rw [if_neg (by omega)]
      exact iff_of_false (by simp) (by omega)
  · -- there is room for a carried digit
    generalize below : max ((digitCount coefficient : Int) + exponent - precision) tinyExponent =
      unit at long ⊢
    have fits : roundAt coefficient (unit - exponent).toNat ≤ 10 ^ precision :=
      roundAt_le_pow (by omega)
    have count : digitCount (carry (roundAt coefficient (unit - exponent).toNat) unit).1 ≤ precision :=
      digitCount_carry fits
    obtain ⟨_, _, next⟩ := carry_bounds (roundAt coefficient (unit - exponent).toNat) unit
    rw [if_neg]
    · exact iff_of_false (by simp) (by omega)
    · unfold maxExponent tinyExponent precision at *
      omega

/-- Digits that reach as far as they may and are not rounded stay below the limit. -/
theorem magnitude_lt_overflowLimit (short : digitCount coefficient ≤ precision)
    (full : digitCount coefficient + exponent = maxExponent + 1) :
    magnitude coefficient exponent < overflowLimit := by
  have most := lt_pow_digitCount coefficient
  obtain ⟨more, count⟩ := Nat.exists_eq_add_of_le short
  have level : exponent = ((more + (overflowTens + 1) : Nat) : Int) := by
    unfold precision maxExponent overflowTens at *
    omega
  have few : coefficient * 10 ^ more < 10 ^ precision := by
    rw [count, pow_add]
    exact Nat.mul_lt_mul_of_pos_right most (Nat.pow_pos (by decide))
  have tens : coefficient * 10 ^ (more + (overflowTens + 1)) =
      coefficient * 10 ^ more * 10 ^ overflowTens * 10 := by
    rw [pow_add, pow_succ]
    ring
  have within : coefficient * 10 ^ (more + (overflowTens + 1)) < overflowLimit := by
    have nines : (coefficient * 10 ^ more + 1) * 10 ^ overflowTens ≤
        10 ^ precision * 10 ^ overflowTens := Nat.mul_le_mul_right _ few
    have positive : 0 < 10 ^ overflowTens := Nat.pow_pos (by decide)
    rw [tens, overflowLimit]
    unfold precision at nines
    generalize coefficient * 10 ^ more = value at nines ⊢
    generalize 10 ^ overflowTens = power at nines positive ⊢
    rw [Nat.add_mul] at nines
    omega
  rw [level, magnitude_natural]
  exact_mod_cast within

/-- Digits that reach as far as they may and are rounded are carried from the limit on. -/
theorem pow_le_divideNearest_iff (long : precision < digitCount coefficient)
    (full : digitCount coefficient + exponent = maxExponent + 1) :
    10 ^ precision ≤ divideNearest coefficient (10 ^ (digitCount coefficient - precision)) ↔
      (overflowLimit : ℚ) ≤ magnitude coefficient exponent := by
  have level : exponent + (digitCount coefficient - precision : Nat) =
      ((overflowTens + 1 : Nat) : Int) := by
    unfold precision maxExponent overflowTens at *
    omega
  have aligned : magnitude coefficient exponent * 10 ^ (digitCount coefficient - precision) =
      ((coefficient * 10 ^ (overflowTens + 1) : Nat) : ℚ) := by
    rw [magnitude_mul_ten_pow, level, magnitude_natural]
  have scale : (0 : ℚ) < 10 ^ (digitCount coefficient - precision) := by positivity
  have tens : 0 < 10 ^ (overflowTens + 1) := Nat.pow_pos (by decide)
  have whole : (overflowLimit : ℚ) * 10 ^ (digitCount coefficient - precision) ≤
        ((coefficient * 10 ^ (overflowTens + 1) : Nat) : ℚ) ↔
      overflowLimit * 10 ^ (digitCount coefficient - precision) ≤
        coefficient * 10 ^ (overflowTens + 1) := by
    exact_mod_cast Iff.rfl
  have doubled : (2 * 10 ^ precision - 1) * 10 ^ (digitCount coefficient - precision) *
        10 ^ (overflowTens + 1) =
      2 * (overflowLimit * 10 ^ (digitCount coefficient - precision)) := by
    rw [← Nat.mul_assoc, two_mul_overflowLimit, precision, Nat.mul_right_comm]
  rw [le_divideNearest_iff (Nat.pow_pos (by decide)) (by decide) (by decide),
    ← Nat.mul_le_mul_right_iff tens, doubled, Nat.mul_assoc 2 coefficient,
    ← mul_le_mul_iff_left₀ scale, aligned, whole]
  exact Nat.mul_le_mul_left_iff (by decide)

/-- A number overflows from the limit on, however it is spelt. -/
theorem fit?_eq_none_iff (coefficient : Nat) (exponent : Int) :
    fit? coefficient exponent = none ↔ (overflowLimit : ℚ) ≤ magnitude coefficient exponent := by
  have least : (10 : ℚ) ^ (28 + overflowTens) ≤ overflowLimit := by exact_mod_cast le_overflowLimit
  have most : (overflowLimit : ℚ) ≤ 10 ^ (29 + overflowTens) := by exact_mod_cast overflowLimit_le
  by_cases zero : coefficient = 0
  · have positive : (0 : ℚ) < overflowLimit := lt_of_lt_of_le (by positivity) least
    rw [magnitude_eq_zero_iff.mpr zero, zero, fit?, if_pos rfl]
    exact iff_of_false (by simp) (not_le.mpr positive)
  rw [fit?_eq_none_iff_digits zero]
  rcases lt_trichotomy ((digitCount coefficient : Int) + exponent) (maxExponent + 1) with
    small | middle | large
  · have below : magnitude coefficient exponent < overflowLimit := by
      calc magnitude coefficient exponent
          < 10 ^ ((digitCount coefficient : Int) + exponent) := magnitude_lt coefficient exponent
        _ ≤ 10 ^ ((28 + overflowTens : Nat) : Int) := by
            refine zpow_le_zpow_right₀ (by norm_num) ?_
            unfold maxExponent overflowTens at *
            omega
        _ = 10 ^ (28 + overflowTens) := zpow_natCast 10 _
        _ ≤ overflowLimit := least
    exact iff_of_false (by omega) (not_le.mpr below)
  · by_cases long : precision < digitCount coefficient
    · rw [← pow_le_divideNearest_iff long middle]
      simp [middle, long]
    · have below := magnitude_lt_overflowLimit (Nat.le_of_not_lt long) middle
      exact iff_of_false (by omega) (not_le.mpr below)
  · have above : (overflowLimit : ℚ) ≤ magnitude coefficient exponent := by
      calc (overflowLimit : ℚ) ≤ 10 ^ (29 + overflowTens) := most
        _ = 10 ^ ((29 + overflowTens : Nat) : Int) := (zpow_natCast 10 _).symm
        _ ≤ 10 ^ ((digitCount coefficient : Int) + exponent - 1) := by
            refine zpow_le_zpow_right₀ (by norm_num) ?_
            unfold maxExponent overflowTens at *
            omega
        _ ≤ magnitude coefficient exponent := le_magnitude zero exponent
    exact iff_of_true (.inl large) above

/-- A number from the limit on has digits far before the point. -/
theorem lt_digitCount_of_overflowLimit_le
    (large : (overflowLimit : ℚ) ≤ magnitude coefficient exponent) :
    ((28 + overflowTens : Nat) : Int) < digitCount coefficient + exponent := by
  have least : (10 : ℚ) ^ (28 + overflowTens) ≤ overflowLimit := by exact_mod_cast le_overflowLimit
  rw [← zpow_lt_zpow_iff_right₀ (by norm_num : (1 : ℚ) < 10), zpow_natCast]
  exact lt_of_le_of_lt (least.trans large) (magnitude_lt coefficient exponent)

/-- Only the digits behind the first ones are rounded away. -/
theorem le_unit_of_fit? {rounded : Nat} {unit : Int} (nonzero : coefficient ≠ 0)
    (fitted : fit? coefficient exponent = some (rounded, unit)) :
    (digitCount coefficient : Int) + exponent - precision ≤ unit := by
  unfold fit? at fitted
  rw [if_neg nonzero] at fitted
  dsimp only at fitted
  split at fitted
  · cases fitted
  split at fitted
  · cases fitted
    omega
  obtain ⟨_, least, _⟩ := carry_bounds
    (roundAt coefficient (max ((digitCount coefficient : Int) + exponent - precision)
      tinyExponent - exponent).toNat)
    (max ((digitCount coefficient : Int) + exponent - precision) tinyExponent)
  split at fitted
  · cases fitted
  · cases fitted
    omega

end Decimal

end Rollout.Number
