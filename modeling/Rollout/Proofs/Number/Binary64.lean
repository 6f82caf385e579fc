import Rollout.Proofs.Number.Decimal
import Rollout.Number.Binary64
import Rollout.Number.Numeral

/-!
# Sizes of floating-point numbers

The whole part of a number of the format is far shorter than numerals may be. The bounds are
coarse on purpose, since no more than that is needed of them.
-/

set_option autoImplicit false

namespace Rollout.Number.Binary64

private theorem truncate?_finite_le {negative : Bool} {significand : Nat} {exponent whole : Int}
    (taken : (finite negative significand exponent).truncate? = some whole) :
    whole.natAbs ≤ significand * 2 ^ exponent.toNat := by
  simp only [truncate?, Option.some.injEq] at taken
  have magnitude : whole.natAbs =
      (ratio significand exponent).1 / (ratio significand exponent).2 := by
    subst taken
    cases negative with
    | false => rfl
    | true => exact Int.natAbs_neg _
  rw [magnitude]
  unfold ratio
  split
  · simp
  · next fractional =>
      have places : exponent.toNat = 0 := by omega
      rw [places, Nat.pow_zero, Nat.mul_one]
      exact Nat.div_le_self _ _

private theorem scaledQuotient_le {numerator denominator bound : Nat} (exponent : Int)
    (within : numerator ≤ bound * denominator) :
    scaledQuotient numerator denominator exponent * 2 ^ exponent.toNat ≤
      bound * 2 ^ (-exponent).toNat + 2 ^ exponent.toNat := by
  unfold scaledQuotient
  split
  · next whole =>
      have places : (-exponent).toNat = 0 := by omega
      have nearest := divideNearest_le numerator (denominator * 2 ^ exponent.toNat)
      have quotient :
          numerator / (denominator * 2 ^ exponent.toNat) * 2 ^ exponent.toNat ≤ bound := by
        rw [← Nat.div_div_eq_div_mul]
        refine Nat.le_trans (Nat.div_mul_le_self _ _) ?_
        exact Nat.div_le_of_le_mul (Nat.mul_comm bound denominator ▸ within)
      rw [places, Nat.pow_zero, Nat.mul_one]
      calc divideNearest numerator (denominator * 2 ^ exponent.toNat) * 2 ^ exponent.toNat
          ≤ (numerator / (denominator * 2 ^ exponent.toNat) + 1) * 2 ^ exponent.toNat :=
            Nat.mul_le_mul_right _ nearest
        _ = numerator / (denominator * 2 ^ exponent.toNat) * 2 ^ exponent.toNat +
              2 ^ exponent.toNat := Nat.succ_mul _ _
        _ ≤ bound + 2 ^ exponent.toNat := Nat.add_le_add_right quotient _
  · next fractional =>
      have places : exponent.toNat = 0 := by omega
      have nearest := divideNearest_le (numerator * 2 ^ (-exponent).toNat) denominator
      have quotient : numerator * 2 ^ (-exponent).toNat / denominator ≤
          bound * 2 ^ (-exponent).toNat := by
        apply Nat.div_le_of_le_mul
        calc numerator * 2 ^ (-exponent).toNat
            ≤ bound * denominator * 2 ^ (-exponent).toNat := Nat.mul_le_mul_right _ within
          _ = denominator * (bound * 2 ^ (-exponent).toNat) := by ring
      rw [places, Nat.pow_zero, Nat.mul_one]
      exact Nat.le_trans nearest (Nat.add_le_add_right quotient 1)

private theorem ten_pow_le {count most : Nat} (few : count ≤ most) : 10 ^ count ≤ 10 ^ most :=
  Nat.pow_le_pow_right (by decide) few

private theorem ten_pow_lt {count most : Nat} (few : count < most) : 10 ^ count < 10 ^ most :=
  Nat.pow_lt_pow_right (by decide) few

private theorem two_pow_le {count most : Nat} (few : count ≤ most) : 2 ^ count ≤ 10 ^ most :=
  Nat.le_trans (Nat.pow_le_pow_left (by decide) count) (ten_pow_le few)

private theorem sum_lt_pow {first second count : Nat} (smaller : second ≤ first)
    (room : first < count) : 10 ^ first + 10 ^ second < 10 ^ count := by
  have power : 0 < 10 ^ first := Nat.pow_pos (by decide)
  have least : 10 ^ second ≤ 10 ^ first := ten_pow_le smaller
  calc 10 ^ first + 10 ^ second < 10 ^ first * 10 := by omega
    _ = 10 ^ (first + 1) := (Nat.pow_succ ..).symm
    _ ≤ 10 ^ count := ten_pow_le room

/-- A rounded ratio that is not too large is far from the longest integers. -/
theorem truncate?_ofRatio_lt {negative : Bool} {numerator denominator : Nat} {whole : Int}
    (within : numerator ≤ 10 ^ 310 * denominator)
    (taken : (ofRatio negative numerator denominator).truncate? = some whole) :
    whole.natAbs < 10 ^ digitLimit := by
  unfold ofRatio at taken
  split at taken
  · have nothing := truncate?_finite_le taken
    rw [Nat.zero_mul] at nothing
    exact Nat.lt_of_le_of_lt nothing (Nat.pow_pos (by decide))
  · dsimp only at taken
    generalize chosen : max _ minExponent = exponent at taken
    have least : minExponent ≤ exponent := by omega
    unfold minExponent at least
    by_cases carried : scaledQuotient numerator denominator exponent = significandBound
    · rw [if_pos carried] at taken
      dsimp only at taken
      split at taken
      · cases taken
      · next small =>
          unfold maxExponent at small
          have tens : 2 ^ (exponent + 1).toNat ≤ 10 ^ 971 := two_pow_le (by omega)
          have digits : significandBound / 2 ≤ 10 ^ 53 := by decide
          calc whole.natAbs ≤ significandBound / 2 * 2 ^ (exponent + 1).toNat :=
                truncate?_finite_le taken
            _ ≤ 10 ^ 53 * 2 ^ (exponent + 1).toNat := Nat.mul_le_mul_right _ digits
            _ ≤ 10 ^ 53 * 10 ^ 971 := Nat.mul_le_mul_left _ tens
            _ = 10 ^ (53 + 971) := by rw [Nat.pow_add]
            _ < 10 ^ digitLimit := ten_pow_lt (by decide)
    · rw [if_neg carried] at taken
      dsimp only at taken
      split at taken
      · cases taken
      · next small =>
          unfold maxExponent at small
          have places : 2 ^ (-exponent).toNat ≤ 10 ^ 1074 := two_pow_le (by omega)
          have tens : 2 ^ exponent.toNat ≤ 10 ^ 971 := two_pow_le (by omega)
          calc whole.natAbs ≤ scaledQuotient numerator denominator exponent * 2 ^ exponent.toNat :=
                truncate?_finite_le taken
            _ ≤ 10 ^ 310 * 2 ^ (-exponent).toNat + 2 ^ exponent.toNat :=
                scaledQuotient_le exponent within
            _ ≤ 10 ^ 310 * 10 ^ 1074 + 10 ^ 971 :=
                Nat.add_le_add (Nat.mul_le_mul_left _ places) tens
            _ = 10 ^ (310 + 1074) + 10 ^ 971 := by rw [Nat.pow_add]
            _ < 10 ^ digitLimit := sum_lt_pow (by decide) (by decide)

theorem truncate?_ofScaled_lt {negative : Bool} {coefficient : Nat} {exponent whole : Int}
    (taken : (ofScaled negative coefficient exponent).truncate? = some whole) :
    whole.natAbs < 10 ^ digitLimit := by
  have most := lt_pow_digitCount coefficient
  unfold ofScaled at taken
  dsimp only at taken
  split at taken
  · have nothing := truncate?_finite_le taken
    rw [Nat.zero_mul] at nothing
    exact Nat.lt_of_le_of_lt nothing (Nat.pow_pos (by decide))
  · split at taken
    · cases taken
    · next moderate =>
        split at taken
        · apply truncate?_ofRatio_lt (Nat.le_of_lt _) taken
          calc coefficient * 10 ^ exponent.toNat
              < 10 ^ digitCount coefficient * 10 ^ exponent.toNat :=
                Nat.mul_lt_mul_of_pos_right most (Nat.pow_pos (by decide))
            _ = 10 ^ (digitCount coefficient + exponent.toNat) := (Nat.pow_add ..).symm
            _ ≤ 10 ^ 310 := ten_pow_le (by omega)
            _ = 10 ^ 310 * 1 := by rw [Nat.mul_one]
        · apply truncate?_ofRatio_lt (Nat.le_of_lt _) taken
          calc coefficient < 10 ^ digitCount coefficient := most
            _ ≤ 10 ^ (310 + (-exponent).toNat) := ten_pow_le (by omega)
            _ = 10 ^ 310 * 10 ^ (-exponent).toNat := pow_add 10 310 _

end Rollout.Number.Binary64
