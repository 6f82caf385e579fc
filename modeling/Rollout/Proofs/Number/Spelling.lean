import Rollout.Proofs.Number.Plain

/-!
# Spellings of decimals

A number may be spelt with more zeros behind its digits and a smaller exponent. Rounding, counting
places and comparing see the number, and not how it is spelt; and there is one numeral for it without
zeros at the end of the fraction.
-/

set_option autoImplicit false

namespace Rollout.Number

private theorem divideNearest_one (value : Nat) : divideNearest value 1 = value := by
  simp [divideNearest, Nat.mod_one]

namespace Decimal

variable {coefficient other rounded : Nat} {exponent level unit : Int}

/-!
## Rounding
-/

private theorem roundAt_zeros (nonzero : coefficient ≠ 0) (kept dropped : Nat) :
    roundAt (coefficient * 10 ^ (kept + dropped)) dropped = coefficient * 10 ^ kept := by
  have few : ¬ dropped > digitCount (coefficient * 10 ^ (kept + dropped)) := by
    rw [digitCount_mul_pow nonzero]
    omega
  have exact : divideNearest (coefficient * 10 ^ kept * 10 ^ dropped) (1 * 10 ^ dropped) =
      divideNearest (coefficient * 10 ^ kept) 1 :=
    divideNearest_mul (Nat.pow_pos (by decide)) _ _
  rw [Nat.one_mul, divideNearest_one] at exact
  rw [roundAt, if_neg few, pow_add, ← Nat.mul_assoc]
  exact exact

theorem roundAt_le_pow {limit dropped : Nat} (fits : digitCount coefficient ≤ limit + dropped) :
    roundAt coefficient dropped ≤ 10 ^ limit := by
  unfold roundAt
  split
  · exact Nat.zero_le _
  · have most : coefficient < 10 ^ limit * 10 ^ dropped := by
      calc coefficient < 10 ^ digitCount coefficient := lt_pow_digitCount coefficient
        _ ≤ 10 ^ (limit + dropped) := Nat.pow_le_pow_right (by decide) fits
        _ = 10 ^ limit * 10 ^ dropped := pow_add 10 limit dropped
    have quotient : coefficient / 10 ^ dropped < 10 ^ limit :=
      (Nat.div_lt_iff_lt_mul (Nat.pow_pos (by decide))).mpr most
    calc divideNearest coefficient (10 ^ dropped) ≤ coefficient / 10 ^ dropped + 1 :=
          divideNearest_le _ _
      _ ≤ 10 ^ limit := quotient

theorem digitCount_carry (fits : coefficient ≤ 10 ^ precision) :
    digitCount (carry coefficient unit).1 ≤ precision := by
  unfold carry
  split
  · next long =>
      have full : coefficient = 10 ^ precision :=
        Nat.le_antisymm fits (pow_le_of_lt_digitCount (ne_zero_of_long long) long)
      have tenth : digitCount (10 ^ precision / 10) ≤ precision := by decide
      rw [full]
      exact tenth
  · next short => exact Nat.le_of_not_lt short

private theorem digitCount_of_fit? (fitted : fit? coefficient exponent = some (rounded, unit)) :
    digitCount rounded ≤ precision := by
  unfold fit? at fitted
  split at fitted
  · cases fitted
    decide
  · dsimp only at fitted
    split at fitted
    · cases fitted
    · split at fitted
      · cases fitted
        omega
      · next inexact =>
          split at fitted
          · cases fitted
          · cases fitted
            apply digitCount_carry
            apply roundAt_le_pow
            omega

/-- The leading digit of a number that is rounded has an exponent. -/
theorem leading_of_fit? (nonzero : coefficient ≠ 0) (fitted : (fit? coefficient exponent).isSome) :
    (digitCount coefficient : Int) + exponent - 1 ≤ maxExponent := by
  unfold fit? at fitted
  rw [if_neg nonzero] at fitted
  dsimp only at fitted
  split at fitted
  · cases fitted
  · next small => exact Int.le_of_not_gt small

/-- The number that rounding makes of a number, or nothing on overflow. -/
def rounded? (coefficient : Nat) (exponent : Int) : Option ℚ :=
  (fit? coefficient exponent).map fun fitted => magnitude fitted.1 fitted.2

private theorem rounded?_zero (exponent : Int) : rounded? 0 exponent = some 0 := by
  rw [rounded?, fit?, if_pos rfl, Option.map_some, magnitude]
  simp

/-- A number of few digits is kept, unless it is tiny. -/
theorem eq_magnitude_of_short {number : ℚ} (short : digitCount coefficient ≤ precision)
    (least : tinyExponent ≤ exponent) (fitted : rounded? coefficient exponent = some number) :
    number = magnitude coefficient exponent := by
  by_cases zero : coefficient = 0
  · rw [zero, rounded?_zero] at fitted
    cases fitted
    rw [eq_comm, magnitude_eq_zero_iff]
    exact zero
  · have exact : exponent ≥ max ((digitCount coefficient : Int) + exponent - precision)
        tinyExponent := by omega
    rw [rounded?, fit?, if_neg zero, if_pos exact] at fitted
    dsimp only at fitted
    split at fitted
    · cases fitted
    · cases fitted
      rfl

private theorem rounded?_mul_pow (nonzero : coefficient ≠ 0) (count : Nat) (exponent : Int) :
    rounded? (coefficient * 10 ^ count) (exponent - count) = rounded? coefficient exponent := by
  have longer : coefficient * 10 ^ count ≠ 0 := by positivity
  have leading : ((digitCount coefficient + count : Nat) : Int) + (exponent - count) =
      digitCount coefficient + exponent := by
    push_cast
    ring
  unfold rounded? fit?
  rw [if_neg nonzero, if_neg longer, digitCount_mul_pow nonzero]
  simp only [leading]
  generalize below : max ((digitCount coefficient : Int) + exponent - precision) tinyExponent = unit
  split
  · rfl
  by_cases exact : exponent ≥ unit
  · rw [if_pos exact]
    by_cases plain : exponent - count ≥ unit
    · rw [if_pos plain, Option.map_some, Option.map_some, magnitude_mul_pow, Int.sub_add_cancel]
    · -- only zeros are rounded away
      obtain ⟨dropped, drop⟩ := Int.eq_ofNat_of_zero_le (by omega : 0 ≤ unit - (exponent - count))
      obtain ⟨kept, split⟩ := Nat.exists_eq_add_of_le' (by omega : dropped ≤ count)
      have digits : digitCount (coefficient * 10 ^ kept) = digitCount coefficient + kept :=
        digitCount_mul_pow nonzero kept
      rw [if_neg plain, drop, Int.toNat_natCast, split, roundAt_zeros nonzero,
        carry_of_short _ (by omega)]
      dsimp only
      rw [if_neg (by omega), Option.map_some, Option.map_some, magnitude_mul_pow]
      congr 2
      omega
  · have dropped : (unit - (exponent - count)).toNat = (unit - exponent).toNat + count := by omega
    rw [if_neg exact, if_neg (by omega), dropped, roundAt_mul_pow nonzero]

/-- Of two spellings of a number, the one with the smaller exponent has more zeros. -/
theorem eq_mul_pow_of_magnitude_eq (below : level ≤ exponent)
    (same : magnitude coefficient exponent = magnitude other level) :
    ∃ count : Nat, other = coefficient * 10 ^ count ∧ level = exponent - count := by
  obtain ⟨count, distance⟩ := Int.eq_ofNat_of_zero_le (Int.sub_nonneg_of_le below)
  refine ⟨count, ?_, by omega⟩
  have shifted : exponent = level + count := by omega
  rw [shifted, ← magnitude_mul_pow] at same
  exact (magnitude_injective same).symm

private theorem rounded?_congr (same : magnitude coefficient exponent = magnitude other level) :
    rounded? coefficient exponent = rounded? other level := by
  wlog below : level ≤ exponent generalizing coefficient exponent other level
  · exact (this same.symm (Int.le_of_not_le below)).symm
  obtain ⟨count, rfl, rfl⟩ := eq_mul_pow_of_magnitude_eq below same
  by_cases zero : coefficient = 0
  · rw [zero, Nat.zero_mul, rounded?_zero, rounded?_zero]
  · exact (rounded?_mul_pow zero count exponent).symm

/-!
## Comparing and counting places
-/

private theorem exceeds_eq (coefficient : Nat) (exponent : Int) (bound : Nat) :
    exceeds coefficient exponent bound = decide ((bound : ℚ) < magnitude coefficient exponent) := by
  unfold exceeds
  rcases le_or_gt 0 exponent with natural | fractional
  · obtain ⟨shift, rfl⟩ := Int.eq_ofNat_of_zero_le natural
    rw [if_pos natural, magnitude_natural]
    exact decide_eq_decide.mpr Nat.cast_lt.symm
  · obtain ⟨count, rfl⟩ : ∃ count : Nat, exponent = -(count : Int) :=
      ⟨(-exponent).toNat, by omega⟩
    have positive : (0 : ℚ) < 10 ^ count := by positivity
    rw [if_neg (Int.not_le.mpr fractional), Int.neg_neg, Int.toNat_natCast, magnitude, zpow_neg,
      zpow_natCast, ← div_eq_mul_inv]
    refine decide_eq_decide.mpr ?_
    rw [lt_div_iff₀ positive]
    exact_mod_cast Iff.rfl

private theorem scaledExceeds?_eq (coefficient : Nat) (exponent : Int) (places bound : Nat) :
    scaledExceeds? coefficient exponent places bound =
      (rounded? coefficient (exponent + places)).map fun number =>
        decide ((bound : ℚ) < number) := by
  rw [scaledExceeds?, rounded?, Option.map_map]
  refine congrArg (Option.map · _) (funext fun fitted => ?_)
  exact exceeds_eq fitted.1 fitted.2 bound

theorem scaledExceeds?_congr (same : magnitude coefficient exponent = magnitude other level)
    (places bound : Nat) :
    scaledExceeds? coefficient exponent places bound =
      scaledExceeds? other level places bound := by
  have scaled : magnitude coefficient (exponent + places) = magnitude other (level + places) := by
    rw [← magnitude_mul_ten_pow, ← magnitude_mul_ten_pow, same]
  rw [scaledExceeds?_eq, scaledExceeds?_eq, rounded?_congr scaled]

/-- The zeros at the end of a short number are all dropped, unless the exponent has no room. -/
theorem stripZeros_short (nonzero : rounded ≠ 0) (short : digitCount rounded ≤ precision)
    (negative : unit + (stripZeros (min (maxExponent - unit).toNat precision) rounded).2 < 0) :
    (stripZeros (min (maxExponent - unit).toNat precision) rounded).1 % 10 ≠ 0 := by
  obtain ⟨joined, few, stripped⟩ :=
    stripZeros_spec (min (maxExponent - unit).toNat precision) rounded
  generalize stripZeros (min (maxExponent - unit).toNat precision) rounded = parts at *
  apply stripped
  have stem : 0 < parts.1 := by
    apply Nat.pos_of_ne_zero
    intro none
    rw [none, Nat.zero_mul] at joined
    exact nonzero joined.symm
  have scale : 10 ^ parts.2 < 10 ^ precision := by
    calc 10 ^ parts.2 ≤ parts.1 * 10 ^ parts.2 := Nat.le_mul_of_pos_left _ stem
      _ = rounded := joined
      _ < 10 ^ precision := (digitCount_le_iff (by decide)).mp short
  have fewer : parts.2 < precision := (Nat.pow_lt_pow_iff_right (by decide)).mp scale
  unfold maxExponent at *
  omega

/-- A number has no more than so many places if, once rounded, it is a whole number of units of the
last of them. -/
theorem placed_iff (coefficient : Nat) (exponent : Int) (places : Nat) :
    (∃ last, normalExponent? coefficient exponent = some last ∧ -(places : Int) ≤ last) ↔
      ∃ number, rounded? coefficient exponent = some number ∧
        ∃ units : Nat, number * 10 ^ places = units := by
  unfold normalExponent? rounded?
  cases fitted : fit? coefficient exponent with
  | none => simp
  | some result =>
      obtain ⟨rounded, unit⟩ := result
      simp only [Option.map_some, Option.some.injEq, exists_eq_left']
      by_cases zero : rounded = 0
      · subst zero
        refine iff_of_true (by simp) ⟨0, ?_⟩
        simp [magnitude]
      rw [if_neg zero]
      have short := digitCount_of_fit? fitted
      have stripped :
          unit + (stripZeros (min (maxExponent - unit).toNat precision) rounded).2 < 0 →
            (stripZeros (min (maxExponent - unit).toNat precision) rounded).1 % 10 ≠ 0 :=
        stripZeros_short zero short
      obtain ⟨joined, _⟩ := stripZeros_spec (min (maxExponent - unit).toNat precision) rounded
      generalize stripZeros (min (maxExponent - unit).toNat precision) rounded = parts at *
      rw [← joined, magnitude_mul_pow]
      rcases le_or_gt 0 (unit + parts.2) with natural | fractional
      · obtain ⟨shift, level⟩ := Int.eq_ofNat_of_zero_le natural
        refine iff_of_true (by omega) ⟨parts.1 * 10 ^ (shift + places), ?_⟩
        rw [magnitude_mul_ten_pow, level, ← Nat.cast_add, magnitude_natural]
      · obtain ⟨count, level⟩ : ∃ count : Nat, unit + parts.2 = -(count : Int) :=
          ⟨(-(unit + parts.2)).toNat, by omega⟩
        have ended : count ≠ 0 → parts.1 % 10 ≠ 0 := fun _ => stripped fractional
        rw [level, ← places_le_iff ended]
        omega

theorem placed_congr (same : magnitude coefficient exponent = magnitude other level)
    (places : Nat) :
    (∃ last, normalExponent? coefficient exponent = some last ∧ -(places : Int) ≤ last) ↔
      ∃ last, normalExponent? other level = some last ∧ -(places : Int) ≤ last := by
  rw [placed_iff, placed_iff, rounded?_congr same]

end Decimal

/-!
## Numerals
-/

section

variable {value other places count : Nat}

private theorem pointed_unique
    (same : Decimal.magnitude value (-(places : Int)) = Decimal.magnitude other (-(count : Int)))
    (stripped : places ≠ 0 → value % 10 ≠ 0) (strippedToo : count ≠ 0 → other % 10 ≠ 0) :
    value = other ∧ places = count := by
  have enough : places ≤ count := by
    rw [places_le_iff stripped, same]
    exact (places_le_iff strippedToo count).mp (Nat.le_refl _)
  have needed : count ≤ places := by
    rw [places_le_iff strippedToo, ← same]
    exact (places_le_iff stripped places).mp (Nat.le_refl _)
  obtain rfl := Nat.le_antisymm enough needed
  exact ⟨Decimal.magnitude_injective same, rfl⟩

end

/-- Fixed notation shows the number, and not how it was spelt. -/
theorem Decimal.printPlain_congr {coefficient other : Nat} {exponent level : Int} (negative : Bool)
    (same : magnitude coefficient exponent = magnitude other level) :
    printPlain negative coefficient exponent = printPlain negative other level := by
  obtain ⟨value, places, shown, number, stripped⟩ := printPlain_eq negative coefficient exponent
  obtain ⟨valueToo, count, shownToo, numberToo, strippedToo⟩ := printPlain_eq negative other level
  have equal : magnitude value (-(places : Int)) = magnitude valueToo (-(count : Int)) := by
    rw [number, same, numberToo]
  obtain ⟨rfl, rfl⟩ := pointed_unique equal stripped strippedToo
  rw [shown, shownToo]

end Rollout.Number
