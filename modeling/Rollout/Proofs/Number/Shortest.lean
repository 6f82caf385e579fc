import Mathlib.Data.Nat.Cast.Order.Field
import Rollout.Proofs.Number.Neighbours

/-!
# Shortest decimals

The decimal by which a floating-point number is shown is rounded to that number again: it lies in
the interval around the number, and seventeen digits are enough to find one there. A decimal of at
most fifteen digits is alone in its interval with as many, so the number is shown by it.
-/

set_option autoImplicit false

namespace Rollout.Number.Binary64

open Decimal (magnitude)

variable {significand : Nat} {exponent : Int}

private theorem ratio_spec (significand : Nat) (exponent : Int) :
    0 < (ratio significand exponent).2 ∧
      ((ratio significand exponent).1 / (ratio significand exponent).2 : ℚ) =
        size significand exponent := by
  unfold ratio size
  split
  · next whole =>
      obtain ⟨power, rfl⟩ := Int.eq_ofNat_of_zero_le whole
      refine ⟨Nat.one_pos, ?_⟩
      rw [Int.toNat_natCast, zpow_natCast, Nat.pow_eq, Nat.cast_one, div_one]
      push_cast
      rfl
  · next fractional =>
      obtain ⟨power, rfl⟩ : ∃ power : Nat, exponent = -(power : Int) :=
        ⟨(-exponent).toNat, by omega⟩
      refine ⟨Nat.pow_pos two_pos, ?_⟩
      rw [neg_neg, Int.toNat_natCast, zpow_neg, zpow_natCast, ← div_eq_mul_inv, Nat.pow_eq]
      push_cast
      rfl

private theorem interval_spec (nonzero : significand ≠ 0) (exponent : Int) :
    0 < (interval significand exponent).denominator ∧
      ((interval significand exponent).value / (interval significand exponent).denominator : ℚ) =
        size significand exponent ∧
      ((interval significand exponent).low / (interval significand exponent).denominator : ℚ) =
        lowEnd significand exponent ∧
      ((interval significand exponent).high / (interval significand exponent).denominator : ℚ) =
        highEnd significand exponent := by
  obtain ⟨positive, unit⟩ := ratio_spec 1 (exponent - 2)
  have quarter : size 1 (exponent - 2) = 2 ^ exponent / 4 := by
    rw [size, zpow_sub₀ two_ne_zero]
    norm_num
  rw [quarter] at unit
  unfold interval
  generalize ratio 1 (exponent - 2) = parts at positive unit
  obtain ⟨top, bottom⟩ := parts
  dsimp only at positive unit ⊢
  refine ⟨positive, ?_, ?_, ?_⟩
  · push_cast
    rw [mul_div_assoc, unit, size]
    ring
  · have below : (if significand = significandBound / 2 ∧ exponent > minExponent then 1 else 2) ≤
        4 * significand := by split <;> omega
    rw [Nat.cast_mul, mul_div_assoc, unit, Nat.cast_sub below, lowEnd, reach]
    split <;> · push_cast; ring
  · push_cast
    rw [mul_div_assoc, unit, highEnd]
    ring

theorem covers_iff {number : ℚ} :
    Covers significand exponent number ↔
      if significand % 2 = 0 then
        lowEnd significand exponent ≤ number ∧ number ≤ highEnd significand exponent
      else lowEnd significand exponent < number ∧ number < highEnd significand exponent := by
  split
  · next even =>
      exact ⟨fun covers => ⟨covers.low, covers.high⟩, fun ⟨low, high⟩ =>
        ⟨low, high, fun odd => absurd odd (by omega)⟩⟩
  · next odd =>
      exact ⟨fun covers => covers.tie (by omega), fun ⟨low, high⟩ =>
        ⟨low.le, high.le, fun _ => ⟨low, high⟩⟩⟩

/-- The test for the interval is one for the numbers that are rounded to its number. -/
theorem contains_iff (nonzero : significand ≠ 0) {numerator denominator : Nat}
    (positive : 0 < denominator) :
    (interval significand exponent).contains numerator denominator = true ↔
      Covers significand exponent (numerator / denominator) := by
  obtain ⟨proper, _, low, high⟩ := interval_spec nonzero exponent
  have closed : (interval significand exponent).closed = decide (significand % 2 = 0) := rfl
  have scale : (0 : ℚ) < (interval significand exponent).denominator := by exact_mod_cast proper
  have level : (0 : ℚ) < denominator := by exact_mod_cast positive
  rw [covers_iff, ← low, ← high, div_le_div_iff₀ scale level, div_le_div_iff₀ level scale,
    div_lt_div_iff₀ scale level, div_lt_div_iff₀ level scale, Interval.contains, closed]
  norm_cast
  by_cases even : significand % 2 = 0
  · simp [even]
  · simp [even]

/-!
## Decimals in the interval
-/

private theorem tenPower_pos (unit : Int) : 0 < (tenPower unit).2 := by
  unfold tenPower
  split
  · exact Nat.one_pos
  · exact Nat.pow_pos (by decide)

private theorem tenPower_spec (unit : Int) :
    ((tenPower unit).1 / (tenPower unit).2 : ℚ) = 10 ^ unit := by
  unfold tenPower
  split
  · next whole =>
      obtain ⟨power, rfl⟩ := Int.eq_ofNat_of_zero_le whole
      rw [Int.toNat_natCast, zpow_natCast, Nat.pow_eq, Nat.cast_one, div_one]
      push_cast
      rfl
  · next fractional =>
      obtain ⟨power, rfl⟩ : ∃ power : Nat, unit = -(power : Int) := ⟨(-unit).toNat, by omega⟩
      rw [neg_neg, Int.toNat_natCast, zpow_neg, zpow_natCast, Nat.pow_eq, Nat.cast_one, one_div]
      push_cast
      rfl

theorem contains_tenPower_iff (nonzero : significand ≠ 0) (multiple : Nat) (unit : Int) :
    (interval significand exponent).contains (multiple * (tenPower unit).1) (tenPower unit).2 =
        true ↔
      Covers significand exponent (magnitude multiple unit) := by
  rw [contains_iff nonzero (tenPower_pos unit), Nat.cast_mul, mul_div_assoc, tenPower_spec,
    magnitude]

private theorem covers_of_gridPoint? (nonzero : significand ≠ 0) {unit : Int} {multiple : Nat}
    (found : gridPoint? (interval significand exponent) unit = some multiple) :
    Covers significand exponent (magnitude multiple unit) := by
  rw [← contains_tenPower_iff nonzero]
  unfold gridPoint? at found
  dsimp only at found
  generalize divideNearest _ _ = nearest at found
  generalize (if nearest = _ then _ else _) = other at found
  split at found
  · next hits =>
      cases found
      exact hits
  · split at found
    · next hits =>
        cases found
        exact hits
    · cases found

private theorem lt_reach (canonical : Canonical significand exponent) :
    (significand : ℚ) / 10 ^ 16 < 2 * reach significand exponent := by
  have step : (significand : ℚ) + 1 ≤ 2 ^ 53 := by
    rw [← bound_eq]
    exact_mod_cast canonical.below
  rw [div_lt_iff₀ (by norm_num)]
  unfold reach
  split
  · next power =>
      rw [power.1, half_bound]
      norm_num
  · linarith

/-- Half of a power of ten that is small enough does not reach out of the interval. -/
theorem covers_of_small (canonical : Canonical significand exponent) {unit : Int}
    (small : (10 : ℚ) ^ unit * 10 ^ 16 ≤ size significand exponent) {multiple : Nat}
    (nearest : Nearest multiple (size significand exponent / 10 ^ unit)) :
    Covers significand exponent (magnitude multiple unit) := by
  have tens : (0 : ℚ) < 10 ^ unit := zpow_pos (by norm_num) unit
  have below := (le_div_iff₀ tens).mp nearest.low
  have above := (div_le_iff₀ tens).mp nearest.high
  have inside : (10 : ℚ) ^ unit < 2 * reach significand exponent * 2 ^ exponent := by
    calc (10 : ℚ) ^ unit ≤ significand / 10 ^ 16 * 2 ^ exponent := by
          rw [div_mul_eq_mul_div, le_div_iff₀ (by norm_num)]
          exact small
      _ < 2 * reach significand exponent * 2 ^ exponent :=
          mul_lt_mul_of_pos_right (lt_reach canonical) (two_zpow_pos exponent)
  have half := mul_le_mul_of_nonneg_right (reach_le significand exponent)
    (two_zpow_pos exponent).le
  have low : lowEnd significand exponent < magnitude multiple unit := by
    unfold lowEnd magnitude
    unfold size at above
    linarith
  have high : magnitude multiple unit < highEnd significand exponent := by
    unfold highEnd magnitude
    unfold size at below
    linarith
  exact ⟨low.le, high.le, fun _ => ⟨low, high⟩⟩

/-- Of the multiples of a power of ten, the one that is nearest to a number is found if it lies in
the interval. -/
theorem gridPoint?_of_nearest (nonzero : significand ≠ 0) {unit : Int} {multiple : Nat}
    (nearest : Nearest multiple (size significand exponent / 10 ^ unit))
    (covers : Covers significand exponent (magnitude multiple unit)) :
    gridPoint? (interval significand exponent) unit = some multiple := by
  obtain ⟨proper, value, _, _⟩ := interval_spec nonzero exponent
  have ten := tenPower_spec unit
  have tenfold : 0 < (tenPower unit).1 := by
    apply Nat.pos_of_ne_zero
    intro none
    rw [none, Nat.cast_zero, zero_div] at ten
    exact absurd ten.symm (zpow_ne_zero unit (by norm_num))
  have chosen := nearest_divideNearest (Nat.mul_pos proper tenfold)
    ((interval significand exponent).value * (tenPower unit).2)
  have scaled : (((interval significand exponent).value * (tenPower unit).2 : Nat) /
      ((interval significand exponent).denominator * (tenPower unit).1 : Nat) : ℚ) =
        size significand exponent / 10 ^ unit := by
    rw [Nat.cast_mul, Nat.cast_mul, mul_div_mul_comm, value, div_eq_mul_inv, div_eq_mul_inv, ← ten,
      inv_div]
    rfl
  rw [scaled] at chosen
  unfold gridPoint?
  dsimp only
  rw [chosen.unique nearest, if_pos ((contains_tenPower_iff nonzero multiple unit).mpr covers)]

/-- If a power of ten is small enough, one of its multiples lies in the interval. -/
theorem gridPoint?_isSome (canonical : Canonical significand exponent) (nonzero : significand ≠ 0)
    {unit : Int} (small : (10 : ℚ) ^ unit * 10 ^ 16 ≤ size significand exponent) :
    (gridPoint? (interval significand exponent) unit).isSome = true := by
  have least : (0 : ℚ) ≤ size significand exponent / 10 ^ unit :=
    div_nonneg (mul_nonneg significand.cast_nonneg (two_zpow_pos exponent).le)
      (zpow_nonneg (by norm_num) unit)
  obtain ⟨multiple, nearest⟩ := exists_nearest least
  rw [gridPoint?_of_nearest nonzero nearest (covers_of_small canonical small nearest)]
  rfl

private theorem one_le_scaled (canonical : Canonical significand exponent) (nonzero : significand ≠ 0) :
    (1 : ℚ) ≤ size significand exponent * 10 ^ 400 := by
  have powers : 2 ^ 1074 ≤ 10 ^ 400 := by decide +kernel
  have tens : (2 : ℚ) ^ 1074 ≤ 10 ^ 400 := by exact_mod_cast powers
  have some : (1 : ℚ) ≤ significand := by exact_mod_cast Nat.one_le_iff_ne_zero.mpr nonzero
  calc (1 : ℚ) = 2 ^ (-1074 : Int) * 2 ^ 1074 :=
        (inv_mul_cancel₀ (pow_ne_zero 1074 two_ne_zero)).symm
    _ ≤ 2 ^ exponent * 10 ^ 400 :=
        mul_le_mul (zpow_le_zpow_right₀ one_le_two canonical.least) tens (pow_pos two_pos 1074).le
          (two_zpow_pos exponent).le
    _ ≤ size significand exponent * 10 ^ 400 :=
        mul_le_mul_of_nonneg_right (le_mul_of_one_le_left (two_zpow_pos exponent).le some)
          (pow_pos (by norm_num) 400).le

/-- The leading place of a number is that of its first digit. -/
theorem leadingPlace_bounds (canonical : Canonical significand exponent)
    (nonzero : significand ≠ 0) :
    (10 : ℚ) ^ (leadingPlace (interval significand exponent) - 1) ≤ size significand exponent ∧
      size significand exponent < 10 ^ leadingPlace (interval significand exponent) := by
  obtain ⟨proper, value, _, _⟩ := interval_spec nonzero exponent
  have many := one_le_scaled canonical nonzero
  have power : (0 : ℚ) < 10 ^ (400 : Int) := zpow_pos (by norm_num) 400
  unfold leadingPlace
  generalize (interval significand exponent).value = top at value
  generalize (interval significand exponent).denominator = bottom at value proper
  have scale : (0 : ℚ) < bottom := by exact_mod_cast proper
  have scaled : size significand exponent * 10 ^ 400 = (top * Nat.pow 10 400 : Nat) / bottom := by
    rw [← value, div_mul_eq_mul_div]
    simp only [Nat.pow_eq, Nat.cast_mul, Nat.cast_pow, Nat.cast_ofNat]
  have some : top * Nat.pow 10 400 / bottom ≠ 0 := by
    rw [scaled, one_le_div₀ scale] at many
    exact (Nat.div_pos (by exact_mod_cast many) proper).ne'
  have low :
      ((top * Nat.pow 10 400 / bottom : Nat) : ℚ) ≤ size significand exponent * 10 ^ 400 := by
    rw [scaled]
    exact Nat.cast_div_le
  have high : size significand exponent * 10 ^ 400 <
      ((top * Nat.pow 10 400 / bottom + 1 : Nat) : ℚ) := by
    rw [scaled, div_lt_iff₀ scale]
    exact_mod_cast Nat.lt_mul_of_div_lt (Nat.lt_succ_self _) proper
  generalize top * Nat.pow 10 400 / bottom = whole at some low high ⊢
  have least : (10 : ℚ) ^ (digitCount whole - 1) ≤ whole := by
    exact_mod_cast pow_pred_digitCount_le some
  have most : ((whole + 1 : Nat) : ℚ) ≤ 10 ^ digitCount whole := by
    exact_mod_cast lt_pow_digitCount whole
  have level : (digitCount whole : Int) - 400 - 1 = ((digitCount whole - 1 : Nat) : Int) - 400 := by
    have positive := digitCount_pos whole
    omega
  rw [level, zpow_sub₀ (by norm_num), zpow_sub₀ (by norm_num), zpow_natCast, zpow_natCast,
    div_le_iff₀ power, lt_div_iff₀ power]
  exact ⟨le_trans least low, lt_of_lt_of_le high most⟩

/-!
## The shortest decimal
-/

private theorem findSome?_range {α : Type} {attempt : Nat → Option α} {count : Nat} {result : α}
    (found : (List.range count).findSome? attempt = some result) :
    ∃ index < count, attempt index = some result ∧ ∀ earlier < index, attempt earlier = none := by
  induction count with
  | zero => cases found
  | succ count ih =>
      rw [List.range_succ, List.findSome?_append, Option.or_eq_some_iff] at found
      rcases found with before | ⟨none, last⟩
      · obtain ⟨index, small, here, first⟩ := ih before
        exact ⟨index, by omega, here, first⟩
      · refine ⟨count, by omega, by simpa using last, fun earlier small => ?_⟩
        exact List.findSome?_eq_none_iff.mp none earlier (List.mem_range.mpr small)

/-- The shortest decimal is the one that is found with the fewest digits, unless seventeen of them
are not enough. -/
theorem shortest_cases (significand : Nat) (exponent : Int) :
    (∃ (count multiple : Nat),
      (gridPoint? (interval significand exponent)
          (leadingPlace (interval significand exponent) - count) = some multiple ∧
        ∀ fewer, 0 < fewer → fewer < count →
          gridPoint? (interval significand exponent)
            (leadingPlace (interval significand exponent) - fewer) = none) ∧
      magnitude (shortest significand exponent).1 (shortest significand exponent).2 =
        magnitude multiple (leadingPlace (interval significand exponent) - count)) ∨
    shortest significand exponent = (significand, exponent) ∧
      ∀ count : Nat, 0 < count → count ≤ 17 →
        gridPoint? (interval significand exponent)
          (leadingPlace (interval significand exponent) - count) = none := by
  simp only [shortest]
  generalize attempts : (List.range 17).findSome? _ = attempted
  cases attempted with
  | none =>
      refine .inr ⟨rfl, fun count some few => ?_⟩
      obtain ⟨index, rfl⟩ := Nat.exists_eq_succ_of_ne_zero some.ne'
      exact Option.map_eq_none_iff.mp
        (List.findSome?_eq_none_iff.mp attempts index (List.mem_range.mpr few))
  | some chosen =>
      obtain ⟨index, _, found, first⟩ := findSome?_range attempts
      obtain ⟨multiple, gridded, rfl⟩ := Option.map_eq_some_iff.mp found
      refine .inl ⟨index + 1, multiple, ⟨gridded, fun fewer some less => ?_⟩, ?_⟩
      · obtain ⟨earlier, rfl⟩ := Nat.exists_eq_succ_of_ne_zero some.ne'
        exact Option.map_eq_none_iff.mp (first earlier (by omega))
      · have stripped := Decimal.magnitude_mul_pow (stripZeros 17 multiple).1
          (stripZeros 17 multiple).2
          (leadingPlace (interval significand exponent) - (index + 1 : Nat))
        rw [(stripZeros_spec 17 multiple).1] at stripped
        exact stripped.symm

theorem shortest_ne_zero (nonzero : significand ≠ 0) (exponent : Int) :
    (shortest significand exponent).1 ≠ 0 := by
  rcases shortest_cases significand exponent with ⟨_, _, ⟨found, _⟩, same⟩ | ⟨same, _⟩
  · have positive := (covers_of_gridPoint? nonzero found).half_le nonzero
    have power := two_zpow_pos exponent
    intro zero
    rw [← same, Decimal.magnitude_eq_zero_iff.mpr zero] at positive
    linarith
  · rw [same]
    exact nonzero

/-- The shortest decimal of a number is rounded to it: seventeen digits are always enough. -/
theorem covers_shortest (canonical : Canonical significand exponent) (nonzero : significand ≠ 0) :
    Covers significand exponent
      (magnitude (shortest significand exponent).1 (shortest significand exponent).2) := by
  rcases shortest_cases significand exponent with ⟨_, _, ⟨found, _⟩, same⟩ | ⟨_, missed⟩
  · rw [same]
    exact covers_of_gridPoint? nonzero found
  · have small : (10 : ℚ) ^ (leadingPlace (interval significand exponent) - (17 : Nat)) * 10 ^ 16 ≤
        size significand exponent := by
      refine le_of_eq_of_le ?_ (leadingPlace_bounds canonical nonzero).1
      rw [← zpow_natCast, ← zpow_add₀ (by norm_num)]
      congr 1
      omega
    have some := gridPoint?_isSome canonical nonzero small
    rw [missed 17 (by decide) (Nat.le_refl 17)] at some
    cases some

/-!
## Short decimals
-/

/-- An interval is no wider than a unit of the last digit of its number. -/
theorem Covers.near {number other : ℚ} (covers : Covers significand exponent number)
    (again : Covers significand exponent other) : number - other ≤ 2 ^ exponent := by
  have low := le_trans (lowEnd_ge significand exponent) again.low
  have high := covers.high
  unfold highEnd at high
  linarith

private theorem multiple_unique {unit : Int} (narrow : (2 : ℚ) ^ exponent < 10 ^ unit)
    {multiple other : Nat} (covers : Covers significand exponent (magnitude multiple unit))
    (again : Covers significand exponent (magnitude other unit)) : multiple = other := by
  have tens : (0 : ℚ) < 10 ^ unit := zpow_pos (by norm_num) unit
  have before : ∀ {less more : Nat}, Covers significand exponent (magnitude more unit) →
      Covers significand exponent (magnitude less unit) → more ≤ less := by
    intro less more upper lower
    have near := upper.near lower
    unfold magnitude at near
    have step : (more : ℚ) < ((less + 1 : Nat) : ℚ) := by
      rw [← sub_mul, ← le_div_iff₀ tens] at near
      have small := (div_lt_one tens).mpr narrow
      push_cast
      linarith
    exact Nat.lt_succ_iff.mp (by exact_mod_cast step)
  exact Nat.le_antisymm (before covers again) (before again covers)

private theorem nearest_of_narrow {unit : Int} (narrow : (2 : ℚ) ^ exponent < 10 ^ unit) {multiple : Nat}
    (covers : Covers significand exponent (magnitude multiple unit)) :
    Nearest multiple (size significand exponent / 10 ^ unit) := by
  have tens : (0 : ℚ) < 10 ^ unit := zpow_pos (by norm_num) unit
  have low := le_trans (lowEnd_ge significand exponent) covers.low
  have high := covers.high
  unfold highEnd at high
  unfold magnitude at low high
  have below : (multiple : ℚ) - 1 / 2 < size significand exponent / 10 ^ unit := by
    rw [lt_div_iff₀ tens, size]
    linarith
  have above : size significand exponent / 10 ^ unit < multiple + 1 / 2 := by
    rw [div_lt_iff₀ tens, size]
    linarith
  exact ⟨below.le, above.le, fun _ => ⟨below, above⟩⟩

theorem ne_zero_of_full (full : significandBound / 2 ≤ significand) : significand ≠ 0 := by
  rintro rfl
  exact absurd full (by decide)

/-- A significand has fifteen decimal digits at least, unless the number is too small for that. -/
theorem zpow_lt_of_full (canonical : Canonical significand exponent)
    (full : significandBound / 2 ≤ significand) :
    (2 : ℚ) ^ 52 * 2 ^ exponent ≤ size significand exponent ∧
      (2 : ℚ) ^ exponent < 10 ^ (leadingPlace (interval significand exponent) - 15) := by
  have nonzero := ne_zero_of_full full
  have power := two_zpow_pos exponent
  have fine : (2 : ℚ) ^ 52 * 2 ^ exponent ≤ size significand exponent := by
    rw [← half_bound]
    exact mul_le_mul_of_nonneg_right (by exact_mod_cast full) power.le
  have most := (leadingPlace_bounds canonical nonzero).2
  refine ⟨fine, ?_⟩
  generalize leadingPlace (interval significand exponent) = place at most ⊢
  have split : (10 : ℚ) ^ place = 10 ^ (place - 15) * 10 ^ 15 := by
    rw [← zpow_natCast, ← zpow_add₀ (by norm_num)]
    congr 1
    omega
  rw [split] at most
  linarith

/-- The last place of a decimal with at most fifteen digits is not far below the leading place of
the number that it is rounded to. -/
theorem leadingPlace_sub_le (canonical : Canonical significand exponent)
    (full : significandBound / 2 ≤ significand) {coefficient : Nat} {unit : Int}
    (short : coefficient < 10 ^ 15)
    (covers : Covers significand exponent (magnitude coefficient unit)) :
    leadingPlace (interval significand exponent) - 15 ≤ unit := by
  have nonzero := ne_zero_of_full full
  have power := two_zpow_pos exponent
  have least := (leadingPlace_bounds canonical nonzero).1
  have fine := (zpow_lt_of_full canonical full).1
  by_contra far
  have tens : (0 : ℚ) < 10 ^ unit := zpow_pos (by norm_num) unit
  have large : (10 : ℚ) ^ unit * 10 ^ 15 ≤ size significand exponent := by
    refine le_trans ?_ least
    rw [← zpow_natCast, ← zpow_add₀ (by norm_num)]
    exact zpow_le_zpow_right₀ (by norm_num) (by omega)
  have few : (coefficient : ℚ) + 1 ≤ 10 ^ 15 := by exact_mod_cast short
  have small := mul_le_mul_of_nonneg_right few tens.le
  have low := le_trans (lowEnd_ge significand exponent) covers.low
  unfold size at fine large
  unfold magnitude at low
  linarith

/-- A decimal of at most fifteen digits is what its number is shown by, unless that number is too
small to have as many. -/
theorem shortest_of_short (canonical : Canonical significand exponent)
    (full : significandBound / 2 ≤ significand) {coefficient : Nat} {unit : Int}
    (short : coefficient < 10 ^ 15)
    (covers : Covers significand exponent (magnitude coefficient unit)) :
    magnitude (shortest significand exponent).1 (shortest significand exponent).2 =
      magnitude coefficient unit := by
  have nonzero := ne_zero_of_full full
  have narrow := (zpow_lt_of_full canonical full).2
  have placed := leadingPlace_sub_le canonical full short covers
  have cases := shortest_cases significand exponent
  generalize leadingPlace (interval significand exponent) = place at narrow placed cases
  obtain ⟨tens, rfl⟩ : ∃ tens : Nat, unit = place - 15 + tens :=
    ⟨(unit - (place - 15)).toNat, by omega⟩
  rw [← Decimal.magnitude_mul_pow] at covers ⊢
  generalize coefficient * 10 ^ tens = exact at covers ⊢
  -- with fifteen digits the decimal is found, and it is the only one
  have found : gridPoint? (interval significand exponent) (place - 15) = some exact :=
    gridPoint?_of_nearest nonzero (nearest_of_narrow narrow covers) covers
  rcases cases with ⟨count, multiple, ⟨gridded, first⟩, same⟩ | ⟨_, missed⟩
  · have few : count ≤ 15 := by
      by_contra more
      have none := first 15 (by decide) (by omega)
      rw [Nat.cast_ofNat, found] at none
      cases none
    have level : place - count = place - 15 + (15 - count : Nat) := by omega
    have another := covers_of_gridPoint? nonzero gridded
    rw [same, level, ← Decimal.magnitude_mul_pow]
    rw [level, ← Decimal.magnitude_mul_pow] at another
    rw [multiple_unique narrow covers another]
  · have none := missed 15 (by decide) (by decide)
    rw [Nat.cast_ofNat, found] at none
    cases none

/-!
## Where notations change
-/

/-- Shortest decimals lie on the same side of a decimal as their numbers do, if the number next
above that decimal is shown by it. -/
theorem le_shortest_iff {edge : Nat} {scale : Int} {coefficient : Nat} {unit : Int}
    (another : Canonical edge scale) (some : edge ≠ 0)
    (shown : shortest edge scale = (coefficient, unit))
    (above : magnitude coefficient unit ≤ size edge scale)
    (canonical : Canonical significand exponent) (nonzero : significand ≠ 0) :
    magnitude coefficient unit ≤
        magnitude (shortest significand exponent).1 (shortest significand exponent).2 ↔
      magnitude coefficient unit ≤ size significand exponent := by
  have covers := covers_shortest canonical nonzero
  have covered := covers_shortest another some
  rw [shown] at covered
  rcases lt_trichotomy (size significand exponent) (size edge scale) with below | same | beyond
  · have apart := highEnd_le_lowEnd canonical another below
    have under := lt_of_lt_of_le (size_lt_highEnd significand exponent)
      (le_trans apart covered.low)
    refine iff_of_false (fun reached => ?_) (not_le.mpr under)
    -- the two would meet in the decimal itself
    have meets := le_antisymm reached (le_trans covers.high (le_trans apart covered.low))
    rw [← meets] at covers
    obtain ⟨rfl, rfl⟩ := eq_of_covers canonical nonzero another covers covered
    exact absurd below (lt_irrefl _)
  · have here := covers_size significand exponent
    rw [same] at here
    obtain ⟨rfl, rfl⟩ := eq_of_covers canonical nonzero another here (covers_size edge scale)
    rw [shown]
    exact iff_of_true le_rfl above
  · have apart := highEnd_le_lowEnd another canonical beyond
    have beneath := le_trans (le_trans covered.high apart) covers.low
    exact iff_of_true beneath (le_trans above beyond.le)

/-- The place of the point in the shortest decimal of a number: how many of its digits stand before
the point, or how many zeros behind it. -/
def point (significand : Nat) (exponent : Int) : Int :=
  digitCount (shortest significand exponent).1 + (shortest significand exponent).2

theorem lt_point_iff (nonzero : significand ≠ 0) (bound : Int) :
    bound < point significand exponent ↔
      magnitude 1 bound ≤
        magnitude (shortest significand exponent).1 (shortest significand exponent).2 := by
  have above := Decimal.le_magnitude (shortest_ne_zero nonzero exponent)
    (shortest significand exponent).2
  have below := Decimal.magnitude_lt (shortest significand exponent).1
    (shortest significand exponent).2
  rw [magnitude, Nat.cast_one, one_mul]
  unfold point
  constructor
  · intro reached
    exact le_trans (zpow_le_zpow_right₀ (by norm_num) (by omega)) above
  · intro reached
    exact (zpow_lt_zpow_iff_right₀ (by norm_num)).mp (lt_of_le_of_lt reached below)

/-- The shortest text is positional for numbers from `10 ^ -4` up to `10 ^ 16`. -/
theorem point_iff (canonical : Canonical significand exponent) (nonzero : significand ≠ 0) :
    -4 < point significand exponent ∧ point significand exponent ≤ 16 ↔
      magnitude 1 (-4) ≤ size significand exponent ∧
        size significand exponent < magnitude 1 16 := by
  have least : Canonical 7378697629483821 (-66) := ⟨by decide, by decide, by decide, by decide⟩
  have most : Canonical 5000000000000000 1 := ⟨by decide, by decide, by decide, by decide⟩
  have leastShown : shortest 7378697629483821 (-66) = (1, -4) := by decide +kernel
  have mostShown : shortest 5000000000000000 1 = (1, 16) := by decide +kernel
  have low := le_shortest_iff least (by decide) leastShown (by norm_num [magnitude, size])
    canonical nonzero
  have high := le_shortest_iff most (by decide) mostShown (by norm_num [magnitude, size])
    canonical nonzero
  rw [← not_lt, lt_point_iff nonzero, lt_point_iff nonzero, low, high, not_le]

theorem toList_print (negative : Bool) (significand : Nat) (exponent : Int) :
    (finite negative significand exponent).print.toList =
      Decimal.withSign negative
        (if significand = 0 then ['0', '.', '0']
        else if -4 < point significand exponent ∧ point significand exponent ≤ 16 then
          positional (digits (shortest significand exponent).1) (point significand exponent)
        else
          scientific (digits (shortest significand exponent).1)
            (point significand exponent - 1)) := by
  unfold print point
  rw [String.toList_ofList]
  unfold Decimal.withSign digitCount
  generalize shortest significand exponent = decimal
  obtain ⟨coefficient, unit⟩ := decimal
  dsimp only

end Rollout.Number.Binary64
