import Mathlib.Algebra.Order.Field.Power
import Mathlib.Tactic.Linarith
import Mathlib.Tactic.FieldSimp
import Rollout.Number.Binary64.Printer
import Rollout.Proofs.Number.Overflow

/-!
# Numbers between floating-point numbers

A ratio is rounded to the floating-point number next to it. So each of these numbers has an interval
around it, the numbers that are rounded to it, and an interval that another one has lies wholly
below or above.
-/

set_option autoImplicit false

namespace Rollout.Number

/-!
## Whole numbers
-/

/-- A whole number is nearest to a number. In the middle between two of them it is the even one. -/
structure Nearest (whole : Nat) (number : ℚ) : Prop where
  low : (whole : ℚ) - 1 / 2 ≤ number
  high : number ≤ whole + 1 / 2
  tie : whole % 2 = 1 → (whole : ℚ) - 1 / 2 < number ∧ number < whole + 1 / 2

theorem Nearest.unique {whole other : Nat} {number : ℚ} (nearest : Nearest whole number)
    (again : Nearest other number) : whole = other := by
  -- two that are apart touch in the middle, and one of them is odd
  have apart : ∀ {less more : Nat}, less < more → Nearest less number → ¬Nearest more number := by
    intro less more below first second
    have step : (less : ℚ) + 1 ≤ more := by exact_mod_cast below
    have high := first.high
    have low := second.low
    have next : (more : ℚ) = less + 1 := by linarith
    have successor : more = less + 1 := by exact_mod_cast next
    rcases Nat.mod_two_eq_zero_or_one less with even | odd
    · have strict := (second.tie (by omega)).1
      linarith
    · have strict := (first.tie odd).2
      linarith
  rcases Nat.lt_trichotomy whole other with below | same | above
  · exact absurd again (apart below nearest)
  · exact same
  · exact absurd nearest (apart above again)

private theorem cast_parts {number : ℚ} (least : 0 ≤ number) :
    (number.num.toNat / number.den : ℚ) = number := by
  have top : ((number.num.toNat : Int) : ℚ) = number.num := by
    rw [Int.toNat_of_nonneg (Rat.num_nonneg.mpr least)]
  rw [← Int.cast_natCast, top]
  exact Rat.num_div_den number

private theorem lt_divideNearest_iff_half {denominator : Nat} (positive : 0 < denominator)
    (numerator bound : Nat) :
    bound < divideNearest numerator denominator ↔
      (bound : ℚ) + 1 / 2 < numerator / denominator ∨
        bound % 2 = 1 ∧ (bound : ℚ) + 1 / 2 = numerator / denominator := by
  have scale : (0 : ℚ) < denominator := by exact_mod_cast positive
  have middle : ((bound : ℚ) + 1 / 2) * denominator =
      (((2 * bound + 1) * denominator : Nat) : ℚ) / 2 := by
    push_cast
    ring
  rw [lt_divideNearest positive, lt_div_iff₀ scale, eq_div_iff scale.ne', middle,
    div_lt_iff₀ two_pos, div_eq_iff two_ne_zero, mul_comm (numerator : ℚ)]
  norm_cast

theorem nearest_divideNearest {denominator : Nat} (positive : 0 < denominator) (numerator : Nat) :
    Nearest (divideNearest numerator denominator) (numerator / denominator) := by
  have passed := lt_divideNearest_iff_half positive numerator
  have least : (0 : ℚ) ≤ numerator / denominator := div_nonneg numerator.cast_nonneg
    denominator.cast_nonneg
  generalize (numerator / denominator : ℚ) = number at passed least ⊢
  generalize divideNearest numerator denominator = whole at passed ⊢
  have above := mt (passed whole).mpr (Nat.lt_irrefl whole)
  rw [not_or, not_and, not_lt] at above
  have below : (whole : ℚ) - 1 / 2 ≤ number ∧ (whole % 2 = 1 → (whole : ℚ) - 1 / 2 < number) := by
    cases whole with
    | zero => exact ⟨by norm_num; linarith, fun odd => by cases odd⟩
    | succ less =>
        have level : ((less + 1 : Nat) : ℚ) - 1 / 2 = less + 1 / 2 := by
          push_cast
          ring
        rw [level]
        rcases (passed less).mp (Nat.lt_succ_self less) with beyond | ⟨odd, same⟩
        · exact ⟨beyond.le, fun _ => beyond⟩
        · exact ⟨same.le, fun even => by omega⟩
  exact ⟨below.1, above.1, fun odd =>
    ⟨below.2 odd, lt_of_le_of_ne above.1 fun same => above.2 odd same.symm⟩⟩

theorem exists_nearest {number : ℚ} (least : 0 ≤ number) : ∃ whole, Nearest whole number := by
  rw [← cast_parts least]
  exact ⟨_, nearest_divideNearest number.den_pos _⟩

namespace Binary64

/-!
## Ratios and powers of two
-/

variable {numerator denominator : Nat} {exponent : Int}

theorem two_zpow_pos (exponent : Int) : (0 : ℚ) < 2 ^ exponent :=
  zpow_pos two_pos exponent

/-- A quotient and a power of two make a ratio of their own, which is rounded in either way. -/
theorem scaled_ratio (positive : 0 < denominator) (numerator : Nat) (exponent : Int) :
    ∃ top bottom : Nat, 0 < bottom ∧ (top / bottom : ℚ) = numerator / denominator / 2 ^ exponent ∧
      scaledQuotient numerator denominator exponent = divideNearest top bottom ∧
      scaledFloor numerator denominator exponent = top / bottom := by
  unfold scaledQuotient scaledFloor
  split
  · next whole =>
      obtain ⟨power, rfl⟩ := Int.eq_ofNat_of_zero_le whole
      refine ⟨_, _, Nat.mul_pos positive (Nat.pow_pos two_pos), ?_, rfl, rfl⟩
      rw [Int.toNat_natCast, zpow_natCast, div_div]
      push_cast
      rfl
  · next fractional =>
      obtain ⟨power, rfl⟩ : ∃ power : Nat, exponent = -(power : Int) :=
        ⟨(-exponent).toNat, by omega⟩
      refine ⟨_, _, positive, ?_, rfl, rfl⟩
      rw [neg_neg, Int.toNat_natCast, zpow_neg, zpow_natCast, div_inv_eq_mul, div_mul_eq_mul_div,
        Nat.pow_eq]
      push_cast
      rfl

private theorem nearest_scaledQuotient (positive : 0 < denominator) (numerator : Nat)
    (exponent : Int) :
    Nearest (scaledQuotient numerator denominator exponent)
      (numerator / denominator / 2 ^ exponent) := by
  obtain ⟨top, bottom, proper, same, rounded, _⟩ := scaled_ratio positive numerator exponent
  rw [rounded, ← same]
  exact nearest_divideNearest proper top

theorem le_scaledFloor_iff (positive : 0 < denominator) (numerator bound : Nat) (exponent : Int) :
    bound ≤ scaledFloor numerator denominator exponent ↔
      (bound * 2 ^ exponent : ℚ) ≤ numerator / denominator := by
  obtain ⟨top, bottom, proper, same, _, floor⟩ := scaled_ratio positive numerator exponent
  have scale : (0 : ℚ) < bottom := by exact_mod_cast proper
  rw [floor, Nat.le_div_iff_mul_le proper, ← le_div_iff₀ (two_zpow_pos exponent), ← same,
    le_div_iff₀ scale]
  norm_cast

/-- The exponent with which a ratio has as many binary digits as a significand may have. -/
def fitted (numerator denominator : Nat) : Int :=
  let guess : Int := (Nat.log2 numerator : Int) - Nat.log2 denominator - 53
  if scaledFloor numerator denominator guess ≥ significandBound then guess + 1 else guess

/-- A ratio lies between the powers of two that the lengths of its parts tell. -/
theorem log2_bounds (some : numerator ≠ 0) (positive : denominator ≠ 0) :
    (2 : ℚ) ^ ((Nat.log2 numerator : Int) - Nat.log2 denominator - 1) ≤ numerator / denominator ∧
      (numerator / denominator : ℚ) <
        2 ^ ((Nat.log2 numerator : Int) - Nat.log2 denominator + 1) := by
  have scale : (0 : ℚ) < denominator := by exact_mod_cast Nat.pos_of_ne_zero positive
  have topLow : (2 : ℚ) ^ (Nat.log2 numerator : Int) ≤ numerator := by
    rw [zpow_natCast]
    exact_mod_cast Nat.log2_self_le some
  have topHigh : (numerator : ℚ) < 2 ^ ((Nat.log2 numerator : Int) + 1) := by
    exact_mod_cast Nat.lt_log2_self
  have bottomLow : (2 : ℚ) ^ (Nat.log2 denominator : Int) ≤ denominator := by
    rw [zpow_natCast]
    exact_mod_cast Nat.log2_self_le positive
  have bottomHigh : (denominator : ℚ) < 2 ^ ((Nat.log2 denominator : Int) + 1) := by
    exact_mod_cast Nat.lt_log2_self
  generalize (Nat.log2 numerator : Int) = top at *
  generalize (Nat.log2 denominator : Int) = bottom at *
  constructor
  · rw [le_div_iff₀ scale]
    calc (2 : ℚ) ^ (top - bottom - 1) * denominator
        ≤ 2 ^ (top - bottom - 1) * 2 ^ (bottom + 1) :=
          mul_le_mul_of_nonneg_left bottomHigh.le (two_zpow_pos _).le
      _ = 2 ^ top := by
          rw [← zpow_add₀ two_ne_zero]
          congr 1
          omega
      _ ≤ numerator := topLow
  · rw [div_lt_iff₀ scale]
    calc (numerator : ℚ) < 2 ^ (top + 1) := topHigh
      _ = 2 ^ (top - bottom + 1) * 2 ^ bottom := by
          rw [← zpow_add₀ two_ne_zero]
          congr 1
          omega
      _ ≤ 2 ^ (top - bottom + 1) * denominator :=
          mul_le_mul_of_nonneg_left bottomLow (two_zpow_pos _).le

private theorem fitted_bounds (some : numerator ≠ 0) (positive : denominator ≠ 0) :
    (2 : ℚ) ^ (52 + fitted numerator denominator) ≤ numerator / denominator ∧
      (numerator / denominator : ℚ) < 2 ^ (53 + fitted numerator denominator) := by
  obtain ⟨low, high⟩ := log2_bounds some positive
  have full := le_scaledFloor_iff (Nat.pos_of_ne_zero positive) numerator significandBound
    ((Nat.log2 numerator : Int) - Nat.log2 denominator - 53)
  have power : ((significandBound : Nat) : ℚ) = 2 ^ (53 : Int) := by norm_num [significandBound]
  rw [power, ← zpow_add₀ two_ne_zero] at full
  unfold fitted
  dsimp only
  split
  · next reached =>
      have least := full.mp reached
      have down : (52 : Int) + ((Nat.log2 numerator : Int) - Nat.log2 denominator - 53 + 1) =
          53 + ((Nat.log2 numerator : Int) - Nat.log2 denominator - 53) := by omega
      have up : (53 : Int) + ((Nat.log2 numerator : Int) - Nat.log2 denominator - 53 + 1) =
          (Nat.log2 numerator : Int) - Nat.log2 denominator + 1 := by omega
      rw [down, up]
      exact ⟨least, high⟩
  · next missed =>
      have most := lt_of_not_ge (mt full.mpr missed)
      have down : (52 : Int) + ((Nat.log2 numerator : Int) - Nat.log2 denominator - 53) =
          (Nat.log2 numerator : Int) - Nat.log2 denominator - 1 := by omega
      rw [down]
      exact ⟨low, most⟩

/-!
## Rounding a ratio
-/

/-- The number that a significand and an exponent stand for. -/
def size (significand : Nat) (exponent : Int) : ℚ :=
  significand * 2 ^ exponent

/-- Of the forms of a number, the one in which the format has it. -/
structure Canonical (significand : Nat) (exponent : Int) : Prop where
  below : significand < significandBound
  least : minExponent ≤ exponent
  most : exponent ≤ maxExponent
  full : minExponent < exponent → significandBound / 2 ≤ significand

/-- A finite number has the canonical form. -/
def Regular : Binary64 → Prop
  | finite _ significand exponent => Canonical significand exponent
  | infinite _ | nan => True

private theorem regular_zero (negative : Bool) : (zero negative).Regular where
  below := by decide
  least := Int.le_refl _
  most := by decide
  full := fun above => absurd above (Int.lt_irrefl _)

theorem bound_eq : ((significandBound : Nat) : ℚ) = 2 ^ 53 := by norm_num [significandBound]

private theorem zpow_bound (exponent : Int) :
    (2 : ℚ) ^ (53 + exponent) = 2 ^ 53 * 2 ^ exponent := by
  rw [zpow_add₀ two_ne_zero]
  norm_num

private theorem zpow_half (exponent : Int) : (2 : ℚ) ^ (52 + exponent) = 2 ^ 52 * 2 ^ exponent := by
  rw [zpow_add₀ two_ne_zero]
  norm_num

/-- A ratio is rounded with the exponent that fits it, unless that is below the least one. -/
theorem ofRatio_cases (some : numerator ≠ 0) (positive : denominator ≠ 0) (negative : Bool) :
    ∃ (exponent : Int) (whole : Nat), minExponent ≤ exponent ∧
      (minExponent < exponent → (2 ^ 52 * 2 ^ exponent : ℚ) ≤ numerator / denominator) ∧
      (numerator / denominator : ℚ) < 2 ^ 53 * 2 ^ exponent ∧
      Nearest whole (numerator / denominator / 2 ^ exponent) ∧
      ofRatio negative numerator denominator =
        if whole = significandBound then
          if exponent + 1 > maxExponent then infinite negative
          else finite negative (significandBound / 2) (exponent + 1)
        else if exponent > maxExponent then infinite negative
        else finite negative whole exponent := by
  obtain ⟨low, high⟩ := fitted_bounds some positive
  refine ⟨max (fitted numerator denominator) minExponent, _, Int.le_max_right _ _, ?_, ?_,
    nearest_scaledQuotient (Nat.pos_of_ne_zero positive) numerator _, ?_⟩
  · intro above
    have chosen :
        max (fitted numerator denominator) minExponent = fitted numerator denominator := by
      omega
    rwa [chosen, ← zpow_half]
  · rw [← zpow_bound]
    exact lt_of_lt_of_le high (zpow_le_zpow_right₀ one_le_two (by omega))
  · unfold fitted ofRatio
    rw [if_neg some]
    dsimp only
    generalize max _ minExponent = exponent
    by_cases carried : scaledQuotient numerator denominator exponent = significandBound
    · rw [if_pos carried, if_pos carried]
    · rw [if_neg carried, if_neg carried]

private theorem regular_ofRatio (negative : Bool) (numerator : Nat) (positive : denominator ≠ 0) :
    (ofRatio negative numerator denominator).Regular := by
  by_cases none : numerator = 0
  · rw [ofRatio, if_pos none]
    exact regular_zero negative
  obtain ⟨exponent, whole, least, full, high, nearest, result⟩ :=
    ofRatio_cases none positive negative
  have power := two_zpow_pos exponent
  rw [← div_lt_iff₀ power] at high
  rw [result]
  split
  · split
    · trivial
    · exact ⟨by decide, by omega, by omega, fun _ => Nat.le_refl _⟩
  · next uncarried =>
    split
    · trivial
    · refine ⟨?_, least, by omega, fun above => ?_⟩
      · have most : (whole : ℚ) < ((significandBound + 1 : Nat) : ℚ) := by
          rw [Nat.cast_add, bound_eq]
          have low := nearest.low
          push_cast
          linarith
        have near : whole < significandBound + 1 := by exact_mod_cast most
        omega
      · have many := full above
        rw [← le_div_iff₀ power] at many
        have least : ((significandBound / 2 : Nat) : ℚ) < ((whole + 1 : Nat) : ℚ) := by
          have half : ((significandBound / 2 : Nat) : ℚ) = 2 ^ 52 := by norm_num [significandBound]
          rw [half]
          have high := nearest.high
          push_cast
          linarith
        have near : significandBound / 2 < whole + 1 := by exact_mod_cast least
        omega

theorem regular_ofScaled (negative : Bool) (coefficient : Nat) (exponent : Int) :
    (ofScaled negative coefficient exponent).Regular := by
  unfold ofScaled
  dsimp only
  split
  · exact regular_zero negative
  split
  · trivial
  split
  · exact regular_ofRatio negative _ Nat.one_ne_zero
  · exact regular_ofRatio negative _ (Nat.pow_pos (by decide)).ne'

/-!
## What is rounded to a number
-/

/-- Where the interval around a number begins, in units of its last digit below it: half of one, or
half of what it is below the number if that is a power of two. -/
def reach (significand : Nat) (exponent : Int) : ℚ :=
  if significand = significandBound / 2 ∧ minExponent < exponent then 1 / 4 else 1 / 2

def lowEnd (significand : Nat) (exponent : Int) : ℚ :=
  (significand - reach significand exponent) * 2 ^ exponent

def highEnd (significand : Nat) (exponent : Int) : ℚ :=
  (significand + 1 / 2) * 2 ^ exponent

/-- A number lies in the interval of numbers that are rounded to a floating-point number. The ends
belong to it if the significand is even. -/
structure Covers (significand : Nat) (exponent : Int) (number : ℚ) : Prop where
  low : lowEnd significand exponent ≤ number
  high : number ≤ highEnd significand exponent
  tie : significand % 2 = 1 →
    lowEnd significand exponent < number ∧ number < highEnd significand exponent

section

variable {significand : Nat} {exponent : Int} {number : ℚ}

theorem reach_le (significand : Nat) (exponent : Int) : reach significand exponent ≤ 1 / 2 := by
  unfold reach
  split <;> norm_num

theorem lowEnd_ge (significand : Nat) (exponent : Int) :
    (significand - 1 / 2) * 2 ^ exponent ≤ lowEnd significand exponent := by
  have near := reach_le significand exponent
  exact mul_le_mul_of_nonneg_right (by linarith) (two_zpow_pos exponent).le

theorem half_bound : ((significandBound / 2 : Nat) : ℚ) = 2 ^ 52 := by norm_num [significandBound]

private theorem highEnd_le (below : significand < significandBound) (exponent : Int) :
    highEnd significand exponent ≤ (2 ^ 53 - 1 / 2) * 2 ^ exponent := by
  have step : (significand : ℚ) + 1 ≤ 2 ^ 53 := by
    rw [← bound_eq]
    exact_mod_cast below
  exact mul_le_mul_of_nonneg_right (by linarith) (two_zpow_pos exponent).le

private theorem lowEnd_power (above : minExponent < exponent) :
    lowEnd (significandBound / 2) exponent = (2 ^ 52 - 1 / 4) * 2 ^ exponent := by
  rw [lowEnd, reach, if_pos ⟨rfl, above⟩, half_bound]

/-- In units of the last digit, what is rounded to a number is next to its significand. -/
theorem Covers.nearest (covers : Covers significand exponent number) :
    Nearest significand (number / 2 ^ exponent) := by
  have power := two_zpow_pos exponent
  have low := le_trans (lowEnd_ge significand exponent) covers.low
  refine ⟨(le_div_iff₀ power).mpr low, (div_le_iff₀ power).mpr covers.high, fun odd => ?_⟩
  obtain ⟨above, below⟩ := covers.tie odd
  exact ⟨(lt_div_iff₀ power).mpr (lt_of_le_of_lt (lowEnd_ge significand exponent) above),
    (div_lt_iff₀ power).mpr below⟩

private theorem two_mul_zpow_le {less more : Int} (below : less < more) :
    (2 : ℚ) * 2 ^ less ≤ 2 ^ more := by
  rw [← zpow_one_add₀ two_ne_zero]
  exact zpow_le_zpow_right₀ one_le_two (by omega)

private theorem ofRatio_of_covers (canonical : Canonical significand exponent) (some : numerator ≠ 0)
    (positive : denominator ≠ 0)
    (covers : Covers significand exponent (numerator / denominator)) (negative : Bool) :
    ofRatio negative numerator denominator = finite negative significand exponent := by
  obtain ⟨chosen, whole, least, full, below, nearest, result⟩ :=
    ofRatio_cases some positive negative
  generalize (numerator / denominator : ℚ) = number at covers full below nearest
  have power := two_zpow_pos exponent
  rw [result]
  rcases lt_trichotomy chosen exponent with smaller | rfl | larger
  · -- the number is a power of two, and the ratio has one digit more just below it
    have many := canonical.full (by omega)
    have step := two_mul_zpow_le smaller
    have low := covers.low
    have least : significand = significandBound / 2 := by
      by_contra differs
      have beyond : (2 : ℚ) ^ 52 + 1 ≤ significand := by
        rw [← half_bound]
        exact_mod_cast Nat.lt_of_le_of_ne many (Ne.symm differs)
      have further : (2 ^ 52 + 1 / 2 : ℚ) * 2 ^ exponent ≤ lowEnd significand exponent :=
        le_trans (mul_le_mul_of_nonneg_right (by linarith) power.le)
          (lowEnd_ge significand exponent)
      linarith
    subst least
    rw [lowEnd_power (by omega)] at low
    have next : exponent = 1 + chosen := by
      by_contra further
      have twice := two_mul_zpow_le (show chosen < exponent - 1 by omega)
      have again := two_mul_zpow_le (show exponent - 1 < exponent by omega)
      linarith
    subst next
    rw [zpow_one_add₀ two_ne_zero] at low
    have small := two_zpow_pos chosen
    have carried : Nearest significandBound (number / 2 ^ chosen) := by
      refine ⟨?_, ?_, fun odd => absurd odd (by decide)⟩
      · rw [bound_eq, le_div_iff₀ small]
        linarith
      · rw [bound_eq, div_le_iff₀ small]
        linarith
    have most := canonical.most
    rw [if_pos (nearest.unique carried), if_neg (by omega), Int.add_comm]
  · have same := nearest.unique covers.nearest
    have below := canonical.below
    have most := canonical.most
    subst same
    rw [if_neg (by omega), if_neg (by omega)]
  · have step := two_mul_zpow_le larger
    have many := full (by have := canonical.least; omega)
    have most := le_trans covers.high (highEnd_le canonical.below exponent)
    linarith

/-- What is next to a significand, and not below a power of two, is rounded to it. -/
theorem covers_of_nearest (nearest : Nearest significand (number / 2 ^ exponent))
    (full : significand = significandBound / 2 → minExponent < exponent →
      (2 : ℚ) ^ 52 * 2 ^ exponent ≤ number) : Covers significand exponent number := by
  have power := two_zpow_pos exponent
  have low := (le_div_iff₀ power).mp nearest.low
  have high := (div_le_iff₀ power).mp nearest.high
  by_cases least : significand = significandBound / 2 ∧ minExponent < exponent
  · obtain ⟨rfl, above⟩ := least
    refine ⟨?_, high, fun odd => absurd odd (by decide)⟩
    have beyond := full rfl above
    rw [lowEnd_power above]
    linarith
  · have half : lowEnd significand exponent = (significand - 1 / 2) * 2 ^ exponent := by
      rw [lowEnd, reach, if_neg least]
    refine ⟨half ▸ low, high, fun odd => ?_⟩
    obtain ⟨above, below⟩ := nearest.tie odd
    exact ⟨half ▸ (lt_div_iff₀ power).mp above, (div_lt_iff₀ power).mp below⟩

private theorem covers_of_ofRatio {negative sign : Bool} (some : numerator ≠ 0) (positive : denominator ≠ 0)
    (rounded : ofRatio negative numerator denominator = finite sign significand exponent) :
    Covers significand exponent (numerator / denominator) := by
  obtain ⟨chosen, whole, least, full, below, nearest, result⟩ :=
    ofRatio_cases some positive negative
  rw [rounded] at result
  generalize (numerator / denominator : ℚ) = number at full below nearest ⊢
  split at result
  · next carried =>
      split at result
      · cases result
      · cases result
        have low := (le_div_iff₀ (two_zpow_pos chosen)).mp nearest.low
        have next : (2 : ℚ) ^ (chosen + 1) = 2 * 2 ^ chosen := by
          rw [Int.add_comm, zpow_one_add₀ two_ne_zero]
        have power := two_zpow_pos chosen
        rw [carried, bound_eq] at low
        refine ⟨?_, ?_, fun odd => absurd odd (by decide)⟩
        · rw [lowEnd_power (by omega), next]
          linarith
        · rw [highEnd, half_bound, next]
          linarith
  · split at result
    · cases result
    · cases result
      exact covers_of_nearest nearest fun _ => full

/-- The numbers that are rounded to a smaller number lie below those that are rounded to a larger
one. -/
theorem highEnd_le_lowEnd {larger : Nat} {scale : Int} (canonical : Canonical significand exponent)
    (other : Canonical larger scale) (below : size significand exponent < size larger scale) :
    highEnd significand exponent ≤ lowEnd larger scale := by
  have power := two_zpow_pos exponent
  unfold size at below
  rcases lt_trichotomy exponent scale with smaller | rfl | greater
  · have many := other.full (by have := canonical.least; omega)
    have step := two_mul_zpow_le smaller
    have high := highEnd_le canonical.below exponent
    have low := lowEnd_ge larger scale
    rcases Nat.eq_or_lt_of_le many with same | more
    · rw [← same, lowEnd_power (by have := canonical.least; omega)]
      linarith
    · have beyond : (2 : ℚ) ^ 52 + 1 ≤ larger := by
        rw [← half_bound]
        exact_mod_cast more
      have further := mul_le_mul_of_nonneg_right beyond (two_zpow_pos scale).le
      linarith
  · have less : significand < larger := by
      exact_mod_cast lt_of_mul_lt_mul_right below power.le
    have step : (significand : ℚ) + 1 ≤ larger := by exact_mod_cast less
    refine le_trans ?_ (lowEnd_ge larger exponent)
    exact mul_le_mul_of_nonneg_right (by linarith) power.le
  · have many := canonical.full (by have := other.least; omega)
    have step := two_mul_zpow_le greater
    have high := highEnd_le other.below scale
    have beyond : (2 : ℚ) ^ 52 ≤ significand := by
      rw [← half_bound]
      exact_mod_cast many
    have further := mul_le_mul_of_nonneg_right beyond power.le
    unfold highEnd at high
    have small := two_zpow_pos scale
    linarith

theorem size_lt_highEnd (significand : Nat) (exponent : Int) :
    size significand exponent < highEnd significand exponent :=
  mul_lt_mul_of_pos_right (by linarith) (two_zpow_pos exponent)

private theorem lowEnd_lt_size (significand : Nat) (exponent : Int) :
    lowEnd significand exponent < size significand exponent := by
  refine mul_lt_mul_of_pos_right ?_ (two_zpow_pos exponent)
  have some : 0 < reach significand exponent := by
    unfold reach
    split <;> norm_num
  linarith

/-- What is rounded to a number that is not zero is positive. -/
theorem Covers.half_le (covers : Covers significand exponent number) (nonzero : significand ≠ 0) :
    (2 : ℚ) ^ exponent / 2 ≤ number := by
  have some : (1 : ℚ) ≤ significand := by exact_mod_cast Nat.one_le_iff_ne_zero.mpr nonzero
  have further := mul_le_mul_of_nonneg_right some (two_zpow_pos exponent).le
  have low := le_trans (lowEnd_ge significand exponent) covers.low
  linarith

theorem covers_size (significand : Nat) (exponent : Int) :
    Covers significand exponent (size significand exponent) :=
  ⟨(lowEnd_lt_size significand exponent).le, (size_lt_highEnd significand exponent).le,
    fun _ => ⟨lowEnd_lt_size significand exponent, size_lt_highEnd significand exponent⟩⟩

/-- Two numbers of the format whose intervals have a number in common are one. -/
theorem eq_of_covers {other : Nat} {scale : Int} (canonical : Canonical significand exponent)
    (nonzero : significand ≠ 0) (another : Canonical other scale)
    (covers : Covers significand exponent number) (again : Covers other scale number) :
    significand = other ∧ exponent = scale := by
  have positive : 0 < number := by
    have low := covers.half_le nonzero
    have power := two_zpow_pos exponent
    linarith
  have some : number.num.toNat ≠ 0 := by
    have top := Rat.num_pos.mpr positive
    omega
  rw [← cast_parts positive.le] at covers again
  have rounded := ofRatio_of_covers canonical some number.den_ne_zero covers false
  rw [ofRatio_of_covers another some number.den_ne_zero again false] at rounded
  cases rounded
  exact ⟨rfl, rfl⟩

private theorem tiny_lt : (10 : ℚ) ^ (-331 : Int) < 2 ^ (-1074 : Int) / 2 := by
  have powers : 2 * 2 ^ 1074 < 10 ^ 331 := by decide +kernel
  have most : (2 * 2 ^ 1074 : ℚ) < 10 ^ 331 := by exact_mod_cast powers
  have flipped : (2 : ℚ) ^ (-1074 : Int) / 2 = (2 * 2 ^ 1074)⁻¹ := by
    rw [mul_inv, mul_comm, zpow_neg, div_eq_mul_inv]
    rfl
  rw [flipped, zpow_neg]
  exact inv_strictAnti₀ (mul_pos two_pos (pow_pos two_pos 1074)) most

private theorem huge_lt : (2 ^ 53 : ℚ) * 2 ^ (971 : Int) < 10 ^ (310 : Int) := by
  have powers : 2 ^ 53 * 2 ^ 971 < 10 ^ 310 := by decide +kernel
  exact_mod_cast powers

private theorem ofScaled_eq_ofRatio {coefficient : Nat} {unit : Int} (some : coefficient ≠ 0)
    (large : ¬(digitCount coefficient : Int) + unit < -330)
    (small : ¬(digitCount coefficient : Int) + unit > 310) (negative : Bool) :
    ∃ top bottom : Nat, top ≠ 0 ∧ bottom ≠ 0 ∧
      (top / bottom : ℚ) = Decimal.magnitude coefficient unit ∧
      ofScaled negative coefficient unit = ofRatio negative top bottom := by
  unfold ofScaled
  rw [if_neg (by simp [some, large]), if_neg small]
  split
  · next whole =>
      obtain ⟨power, rfl⟩ := Int.eq_ofNat_of_zero_le whole
      refine ⟨_, 1, Nat.mul_ne_zero some (Nat.pow_pos (by decide)).ne', Nat.one_ne_zero, ?_, rfl⟩
      rw [Nat.cast_one, div_one, Decimal.magnitude_natural]
      rfl
  · next fractional =>
      obtain ⟨power, rfl⟩ : ∃ power : Nat, unit = -(power : Int) := ⟨(-unit).toNat, by omega⟩
      refine ⟨_, _, some, (Nat.pow_pos (by decide)).ne', ?_, rfl⟩
      rw [neg_neg, Int.toNat_natCast, Decimal.magnitude, zpow_neg, zpow_natCast, ← div_eq_mul_inv]
      push_cast
      rfl

/-- Every decimal in the interval of a number is rounded to it. -/
theorem ofScaled_of_covers {coefficient : Nat} {unit : Int}
    (canonical : Canonical significand exponent) (nonzero : significand ≠ 0)
    (covers : Covers significand exponent (Decimal.magnitude coefficient unit)) (negative : Bool) :
    ofScaled negative coefficient unit = finite negative significand exponent := by
  have low := covers.half_le nonzero
  have power := two_zpow_pos exponent
  have some : coefficient ≠ 0 := by
    rintro rfl
    rw [Decimal.magnitude_eq_zero_iff.mpr rfl] at low
    linarith
  -- the number of digits tells the size well enough
  have large : ¬(digitCount coefficient : Int) + unit < -330 := by
    intro small
    have least : (2 : ℚ) ^ (-1074 : Int) ≤ 2 ^ exponent :=
      zpow_le_zpow_right₀ one_le_two canonical.least
    have most : (10 : ℚ) ^ ((digitCount coefficient : Int) + unit) ≤ 10 ^ (-331 : Int) :=
      zpow_le_zpow_right₀ (by norm_num) (by omega)
    have below := Decimal.magnitude_lt coefficient unit
    have apart := tiny_lt
    generalize (2 : ℚ) ^ (-1074 : Int) = tiny at least apart
    linarith
  have small : ¬(digitCount coefficient : Int) + unit > 310 := by
    intro large
    have most : (2 : ℚ) ^ exponent ≤ 2 ^ (971 : Int) :=
      zpow_le_zpow_right₀ one_le_two canonical.most
    have least : (10 : ℚ) ^ (310 : Int) ≤ 10 ^ ((digitCount coefficient : Int) + unit - 1) :=
      zpow_le_zpow_right₀ (by norm_num) (by omega)
    have above := Decimal.le_magnitude some unit
    have high := le_trans covers.high (highEnd_le canonical.below exponent)
    have apart := huge_lt
    generalize (2 : ℚ) ^ (971 : Int) = huge at most apart
    generalize (10 : ℚ) ^ (310 : Int) = top at least apart
    linarith
  obtain ⟨top, bottom, filled, proper, same, rounded⟩ :=
    ofScaled_eq_ofRatio some large small negative
  rw [← same] at covers
  rw [rounded]
  exact ofRatio_of_covers canonical filled proper covers negative

/-- A decimal lies in the interval of the number that it is rounded to. -/
theorem covers_of_ofScaled {coefficient : Nat} {unit : Int} {negative sign : Bool}
    (nonzero : significand ≠ 0)
    (rounded : ofScaled negative coefficient unit = finite sign significand exponent) :
    Covers significand exponent (Decimal.magnitude coefficient unit) := by
  have some : coefficient ≠ 0 := by
    rintro rfl
    cases rounded
    exact nonzero rfl
  have large : ¬(digitCount coefficient : Int) + unit < -330 := by
    intro small
    rw [ofScaled, if_pos (by simp [small])] at rounded
    cases rounded
    exact nonzero rfl
  have small : ¬(digitCount coefficient : Int) + unit > 310 := by
    intro far
    rw [ofScaled, if_neg (by simp [some, large]), if_pos far] at rounded
    cases rounded
  obtain ⟨top, bottom, filled, proper, same, ratio⟩ :=
    ofScaled_eq_ofRatio some large small negative
  rw [← same]
  exact covers_of_ofRatio filled proper (ratio ▸ rounded)

end

end Binary64

end Rollout.Number
