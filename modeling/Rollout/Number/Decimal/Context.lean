import Rollout.Number.Decimal

/-!
# Decimal arithmetic of limited precision

Results have at most 28 digits and an exponent of the leading digit up to 999999. Rounding goes
to nearest, ties to even. What is too large overflows; what is too small loses digits.
-/

set_option autoImplicit false

namespace Rollout.Number.Decimal

/-- The most digits of a result. -/
def precision : Nat := 28

/-- The largest exponent of a leading digit. -/
def maxExponent : Int := 999999

/-- The exponent of the last digit of the smallest result. -/
def tinyExponent : Int := -999999 - precision + 1

/-- A coefficient rounded at a power of ten above its unit. More places than it has digits
leave nothing, and are not computed. -/
def roundAt (coefficient places : Nat) : Nat :=
  if places > digitCount coefficient then 0 else divideNearest coefficient (Nat.pow 10 places)

/-- A coefficient that rounding carried to one digit too many is a power of ten. -/
def carry (coefficient : Nat) (exponent : Int) : Nat × Int :=
  if digitCount coefficient > precision then (coefficient / 10, exponent + 1)
  else (coefficient, exponent)

/-- The result that stands for `coefficient * 10 ^ exponent`, or nothing on overflow. -/
def fit? (coefficient : Nat) (exponent : Int) : Option (Nat × Int) :=
  if coefficient = 0 then some (0, min (max exponent tinyExponent) maxExponent)
  else
    let leading := (digitCount coefficient : Int) + exponent - 1
    if leading > maxExponent then none
    else
      let unit := max ((digitCount coefficient : Int) + exponent - precision) tinyExponent
      if exponent ≥ unit then some (coefficient, exponent)
      else
        let (rounded, unit) := carry (roundAt coefficient (unit - exponent).toNat) unit
        if (digitCount rounded : Int) + unit - 1 > maxExponent then none
        else some (rounded, unit)

/-- The exponent after rounding once zeros at the end are dropped; that of zero is zero. -/
def normalExponent? (coefficient : Nat) (exponent : Int) : Option Int :=
  (fit? coefficient exponent).map fun (rounded, unit) =>
    if rounded = 0 then 0
    else
      let room := (maxExponent - unit).toNat
      unit + (stripZeros (min room precision) rounded).2

/-- Whether `coefficient * 10 ^ exponent` is greater than a whole number. -/
def exceeds (coefficient : Nat) (exponent : Int) (bound : Nat) : Bool :=
  if exponent ≥ 0 then coefficient * Nat.pow 10 exponent.toNat > bound
  else coefficient > bound * Nat.pow 10 (-exponent).toNat

/-- Whether the number, scaled by a power of ten and rounded, is greater than a whole number;
nothing on overflow. -/
def scaledExceeds? (coefficient : Nat) (exponent : Int) (places bound : Nat) : Option Bool :=
  (fit? coefficient (exponent + places)).map fun (rounded, unit) => exceeds rounded unit bound

end Rollout.Number.Decimal
