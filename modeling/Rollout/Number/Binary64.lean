import Rollout.Number.Rounding

/-!
# Binary floating-point numbers of 64 bits

Numbers `significand * 2 ^ exponent` in exact arithmetic. The significand has at most 53 bits,
the exponent lies between -1074 and 971, and of the forms of one number the one with the
smallest exponent is used, so that equal numbers other than the two zeros are equal terms.
-/

set_option autoImplicit false

namespace Rollout.Number

/-- A number of the format, one of its infinities, or no number. -/
inductive Binary64 where
  | finite (negative : Bool) (significand : Nat) (exponent : Int)
  | infinite (negative : Bool)
  | nan
deriving DecidableEq, Repr

namespace Binary64

def minExponent : Int := -1074

def maxExponent : Int := 971

/-- Significands stay below this bound. -/
def significandBound : Nat := Nat.pow 2 53

def zero (negative : Bool) : Binary64 :=
  finite negative 0 minExponent

/-- The quotient of a positive ratio and a power of two, rounded to a whole number. -/
def scaledQuotient (numerator denominator : Nat) (exponent : Int) : Nat :=
  if exponent ≥ 0 then divideNearest numerator (denominator * Nat.pow 2 exponent.toNat)
  else divideNearest (numerator * Nat.pow 2 (-exponent).toNat) denominator

/-- The same quotient, rounded down. -/
def scaledFloor (numerator denominator : Nat) (exponent : Int) : Nat :=
  if exponent ≥ 0 then numerator / (denominator * Nat.pow 2 exponent.toNat)
  else numerator * Nat.pow 2 (-exponent).toNat / denominator

/-- The nearest number to a ratio; a tie goes to the even significand, and what lies beyond the
largest number is infinite. The first guess at the exponent is right or one too small. -/
def ofRatio (negative : Bool) (numerator denominator : Nat) : Binary64 :=
  if numerator = 0 then zero negative
  else
    let guess : Int := (Nat.log2 numerator : Int) - Nat.log2 denominator - 53
    let fitted :=
      if scaledFloor numerator denominator guess ≥ significandBound then guess + 1 else guess
    let exponent := max fitted minExponent
    let significand := scaledQuotient numerator denominator exponent
    let (significand, exponent) :=
      if significand = significandBound then (significandBound / 2, exponent + 1)
      else (significand, exponent)
    if exponent > maxExponent then infinite negative
    else finite negative significand exponent

/-- The nearest number to `coefficient * 10 ^ exponent`. Magnitudes far outside the format are
recognised by their digit count alone. -/
def ofScaled (negative : Bool) (coefficient : Nat) (exponent : Int) : Binary64 :=
  let magnitude := (digitCount coefficient : Int) + exponent
  if coefficient = 0 || magnitude < -330 then zero negative
  else if magnitude > 310 then infinite negative
  else if exponent ≥ 0 then ofRatio negative (coefficient * Nat.pow 10 exponent.toNat) 1
  else ofRatio negative coefficient (Nat.pow 10 (-exponent).toNat)

/-- Whether the number is zero, of either sign. -/
def isZero : Binary64 → Bool
  | finite _ significand _ => significand = 0
  | _ => false

/-- The numerator and denominator of `significand * 2 ^ exponent`. -/
def ratio (significand : Nat) (exponent : Int) : Nat × Nat :=
  if exponent ≥ 0 then (significand * Nat.pow 2 exponent.toNat, 1)
  else (significand, Nat.pow 2 (-exponent).toNat)

/-- The whole part of a finite number, toward zero. -/
def truncate? : Binary64 → Option Int
  | finite negative significand exponent =>
      let (numerator, denominator) := ratio significand exponent
      let magnitude := numerator / denominator
      some (if negative then -Int.ofNat magnitude else Int.ofNat magnitude)
  | _ => none

/-- The integer that a number is, if it is one. -/
def toInt? : Binary64 → Option Int
  | finite negative significand exponent =>
      let (numerator, denominator) := ratio significand exponent
      if numerator % denominator = 0 then
        (finite negative significand exponent).truncate?
      else none
  | _ => none

end Binary64

end Rollout.Number
