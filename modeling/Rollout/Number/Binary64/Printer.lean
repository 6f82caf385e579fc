import Rollout.Number.Binary64

/-!
# Floating-point numbers as text

The shortest text is made of the fewest decimal digits that still round to the number, and of
those the nearest. It is positional for magnitudes from `10 ^ -4` up to `10 ^ 16`. The fixed
text has six digits after the point.
-/

set_option autoImplicit false

namespace Rollout.Number.Binary64

/-- Ratios `value`, `low` and `high` over one denominator: a number and the bounds of what rounds
to it. Below a power of two the neighbours are closer. -/
structure Interval where
  value : Nat
  low : Nat
  high : Nat
  denominator : Nat
  closed : Bool

/-- The interval of a positive number. -/
def interval (significand : Nat) (exponent : Int) : Interval :=
  let below := if significand = significandBound / 2 ∧ exponent > minExponent then 1 else 2
  let (unit, denominator) := ratio 1 (exponent - 2)
  { value := 4 * significand * unit
    low := (4 * significand - below) * unit
    high := (4 * significand + 2) * unit
    denominator
    closed := significand % 2 = 0 }

/-- Whether a ratio rounds to the number of the interval. -/
def Interval.contains (range : Interval) (numerator denominator : Nat) : Bool :=
  let scaled := numerator * range.denominator
  let low := range.low * denominator
  let high := range.high * denominator
  if range.closed then low ≤ scaled && scaled ≤ high else low < scaled && scaled < high

/-- A power of ten as a ratio. -/
def tenPower (exponent : Int) : Nat × Nat :=
  if exponent ≥ 0 then (Nat.pow 10 exponent.toNat, 1) else (1, Nat.pow 10 (-exponent).toNat)

/-- The place of the leading digit: the least power of ten above the number. Scaling by a fixed
power makes every number of the format whole enough to count its digits. -/
def leadingPlace (range : Interval) : Int :=
  (digitCount (range.value * Nat.pow 10 400 / range.denominator) : Int) - 400

/-- The multiple of a power of ten next to the number, if one rounds to it: the nearer of the
two neighbours, and of two equally near the even one. -/
def gridPoint? (range : Interval) (exponent : Int) : Option Nat :=
  let (up, down) := tenPower exponent
  let scaledValue := range.value * down
  let step := range.denominator * up
  let below := scaledValue / step
  let hits (multiple : Nat) : Bool := range.contains (multiple * up) down
  let nearest := divideNearest scaledValue step
  let other := if nearest = below then below + 1 else below
  if hits nearest then some nearest
  else if hits other then some other
  else none

/-- The shortest decimal `coefficient * 10 ^ exponent` that rounds to a positive number. -/
def shortest (significand : Nat) (exponent : Int) : Nat × Int :=
  let range := interval significand exponent
  let place := leadingPlace range
  let attempt (count : Nat) : Option (Nat × Int) :=
    let unit := place - count
    (gridPoint? range unit).map fun multiple =>
      let (stripped, dropped) := stripZeros 17 multiple
      (stripped, unit + dropped)
  ((List.range 17).findSome? fun index => attempt (index + 1)).getD (significand, exponent)

/-- Digits with the point after the given count of them, at least one on each side. -/
def positional (text : List Char) (point : Int) : List Char :=
  if point ≤ 0 then '0' :: '.' :: zeros (-point).toNat ++ text
  else if point.toNat ≥ text.length then text ++ zeros (point.toNat - text.length) ++ ['.', '0']
  else text.take point.toNat ++ '.' :: text.drop point.toNat

/-- One digit, the others after the point, and the exponent with its sign and two digits. -/
def scientific (text : List Char) (exponent : Int) : List Char :=
  let fraction := if text.length > 1 then '.' :: text.drop 1 else []
  text.take 1 ++ fraction ++ 'e' :: (if exponent < 0 then '-' else '+') ::
    padded 2 exponent.natAbs

/-- The shortest text of a number. -/
def print : Binary64 → String
  | nan => "nan"
  | infinite negative => if negative then "-inf" else "inf"
  | finite negative significand exponent =>
      let body :=
        if significand = 0 then ['0', '.', '0']
        else
          let (coefficient, unit) := shortest significand exponent
          let text := digits coefficient
          let point := (text.length : Int) + unit
          if -4 < point ∧ point ≤ 16 then positional text point else scientific text (point - 1)
      String.ofList (if negative then '-' :: body else body)

/-- The text with six digits after the point, rounded to nearest. -/
def printFixed : Binary64 → String
  | nan => "nan"
  | infinite negative => if negative then "-inf" else "inf"
  | finite negative significand exponent =>
      let (numerator, denominator) := ratio significand exponent
      let millionths := divideNearest (numerator * 1000000) denominator
      let body := digits (millionths / 1000000) ++ '.' :: padded 6 (millionths % 1000000)
      String.ofList (if negative then '-' :: body else body)

end Rollout.Number.Binary64
