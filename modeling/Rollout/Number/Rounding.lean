/-!
# Rounding and counting digits

Division to the nearest whole number, and the decimal digits of a natural number.
-/

set_option autoImplicit false

namespace Rollout.Number

/-- The nearest whole quotient; a tie goes to the even one. -/
def divideNearest (numerator denominator : Nat) : Nat :=
  let quotient := numerator / denominator
  let twice := 2 * (numerator % denominator)
  if twice > denominator || (twice == denominator && quotient % 2 == 1) then quotient + 1
  else quotient

/-- Decimal digits, the most significant first. Zero has one digit. -/
def digits (value : Nat) : List Char :=
  Nat.toDigits 10 value

def digitCount (value : Nat) : Nat :=
  (digits value).length

/-- The number that decimal digits stand for, the most significant first. -/
def ofDigits (values : List Nat) : Nat :=
  values.foldl (fun total value => 10 * total + value) 0

def zeros (count : Nat) : List Char :=
  List.replicate count '0'

/-- A number of at most the given width, padded with zeros on the left. -/
def padded (width value : Nat) : List Char :=
  zeros (width - digitCount value) ++ digits value

/-- Divides by ten while that leaves no remainder, at most so many times, and counts how often. -/
def stripZeros : Nat → Nat → Nat × Nat
  | 0, value => (value, 0)
  | limit + 1, value =>
      if value % 10 = 0 then
        let (stripped, count) := stripZeros limit (value / 10)
        (stripped, count + 1)
      else (value, 0)

end Rollout.Number
