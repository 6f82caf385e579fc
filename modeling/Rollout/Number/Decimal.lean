import Rollout.Number.Rounding

/-!
# Decimal numbers

Numbers `coefficient * 10 ^ exponent` of any size, kept with the exponent they were given, so
that `1.0` and `1` differ as terms and agree as numbers.
-/

set_option autoImplicit false

namespace Rollout.Number

/-- A finite decimal with its sign, an infinity, or no number with a diagnostic payload. -/
inductive Decimal where
  | finite (negative : Bool) (coefficient : Nat) (exponent : Int)
  | infinite (negative : Bool)
  | nan (negative signaling : Bool) (payload : Nat)
deriving DecidableEq, Repr

namespace Decimal

def ofInt (value : Int) : Decimal :=
  finite (value < 0) value.natAbs 0

def withSign (negative : Bool) (text : List Char) : List Char :=
  if negative then '-' :: text else text

/-- The exponent as the scientific text shows it, with its sign. -/
def exponentMark (exponent : Int) : List Char :=
  'E' :: (if exponent < 0 then '-' else '+') :: digits exponent.natAbs

/-- The scientific text: positional where no digit is left of the point or beyond the sixth
place after it, else one digit before the point and an exponent. -/
def printFinite (coefficient : Nat) (exponent : Int) : List Char :=
  let text := digits coefficient
  let point := (text.length : Int) + exponent
  if exponent ≤ 0 ∧ point > -6 then
    if point ≤ 0 then '0' :: '.' :: zeros (-point).toNat ++ text
    else if exponent = 0 then text
    else text.take point.toNat ++ '.' :: text.drop point.toNat
  else
    let mantissa := if text.length > 1 then text.take 1 ++ '.' :: text.drop 1 else text
    if point = 1 then mantissa else mantissa ++ exponentMark (point - 1)

/-- The scientific text of a decimal. -/
def print : Decimal → String
  | finite negative coefficient exponent =>
      String.ofList (withSign negative (printFinite coefficient exponent))
  | infinite negative => String.ofList (withSign negative "Infinity".toList)
  | nan negative signaling payload =>
      let name := if signaling then "sNaN".toList else "NaN".toList
      let shown := if payload = 0 then [] else digits payload
      String.ofList (withSign negative (name ++ shown))

/-- Fixed notation without an exponent, and without zeros at the end of the fraction. -/
def printPlain (negative : Bool) (coefficient : Nat) (exponent : Int) : String :=
  let body :=
    if coefficient = 0 then ['0']
    else if exponent ≥ 0 then digits coefficient ++ zeros exponent.toNat
    else
      let (stripped, dropped) := stripZeros (-exponent).toNat coefficient
      let places := (-exponent).toNat - dropped
      let text := digits stripped
      let text := zeros (places + 1 - text.length) ++ text
      let point := text.length - places
      if places = 0 then text else text.take point ++ '.' :: text.drop point
  String.ofList (withSign negative body)

end Decimal

end Rollout.Number
