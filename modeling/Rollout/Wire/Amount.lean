import Rollout.Number.Decimal.Context
import Rollout.Number.Decimal.Reader
import Rollout.Wire.Uint

/-!
# Fixed-point amounts as text

Contracts take fractions as decimal text with at most 18 places, whose count of units of
`10 ^ -18` fits 128 bits. Whether it fits, and how many places are needed, is judged in decimal
arithmetic of limited precision.
-/

set_option autoImplicit false

namespace Rollout.Wire

open Rollout.Number

def places : Nat := 18

/-- Whether a text is ASCII digits, at least one, and possibly a point and 1 to 18 further
digits, before at most one line feed. -/
def isDecimalText (text : String) : Bool :=
  let body := withoutFinalNewline text.toList
  let whole := body.takeWhile Char.isDigit
  match body.dropWhile Char.isDigit with
  | [] => !whole.isEmpty
  | '.' :: fraction =>
      !whole.isEmpty && !fraction.isEmpty && fraction.length ≤ places &&
        fraction.all Char.isDigit
  | _ => false

/-- Whether a number has too many units for 128 bits. -/
def exceedsUnits (coefficient : Nat) (exponent : Int) : Except Fault Bool :=
  match Decimal.scaledExceeds? coefficient exponent places maxUint128 with
  | some exceeds => .ok exceeds
  | none => .error .overflow

/-- What an amount is given as: a value, or a decimal number. -/
inductive Quantity where
  | value (given : Value)
  | decimal (given : Decimal)
deriving Repr

def Quantity.literal : Quantity → String
  | value given => given.literal
  | decimal given => "Decimal('" ++ given.print ++ "')"

def Quantity.isQuotable : Quantity → Bool
  | value given => given.isQuotable
  | decimal _ => true

/-- The refusal of a quantity, for which it has to be quoted. -/
def Quantity.refuse (refusal : String → Fault) (quantity : Quantity) : Fault :=
  if quantity.isQuotable then refusal quantity.literal else .number .unwritable

/-- An integer, for which a truth value may stand. -/
def integer? : Value → Option Int
  | .int value => some value
  | .bool value => some (if value then 1 else 0)
  | _ => none

/-- Whether an integer fits a word of 64 bits that holds a sign. -/
def fitsWord (number : Int) : Bool :=
  -9223372036854775808 ≤ number && number ≤ 9223372036854775807

/-- The integer that a part of a decimal is. It has to fit a word. -/
def partOf (flaw : PartsFlaw) (value : Value) : Except Fault Int :=
  match integer? value with
  | some number => if fitsWord number then .ok number else .error .beyondWord
  | none => .error (.parts flaw)

/-- The sign of a decimal, which is negative at 1. -/
def isNegative (sign : Value) : Except Fault Bool := do
  match ← partOf .sign sign with
  | 0 => return false
  | 1 => return true
  | _ => throw (.parts .sign)

/-- A single digit of a coefficient. -/
def coefficientDigit (value : Value) : Except Fault Nat := do
  let digit ← partOf .digits value
  if 0 ≤ digit ∧ digit ≤ 9 then return digit.toNat
  throw (.parts .digits)

def coefficientDigits : Value → Except Fault (List Nat)
  | .list items => items.mapM coefficientDigit
  | _ => .error (.parts .digits)

/-- The decimal of a sign, digits and an exponent, or of a mark in place of the exponent: `F`
for an infinity, `n` and `N` for the two kinds of no number. -/
def ofParts (literal : String) : List Value → Except Fault Decimal
  | [sign, digits, exponent] => do
      let negative ← isNegative sign
      match exponent with
      | .text "F" => (coefficientDigits digits).map fun _ => .infinite negative
      | .text "n" =>
          (coefficientDigits digits).map fun values => .nan negative false (ofDigits values)
      | .text "N" =>
          (coefficientDigits digits).map fun values => .nan negative true (ofDigits values)
      | .text _ => .error (.parts .special)
      | other =>
          let power ← partOf .exponent other
          let values ← coefficientDigits digits
          match Decimal.ofScaled? negative (ofDigits values) power with
          | some number => .ok number
          | none => .error (.invalidDecimal literal)
  | _ => .error (.parts .count)

/-- The decimal that a quantity is. Floating-point numbers and truth values are refused. -/
def Quantity.toDecimal (quantity : Quantity) : Except Fault Decimal :=
  match quantity with
  | .decimal given => .ok given
  | .value given =>
      match given with
      | .int number => .ok (Decimal.ofInt number)
      | .text text =>
          match Decimal.read? text with
          | some number => .ok number
          | none => .error (.invalidDecimal given.literal)
      | .float _ | .bool _ => .error (.decimalRequired given.kindName)
      | .list items => ofParts given.literal items
      | .null | .object _ => .error (.notConvertible given.kindName)

/-- A memory, by the most places that a decimal can be written out with in it. The text of an
amount fits every memory, and no decimal has more places than the least exponent gives it. -/
structure Memory where
  places : Nat
  enough : Wire.places ≤ places
  bounded : Decimal.trailingLimit ≤ -(places : Int)
deriving DecidableEq, Repr

/-- A memory of ten gigabytes. -/
def Memory.usual : Memory := ⟨10000000000, by decide, by decide⟩

/-- Writes an amount without an exponent and without zeros at the end of its fraction. -/
def encodeDecimal (memory : Memory) (quantity : Quantity) : Except Fault String := do
  match ← quantity.toDecimal with
  | .finite negative coefficient exponent =>
      if negative && coefficient != 0 then .error (quantity.refuse .improperDecimal)
      else
        match Decimal.normalExponent? coefficient exponent with
        | none => .error .overflow
        | some last =>
            if last < -(places : Int) then .error (quantity.refuse .tooManyPlaces)
            else if exponent < -(memory.places : Int) then .error .decimalTooLong
            else if ← exceedsUnits coefficient exponent then
              .error (quantity.refuse .decimalOutOfRange)
            else return Decimal.printPlain negative coefficient exponent
  | _ => .error (quantity.refuse .improperDecimal)

end Rollout.Wire
