import Rollout.Number.Binary64.Reader
import Rollout.Number.Decimal

/-!
# Decimal numbers from text

A sign, digits of any script with a point and an exponent, or the name of an infinity or of no
number. Blanks may stand around the whole and underscores anywhere. Numbers whose exponent
cannot be represented are refused.
-/

set_option autoImplicit false

namespace Rollout.Number.Decimal

open Rollout.Text

/-- The largest exponent that a leading digit may have. -/
def leadingLimit : Int := 999999999999999999

/-- The smallest exponent that a last digit may have. -/
def trailingLimit : Int := -1999999999999999997

/-- A finite number, unless its exponent is out of bounds. -/
def ofScaled? (negative : Bool) (coefficient : Nat) (exponent : Int) : Option Decimal :=
  if (digitCount coefficient : Int) + exponent - 1 > leadingLimit || exponent < trailingLimit then
    none
  else some (finite negative coefficient exponent)

/-- The name at the front of a text, whatever the case of its letters, and what follows. -/
def afterName? (name : String) (text : List Char) : Option (List Char) :=
  let count := name.toList.length
  if (text.take count).map Char.toLower = name.toList then some (text.drop count) else none

/-- The payload of no number: digits alone, or nothing. -/
def payload? (text : List Char) : Option Nat :=
  match spanDigits text with
  | (values, []) => some (ofDigits values)
  | _ => none

def readMagnitude? (negative : Bool) (text : List Char) : Option Decimal :=
  if Binary64.infinityNames.contains (String.ofList (text.map Char.toLower)) then
    some (infinite negative)
  else
    match afterName? "nan" text, afterName? "snan" text with
    | some rest, _ => (payload? rest).map (nan negative false)
    | none, some rest => (payload? rest).map (nan negative true)
    | none, none => do
        let (values, exponent) ← readScaled text
        ofScaled? negative (ofDigits values) exponent

def read? (text : String) : Option Decimal :=
  let (negative, magnitude) := splitSign ((trim isBlank text.toList).filter (· != '_'))
  readMagnitude? negative magnitude

end Rollout.Number.Decimal
