import Rollout.Number.Binary64
import Rollout.Number.Numeral

/-!
# Floating-point numbers from text

A sign, digits of any script with a point and an exponent, or the name of an infinity or of no
number in any case. Blanks may stand around the whole, single underscores between digits.
-/

set_option autoImplicit false

namespace Rollout.Number

open Rollout.Text

/-- An unsigned decimal: digits with at most one point among or beside them, at least one digit,
and an exponent after the letter `e` of either case. The value is `coefficient * 10 ^ exponent`,
and the digits are kept with it. -/
def readScaled (text : List Char) : Option (List Nat × Int) :=
  let (whole, rest) := spanDigits text
  let (fraction, rest) :=
    match rest with
    | '.' :: others => spanDigits others
    | others => ([], others)
  let values := whole ++ fraction
  let unit : Int := -(fraction.length : Int)
  if values.isEmpty then none
  else
    match rest with
    | [] => some (values, unit)
    | mark :: others =>
        if mark = 'e' || mark = 'E' then
          let (negative, magnitude) := splitSign others
          match spanDigits magnitude with
          | ([], _) => none
          | (exponent, []) => some (values, unit + signed negative (ofDigits exponent))
          | _ => none
        else none

/-- Drops the underscores between digits; there is no answer where one stands elsewhere. -/
def dropUnderscores : (afterDigit : Bool) → List Char → Option (List Char)
  | _, [] => some []
  | afterDigit, '_' :: char :: rest =>
      if afterDigit && (digit? char).isSome then
        (dropUnderscores true rest).map (char :: ·)
      else none
  | _, char :: rest =>
      if char = '_' then none
      else (dropUnderscores (digit? char).isSome rest).map (char :: ·)

namespace Binary64

def infinityNames : List String := ["inf", "infinity"]

def nanName : String := "nan"

/-- Reads a number, rounding what is written to the nearest one. -/
def read? (text : String) : Option Binary64 := do
  let plain ← dropUnderscores false (trim isMargin text.toList)
  let (negative, magnitude) := splitSign plain
  let name := String.ofList (magnitude.map Char.toLower)
  if infinityNames.contains name then return infinite negative
  if name = nanName then return nan
  let (values, exponent) ← readScaled magnitude
  return ofScaled negative (ofDigits values) exponent

end Binary64

end Rollout.Number
