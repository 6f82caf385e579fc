import Rollout.Number.Rounding
import Rollout.Text.Blank
import Rollout.Text.Digit
import Rollout.Text.Quoted

/-!
# Integers written as text

An optional sign and decimal digits of any script, with single underscores between digits and
blanks around the whole. Very long numerals are refused, and very long integers are not written.
-/

set_option autoImplicit false

namespace Rollout.Number

open Rollout.Text

/-- The most digits that a numeral may have, leading zeros included. -/
def digitLimit : Nat := 4300

/-- Why a text is not read as an integer, or an integer not written as a text. -/
inductive NumeralFault where
  | malformed (text : String)
  | tooLong (digits : Nat)
  | unwritable
deriving DecidableEq, Repr

/-- The longest part of a malformed numeral, quotes included, that its message shows. -/
def quotationLimit : Nat := 200

def NumeralFault.message : NumeralFault → String
  | malformed text =>
      "invalid literal for int() with base 10: " ++
        String.ofList ((quoted text).toList.take quotationLimit)
  | tooLong digits =>
      s!"Exceeds the limit ({digitLimit} digits) for integer string conversion: " ++
        s!"value has {digits} digits; use sys.set_int_max_str_digits() to increase the limit"
  | unwritable =>
      s!"Exceeds the limit ({digitLimit} digits) for integer string conversion; " ++
        "use sys.set_int_max_str_digits() to increase the limit"

/-- Whether an integer has few enough digits to be written. -/
def isWritable (number : Int) : Bool :=
  digitCount number.natAbs ≤ digitLimit

def splitSign : List Char → Bool × List Char
  | '-' :: rest => (true, rest)
  | '+' :: rest => (false, rest)
  | text => (false, text)

/-- The digits of a numeral and what follows them. A single underscore may stand between two
digits; there is no answer where one stands elsewhere, or where no digit is found. -/
def digitRun (afterDigit : Bool) : List Char → Option (List Nat × List Char)
  | [] => if afterDigit then some ([], []) else none
  | char :: rest =>
      if char = '_' then
        if afterDigit then digitRun false rest else none
      else
        match digit? char with
        | some value => (digitRun true rest).map fun (values, others) => (value :: values, others)
        | none => if afterDigit then some ([], char :: rest) else none

/-- The digits of any script at the front of a text and what follows them. -/
def spanDigits : List Char → List Nat × List Char
  | [] => ([], [])
  | char :: rest =>
      match digit? char with
      | some value =>
          let (values, others) := spanDigits rest
          (value :: values, others)
      | none => ([], char :: rest)

def signed (negative : Bool) (magnitude : Nat) : Int :=
  if negative then -Int.ofNat magnitude else Int.ofNat magnitude

/-- Reads an integer. The length is judged as soon as the digits end, before what follows. -/
def readInt (text : String) : Except NumeralFault Int :=
  let (negative, magnitude) := splitSign (trim isMargin text.toList)
  match digitRun false magnitude with
  | none => .error (.malformed text)
  | some (values, rest) =>
      if values.length > digitLimit then .error (.tooLong values.length)
      else if rest.isEmpty then .ok (signed negative (ofDigits values))
      else .error (.malformed text)

end Rollout.Number
