import Rollout.Number.Numeral
import Rollout.Wire.Span

/-!
# Faults of wire values

Why a value cannot be written in the form that contracts read, or cannot even be judged.
-/

set_option autoImplicit false

namespace Rollout.Wire

/-- A part of a decimal given by sign, digits and exponent that does not fit. -/
inductive PartsFlaw where
  | count
  | sign
  | special
  | exponent
  | digits
deriving DecidableEq, Repr

def PartsFlaw.text : PartsFlaw → String
  | count => "argument must be a sequence of length 3"
  | sign => "sign must be an integer with the value 0 or 1"
  | special => "string argument in the third position must be 'F', 'n' or 'N'"
  | exponent => "exponent must be an integer"
  | digits => "coefficient must be a tuple of digits"

/-- Why numbers do not make a moment. -/
inductive MomentFault where
  | count
  | year (given : Int)
  | month
  | day
  | part (name : String) (last : Nat)
  | offset (microseconds : Int)
deriving DecidableEq, Repr

def MomentFault.text : MomentFault → String
  | count => "a moment has a year, a month, a day and up to four parts of a time"
  | year given => s!"year {given} is out of range"
  | month => "month must be in 1..12"
  | day => "day is out of range for month"
  | part name last => s!"{name} must be in 0..{last}"
  | offset microseconds =>
      "offset must be a timedelta strictly between -timedelta(hours=24) and " ++
        s!"timedelta(hours=24), not {(Span.ofMicroseconds microseconds).text}."

/-- A fault. Values are quoted by their literals, kinds by their names. -/
inductive Fault where
  | number (fault : Number.NumeralFault)
  | notAscii
  | overflow
  | unrepresentable
  | beyondWord
  | integerRequired (kind : String)
  | decimalRequired (kind : String)
  | notConvertible (kind : String)
  | octetsRequired (kind : String)
  | parts (flaw : PartsFlaw)
  | integerOutOfRange (value : Int)
  | invalidDecimal (literal : String)
  | improperDecimal (literal : String)
  | tooManyPlaces (literal : String)
  | decimalTooLong
  | decimalOutOfRange (literal : String)
  | noMoment (fault : MomentFault)
  | beforeEpoch (moment : String)
deriving DecidableEq, Repr

def Fault.message : Fault → String
  | number fault => fault.message
  | notAscii => "string argument should contain only ASCII characters"
  | overflow => "[<class 'decimal.Overflow'>]"
  | unrepresentable => "[<class 'decimal.InvalidOperation'>]"
  | beyondWord => "integer does not fit a machine word"
  | integerRequired kind => s!"Uint128 requires an int, got {kind}"
  | decimalRequired kind => s!"Decimal requires str, int or decimal.Decimal, got {kind}"
  | notConvertible kind => s!"conversion from {kind} to Decimal is not supported"
  | octetsRequired kind => s!"a bytes-like object is required, not '{kind}'"
  | parts flaw => flaw.text
  | integerOutOfRange value => s!"Uint128 out of range: {value}"
  | invalidDecimal literal => s!"Invalid decimal value: {literal}"
  | improperDecimal literal => s!"Decimal must be finite and non-negative: {literal}"
  | tooManyPlaces literal => s!"Decimal has more than 18 fractional digits: {literal}"
  | decimalTooLong => "decimal too long to be written out"
  | decimalOutOfRange literal => s!"Decimal out of range: {literal}"
  | noMoment fault => fault.text
  | beforeEpoch moment => s!"Timestamp before the epoch: {moment}"

end Rollout.Wire
