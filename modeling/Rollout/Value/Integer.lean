import Rollout.Number.Numeral
import Rollout.Value

/-!
# Values as integers

The integer that a value is taken for: truth values count, floating-point numbers lose their
fraction, and texts are read as numerals.
-/

set_option autoImplicit false

namespace Rollout

/-- Why a value cannot be taken for an integer. -/
inductive IntegerFault where
  | numeral (fault : Number.NumeralFault)
  | notANumber
  | infinite
  | kind (name : String)
deriving DecidableEq, Repr

def IntegerFault.message : IntegerFault → String
  | numeral fault => fault.message
  | notANumber => "cannot convert float NaN to integer"
  | infinite => "cannot convert float infinity to integer"
  | kind name =>
      "int() argument must be a string, a bytes-like object or a real number, not " ++
        s!"'{name}'"

/-- The integer that a value is taken for. -/
def Value.toInteger : Value → Except IntegerFault Int
  | .int value => .ok value
  | .bool value => .ok (if value then 1 else 0)
  | .float value =>
      match value with
      | .nan => .error .notANumber
      | number =>
          match number.truncate? with
          | some whole => .ok whole
          | none => .error .infinite
  | .text value => (Number.readInt value).mapError .numeral
  | value => .error (.kind value.kindName)

end Rollout
