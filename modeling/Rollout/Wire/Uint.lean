import Rollout.Value.Quoting
import Rollout.Wire.Fault

/-!
# Unsigned integers as text

Contracts take wide integers as decimal text, so that no reader of numbers loses digits.
-/

set_option autoImplicit false

namespace Rollout.Wire

def maxUint64 : Nat := Nat.pow 2 64 - 1

def maxUint128 : Nat := Nat.pow 2 128 - 1

/-- A text without one line feed at its end. -/
def withoutFinalNewline (text : List Char) : List Char :=
  if text.getLast? = some '\n' then text.dropLast else text

/-- Whether a text is ASCII digits, at least one, before at most one line feed. -/
def isUintText (text : String) : Bool :=
  let body := withoutFinalNewline text.toList
  !body.isEmpty && body.all Char.isDigit

/-- Writes an integer of at most 128 bits. Truth values are not integers here. -/
def encodeUint128 (value : Value) : Except Fault String :=
  match value with
  | .int value =>
      if 0 ≤ value ∧ value ≤ maxUint128 then .ok (toString value)
      else if Number.isWritable value then .error (.integerOutOfRange value)
      else .error (.number .unwritable)
  | _ => .error (.integerRequired value.kindName)

end Rollout.Wire
