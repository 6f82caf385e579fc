import Rollout.Number.Numeral
import Rollout.Value

/-!
# Quoted values

What is said of a value quotes it by its literal. A value that holds an integer with too many digits
to be written cannot be quoted, however deep it lies.
-/

set_option autoImplicit false

namespace Rollout

open Rollout.Number

def Scalar.isQuotable : Scalar → Bool
  | .int value => isWritable value
  | _ => true

namespace Value

mutual

/-- Whether every integer in a value can be written. -/
def isQuotable : Value → Bool
  | scalar value => value.isQuotable
  | list items => itemsQuotable items
  | object fields => fieldsQuotable fields
termination_by structural value => value

def itemsQuotable : List Value → Bool
  | [] => true
  | item :: rest => item.isQuotable && itemsQuotable rest
termination_by structural items => items

def fieldsQuotable : List (String × Value) → Bool
  | [] => true
  | (_, value) :: rest => value.isQuotable && fieldsQuotable rest
termination_by structural fields => fields

end

/-- A text that is made of a value, if the value can be quoted. -/
def quoting (value : Value) (text : String) : Except NumeralFault String :=
  if value.isQuotable then .ok text else .error .unwritable

def quote (value : Value) : Except NumeralFault String :=
  value.quoting value.literal

end Value

end Rollout
