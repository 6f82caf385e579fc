import Rollout.Number.Binary64.Printer
import Rollout.Text.Quoted

/-!
# Values

The data that messages, plans and registries are made of: scalars, lists, and objects whose
fields keep their order. An integer and a floating-point number are different values even where
they are equal as numbers.
-/

set_option autoImplicit false

namespace Rollout

open Rollout.Number

/-- A value without parts. -/
inductive Scalar where
  | null
  | bool (value : Bool)
  | int (value : Int)
  | float (value : Binary64)
  | text (value : String)
deriving DecidableEq, Repr

/-- A value. -/
inductive Value where
  | scalar (value : Scalar)
  | list (items : List Value)
  | object (fields : List (String × Value))
deriving Repr

namespace Scalar

/-- The representative of the scalars that name the same thing: truth values and whole
floating-point numbers stand for integers. -/
def key : Scalar → Scalar
  | bool value => int (if value then 1 else 0)
  | float value => (value.toInt?.map int).getD (float value)
  | scalar => scalar

/-- Whether two scalars name the same thing. -/
def sameName (left right : Scalar) : Bool :=
  left.key == right.key

/-- Whether a scalar counts as present: null, false, zero and the empty text do not. -/
def isTruthy : Scalar → Bool
  | null => false
  | bool value => value
  | int value => value != 0
  | float value => !value.isZero
  | text value => value != ""

/-- The literal of a scalar: a text is quoted. -/
def literal : Scalar → String
  | null => "None"
  | bool value => if value then "True" else "False"
  | int value => toString value
  | float value => value.print
  | text value => Text.quoted value

/-- A scalar as running text: a text stands as it is. -/
def display : Scalar → String
  | text value => value
  | scalar => scalar.literal

def text? : Scalar → Option String
  | text value => some value
  | _ => none

/-- The name of the kind of a scalar. -/
def kindName : Scalar → String
  | null => "NoneType"
  | bool _ => "bool"
  | int _ => "int"
  | float _ => "float"
  | text _ => "str"

end Scalar

namespace Value

@[match_pattern] abbrev null : Value := scalar .null

@[match_pattern] abbrev bool (value : Bool) : Value := scalar (.bool value)

@[match_pattern] abbrev int (value : Int) : Value := scalar (.int value)

@[match_pattern] abbrev float (value : Binary64) : Value := scalar (.float value)

@[match_pattern] abbrev text (value : String) : Value := scalar (.text value)

def isNull : Value → Bool
  | null => true
  | _ => false

/-- Whether a value counts as present: empty lists and objects do not. -/
def isTruthy : Value → Bool
  | scalar value => value.isTruthy
  | list items => !items.isEmpty
  | object fields => !fields.isEmpty

/-- The first value if it is present, else the second. -/
def orElse (first second : Value) : Value :=
  if first.isTruthy then first else second

/-- The scalar that a value is, if it has no parts. -/
def scalar? : Value → Option Scalar
  | scalar value => some value
  | _ => none

def text? : Value → Option String
  | text value => some value
  | _ => none

def fields? : Value → Option (List (String × Value))
  | object fields => some fields
  | _ => none

def items? : Value → Option (List Value)
  | list items => some items
  | _ => none

/-- The name of the kind of a value. -/
def kindName : Value → String
  | scalar value => value.kindName
  | list _ => "list"
  | object _ => "dict"

mutual

def literal : Value → String
  | scalar value => value.literal
  | list items => "[" ++ ", ".intercalate (itemLiterals items) ++ "]"
  | object fields => "\x7b" ++ ", ".intercalate (fieldLiterals fields) ++ "\x7d"
termination_by structural value => value

/-- The literals of the items of a list. -/
def itemLiterals : List Value → List String
  | [] => []
  | item :: rest => item.literal :: itemLiterals rest
termination_by structural items => items

/-- The literals of the fields of an object, each behind its quoted key. -/
def fieldLiterals : List (String × Value) → List String
  | [] => []
  | (key, value) :: rest => (Text.quoted key ++ ": " ++ value.literal) :: fieldLiterals rest
termination_by structural fields => fields

end

/-- A value as running text: only a text differs from its literal. -/
def display : Value → String
  | scalar value => value.display
  | value => value.literal

/-- The value of a field, with a default where the field is missing. -/
def field (fields : List (String × Value)) (key : String) (default : Value) : Value :=
  (fields.lookup key).getD default

/-- The value of a field, null where the field is missing. -/
def fieldOrNull (fields : List (String × Value)) (key : String) : Value :=
  field fields key null

end Value

/-- Sets a field: an existing key keeps its place and takes the new value, a new one comes last. -/
def setField {α : Type} (key : String) (value : α) : List (String × α) → List (String × α)
  | [] => [(key, value)]
  | (existing, old) :: rest =>
      if existing = key then (key, value) :: rest
      else (existing, old) :: setField key value rest

end Rollout
